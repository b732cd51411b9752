import FrameHost.Session.Basic

/-!
# Operations on calls and checks

A call is asked for its answer until it has one; then its name is free again. A check of the
allow-list can be held like a call, and then moves only while it is asked; the checks that run by
themselves move in the order in which they were started.
-/

namespace FrameHost.Session

open Json (Value)

/-! ## Calls -/

/-- How a call that waits for its reply stands. -/
def waitingAnswer? (s : Session) (channel : ChannelId) : Option (Except Error Value) :=
  match s.host.replies.get? channel with
  | some v => some (.ok v)
  | none => if s.isAwaited channel then none else some (.error .channelClosed)

/-- The answer of a call, if it has one. -/
def callAnswer? (s : Session) : Call → Option (Except Error Value)
  | .waiting channel => s.waitingAnswer? channel
  | .settled (some r) => some r
  | .settled none => some (.error .polledAgain)

/-- Asks a call for its answer. A call that was answered when it was made keeps its name. -/
def pollCall (s : Session) (name : String) (c : Call) : Session :=
  match s.callAnswer? c with
  | none => s.reply .pending
  | some r =>
    let s := if c.isSettled then s.keep name (.call (.settled none)) else s.drop name
    s.reply (.result r)

/-- Asks a call for its answer and reads it as something; the call is dropped. -/
def pollCallAs (s : Session) (name : String) (c : Call) (shape : ReplyShape) : Session :=
  let s' := s.drop name
  match s.callAnswer? c with
  | none => s'.reply .dropped
  | some (.error e) => s'.reply (.error e)
  | some (.ok v) => s'.reply (.result ((shape.read v).mapError fun e => .json (.shape e)))

/-! ## Checks -/

/-- A check that was allowed to go on gets the allow-list. -/
def endCheck (s : Session) (c : Check) (rest : Except Error Unit → List Job) : Session :=
  let (result, h, followups) := s.host.endCheck c
  (s.withHost h).follow c.frame followups (rest result)

/-- Moves a check of a frame: `wait` says what becomes of it if it waits, `rest` what follows its
end. -/
def moveCheck (s : Session) (f : FrameRef) (state : CheckState) (wait : Session → Check → Session)
    (rest : Except Error Unit → List Job) : Session :=
  match state with
  | .ended => s.push (rest (.ok ()))
  | .fresh =>
    match s.host.check? f with
    | none => s.push (rest (.ok ()))
    | some c =>
      -- The application is asked at once, even if the answer has to wait.
      let s := s.record (.fetched c.src)
      if s.host.mustWait then wait s c else s.endCheck c rest
  | .waiting c => if s.host.mustWait then wait s c else s.endCheck c rest

/-- Asks a held check for its result. -/
def pollCheck (s : Session) (name : String) (f : FrameRef) (state : CheckState) : Session :=
  -- A check that ends has no name any more.
  (s.drop name).moveCheck f state
    (fun s c => (s.keep name (.check f (.waiting c))).reply .pending)
    (fun r => [.hold f, .reply (.outcome r)])

/-! ## Checks that run by themselves -/

/-- The session with the state of a check that runs by itself. -/
def setCheck (s : Session) (n : Nat) (state : CheckState) : Session :=
  s.withHost { s.host with checks := s.host.checks.modify n fun c => { c with state } }

/-- Whether a check that runs by itself can move. -/
def canMove (s : Session) (c : Spawned) : Bool :=
  match c.state with
  | .fresh => !c.aborted
  | .waiting _ => !c.aborted && !s.host.mustWait
  | .ended => false

/-- The first check from `start` on that can move. -/
def nextCheck? (s : Session) (start : Nat) : Option (Nat × Spawned) :=
  ((s.host.checks.zipIdx.drop start).find? fun row => s.canMove row.1).map fun row => (row.2, row.1)

/-- Ends the checks whose mounts are over. -/
def endAborted (s : Session) : Session :=
  s.withHost
    { s.host with
      checks := s.host.checks.map fun c => if c.aborted then { c with state := .ended } else c }

/-- Moves the next check that can move, from `start` on and then from the first one on again, until
none can. -/
def sweep (s : Session) (start : Nat) : Session :=
  match s.nextCheck? start with
  | some (n, c) =>
    let next := [Job.sweep (n + 1)]
    -- While the check moves it cannot be found again.
    let ended := s.setCheck n .ended
    -- A check that has yet to begin does not keep its frame in use.
    if c.state = .fresh && !s.isLive c.frame then ended.push next
    else
      ended.moveCheck c.frame c.state (fun s c => (s.setCheck n (.waiting c)).push next)
        (fun _ => next)
  | none => if start = 0 then s.endAborted.reply .done else s.push [.sweep 0]

/-- Runs the checks that run by themselves. -/
def settle (s : Session) : Session :=
  if s.host.runtime then s.endAborted.push [.sweep 0] else s.reply .done

/-! ## All of them -/

/-- Carries out an operation on a call, or on a check. -/
def actCall (s : Session) (nested : Bool) (a : CallAction) : Session :=
  match a with
  | .poll name =>
    match s.calls.get? name with
    | none => s.refuse .noCall
    | some (.call c) => s.pollCall name c
    | some (.check f state) => s.pollCheck name f state
  | .pollAs name shape =>
    match s.calls.get? name with
    | some (.call c) => s.pollCallAs name c shape
    | _ => (s.drop name).refuse .noCall
  | .settled name answer => (s.keep name (.call (.settled (some answer)))).reply .done
  | .drop name => (s.drop name).reply (.bool (s.calls.contains name))
  | .check name call => s.onFrame name fun f => (s.keep call (.check f .fresh)).reply .done
  | .setGate isOpen => (s.withHost { s.host with gateOpen := isOpen }).reply .done
  | .settle => if nested then s.refuse .nestedSettle else s.settle

end FrameHost.Session
