import FrameHost.Session.Buses
import FrameHost.Session.Calls
import FrameHost.Session.Frames
import FrameHost.Session.Page

/-!
# Carrying out a session

The first job of the agenda is done, then the next one, until there is none. Host code is a piece of
the agenda: its operations, each written down when it is done, then its panic if it panics. A panic
drops jobs up to the next fence. Without one it ends the operation that the session began with; what
host code does on the way is no boundary.

A piece of host code carries out its operations on its first call only (`invoke` takes its script
away). So a session ends whatever its host code is, also code that leads to its own call.
-/

namespace FrameHost

open Json (Value)

namespace Session

/-! ## Jobs -/

/-- Carries out an operation. -/
def act (s : Session) (nested : Bool) (a : Action) : Session :=
  match a with
  | .page a => s.actPage a
  | .frame a => s.actFrame a
  | .call a => s.actCall nested a
  | .cache name a => s.actCache name a
  | .bus name a => s.actBus name a
  | .unknown name => s.refuse (.unknown name)

/-- What a piece of host code does when it is called: its operations, once. -/
def script (s : Session) (cb : Callback) : List Job :=
  (((s.scripts[cb.script]?).getD []).flatMap fun a => [.act true a, .note cb.tag]) ++
    if cb.panics then [.raise] else []

/-- Calls host code. Its script is used up: only the first call carries it out. -/
def invoke (s : Session) (cb : Callback) (v : Value) : Session :=
  let jobs := s.script cb
  ({ s.record (.called cb.tag v) with scripts := s.scripts.set cb.script [] }).push jobs

/-- Drops the jobs that a panic drops, and says so if these are all of them. -/
def unwind (s : Session) : List Job → Session
  | [] => { s with agenda := [], answer := .panic }
  -- Whoever called the host code goes on as if it had returned.
  | .fence :: jobs => { s with agenda := jobs }
  | _ :: jobs => s.unwind jobs

/-- Does what an operation on the host has left to be done. -/
def runFollowup (s : Session) (x : Followup) : Session :=
  match x with
  | .invoke cb v => s.push [.invoke cb v, .fence]
  | .showContent f =>
    let (h, followups) := s.host.showContent f
    (s.withHost h).follow f followups []
  | .postNext r => s.withHost (s.host.postNext r)

/-- Does a job. -/
def perform (s : Session) : Job → Session
  | .act nested a => s.act nested a
  | .note tag => s.record (.answered tag s.answer)
  | .raise => s.unwind s.agenda
  | .fence => s
  | .invoke cb v => s.invoke cb v
  | .follow x => s.runFollowup x
  | .hold _ => s
  | .loaded hook => s.runLoadHook hook
  | .paint ran => s.paint ran
  | .painted hook => s.runPaintHook hook
  | .deliver l origin data => s.deliver l origin data
  | .sweep start => s.sweep start
  | .keep name c => s.keep name (.call c)
  | .reply a => s.reply a

/-! ## Runs -/

/-- Does the first job of the agenda, if there is one. -/
def step (s : Session) : Session :=
  match s.agenda with
  | [] => s
  | job :: jobs => { s with agenda := jobs }.perform job

/-- Does jobs until there are none, at most so many. -/
def run : Nat → Session → Session
  | 0, s => s
  | n + 1, s =>
    match s.agenda with
    | [] => s
    | _ :: _ => run n s.step

/-- The number of operations that host code may still carry out. -/
def scripted (s : Session) : Nat := s.scripts.flatten.length

/-- The number of things that an operation may lead to a job for. -/
def size (s : Session) : Nat :=
  s.host.page.lastId + s.host.page.paints.length + s.host.checks.length +
    s.host.page.loads.values.flatten.length

/-- More steps than an operation takes. Host code carries out each of its operations once, and every
operation leads to a bounded number of jobs for each thing that is there or that one of these
operations has added. -/
def budget (s : Session) : Nat := 32 * (s.scripted + 2) * (s.size + 4 * s.scripted + 4)

/-- Carries out an operation with everything that follows from it. -/
def carryOut (s : Session) (a : Action) : Session :=
  let s := { s with agenda := [.act false a], answer := .done }
  s.run s.budget

end Session

end FrameHost
