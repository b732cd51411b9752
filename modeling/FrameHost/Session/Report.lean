import FrameHost.Session.Machine

/-!
# Reports

What a session tells about each operation: its answer, what was written down and posted meanwhile,
and how the frames and buses stand afterwards.
-/

namespace FrameHost

/-- How a frame stands. -/
structure FrameReport where
  frameId : String
  phase : Phase
  connected : Bool
  pending : Nat
  queued : Nat
  iframe : Option NodeId
  loader : Option NodeId

/-- How a frame stands. -/
def Frame.report (f : Frame) : FrameReport where
  frameId := f.frameId
  phase := f.phase
  connected := f.bus.connected
  pending := f.bus.pending.length
  queued := f.bus.deferred.length
  iframe := f.iframe?
  loader := f.loader?

/-- How a session stands. -/
structure SessionReport where
  /-- The frames, by name. -/
  frames : List (String × FrameReport)
  /-- The buses of the session's own, by name. -/
  buses : List (String × Bus)
  /-- The IDs of the registered frames, in order. -/
  registered : List String
  listeners : Nat
  /-- The number of hooks that wait for a paint. -/
  paints : Nat

/-- What a session tells about an operation. -/
structure Report where
  answer : Answer
  records : List Record
  posted : List Posted
  state : SessionReport

/-- The name of the call that a posted message makes, if it makes one. -/
def Posted.method? (m : Posted) : Option String :=
  match Json.Value.parse m.payload with
  | .error _ => none
  | .ok v => ((v.field? "data").bind fun task => task.field? "methodName").bind Json.Value.string?

namespace Session

/-- How a session stands. -/
def state (s : Session) : SessionReport where
  frames :=
    s.frames.entries.filterMap fun row =>
      (s.host.frame? row.2).map fun frame => (row.1, frame.report)
  buses :=
    s.buses.entries.filterMap fun row => (s.host.buses[row.2]?).map fun bus => (row.1, bus)
  registered := s.host.registry.keys.mergeSort fun a b => decide (a ≤ b)
  listeners := s.host.page.listeners.size
  paints := s.host.page.paints.length

/-- What a record is ordered by among those of several listeners: host code goes together with its
operations. -/
def recordKey (r : Record) : String := String.ofList (r.tag.toList.dropWhile (· = '>'))

/-- The records of an operation. Listeners have no order, so the records of several are listed by
their tags. -/
def orderRecords (severalListeners : Bool) (rs : List Record) : List Record :=
  if severalListeners then rs.mergeSort fun a b => decide (recordKey a ≤ recordKey b) else rs

/-- The session with nothing to tell. -/
def cleared (s : Session) : Session :=
  { s.withPage { s.host.page with posted := [] } with records := [], agenda := [] }

/-- Carries out an operation and tells about it. -/
def tell (s : Session) (a : Action) : Report × Session :=
  let several := a.isDispatch && 1 < s.host.page.listeners.size
  let s := s.carryOut a
  ({ answer := s.answer
     records := orderRecords several s.records
     posted := s.host.page.posted
     state := s.state },
    s.cleared)

/-- Carries out operations one after the other. -/
def tellAll : List Action → Session → List Report
  | [], _ => []
  | a :: as, s =>
    let (r, s) := s.tell a
    r :: tellAll as s

/-- A session on an empty page. -/
def start (origin : String) (allowList : Option AllowList) (defaults : Config) (runtime : Bool)
    (scripts : List (List Action)) : Session where
  host :=
    { page := { origin }
      defaults
      allowList
      gateOpen := !(allowList.map AllowList.gated).getD false
      runtime }
  scripts

end Session

end FrameHost
