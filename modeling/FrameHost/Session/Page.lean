import FrameHost.Session.Basic

/-!
# Operations on the page

Loading, painting and messages call what waits for them in the order in which it was added.
-/

namespace FrameHost.Session

open Json (Value)

/-- The session with a page that has one more node, whose number is the answer. -/
def created (s : Session) (made : Page × NodeId) : Session :=
  (s.withPage made.1).reply (.node (some made.2))

/-- The session with another page. -/
def changed (s : Session) (p : Page) : Session := (s.withPage p).reply .done

/-- The attached node with a DOM id. -/
def element? (s : Session) (domId : String) : Option Node :=
  (s.host.page.find? domId).bind s.host.page.node?

/-- Delivers a message to every listener. -/
def dispatch (s : Session) (origin : String) (data : Value) : Session :=
  -- The listeners of this moment: what is added or removed meanwhile makes no difference.
  s.push (s.host.page.listeners.values.map (fun l => .deliver l origin data) ++ [.reply .done])

/-- Fires the load event of an iframe. -/
def fireLoad (s : Session) (n : NodeId) : Session :=
  -- A hook fires once.
  let (hooks, page) := s.host.page.takeLoads n
  (s.withPage page).push (hooks.map .loaded ++ [.reply (.bool !hooks.isEmpty)])

/-- The greatest number of a node that is listed. -/
def listedNodes : Nat := 1000

/-- Carries out an operation on the page. -/
def actPage (s : Session) (a : PageAction) : Session :=
  let p := s.host.page
  match a with
  | .insert domId className => s.created (p.insertElement domId className)
  | .createIframe domId src style => s.created (p.createIframe domId src style)
  | .createLoader domId style => s.created (p.createLoader domId style)
  | .createContainer domId style children => s.created (p.createContainer domId style children)
  | .createPlaceholder domId className text => s.created (p.createPlaceholder domId className text)
  | .replace old new => s.changed (p.replace (s.nodeId old) (s.nodeId new))
  | .remove node => s.changed (p.remove (s.nodeId node))
  | .setStyle node style => s.changed (p.setStyle (s.nodeId node) style)
  | .showDocument node html => s.changed (p.showDocument (s.nodeId node) html)
  | .onLoad node cb => s.changed (p.onLoad (s.nodeId node) (.host cb))
  | .fireLoad node => s.fireLoad (s.nodeId node)
  | .afterPaint cb => s.changed (p.afterPaint (.host cb))
  | .flushPaint => s.push [.paint 0]
  | .addListener cb =>
    let (p, id) := p.addListener (.host cb)
    (s.withPage p).reply (.count id)
  | .removeListener id => s.changed (p.removeListener id)
  | .dispatch origin data => s.dispatch origin data
  | .dispatchJson payload => s.dispatch p.origin (.string payload.text)
  | .post node payload origin => s.changed (p.post ⟨s.nodeId node, payload, origin⟩)
  | .find domId => s.reply (.node (p.find? domId))
  | .element domId => s.reply (.element (s.element? domId))
  | .node node => s.reply (.element (p.node? (s.nodeId node)))
  | .className node => s.reply (.text (p.className (s.nodeId node)))
  | .hostOrigin => s.reply (.text p.origin)
  | .dom => s.reply (.elements (p.nodes.entries.filter fun row => row.1 ≤ listedNodes))

/-! ## Hooks -/

/-- Runs what waits for an iframe to load. -/
def runLoadHook (s : Session) : LoadHook → Session
  | .host cb => s.push [.invoke cb .null]
  | .connect f generation =>
    if s.isLive f then
      let (h, followups) := s.host.connect f generation
      (s.withHost h).follow f followups []
    else s

/-- Runs what waits for a paint. -/
def runPaintHook (s : Session) : PaintHook → Session
  | .host cb => s.push [.invoke cb .null]
  | .fade f generation loader =>
    if s.isLive f then s.withHost (s.host.fadeLoader f generation loader) else s
  | .retire f generation loader =>
    if s.isLive f then
      let (h, followups) := s.host.retireLoader f generation loader
      (s.withHost h).follow f followups []
    else s

/-- Runs the next hook on a paint, after `ran` of them; without one the painting is over. -/
def paint (s : Session) (ran : Nat) : Session :=
  match s.host.page.paints with
  | [] => s.reply (.count ran)
  | hook :: paints =>
    -- Hooks that are added meanwhile run as well.
    (s.withPage { s.host.page with paints }).push [.painted hook, .paint (ran + 1)]

/-- What host code gets to know about a message. -/
def messageValue (origin : String) (data : Value) : Value :=
  Value.ofMembers
    [("origin", .string origin),
      ("data", data),
      ("text", orNull (data.string?.map .string))]

/-- A message reaches a listener. -/
def deliver (s : Session) (l : Listener) (origin : String) (data : Value) : Session :=
  match l with
  | .host cb => s.push [.invoke cb (messageValue origin data)]
  | .frame f =>
    if s.isLive f then
      let (h, followups) := s.host.handle f data
      (s.withHost h).follow f followups []
    else s

end FrameHost.Session
