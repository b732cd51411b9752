import FrameHost.Page.Node

/-!
# Pages

The page that frames live on, as a value: its nodes, the hooks that wait for something to happen,
and the messages that were posted. Nodes are never forgotten; those that are shown are attached.
-/

namespace FrameHost

/-- A page of the host. -/
structure Page where
  /-- The origin of the page. -/
  origin : String
  /-- The number given to a node or listener last. -/
  lastId : Nat := 0
  /-- Every node ever made, in the order in which they were made. -/
  nodes : Table NodeId Node := Table.empty
  /-- What waits for iframes to load. -/
  loads : Table NodeId (List LoadHook) := Table.empty
  /-- What waits for the next paint, the oldest first. -/
  paints : List PaintHook := []
  /-- What gets messages. -/
  listeners : Table ListenerId Listener := Table.empty
  /-- The messages posted and not yet taken, the oldest first. -/
  posted : List Posted := []
deriving Inhabited

namespace Page

/-! ## Looking at the page -/

/-- A node. -/
def node? (p : Page) (n : NodeId) : Option Node := p.nodes.get? n

/-- The attached node with a DOM id, the first made if there are several. -/
def find? (p : Page) (domId : String) : Option NodeId :=
  (p.nodes.entries.find? fun row => row.2.attached && row.2.domId == domId).map Prod.fst

/-- The class attribute of a node. -/
def className (p : Page) (n : NodeId) : String := ((p.node? n).map Node.className).getD ""

/-- The children of a node. -/
def childrenOf (p : Page) (n : NodeId) : List NodeId := ((p.node? n).map Node.children).getD []

/-! ## Making nodes -/

/-- The page with one more node, and the number of that node. -/
def add (p : Page) (node : Node) : Page × NodeId :=
  let id := p.lastId + 1
  ({ p with lastId := id, nodes := p.nodes.insert id node }, id)

/-- The page with a node passed through `f`. -/
def modify (p : Page) (n : NodeId) (f : Node → Node) : Page :=
  { p with nodes := p.nodes.modify n f }

/-- Adds an attached element of the host. -/
def insertElement (p : Page) (domId className : String) : Page × NodeId :=
  p.add { kind := .element, domId, className, attached := true }

/-- Makes an iframe that shows `src`. -/
def createIframe (p : Page) (domId src : String) (style : Style) : Page × NodeId :=
  p.add { kind := .iframe, domId, src := some src, style }

/-- Makes a loading indicator. -/
def createLoader (p : Page) (domId : String) (style : Style) : Page × NodeId :=
  p.add { kind := .loader, domId, style }

/-- Makes an element that shows a text. -/
def createPlaceholder (p : Page) (domId className text : String) : Page × NodeId :=
  p.add { kind := .element, domId, className, text }

/-- Makes a container around the given children. -/
def createContainer (p : Page) (domId : String) (style : Style) (children : List NodeId) :
    Page × NodeId :=
  let (p, id) := p.add { kind := .container, domId, style, children }
  -- A node that has a parent gets the new one.
  (children.foldl (fun p child => p.modify child fun node => { node with parent := some id }) p, id)

/-! ## Attaching and detaching -/

/-- A set of nodes with their children. -/
def withChildren (p : Page) (ns : List NodeId) : List NodeId :=
  (ns ++ ns.flatMap p.childrenOf).eraseDups

/-- The nodes reached from `ns` through children in at most the given number of steps. -/
def reached (p : Page) (ns : List NodeId) : (steps : Nat) → List NodeId
  | 0 => ns
  | steps + 1 => p.reached (p.withChildren ns) steps

/-- The nodes of the subtree at `root`. -/
def subtree (p : Page) (root : NodeId) : List NodeId :=
  -- There are no more nodes than steps, so all of the subtree is reached.
  p.reached [root] p.nodes.size

/-- The page with the subtree at `root` attached or detached. -/
def setAttached (p : Page) (root : NodeId) (attached : Bool) : Page :=
  let tree := p.subtree root
  { p with nodes := p.nodes.map fun n node => if n ∈ tree then { node with attached } else node }

/-- The page with `new` in the place of `old`. -/
def replace (p : Page) (old new : NodeId) : Page :=
  -- In this order: the new node may have been under the old one.
  (p.setAttached old false).setAttached new true

/-- The page without a node. -/
def remove (p : Page) (n : NodeId) : Page :=
  let p := p.setAttached n false
  match (p.node? n).bind Node.parent with
  | none => p
  | some parent =>
    -- The container does not list the node any more.
    p.modify parent fun node => { node with children := node.children.filter (· ≠ n) }

/-- The page with declarations set on a node. -/
def setStyle (p : Page) (n : NodeId) (style : Style) : Page :=
  p.modify n fun node => { node with style := node.style.merged style }

/-- The page with a document written into an iframe. -/
def showDocument (p : Page) (n : NodeId) (html : String) : Page :=
  p.modify n fun node => { node with document := some html }

/-! ## Hooks and messages -/

/-- The page with one more hook on the loading of an iframe. -/
def onLoad (p : Page) (n : NodeId) (hook : LoadHook) : Page :=
  { p with loads := p.loads.insert n ((p.loads.get? n).getD [] ++ [hook]) }

/-- The hooks on the loading of an iframe, and the page without them. -/
def takeLoads (p : Page) (n : NodeId) : List LoadHook × Page :=
  ((p.loads.get? n).getD [], { p with loads := p.loads.erase n })

/-- The page with one more hook on the next paint. -/
def afterPaint (p : Page) (hook : PaintHook) : Page := { p with paints := p.paints ++ [hook] }

/-- The page with one more listener, and its number. -/
def addListener (p : Page) (l : Listener) : Page × ListenerId :=
  -- Nodes and listeners are numbered together.
  let id := p.lastId + 1
  ({ p with lastId := id, listeners := p.listeners.insert id l }, id)

/-- The page without a listener. -/
def removeListener (p : Page) (id : ListenerId) : Page :=
  { p with listeners := p.listeners.erase id }

/-- The page without the listener that may be given. -/
def removeListener? (p : Page) : Option ListenerId → Page
  | none => p
  | some id => p.removeListener id

/-- The page with one more message posted. -/
def post (p : Page) (message : Posted) : Page := { p with posted := p.posted ++ [message] }

/-- The page with the message posted that may be given. -/
def post? (p : Page) : Option Posted → Page
  | none => p
  | some message => p.post message

end Page

end FrameHost
