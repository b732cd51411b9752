import FrameHost.Callback
import FrameHost.Page.Style

/-!
# Nodes and hooks

What a page consists of, and what it calls when something happens on it. A hook is host code or one
of the steps by which a frame follows its own loading; such a step carries the generation of the
mount that it belongs to.
-/

namespace FrameHost

/-- A node, by the number under which the page knows it. -/
abbrev NodeId := Nat

/-- A message listener, by its number; nodes and listeners are numbered together. -/
abbrev ListenerId := Nat

/-- A node by name. -/
def nodeLabel (n : NodeId) : String := "node#" ++ toString n

/-- A message listener by name. -/
def listenerLabel (n : ListenerId) : String := "listener#" ++ toString n

/-- A frame, by its place in the list of frames ever made. -/
abbrev FrameRef := Nat

/-- The kind of a node. -/
inductive NodeKind where
  /-- An element of the host. -/
  | element
  | iframe
  | loader
  /-- The wrapper that takes the place of an element of the host. -/
  | container
deriving DecidableEq, Repr, Inhabited

/-- The name of a kind of node. -/
def NodeKind.name : NodeKind → String
  | element => "element"
  | iframe => "iframe"
  | loader => "loader"
  | container => "container"

/-- A node of a page. -/
structure Node where
  kind : NodeKind
  /-- The DOM id. -/
  domId : String
  /-- The class attribute. -/
  className : String := ""
  /-- The text inside. -/
  text : String := ""
  style : Style := Style.empty
  /-- The address of the document, for an iframe. -/
  src : Option String := none
  /-- The document written into an iframe. -/
  document : Option String := none
  children : List NodeId := []
  parent : Option NodeId := none
  /-- Whether the node is part of the page that is shown. -/
  attached : Bool := false
deriving DecidableEq, Inhabited

/-- What runs when an iframe has loaded. -/
inductive LoadHook where
  | host (cb : Callback)
  /-- The frame connects. -/
  | connect (frame : FrameRef) (generation : Nat)
deriving DecidableEq, Repr

/-- What runs after the next paint. -/
inductive PaintHook where
  | host (cb : Callback)
  /-- The loader fades out. -/
  | fade (frame : FrameRef) (generation : Nat) (loader : NodeId)
  /-- The loader goes. -/
  | retire (frame : FrameRef) (generation : Nat) (loader : NodeId)
deriving DecidableEq, Repr

/-- What gets the messages posted to the host's window. -/
inductive Listener where
  | host (cb : Callback)
  | frame (frame : FrameRef)
deriving DecidableEq, Repr

/-- A message posted into an iframe. -/
structure Posted where
  target : NodeId
  payload : String
  /-- The origin that the iframe must have to get the message. -/
  origin : String
deriving DecidableEq, Repr, Inhabited

end FrameHost
