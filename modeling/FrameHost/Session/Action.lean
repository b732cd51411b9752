import FrameHost.Frame.Look
import FrameHost.Host.Calls
import FrameHost.Page.Basic

/-!
# Actions

The operations of a session. Frames, buses and calls go by the names that the session gives them; a
node can be named by the frame that it belongs to. Host code consists of the same operations.
-/

namespace FrameHost

open Json (Value)

/-- A node, by its number or by the frame that has it. -/
inductive NodeName where
  | node (n : NodeId)
  | iframeOf (frame : String)
  | loaderOf (frame : String)
deriving Repr

/-- A cache, by its number or by the frame that uses it. -/
inductive CacheName where
  | spare
  | shared
  | frame (name : String)
deriving Repr

/-- What a reply is read as. -/
inductive ReplyShape where
  | strings
  | signed64
  | boolean
  | user
  | any
deriving DecidableEq, Repr

/-- What gets the reply to a call over a bus of the session's own. -/
inductive Receiver where
  | callback (cb : Callback)
  /-- A call that is kept under a name. -/
  | call (name : String)
  | ignore
deriving Repr

/-- A configuration as an operation gets it: it may be no configuration. -/
abbrev Configuration := Except Error Config

/-- An operation on the page. -/
inductive PageAction where
  | insert (domId className : String)
  | createIframe (domId src : String) (style : Style)
  | createLoader (domId : String) (style : Style)
  | createContainer (domId : String) (style : Style) (children : List NodeId)
  | createPlaceholder (domId className text : String)
  | replace (old new : NodeName)
  | remove (node : NodeName)
  | setStyle (node : NodeName) (style : Style)
  | showDocument (node : NodeName) (html : String)
  | onLoad (node : NodeName) (cb : Callback)
  | fireLoad (node : NodeName)
  | afterPaint (cb : Callback)
  | flushPaint
  | addListener (cb : Callback)
  | removeListener (id : ListenerId)
  | dispatch (origin : String) (data : Value)
  /-- Dispatches a payload as text, from the origin of the page. -/
  | dispatchJson (payload : Value)
  | post (node : NodeName) (payload origin : String)
  | find (domId : String)
  | element (domId : String)
  | node (node : NodeName)
  | className (node : NodeName)
  | hostOrigin
  | dom

/-- An operation on a frame. -/
inductive FrameAction where
  /-- Mounts the registered frame that the configuration names. -/
  | openFrame (name : String) (mode : Option Mode) (config : Configuration)
  /-- Makes a frame that stands alone. -/
  | newFrame (name : String) (checks : Bool)
  | mount (frame : String) (config : Configuration)
  | destroy (frame : String)
  | showContent (frame : String)
  | configure (frame : String) (config : Configuration) (call : String)
  | getConfig (frame : String)
  | handlers (frame : String)
  | handle (frame : String) (data : Value)
  | call (frame : String) (method : Method) (call : String)
  | callByName (frame method : String) (params : Option Value) (cb : Callback)
  | registerCommand (frame command : String) (cb : Callback)
  | hasCommand (frame command : String)
  | same (frame other : String)
  | forget (frame : String)
  /-- The names of a registered frame. -/
  | namesOf (frameId : String)

/-- An operation on a call, or on a check of the allow-list. -/
inductive CallAction where
  | poll (call : String)
  | pollAs (call : String) (shape : ReplyShape)
  | settled (call : String) (answer : Except Error Value)
  | drop (call : String)
  | check (frame call : String)
  | setGate (isOpen : Bool)
  | settle

/-- An operation on a cache. -/
inductive CacheAction where
  | path (config : Configuration) (build : String)
  | iframe (config : Configuration) (look : Style)
  | loader (config : Configuration) (look : Look.Loader)
  | forget (frameId : String)
  | has (config : Configuration)
  | count

/-- An operation on a bus of the session's own. -/
inductive BusAction where
  | make
  | attach (frameId : String) (node : NodeName) (origin : String)
  | connect
  | reset
  | execute (method : String) (data : Option Value) (receiver : Receiver)
  | reply (data : Option Value)

/-- An operation of a session. -/
inductive Action where
  | page (a : PageAction)
  | frame (a : FrameAction)
  | call (a : CallAction)
  | cache (name : CacheName) (a : CacheAction)
  | bus (name : String) (a : BusAction)
  /-- An operation that there is not. -/
  | unknown (name : String)

instance : Inhabited Action := ⟨.unknown ""⟩

/-- Whether an operation delivers a message to every listener. -/
def Action.isDispatch : Action → Bool
  | .page (.dispatch _ _) | .page (.dispatchJson _) => true
  | _ => false

end FrameHost
