/-!
# Modes, device classes and event names

The closed sets of names that a configuration draws on.
-/

namespace FrameHost

/-- What the application shows inside a frame. -/
inductive Mode where
  | manager
  | editor
  | viewer
  | roomSelector
  | fileSelector
  /-- An invisible frame for calls only. -/
  | system
  | publicRoom
deriving DecidableEq, Repr, Inhabited

namespace Mode

/-- Every mode. -/
def all : List Mode := [manager, editor, viewer, roomSelector, fileSelector, system, publicRoom]

/-- The name of a mode in a configuration. -/
def name : Mode → String
  | manager => "manager"
  | editor => "editor"
  | viewer => "viewer"
  | roomSelector => "room-selector"
  | fileSelector => "file-selector"
  | system => "system"
  | publicRoom => "public-room"

/-- The mode with a name. -/
def parse? (s : String) : Option Mode := all.find? fun m => m.name = s

/-- Whether frames of this mode are shown without a loader. -/
def skipsLoader : Mode → Bool
  | system => true
  | _ => false

end Mode

/-- The layout of a frame. -/
inductive Device where
  | desktop
  | mobile
deriving DecidableEq, Repr, Inhabited

namespace Device

/-- The name of a device class in a configuration. -/
def name : Device → String
  | desktop => "desktop"
  | mobile => "mobile"

/-- A text with its ASCII letters in lower case. -/
def lower (s : String) : String := s.map Char.toLower

/-- The device class with a name, whatever the case of its letters; desktop for any other name. -/
def parse (s : String) : Device := if lower s = "mobile" then mobile else desktop

/-- The device class whose name is spelled exactly so. -/
def named? (s : String) : Option Device := [desktop, mobile].find? fun d => d.name = s

end Device

namespace Event

/-- The host was refused something, or the application reports an error. -/
def appError : String := "onAppError"

/-- The loader is gone and the content can be seen. -/
def contentReady : String := "onContentReady"

/-- The names of the known events. -/
def known : List String :=
  ["onAppReady", appError, contentReady, "onSelectCallback", "onCloseCallback",
    "onEditorCloseCallback", "onAuthSuccess", "onSignOut", "onDownload", "onNoAccess"]

end Event

end FrameHost
