import FrameHost.Callback
import FrameHost.Config.Mode
import FrameHost.Error
import FrameHost.Json.Printer
import FrameHost.Table

/-!
# Frame configurations

A configuration is a flat record of JSON fields and a handler for each of some events.
Configurations are laid over each other: the library's defaults, what the frame had before and what
the host asks for now. Each accessor falls back to a default when its field is missing or of the
wrong kind.
-/

namespace FrameHost

open Json (Value)

/-- The configuration of a frame. -/
structure Config where
  /-- The plain fields. -/
  fields : Table String Value
  /-- The host's handlers, by event name. -/
  handlers : Table String Callback
deriving Inhabited

namespace Config

/-- The frame ID of a configuration that names none. -/
def defaultFrameId : String := "ds-frame"

/-- The width or height of a configuration that names none. -/
def defaultDimension : String := "100%"

/-! ## Building -/

/-- The configuration without fields and handlers. -/
def empty : Config := ⟨Table.empty, Table.empty⟩

/-- The configuration with the given fields; the last value of a field wins. -/
def ofFields (rows : List (String × Value)) : Config := ⟨Table.ofList rows, Table.empty⟩

/-- The configuration that a JSON value writes. -/
def ofValue : Value → Except Error Config
  | .object ms => .ok (ofFields ms)
  | v => .error (.configNotObject v)

/-- The configuration with field `key` set. -/
def set (c : Config) (key : String) (v : Value) : Config :=
  { c with fields := c.fields.insert key v }

/-- The configuration with a handler for `event`. -/
def on (c : Config) (event : String) (handler : Callback) : Config :=
  { c with handlers := c.handlers.insert event handler }

/-- The library's own configuration, which lies under every other. -/
def defaults : Config :=
  ofFields
    [("frameId", .string defaultFrameId),
      ("mode", .string Mode.manager.name),
      ("width", .string defaultDimension),
      ("height", .string defaultDimension),
      ("type", .string Device.desktop.name),
      ("theme", .string "System"),
      ("locale", .null),
      ("rootPath", .string "/rooms/shared/"),
      ("requestToken", .null),
      ("id", .null),
      ("editorType", .string "desktop"),
      ("editorGoBack", .bool true),
      ("selectorType", .string "exceptPrivacyRoom"),
      ("showHeader", .bool false),
      ("showTitle", .bool true),
      ("showMenu", .bool false),
      ("showFilter", .bool false),
      ("viewAs", .string "row"),
      ("checkCSP", .bool true),
      ("waiting", .bool false),
      ("noLoader", .bool false),
      ("destroyText", .string ""),
      ("filter", Value.ofMembers
        [("count", .int 100),
          ("page", .int 1),
          ("sortorder", .string "descending"),
          ("sortby", .string "DateAndTime"),
          ("search", .string ""),
          ("withSubfolders", .bool false)]),
      ("keysForReload", .array
        [.string "src", .string "rootPath", .string "width", .string "height", .string "name",
          .string "type", .string "id", .string "mode", .string "editorType",
          .string "requestToken"])]

/-! ## Fields -/

/-- The value of a field. -/
def get? (c : Config) (key : String) : Option Value := c.fields.get? key

/-- The text of a field, unless it is empty. -/
def text? (c : Config) (key : String) : Option String :=
  ((c.get? key).bind Value.string?).filter (· ≠ "")

/-- The truth value of a field. -/
def flag (c : Config) (key : String) (default : Bool) : Bool :=
  ((c.get? key).bind Value.bool?).getD default

/-- The frame ID, which is also the DOM id of the frame's place on the page. -/
def frameId (c : Config) : String := (c.text? "frameId").getD defaultFrameId

/-- The origin of the application. -/
def src? (c : Config) : Option String := c.text? "src"

/-- The mode; an unknown name counts as none. -/
def mode (c : Config) : Mode := ((c.text? "mode").bind Mode.parse?).getD .manager

/-- The ID of the item that the frame shows; a number counts by its text. -/
def id? (c : Config) : Option String :=
  match c.get? "id" with
  | some (.string s) => if s = "" then none else some s
  | some (.number n) => some n.text
  | _ => none

/-- The width, as a CSS length. -/
def width (c : Config) : String := (c.text? "width").getD defaultDimension

/-- The height, as a CSS length. -/
def height (c : Config) : String := (c.text? "height").getD defaultDimension

/-- The device class. -/
def device (c : Config) : Device := ((c.text? "type").map Device.parse).getD .desktop

/-- The theme. -/
def theme (c : Config) : String := (c.text? "theme").getD "System"

/-- Whether the frame is shown without a loader. -/
def noLoader (c : Config) : Bool := c.flag "noLoader" false

/-- Whether the allow-list of the application is checked. -/
def checkCsp (c : Config) : Bool := c.flag "checkCSP" true

/-- The waiting flag. -/
def waiting (c : Config) : Bool := c.flag "waiting" false

/-- The text that takes the place of the frame when it is torn down. -/
def destroyText (c : Config) : String := (c.text? "destroyText").getD ""

/-- The token of a public link. -/
def requestToken? (c : Config) : Option String := c.text? "requestToken"

/-- The members of the list filter. -/
def filter? (c : Config) : Option (List (String × Value)) :=
  (c.get? "filter").bind Value.object?

/-- The fields whose change mounts the frame again. -/
def keysForReload (c : Config) : List String :=
  (((c.get? "keysForReload").bind Value.array?).getD []).filterMap Value.string?

/-- The handler of an event. -/
def handler? (c : Config) (event : String) : Option Callback := c.handlers.get? event

/-- The fields as a JSON object. -/
def toValue (c : Config) : Value := Value.ofMembers c.fields.entries

/-- Whether the frame is mounted with a loader in front of it. -/
def showsLoader (c : Config) : Bool := !c.noLoader && !c.mode.skipsLoader

/-! ## Laying one over another -/

/-- The configuration with the fields and handlers of `later` on top. -/
def merged (c later : Config) : Config :=
  ⟨c.fields.overlay later.fields, c.handlers.overlay later.handlers⟩

/-- Whether a field has the given value. -/
def holds (c : Config) (key : String) (v : Value) : Bool :=
  match c.get? key with
  | some w => w.same v
  | none => false

/-- The fields that `patch` would change. -/
def changedKeys (c patch : Config) : List String :=
  (patch.fields.entries.filter fun row => !c.holds row.1 row.2).map Prod.fst

/-- Whether `patch` would change a field that needs the frame to be mounted again. -/
def requiresReload (c patch : Config) : Bool :=
  (c.changedKeys patch).any fun key => c.keysForReload.contains key

end Config

end FrameHost
