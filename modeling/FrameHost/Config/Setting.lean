import FrameHost.Config.Basic

/-!
# Settings

The fields that a host sets by what they are for. A setting writes one field, or the two of a size.
-/

namespace FrameHost

open Json (Value)

/-- Something that a configuration says. -/
inductive Setting where
  | frameId (s : String)
  | src (s : String)
  | mode (m : Mode)
  | id (v : Value)
  | size (width height : String)
  | device (d : Device)
  | theme (s : String)
  | locale (s : String)
  | noLoader (b : Bool)
  | checkCsp (b : Bool)
  | waiting (b : Bool)
  | destroyText (s : String)
  | requestToken (s : String)
  | rootPath (s : String)
  | filter (v : Value)
  | viewAs (s : String)
  | editorType (s : String)
  | editorGoBack (b : Bool)
  | selectorType (s : String)
  | keysForReload (keys : List String)
  /-- Any field. -/
  | field (key : String) (v : Value)
deriving Repr

/-- The fields that a setting writes. -/
def Setting.fields : Setting → List (String × Value)
  | frameId s => [("frameId", .string s)]
  | src s => [("src", .string s)]
  | mode m => [("mode", .string m.name)]
  | id v => [("id", v)]
  | size width height => [("width", .string width), ("height", .string height)]
  | device d => [("type", .string d.name)]
  | theme s => [("theme", .string s)]
  | locale s => [("locale", .string s)]
  | noLoader b => [("noLoader", .bool b)]
  | checkCsp b => [("checkCSP", .bool b)]
  | waiting b => [("waiting", .bool b)]
  | destroyText s => [("destroyText", .string s)]
  | requestToken s => [("requestToken", .string s)]
  | rootPath s => [("rootPath", .string s)]
  | filter v => [("filter", v)]
  | viewAs s => [("viewAs", .string s)]
  | editorType s => [("editorType", .string s)]
  | editorGoBack b => [("editorGoBack", .bool b)]
  | selectorType s => [("selectorType", .string s)]
  | keysForReload keys => [("keysForReload", .array (keys.map .string))]
  | field key v => [(key, v)]

namespace Config

/-- The configuration with a setting made. -/
def apply (c : Config) (setting : Setting) : Config :=
  setting.fields.foldl (fun c field => c.set field.1 field.2) c

/-- A configuration from a JSON value, on top of the library's own if `onDefaults` says so, with
handlers. -/
def build (values : Option Value) (onDefaults : Bool) (handlers : List (String × Callback)) :
    Except Error Config :=
  let base : Except Error Config :=
    match values with
    | none => .ok empty
    | some v => ofValue v
  base.map fun c =>
    handlers.foldl (fun c h => c.on h.1 h.2) (if onDefaults then defaults.merged c else c)

end Config

end FrameHost
