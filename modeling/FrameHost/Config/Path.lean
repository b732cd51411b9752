import FrameHost.Config.Basic
import FrameHost.Text.Percent

/-!
# Resource paths

Where inside the application a frame begins: the path and query for a mode and a configuration,
relative to the origin of the application.
-/

namespace FrameHost

open Json (Value)
open Text (percentEncode)

/-! ## Queries -/

/-- A query: names with their values, in order. -/
abbrev Query := List (String × String)

/-- A query as text: each name and value percent-encoded, `&` between the pairs. -/
def Query.encode (q : Query) : String :=
  String.intercalate "&" (q.map fun p => percentEncode p.1 ++ "=" ++ percentEncode p.2)

/-- The text of a filter member in a query; null has none. -/
def queryText? : Value → Option String
  | .null => none
  | .string s => some s
  | v => some v.text

namespace Config

/-! ## Paths by mode -/

/-- Whether a filter member has a place in the query: subfolders only when asked for, and no folder
beside the one that the item ID names. -/
def keepsMember (hasId : Bool) (key : String) (v : Value) : Bool :=
  !(key == "withSubfolders" && v.bool? != some true) && !(key == "folder" && hasId)

/-- The members of the filter that go into the query. -/
def filterQuery (c : Config) : Query :=
  (c.filter?.getD []).filterMap fun m =>
    if keepsMember c.id?.isSome m.1 m.2 then (queryText? m.2).map fun text => (m.1, text) else none

/-- The query of the file manager. -/
def managerQuery (c : Config) : Query :=
  (c.requestToken?.map fun token => ("key", token)).toList ++
    (c.id?.map fun id => ("folder", id)).toList ++ c.filterQuery

/-- The path of the file manager. -/
def managerPath (c : Config) : String :=
  (c.text? "rootPath").getD "/rooms/shared/" ++
    (c.id?.map fun id => id ++ "/filter").getD "" ++ "?" ++ c.managerQuery.encode

/-- The query of the editor, or of the viewer. -/
def editorQuery (c : Config) (view : Bool) : Query :=
  [("fileId", c.id?.getD ""),
    ("editorType", (c.text? "editorType").getD "desktop"),
    ("editorGoBack", if c.flag "editorGoBack" true then "true" else "false")] ++
    (if view then [("action", "view")] else []) ++
    (c.requestToken?.map fun token => ("share", token)).toList

/-- The path of the editor, or of the viewer. -/
def editorPath (c : Config) (view : Bool) : String := "/doceditor?" ++ (c.editorQuery view).encode

/-- The path for a mode. -/
def path (c : Config) : Mode → String
  | .manager => c.managerPath
  | .editor => c.editorPath false
  | .viewer => c.editorPath true
  | .roomSelector => "/sdk/room-selector"
  | .fileSelector =>
    "/sdk/file-selector?" ++
      Query.encode [("selectorType", (c.text? "selectorType").getD "exceptPrivacyRoom")]
  | .system => "/sdk/system"
  | .publicRoom => "/rooms/share?" ++ Query.encode [("key", c.requestToken?.getD "")]

end Config

/-- A text without the slashes at its end. -/
def dropSlashes (s : String) : String :=
  String.ofList (s.toList.reverse.dropWhile (· = '/')).reverse

/-- The address of a path at an origin. -/
def frameUrl (src path : String) : String := dropSlashes src ++ path

end FrameHost
