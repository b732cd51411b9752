import FrameHost.Json.Value

/-!
# Methods of the application

The calls that a host makes. Each has a name on the wire and a record of parameters.
-/

namespace FrameHost

open Json (Value)

/-- The parameters of a new room; only what is set is sent. -/
structure NewRoom where
  title : String
  roomType : Value
  quota : Option Int := none
  tags : Option (List String) := none
  color : Option String := none
  cover : Option Value := none
  indexing : Option Bool := none
  denyDownload : Option Bool := none
deriving Repr, Inhabited

/-- A call on the application. -/
inductive Method where
  | setConfig (config : Value)
  | getFolderInfo
  | getSelection
  | getFiles
  | getFolders
  | getList
  | getRooms (filter : Value)
  | getUserInfo
  | getHashSettings
  | createHash (password : String) (hashSettings : Value)
  | login (email passwordHash : String) (password : Option String) (session : Option Bool)
  | logout
  | createFile (folderId : Value) (title : String) (templateId formId : Option Value)
  | createFolder (parentFolderId : Value) (title : String)
  | createRoom (room : NewRoom)
  | createTag (name : String)
  | addTagsToRoom (roomId : Value) (tags : List String)
  | removeTagsFromRoom (roomId : Value) (tags : List String)
  | setListView (view : String)
  | openModal (kind : String) (options : Value)
  /-- Runs a function, given by its source text, inside the editor. -/
  | executeInEditor (callback : String) (data : Option Value)
  /-- A call that has no constructor of its own. -/
  | custom (name : String) (data : Option Value)
deriving Repr, Inhabited

/-- The only call that a disconnected bus lets through. -/
def configUpdate : String := "setConfig"

/-- A value that may be missing, as a parameter. -/
def orNull (v : Option Value) : Value := v.getD .null

/-- A list of texts, as a parameter. -/
def textsValue (texts : List String) : Value := .array (texts.map .string)

/-- The parameters of a new room. -/
def NewRoom.params (r : NewRoom) : Value :=
  Value.ofMembers <|
    [("title", .string r.title), ("roomType", r.roomType)] ++
      (r.quota.map fun n => ("quota", Value.int n)).toList ++
      (r.tags.map fun ts => ("tags", textsValue ts)).toList ++
      (r.color.map fun s => ("color", Value.string s)).toList ++
      (r.cover.map fun v => ("cover", v)).toList ++
      (r.indexing.map fun b => ("indexing", Value.bool b)).toList ++
      (r.denyDownload.map fun b => ("denyDownload", Value.bool b)).toList

namespace Method

/-- The name of a call on the wire. -/
def name : Method → String
  | setConfig _ => configUpdate
  | getFolderInfo => "getFolderInfo"
  | getSelection => "getSelection"
  | getFiles => "getFiles"
  | getFolders => "getFolders"
  | getList => "getList"
  | getRooms _ => "getRooms"
  | getUserInfo => "getUserInfo"
  | getHashSettings => "getHashSettings"
  | createHash _ _ => "createHash"
  | login _ _ _ _ => "login"
  | logout => "logout"
  | createFile _ _ _ _ => "createFile"
  | createFolder _ _ => "createFolder"
  | createRoom _ => "createRoom"
  | createTag _ => "createTag"
  | addTagsToRoom _ _ => "addTagsToRoom"
  | removeTagsFromRoom _ _ => "removeTagsFromRoom"
  | setListView _ => "setListView"
  | openModal _ _ => "openModal"
  | executeInEditor _ _ => "executeInEditor"
  | custom name _ => name

/-- The parameters of a call, if it has any. -/
def params : Method → Option Value
  | setConfig config => some config
  | getRooms filter => some (Value.ofMembers [("filter", filter)])
  | createHash password hashSettings =>
    some (Value.ofMembers [("password", .string password), ("hashSettings", hashSettings)])
  | login email passwordHash password session =>
    some (Value.ofMembers
      [("email", .string email),
        ("passwordHash", .string passwordHash),
        ("password", orNull (password.map .string)),
        ("session", orNull (session.map .bool))])
  | createFile folderId title templateId formId =>
    some (Value.ofMembers
      [("folderId", folderId),
        ("title", .string title),
        ("templateId", orNull templateId),
        ("formId", orNull formId)])
  | createFolder parentFolderId title =>
    some (Value.ofMembers [("parentFolderId", parentFolderId), ("title", .string title)])
  | createRoom room => some room.params
  | createTag name => some (Value.ofMembers [("name", .string name)])
  | addTagsToRoom roomId tags | removeTagsFromRoom roomId tags =>
    some (Value.ofMembers [("roomId", roomId), ("tags", textsValue tags)])
  | setListView view => some (Value.ofMembers [("type", .string view)])
  | openModal kind options => some (Value.ofMembers [("type", .string kind), ("options", options)])
  | executeInEditor callback data =>
    some (Value.ofMembers [("callback", .string callback), ("data", orNull data)])
  | custom _ data => data
  | _ => none

end Method

/-- A call as it is posted. -/
structure Task where
  /-- The kind of task; a call is a method. -/
  kind : String
  /-- The name of the call on the wire. -/
  method : String
  /-- Its parameters. -/
  data : Option Value
deriving Repr, Inhabited

namespace Task

/-- A call by its name on the wire. -/
def call (name : String) (data : Option Value) : Task := ⟨"method", name, data⟩

/-- The task of a method. -/
def ofMethod (m : Method) : Task := call m.name m.params

/-- Whether the task updates the configuration. -/
def isConfigUpdate (t : Task) : Bool := t.method == configUpdate

end Task

end FrameHost
