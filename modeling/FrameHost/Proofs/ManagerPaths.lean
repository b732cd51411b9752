import FrameHost.Proofs.Queries

/-!
# The path of the file manager

The path of the manager has the folder of the item ID in front of its `?` and the query behind it.
The query is encoded and reads back as what was asked for, whatever texts are in it. The ID in front
of the `?` is not encoded: it stands there as it is. So the path keeps its structure for the IDs
that a percent-encoded path writes as they are, those without `/`, `?`, `#` and escapes, and for no
others (`managerPath_keeps_structure_iff`): behind a `#` of the ID, for one, all the rest is a
fragment.
-/

namespace FrameHost.Config

open Json (Value)

/-! ## What the manager is asked for -/

/-- The place of the manager that the path begins with. -/
def root (c : Config) : String := (c.text? "rootPath").getD "/rooms/shared/"

/-- Whether a member of the filter is asked for: no null, no subfolders unless they are wanted, and
no folder if the item ID names one. -/
def asksFor (c : Config) : String × Value → Bool
  | (_, .null) => false
  | ("withSubfolders", v) => v.bool? = some true
  | ("folder", _) => c.id?.isNone
  | _ => true

/-- The text of a member that is asked for. -/
def memberText : Value → String
  | .string s => s
  | v => v.text

/-- What the query of the manager is to say. -/
def parameters (c : Config) : Query :=
  (c.requestToken?.map fun token => ("key", token)).toList ++
    (c.id?.map fun id => ("folder", id)).toList ++
    ((c.filter?.getD []).filter c.asksFor).map fun m => (m.1, memberText m.2)

/-- The filter asks for a member that is not null and that the frame's own folder does not replace.
-/
theorem asksFor_iff {c : Config} {m : String × Value} :
    c.asksFor m = true ↔ m.2 ≠ .null ∧ keepsMember c.id?.isSome m.1 m.2 = true := by
  fun_cases asksFor c m with
  | case1 => simp
  | case2 v hnull => simp_all [keepsMember]
  | case3 v hnull => cases c.id? <;> simp_all [keepsMember]
  | case4 m hnull hsub hfolder =>
    obtain ⟨key, v⟩ := m
    have hv : v ≠ .null := fun h => hnull key (h ▸ rfl)
    have hkey : key ≠ "withSubfolders" := fun h => hsub v (h ▸ rfl)
    have hkey' : key ≠ "folder" := fun h => hfolder v (h ▸ rfl)
    simp [keepsMember, hv, hkey, hkey']

/-- A member that is not null has a text in the query. -/
theorem queryText?_of_ne {v : Value} (hv : v ≠ .null) : queryText? v = some (memberText v) := by
  cases v with
  | null => exact absurd rfl hv
  | _ => rfl

/-- A member goes into the query exactly if it is asked for. -/
theorem member_eq (c : Config) (m : String × Value) :
    (if keepsMember c.id?.isSome m.1 m.2 then (queryText? m.2).map fun text => (m.1, text)
      else none) = if c.asksFor m then some (m.1, memberText m.2) else none := by
  by_cases hnull : m.2 = .null
  · have hasks : ¬ c.asksFor m = true := fun h => (asksFor_iff.mp h).1 hnull
    rw [if_neg hasks, hnull]
    exact ite_self _
  · rw [queryText?_of_ne hnull, Option.map_some]
    exact if_congr (asksFor_iff.trans (and_iff_right hnull)).symm rfl rfl

/-- The filter's part of the query: the members it asks for, with their texts. -/
theorem filterQuery_eq (c : Config) :
    c.filterQuery = ((c.filter?.getD []).filter c.asksFor).map fun m => (m.1, memberText m.2) := by
  rw [filterQuery]
  induction c.filter?.getD [] with
  | nil => rfl
  | cons m ms ih =>
    rw [List.filterMap_cons, member_eq, ih, List.filter_cons]
    cases c.asksFor m <;> rfl

/-- The manager's query tells the parameters as they are written. -/
theorem managerQuery_eq (c : Config) : c.managerQuery = c.parameters := by
  rw [managerQuery, filterQuery_eq, parameters]

/-! ## The structure of the path -/

/-- A path of the manager as it is to be read: the root, the folder, the only `?` and the query. -/
structure ManagerPath (c : Config) (folder query : List Char) : Prop where
  /-- The parts in order. -/
  parts : (c.path .manager).toList = c.root.toList ++ folder ++ '?' :: query
  /-- The folder is one segment for the item ID, and the filter page in it. -/
  names : match c.id? with
    | none => folder = []
    | some id => ∃ segment, folder = segment ++ "/filter".toList ∧ '/' ∉ segment ∧
        Text.percentDecode? segment = some id
  /-- The query begins at the only `?`. -/
  mark : '?' ∉ c.root.toList ++ folder ∧ '?' ∉ query
  /-- There is no fragment. -/
  fragment : '#' ∉ (c.path .manager).toList
  /-- The query says what is asked for. -/
  asks : Query.decode? query = some c.parameters

/-- A text that a percent-encoded path may hold as a segment of its own as it is. -/
structure IsSegment (text : List Char) : Prop where
  /-- It is one segment. -/
  slash : '/' ∉ text
  /-- No query begins in it. -/
  mark : '?' ∉ text
  /-- No fragment begins in it. -/
  fragment : '#' ∉ text
  /-- It decodes to itself. -/
  escape : ¬ HasEscape text

/-- What the path has between its root and its query: the ID as it is. -/
def folder (c : Config) : String := (c.id?.map fun id => id ++ "/filter").getD ""

/-- The manager's path: the root, the folder, a question mark and the query. -/
theorem toList_path (c : Config) :
    (c.path .manager).toList =
      c.root.toList ++ c.folder.toList ++ '?' :: c.managerQuery.encode.toList := by
  have hpath : c.path .manager = c.root ++ c.folder ++ "?" ++ c.managerQuery.encode := rfl
  have hmark : "?".toList = ['?'] := rfl
  rw [hpath, String.toList_append, String.toList_append, String.toList_append, hmark,
    List.append_assoc, List.singleton_append]

/-- A frame with an ID shows that folder's filter. -/
theorem folder_of_id? {c : Config} {id : String} (h : c.id? = some id) :
    c.folder.toList = id.toList ++ "/filter".toList := by
  rw [folder, h, Option.map_some, Option.getD_some, String.toList_append]

/-- The only `?` of a path cuts it into the parts that the path was made of. -/
theorem ManagerPath.folder_eq {c : Config} {folder query : List Char}
    (h : c.ManagerPath folder query) : folder = c.folder.toList := by
  have hparts : c.folder.toList ++ '?' :: c.managerQuery.encode.toList = folder ++ '?' :: query := by
    have hparts := h.parts
    rw [toList_path, List.append_assoc, List.append_assoc] at hparts
    exact List.append_cancel_left hparts
  obtain ⟨hfolder, hquery⟩ := h.mark
  rw [List.mem_append, not_or] at hfolder
  -- Counted on both sides, there is no room for a mark of the ID.
  have hown : '?' ∉ c.folder.toList := by
    have hcount := congrArg (List.count '?') hparts
    simp only [List.count_append, List.count_cons_self, List.count_eq_zero_of_not_mem hfolder.2,
      List.count_eq_zero_of_not_mem hquery] at hcount
    exact List.count_eq_zero.mp (by omega)
  have hcut := congrArg (Text.cut '?') hparts
  rw [Query.cut_append hown, Query.cut_append hfolder.2] at hcut
  exact (congrArg Prod.fst hcut).symm

/-- The segment of the ID is the ID itself, so it has to be as a segment is. -/
theorem ManagerPath.isSegment {c : Config} {folder query : List Char}
    (h : c.ManagerPath folder query) {id : String} (hid : c.id? = some id) :
    IsSegment id.toList := by
  have hfolder : folder = id.toList ++ "/filter".toList :=
    h.folder_eq.trans (folder_of_id? hid)
  have hnames := h.names
  rw [hid] at hnames
  -- The segment that names the folder can only be the text of its ID.
  obtain ⟨segment, hsegment, hslash, hdecode⟩ := hnames
  obtain rfl : segment = id.toList := List.append_cancel_right (hsegment.symm.trans hfolder)
  have hfragment := h.fragment
  rw [toList_path, folder_of_id? hid] at hfragment
  have hmark := h.mark.1
  rw [hfolder] at hmark
  simp only [List.mem_append, not_or] at hfragment hmark
  exact ⟨hslash, hmark.2.1, hfragment.1.2.1, (percentDecode?_self_iff id).mp hdecode⟩

/-- A manager path keeps its structure where the root and the ID do. -/
theorem managerPath_of_isSegment {c : Config} (hroot : ∀ ch ∈ ['?', '#'], ch ∉ c.root.toList)
    (hid : ∀ id, c.id? = some id → IsSegment id.toList) :
    c.ManagerPath c.folder.toList c.managerQuery.encode.toList := by
  -- The folder has no mark of a query, nor of a fragment.
  have hplain : '?' ∉ c.folder.toList ∧ '#' ∉ c.folder.toList := by
    cases h : c.id? with
    | none => simp [folder, h]
    | some id =>
      obtain ⟨-, hmark, hfragment, -⟩ := hid id h
      rw [folder_of_id? h]
      simp [hmark, hfragment]
  refine ⟨toList_path c, ?_, ?_, ?_, ?_⟩
  · cases h : c.id? with
    | none => simp [folder, h]
    | some id =>
      obtain ⟨hslash, -, -, hescape⟩ := hid id h
      exact ⟨id.toList, folder_of_id? h, hslash, (percentDecode?_self_iff id).mpr hescape⟩
  · rw [List.mem_append, not_or]
    exact ⟨⟨hroot '?' (by decide), hplain.1⟩, Query.not_mem_encode _ (by decide)⟩
  · rw [toList_path]
    simp only [List.mem_append, List.mem_cons, not_or]
    exact ⟨⟨hroot '#' (by decide), hplain.2⟩, by decide, Query.not_mem_encode _ (by decide)⟩
  · rw [Query.decode?_encode, managerQuery_eq]

/-- A path keeps its structure exactly if the item ID is written in it as an encoded one would be. -/
theorem exists_managerPath_iff {c : Config} (hroot : ∀ ch ∈ ['?', '#'], ch ∉ c.root.toList) :
    (∃ folder query, c.ManagerPath folder query) ↔ ∀ id, c.id? = some id → IsSegment id.toList :=
  ⟨fun ⟨_, _, h⟩ _ hid => h.isSegment hid, fun h => ⟨_, _, managerPath_of_isSegment hroot h⟩⟩

/-- For a root without query and fragment the manager's query reads back as what is asked for,
whatever texts that is, and the path as a whole is as it is to be read exactly if the item ID could
be the encoded form of itself. -/
theorem managerPath_keeps_structure_iff (c : Config)
    (hroot : ∀ ch ∈ ['?', '#'], ch ∉ c.root.toList) :
    (∃ query : String, c.path .manager = c.root ++ c.folder ++ "?" ++ query ∧
      (∀ ch ∈ ['?', '#'], ch ∉ query.toList) ∧ Query.decode? query.toList = some c.parameters) ∧
    ((∃ folder query, c.ManagerPath folder query) ↔
      ∀ id, c.id? = some id → IsSegment id.toList) := by
  refine ⟨⟨c.managerQuery.encode, rfl, ?_, ?_⟩, exists_managerPath_iff hroot⟩
  · exact fun ch hch => Query.not_mem_encode _ (List.mem_append_left ['/'] hch)
  · rw [Query.decode?_encode, managerQuery_eq]

/-- An ID with a per cent sign and a letter that is not ASCII, and a token of separators. -/
theorem managerPath_keeps_structure_percent :
    (∀ ch ∈ ['?', '#'], ch ∉ (ofFields [("id", .string "50% ü"),
      ("requestToken", .string "&=?#")]).root.toList) ∧
    ∃ folder query, (ofFields [("id", .string "50% ü"),
      ("requestToken", .string "&=?#")]).ManagerPath folder query := by
  have hroot : ∀ ch ∈ ['?', '#'], ch ∉ (ofFields [("id", .string "50% ü"),
      ("requestToken", .string "&=?#")]).root.toList :=
    List.all_iff_forall_prop.mp (by decide)
  refine ⟨hroot, (managerPath_keeps_structure_iff _ hroot).2.mpr fun id hid => ?_⟩
  obtain rfl : "50% ü" = id := Option.some.inj hid
  exact ⟨by decide, by decide, by decide, (percentDecode?_self_iff _).mp (by decide +kernel)⟩

/-- Behind the `#` of the ID the rest of the path is a fragment. -/
theorem managerPath_broken_by_id :
    (∀ ch ∈ ['?', '#'], ch ∉ (ofFields [("id", .string "a#b")]).root.toList) ∧
      ¬ ∃ folder query, (ofFields [("id", .string "a#b")]).ManagerPath folder query := by
  have hroot : ∀ ch ∈ ['?', '#'], ch ∉ (ofFields [("id", .string "a#b")]).root.toList :=
    List.all_iff_forall_prop.mp (by decide)
  refine ⟨hroot, fun h => ?_⟩
  have hsegment := (exists_managerPath_iff hroot).mp h "a#b" rfl
  exact hsegment.fragment (by decide)

end FrameHost.Config
