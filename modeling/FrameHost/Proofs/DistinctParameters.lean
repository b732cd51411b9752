import FrameHost.Proofs.ManagerPaths
import FrameHost.Proofs.ResourcePaths
import Mathlib.Data.List.TakeWhile

/-!
# Parameters that are given twice

A path ends with the query that the resolver writes for its mode, and this query is what the path is
read as (`ofPath?_path`). The names that the resolver gives itself are different ones. In the query
of the manager the members of the filter stand behind them. Their keys are different from each
other, and the folder is left out beside the one of the item ID. Nothing leaves out the key beside
the one of the request token: that is the one way for a parameter to be given twice
(`nodup_written_iff`).
-/

namespace FrameHost

open Json (Value)
open Text (cut)

/-! ## The query of a path -/

/-- What the query of a path says: what stands behind the first `?` and before a fragment. -/
def Query.ofPath? (path : List Char) : Option Query :=
  decode? ((cut '?' (cut '#' path).1).2.getD [])

/-- A text without the separator is not cut. -/
theorem Query.cut_of_not_mem {sep : Char} {cs : List Char} (h : sep ∉ cs) :
    cut sep cs = (cs, none) := by
  have hall : ∀ c ∈ cs, decide (c ≠ sep) = true := fun c hc =>
    decide_eq_true (ne_of_mem_of_not_mem hc h)
  have hspan : cs.span (· ≠ sep) = (cs, []) := by
    rw [List.span_eq_takeWhile_dropWhile, List.takeWhile_eq_self_iff.mpr hall,
      List.dropWhile_eq_nil_iff.mpr hall]
  rw [cut, hspan]

/-- Behind a text without `?` and `#` a query is read back as it was written. -/
theorem Query.ofPath?_append {front : List Char} (hfront : ∀ ch ∈ ['?', '#'], ch ∉ front)
    (q : Query) : ofPath? (front ++ '?' :: q.encode.toList) = some q := by
  have hfragment : '#' ∉ front ++ '?' :: q.encode.toList := by
    rw [List.mem_append, List.mem_cons, not_or, not_or]
    exact ⟨hfront '#' (by decide), by decide, q.not_mem_encode (by decide)⟩
  rw [ofPath?, cut_of_not_mem hfragment, cut_append (hfront '?' (by decide))]
  exact decode?_encode q

/-- Without `?` and `#` there is no query. -/
theorem Query.ofPath?_of_not_mem {path : List Char} (hpath : ∀ ch ∈ ['?', '#'], ch ∉ path) :
    ofPath? path = some [] := by
  rw [ofPath?, cut_of_not_mem (hpath '#' (by decide)), cut_of_not_mem (hpath '?' (by decide))]
  rfl

namespace Config

variable {c : Config} {m : Mode}

/-- The query that the resolver writes for a mode. -/
def written (c : Config) : Mode → Query
  | .manager => c.managerQuery
  | m => c.told m

/-- Outside the manager every parameter that is told is written. -/
theorem written_of_ne (hm : m ≠ .manager) : c.written m = c.told m := by
  cases m <;> first | rfl | exact absurd rfl hm

/-- The paths with a query have it at their end. -/
theorem exists_toList_path_eq (hm : m = .manager ∨ m.page?.isSome) (c : Config) :
    ∃ front, (c.path m).toList = front ++ '?' :: (c.written m).encode.toList := by
  cases m with
  | manager => exact ⟨_, toList_path c⟩
  | editor | viewer | fileSelector | publicRoom => exact ⟨_, toList_path_of_page rfl c⟩
  | roomSelector | system => simp [Mode.page?] at hm

/-- A path is read as the query that was written for it, unless the root or the item ID of the
manager begins a query or a fragment before. -/
theorem ofPath?_path
    (h : m = .manager → ∀ ch ∈ ['?', '#'], ch ∉ c.root.toList ++ c.folder.toList) :
    Query.ofPath? (c.path m).toList = some (c.written m) := by
  -- The page of a mode has no mark in it.
  have hpage : ∀ {m : Mode} {page : String}, m.page? = some page →
      Query.ofPath? (c.path m).toList = some (c.told m) := by
    intro m page hm
    have hfront : ∀ ch ∈ ['?', '#'], ch ∉ page.toList := by
      simpa using not_mem_page hm
    rw [toList_path_of_page hm, Query.ofPath?_append hfront]
  cases m with
  | manager => rw [toList_path, Query.ofPath?_append (h rfl), written]
  | editor | viewer | fileSelector | publicRoom => exact hpage rfl
  | roomSelector =>
    have hplain : ∀ ch ∈ ['?', '#'], ch ∉ "/sdk/room-selector".toList :=
      List.all_iff_forall_prop.mp (by decide)
    exact Query.ofPath?_of_not_mem hplain
  | system =>
    have hplain : ∀ ch ∈ ['?', '#'], ch ∉ "/sdk/system".toList :=
      List.all_iff_forall_prop.mp (by decide)
    exact Query.ofPath?_of_not_mem hplain

/-! ## Distinct names -/

/-- No parameter is told twice. -/
theorem nodup_told (c : Config) (m : Mode) : ((c.told m).map Prod.fst).Nodup := by
  unfold told document share
  cases m <;> cases c.requestToken? <;> simp

/-- The names in a manager query: the token's, the folder's, then the filter's. -/
theorem names_managerQuery (c : Config) :
    c.managerQuery.map Prod.fst = (c.requestToken?.map fun _ => "key").toList ++
      (c.id?.map fun _ => "folder").toList ++ c.filterQuery.map Prod.fst := by
  rw [managerQuery]
  cases c.requestToken? <;> cases c.id? <;> rfl

/-- The names of the members that are asked for are keys of the filter, in its order. -/
theorem names_filterQuery_sublist (c : Config) :
    (c.filterQuery.map Prod.fst).Sublist ((c.filter?.getD []).map Prod.fst) := by
  rw [filterQuery_eq, List.map_map]
  exact List.filter_sublist.map Prod.fst

/-- The filter writes the members that it asks for. -/
theorem mem_names_filterQuery {key : String} : key ∈ c.filterQuery.map Prod.fst ↔
    ∃ v, (key, v) ∈ c.filter?.getD [] ∧ c.asksFor (key, v) = true := by
  rw [filterQuery_eq, List.map_map]
  simp [and_comm]

/-- The filter leaves the folder out when the frame has an ID of its own to tell. -/
theorem folder_not_mem_names (hid : c.id?.isSome) : "folder" ∉ c.filterQuery.map Prod.fst := by
  rw [mem_names_filterQuery]
  rintro ⟨v, -, hasks⟩
  have hkeeps := (asksFor_iff.mp hasks).2
  simp [keepsMember, hid] at hkeeps

/-- The filter writes a second `key` when it has a member of that name that is not null. -/
theorem key_mem_names_iff : "key" ∈ c.filterQuery.map Prod.fst ↔
    ∃ v, ("key", v) ∈ c.filter?.getD [] ∧ v ≠ .null := by
  simp [mem_names_filterQuery, asksFor_iff, keepsMember]

/-- Of the names that the resolver gives itself, a filter can only give the key once more. -/
theorem nodup_managerQuery_iff (hfilter : ((c.filter?.getD []).map Prod.fst).Nodup) :
    (c.managerQuery.map Prod.fst).Nodup ↔
      (c.requestToken?.isSome → "key" ∉ c.filterQuery.map Prod.fst) := by
  -- No two members that are asked for have a name in common, so only the two names in front matter.
  have hnames := hfilter.sublist c.names_filterQuery_sublist
  have hfolder := c.folder_not_mem_names
  rw [names_managerQuery]
  cases c.requestToken? <;> cases hid : c.id? <;> simp_all

/-- The names in the query of a path are different ones, unless a filter with a key is laid beside a
request token. -/
theorem nodup_written_iff (hfilter : ((c.filter?.getD []).map Prod.fst).Nodup) :
    ((c.written m).map Prod.fst).Nodup ↔
      (m = .manager → c.requestToken?.isSome → ∀ v, ("key", v) ∈ c.filter?.getD [] → v = .null) := by
  by_cases hm : m = .manager
  · have hkey : "key" ∉ c.filterQuery.map Prod.fst ↔
        ∀ v, ("key", v) ∈ c.filter?.getD [] → v = .null := by
      rw [key_mem_names_iff]
      simp
    rw [hm, written, nodup_managerQuery_iff hfilter, hkey, forall_prop_of_true rfl]
  · rw [written_of_ne hm]
    exact iff_of_true (nodup_told c m) (fun h => absurd h hm)

/-- Where the filter is an object, so that its keys differ, the names in the query of a path differ
in every mode but the manager's, and in this one exactly if no key of the filter stands beside a
request token; a folder of the filter never stands beside an item ID. The query is the end of the
path, and all that the path is read as unless a root or an item ID with `?` or `#` is in front of
it. -/
theorem parameters_distinct_iff (c : Config) (m : Mode)
    (hfilter : ((c.filter?.getD []).map Prod.fst).Nodup) :
    (m = .manager ∨ m.page?.isSome →
      ∃ front, (c.path m).toList = front ++ '?' :: (c.written m).encode.toList) ∧
    ((m = .manager → ∀ ch ∈ ['?', '#'], ch ∉ c.root.toList ++ c.folder.toList) →
      Query.ofPath? (c.path m).toList = some (c.written m)) ∧
    (((c.written m).map Prod.fst).Nodup ↔
      (m = .manager → c.requestToken?.isSome → ∀ v, ("key", v) ∈ c.filter?.getD [] → v = .null)) ∧
    (c.id?.isSome → "folder" ∉ c.filterQuery.map Prod.fst) :=
  ⟨fun hm => exists_toList_path_eq hm c, ofPath?_path, nodup_written_iff hfilter,
    c.folder_not_mem_names⟩

/-- A folder that the filter has too, and a token without a key beside it. -/
theorem parameters_distinct_folder :
    (((ofFields [("id", .string "7"), ("requestToken", .string "t"), ("filter", .object
      [("folder", .string "8"), ("key", .null)])]).filter?.getD []).map Prod.fst).Nodup ∧
    (((ofFields [("id", .string "7"), ("requestToken", .string "t"), ("filter", .object
      [("folder", .string "8"), ("key", .null)])]).written .manager).map Prod.fst).Nodup := by
  have hfilter : (((ofFields [("id", .string "7"), ("requestToken", .string "t"), ("filter", .object
      [("folder", .string "8"), ("key", .null)])]).filter?.getD []).map Prod.fst).Nodup := by decide
  refine ⟨hfilter, (parameters_distinct_iff _ .manager hfilter).2.2.1.mpr fun _ _ v hv => ?_⟩
  have hmem : ("key", v) ∈ [("folder", Value.string "8"), ("key", Value.null)] := hv
  simpa using hmem

/-- The filter gives the key again that stands for the request token. -/
theorem key_given_twice :
    (((ofFields [("requestToken", .string "t"), ("filter", .object
      [("key", .string "x")])]).filter?.getD []).map Prod.fst).Nodup ∧
    Query.ofPath? ((ofFields [("requestToken", .string "t"), ("filter", .object
      [("key", .string "x")])]).path .manager).toList = some [("key", "t"), ("key", "x")] := by
  have hplain : ∀ ch ∈ ['?', '#'], ch ∉ (ofFields [("requestToken", .string "t"), ("filter", .object
      [("key", .string "x")])]).root.toList ++ (ofFields [("requestToken", .string "t"), ("filter",
      .object [("key", .string "x")])]).folder.toList :=
    List.all_iff_forall_prop.mp (by decide)
  exact ⟨by decide, ofPath?_path fun _ => hplain⟩

end Config

end FrameHost
