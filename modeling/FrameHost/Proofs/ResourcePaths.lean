import FrameHost.Proofs.Queries

/-!
# What resource paths tell

The editor, the viewer, the file selector and a public room are pages of the application that are
told by a query what to show. A path is read by cutting it at its first `?` and reading the query
behind it. The pages have no `?` and every name and value is encoded, so what is read is what the
path was to tell (`readPath?_path`). It tells each value by itself: the path determines the values
(`path_eq_path_iff`), and a parameter changes with its own field only (`named_told_eq`).
-/

namespace FrameHost

open Json (Number Value)
open Text (cut)

/-- The page that a path names and the query behind its first `?`. -/
def Query.readPath? (path : List Char) : Option (List Char × Query) :=
  match cut '?' path with
  | (page, some text) => (decode? text).map fun q => (page, q)
  | (_, none) => none

/-- The pairs of a query with a name. -/
def Query.named (q : Query) (name : String) : Query := q.filter (·.1 = name)

/-- The page of a mode that has a fixed page and is told by a query what to show. -/
def Mode.page? : Mode → Option String
  | .editor | .viewer => some "/doceditor"
  | .fileSelector => some "/sdk/file-selector"
  | .publicRoom => some "/rooms/share"
  | .manager | .roomSelector | .system => none

/-- The field that a parameter of an editor tells; that a document is only viewed is no field. -/
def editorField? : String → Option String
  | "fileId" => some "id"
  | "editorType" => some "editorType"
  | "editorGoBack" => some "editorGoBack"
  | "share" => some "requestToken"
  | _ => none

/-- The field that a parameter of a mode tells. -/
def Mode.field? : Mode → String → Option String
  | .editor, name | .viewer, name => editorField? name
  | .fileSelector, "selectorType" => some "selectorType"
  | .publicRoom, "key" => some "requestToken"
  | _, _ => none

/-- No number has an empty text. -/
theorem Json.Number.text_ne_empty (n : Number) : n.text ≠ "" := by
  have hdigits : ∀ k, Nat.toDigits 10 k ≠ [] := fun _ => Nat.toDigits_ne_nil
  have hrender : n.render ≠ [] := by
    cases n with
    -- Digits are never nothing, and every other part has digits or a mark.
    | int m =>
      show renderInt m ≠ []
      unfold renderInt
      split
      · exact List.cons_ne_nil _ _
      · exact hdigits _
    | double x =>
      show renderDouble x ≠ []
      unfold renderDouble
      dsimp only
      refine List.append_ne_nil_of_right_ne_nil _ ?_
      split
      · exact List.cons_ne_nil _ _
      split
      · split
        · exact List.cons_ne_nil _ _
        · exact List.append_ne_nil_of_right_ne_nil _ (List.cons_ne_nil _ _)
      split
      · exact List.append_ne_nil_of_left_ne_nil (List.cons_ne_nil _ _) _
      · exact List.append_ne_nil_of_right_ne_nil _ (List.cons_ne_nil _ _)
  intro htext
  have hlist := congrArg String.toList htext
  rw [Number.text, String.toList_ofList] at hlist
  exact hrender hlist

namespace Config

variable {c c' : Config} {m m' : Mode}

/-! ## What is told -/

/-- The editor that a document is opened in. -/
def editorType (c : Config) : String := (c.text? "editorType").getD "desktop"

/-- Whether the editor has a way back. -/
def goBack (c : Config) : Bool := c.flag "editorGoBack" true

/-- What may be selected in the file selector. -/
def selectorType (c : Config) : String := (c.text? "selectorType").getD "exceptPrivacyRoom"

/-- The document that an editor is to open, and how. -/
def document (c : Config) : Query :=
  [("fileId", c.id?.getD ""), ("editorType", c.editorType),
    ("editorGoBack", if c.goBack then "true" else "false")]

/-- The token that a document is shared by. -/
def share (c : Config) : Query := (c.requestToken?.map fun token => ("share", token)).toList

/-- What the page of a mode is told. -/
def told (c : Config) : Mode → Query
  | .editor => c.document ++ c.share
  | .viewer => c.document ++ [("action", "view")] ++ c.share
  | .fileSelector => [("selectorType", c.selectorType)]
  | .publicRoom => [("key", c.requestToken?.getD "")]
  | .manager | .roomSelector | .system => []

/-- Whether the page of a mode is to show the same by two configurations. -/
def ShowsAlike (c c' : Config) : Mode → Prop
  | .editor | .viewer => c.id? = c'.id? ∧ c.editorType = c'.editorType ∧ c.goBack = c'.goBack ∧
      c.requestToken? = c'.requestToken?
  | .fileSelector => c.selectorType = c'.selectorType
  | .publicRoom => c.requestToken? = c'.requestToken?
  | .manager | .roomSelector | .system => True

/-! ## Reading a path -/

/-- The path of a page: its name, a question mark and the query. -/
theorem toList_path_of_page {page : String} (hm : m.page? = some page) (c : Config) :
    (c.path m).toList = page.toList ++ '?' :: (c.told m).encode.toList := by
  have hmark : "?".toList = ['?'] := rfl
  have hpath : c.path m = page ++ "?" ++ (c.told m).encode := by
    cases m <;> cases hm <;> rfl
  rw [hpath, String.toList_append, String.toList_append, hmark, List.append_assoc,
    List.singleton_append]

/-- The name of a page has neither a question mark nor a number sign. -/
theorem not_mem_page {page : String} (hm : m.page? = some page) :
    '?' ∉ page.toList ∧ '#' ∉ page.toList := by
  cases m <;> cases hm <;> decide

/-- What the page of a mode is told is what its path is read as. -/
theorem readPath?_path {page : String} (hm : m.page? = some page) (c : Config) :
    Query.readPath? (c.path m).toList = some (page.toList, c.told m) := by
  rw [Query.readPath?, toList_path_of_page hm, Query.cut_append (not_mem_page hm).1]
  dsimp only
  rw [Query.decode?_encode]
  rfl

/-- The path of a page has no number sign. -/
theorem fragment_not_mem_path {page : String} (hm : m.page? = some page) (c : Config) :
    '#' ∉ (c.path m).toList := by
  rw [toList_path_of_page hm, List.mem_append, List.mem_cons, not_or, not_or]
  exact ⟨(not_mem_page hm).2, by decide, Query.not_mem_encode _ (by decide)⟩

/-! ## What a path determines -/

/-- A text that is told is not empty. -/
theorem text?_ne_empty (c : Config) (key : String) : c.text? key ≠ some "" := by
  intro h
  have hne := (Option.filter_eq_some_iff.mp h).2
  simp at hne

/-- An ID that is told is not empty. -/
theorem id?_ne_empty (c : Config) : c.id? ≠ some "" := by
  intro h
  unfold id? at h
  split at h
  · split at h
    · cases h
    · next hs => exact hs (Option.some.inj h)
  · exact Number.text_ne_empty _ (Option.some.inj h)
  · cases h

/-- The empty text stands for a missing one. -/
theorem getD_empty_inj {a b : Option String} (ha : a ≠ some "") (hb : b ≠ some "") :
    a.getD "" = b.getD "" ↔ a = b := by
  cases a <;> cases b <;> simp_all [eq_comm]

/-- The document's parameters can be told from those after them. -/
theorem document_append_inj {q q' : Query} :
    c.document ++ q = c'.document ++ q' ↔ c.document = c'.document ∧ q = q' :=
  ⟨fun h => List.append_inj h rfl, fun ⟨hdocument, hq⟩ => by rw [hdocument, hq]⟩

/-- The document's parameters tell what they are made from. -/
theorem document_inj : c.document = c'.document ↔
    c.id? = c'.id? ∧ c.editorType = c'.editorType ∧ c.goBack = c'.goBack := by
  have hback : ((if c.goBack then "true" else "false") = if c'.goBack then "true" else "false") ↔
      c.goBack = c'.goBack := by
    cases c.goBack <;> cases c'.goBack <;> decide
  simp only [document, List.cons.injEq, Prod.mk.injEq, true_and, and_true, hback,
    getD_empty_inj c.id?_ne_empty c'.id?_ne_empty]

/-- The share's parameter tells the token. -/
theorem share_inj : c.share = c'.share ↔ c.requestToken? = c'.requestToken? := by
  unfold share
  cases c.requestToken? <;> cases c'.requestToken? <;> simp

/-- No share's parameters begin with the viewer's action. -/
theorem share_ne_action (q : Query) : c.share ≠ [("action", "view")] ++ q := by
  unfold share
  cases c.requestToken? <;> simp

/-- What a page is told determines what it is to show. -/
theorem told_inj (m : Mode) : c.told m = c'.told m ↔ c.ShowsAlike c' m := by
  cases m with
  | editor | viewer =>
    simp only [told, ShowsAlike, List.append_assoc, document_append_inj, document_inj,
      List.append_cancel_left_eq, share_inj, and_assoc]
  | fileSelector => simp [told, ShowsAlike]
  | publicRoom =>
    have htoken : ∀ c : Config, c.requestToken? ≠ some "" := fun c => c.text?_ne_empty _
    simp [told, ShowsAlike, getD_empty_inj (htoken c) (htoken c')]
  | manager | roomSelector | system => exact iff_of_true rfl trivial

/-- Only the editor and the viewer have one page. -/
theorem eq_or_of_page?_eq (hm : m.page?.isSome) (h : m.page? = m'.page?) :
    m = m' ∨ m = .editor ∧ m' = .viewer ∨ m = .viewer ∧ m' = .editor := by
  cases m <;> cases m' <;> revert hm h <;> decide

/-- The page and what it is told determine the mode. -/
theorem mode_eq_of_told (hm : m.page?.isSome) (hpage : m.page? = m'.page?)
    (h : c.told m = c'.told m') : m = m' := by
  -- What stands behind the document tells the viewer from the editor.
  have hviewer : ∀ c c' : Config, c.told .editor ≠ c'.told .viewer := fun c c' h =>
    share_ne_action _ (document_append_inj.mp (h.trans (List.append_assoc ..))).2
  rcases eq_or_of_page?_eq hm hpage with rfl | ⟨rfl, rfl⟩ | ⟨rfl, rfl⟩
  · rfl
  · exact absurd h (hviewer c c')
  · exact absurd h.symm (hviewer c' c)

/-- Paths are the same if they are for the same mode and for configurations that differ in nothing
that the page is told. -/
theorem path_eq_path_iff (hm : m.page?.isSome) (hm' : m'.page?.isSome) :
    c.path m = c'.path m' ↔ m = m' ∧ c.ShowsAlike c' m := by
  obtain ⟨page, hm⟩ := Option.isSome_iff_exists.mp hm
  obtain ⟨page', hm'⟩ := Option.isSome_iff_exists.mp hm'
  constructor
  · intro h
    -- Both paths are read back, and what is told gives the mode and the settings.
    have hread := readPath?_path hm c
    rw [h, readPath?_path hm' c', Option.some.injEq, Prod.mk.injEq, String.toList_inj] at hread
    obtain ⟨rfl, htold⟩ := hread
    obtain rfl := mode_eq_of_told (by rw [hm]; rfl) (hm.trans hm'.symm) htold.symm
    exact ⟨rfl, (told_inj m).mp htold.symm⟩
  · rintro ⟨rfl, halike⟩
    rw [← String.toList_inj, toList_path_of_page hm, toList_path_of_page hm, (told_inj m).mpr halike]

/-! ## One field, one parameter -/

/-- Configurations with the same value of a key have the same text. -/
theorem text?_congr {key : String} (h : c.get? key = c'.get? key) : c.text? key = c'.text? key := by
  rw [text?, h, text?]

/-- Configurations with the same value of the ID have the same ID. -/
theorem id?_congr (h : c.get? "id" = c'.get? "id") : c.id? = c'.id? := by rw [id?, h, id?]

/-- Configurations with the same way back tell the same. -/
theorem goBack_congr (h : c.get? "editorGoBack" = c'.get? "editorGoBack") : c.goBack = c'.goBack := by
  rw [goBack, flag, h, goBack, flag]

/-- The pairs of a name are found in the one query and then in the other. -/
theorem named_append (q q' : Query) (name : String) :
    (q ++ q').named name = q.named name ++ q'.named name := List.filter_append ..

/-- A parameter of the document depends on its own field alone. -/
theorem named_document_eq {name : String}
    (h : ∀ field, editorField? name = some field → c.get? field = c'.get? field) :
    c.document.named name = c'.document.named name := by
  -- Each name asks for the one field it is filled from.
  have hid : name = "fileId" → c.id? = c'.id? := by
    rintro rfl
    exact id?_congr (h _ rfl)
  have htype : name = "editorType" → c.editorType = c'.editorType := by
    rintro rfl
    rw [editorType, text?_congr (h _ rfl), editorType]
  have hback : name = "editorGoBack" → c.goBack = c'.goBack := by
    rintro rfl
    exact goBack_congr (h _ rfl)
  unfold document Query.named
  simp only [List.filter_cons, List.filter_nil, decide_eq_true_eq, eq_comm (b := name)]
  split_ifs <;> simp_all

/-- A parameter of the share depends on its own field alone. -/
theorem named_share_eq {name : String}
    (h : ∀ field, editorField? name = some field → c.get? field = c'.get? field) :
    c.share.named name = c'.share.named name := by
  by_cases hname : name = "share"
  · subst hname
    rw [share, requestToken?, text?_congr (h _ rfl), share, requestToken?]
  · have hnone : ∀ c : Config, c.share.named name = [] := by
      intro c
      unfold share Query.named
      cases c.requestToken? <;> simp [Ne.symm hname]
    rw [hnone, hnone]

/-- A parameter changes with its own field only. -/
theorem named_told_eq {name : String}
    (h : ∀ field, m.field? name = some field → c.get? field = c'.get? field) :
    (c.told m).named name = (c'.told m).named name := by
  cases m with
  | editor | viewer => simp only [told, named_append, named_document_eq h, named_share_eq h]
  -- The selectors tell one parameter each.
  | fileSelector =>
    by_cases hname : name = "selectorType"
    · subst hname
      rw [told, told, selectorType, text?_congr (h _ rfl), selectorType]
    · simp [told, Query.named, Ne.symm hname]
  | publicRoom =>
    by_cases hname : name = "key"
    · subst hname
      rw [told, told, requestToken?, text?_congr (h _ rfl), requestToken?]
    · simp [told, Query.named, Ne.symm hname]
  | manager | roomSelector | system => rfl

/-- Queries are read back as they were written. So the paths of the editor, the viewer, the file
selector and a public room are read as exactly what their pages are told, and determine it; no field
changes a parameter but its own; and the viewer is told what the editor is told, and to only view
it. -/
theorem resource_paths_determine :
    (∀ q : Query, Query.decode? q.encode.toList = some q) ∧
    (∀ (c : Config) (m : Mode) (page : String), m.page? = some page →
      Query.readPath? (c.path m).toList = some (page.toList, c.told m) ∧ '#' ∉ (c.path m).toList) ∧
    (∀ (c c' : Config) (m m' : Mode), m.page?.isSome → m'.page?.isSome →
      (c.path m = c'.path m' ↔ m = m' ∧ c.ShowsAlike c' m)) ∧
    (∀ (c c' : Config) (m : Mode) (name : String),
      (∀ field, m.field? name = some field → c.get? field = c'.get? field) →
      (c.told m).named name = (c'.told m).named name) ∧
    ∀ c : Config, (c.told .viewer).named "action" = [("action", "view")] ∧
      (c.told .viewer).filter (·.1 ≠ "action") = c.told .editor := by
  refine ⟨Query.decode?_encode, fun c m page hm => ⟨readPath?_path hm c, fragment_not_mem_path hm c⟩,
    fun c c' m m' => path_eq_path_iff, fun c c' m name => named_told_eq, fun c => ?_⟩
  -- The viewer is told what the editor is, and the action.
  unfold told document share Query.named
  cases c.requestToken? <;> simp

end Config

end FrameHost
