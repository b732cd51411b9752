import Mathlib.Data.List.Infix
import FrameHost.Frame.ErrorPage

/-!
# What the error page shows

Three texts that the page does not choose itself go into it. Each is escaped: it has no character
that ends an attribute or begins a tag, and read back it is what it was. The template is read once,
from left to right. At a `$` the name that follows decides what is filled in, and since no name of a
placeholder begins with another one, it is the right text whatever stands behind the name. What is
filled in goes to the page and not back into the template.
-/

namespace FrameHost.ErrorPage

/-- No key begins with another one. -/
def PrefixFree (keys : List (List Char)) : Prop :=
  keys.Pairwise fun k l => ¬ k <+: l ∧ ¬ l <+: k

instance (keys : List (List Char)) : Decidable (PrefixFree keys) :=
  inferInstanceAs (Decidable (keys.Pairwise _))

/-- A text that begins with the key of a row leads to that row. -/
theorem PrefixFree.find? {α : Type} {key : α → List Char} {rows : List α}
    (h : PrefixFree (rows.map key)) {v : α} (hv : v ∈ rows) (rest : List Char) :
    rows.find? (fun w => (key w).isPrefixOf (key v ++ rest)) = some v := by
  induction rows with
  | nil => cases hv
  | cons w rows ih =>
    obtain ⟨hw, hrows⟩ := List.pairwise_cons.mp h
    rw [List.find?_cons]
    obtain rfl | hv := List.mem_cons.mp hv
    · have hown : (key v).isPrefixOf (key v ++ rest) = true :=
        List.isPrefixOf_iff_prefix.mpr (List.prefix_append _ _)
      rw [hown]
    · have hother : (key w).isPrefixOf (key v ++ rest) = false := by
        rw [Bool.eq_false_iff, ne_eq, List.isPrefixOf_iff_prefix]
        intro hprefix
        -- Two keys that begin the same text begin each other.
        obtain ⟨hwv, hvw⟩ := hw (key v) (List.mem_map_of_mem hv)
        exact (List.prefix_or_prefix_of_prefix hprefix (List.prefix_append _ _)).elim hwv hvw
      rw [hother, ih hrows hv]

/-! ## Escaped texts -/

/-- The entities of an escaped text, each with the character that it stands for. -/
def entities : List (List Char × Char) :=
  [(['&', 'a', 'm', 'p', ';'], '&'),
    (['&', 'l', 't', ';'], '<'),
    (['&', 'g', 't', ';'], '>'),
    (['&', 'q', 'u', 'o', 't', ';'], '"'),
    (['&', '#', '3', '9', ';'], '\x27')]

/-- A text with each entity read as the character that it stands for. -/
def unescape (text : List Char) : List Char :=
  match text with
  | [] => []
  | c :: cs =>
    match entities.find? fun e => e.1.isPrefixOf (c :: cs) with
    | some e => e.2 :: unescape (cs.drop e.1.tail.length)
    | none => c :: unescape cs
termination_by text.length
decreasing_by all_goals simp only [List.length_drop, List.length_cons]; omega

/-- A character is written as its entity, or as itself when it is none of the five. -/
theorem escapeChar_cases (c : Char) :
    (escapeChar c, c) ∈ entities ∨
      escapeChar c = [c] ∧ c ≠ '&' ∧ c ≠ '<' ∧ c ≠ '>' ∧ c ≠ '"' ∧ c ≠ '\x27' := by
  unfold escapeChar
  split
  iterate 5 exact .inl (by decide)
  exact .inr ⟨rfl, by assumption, by assumption, by assumption, by assumption, by assumption⟩

/-- An entity begins with its only ampersand and has no character that is escaped besides. -/
theorem entity_shape :
    ∀ e ∈ entities, e.1 = '&' :: e.1.tail ∧ '&' ∉ e.1.tail ∧
      '<' ∉ e.1 ∧ '>' ∉ e.1 ∧ '"' ∉ e.1 ∧ '\x27' ∉ e.1 := by
  decide

/-- No entity begins another. -/
theorem entities_prefixFree : PrefixFree (entities.map Prod.fst) := by decide

/-- No character of an escaped text is a markup character. -/
theorem ne_of_mem_escapeChar {c d : Char} (h : d ∈ escapeChar c) :
    d ≠ '<' ∧ d ≠ '>' ∧ d ≠ '"' ∧ d ≠ '\x27' := by
  obtain hc | ⟨hc, -, hrest⟩ := escapeChar_cases c
  · obtain ⟨-, -, hlt, hgt, hquot, hapos⟩ := entity_shape _ hc
    exact ⟨ne_of_mem_of_not_mem h hlt, ne_of_mem_of_not_mem h hgt, ne_of_mem_of_not_mem h hquot,
      ne_of_mem_of_not_mem h hapos⟩
  · rw [hc, List.mem_singleton] at h
    exact h ▸ hrest

/-- An ampersand in the escape of a character is the first of an entity. -/
theorem entity_of_escapeChar {c : Char} {before rest : List Char}
    (h : escapeChar c = before ++ '&' :: rest) : ('&' :: rest, c) ∈ entities := by
  obtain hc | ⟨hc, hamp, -⟩ := escapeChar_cases c
  · obtain ⟨hhead, htail, -⟩ := entity_shape _ hc
    cases before with
    | nil => rwa [h, List.nil_append] at hc
    | cons b before =>
      have hmem : '&' ∈ (escapeChar c).tail := by simp [h]
      exact absurd hmem htail
  · have hmem : '&' ∈ [c] := by simp [← hc, h]
    exact absurd (List.mem_singleton.mp hmem) hamp.symm

/-- Every ampersand of an escaped text begins an entity. -/
theorem entity_of_suffix {text rest : List Char} (h : '&' :: rest <:+ text.flatMap escapeChar) :
    ∃ e ∈ entities, e.1 <+: '&' :: rest := by
  induction text with
  | nil => simp at h
  | cons c text ih =>
    obtain ⟨before, h⟩ := h
    rw [List.flatMap_cons] at h
    -- The ampersand stands in the escape of this character or behind it.
    obtain ⟨inside, hc, hrest⟩ | ⟨between, -, hrest⟩ := List.append_eq_append_iff.mp h
    · cases inside with
      | nil => exact ih ⟨[], hrest⟩
      | cons d inside =>
        obtain ⟨rfl, rfl⟩ := List.cons_eq_cons.mp hrest
        exact ⟨_, entity_of_escapeChar hc, List.prefix_append ('&' :: inside) _⟩
    · exact ih ⟨between, hrest.symm⟩

/-- An escaped character is read back. -/
theorem unescape_escapeChar (c : Char) (rest : List Char) :
    unescape (escapeChar c ++ rest) = c :: unescape rest := by
  obtain hc | ⟨hc, hamp, -⟩ := escapeChar_cases c
  · obtain ⟨hhead, -, -⟩ := entity_shape _ hc
    have hfind := entities_prefixFree.find? hc rest
    -- `unescape` looks at its text without the first character, the ampersand.
    simp only at hhead hfind
    rw [hhead, List.cons_append] at hfind ⊢
    rw [unescape, hfind]
    simp
  · have hfind : entities.find? (fun e => e.1.isPrefixOf (c :: rest)) = none := by
      rw [List.find?_eq_none]
      intro e he
      rw [(entity_shape e he).1, List.isPrefixOf_iff_prefix, List.cons_prefix_cons]
      exact fun h => hamp h.1.symm
    rw [hc, List.singleton_append, unescape, hfind]

/-- An escaped text is read back. -/
theorem unescape_escape (text : List Char) : unescape (text.flatMap escapeChar) = text := by
  induction text with
  | nil => rw [List.flatMap_nil, unescape]
  | cons c text ih => rw [List.flatMap_cons, unescape_escapeChar, ih]

/-! ## Filled templates -/

/-- A part of a template: a placeholder with the text that it is for, and what stands between it and
the next one. -/
structure Part where
  /-- The name of the placeholder and its text. -/
  value : String × String
  /-- What stands behind the placeholder. -/
  literal : List Char

/-- The part as the template has it. -/
def Part.named (p : Part) : List Char := '$' :: p.value.1.toList ++ p.literal

/-- The part as the page has it. -/
def Part.filled (p : Part) : List Char := (escape p.value.2).toList ++ p.literal

variable {values : List (String × String)}

/-- A literal part without a dollar sign is copied. -/
theorem render_append {literal rest : List Char} (h : '$' ∉ literal) :
    render values (literal ++ rest) = literal ++ render values rest := by
  induction literal with
  | nil => rfl
  | cons c literal ih =>
    rw [List.mem_cons, not_or] at h
    rw [List.cons_append, render, if_neg (Ne.symm h.1), ih h.2, List.cons_append]

/-- A part is filled with the value it names, and its literal copied after it. -/
theorem render_part (hnames : PrefixFree (values.map fun v => v.1.toList)) {p : Part}
    (hvalue : p.value ∈ values) (hliteral : '$' ∉ p.literal) (rest : List Char) :
    render values (p.named ++ rest) = p.filled ++ render values rest := by
  -- No other name begins as this one does.
  have hfind := hnames.find? hvalue (p.literal ++ rest)
  have hdrop : (p.value.1.toList ++ (p.literal ++ rest)).drop p.value.1.length =
      p.literal ++ rest := by
    rw [← String.length_toList, List.drop_left]
  calc render values (p.named ++ rest)
    _ = render values ('$' :: (p.value.1.toList ++ (p.literal ++ rest))) := by
        simp only [Part.named, List.cons_append, List.append_assoc]
    _ = (escape p.value.2).toList ++ render values (p.literal ++ rest) := by
        rw [render, if_pos rfl, hfind]
        simp only [hdrop]
    _ = p.filled ++ render values rest := by
        rw [render_append hliteral, Part.filled, List.append_assoc]

/-- Parts are filled one after another. -/
theorem render_parts (hnames : PrefixFree (values.map fun v => v.1.toList)) {parts : List Part}
    (hparts : ∀ p ∈ parts, p.value ∈ values ∧ '$' ∉ p.literal) :
    render values (parts.flatMap Part.named) = parts.flatMap Part.filled := by
  induction parts with
  | nil => rw [List.flatMap_nil, List.flatMap_nil, render]
  | cons p parts ih =>
    obtain ⟨hvalue, hliteral⟩ := hparts p List.mem_cons_self
    rw [List.flatMap_cons, List.flatMap_cons, render_part hnames hvalue hliteral,
      ih fun q hq => hparts q (List.mem_cons_of_mem _ hq)]

/-! ## The page -/

/-- The pieces of the page from the `i`th to before the `j`th. -/
def literal (i j : ℕ) : String := String.join (pieces.extract i j)

/-- The template, cut at the values it names. -/
theorem template_eq :
    template = literal 0 25 ++ "$MESSAGE" ++ literal 26 28 ++ "$HOST_ORIGIN" ++ literal 29 31 ++
      "$SRC" ++ literal 32 33 ++ "$SRC" ++ literal 34 39 := by
  have hpieces : pieces = pieces.extract 0 25 ++ "$MESSAGE" :: (pieces.extract 26 28 ++
      "$HOST_ORIGIN" :: (pieces.extract 29 31 ++ "$SRC" :: (pieces.extract 32 33 ++
        "$SRC" :: pieces.extract 34 39))) := rfl
  calc template = String.join pieces := rfl
    _ = _ := congrArg String.join hpieces
    _ = _ := by simp only [String.join_append, String.join_cons, literal, String.append_assoc]

/-- A list of texts is plain when its first text and the others are. -/
theorem plain_cons {chars : List Char} {rest : List String} (h : '$' ∉ chars)
    (hrest : ∀ s ∈ rest, '$' ∉ s.toList) :
    ∀ s ∈ String.ofList chars :: rest, '$' ∉ s.toList := by
  rw [List.forall_mem_cons, String.toList_ofList]
  exact ⟨h, hrest⟩

/-- A range of plain pieces holds no dollar sign. -/
theorem dollar_not_mem_literal {i j : ℕ} (h : ∀ s ∈ pieces.extract i j, '$' ∉ s.toList) :
    '$' ∉ (literal i j).toList := by
  rw [literal, String.toList_join, List.mem_flatMap]
  rintro ⟨s, hs, hmem⟩
  exact h s hs hmem

/-- Apart from the names of its placeholders the page has no `$`. -/
theorem literals_plain :
    ∀ part ∈ [literal 0 25, literal 26 28, literal 29 31, literal 32 33, literal 34 39],
      '$' ∉ part.toList := by
  simp only [List.forall_mem_cons]
  refine ⟨?_, ?_, ?_, ?_, ?_, List.forall_mem_nil _⟩
  -- Each piece is opened as the list of its characters, which is cheaper than to compute that list.
  all_goals
    apply dollar_not_mem_literal
    repeat' refine plain_cons (by decide) ?_
    exact List.forall_mem_nil _

/-- None of the three names begins another. -/
theorem names_prefixFree :
    PrefixFree (["HOST_ORIGIN", "MESSAGE", "SRC"].map String.toList) := by
  decide

/-- The parts of the template behind its first placeholder, for the texts that are filled in. -/
def parts (host source message : String) : List Part :=
  [⟨("MESSAGE", message), (literal 26 28).toList⟩, ⟨("HOST_ORIGIN", host), (literal 29 31).toList⟩,
    ⟨("SRC", source), (literal 32 33).toList⟩, ⟨("SRC", source), (literal 34 39).toList⟩]

/-- The document: the literal parts with the four escaped texts between them. -/
theorem document_eq (host source message : String) :
    document host source message = literal 0 25 ++ escape message ++ literal 26 28 ++ escape host ++
      literal 29 31 ++ escape source ++ literal 32 33 ++ escape source ++ literal 34 39 := by
  -- The literal parts hold no mark.
  have hplain := literals_plain
  simp only [List.forall_mem_cons] at hplain
  obtain ⟨h0, h1, h2, h3, h4, -⟩ := hplain
  have htemplate : template.toList =
      (literal 0 25).toList ++ (parts host source message).flatMap Part.named := by
    simp [template_eq, parts, Part.named]
  have hparts : ∀ p ∈ parts host source message,
      p.value ∈ [("HOST_ORIGIN", host), ("MESSAGE", message), ("SRC", source)] ∧
        '$' ∉ p.literal := by
    simp [parts, h1, h2, h3, h4]
  have hnames : PrefixFree ([("HOST_ORIGIN", host), ("MESSAGE", message), ("SRC", source)].map
      fun v => v.1.toList) := names_prefixFree
  rw [document, htemplate, render_append h0, render_parts hnames hparts]
  simp [parts, Part.filled, ← String.toList_inj]

/-- The page is the template with an escaped text for each of the four placeholders, whatever the
texts are. An escaped text cannot end the attribute or the element that it stands in: it has no
angle bracket and no quote, its ampersands begin entities, and unescaped it is the text again. -/
theorem document_fills_template :
    (∃ a b c d e : String, (∀ part ∈ [a, b, c, d, e], '$' ∉ part.toList) ∧
      template = a ++ "$MESSAGE" ++ b ++ "$HOST_ORIGIN" ++ c ++ "$SRC" ++ d ++ "$SRC" ++ e ∧
      ∀ host source message : String,
        document host source message = a ++ escape message ++ b ++ escape host ++ c ++
          escape source ++ d ++ escape source ++ e) ∧
    ∀ text : String,
      (∀ ch ∈ (escape text).toList, ch ≠ '<' ∧ ch ≠ '>' ∧ ch ≠ '"' ∧ ch ≠ '\x27') ∧
      (∀ rest, '&' :: rest <:+ (escape text).toList → ∃ e ∈ entities, e.1 <+: '&' :: rest) ∧
      String.ofList (unescape (escape text).toList) = text := by
  refine ⟨⟨_, _, _, _, _, literals_plain, template_eq, document_eq⟩, fun text => ?_⟩
  rw [escape, String.toList_ofList]
  refine ⟨fun ch hch => ?_, fun rest => entity_of_suffix, ?_⟩
  · -- Every character comes out of the escape of one.
    obtain ⟨c, -, hch⟩ := List.mem_flatMap.mp hch
    exact ne_of_mem_escapeChar hch
  · rw [unescape_escape, String.ofList_toList]

end FrameHost.ErrorPage
