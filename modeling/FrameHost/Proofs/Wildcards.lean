import FrameHost.Proofs.LetterHosts
import Mathlib.Data.List.Infix
import Mathlib.Data.List.DropRight

/-!
# Wildcards

Which origins an entry of an allow-list stands for. `originMatches_iff` says it without the matcher:
the origin, written as the entry writes it, has to be what the entry becomes when each `*` in it is
replaced with a text of its own that is not empty and has no `.`, `/` or `:` (`Fills`), whatever the
case of letters. So a `*` never reaches across the borders of a label, the scheme or the port. An entry
with a `*` that its engine does not compile stands for nothing at all; the standard engine compiles
every entry of up to ten thousand characters (`size_standard_le`) and no entry with thirty thousand
stars (`many_stars_refused`).

The matcher keeps a row for the part of the pattern that it has seen: which prefixes of the text this
part reads (`patternRow_eq`). What a pattern reads with one more character follows from what it reads
without (`reads_star_concat_iff`, `reads_char_concat_iff`), and the next row is computed just so
(`labelRow_inits`, `zipWith_inits`). The matcher folds more than ASCII letters; entries and addresses
are ASCII, and there it makes no difference (`matchesPattern_iff_fills`).
-/

namespace FrameHost.Origin

/-! ## What a pattern reads -/

/-- A text that a pattern reads: a label for every `*`, and for every other character one that is
`like` it. -/
inductive Reads (like : Char → Char → Prop) : (pattern text : List Char) → Prop
  | nil : Reads like [] []
  | label {label pattern text : List Char} :
      label ≠ [] → (∀ c ∈ label, inLabel c = true) → Reads like pattern text →
      Reads like ('*' :: pattern) (label ++ text)
  | char {p c : Char} {pattern text : List Char} :
      p ≠ '*' → like p c → Reads like pattern text → Reads like (p :: pattern) (c :: text)

variable {like : Char → Char → Prop} {pattern text : List Char}

/-- The empty pattern reads the empty text alone. -/
theorem reads_nil_iff : Reads like [] text ↔ text = [] := by
  constructor
  · rintro ⟨⟩
    rfl
  · rintro rfl
    exact .nil

/-- A star reads a text that is not empty and stays within a label. -/
theorem reads_star_iff :
    Reads like ['*'] text ↔ text ≠ [] ∧ ∀ c ∈ text, inLabel c = true := by
  constructor
  · rintro (_ | ⟨hne, hlabel, hrest⟩ | ⟨hstar, -, -⟩)
    · rw [reads_nil_iff.mp hrest, List.append_nil]
      exact ⟨hne, hlabel⟩
    · exact absurd rfl hstar
  · rintro ⟨hne, hlabel⟩
    have hreads : Reads like ['*'] (text ++ []) := .label hne hlabel .nil
    rwa [List.append_nil] at hreads

/-- A character reads one character like it. -/
theorem reads_char_iff {p : Char} (hp : p ≠ '*') :
    Reads like [p] text ↔ ∃ c, text = [c] ∧ like p c := by
  constructor
  · rintro (_ | ⟨-, -, -⟩ | @⟨_, c, _, _, -, hlike, hrest⟩)
    · exact absurd rfl hp
    · rw [reads_nil_iff.mp hrest]
      exact ⟨c, rfl, hlike⟩
  · rintro ⟨c, rfl, hlike⟩
    exact .char hp hlike .nil

/-- What two patterns in a row read: the text falls into one part for each. -/
theorem reads_append_iff {p q : List Char} :
    Reads like (p ++ q) text ↔ ∃ s t, text = s ++ t ∧ Reads like p s ∧ Reads like q t := by
  constructor
  · intro h
    induction p generalizing text with
    | nil => exact ⟨[], text, rfl, .nil, h⟩
    | cons c p ih =>
      rcases h with _ | @⟨l, _, _, hne, hlabel, hrest⟩ | @⟨_, d, _, _, hstar, hlike, hrest⟩
      · obtain ⟨s, t, rfl, hs, ht⟩ := ih hrest
        exact ⟨l ++ s, t, (List.append_assoc _ _ _).symm, .label hne hlabel hs, ht⟩
      · obtain ⟨s, t, rfl, hs, ht⟩ := ih hrest
        exact ⟨d :: s, t, rfl, .char hstar hlike hs, ht⟩
  · -- Backwards by induction on how the first part is read.
    rintro ⟨s, t, rfl, hs, ht⟩
    induction hs with
    | nil => exact ht
    | label hne hlabel _ ih =>
      rw [List.append_assoc]
      exact .label hne hlabel ih
    | char hstar hlike _ ih => exact .char hstar hlike ih

/-- A pattern that ends in `*` reads one character more if this character can be in a label and
ends one that is under way or begins one. -/
theorem reads_star_concat_iff {c : Char} :
    Reads like (pattern ++ ['*']) (text ++ [c]) ↔
      inLabel c = true ∧ (Reads like pattern text ∨ Reads like (pattern ++ ['*']) text) := by
  constructor
  · intro h
    obtain ⟨s, t, heq, hs, ht⟩ := reads_append_iff.mp h
    obtain ⟨hne, hlabel⟩ := reads_star_iff.mp ht
    -- The label ends in the last character; without it, it is a label still or nothing.
    obtain ⟨t, d, rfl⟩ := (List.eq_nil_or_concat t).resolve_left hne
    rw [List.concat_eq_append] at heq hlabel
    rw [← List.append_assoc] at heq
    obtain ⟨rfl, hc⟩ := List.append_inj' heq rfl
    obtain rfl : c = d := (List.cons.inj hc).1
    refine ⟨hlabel c (by simp), ?_⟩
    cases t with
    | nil => rw [List.append_nil]; exact .inl hs
    | cons d t =>
      right
      refine reads_append_iff.mpr ⟨s, d :: t, rfl, hs, reads_star_iff.mpr ⟨by simp, ?_⟩⟩
      exact fun x hx => hlabel x (List.mem_append_left _ hx)
  · rintro ⟨hc, h | h⟩
    · exact reads_append_iff.mpr ⟨text, [c], rfl, h, reads_star_iff.mpr ⟨by simp, by simpa using hc⟩⟩
    · obtain ⟨s, t, rfl, hs, ht⟩ := reads_append_iff.mp h
      obtain ⟨-, hlabel⟩ := reads_star_iff.mp ht
      refine reads_append_iff.mpr ⟨s, t ++ [c], List.append_assoc _ _ _, hs,
        reads_star_iff.mpr ⟨by simp, ?_⟩⟩
      intro x hx
      rcases List.mem_append.mp hx with hx | hx
      · exact hlabel x hx
      · rwa [List.mem_singleton.mp hx]

/-- No pattern that ends in a star reads the empty text. -/
theorem not_reads_star_nil : ¬ Reads like (pattern ++ ['*']) [] := by
  intro h
  obtain ⟨s, t, heq, -, ht⟩ := reads_append_iff.mp h
  exact (reads_star_iff.mp ht).1 (List.append_eq_nil_iff.mp heq.symm).2

/-- A pattern and a text are read up to their last characters, which must be alike. -/
theorem reads_char_concat_iff {p c : Char} (hp : p ≠ '*') :
    Reads like (pattern ++ [p]) (text ++ [c]) ↔ Reads like pattern text ∧ like p c := by
  constructor
  · intro h
    obtain ⟨s, t, heq, hs, ht⟩ := reads_append_iff.mp h
    obtain ⟨d, rfl, hlike⟩ := (reads_char_iff hp).mp ht
    obtain ⟨rfl, hc⟩ := List.append_inj' heq rfl
    rw [(List.cons.inj hc).1]
    exact ⟨hs, hlike⟩
  · rintro ⟨hs, hlike⟩
    exact reads_append_iff.mpr ⟨text, [c], rfl, hs, (reads_char_iff hp).mpr ⟨c, rfl, hlike⟩⟩

/-- No pattern that ends in a character reads the empty text. -/
theorem not_reads_char_nil {p : Char} (hp : p ≠ '*') : ¬ Reads like (pattern ++ [p]) [] := by
  intro h
  obtain ⟨s, t, heq, -, ht⟩ := reads_append_iff.mp h
  obtain ⟨d, rfl, -⟩ := (reads_char_iff hp).mp ht
  exact absurd heq (by simp)

/-! ## Rows -/

/-- The first prefix of a text is empty. -/
theorem map_inits_eq_cons {α : Type} (f : List Char → α) (text : List Char) :
    text.inits.map f = f [] :: (text.inits.map f).tail := by
  cases text with
  | nil => rfl
  | cons c cs => rw [List.inits_cons, List.map_cons, List.tail_cons]

/-- The row for a label, from the row for what comes before it. -/
theorem labelRow_inits {f g : List Char → Bool} (text : List Char)
    (hg : ∀ s c, g (s ++ [c]) = true ↔ inLabel c = true ∧ (f s = true ∨ g s = true)) :
    labelRow (g []) (text.inits.map f) text = (text.inits.map g).tail := by
  induction text generalizing f g with
  | nil => rfl
  | cons c cs ih =>
    have hfirst : (inLabel c && (f [] || g [])) = g [c] := by
      rw [Bool.eq_iff_iff, Bool.and_eq_true, Bool.or_eq_true]
      exact (hg [] c).symm
    have hrest := ih (f := fun s => f (c :: s)) (g := fun s => g (c :: s))
      fun s d => hg (c :: s) d
    rw [List.inits_cons, List.map_cons, List.map_cons, List.map_map, List.map_map, labelRow,
      hfirst, List.tail_cons]
    exact (congrArg (g [c] :: ·) hrest).trans (map_inits_eq_cons (fun s => g (c :: s)) cs).symm

/-- The row for a character, from the row for what comes before it. -/
theorem zipWith_inits {f g : List Char → Bool} {p : Char → Bool} (text : List Char)
    (hg : ∀ s c, g (s ++ [c]) = true ↔ f s = true ∧ p c = true) :
    List.zipWith (fun b c => b && p c) (text.inits.map f) text = (text.inits.map g).tail := by
  induction text generalizing f g with
  | nil => rfl
  | cons c cs ih =>
    have hfirst : (f [] && p c) = g [c] := by
      rw [Bool.eq_iff_iff, Bool.and_eq_true]
      exact (hg [] c).symm
    have hrest := ih (f := fun s => f (c :: s)) (g := fun s => g (c :: s))
      fun s d => hg (c :: s) d
    rw [List.inits_cons, List.map_cons, List.map_cons, List.map_map, List.map_map,
      List.zipWith_cons_cons, hfirst, List.tail_cons]
    exact (congrArg (g [c] :: ·) hrest).trans (map_inits_eq_cons (fun s => g (c :: s)) cs).symm

/-- The row for the empty pattern: only the empty prefix ends there. -/
theorem replicate_inits {g : List Char → Bool} (text : List Char)
    (hg : ∀ s c, g (s ++ [c]) = false) :
    List.replicate text.length false = (text.inits.map g).tail := by
  induction text generalizing g with
  | nil => rfl
  | cons c cs ih =>
    have hrest := ih (g := fun s => g (c :: s)) fun s d => hg (c :: s) d
    have hfirst : false = g [c] := (hg [] c).symm
    rw [List.inits_cons, List.map_cons, List.map_map, List.length_cons, List.replicate_succ,
      List.tail_cons, hrest]
    exact (congrArg (· :: _) hfirst).trans (map_inits_eq_cons (fun s => g (c :: s)) cs).symm

/-- The last of the beginnings of a text is the text. -/
theorem getLast?_map_inits {α : Type} (f : List Char → α) (text : List Char) :
    (text.inits.map f).getLast? = some (f text) := by
  induction text generalizing f with
  | nil => rfl
  | cons c cs ih =>
    rw [List.inits_cons, List.map_cons, List.map_map, map_inits_eq_cons, List.getLast?_cons_cons,
      ← map_inits_eq_cons]
    exact ih fun s => f (c :: s)

/-- Whether two characters are one but for their case. -/
def SameFold (p c : Char) : Prop := foldCase p = foldCase c

open Classical in
/-- The row of a pattern says which prefixes of the text the pattern reads. -/
theorem patternRow_eq (text pattern : List Char) :
    patternRow text pattern = text.inits.map fun s => decide (Reads SameFold pattern s) := by
  induction pattern using List.reverseRecOn with
  | nil =>
    rw [map_inits_eq_cons, decide_eq_true (reads_nil_iff.mpr rfl), ← replicate_inits]
    · rfl
    · exact fun s c => decide_eq_false fun h => absurd (reads_nil_iff.mp h) (by simp)
  | append_singleton pattern p ih =>
    -- The row of a longer pattern is made from that of the shorter one.
    have hstep : patternRow text (pattern ++ [p]) = nextRow text (patternRow text pattern) p := by
      unfold patternRow
      rw [List.foldl_append]
      rfl
    rw [hstep, ih, map_inits_eq_cons fun s => decide (Reads SameFold (pattern ++ [p]) s)]
    unfold nextRow
    by_cases hp : p = '*'
    · subst hp
      -- A star goes on with the row that it makes itself.
      have hnone : decide (Reads SameFold (pattern ++ ['*']) []) = false :=
        decide_eq_false not_reads_star_nil
      rw [if_pos rfl, ← labelRow_inits text (f := fun s => decide (Reads SameFold pattern s)), hnone]
      intro s c
      simp only [decide_eq_true_eq]
      exact reads_star_concat_iff
    · rw [if_neg hp, decide_eq_false (not_reads_char_nil hp)]
      congr 1
      -- A character takes the row one place further.
      refine zipWith_inits text (p := fun c => foldCase p == foldCase c) fun s c => ?_
      simp only [decide_eq_true_eq, beq_iff_eq]
      exact reads_char_concat_iff hp

open Classical in
/-- A text matches a pattern exactly if the pattern reads it. -/
theorem matchesPattern_iff : matchesPattern pattern text = true ↔ Reads SameFold pattern text := by
  unfold matchesPattern
  rw [patternRow_eq, getLast?_map_inits, beq_iff_eq, Option.some_inj, decide_eq_true_iff]


/-! ## Labels in the place of stars -/

/-- A text that a pattern becomes when every `*` is replaced with a text of its own that is not
empty and has no `.`, `/` or `:`. -/
inductive Fills : (pattern text : List Char) → Prop
  | nil : Fills [] []
  | label {label pattern text : List Char} :
      label ≠ [] → (∀ c ∈ label, c ≠ '.' ∧ c ≠ '/' ∧ c ≠ ':') → Fills pattern text →
      Fills ('*' :: pattern) (label ++ text)
  | char {c : Char} {pattern text : List Char} :
      c ≠ '*' → Fills pattern text → Fills (c :: pattern) (c :: text)

/-- The characters of a label are all but the three that end one. -/
theorem inLabel_iff {c : Char} : inLabel c = true ↔ c ≠ '.' ∧ c ≠ '/' ∧ c ≠ ':' := by
  unfold inLabel
  rw [Bool.and_eq_true, Bool.and_eq_true, decide_eq_true_iff, decide_eq_true_iff,
    decide_eq_true_iff, and_assoc]

/-- Characters that differ in their case at most are both in a label or both not. -/
theorem inLabel_of_toLower {c d : Char} (h : c.toLower = d.toLower) (hc : inLabel c = true) :
    inLabel d = true := by
  obtain ⟨hdot, hslash, hcolon⟩ := inLabel_iff.mp hc
  refine inLabel_iff.mpr ⟨?_, ?_, ?_⟩
  · rintro rfl
    exact hdot (eq_of_toLower (by decide) h)
  · rintro rfl
    exact hslash (eq_of_toLower (by decide) h)
  · rintro rfl
    exact hcolon (eq_of_toLower (by decide) h)

/-- What a pattern reads without regard to case is what it can be filled to, but for the case. -/
theorem reads_toLower_iff :
    Reads (fun p c => p.toLower = c.toLower) pattern text ↔
      ∃ s, Fills pattern s ∧ s.map Char.toLower = text.map Char.toLower := by
  constructor
  · intro h
    induction h with
    | nil => exact ⟨[], .nil, rfl⟩
    | @label l _ _ hne hlabel _ ih =>
      obtain ⟨s, hs, hlower⟩ := ih
      refine ⟨l ++ s, .label hne (fun c hc => inLabel_iff.mp (hlabel c hc)) hs, ?_⟩
      rw [List.map_append, List.map_append, hlower]
    | @char p _ _ _ hstar hlike _ ih =>
      obtain ⟨s, hs, hlower⟩ := ih
      refine ⟨p :: s, .char hstar hs, ?_⟩
      rw [List.map_cons, List.map_cons, hlower, hlike]
  · -- Backwards the text is cut where the filled pattern is.
    rintro ⟨s, hs, hlower⟩
    induction hs generalizing text with
    | nil =>
      rw [List.map_eq_nil_iff.mp hlower.symm]
      exact .nil
    | @label l _ _ hne hlabel _ ih =>
      rw [List.map_append] at hlower
      obtain ⟨l', t, rfl, hl, ht⟩ := List.map_eq_append_iff.mp hlower.symm
      refine .label ?_ ?_ (ih ht.symm)
      · rintro rfl
        exact hne (List.map_eq_nil_iff.mp hl.symm)
      · intro d hd
        obtain ⟨c, hc, hcd⟩ := List.mem_map.mp (hl ▸ List.mem_map_of_mem hd)
        exact inLabel_of_toLower hcd (inLabel_iff.mpr (hlabel c hc))
    | @char p _ _ hstar _ ih =>
      obtain ⟨c, t, rfl, hc, ht⟩ := List.map_eq_cons_iff.mp hlower.symm
      exact .char hstar hc.symm (ih ht.symm)

/-- An ASCII character is folded to its lower case. -/
theorem foldCase_of_ascii {c : Char} (hc : c.toNat < 0x80) : foldCase c = c.toLower := by
  unfold foldCase
  rw [if_neg, if_neg]
  · rintro rfl
    exact absurd hc (by decide)
  · rintro rfl
    exact absurd hc (by decide)

/-- Two comparisons that agree on the characters at hand read the same. -/
theorem Reads.congr {like' : Char → Char → Prop} (h : Reads like pattern text)
    (hlike : ∀ p ∈ pattern, ∀ c ∈ text, like p c → like' p c) : Reads like' pattern text := by
  induction h with
  | nil => exact .nil
  | label hne hlabel _ ih =>
    exact .label hne hlabel (ih fun p hp c hc =>
      hlike p (List.mem_cons_of_mem _ hp) c (List.mem_append_right _ hc))
  | char hstar hchar _ ih =>
    exact .char hstar (hlike _ List.mem_cons_self _ List.mem_cons_self hchar) (ih fun p hp c hc =>
      hlike p (List.mem_cons_of_mem _ hp) c (List.mem_cons_of_mem _ hc))

/-- Among ASCII texts, matching a pattern is filling its stars with labels. -/
theorem matchesPattern_iff_fills (hpattern : ∀ p ∈ pattern, p.toNat < 0x80)
    (htext : ∀ c ∈ text, c.toNat < 0x80) :
    matchesPattern pattern text = true ↔
      ∃ s, Fills pattern s ∧ s.map Char.toLower = text.map Char.toLower := by
  rw [matchesPattern_iff, ← reads_toLower_iff]
  constructor
  · intro h
    refine h.congr fun p hp c hc hfold => ?_
    rwa [SameFold, foldCase_of_ascii (hpattern p hp), foldCase_of_ascii (htext c hc)] at hfold
  · intro h
    refine h.congr fun p hp c hc hlower => ?_
    rwa [SameFold, foldCase_of_ascii (hpattern p hp), foldCase_of_ascii (htext c hc)]

/-- What has no `*` stays as it is. -/
theorem Fills.prepend {s : List Char} (hs : '*' ∉ s) (h : Fills pattern text) :
    Fills (s ++ pattern) (s ++ text) := by
  induction s with
  | nil => exact h
  | cons c s ih =>
    exact .char (fun hc => hs (hc ▸ List.mem_cons_self))
      (ih fun hmem => hs (List.mem_cons_of_mem _ hmem))

/-- Without a `*` there is nothing to fill. -/
theorem fills_iff_eq (hpattern : '*' ∉ pattern) : Fills pattern text ↔ text = pattern := by
  constructor
  · intro h
    induction h with
    | nil => rfl
    | label => exact absurd List.mem_cons_self hpattern
    | char _ _ ih => rw [ih fun hmem => hpattern (List.mem_cons_of_mem _ hmem)]
  · rintro rfl
    have hfills := Fills.prepend hpattern .nil
    rwa [List.append_nil] at hfills

/-! ## What is compiled -/

namespace Engine

/-- No character takes more of the engine's limit than a star. -/
theorem charSize_le (c : Char) : charSize c ≤ 1044 := by
  have hutf8 := c.utf8Size_le_four
  unfold charSize
  split_ifs <;> omega

/-- A pattern takes no more of the limit than as many stars. -/
theorem foldl_charSize_le (e : List Char) (n : ℕ) :
    e.foldl (fun n c => n + charSize c) n ≤ n + e.length * 1044 := by
  induction e generalizing n with
  | nil => exact Nat.le_refl n
  | cons c e ih =>
    have hc := charSize_le c
    have hrest := ih (n + charSize c)
    rw [List.foldl_cons, List.length_cons]
    omega

/-- The standard engine compiles all but very long patterns. -/
theorem size_standard_le {e : List Char} (he : e.length ≤ 10000) :
    standard.size e ≤ sizeLimit := by
  have hle : standard.size e ≤ 128 + e.length * 1044 := foldl_charSize_le e 128
  have hlimit : sizeLimit = 10485760 := rfl
  omega

/-- Stars take the limit up one by one. -/
theorem foldl_stars (m n : ℕ) :
    (List.replicate m '*').foldl (fun n c => n + charSize c) n = n + m * 1044 := by
  induction m generalizing n with
  | zero => rw [Nat.zero_mul]; rfl
  | succ m ih =>
    have hstar : charSize '*' = 1044 := rfl
    rw [List.replicate_succ, List.foldl_cons, ih, hstar]
    omega

/-- A pattern of stars is larger the more stars there are in it. -/
theorem size_standard_stars (m : ℕ) :
    standard.size (List.replicate m '*') = 128 + m * 1044 := foldl_stars m 128

end Engine

/-! ## Entries -/

open Text (isBlank trim)

/-- What is left of an entry without the white space around it and without the slashes that it then
ends in. -/
def Trims (entry e : List Char) : Prop :=
  ∃ before slashes after, entry = before ++ (e ++ slashes ++ after) ∧
    (∀ c ∈ before, isBlank c = true) ∧ (∀ c ∈ after, isBlank c = true) ∧
    (∀ c, (e ++ slashes).head? = some c → isBlank c = false) ∧
    (∀ c, (e ++ slashes).getLast? = some c → isBlank c = false) ∧
    (∀ c ∈ slashes, c = '/') ∧ e.getLast? ≠ some '/'

/-- A trim from the left takes the part before the first character that stays. -/
theorem dropWhile_append_eq {p : Char → Bool} {s t : List Char} (hs : ∀ c ∈ s, p c = true)
    (ht : ∀ c, t.head? = some c → p c = false) : (s ++ t).dropWhile p = t := by
  rw [List.dropWhile_append_of_pos hs]
  cases t with
  | nil => rfl
  | cons c t => exact List.dropWhile_cons_of_neg (by rw [ht c rfl]; decide)

/-- A trim from the right takes the part after the last character that stays. -/
theorem rdropWhile_append_eq {p : Char → Bool} {s t : List Char} (ht : ∀ c ∈ t, p c = true)
    (hs : ∀ c, s.getLast? = some c → p c = false) : (s ++ t).rdropWhile p = s := by
  unfold List.rdropWhile
  rw [List.reverse_append, dropWhile_append_eq, List.reverse_reverse]
  · exact fun c hc => ht c (List.mem_reverse.mp hc)
  · exact fun c hc => hs c (by rwa [List.head?_reverse] at hc)

/-- A text trimmed from the right does not end in what was trimmed. -/
theorem getLast?_rdropWhile {p : Char → Bool} {cs : List Char} {c : Char}
    (h : (cs.rdropWhile p).getLast? = some c) : p c = false := by
  unfold List.rdropWhile at h
  rw [List.getLast?_reverse] at h
  have hnot := List.head?_dropWhile_not p cs.reverse
  rwa [h] at hnot

/-- An entry is trimmed of white space on both sides, then of the slashes it ends in. -/
theorem trimEntry_eq (entry : String) : trimEntry entry =
    ((entry.toList.dropWhile isBlank).rdropWhile isBlank).rdropWhile (· = '/') := rfl

/-- There is only one way to trim an entry. -/
theorem Trims.eq_trimEntry {entry : String} {e : List Char} (h : Trims entry.toList e) :
    e = trimEntry entry := by
  obtain ⟨before, slashes, after, hentry, hbefore, hafter, hhead, hlast, hslashes, he⟩ := h
  have hcore : (entry.toList.dropWhile isBlank).rdropWhile isBlank = e ++ slashes := by
    rw [hentry]
    cases hempty : e ++ slashes with
    | nil =>
      -- Nothing but white space.
      have hblank : (before ++ after).dropWhile isBlank = [] :=
        List.dropWhile_eq_nil_iff.mpr fun c hc =>
          (List.mem_append.mp hc).elim (hbefore c) (hafter c)
      rw [List.nil_append, hblank, List.rdropWhile_nil]
    | cons c cs =>
      rw [hempty] at hhead hlast
      have hfirst : ∀ d, (c :: cs ++ after).head? = some d → isBlank d = false := hhead
      rw [dropWhile_append_eq hbefore hfirst, rdropWhile_append_eq hafter hlast]
  rw [trimEntry_eq, hcore, rdropWhile_append_eq (fun c hc => decide_eq_true (hslashes c hc))]
  intro c hc
  refine decide_eq_false ?_
  rintro rfl
  exact he hc

/-- What is trimmed off an entry is its white space and its slashes. -/
theorem trims_trimEntry (entry : String) : Trims entry.toList (trimEntry entry) := by
  rw [trimEntry_eq]
  generalize hrest : entry.toList.dropWhile isBlank = rest
  have hbefore : entry.toList = entry.toList.takeWhile isBlank ++ rest := by
    rw [← hrest, List.takeWhile_append_dropWhile]
  have hafter := List.rdropWhile_append_rtakeWhile (p := isBlank) (l := rest)
  generalize hcore : rest.rdropWhile isBlank = core at hafter
  have hslashes := List.rdropWhile_append_rtakeWhile (p := fun c => decide (c = '/')) (l := core)
  have hhead : ∀ c, core.head? = some c → isBlank c = false := by
    intro c hc
    -- The core begins where the rest does.
    have hfirst : rest.head? = some c := by
      rw [← hafter, List.head?_append, hc]
      rfl
    rw [← hrest] at hfirst
    have hnot := List.head?_dropWhile_not isBlank entry.toList
    rwa [hfirst] at hnot
  have hlast : ∀ c, core.getLast? = some c → isBlank c = false := by
    rw [← hcore]
    exact fun c hc => getLast?_rdropWhile hc
  refine ⟨entry.toList.takeWhile isBlank, core.rtakeWhile (· = '/'), rest.rtakeWhile isBlank,
    ?_, fun c hc => List.mem_takeWhile_imp hc, fun c hc => List.mem_rtakeWhile_imp hc,
    by rwa [hslashes], by rwa [hslashes], ?_, ?_⟩
  · rw [hslashes, hafter]
    exact hbefore
  · intro c hc
    have hslash := List.mem_rtakeWhile_imp hc
    exact of_decide_eq_true hslash
  · exact fun he => absurd (getLast?_rdropWhile he) (by decide)

/-- The trimmed entry is what is left of an entry. -/
theorem trims_iff {entry : String} {e : List Char} :
    Trims entry.toList e ↔ e = trimEntry entry := by
  refine ⟨Trims.eq_trimEntry, ?_⟩
  rintro rfl
  exact trims_trimEntry entry

/-- An entry names a scheme if `://` stands in it. -/
theorem namesScheme_iff {e : List Char} : namesScheme e = true ↔ [':', '/', '/'] <:+: e := by
  induction e with
  | nil => decide
  | cons c cs ih =>
    rw [List.infix_cons_iff, ← ih]
    conv_lhs => unfold namesScheme
    split
    · next heq => cases heq
    · next rest heq =>
      rw [heq]
      exact ⟨fun _ => .inl ⟨rest, rfl⟩, fun _ => rfl⟩
    · next d ds hne heq =>
      cases heq
      -- The three characters do not begin here.
      refine ⟨.inr, fun h => h.resolve_left ?_⟩
      rintro ⟨rest, heq⟩
      obtain ⟨rfl, hcs⟩ := List.cons.inj heq
      exact hne rest rfl hcs.symm

/-- An authority has the characters of the host and, after a colon, the digits of the port. -/
theorem mem_authority {a : Address} {c : Char} (hc : c ∈ a.authority) :
    c ∈ a.host.toList ∨ c = ':' ∨ ∃ n, c ∈ Nat.toDigits 10 n := by
  unfold Address.authority at hc
  refine (List.mem_append.mp hc).imp_right fun hc => ?_
  cases hport : a.port with
  | none =>
    rw [hport] at hc
    cases hc
  | some n =>
    rw [hport] at hc
    exact (List.mem_cons.mp hc).imp_right fun hc => ⟨n, hc⟩

/-- What an address is compared as is ASCII. -/
theorem ascii_candidate {text : String} {a : Address} (h : Address.parse? text = some a)
    (withScheme : Bool) : ∀ c ∈ a.candidate withScheme, c.toNat < 0x80 := by
  have hnormal := isNormal_of_parse h
  -- The host is ASCII, and so is the port behind its colon.
  have hauthority : ∀ c ∈ a.authority, c.toNat < 0x80 := by
    intro c hc
    rcases mem_authority hc with hc | rfl | ⟨n, hc⟩
    · exact hnormal.ascii c hc
    · decide
    · exact ascii_of_isAlphanum (Bool.or_eq_true_iff.mpr
        (.inr (Nat.isDigit_of_mem_toDigits (by decide) (Nat.le_refl 10) hc)))
  intro c hc
  unfold Address.candidate at hc
  split at hc
  · rw [List.append_assoc] at hc
    rcases List.mem_append.mp hc with hc | hc
    · exact (hnormal.scheme c hc).1.1
    · rcases List.mem_append.mp hc with hc | hc
      · exact (show ∀ c ∈ [':', '/', '/'], c.toNat < 0x80 by simp) c hc
      · exact hauthority c hc
  · exact hauthority c hc

/-- What an engine compiles finds the texts that match; what it refuses finds nothing. -/
theorem any_compile?_iff {k : Engine} :
    (k.compile? pattern).any (fun isMatch => isMatch text) = true ↔
      k.size pattern ≤ Engine.sizeLimit ∧ matchesPattern pattern text = true := by
  unfold Engine.compile?
  split
  · next hsize => exact ⟨fun h => ⟨hsize, h⟩, fun h => h.2⟩
  · next hsize => exact ⟨fun h => Bool.noConfusion h, fun h => absurd h.1 hsize⟩

/-- An entry allows an address exactly if it is compiled, should there be a `*` in it, and the address
is the entry with a label for every `*`, whatever the case of letters. -/
theorem entryAllows_iff (k : Engine) {text : String} {a : Address} {e : List Char}
    (ha : Address.parse? text = some a) (he : ∀ c ∈ e, c.toNat < 0x80) :
    entryAllows k e a = true ↔
      ('*' ∈ e → k.size e ≤ Engine.sizeLimit) ∧ ∃ s, Fills e s ∧
        s.map Char.toLower = (a.candidate ([':', '/', '/'] <:+: e)).map Char.toLower := by
  have hnames : namesScheme e = decide ([':', '/', '/'] <:+: e) := by
    rw [Bool.eq_iff_iff, decide_eq_true_iff]
    exact namesScheme_iff
  unfold entryAllows
  dsimp only
  rw [hnames]
  split
  · next hstar =>
    rw [any_compile?_iff, matchesPattern_iff_fills he (ascii_candidate ha _)]
    exact and_congr_left fun _ => (imp_iff_right hstar).symm
  · next hstar =>
    -- Without a star the engine is not asked, and the entry stands for itself.
    rw [beq_iff_eq, and_iff_right fun hmem => absurd hmem hstar]
    constructor
    · exact fun h => ⟨e, (fills_iff_eq hstar).mpr rfl, h⟩
    · rintro ⟨s, hs, h⟩
      rwa [(fills_iff_eq hstar).mp hs] at h

/-- An entry with a `*` among other characters allows nothing if it gets too large. -/
theorem originMatches_eq_false {k : Engine} {entry : String} {e : List Char}
    (he : Trims entry.toList e) (hstar : '*' ∈ e) (hmore : e ≠ ['*'])
    (hsize : Engine.sizeLimit < k.size e) (origin : String) :
    originMatches k entry origin = false := by
  unfold originMatches
  dsimp only
  rw [← trims_iff.mp he, decide_eq_false hmore, Bool.false_or]
  cases Address.parse? origin with
  | none => rfl
  | some a =>
    dsimp only [entryAllows]
    rw [if_pos hstar, Bool.eq_false_iff]
    exact fun hany => Nat.not_le_of_lt hsize (any_compile?_iff.mp hany).1

/-- An entry that is ASCII allows the origin of a URL exactly if, without white space around it and
slashes at its end, it is `*`, or can be filled to the origin, whatever the case of letters, and is
compiled, should there be a `*` in it. It is compared with the whole origin if `://` stands in it and
with the host and port otherwise. To what is no URL with a host only `*` applies. -/
theorem originMatches_iff (k : Engine) {entry origin : String} {e : List Char}
    (hascii : ∀ c ∈ entry.toList, c.toNat < 0x80) (he : Trims entry.toList e) :
    (∀ a, Address.parse? origin = some a →
      (originMatches k entry origin = true ↔
        e = ['*'] ∨ ('*' ∈ e → k.size e ≤ Engine.sizeLimit) ∧ ∃ s, Fills e s ∧
          s.map Char.toLower = (a.candidate ([':', '/', '/'] <:+: e)).map Char.toLower)) ∧
    (Address.parse? origin = none → (originMatches k entry origin = true ↔ e = ['*'])) := by
  -- Trimming leaves ASCII characters.
  have hmem : ∀ c ∈ e, c ∈ entry.toList := by
    obtain ⟨before, slashes, after, hentry, -⟩ := he
    intro c hc
    rw [hentry]
    simp [hc]
  unfold originMatches
  dsimp only
  rw [← trims_iff.mp he, Bool.or_eq_true, decide_eq_true_iff]
  constructor
  · intro a ha
    rw [ha]
    exact or_congr_right (entryAllows_iff k ha fun c hc => hascii c (hmem c hc))
  · intro hnone
    rw [hnone]
    simp

/-- Stars inside a label and inside a port. -/
theorem originMatches_shop :
    (∀ c ∈ " https://*op.Example.com:8*3/ ".toList, c.toNat < 0x80) ∧
      Trims " https://*op.Example.com:8*3/ ".toList
        ("https://".toList ++ '*' :: ("op.Example.com:8".toList ++ ['*', '3'])) ∧
      Address.parse? "https://shop.example.com:8443" =
        some ⟨"https", "shop.example.com", some 8443⟩ ∧
      originMatches .standard " https://*op.Example.com:8*3/ " "https://shop.example.com:8443" =
        true := by
  have hascii : ∀ c ∈ " https://*op.Example.com:8*3/ ".toList, c.toNat < 0x80 :=
    List.all_iff_forall_prop.mp (by decide +kernel)
  have htrims : Trims " https://*op.Example.com:8*3/ ".toList
      ("https://".toList ++ '*' :: ("op.Example.com:8".toList ++ ['*', '3'])) :=
    trims_iff.mpr (by decide +kernel)
  have hparse : Address.parse? "https://shop.example.com:8443" =
      some ⟨"https", "shop.example.com", some 8443⟩ := by decide +kernel
  -- The first star becomes `sh`, the second `44`.
  have hport : Fills ['*', '3'] (['4', '4'] ++ ['3']) :=
    .label (by decide) (by simp) (.char (by decide) .nil)
  have hhost : Fills ('*' :: ("op.Example.com:8".toList ++ ['*', '3']))
      (['s', 'h'] ++ ("op.Example.com:8".toList ++ (['4', '4'] ++ ['3']))) :=
    .label (by decide) (by simp) (hport.prepend (by decide +kernel))
  exact ⟨hascii, htrims, hparse, ((originMatches_iff .standard hascii htrims).1 _ hparse).mpr
    (.inr ⟨fun _ => Engine.size_standard_le (by decide +kernel),
      _, hhost.prepend (by decide +kernel), by decide +kernel⟩)⟩

/-- An entry of thirty thousand stars. -/
def manyStars : List Char := List.replicate 30000 '*'

/-- A host of thirty thousand letters. -/
def manyLetters : List Char := List.replicate 30000 'a'

/-- Stars become letters, one each. -/
theorem fills_stars (n : ℕ) : Fills (List.replicate n '*') (List.replicate n 'a') := by
  induction n with
  | zero => exact .nil
  | succ n ih =>
    have hletter : ∀ c ∈ ['a'], c ≠ '.' ∧ c ≠ '/' ∧ c ≠ ':' := List.all_iff_forall_prop.mp (by decide)
    have hfills : Fills ('*' :: List.replicate n '*') (['a'] ++ List.replicate n 'a') :=
      .label (List.cons_ne_nil _ _) hletter ih
    exact hfills

/-- The long entry has nothing to trim. -/
theorem trims_manyStars : Trims manyStars manyStars := by
  have hstars : ∀ c ∈ manyStars, c = '*' := fun c hc => List.eq_of_mem_replicate hc
  have hblank : ∀ c ∈ manyStars, isBlank c = false := fun c hc => by
    rw [hstars c hc]
    rfl
  refine ⟨[], [], [], by simp, by simp, by simp, ?_, ?_, by simp, fun hslash => ?_⟩
  · exact fun c hc => hblank c (List.mem_of_head? (List.append_nil manyStars ▸ hc))
  · exact fun c hc => hblank c (List.mem_of_getLast? (List.append_nil manyStars ▸ hc))
  · exact absurd (hstars '/' (List.mem_of_getLast? hslash)) (by decide)

/-- The host of letters is one that the stars can be filled to, but the entry refuses it: the engine
does not compile so many stars. -/
theorem many_stars_refused :
    (∀ c ∈ (String.ofList manyStars).toList, c.toNat < 0x80) ∧
      Trims (String.ofList manyStars).toList manyStars ∧
      Address.parse? (String.ofList ("http://".toList ++ manyLetters)) =
        some ⟨"http", String.ofList manyLetters, none⟩ ∧
      (∃ s, Fills manyStars s ∧ s.map Char.toLower =
        (Address.candidate ⟨"http", String.ofList manyLetters, none⟩
          ([':', '/', '/'] <:+: manyStars)).map Char.toLower) ∧
      originMatches .standard (String.ofList manyStars)
        (String.ofList ("http://".toList ++ manyLetters)) = false := by
  have hstars : ∀ c ∈ manyStars, c = '*' := fun c hc => List.eq_of_mem_replicate hc
  have hletters : manyLetters ⊆ smallLetters := fun c hc => by
    rw [List.eq_of_mem_replicate hc]
    decide
  have hlength : manyStars.length = 30000 := List.length_replicate
  have hne : manyLetters ≠ [] := List.ne_nil_of_length_pos (by
    rw [manyLetters, List.length_replicate]
    decide)
  have hmem : '*' ∈ manyStars := List.mem_replicate.mpr ⟨by decide, rfl⟩
  -- Stars alone name no scheme.
  have hplain : ¬ [':', '/', '/'] <:+: manyStars := fun hnames =>
    absurd (hstars ':' (hnames.subset List.mem_cons_self)) (by decide)
  have htrims : Trims (String.ofList manyStars).toList manyStars := by
    rw [String.toList_ofList]
    exact trims_manyStars
  refine ⟨fun c hc => ?_, htrims, parse?_letters hne hletters, ⟨manyLetters, fills_stars 30000, ?_⟩,
    originMatches_eq_false htrims hmem (fun h => ?_) ?_ _⟩
  · rw [String.toList_ofList] at hc
    rw [hstars c hc]
    decide
  · -- So the entry is compared with the host.
    have hcandidate : Address.candidate ⟨"http", String.ofList manyLetters, none⟩
        ([':', '/', '/'] <:+: manyStars) = manyLetters := by
      unfold Address.candidate Address.authority
      rw [if_neg (by simpa using hplain)]
      dsimp only
      rw [List.append_nil, String.toList_ofList]
    rw [hcandidate]
  · rw [h] at hlength
    exact absurd hlength (by decide)
  · unfold manyStars
    -- And is beyond the limit of the engine.
    rw [Engine.size_standard_stars]
    decide

end FrameHost.Origin
