import FrameHost.Json.Reader
import Mathlib.Data.String.Basic

/-!
# Values that a text can write

A parsed value is canonical (`canonical_parse`): every object in it has its members in the order of
their keys, each key once, and every integer fits into 64 bits. The members of an object that is
being read are put into place one by one, where a later value of a key takes the place of an earlier
one, and members that are in order already stay as they are (`ofMembers_of_ordered`).

Arrays and objects are read in the same turns, but for the sign that ends them and for the words of
their faults (`seriesTurn`). The readers are followed once: a property of values that every kind of value hands on, together with
one of texts that every reader keeps, holds of whatever is read (`ReadsInto.parse`).
-/

namespace FrameHost.Json

/-! ## Members of objects -/

namespace Value

variable {k l : String} {v w : Value} {m : String × Value} {ms : List (String × Value)}

/-- The keys of a list of members grow, so none comes twice. -/
def Ordered (ms : List (String × Value)) : Prop := (ms.map Prod.fst).Pairwise (· < ·)

instance (ms : List (String × Value)) : Decidable (Ordered ms) :=
  inferInstanceAs (Decidable (List.Pairwise _ _))

/-- Putting a member adds no key but its own. -/
theorem mem_keys_putMember (h : l ∈ (putMember k v ms).map Prod.fst) :
    l = k ∨ l ∈ ms.map Prod.fst := by
  induction ms with
  | nil => exact .inl (List.mem_singleton.mp h)
  | cons m ms ih =>
    obtain ⟨k', w⟩ := m
    unfold putMember at h
    split at h
    · next heq =>
      subst heq
      exact .inr h
    · split at h
      · exact List.mem_cons.mp h
      · rcases List.mem_cons.mp h with rfl | h
        · exact .inr List.mem_cons_self
        · exact (ih h).imp_right (List.mem_cons_of_mem _)

/-- Putting a member adds no member but its own. -/
theorem mem_putMember (h : m ∈ putMember k v ms) : m = (k, v) ∨ m ∈ ms := by
  induction ms with
  | nil => exact .inl (List.mem_singleton.mp h)
  | cons row ms ih =>
    obtain ⟨l, w⟩ := row
    unfold putMember at h
    split at h
    · exact (List.mem_cons.mp h).imp_right (List.mem_cons_of_mem _)
    · split at h
      · exact List.mem_cons.mp h
      · rcases List.mem_cons.mp h with rfl | h
        · exact .inr List.mem_cons_self
        · exact (ih h).imp_right (List.mem_cons_of_mem _)

/-- Putting a member keeps the keys ascending. -/
theorem Ordered.putMember (hms : Ordered ms) (k : String) (v : Value) :
    Ordered (Value.putMember k v ms) := by
  induction ms with
  | nil => exact List.pairwise_singleton _ _
  | cons m ms ih =>
    obtain ⟨l, w⟩ := m
    obtain ⟨hl, htail⟩ := List.pairwise_cons.mp hms
    unfold Value.putMember
    split
    · next heq =>
      subst heq
      exact hms
    · next hne =>
      split
      · next hlt =>
        -- The new key is below the first one, and so below all of them.
        refine List.pairwise_cons.mpr ⟨fun k' hk' => ?_, hms⟩
        rcases List.mem_cons.mp hk' with rfl | hk'
        · exact hlt
        · exact lt_trans hlt (hl k' hk')
      · next hnlt =>
        have hlt : l < k := lt_of_le_of_ne (not_lt.mp hnlt) fun heq => hne heq.symm
        refine List.pairwise_cons.mpr ⟨fun k' hk' => ?_, ih htail⟩
        rcases mem_keys_putMember hk' with rfl | hk'
        · exact hlt
        · exact hl k' hk'

/-- A key above all others comes last. -/
theorem putMember_of_above (habove : ∀ l ∈ ms.map Prod.fst, l < k) :
    putMember k v ms = ms ++ [(k, v)] := by
  induction ms with
  | nil => rfl
  | cons m ms ih =>
    obtain ⟨l, w⟩ := m
    have hlt : l < k := habove l List.mem_cons_self
    have htail : ∀ l' ∈ ms.map Prod.fst, l' < k := fun l' hl' =>
      habove l' (List.mem_cons_of_mem _ hl')
    unfold putMember
    rw [if_neg (ne_of_gt hlt), if_neg (not_lt_of_gt hlt), ih htail]
    rfl

/-! ## Looking up -/

/-- The first member of the key wins. -/
theorem member?_cons :
    member? k ((l, v) :: ms) = if l = k then some v else member? k ms := rfl

/-- A key that heads no member is not found. -/
theorem member?_eq_none (h : k ∉ ms.map Prod.fst) : member? k ms = none := by
  induction ms with
  | nil => rfl
  | cons m ms ih =>
    obtain ⟨hm, hms⟩ := not_or.mp fun hk => h (List.mem_cons.mpr hk)
    rw [member?_cons, if_neg fun heq => hm heq.symm]
    exact ih hms

/-- A value found is a member's. -/
theorem mem_of_member? (h : member? k ms = some v) : (k, v) ∈ ms := by
  induction ms with
  | nil => cases h
  | cons m ms ih =>
    obtain ⟨l, w⟩ := m
    rw [member?_cons] at h
    split at h
    · next heq =>
      cases h
      exact heq ▸ List.mem_cons_self
    · exact List.mem_cons_of_mem _ (ih h)

/-- Where the keys ascend, every member is found under its key. -/
theorem member?_of_mem (hms : Ordered ms) (h : (k, v) ∈ ms) : member? k ms = some v := by
  induction ms with
  | nil => cases h
  | cons m ms ih =>
    obtain ⟨l, w⟩ := m
    obtain ⟨hl, htail⟩ := List.pairwise_cons.mp hms
    rw [member?_cons]
    rcases List.mem_cons.mp h with heq | hmem
    · cases heq
      exact if_pos rfl
    · rw [if_neg (ne_of_lt (hl k (List.mem_map_of_mem hmem)))]
      exact ih htail hmem

/-- A put member is found under its key, and hides no other. -/
theorem member?_putMember :
    member? l (putMember k v ms) = if k = l then some v else member? l ms := by
  induction ms with
  | nil => rfl
  | cons m ms ih =>
    obtain ⟨k', w⟩ := m
    unfold putMember
    split
    · -- The member that is there is replaced, or the search goes on behind it.
      next heq =>
      subst heq
      by_cases hl : k = l
      · rw [member?_cons, if_pos hl, if_pos hl]
      · rw [member?_cons, member?_cons, if_neg hl, if_neg hl, if_neg hl]
    · next hne =>
      split
      · rw [member?_cons]
      · rw [member?_cons, member?_cons, ih]
        by_cases hk' : k' = l
        · rw [if_pos hk', if_neg fun hk => hne (hk.trans hk'.symm), if_pos hk']
        · rw [if_neg hk', if_neg hk']

/-! ## Objects from members -/

/-- Putting any members one by one into ascending ones gives ascending ones. -/
theorem ordered_foldl_putMember {acc : List (String × Value)} (hacc : Ordered acc)
    (ms : List (String × Value)) :
    Ordered (ms.foldl (fun acc m => putMember m.1 m.2 acc) acc) := by
  induction ms generalizing acc with
  | nil => exact hacc
  | cons m ms ih => exact ih (hacc.putMember m.1 m.2)

/-- Putting members one by one brings in no others. -/
theorem mem_foldl_putMember {acc : List (String × Value)}
    (h : m ∈ ms.foldl (fun acc m => putMember m.1 m.2 acc) acc) : m ∈ acc ∨ m ∈ ms := by
  induction ms generalizing acc with
  | nil => exact .inl h
  | cons row ms ih =>
    rcases ih h with hput | hms
    · rcases mem_putMember hput with rfl | hacc
      · exact .inr List.mem_cons_self
      · exact .inl hacc
    · exact .inr (List.mem_cons_of_mem _ hms)

/-- Members that ascend already are put as they stand, each at the end. -/
theorem foldl_putMember_of_ordered {acc : List (String × Value)} (h : Ordered (acc ++ ms)) :
    ms.foldl (fun acc m => putMember m.1 m.2 acc) acc = acc ++ ms := by
  induction ms generalizing acc with
  | nil => exact (List.append_nil acc).symm
  | cons m ms ih =>
    have hsplit : acc ++ m :: ms = (acc ++ [m]) ++ ms := (List.append_cons acc m ms)
    have habove : ∀ l ∈ acc.map Prod.fst, l < m.1 := by
      unfold Ordered at h
      rw [List.map_append, List.pairwise_append] at h
      exact fun l hl => h.2.2 l hl m.1 List.mem_cons_self
    rw [List.foldl_cons, putMember_of_above habove, hsplit]
    exact ih (hsplit ▸ h)

/-- Members in order make the object that has them. -/
theorem ofMembers_of_ordered (hms : Ordered ms) : ofMembers ms = .object ms := by
  have hempty : Ordered ([] ++ ms) := hms
  exact congrArg Value.object (foldl_putMember_of_ordered hempty)

end Value

/-! ## Canonical values -/

/-- An integer fits into 64 bits, with a sign or without one. -/
def Number.Fits : Number → Prop
  | .int n => -Nat.pow 2 63 ≤ n ∧ n < Nat.pow 2 64
  | .double _ => True

instance (n : Number) : Decidable n.Fits := by
  cases n <;> unfold Number.Fits <;> infer_instance

/-- The objects of a value have their members in order, and its integers fit into 64 bits. -/
inductive Value.Canonical : Value → Prop
  | null : Canonical .null
  | bool (b : Bool) : Canonical (.bool b)
  | number {n : Number} (hn : n.Fits) : Canonical (.number n)
  | string (s : String) : Canonical (.string s)
  | array {xs : List Value} (hxs : ∀ x ∈ xs, Canonical x) : Canonical (.array xs)
  | object {ms : List (String × Value)} (hms : Ordered ms) (hvs : ∀ m ∈ ms, Canonical m.2) :
      Canonical (.object ms)

namespace Value.Canonical

variable {ms : List (String × Value)}

/-- A canonical object's keys ascend. -/
theorem ordered (h : (Value.object ms).Canonical) : Ordered ms := by
  cases h with
  | object hms _ => exact hms

/-- What a canonical object holds is canonical. -/
theorem member? (h : (Value.object ms).Canonical) {k : String} {v : Value}
    (hv : Value.member? k ms = some v) : v.Canonical := by
  cases h with
  | object _ hvs => exact hvs (k, v) (Value.mem_of_member? hv)

/-- An object made of canonical values is canonical, whatever the order of its members. -/
theorem ofMembers (hvs : ∀ m ∈ ms, m.2.Canonical) : (Value.ofMembers ms).Canonical := by
  have hempty : Ordered [] := List.Pairwise.nil
  refine .object (ordered_foldl_putMember hempty ms) fun m hm => ?_
  rcases mem_foldl_putMember hm with hnil | hms
  · cases hnil
  · exact hvs m hms

end Value.Canonical

/-! ## What the readers find -/

section Readers

variable {α β : Type} {cs rest : List Char}

/-- A sequence of readers has read when the first has read and the second goes on from there. -/
theorem Read.of_andThen {r : Read α} {f : α → List Char → Read β} {b : β}
    (h : r.andThen f = .ok (b, rest)) : ∃ a cs, r = .ok (a, cs) ∧ f a cs = .ok (b, rest) := by
  cases r with
  | error e => cases h
  | ok p => exact ⟨p.1, p.2, rfl, h⟩

/-- A mapped reader has read when the reader itself has. -/
theorem Read.of_as {r : Read α} {f : α → β} {b : β} (h : r.as f = .ok (b, rest)) :
    ∃ a, r = .ok (a, rest) ∧ f a = b := by
  obtain ⟨a, cs, hr, hf⟩ := Read.of_andThen h
  cases hf
  exact ⟨a, hr, rfl⟩

/-- A number that a text can write: an integer that fits, the double that a decimal is read as, or a
zero. -/
inductive Number.Written : Number → Prop
  | int {k : ℤ} (hk : (Number.int k).Fits) : Written (.int k)
  | decimal {negative : Bool} {c : ℕ} {e : ℤ} {x : Double}
      (hx : Double.ofDecimal negative c e = some x) : Written (.double x)
  | zero (negative : Bool) : Written (.double (Double.zero negative))

/-- A number as the reader makes it fits its form. -/
theorem Number.Written.fits {n : Number} (hn : n.Written) : n.Fits := by
  cases hn with
  | int hk => exact hk
  | decimal => trivial
  | zero => trivial

/-- A double that is read is in written form. -/
theorem written_double {negative : Bool} {c : ℕ} {e : ℤ} {n : Number}
    (h : double negative c e cs = .ok (n, rest)) : n.Written := by
  unfold double at h
  split at h
  · next hx =>
    cases h
    exact .decimal hx
  · cases h

/-- The digits that are taken make a number of 64 bits. -/
theorem takeDigits_le {k : ℕ} (hk : k ≤ greatestSignificand) (ds : List Char) :
    (takeDigits k ds).1 ≤ greatestSignificand := by
  induction ds generalizing k with
  | nil => exact hk
  | cons d ds ih =>
    unfold takeDigits
    dsimp only
    split
    · next hle => exact ih hle
    · exact hk

/-- A whole number that is read is in written form, also where its digits overflow into a double. -/
theorem written_integer {negative : Bool} {c more : ℕ} {n : Number} (hc : c ≤ greatestSignificand)
    (h : integer negative c more cs = .ok (n, rest)) : n.Written := by
  have hlt : c < Nat.pow 2 64 := Nat.lt_of_le_of_lt hc (by decide)
  unfold integer at h
  split at h
  · exact written_double h
  · split at h
    · split at h
      · next hfits =>
        cases h
        have hle := hfits.2
        refine .int ⟨?_, ?_⟩ <;> omega
      · exact written_double h
    · cases h
      refine .int ⟨?_, ?_⟩ <;> omega

/-- What is made of the exponent of a double. -/
def withExponent (negative : Bool) (k : ℕ) (scale : ℤ) (e? : Option ℤ) (cs : List Char) :
    Read Number :=
  match e? with
  | some e => double negative k (scale + e) cs
  | none => .ok (.double (Double.zero negative), cs)

/-- A number read through its exponent is in written form. -/
theorem written_withExponent {negative : Bool} {k : ℕ} {scale : ℤ} {e? : Option ℤ} {n : Number}
    (h : withExponent negative k scale e? cs = .ok (n, rest)) : n.Written := by
  cases e? with
  | some e => exact written_double h
  | none =>
    cases h
    exact .zero negative

/-- A number read from its mantissa on is in written form. -/
theorem written_afterMantissa {negative : Bool} {c : ℕ} {e : ℤ} {n : Number}
    (h : afterMantissa negative c e cs = .ok (n, rest)) : n.Written := by
  have hexponent : ∀ cs, (exponent (c ≠ 0) cs).andThen (withExponent negative c e) = .ok (n, rest) →
      n.Written := by
    intro cs h
    obtain ⟨e?, cs', -, h⟩ := Read.of_andThen h
    exact written_withExponent h
  unfold afterMantissa at h
  split at h
  · exact hexponent _ h
  · exact hexponent _ h
  · exact written_double h

/-- Every number read is in written form. -/
theorem written_unsigned {negative : Bool} {n : Number}
    (h : unsigned negative cs = .ok (n, rest)) : n.Written := by
  unfold unsigned at h
  dsimp only at h
  split at h
  · cases h
  · cases h
  · split at h
    · split at h
      · cases h
      · exact written_afterMantissa h
    · exact written_afterMantissa h
    · exact written_afterMantissa h
    · exact written_integer (takeDigits_le (Nat.zero_le _) _) h

/-- Skipping blanks leaves an end of the text. -/
theorem skipBlanks_suffix (cs : List Char) : skipBlanks cs <:+ cs := List.dropWhile_suffix _

/-- What follows the first character that is no blank is an end of the text. -/
theorem suffix_of_skipBlanks {c : Char} {cs' : List Char} (h : skipBlanks cs = c :: cs') :
    cs' <:+ cs := (List.suffix_cons c cs').trans (h ▸ skipBlanks_suffix cs)

/-- A literal that is read leaves an end of the text. -/
theorem suffix_literal {es : List Char} {u : Unit} (h : literal es cs = .ok (u, rest)) :
    rest <:+ cs := by
  induction es generalizing cs with
  | nil =>
    cases h
    exact List.suffix_rfl
  | cons e es ih =>
    cases cs with
    | nil => cases h
    | cons c cs =>
      unfold literal at h
      split at h
      · exact (ih h).trans (List.suffix_cons c cs)
      · cases h

/-! ### Series -/

/-- A reader of a series of elements ends the series, or it reads an element and then the rest. It is
given the elements that were read, the last one first, and whether there are none yet. -/
structure TakesSeries (element : List Char → Read α)
    (series : List α → Bool → ℕ → List Char → Read (List α)) : Prop where
  spent : ∀ {acc first cs as rest}, series acc first 0 cs ≠ .ok (as, rest)
  step : ∀ {acc first fuel cs as rest}, series acc first (fuel + 1) cs = .ok (as, rest) →
    (as = acc.reverse ∧ rest <:+ cs) ∨
      ∃ cs' a after, cs' <:+ cs ∧ element cs' = .ok (a, after) ∧
        series (a :: acc) false fuel after = .ok (as, rest)

/-- One turn of a reader of a series up to the character `close`: the series ends, or an element is
next, after a comma unless it is the first. -/
def seriesTurn (close : Char) (ended other : Fault) (element : List Char → Read α)
    (next : List α → List Char → Read (List α)) (acc : List α) (first : Bool) (cs : List Char) :
    Read (List α) :=
  match skipBlanks cs with
  | [] => .error (.next ended [])
  | c :: cs =>
    if c = close then .ok (acc.reverse, cs)
    else if first then (element (c :: cs)).andThen fun a cs => next (a :: acc) cs
    else if c = ',' then
      match skipBlanks cs with
      | [] => .error (.next .endOfValue [])
      | c :: cs =>
        if c = close then .error (.next .trailingComma (c :: cs))
        else (element (c :: cs)).andThen fun a cs => next (a :: acc) cs
    else .error (.next other (c :: cs))

/-- A reader takes turns at a series up to the character `close`, as long as its fuel lasts. -/
structure IsSeries (close : Char) (element : List Char → Read α)
    (series : List α → Bool → ℕ → List Char → Read (List α)) : Prop where
  spent : ∀ {acc first cs r}, series acc first 0 cs ≠ .ok r
  turn : ∃ ended other, ∀ acc first fuel cs, series acc first (fuel + 1) cs =
    seriesTurn close ended other element (fun acc cs => series acc false fuel cs) acc first cs

/-- The items of an array are a series. -/
theorem isSeries_items (value : List Char → Read α) : IsSeries ']' value (items value) where
  spent h := by cases h
  turn := by
    refine ⟨.endOfList, .expectedListEnd, fun acc first fuel cs => ?_⟩
    rw [items, seriesTurn]
    rcases skipBlanks cs with _ | ⟨c, cs'⟩
    · rfl
    · by_cases hc : c = ']'
      · simp [hc]
      · rcases hnext : skipBlanks cs' with _ | ⟨d, ds⟩
        · simp [hc, hnext]
        · by_cases hd : d = ']' <;> simp [hc, hd, hnext]

/-- The members of an object are a series. -/
theorem isSeries_members (member : List Char → Read α) :
    IsSeries '\x7d' member (members member) where
  spent h := by cases h
  turn := by
    refine ⟨.endOfObject, .expectedObjectEnd, fun acc first fuel cs => ?_⟩
    rw [members, seriesTurn]
    rcases skipBlanks cs with _ | ⟨c, cs'⟩
    · rfl
    · by_cases hc : c = '\x7d'
      · simp [hc]
      · rcases hnext : skipBlanks cs' with _ | ⟨d, ds⟩
        · simp [hc, hnext]
        · by_cases hd : d = '\x7d' <;> simp [hc, hd, hnext]

/-- A reader of a series takes its elements one after another. -/
theorem IsSeries.takes {close : Char} {element : List Char → Read α}
    {series : List α → Bool → ℕ → List Char → Read (List α)}
    (h : IsSeries close element series) : TakesSeries element series where
  spent := h.spent
  step {acc first fuel cs as rest} hread := by
    obtain ⟨ended, other, hturn⟩ := h.turn
    rw [hturn] at hread
    unfold seriesTurn at hread
    split at hread
    · cases hread
    · next c cs' hopen =>
      have hsuffix : c :: cs' <:+ cs := hopen ▸ skipBlanks_suffix cs
      split at hread
      · cases hread
        exact .inl ⟨rfl, suffix_of_skipBlanks hopen⟩
      · split at hread
        · obtain ⟨a, after, ha, hread⟩ := Read.of_andThen hread
          exact .inr ⟨_, a, after, hsuffix, ha, hread⟩
        · split at hread
          · split at hread
            · cases hread
            · next d ds hnext =>
              split at hread
              · cases hread
              · obtain ⟨a, after, ha, hread⟩ := Read.of_andThen hread
                refine .inr ⟨_, a, after, ?_, ha, hread⟩
                exact (hnext ▸ skipBlanks_suffix cs').trans
                  ((List.suffix_cons c cs').trans hsuffix)
          · cases hread

namespace TakesSeries

variable {element : List Char → Read α} {series : List α → Bool → ℕ → List Char → Read (List α)}
  {acc as : List α} {first : Bool} {fuel : ℕ}

/-- What holds of every element that is read holds of every element of the series, and what holds of
the text before it and is kept by every element holds of the text after it. -/
theorem keeps (hseries : TakesSeries element series) {P : α → Prop} {Q : List Char → Prop}
    (hQ : ∀ {cs cs'}, cs' <:+ cs → Q cs → Q cs')
    (helement : ∀ {cs a rest}, Q cs → element cs = .ok (a, rest) → P a ∧ Q rest)
    (hcs : Q cs) (hacc : ∀ a ∈ acc, P a) (h : series acc first fuel cs = .ok (as, rest)) :
    (∀ a ∈ as, P a) ∧ Q rest := by
  induction fuel generalizing acc first cs with
  | zero => exact absurd h hseries.spent
  | succ fuel ih =>
    rcases hseries.step h with ⟨rfl, hrest⟩ | ⟨cs', a, after, hcs', ha, h⟩
    · exact ⟨fun a ha => hacc a (List.mem_reverse.mp ha), hQ hrest hcs⟩
    · obtain ⟨hPa, hafter⟩ := helement (hQ hcs' hcs) ha
      exact ih hafter (List.forall_mem_cons.mpr ⟨hPa, hacc⟩) h

/-- Every element takes fuel, and so does the end. -/
theorem length_lt (hseries : TakesSeries element series)
    (h : series acc first fuel cs = .ok (as, rest)) : as.length < acc.length + fuel := by
  induction fuel generalizing acc first cs with
  | zero => exact absurd h hseries.spent
  | succ fuel ih =>
    rcases hseries.step h with ⟨rfl, -⟩ | ⟨_, a, _, -, -, h⟩
    · rw [List.length_reverse]
      omega
    · have hlt := ih h
      rw [List.length_cons] at hlt
      omega

end TakesSeries

/-! ### Values -/

/-- Reading keeps `Q` of the text that is left, and what it finds in a text with `Q` has `P`. -/
structure ReadsInto (Q : List Char → Prop) (P : Value → Prop) : Prop where
  suffix : ∀ {cs cs'}, cs' <:+ cs → Q cs → Q cs'
  null : P .null
  bool : ∀ b, P (.bool b)
  number : ∀ {negative cs n rest}, Q cs → unsigned negative cs = .ok (n, rest) →
    P (.number n) ∧ Q rest
  string : ∀ {cs s rest}, Q cs → stringBody cs = .ok (s, rest) → P (.string s) ∧ Q rest
  array : ∀ {cs xs}, Q cs → xs.length ≤ cs.length → (∀ x ∈ xs, P x) → P (.array xs)
  object : ∀ {ms : List (String × Value)}, (∀ m ∈ ms, P m.2) → P (Value.ofMembers ms)

namespace ReadsInto

variable {Q : List Char → Prop} {P : Value → Prop}

/-- A member's key that is read leaves what any reader of the kind leaves. -/
theorem memberKey (h : ReadsInto Q P) {k : String} (hcs : Q cs)
    (hk : Json.memberKey stringBody cs = .ok (k, rest)) : Q rest := by
  unfold Json.memberKey at hk
  split at hk
  · next cs' =>
    obtain ⟨s, after, hs, hk⟩ := Read.of_andThen hk
    have hafter := (h.string (h.suffix (List.suffix_cons _ _) hcs) hs).2
    split at hk
    · cases hk
    · next hcolon =>
      cases hk
      exact h.suffix (suffix_of_skipBlanks hcolon) hafter
    · cases hk
  · cases hk

/-- So does a literal. -/
theorem literal (h : ReadsInto Q P) {es : List Char} {u : Unit} (hcs : Q cs)
    (hread : Json.literal es cs = .ok (u, rest)) : Q rest := h.suffix (suffix_literal hread) hcs

/-- A reader of values that keeps the two conditions on strings and numbers keeps them on every
value. -/
theorem value (h : ReadsInto Q P) {depth : ℕ} {v : Value} (hcs : Q cs)
    (hread : Json.value depth cs = .ok (v, rest)) : P v ∧ Q rest := by
  -- On the depth that is left; an array and an object spend one of it.
  induction depth using Nat.strongRecOn generalizing cs v rest with
  | ind depth ih =>
    unfold Json.value at hread
    split at hread
    case h_1 => cases hread
    case h_2 cs' heq =>
      obtain ⟨u, hu, rfl⟩ := Read.of_as hread
      exact ⟨h.null, h.literal (h.suffix (suffix_of_skipBlanks heq) hcs) hu⟩
    case h_3 cs' heq =>
      obtain ⟨u, hu, rfl⟩ := Read.of_as hread
      exact ⟨h.bool true, h.literal (h.suffix (suffix_of_skipBlanks heq) hcs) hu⟩
    case h_4 cs' heq =>
      obtain ⟨u, hu, rfl⟩ := Read.of_as hread
      exact ⟨h.bool false, h.literal (h.suffix (suffix_of_skipBlanks heq) hcs) hu⟩
    case h_5 cs' heq =>
      obtain ⟨n, hn, rfl⟩ := Read.of_as hread
      exact h.number (h.suffix (suffix_of_skipBlanks heq) hcs) hn
    case h_6 cs' heq =>
      obtain ⟨s, hs, rfl⟩ := Read.of_as hread
      exact h.string (h.suffix (suffix_of_skipBlanks heq) hcs) hs
    case h_7 cs' heq =>
      cases depth with
      | zero => cases hread
      | succ depth =>
        obtain ⟨xs, hxs, rfl⟩ := Read.of_as hread
        have hcs' := h.suffix (suffix_of_skipBlanks heq) hcs
        -- The items are values of a smaller depth.
        have hitem : ∀ {cs x rest}, Q cs → Json.value depth cs = .ok (x, rest) → P x ∧ Q rest :=
          fun hcs hx => ih depth (Nat.lt_succ_self depth) hcs hx
        have hlength := (isSeries_items _).takes.length_lt hxs
        obtain ⟨hall, hrest⟩ := (isSeries_items _).takes.keeps h.suffix hitem hcs'
          (List.forall_mem_nil _) hxs
        rw [List.length_nil, Nat.zero_add] at hlength
        exact ⟨h.array hcs' (Nat.le_of_lt_succ hlength) hall, hrest⟩
    case h_8 cs' heq =>
      cases depth with
      | zero => cases hread
      | succ depth =>
        obtain ⟨ms, hms, rfl⟩ := Read.of_as hread
        -- A member is a key, which reads on, and a value of a smaller depth.
        have hmember : ∀ {cs : List Char} {m : String × Value} {rest}, Q cs →
            ((Json.memberKey stringBody cs).andThen fun k cs =>
              (Json.value depth cs).as fun v => (k, v)) = .ok (m, rest) → P m.2 ∧ Q rest := by
          intro cs m rest hcs hm
          obtain ⟨k, after, hk, hm⟩ := Read.of_andThen hm
          obtain ⟨x, hx, rfl⟩ := Read.of_as hm
          exact ih depth (Nat.lt_succ_self depth) (h.memberKey hcs hk) hx
        obtain ⟨hall, hrest⟩ := (isSeries_members _).takes.keeps h.suffix hmember
          (h.suffix (suffix_of_skipBlanks heq) hcs) (List.forall_mem_nil _) hms
        exact ⟨h.object hall, hrest⟩
    case h_9 c cs' heq =>
      split at hread
      · obtain ⟨n, hn, rfl⟩ := Read.of_as hread
        exact h.number (h.suffix (heq ▸ skipBlanks_suffix cs) hcs) hn
      · cases hread

/-- What a text writes has `P` if the text has `Q`. -/
theorem parse (h : ReadsInto Q P) {text : String} {v : Value} (htext : Q text.toList)
    (hparse : Value.parse text = .ok v) : P v := by
  unfold Value.parse whole at hparse
  split at hparse
  · cases hparse
  · next v' rest hread =>
    split at hparse
    · cases hparse
      exact (h.value htext hread).1
    · cases hparse

end ReadsInto

end Readers

/-- The reader reads into canonical values, whatever the text. -/
theorem readsInto_canonical : ReadsInto (fun _ => True) Value.Canonical where
  suffix _ _ := trivial
  null := .null
  bool := .bool
  number _ hn := ⟨.number (written_unsigned hn).fits, trivial⟩
  string _ _ := ⟨.string _, trivial⟩
  array _ _ hxs := .array hxs
  object hms := .ofMembers hms

/-- A parsed value is canonical. -/
theorem canonical_parse {text : String} {v : Value} (h : Value.parse text = .ok v) :
    v.Canonical := readsInto_canonical.parse trivial h

end FrameHost.Json
