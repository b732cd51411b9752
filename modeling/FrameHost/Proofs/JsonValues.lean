import FrameHost.Proofs.JsonNumbers
import FrameHost.Proofs.JsonStrings

/-!
# Values in writing

What is written for a canonical value whose doubles survive is read back as this value, if its arrays
and objects nest no deeper than is read (`value_render`), and is refused otherwise
(`value_refuses`). Arrays and objects are written as series: a first element, and every other one
after a comma. How a series is read is the same for both (`IsSeries.reads`): element by element, up
to the first one that is refused.
-/

namespace FrameHost.Json

/-! ## Depth and doubles -/

namespace Value

mutual

/-- How deep arrays and objects nest. -/
def depth : Value → ℕ
  | .array xs => depthItems xs + 1
  | .object ms => depthMembers ms + 1
  | _ => 0

/-- The depth of the deepest item. -/
def depthItems : List Value → ℕ
  | [] => 0
  | x :: xs => max (depth x) (depthItems xs)

/-- The depth of the deepest member. -/
def depthMembers : List (String × Value) → ℕ
  | [] => 0
  | (_, x) :: ms => max (depth x) (depthMembers ms)

end

mutual

/-- The doubles in a value. -/
def doubles : Value → List Double
  | .number (.double x) => [x]
  | .array xs => doublesItems xs
  | .object ms => doublesMembers ms
  | _ => []

/-- The doubles in a list of items. -/
def doublesItems : List Value → List Double
  | [] => []
  | x :: xs => doubles x ++ doublesItems xs

/-- The doubles in a list of members. -/
def doublesMembers : List (String × Value) → List Double
  | [] => []
  | (_, x) :: ms => doubles x ++ doublesMembers ms

end

variable {v : Value} {xs : List Value} {ms : List (String × Value)} {m : String × Value}

/-- No item is deeper than the items. -/
theorem depth_le_depthItems (h : v ∈ xs) : v.depth ≤ depthItems xs := by
  induction xs with
  | nil => cases h
  | cons x xs ih =>
    unfold depthItems
    rcases List.mem_cons.mp h with rfl | h
    · exact Nat.le_max_left _ _
    · exact Nat.le_trans (ih h) (Nat.le_max_right _ _)

/-- Where the items are deep, one of them is. -/
theorem exists_lt_depth_of_items {depth : ℕ} (h : depth < depthItems xs) :
    ∃ x ∈ xs, depth < x.depth := by
  induction xs with
  | nil => cases h
  | cons x xs ih =>
    unfold depthItems at h
    rcases Nat.lt_or_ge depth x.depth with hx | hx
    · exact ⟨x, List.mem_cons_self, hx⟩
    · obtain ⟨y, hy, hdeep⟩ := ih (by omega)
      exact ⟨y, List.mem_cons_of_mem x hy, hdeep⟩

/-- Where the members are deep, one of them is. -/
theorem exists_lt_depth_of_members {depth : ℕ} (h : depth < depthMembers ms) :
    ∃ m ∈ ms, depth < m.2.depth := by
  induction ms with
  | nil => cases h
  | cons m ms ih =>
    unfold depthMembers at h
    rcases Nat.lt_or_ge depth m.2.depth with hm | hm
    · exact ⟨m, List.mem_cons_self, hm⟩
    · obtain ⟨n, hn, hdeep⟩ := ih (by omega)
      exact ⟨n, List.mem_cons_of_mem m hn, hdeep⟩

/-- No member is deeper than the members. -/
theorem depth_le_depthMembers (h : m ∈ ms) : m.2.depth ≤ depthMembers ms := by
  induction ms with
  | nil => cases h
  | cons row ms ih =>
    unfold depthMembers
    rcases List.mem_cons.mp h with rfl | h
    · exact Nat.le_max_left _ _
    · exact Nat.le_trans (ih h) (Nat.le_max_right _ _)

/-- An item's doubles are among those of the items. -/
theorem doubles_subset_doublesItems (h : v ∈ xs) : v.doubles ⊆ doublesItems xs := by
  induction xs with
  | nil => cases h
  | cons x xs ih =>
    unfold doublesItems
    rcases List.mem_cons.mp h with rfl | h
    · exact List.subset_append_left _ _
    · exact List.subset_append_of_subset_right _ (ih h)

/-- A member's doubles are among those of the members. -/
theorem doubles_subset_doublesMembers (h : m ∈ ms) : m.2.doubles ⊆ doublesMembers ms := by
  induction ms with
  | nil => cases h
  | cons row ms ih =>
    unfold doublesMembers
    rcases List.mem_cons.mp h with rfl | h
    · exact List.subset_append_left _ _
    · exact List.subset_append_of_subset_right _ (ih h)

end Value

/-! ## Series -/

variable {α : Type} {cs rest : List Char} {c : Char}

/-- A text begins with a character that is no blank and ends nothing. -/
def Starts (cs : List Char) : Prop :=
  ∃ c t, cs = c :: t ∧ isBlank c = false ∧ c ≠ ']' ∧ c ≠ '\x7d'

/-- What starts well starts well whatever follows. -/
theorem Starts.append (h : Starts cs) (rest : List Char) : Starts (cs ++ rest) := by
  obtain ⟨c, t, rfl, hc⟩ := h
  exact ⟨c, t ++ rest, rfl, hc⟩

/-- Elements in writing, one after the other, with commas between them. -/
def separated (text : α → List Char) : List α → List Char
  | [] => []
  | a :: as => text a ++ as.flatMap fun a => ',' :: text a

/-- A series is its first text, then each of the others after a comma. -/
theorem separated_cons (text : α → List Char) (a : α) (as : List α) :
    separated text (a :: as) = text a ++ as.flatMap fun a => ',' :: text a := rfl

/-- A reader of a series of elements, up to the character `close`: it is given the elements that were
read, the last one first, and whether there are none yet. -/
structure ReadsSeries (close : Char) (element : List Char → Read α)
    (series : List α → Bool → ℕ → List Char → Read (List α)) : Prop where
  close : ∀ acc first fuel rest,
    series acc first (fuel + 1) (close :: rest) = .ok (acc.reverse, rest)
  first : ∀ acc fuel cs, Starts cs →
    series acc true (fuel + 1) cs =
      (element cs).andThen fun a cs => series (a :: acc) false fuel cs
  next : ∀ acc fuel cs, Starts cs →
    series acc false (fuel + 1) (',' :: cs) =
      (element cs).andThen fun a cs => series (a :: acc) false fuel cs

/-- A reader of a series reads the elements as they come, up to a bracket or a brace. -/
theorem IsSeries.reads {close : Char} {element : List Char → Read α}
    {series : List α → Bool → ℕ → List Char → Read (List α)} (h : IsSeries close element series)
    (hclose : close ∈ [']', '\x7d']) : ReadsSeries close element series := by
  obtain ⟨ended, other, hturn⟩ := h.turn
  have hblank : isBlank close = false := by
    rcases List.mem_pair.mp hclose with rfl | rfl <;> rfl
  have hcomma : ',' ≠ close := by
    rintro rfl
    exact absurd hclose (by decide)
  -- The text of an element starts with neither of the two signs.
  have hstarts : ∀ {cs}, Starts cs → ∃ c t, cs = c :: t ∧ isBlank c = false ∧ c ≠ close := by
    rintro _ ⟨c, t, rfl, hc, hbracket, hbrace⟩
    refine ⟨c, t, rfl, hc, ?_⟩
    rintro rfl
    simp [hbracket, hbrace] at hclose
  refine ⟨fun acc first fuel rest => ?_, fun acc fuel cs hcs => ?_, fun acc fuel cs hcs => ?_⟩
  · rw [hturn, seriesTurn, skipBlanks_cons hblank]
    exact if_pos rfl
  · obtain ⟨c, t, rfl, hc, hne⟩ := hstarts hcs
    rw [hturn, seriesTurn, skipBlanks_cons hc]
    exact (if_neg hne).trans (if_pos rfl)
  · obtain ⟨c, t, rfl, hc, hne⟩ := hstarts hcs
    rw [hturn, seriesTurn, skipBlanks_cons (by decide : isBlank ',' = false)]
    dsimp only
    rw [if_neg hcomma, if_neg Bool.noConfusion, if_pos rfl, skipBlanks_cons hc]
    exact if_neg hne

/-- An element in writing is read as this element. -/
structure ReadsBack (element : List Char → Read α) (text : α → List Char) (a : α) : Prop where
  starts : Starts (text a)
  reads : ∀ rest, EndsNumber rest → element (text a ++ rest) = .ok (a, rest)

section Series

variable {close : Char} {element : List Char → Read α} {text : α → List Char}
  {series : List α → Bool → ℕ → List Char → Read (List α)} {as : List α}

/-- After an element comes a comma or the end of the series. -/
theorem endsNumber_series (hclose : close ∈ [']', '\x7d']) (text : α → List Char) (as : List α)
    (rest : List Char) : EndsNumber ((as.flatMap fun a => ',' :: text a) ++ close :: rest) := by
  cases as with
  | nil => exact endsNumber_cons (List.mem_cons_of_mem ',' hclose)
  | cons a as => exact endsNumber_cons List.mem_cons_self

/-- The elements after the first one are read back. -/
theorem ReadsSeries.more (hseries : ReadsSeries close element series)
    (hclose : close ∈ [']', '\x7d']) (has : ∀ a ∈ as, ReadsBack element text a)
    (acc : List α) {fuel : ℕ} (hfuel : as.length < fuel) (rest : List Char) :
    series acc false fuel ((as.flatMap fun a => ',' :: text a) ++ close :: rest) =
      .ok (acc.reverse ++ as, rest) := by
  induction as generalizing acc fuel with
  | nil =>
    obtain ⟨fuel, rfl⟩ := Nat.exists_eq_succ_of_ne_zero (Nat.ne_of_gt hfuel)
    rw [List.append_nil]
    exact hseries.close acc false fuel rest
  | cons a as ih =>
    obtain ⟨fuel, rfl⟩ := Nat.exists_eq_succ_of_ne_zero (Nat.ne_of_gt (Nat.zero_lt_of_lt hfuel))
    obtain ⟨ha, has⟩ := List.forall_mem_cons.mp has
    have hfuel' : as.length < fuel := Nat.lt_of_succ_lt_succ hfuel
    -- What follows the element ends a number, so the element is read as it was written.
    have hends := endsNumber_series hclose text as rest
    rw [List.flatMap_cons, List.append_assoc, List.cons_append,
      hseries.next _ _ _ (ha.starts.append _), ha.reads _ hends]
    show series (a :: acc) false fuel _ = _
    rw [ih has (a :: acc) hfuel', List.reverse_cons, List.append_assoc]
    rfl

/-- A series is read back. -/
theorem ReadsSeries.all (hseries : ReadsSeries close element series)
    (hclose : close ∈ [']', '\x7d']) (has : ∀ a ∈ as, ReadsBack element text a)
    {fuel : ℕ} (hfuel : as.length < fuel) (rest : List Char) :
    series [] true fuel (separated text as ++ close :: rest) = .ok (as, rest) := by
  obtain ⟨fuel, rfl⟩ := Nat.exists_eq_succ_of_ne_zero (Nat.ne_of_gt (Nat.zero_lt_of_lt hfuel))
  cases as with
  | nil => exact hseries.close [] true fuel rest
  | cons a as =>
    obtain ⟨ha, has⟩ := List.forall_mem_cons.mp has
    have hfuel' : as.length < fuel := Nat.lt_of_succ_lt_succ hfuel
    have hends := endsNumber_series hclose text as rest
    rw [separated_cons, List.append_assoc, hseries.first _ _ _ (ha.starts.append _), ha.reads _ hends]
    exact hseries.more hclose has [a] hfuel' rest

/-- An element in writing is refused. -/
structure Refuses (element : List Char → Read α) (text : α → List Char) (a : α) : Prop where
  starts : Starts (text a)
  refuses : ∀ rest, EndsNumber rest → ∃ stop, element (text a ++ rest) = .error stop

/-- An element is refused, or it is read and what comes after it is refused. -/
theorem refuses_andThen {β : Type} {f : α → List Char → Read β} {a : α} (hrest : EndsNumber rest)
    (ha : Refuses element text a ∨ ReadsBack element text a ∧ ∃ stop, f a rest = .error stop) :
    ∃ stop, (element (text a ++ rest)).andThen f = .error stop := by
  rcases ha with ha | ⟨ha, stop, hstop⟩
  · obtain ⟨stop, hstop⟩ := ha.refuses rest hrest
    refine ⟨stop, ?_⟩
    rw [hstop]
    rfl
  · refine ⟨stop, ?_⟩
    rw [ha.reads rest hrest]
    exact hstop

/-- A series is refused as soon as one of its elements is. -/
theorem ReadsSeries.refuses_more (hseries : ReadsSeries close element series)
    (hclose : close ∈ [']', '\x7d'])
    (has : ∀ a ∈ as, ReadsBack element text a ∨ Refuses element text a)
    (hsome : ∃ a ∈ as, Refuses element text a) (acc : List α) {fuel : ℕ}
    (hfuel : as.length < fuel) (rest : List Char) :
    ∃ stop, series acc false fuel ((as.flatMap fun a => ',' :: text a) ++ close :: rest) =
      .error stop := by
  induction as generalizing acc fuel with
  | nil =>
    obtain ⟨a, ha, -⟩ := hsome
    cases ha
  | cons a as ih =>
    obtain ⟨fuel, rfl⟩ := Nat.exists_eq_add_one_of_ne_zero (Nat.ne_of_gt (Nat.zero_lt_of_lt hfuel))
    obtain ⟨ha, has⟩ := List.forall_mem_cons.mp has
    have hfuel' : as.length < fuel := Nat.lt_of_succ_lt_succ hfuel
    have hstarts : Starts (text a) := ha.elim ReadsBack.starts Refuses.starts
    rw [List.flatMap_cons, List.append_assoc, List.cons_append,
      hseries.next _ _ _ (hstarts.append _)]
    refine refuses_andThen (endsNumber_series hclose text as rest) ?_
    obtain ⟨b, hb, hrefuses⟩ := hsome
    -- This element is refused, or it is read and a later one is refused.
    rcases List.mem_cons.mp hb with rfl | hb
    · exact .inl hrefuses
    · exact ha.symm.imp_right fun ha => ⟨ha, ih has ⟨b, hb, hrefuses⟩ (a :: acc) hfuel'⟩

/-- A series is refused if an element of it is, and every other one is read back. -/
theorem ReadsSeries.refuses (hseries : ReadsSeries close element series)
    (hclose : close ∈ [']', '\x7d'])
    (has : ∀ a ∈ as, ReadsBack element text a ∨ Refuses element text a)
    (hsome : ∃ a ∈ as, Refuses element text a) {fuel : ℕ} (hfuel : as.length < fuel)
    (rest : List Char) :
    ∃ stop, series [] true fuel (separated text as ++ close :: rest) = .error stop := by
  obtain ⟨fuel, rfl⟩ := Nat.exists_eq_add_one_of_ne_zero (Nat.ne_of_gt (Nat.zero_lt_of_lt hfuel))
  cases as with
  | nil =>
    obtain ⟨a, ha, -⟩ := hsome
    cases ha
  | cons a as =>
    obtain ⟨ha, has⟩ := List.forall_mem_cons.mp has
    have hfuel' : as.length < fuel := Nat.lt_of_succ_lt_succ hfuel
    have hstarts : Starts (text a) := ha.elim ReadsBack.starts Refuses.starts
    rw [separated_cons, List.append_assoc, hseries.first _ _ _ (hstarts.append _)]
    refine refuses_andThen (endsNumber_series hclose text as rest) ?_
    obtain ⟨b, hb, hrefuses⟩ := hsome
    -- The first element has no comma before it; the others are as above.
    rcases List.mem_cons.mp hb with rfl | hb
    · exact .inl hrefuses
    · exact ha.symm.imp_right fun ha =>
        ⟨ha, hseries.refuses_more hclose has ⟨b, hb, hrefuses⟩ [a] hfuel' rest⟩

/-- Every element of a series takes a character at least. -/
theorem length_le_flatMap_comma (text : α → List Char) (as : List α) :
    as.length ≤ (as.flatMap fun a => ',' :: text a).length := by
  induction as with
  | nil => exact Nat.le_refl 0
  | cons a as ih =>
    rw [List.flatMap_cons, List.length_append, List.length_cons, List.length_cons]
    omega

/-- The length of a text is fuel enough for the series in it. -/
theorem length_lt_fuel (has : ∀ a ∈ as, Starts (text a)) (close : Char) (rest : List Char) :
    as.length < (separated text as ++ close :: rest).length + 1 := by
  have hle : as.length ≤ (separated text as).length := by
    cases as with
    | nil => exact Nat.le_refl 0
    | cons a as =>
      obtain ⟨c, t, htext, -⟩ := has a List.mem_cons_self
      have hle := length_le_flatMap_comma text as
      rw [separated_cons, htext, List.length_append, List.length_cons, List.length_cons]
      omega
  rw [List.length_append]
  omega

end Series

/-! ## Values -/

/-- A member of an object in writing. -/
def renderMember (m : String × Value) : List Char := renderString m.1 ++ ':' :: m.2.render

/-- The items after the first are written each after a comma. -/
theorem renderItems_eq (xs : List Value) :
    renderItems xs = xs.flatMap fun x => ',' :: x.render := by
  induction xs with
  | nil => rfl
  | cons x xs ih =>
    unfold renderItems
    rw [ih]
    rfl

/-- The members after the first are written each after a comma. -/
theorem renderMembers_eq (ms : List (String × Value)) :
    renderMembers ms = ms.flatMap fun m => ',' :: renderMember m := by
  induction ms with
  | nil => rfl
  | cons m ms ih =>
    obtain ⟨k, x⟩ := m
    unfold renderMembers
    rw [ih, List.flatMap_cons]
    simp [renderMember]

/-- An array is written as a series in brackets. -/
theorem render_array (xs : List Value) :
    (Value.array xs).render = '[' :: separated Value.render xs ++ [']'] := by
  cases xs with
  | nil => rfl
  | cons x xs =>
    unfold Value.render
    rw [renderItems_eq]
    rfl

/-- An object is written as a series in braces. -/
theorem render_object (ms : List (String × Value)) :
    (Value.object ms).render = '\x7b' :: separated renderMember ms ++ ['\x7d'] := by
  cases ms with
  | nil => rfl
  | cons m ms =>
    obtain ⟨k, x⟩ := m
    unfold Value.render
    rw [renderMembers_eq, separated_cons]
    simp [renderMember]

/-- A written value starts with no blank and no closing sign. -/
theorem starts_render {v : Value} (hdoubles : ∀ x ∈ v.doubles, x.Survives) : Starts v.render := by
  cases v with
  | null => exact ⟨'n', _, rfl, by decide⟩
  | bool b => cases b <;> exact ⟨_, _, rfl, by decide⟩
  | number n =>
    have hdouble : ∀ x, n = .double x → x.Survives := fun x hx =>
      hdoubles x (hx ▸ List.mem_singleton_self x)
    obtain ⟨c, t, ht, hc⟩ := render_number_cons hdouble
    refine ⟨c, t, ht, ?_⟩
    rcases hc with rfl | hdigit
    · decide
    · -- A number starts with a minus sign or a digit.
      refine ⟨isBlank_of_isDigit hdigit, ?_, ?_⟩ <;>
        · rintro rfl
          cases hdigit
  | string s => exact ⟨'"', _, rfl, by decide⟩
  | array xs => exact ⟨'[', _, render_array xs, by decide⟩
  | object ms => exact ⟨'\x7b', _, render_object ms, by decide⟩

/-- A written member starts with its key's quote. -/
theorem starts_renderMember (m : String × Value) : Starts (renderMember m) :=
  ⟨'"', _, rfl, by decide⟩

/-- A written key is read back with its colon. -/
theorem memberKey_renderString (k : String) (cs : List Char) :
    memberKey stringBody (renderString k ++ ':' :: cs) = .ok (k, cs) := by
  rw [renderString_append]
  show (stringBody _).andThen _ = _
  rw [stringBody_escape]
  rfl

/-- A bracket opens an array, one level deeper. -/
theorem value_bracket (depth : ℕ) (cs : List Char) :
    value (depth + 1) ('[' :: cs) =
      (items (value depth) [] true (cs.length + 1) cs).as .array := by
  conv_lhs => unfold value
  rfl

/-- Reads a key and its value. -/
def keyedValue (depth : ℕ) (cs : List Char) : Read (String × Value) :=
  (memberKey stringBody cs).andThen fun k cs => (value depth cs).as fun v => (k, v)

/-- A brace opens an object, one level deeper. -/
theorem value_brace (depth : ℕ) (cs : List Char) :
    value (depth + 1) ('\x7b' :: cs) =
      (members (keyedValue depth) [] true (cs.length + 1) cs).as Value.ofMembers := by
  conv_lhs => unfold value
  rfl

/-- A written member is read through its value. -/
theorem keyedValue_renderMember (depth : ℕ) (m : String × Value) (rest : List Char) :
    keyedValue depth (renderMember m ++ rest) =
      (value depth (m.2.render ++ rest)).as fun v => (m.1, v) := by
  unfold keyedValue renderMember
  rw [List.append_assoc, List.cons_append, memberKey_renderString]
  rfl

/-- A member is read back when its value is. -/
theorem readsBack_member {depth : ℕ} {m : String × Value}
    (hm : ∀ rest, EndsNumber rest → value depth (m.2.render ++ rest) = .ok (m.2, rest)) :
    ReadsBack (keyedValue depth) renderMember m := by
  refine ⟨starts_renderMember m, fun rest hrest => ?_⟩
  rw [keyedValue_renderMember, hm rest hrest]
  rfl

/-- A member is refused when its value is. -/
theorem refuses_member {depth : ℕ} {m : String × Value}
    (hm : ∀ rest, ∃ stop, value depth (m.2.render ++ rest) = .error stop) :
    Refuses (keyedValue depth) renderMember m := by
  refine ⟨starts_renderMember m, fun rest _ => ?_⟩
  obtain ⟨stop, hstop⟩ := hm rest
  refine ⟨stop, ?_⟩
  rw [keyedValue_renderMember, hstop]
  rfl

/-- A value is read back before everything that does not go on with a number. -/
theorem value_render {v : Value} (hv : v.Canonical) {depth : ℕ} (hdepth : v.depth ≤ depth)
    (hdoubles : ∀ x ∈ v.doubles, x.Survives) (hrest : EndsNumber rest) :
    value depth (v.render ++ rest) = .ok (v, rest) := by
  induction hv generalizing depth rest with
  | null =>
    unfold value
    rfl
  | bool b =>
    cases b <;>
      · unfold value
        rfl
  | number hn =>
    refine value_render_number hn (fun x hx => hdoubles x ?_) depth hrest
    rw [hx]
    exact List.mem_singleton_self x
  | string s =>
    show value depth (renderString s ++ rest) = _
    rw [renderString_append]
    unfold value
    show (stringBody _).as _ = _
    rw [stringBody_escape]
    rfl
  | @array xs hxs ih =>
    unfold Value.depth at hdepth
    obtain ⟨depth, rfl⟩ := Nat.exists_eq_add_one_of_ne_zero (by omega : depth ≠ 0)
    have hsurvive : ∀ x ∈ xs, ∀ y ∈ x.doubles, y.Survives := fun x hx y hy =>
      hdoubles y (Value.doubles_subset_doublesItems hx hy)
    -- Every item is read back one level further down.
    have hitems : ∀ x ∈ xs, ReadsBack (value depth) Value.render x := fun x hx => by
      have hle := Value.depth_le_depthItems hx
      exact ⟨starts_render (hsurvive x hx), fun rest hrest =>
        ih x hx (by omega) (hsurvive x hx) hrest⟩
    have hfuel := length_lt_fuel (fun x hx => (hitems x hx).starts) ']' rest
    rw [render_array, List.append_assoc, List.cons_append, List.singleton_append, value_bracket,
      ((isSeries_items (value depth)).reads (by decide)).all (by decide) hitems hfuel]
    rfl
  | @object ms hms hvs ih =>
    unfold Value.depth at hdepth
    obtain ⟨depth, rfl⟩ := Nat.exists_eq_add_one_of_ne_zero (by omega : depth ≠ 0)
    have hsurvive : ∀ m ∈ ms, ∀ y ∈ m.2.doubles, y.Survives := fun m hm y hy =>
      hdoubles y (Value.doubles_subset_doublesMembers hm hy)
    -- And so is every member, the keys ascending as they should.
    have hmembers : ∀ m ∈ ms, ReadsBack (keyedValue depth) renderMember m := fun m hm => by
      have hle := Value.depth_le_depthMembers hm
      exact readsBack_member fun rest hrest => ih m hm (by omega) (hsurvive m hm) hrest
    have hfuel := length_lt_fuel (fun m hm => (hmembers m hm).starts) '\x7d' rest
    rw [render_object, List.append_assoc, List.cons_append, List.singleton_append, value_brace,
      ((isSeries_members (keyedValue depth)).reads (by decide)).all (by decide) hmembers hfuel]
    exact congrArg (fun v => Except.ok (v, rest)) (Value.ofMembers_of_ordered hms)

/-- A value that nests deeper than is read is refused. -/
theorem value_refuses {v : Value} (hv : v.Canonical) {depth : ℕ} (hdepth : depth < v.depth)
    (hdoubles : ∀ x ∈ v.doubles, x.Survives) (rest : List Char) :
    ∃ stop, value depth (v.render ++ rest) = .error stop := by
  induction hv generalizing depth rest with
  | null => cases hdepth
  | bool => cases hdepth
  | number => cases hdepth
  | string => cases hdepth
  | @array xs hxs ih =>
    unfold Value.depth at hdepth
    rw [render_array, List.append_assoc, List.cons_append, List.singleton_append]
    cases depth with
    | zero =>
      unfold value
      exact ⟨_, rfl⟩
    | succ depth =>
      have hsurvive : ∀ x ∈ xs, ∀ y ∈ x.doubles, y.Survives := fun x hx y hy =>
        hdoubles y (Value.doubles_subset_doublesItems hx hy)
      have hstarts : ∀ x ∈ xs, Starts x.render := fun x hx => starts_render (hsurvive x hx)
      have hdeep : ∀ x ∈ xs, depth < x.depth → Refuses (value depth) Value.render x :=
        fun x hx hlt => ⟨hstarts x hx, fun rest _ => ih x hx hlt (hsurvive x hx) rest⟩
      -- The items up to the one that is too deep are read back.
      have hitems : ∀ x ∈ xs, ReadsBack (value depth) Value.render x ∨
          Refuses (value depth) Value.render x := fun x hx => by
        rcases Nat.lt_or_ge depth x.depth with hlt | hle
        · exact .inr (hdeep x hx hlt)
        · exact .inl ⟨hstarts x hx, fun rest hrest =>
            value_render (hxs x hx) hle (hsurvive x hx) hrest⟩
      obtain ⟨x, hx, hlt⟩ := Value.exists_lt_depth_of_items (Nat.lt_of_succ_lt_succ hdepth)
      have hseries := (isSeries_items (value depth)).reads (by decide)
      obtain ⟨stop, hstop⟩ := hseries.refuses (by decide) hitems
        ⟨x, hx, hdeep x hx hlt⟩ (length_lt_fuel hstarts ']' rest) rest
      refine ⟨stop, ?_⟩
      rw [value_bracket, hstop]
      rfl
  | @object ms hms hvs ih =>
    unfold Value.depth at hdepth
    rw [render_object, List.append_assoc, List.cons_append, List.singleton_append]
    cases depth with
    | zero =>
      unfold value
      exact ⟨_, rfl⟩
    | succ depth =>
      have hsurvive : ∀ m ∈ ms, ∀ y ∈ m.2.doubles, y.Survives := fun m hm y hy =>
        hdoubles y (Value.doubles_subset_doublesMembers hm hy)
      have hdeep : ∀ m ∈ ms, depth < m.2.depth → Refuses (keyedValue depth) renderMember m :=
        fun m hm hlt => refuses_member (ih m hm hlt (hsurvive m hm))
      -- The members up to the one that is too deep are read back.
      have hmembers : ∀ m ∈ ms, ReadsBack (keyedValue depth) renderMember m ∨
          Refuses (keyedValue depth) renderMember m := fun m hm => by
        rcases Nat.lt_or_ge depth m.2.depth with hlt | hle
        · exact .inr (hdeep m hm hlt)
        · exact .inl (readsBack_member fun rest hrest =>
            value_render (hvs m hm) hle (hsurvive m hm) hrest)
      obtain ⟨m, hm, hlt⟩ := Value.exists_lt_depth_of_members (Nat.lt_of_succ_lt_succ hdepth)
      have hseries := (isSeries_members (keyedValue depth)).reads (by decide)
      obtain ⟨stop, hstop⟩ := hseries.refuses (by decide) hmembers
        ⟨m, hm, hdeep m hm hlt⟩ (length_lt_fuel (fun m _ => starts_renderMember m) '\x7d' rest) rest
      refine ⟨stop, ?_⟩
      rw [value_brace, hstop]
      rfl

end FrameHost.Json
