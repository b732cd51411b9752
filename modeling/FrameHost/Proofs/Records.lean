import FrameHost.Json.Shape
import FrameHost.Proofs.CanonicalValues

/-!
# Reading records

A record is read member by member. As the members of a parsed object have different keys, what a
field holds in the end depends on its own member alone (`Reads.setMembers`), and the record is read
whenever each of its members is accepted (`exists_setMembers`).
-/

namespace FrameHost.Json

variable {ρ α β γ : Type} {fields : List (Field ρ)} {k : String} {get : ρ → α}
  {shape : Value → Shaped α} {old a b : α} {v? : Option Value} {ms : List (String × Value)}
  {r r' : ρ}

/-! ## Shapes -/

/-- A mapped shape is read when the shape itself is. -/
theorem Shaped.map_eq_ok {x : Shaped α} {g : α → β} {b : β} :
    x.map g = .ok b ↔ ∃ a, x = .ok a ∧ g a = b := by
  cases x with
  | error e => simp [Except.map]
  | ok a => simp [Except.map]

/-- A shape mapped twice is mapped by the composite. -/
theorem Shaped.map_map (x : Shaped α) (g : α → β) (g' : β → γ) :
    (x.map g).map g' = x.map fun a => g' (g a) := by
  cases x <;> rfl

/-- A shape mapped by nothing is the shape. -/
theorem Shaped.map_self (x : Shaped α) : (x.map fun a => a) = x := by
  cases x <;> rfl

/-- A value, unless it is null. -/
def Value.nonNull? : Value → Option Value
  | .null => none
  | v => some v

/-- The value of member `k`, unless it is missing or null. -/
def Value.present? (k : String) (ms : List (String × Value)) : Option Value :=
  (Value.member? k ms).bind Value.nonNull?

/-! ## Fields -/

/-- Field `k` of a record is read by `shape`: setting it stores what `shape` reads where `get` looks,
and setting another field leaves that as it is. -/
structure Reads (fields : List (Field ρ)) (k : String) (get : ρ → α) (shape : Value → Shaped α) :
    Prop where
  mem : ∃ f ∈ fields, f.name = k
  own : ∀ f ∈ fields, f.name = k → ∀ v r, (f.set v r).map get = shape v
  others : ∀ f ∈ fields, f.name ≠ k → ∀ v r r', f.set v r = .ok r' → get r' = get r

/-- The field found under a name has that name. -/
theorem name_of_find? {f : Field ρ} (h : fields.find? (fun f => f.name = k) = some f) :
    f.name = k := by
  have hdecide := List.find?_some h
  exact of_decide_eq_true hdecide

/-- What a field holds that held `old`: what `shape` reads in its member, if there is one. -/
def Holds (shape : Value → Shaped α) (old : α) : Option Value → α → Prop
  | none, a => a = old
  | some v, a => shape v = .ok a

/-- A field holds one thing at most. -/
theorem Holds.unique (ha : Holds shape old v? a) (hb : Holds shape old v? b) : a = b := by
  cases v? with
  | none =>
    have ha : a = old := ha
    have hb : b = old := hb
    rw [ha, hb]
  | some v =>
    have ha : shape v = .ok a := ha
    have hb : shape v = .ok b := hb
    exact Except.ok.inj (ha.symm.trans hb)

/-- A field that stores what is read passed through `g`. -/
theorem holds_map {g : α → β} {b : β} :
    Holds (fun v => (shape v).map g) (g old) v? b ↔ ∃ a, Holds shape old v? a ∧ b = g a := by
  cases v? with
  | none => simp [Holds]
  | some v =>
    show (shape v).map g = .ok b ↔ ∃ a, shape v = .ok a ∧ b = g a
    rw [Shaped.map_eq_ok]
    simp only [eq_comm]

/-- A field that may be null: a null member is as good as none. -/
theorem holds_asOption {P : Value → α → Prop} {a : Option α}
    (hP : ∀ v ∈ v?, ∀ a, shape v = .ok a ↔ P v a) :
    Holds (asOption shape) none v? a ↔ Option.Rel P (v?.bind Value.nonNull?) a := by
  -- A member that is not there or null is nothing, and any other is read.
  have hnothing : a = none ↔ Option.Rel P none a := by
    cases a <;> simp
  have hsome : ∀ v ∈ v?, (shape v).map some = .ok a ↔ Option.Rel P (some v) a := by
    intro v hv
    rw [Shaped.map_eq_ok]
    cases a <;> simp [hP v hv]
  rcases v? with _ | v
  · exact hnothing
  · cases v
    case null =>
      have hnull : Holds (asOption shape) none (some .null) a ↔ a = none :=
        ⟨fun h => (Except.ok.inj h).symm, congrArg _ ∘ Eq.symm⟩
      exact hnull.trans hnothing
    all_goals exact hsome _ rfl

/-- A value is read as it is, and null as nothing. -/
theorem asOption_ok (v : Value) : asOption .ok v = .ok v.nonNull? := by
  cases v <;> rfl

/-- A field for any value but null. -/
theorem holds_asOption_ok {a : Option Value} :
    Holds (asOption .ok) none v? a ↔ a = v?.bind Value.nonNull? := by
  cases v? with
  | none => exact Iff.rfl
  | some v =>
    show asOption .ok v = .ok a ↔ a = v.nonNull?
    rw [asOption_ok, Except.ok.injEq]
    exact eq_comm

namespace Reads

/-- What a field holds after the members of an object: its own member decides. -/
theorem setMembers (hk : Reads fields k get shape) (hms : Value.Ordered ms)
    (hset : setMembers fields ms r = .ok r') :
    Holds shape (get r) (Value.member? k ms) (get r') := by
  induction ms generalizing r with
  | nil =>
    cases hset
    rfl
  | cons row ms ih =>
    obtain ⟨l, v⟩ := row
    obtain ⟨hfirst, htail⟩ := List.pairwise_cons.mp hms
    unfold Json.setMembers at hset
    rw [Value.member?_cons]
    split at hset
    · next hnone =>
      -- A member without a field is not that of field `k`.
      have hne : l ≠ k := by
        rintro rfl
        obtain ⟨f, hf, hname⟩ := hk.mem
        exact List.find?_eq_none.mp hnone f hf (decide_eq_true hname)
      rw [if_neg hne]
      exact ih htail hset
    · next f hfound =>
      have hf : f ∈ fields := List.mem_of_find?_eq_some hfound
      have hname : f.name = l := name_of_find? hfound
      split at hset
      · cases hset
      · next r₁ hr₁ =>
        have hrest := ih htail hset
        by_cases hl : l = k
        · -- The field does not come again.
          have habsent : Value.member? k ms = none := by
            refine Value.member?_eq_none fun hmem => ?_
            exact absurd (hfirst k hmem) (hl ▸ lt_irrefl _)
          have hown := hk.own f hf (hname.trans hl) v r
          rw [hr₁] at hown
          rw [habsent] at hrest
          have hkept : get r' = get r₁ := hrest
          rw [if_pos hl, hkept]
          exact hown.symm
        · have hkept := hk.others f hf (fun h => hl (hname.symm.trans h)) v r r₁ hr₁
          rw [if_neg hl, ← hkept]
          exact hrest

/-- A member is accepted if its shape is. -/
theorem accepts (hk : Reads fields k get shape) (ha : Holds shape old (Value.member? k ms) a)
    {f : Field ρ} (hf : f ∈ fields) (hname : f.name = k) :
    ∀ v, Value.member? f.name ms = some v → ∀ r, ∃ r', f.set v r = .ok r' := by
  intro v hv r
  rw [← hname, hv] at ha
  have hshape : shape v = .ok a := ha
  have hown := hk.own f hf hname v r
  rw [hshape] at hown
  obtain ⟨r', hr', -⟩ := Shaped.map_eq_ok.mp hown
  exact ⟨r', hr'⟩

end Reads

/-- A record is read if every member that is one of its fields is accepted. -/
theorem exists_setMembers (hms : Value.Ordered ms)
    (haccept : ∀ f ∈ fields, ∀ v, Value.member? f.name ms = some v → ∀ r, ∃ r', f.set v r = .ok r')
    (r : ρ) : ∃ r', setMembers fields ms r = .ok r' := by
  induction ms generalizing r with
  | nil => exact ⟨r, rfl⟩
  | cons row ms ih =>
    obtain ⟨l, v⟩ := row
    obtain ⟨hfirst, htail⟩ := List.pairwise_cons.mp hms
    -- The names behind the first one are greater, so no field is met again.
    have hrest : ∀ f ∈ fields, ∀ w, Value.member? f.name ms = some w →
        ∀ r, ∃ r', f.set w r = .ok r' := by
      intro f hf w hw
      have hlt := hfirst f.name (List.mem_map_of_mem (Value.mem_of_member? hw))
      refine haccept f hf w ?_
      rw [Value.member?_cons, if_neg (ne_of_lt hlt)]
      exact hw
    unfold setMembers
    split
    · exact ih htail hrest r
    · next f hfound =>
      have hf : f ∈ fields := List.mem_of_find?_eq_some hfound
      have hname : f.name = l := name_of_find? hfound
      have hmember : Value.member? f.name ((l, v) :: ms) = some v := by
        rw [Value.member?_cons, if_pos hname.symm]
      obtain ⟨r₁, hr₁⟩ := haccept f hf v hmember r
      rw [hr₁]
      exact ih htail hrest r₁

/-! ## Records -/

/-- What is read from the members of an object: a property `P` tells it if it holds of what is read,
sees to it that the members are accepted, and holds of one record only. -/
theorem setMembers_eq_ok {P : ρ → Prop} (hms : Value.Ordered ms)
    (hread : ∀ r', setMembers fields ms r = .ok r' → P r')
    (haccept : ∀ r', P r' → ∀ f ∈ fields, ∀ v, Value.member? f.name ms = some v →
      ∀ r, ∃ r', f.set v r = .ok r')
    (hunique : ∀ r₁ r₂, P r₁ → P r₂ → r₁ = r₂) : setMembers fields ms r = .ok r' ↔ P r' := by
  refine ⟨hread r', fun hr' => ?_⟩
  obtain ⟨r₁, hr₁⟩ := exists_setMembers hms (haccept r' hr') r
  rw [hr₁, hunique r₁ r' (hread r₁ hr₁) hr']

variable {name : String} {required : Option String} {start : ρ} {vs : List Value}

/-- An object is read as a record when its members can be set and those required are there. -/
theorem asRecord_object_eq_ok : asRecord name fields required start (.object ms) = .ok r ↔
    setMembers fields ms start = .ok r ∧ ∀ k ∈ required, (Value.member? k ms).isSome := by
  unfold asRecord
  dsimp only
  cases setMembers fields ms start with
  | error e => simp
  | ok r₁ =>
    cases required with
    | none => simp
    | some k => cases hk : Value.member? k ms <;> simp [hk]

/-- An array is read as a record when its items can be set, are no more than the fields, and none is
required where there is no item. -/
theorem asRecord_array_eq_ok : asRecord name fields required start (.array vs) = .ok r ↔
    setItems fields vs start = .ok r ∧ vs.length ≤ fields.length ∧
      (vs = [] → required = none) := by
  unfold asRecord
  dsimp only
  split
  · -- An empty array lacks the first field that is required.
    next hshort =>
    have hsome := Option.isSome_iff_ne_none.mp hshort.2
    simp [hshort.1, hsome]
  · next hlong =>
    have hempty : vs = [] → required = none := fun h => by
      cases hr : required with
      | none => rfl
      | some k => exact absurd ⟨h, hr ▸ rfl⟩ hlong
    cases setItems fields vs start with
    | error e => simp
    | ok r₁ =>
      by_cases hlength : fields.length < vs.length
      · simp [hlength]
      · dsimp only
        rw [if_neg hlength]
        exact ⟨fun h => ⟨h, Nat.not_lt.mp hlength, hempty⟩, fun h => h.1⟩

end FrameHost.Json
