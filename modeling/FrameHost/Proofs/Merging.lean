import FrameHost.Proofs.CanonicalValues
import FrameHost.Proofs.Overlay

/-!
# The algebra of configurations

Laying tables over each other is associative with the empty table as identity, the order of the keys
included, and a table over itself changes nothing; so the same holds of configurations. What a patch
changes is told by the fields that it gives another value to. The fields of a configuration are an
object with its members in order, and two such objects are the same exactly if they hold the same under
each key (`sameMembers_iff`); so a patch changes nothing exactly if the configuration with the patch on
top is the same value as before (`changedKeys_eq_nil_iff`), and it needs a mount exactly if it makes one
of the listed fields differ (`merging_laws`).
-/

namespace FrameHost

/-! ## Tables over tables -/

namespace Table

universe u v

variable {κ : Type u} {α : Type v} [DecidableEq κ] {t : Table κ α} {k : κ}

/-- The empty table over which another is laid is that other. -/
theorem empty_overlay (t : Table κ α) : empty.overlay t = t := overlay_of_prefix List.nil_prefix

/-- A table laid over itself changes nothing. -/
theorem overlay_self (t : Table κ α) : t.overlay t = t := overlay_of_prefix (List.prefix_refl t.keys)

/-- Three tables can be laid over each other from either side. -/
theorem overlay_assoc (t later latest : Table κ α) :
    (t.overlay later).overlay latest = t.overlay (later.overlay latest) := by
  refine ext_get? ?_ fun k => ?_
  · -- Of the keys of the last table those come in that neither table below it has.
    have hnew : (latest.keys.filter fun k => k ∉ (t.overlay later).keys) =
        (latest.keys.filter fun k => k ∉ later.keys).filter fun k => k ∉ t.keys := by
      rw [List.filter_filter]
      refine List.filter_congr fun k _ => ?_
      rw [keys_overlay]
      by_cases ht : k ∈ t.keys <;> by_cases hlater : k ∈ later.keys <;> simp [ht, hlater]
    rw [keys_overlay (t.overlay later) latest, hnew, keys_overlay t later,
      keys_overlay t (later.overlay latest), keys_overlay later latest, List.filter_append,
      List.append_assoc]
  · rw [get?_overlay, get?_overlay, get?_overlay, get?_overlay, Option.or_assoc]

end Table

/-! ## Objects that are the same -/

namespace Json.Value

/-- Two values are the same, or neither is there. -/
def SameIfAny (v? w? : Option Value) : Prop := Option.Rel (fun v w => v.same w = true) v? w?

variable {ms ns : List (String × Value)} {k : String} {v w : Value} {v? : Option Value}

/-- A key is not found again after the member it heads. -/
theorem Ordered.member?_eq_none (hms : Ordered ((k, v) :: ms)) : member? k ms = none := by
  obtain ⟨hfirst, -⟩ := List.pairwise_cons.mp hms
  exact Value.member?_eq_none fun hk => absurd (hfirst k hk) (lt_irrefl k)

/-- Where lists in order hold the same, the one does not begin below the other. -/
theorem le_of_sameIfAny {l : String} (hns : Ordered ((l, w) :: ns))
    (h : SameIfAny (some v) (member? k ((l, w) :: ns))) : l ≤ k := by
  cases hmember : member? k ((l, w) :: ns) with
  | none =>
    rw [hmember] at h
    cases h
  | some w' =>
    have hmem := List.mem_map_of_mem (f := Prod.fst) (mem_of_member? hmember)
    rcases List.mem_cons.mp hmem with rfl | hk
    · exact le_refl _
    · exact le_of_lt ((List.pairwise_cons.mp hns).1 k hk)

/-- Members in order are the same exactly if they hold the same under each key. -/
theorem sameMembers_iff (hms : Ordered ms) (hns : Ordered ns) :
    sameMembers ms ns = true ↔ ∀ k, SameIfAny (member? k ms) (member? k ns) := by
  induction ms generalizing ns with
  | nil =>
    cases ns with
    | nil => exact ⟨fun _ _ => .none, fun _ => rfl⟩
    | cons n ns =>
      obtain ⟨l, w⟩ := n
      constructor
      · intro h
        unfold sameMembers at h
        cases h
      · intro h
        have hl := h l
        rw [member?_cons, if_pos rfl] at hl
        cases hl
  | cons m ms ih =>
    obtain ⟨k, v⟩ := m
    cases ns with
    | nil =>
      constructor
      · intro h
        unfold sameMembers at h
        cases h
      · intro h
        have hk := h k
        rw [member?_cons, if_pos rfl] at hk
        cases hk
    | cons n ns =>
      obtain ⟨l, w⟩ := n
      have htails := ih (List.pairwise_cons.mp hms).2 (List.pairwise_cons.mp hns).2
      unfold sameMembers
      rw [Bool.and_eq_true, Bool.and_eq_true, beq_iff_eq, htails]
      constructor
      · rintro ⟨⟨rfl, hvw⟩, hrest⟩ j
        rw [member?_cons, member?_cons]
        by_cases hj : k = j
        · rw [if_pos hj, if_pos hj]
          exact .some hvw
        · rw [if_neg hj, if_neg hj]
          exact hrest j
      · intro h
        -- Each list has the first key of the other, so they begin with the same one.
        have hk := h k
        have hl := h l
        rw [member?_cons, if_pos rfl] at hk
        rw [member?_cons (k := l) (l := l), if_pos rfl] at hl
        have hkl : k = l := by
          refine le_antisymm ?_ (le_of_sameIfAny hns hk)
          by_contra hlt
          have hnot : l ∉ ((k, v) :: ms).map Prod.fst := fun hmem => by
            rcases List.mem_cons.mp hmem with heq | hmem
            · exact hlt (le_of_eq heq.symm)
            · exact hlt (le_of_lt ((List.pairwise_cons.mp hms).1 l hmem))
          rw [Value.member?_eq_none hnot] at hl
          cases hl
        subst hkl
        rw [member?_cons, if_pos rfl] at hk
        refine ⟨⟨rfl, by cases hk; assumption⟩, fun j => ?_⟩
        by_cases hj : k = j
        · subst hj
          rw [hms.member?_eq_none, hns.member?_eq_none]
          exact .none
        · have hrest := h j
          rwa [member?_cons, member?_cons, if_neg hj, if_neg hj] at hrest

/-- Put one by one, the members win over what was there before. -/
theorem member?_foldl_putMember (hnodup : (ms.map Prod.fst).Nodup) (acc : List (String × Value)) :
    member? k (ms.foldl (fun acc m => putMember m.1 m.2 acc) acc) =
      (Table.lookup k ms).or (member? k acc) := by
  induction ms generalizing acc with
  | nil => rfl
  | cons m ms ih =>
    obtain ⟨l, v⟩ := m
    obtain ⟨hl, htail⟩ := List.nodup_cons.mp hnodup
    have hlookup : Table.lookup k ((l, v) :: ms) = if l = k then some v else Table.lookup k ms := rfl
    rw [List.foldl_cons, ih htail, member?_putMember, hlookup]
    by_cases hk : l = k
    · -- No later member takes the place of this one.
      subst hk
      rw [if_pos rfl, if_pos rfl, Table.lookup_eq_none hl]
      rfl
    · rw [if_neg hk, if_neg hk]

end Json.Value

/-! ## Configurations over configurations -/

namespace Config

open Json (Value)
open Json.Value (SameIfAny)

variable {a b c patch : Config} {key : String}

/-- Merging is associative. -/
theorem merged_assoc (a b c : Config) : (a.merged b).merged c = a.merged (b.merged c) := by
  unfold merged
  rw [Table.overlay_assoc, Table.overlay_assoc]

/-- Merging nothing in changes nothing. -/
theorem merged_empty (a : Config) : a.merged empty = a := rfl

/-- Merging into nothing gives what is merged. -/
theorem empty_merged (a : Config) : empty.merged a = a := by
  unfold merged empty
  rw [Table.empty_overlay, Table.empty_overlay]

/-- Merging a configuration into itself changes nothing. -/
theorem merged_self (a : Config) : a.merged a = a := by
  unfold merged
  rw [Table.overlay_self, Table.overlay_self]

/-- The later configuration's handler wins, and the earlier one answers where there is none. -/
theorem handler?_merged (a b : Config) (event : String) :
    (a.merged b).handler? event = (b.handler? event).or (a.handler? event) :=
  Table.get?_overlay a.handlers b.handlers event

/-! ## What a patch changes -/

/-- A configuration holds no such value when the key has none or another one. -/
theorem holds_eq_false_iff {v : Value} :
    c.holds key v = false ↔ ¬ SameIfAny (c.get? key) (some v) := by
  unfold holds SameIfAny
  cases c.get? key <;> simp

/-- A field is changed by a patch exactly if it differs with the patch on top. -/
theorem mem_changedKeys_iff_differs :
    key ∈ a.changedKeys b ↔ ¬ SameIfAny (a.get? key) ((a.merged b).get? key) := by
  rw [mem_changedKeys_iff_merged]
  cases hmerged : (a.merged b).get? key with
  | some v => simp [holds_eq_false_iff]
  | none =>
    -- What neither the patch nor the configuration has is missing before and after.
    have hmissing : a.get? key = none := by
      rw [get?_merged] at hmerged
      exact (Option.or_eq_none_iff.mp hmerged).2
    simp [hmissing, SameIfAny]

/-- Configurations have the same fields if they hold the same under each key. -/
theorem toValue_same_iff :
    a.toValue.same b.toValue = true ↔ ∀ key, SameIfAny (a.get? key) (b.get? key) := by
  -- A configuration is written as an object with its own fields, in order.
  have hfields : ∀ c : Config, ∃ ms, c.toValue = .object ms ∧ Value.Ordered ms ∧
      ∀ key, Value.member? key ms = c.get? key := by
    intro c
    have hempty : Value.Ordered [] := List.Pairwise.nil
    refine ⟨_, rfl, Value.ordered_foldl_putMember hempty _, fun key => ?_⟩
    rw [Value.member?_foldl_putMember c.fields.nodup]
    exact Option.or_none
  obtain ⟨ms, hms, hmsOrdered, hmsGet⟩ := hfields a
  obtain ⟨ns, hns, hnsOrdered, hnsGet⟩ := hfields b
  have hsame : (Value.object ms).same (.object ns) = Value.sameMembers ms ns := by
    unfold Value.same
    rfl
  rw [hms, hns, hsame, Value.sameMembers_iff hmsOrdered hnsOrdered]
  simp only [hmsGet, hnsGet]

/-- A patch changes no field exactly if the fields with the patch on top are the same as before. -/
theorem changedKeys_eq_nil_iff :
    a.changedKeys b = [] ↔ a.toValue.same (a.merged b).toValue = true := by
  rw [toValue_same_iff, List.eq_nil_iff_forall_not_mem]
  exact forall_congr' fun key => by rw [mem_changedKeys_iff_differs, not_not]

/-- With a patch on top, the same patch changes no field. -/
theorem changedKeys_merged (a b : Config) : (a.merged b).changedKeys b = [] := by
  rw [changedKeys_eq_nil_iff, merged_assoc, merged_self]
  exact Value.same_refl _

/-- The keys for a reload are the texts in the list; other items of it do not count, and what is no
list has none. -/
theorem mem_keysForReload :
    key ∈ c.keysForReload ↔ ∃ items, c.get? "keysForReload" = some (.array items) ∧
      .string key ∈ items := by
  -- Texts of the list count, and anything else in it does not.
  have hstring : ∀ v : Value, v.string? = some key ↔ v = .string key := by
    intro v
    cases v <;> simp [Value.string?]
  have harray : ∀ (v : Value) items, v.array? = some items ↔ v = .array items := by
    intro v items
    cases v <;> simp [Value.array?]
  unfold keysForReload
  simp only [List.mem_filterMap, hstring, exists_eq_right]
  cases hlist : (c.get? "keysForReload").bind Value.array? with
  | none =>
    simp only [Option.getD_none, List.not_mem_nil, false_iff, not_exists, not_and]
    intro items hget
    rw [hget] at hlist
    cases hlist
  | some items =>
    obtain ⟨v, hget, hv⟩ := Option.bind_eq_some_iff.mp hlist
    rw [harray] at hv
    simp [hget, hv]

/-- Configurations are laid over each other in any grouping, over and under the empty one, and over
themselves without a change; the one on top wins field by field and handler by handler. A patch changes
no field exactly if the fields with the patch on top are the same value as before, and it never does a
second time. It needs a mount exactly if one of the keys that are listed for that holds something else
with the patch on top, or something where there was nothing. -/
theorem merging_laws (a b c : Config) :
    (a.merged b).merged c = a.merged (b.merged c) ∧
    a.merged empty = a ∧ empty.merged a = a ∧ a.merged a = a ∧
    (∀ key, (a.merged b).get? key = (b.get? key).or (a.get? key)) ∧
    (∀ event, (a.merged b).handler? event = (b.handler? event).or (a.handler? event)) ∧
    (a.changedKeys b = [] ↔ a.toValue.same (a.merged b).toValue = true) ∧
    (a.merged b).changedKeys b = [] ∧
    (a.requiresReload b = true ↔ ∃ items key, a.get? "keysForReload" = some (.array items) ∧
      .string key ∈ items ∧ ¬ SameIfAny (a.get? key) ((a.merged b).get? key)) := by
  -- A remount looks for a key that changes and that is listed.
  have hreload : a.requiresReload b = true ↔
      ∃ key ∈ a.keysForReload, ¬ SameIfAny (a.get? key) ((a.merged b).get? key) := by
    unfold requiresReload
    rw [List.any_eq_true]
    refine exists_congr fun key => ?_
    rw [mem_changedKeys_iff_differs, List.contains_iff_mem]
    exact and_comm
  refine ⟨merged_assoc a b c, merged_empty a, empty_merged a, merged_self a, get?_merged a b,
    handler?_merged a b, changedKeys_eq_nil_iff, changedKeys_merged a b, hreload.trans ?_⟩
  constructor
  · rintro ⟨key, hkey, hdiffers⟩
    obtain ⟨items, hget, hitem⟩ := mem_keysForReload.mp hkey
    exact ⟨items, key, hget, hitem, hdiffers⟩
  · rintro ⟨items, key, hget, hitem, hdiffers⟩
    exact ⟨key, mem_keysForReload.mpr ⟨items, hget, hitem⟩, hdiffers⟩

/-- A list of keys with an item that is no text, and a patch that changes a zero into its negative: the
fields stay the same, so nothing needs a mount. -/
example :
    let c := ofFields [("keysForReload", .array [.null, .string "zoom"]),
      ("zoom", .number (.double (.zero false)))]
    let patch := ofFields [("zoom", .number (.double (.zero true)))]
    c.requiresReload patch = false ∧ c.toValue.same (c.merged patch).toValue = true := by
  decide

end Config

end FrameHost
