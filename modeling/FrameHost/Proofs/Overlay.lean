import FrameHost.Config.Basic
import Mathlib.Data.List.Nodup

/-!
# Configurations laid over each other

A table is told by its keys in order and by the value of each (`Table.ext_get?`). Laying one table over
another leaves the keys of the lower one in front, so a table that begins with all of them already is
not changed by being laid over it again (`Table.overlay_of_prefix`). For configurations this says that
the library's own configuration lies under another one once and for all (`Config.Complete`), and that
laying the same patch a second time changes no field (`Config.requiresReload_merged`).
-/

namespace FrameHost

/-! ## Equality of values -/

namespace Json

/-- A number is the same as itself. -/
theorem Number.same_refl (n : Number) : n.same n = true := by
  cases n with
  | int n => exact beq_self_eq_true n
  | double x =>
    show ((x.significand == 0 && x.significand == 0) || x == x) = true
    rw [beq_self_eq_true x, Bool.or_true]

namespace Value

mutual

/-- A value is the same as itself. -/
theorem same_refl : ∀ v : Value, v.same v = true
  | .null => by unfold same; rfl
  | .bool b => by unfold same; exact beq_self_eq_true b
  | .number n => by unfold same; exact n.same_refl
  | .string s => by unfold same; exact beq_self_eq_true s
  | .array xs => by unfold same; exact sameItems_refl xs
  | .object ms => by unfold same; exact sameMembers_refl ms

/-- Items are the same as themselves. -/
theorem sameItems_refl : ∀ xs : List Value, sameItems xs xs = true
  | [] => by unfold sameItems; rfl
  | x :: xs => by
    unfold sameItems
    rw [same_refl x, sameItems_refl xs]
    rfl

/-- Members are the same as themselves. -/
theorem sameMembers_refl : ∀ ms : List (String × Value), sameMembers ms ms = true
  | [] => by unfold sameMembers; rfl
  | (k, x) :: ms => by
    unfold sameMembers
    rw [beq_self_eq_true k, same_refl x, sameMembers_refl ms]
    rfl

end

end Value

end Json

/-! ## Tables -/

namespace Table

universe u v

variable {κ : Type u} {α : Type v} [DecidableEq κ] {t t' later : Table κ α} {k : κ}

/-- What is no key has no entry. -/
theorem get?_eq_none (h : k ∉ t.keys) : t.get? k = none := lookup_eq_none h

/-- An insertion keeps the order of the keys, a new one last. -/
theorem keys_insert (t : Table κ α) (k : κ) (a : α) :
    (t.insert k a).keys = if k ∈ t.keys then t.keys else t.keys ++ [k] :=
  map_fst_put k a t.entries

/-- Rows in the same order that read the same are the same. -/
theorem eq_of_lookup {rows rows' : List (κ × α)} (hnodup : (rows.map Prod.fst).Nodup)
    (hkeys : rows.map Prod.fst = rows'.map Prod.fst)
    (hlookup : ∀ k, lookup k rows = lookup k rows') : rows = rows' := by
  induction rows generalizing rows' with
  | nil => exact (List.map_eq_nil_iff.mp hkeys.symm).symm
  | cons row rows ih =>
    obtain ⟨k, a⟩ := row
    obtain ⟨row', rows', rfl⟩ := List.exists_cons_of_ne_nil
      fun hnil : rows' = [] => by rw [hnil] at hkeys; cases hkeys
    obtain ⟨k', a'⟩ := row'
    obtain ⟨rfl, hrest⟩ := List.cons.inj hkeys
    obtain ⟨hk, hrows⟩ := List.nodup_cons.mp hnodup
    have hhead := hlookup k
    unfold lookup at hhead
    rw [if_pos rfl, if_pos rfl] at hhead
    cases hhead
    -- Below the first row its key does not come again.
    have htail : ∀ j, lookup j rows = lookup j rows' := fun j => by
      by_cases hj : k = j
      · subst hj
        rw [lookup_eq_none hk, lookup_eq_none (hrest ▸ hk)]
      · have hrow := hlookup j
        unfold lookup at hrow
        rwa [if_neg hj, if_neg hj] at hrow
    rw [ih hrows hrest htail]

/-- Tables with the same keys in the same order, and the same values, are equal. -/
theorem ext_get? (hkeys : t.keys = t'.keys) (hget : ∀ k, t.get? k = t'.get? k) : t = t' := by
  obtain ⟨rows, hnodup⟩ := t
  obtain ⟨rows', hnodup'⟩ := t'
  obtain rfl : rows = rows' := eq_of_lookup hnodup hkeys hget
  rfl

/-- The keys of the lower table come first, then those that are new. -/
theorem keys_overlay (t later : Table κ α) :
    (t.overlay later).keys = t.keys ++ later.keys.filter fun k => k ∉ t.keys := by
  obtain ⟨rows, hnodup⟩ := later
  show (rows.foldl (fun t row => t.insert row.1 row.2) t).keys =
    t.keys ++ (rows.map Prod.fst).filter fun k => k ∉ t.keys
  induction rows generalizing t with
  | nil => exact (List.append_nil _).symm
  | cons row rows ih =>
    obtain ⟨hk, hrows⟩ := List.nodup_cons.mp hnodup
    rw [List.foldl_cons, ih (t.insert row.1 row.2) hrows, List.map_cons, keys_insert]
    split
    · -- A key that is there keeps its place, a new one comes last.
      next hmem => rw [List.filter_cons_of_neg (by simpa using hmem)]
    · next hmem =>
      rw [List.filter_cons_of_pos (by simpa using hmem), List.append_assoc, List.singleton_append]
      congr 2
      refine List.filter_congr fun j hj => ?_
      have hne : j ≠ row.1 := by
        rintro rfl
        exact hk hj
      simp [hne]

/-- What is laid over a table adds its keys behind the table's. -/
theorem prefix_overlay (t later : Table κ α) : t.keys <+: (t.overlay later).keys := by
  rw [keys_overlay]
  exact List.prefix_append _ _

/-- A table that begins with the keys of another is not changed by being laid over it. -/
theorem overlay_of_prefix (h : t.keys <+: later.keys) : t.overlay later = later := by
  obtain ⟨ks, hks⟩ := h
  have hnodup : (t.keys ++ ks).Nodup := hks ▸ later.nodup
  refine ext_get? ?_ fun k => ?_
  · -- The same keys in the same order, and the later value of each.
    have hold : (t.keys.filter fun k => k ∉ t.keys) = [] := by simp
    have hnew : (ks.filter fun k => k ∉ t.keys) = ks := by
      refine List.filter_eq_self.mpr fun k hk => ?_
      have hnot : k ∉ t.keys := fun hmem => (List.nodup_append.mp hnodup).2.2 k hmem k hk rfl
      simpa using hnot
    rw [keys_overlay, ← hks, List.filter_append, hold, hnew, List.nil_append]
  · rw [get?_overlay]
    cases hget : later.get? k with
    | some a => rfl
    | none =>
      have hk : k ∉ later.keys := fun hmem => by
        obtain ⟨row, hrow, rfl⟩ := List.mem_map.mp hmem
        have hsome : later.get? row.1 = some row.2 := get?_eq_some_iff.mpr hrow
        rw [hget] at hsome
        cases hsome
      rw [get?_eq_none fun hmem => hk (hks ▸ List.mem_append_left ks hmem)]
      rfl

end Table

/-! ## Configurations -/

namespace Config

open Json (Value)

variable {c later patch : Config} {key : String} {v : Value}

/-- The later configuration wins where it has the key, and the earlier one answers elsewhere. -/
theorem get?_merged (c later : Config) (key : String) :
    (c.merged later).get? key = (later.get? key).or (c.get? key) :=
  Table.get?_overlay c.fields later.fields key

/-- A configuration has every field of the library's own, and in front of all others. -/
def Complete (c : Config) : Prop := defaults.fields.keys <+: c.fields.keys

/-- What is merged into the defaults is complete. -/
theorem complete_defaults_merged (c : Config) : (defaults.merged c).Complete :=
  Table.prefix_overlay defaults.fields c.fields

/-- A complete configuration stays complete under every patch. -/
theorem Complete.merged (hc : c.Complete) (later : Config) : (c.merged later).Complete :=
  hc.trans (Table.prefix_overlay c.fields later.fields)

/-- The library's own configuration makes no difference under one that is complete. -/
theorem Complete.defaults_merged (hc : c.Complete) : defaults.merged c = c := by
  have hfields : defaults.fields.overlay c.fields = c.fields := Table.overlay_of_prefix hc
  have hhandlers : defaults.handlers.overlay c.handlers = c.handlers :=
    Table.overlay_of_prefix List.nil_prefix
  unfold Config.merged
  rw [hfields, hhandlers]

/-- A configuration holds the value it has. -/
theorem holds_of_get? (h : c.get? key = some v) : c.holds key v = true := by
  unfold holds
  rw [h]
  exact v.same_refl

/-- The keys a patch changes are those for which it brings a value the configuration does not hold.
-/
theorem mem_changedKeys :
    key ∈ c.changedKeys patch ↔ ∃ v, patch.get? key = some v ∧ c.holds key v = false := by
  have hget : ∀ v, patch.get? key = some v ↔ (key, v) ∈ patch.fields.entries := fun v =>
    Table.get?_eq_some_iff
  unfold changedKeys
  rw [List.mem_map]
  constructor
  · rintro ⟨⟨key', v⟩, hrow, rfl⟩
    obtain ⟨hmem, hchanged⟩ := List.mem_filter.mp hrow
    exact ⟨v, (hget v).mpr hmem, by simpa using hchanged⟩
  · rintro ⟨v, hv, hchanged⟩
    exact ⟨(key, v), List.mem_filter.mpr ⟨(hget v).mp hv, by simpa using hchanged⟩, rfl⟩

/-- A field is changed by a patch exactly if it has another value with the patch on top. -/
theorem mem_changedKeys_iff_merged :
    key ∈ c.changedKeys patch ↔
      ∃ v, (c.merged patch).get? key = some v ∧ c.holds key v = false := by
  rw [mem_changedKeys]
  refine exists_congr fun v => and_congr_left fun hchanged => ?_
  rw [get?_merged]
  -- A key that the patch does not have keeps its value, so it does not change.
  cases hpatch : patch.get? key with
  | some w => exact Iff.rfl
  | none =>
    constructor
    · intro hnone
      cases hnone
    · intro hkept
      have hholds : c.holds key v = true := holds_of_get? hkept
      exact Bool.noConfusion (hholds.symm.trans hchanged)

/-- A reload is needed when the patched value of a key that asks for one is not held yet. -/
theorem requiresReload_iff :
    c.requiresReload patch = true ↔
      ∃ key ∈ c.keysForReload, ∃ v, (c.merged patch).get? key = some v ∧ c.holds key v = false := by
  unfold requiresReload
  rw [List.any_eq_true]
  refine exists_congr fun key => ?_
  rw [mem_changedKeys_iff_merged, List.contains_iff_mem]
  exact and_comm

/-- With a patch on top, the same patch changes nothing. -/
theorem requiresReload_merged (c patch : Config) : (c.merged patch).requiresReload patch = false := by
  refine Bool.eq_false_iff.mpr fun hreload => ?_
  obtain ⟨key, hkey, -⟩ := List.any_eq_true.mp hreload
  obtain ⟨v, hv, hchanged⟩ := mem_changedKeys.mp hkey
  have hget : (c.merged patch).get? key = some v := by
    rw [get?_merged, hv]
    rfl
  rw [holds_of_get? hget] at hchanged
  cases hchanged

end Config

end FrameHost
