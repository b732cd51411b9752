import FrameHost.Proofs.Merging
import FrameHost.Page.Style
import Mathlib.Data.List.Induction

/-!
# How styles are built

A style is built from the empty one by setting properties and by laying another style on top. Each of
these comes to a list of settings made one after the other (`Recipe.settings`), the declarations of a
style on top being set again below it, and the style is the table of that list (`Recipe.style_eq`). So
its properties stand in the order in which they were first set, each with the value that was set last,
and the laws of laying styles over each other are those of tables (`Recipe.overlay_laws`).
-/

namespace FrameHost

/-! ## Tables of rows put in one after the other -/

namespace Table

universe u v

variable {κ : Type u} {α : Type v} [DecidableEq κ] {t later : Table κ α} {k : κ}

/-- The rows of two lists are inserted one list after the other. -/
theorem ofList_append (rows rows' : List (κ × α)) :
    ofList (rows ++ rows') = rows'.foldl (fun t row => t.insert row.1 row.2) (ofList rows) :=
  List.foldl_append

/-- The last row is inserted last. -/
theorem ofList_concat (rows : List (κ × α)) (k : κ) (a : α) :
    ofList (rows ++ [(k, a)]) = (ofList rows).insert k a := ofList_append rows [(k, a)]

/-- A table on top that gets one more row is the table on top, and then the row. -/
theorem overlay_insert (t later : Table κ α) (k : κ) (a : α) :
    t.overlay (later.insert k a) = (t.overlay later).insert k a := by
  refine ext_get? ?_ fun j => ?_
  · have hmem : k ∈ (t.overlay later).keys ↔ k ∈ t.keys ∨ k ∈ later.keys := by
      rw [keys_overlay, List.mem_append, List.mem_filter]
      by_cases ht : k ∈ t.keys <;> simp [ht]
    rw [keys_overlay, keys_insert, keys_insert]
    by_cases hlater : k ∈ later.keys
    · rw [if_pos hlater, if_pos (hmem.mpr (.inr hlater)), keys_overlay]
    · -- The new row shows only if the table below does not have its key either.
      rw [if_neg hlater, List.filter_append, ← List.append_assoc, ← keys_overlay]
      by_cases ht : k ∈ t.keys
      · rw [if_pos (hmem.mpr (.inl ht)), List.filter_singleton]
        simp [ht]
      · rw [if_neg fun h => (hmem.mp h).elim ht hlater, List.filter_singleton]
        simp [ht]
  · rw [get?_overlay, get?_insert, get?_insert, get?_overlay]
    by_cases hj : j = k
    · rw [if_pos hj, if_pos hj]
      rfl
    · rw [if_neg hj, if_neg hj]

/-- A list of rows is laid over a table by inserting them in order. -/
theorem overlay_ofList (t : Table κ α) (rows : List (κ × α)) :
    t.overlay (ofList rows) = rows.foldl (fun t row => t.insert row.1 row.2) t := by
  induction rows using List.reverseRecOn with
  | nil => rfl
  | append_singleton rows row ih =>
    rw [ofList_concat, overlay_insert, ih, List.foldl_append]
    rfl

/-- The keys of a table of rows stand in the order of the first row of each. -/
theorem keys_ofList (rows : List (κ × α)) : (ofList rows).keys = (rows.map Prod.fst).eraseDups := by
  induction rows using List.reverseRecOn with
  | nil => rfl
  | append_singleton rows row ih =>
    have hmem : row.1 ∈ (ofList rows).keys ↔ row.1 ∈ rows.map Prod.fst := by
      rw [ih, List.mem_eraseDups]
    rw [ofList_concat, keys_insert, List.map_append, List.eraseDups_append, ← ih]
    by_cases hk : row.1 ∈ rows.map Prod.fst
    · rw [if_pos (hmem.mpr hk)]
      simp [List.removeAll, List.mem_map.mp hk]
    · rw [if_neg fun h => hk (hmem.mp h)]
      simp [List.removeAll, hk, List.eraseDups_cons]

/-- The value of a key in a table of rows is that of the last row of the key. -/
theorem get?_ofList (rows : List (κ × α)) (k : κ) :
    (ofList rows).get? k = lookup k rows.reverse := by
  induction rows using List.reverseRecOn with
  | nil => rfl
  | append_singleton rows row ih =>
    rw [ofList_concat, get?_insert, List.reverse_append, List.reverse_singleton,
      List.singleton_append, lookup, ih]
    by_cases hk : k = row.1
    · rw [if_pos hk, if_pos hk.symm]
    · rw [if_neg hk, if_neg fun h => hk h.symm]

end Table

/-! ## Styles -/

namespace Style

/-- How a style is built. -/
inductive Recipe where
  /-- The style without declarations. -/
  | new
  /-- A style with one property set. -/
  | set (base : Recipe) (property value : String)
  /-- A style with another one on top. -/
  | merged (base later : Recipe)
deriving DecidableEq, Repr

namespace Recipe

/-- The style that a recipe builds. -/
def style : Recipe → Style
  | new => empty
  | set base property value => base.style.insert property value
  | merged base later => base.style.merged later.style

/-- The settings that a recipe makes, first to last. -/
def settings : Recipe → List (String × String)
  | new => []
  | set base property value => base.settings ++ [(property, value)]
  | merged base later => base.settings ++ later.settings

/-- The properties that a recipe sets, once for each time. -/
def properties (r : Recipe) : List String := r.settings.map Prod.fst

/-- Building a style is making its settings one after the other. -/
theorem style_eq (r : Recipe) : r.style = ofList r.settings := by
  induction r with
  | new => rfl
  | set base property value ih =>
    show base.style.insert property value = ofList (base.settings ++ [(property, value)])
    rw [ih]
    exact (Table.ofList_concat base.settings property value).symm
  | merged base later ihbase ihlater =>
    show base.style.merged later.style = ofList (base.settings ++ later.settings)
    rw [ihbase, ihlater]
    exact (Table.overlay_ofList _ _).trans (Table.ofList_append _ _).symm

/-- The properties of a style, in the order in which they were first set. -/
theorem keys_style (r : Recipe) : r.style.keys = r.properties.eraseDups := by
  rw [style_eq]
  exact Table.keys_ofList r.settings

/-- A property has the value that was set last. -/
theorem get?_style (r : Recipe) (property : String) :
    r.style.get? property = Table.lookup property r.settings.reverse := by
  rw [style_eq]
  exact Table.get?_ofList r.settings property

/-- A style has exactly the properties that were set. -/
theorem isSome_get?_style (r : Recipe) (property : String) :
    (r.style.get? property).isSome ↔ property ∈ r.properties := by
  rw [Table.isSome_get?_iff, keys_style, List.mem_eraseDups]

/-- The later style wins for the properties it sets, and the earlier one keeps the others. -/
theorem get?_merged (a b : Recipe) (property : String) :
    (a.style.merged b.style).get? property =
      if property ∈ b.properties then b.style.get? property else a.style.get? property := by
  show (a.style.overlay b.style).get? property = _
  rw [Table.get?_overlay]
  -- A property that the later recipe sets has a value there.
  by_cases hset : property ∈ b.properties
  · obtain ⟨value, hvalue⟩ := Option.isSome_iff_exists.mp ((b.isSome_get?_style property).mpr hset)
    rw [if_pos hset, hvalue]
    rfl
  · have hnone : b.style.get? property = none := by
      rwa [← b.isSome_get?_style, Option.not_isSome_iff_eq_none] at hset
    rw [if_neg hset, hnone]
    rfl

/-- A style is an ordered map, and laying styles over each other is associative. Whatever a style is
built from, its properties are distinct and stand in the order in which they were first set, each
with the value that was set last. In a style with another on top, a property has the value of the
upper style if that sets it and of the lower one otherwise, and the properties of the lower style
come first, followed by the new ones of the upper style in its order. Three styles can be laid over
each other from either side, the empty style changes nothing above or below another, and neither
does a style on top of itself; styles are equal only if their declarations stand in the same order.
-/
theorem overlay_laws (a b c : Recipe) :
    (a.style.keys.Nodup ∧ a.style.keys = a.properties.eraseDups ∧
      ∀ property, a.style.get? property = Table.lookup property a.settings.reverse) ∧
    (∀ property, (a.style.merged b.style).get? property =
      if property ∈ b.properties then b.style.get? property else a.style.get? property) ∧
    (a.style.merged b.style).keys =
      a.style.keys ++ b.style.keys.filter (fun property => property ∉ a.style.keys) ∧
    (a.style.merged b.style).merged c.style = a.style.merged (b.style.merged c.style) ∧
    (a.style.merged empty = a.style ∧ empty.merged a.style = a.style) ∧
    a.style.merged a.style = a.style := by
  refine ⟨⟨a.style.nodup, a.keys_style, a.get?_style⟩, get?_merged a b, ?_, ?_, ⟨rfl, ?_⟩, ?_⟩
  · exact Table.keys_overlay a.style b.style
  · exact Table.overlay_assoc a.style b.style c.style
  · exact Table.empty_overlay a.style
  · exact Table.overlay_self a.style

/-- Setting a property again changes its value and not its place. -/
example : ((((new.set "width" "100%").set "opacity" "0").set "width" "50%").style).toCss =
    "width: 50%; opacity: 0;" := by decide +kernel

end Recipe

end Style

end FrameHost
