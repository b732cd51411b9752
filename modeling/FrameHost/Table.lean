/-!
# Tables

Finite maps that keep their keys in the order in which they were first put in. Frame
configurations, inline styles, the page's nodes, the registry and the caches are tables. `get?` is
the view through which every operation is described; the order of the keys shows only where it is
listed.
-/

namespace FrameHost

universe u v

variable {κ : Type u} {α : Type v}

/-- A finite map from `κ` to `α`, its keys in the order of their first insertion. -/
structure Table (κ : Type u) (α : Type v) where
  /-- The keys with their values. -/
  entries : List (κ × α)
  /-- No key has two values. -/
  nodup : (entries.map Prod.fst).Nodup
deriving DecidableEq

namespace Table

/-! ## Rows

The operations on the bare list of rows. -/

variable [DecidableEq κ]

/-- The value of the first row with key `k`. -/
def lookup (k : κ) : List (κ × α) → Option α
  | [] => none
  | (k', a) :: rows => if k' = k then some a else lookup k rows

/-- The rows with `k` holding `a`: in place if the key is there, at the end otherwise. -/
def put (k : κ) (a : α) : List (κ × α) → List (κ × α)
  | [] => [(k, a)]
  | (k', a') :: rows => if k' = k then (k, a) :: rows else (k', a') :: put k a rows

/-- A put leaves the row of names as it is when the name is there, and appends the name otherwise.
-/
theorem map_fst_put (k : κ) (a : α) (rows : List (κ × α)) :
    (put k a rows).map Prod.fst =
      if k ∈ rows.map Prod.fst then rows.map Prod.fst else rows.map Prod.fst ++ [k] := by
  induction rows with
  | nil => rfl
  | cons row rows ih =>
    obtain ⟨k', a'⟩ := row
    by_cases h : k' = k
    · simp [put, h]
    · have h' : ¬ k = k' := fun e => h e.symm
      by_cases hm : k ∈ rows.map Prod.fst
      · rw [if_pos hm] at ih
        simp only [put, if_neg h, List.map_cons, ih, List.mem_cons, hm, or_true, if_true]
      · rw [if_neg hm] at ih
        simp only [put, if_neg h, List.map_cons, ih, List.mem_cons, hm, h', or_false, if_false,
          List.cons_append]

/-- A put never makes a name stand twice. -/
theorem nodup_put {k : κ} {a : α} {rows : List (κ × α)} (h : (rows.map Prod.fst).Nodup) :
    ((put k a rows).map Prod.fst).Nodup := by
  rw [map_fst_put]
  split
  · exact h
  · next hk =>
    rw [List.nodup_append]
    exact ⟨h, by simp, fun x hx y hy e => hk (by simp_all)⟩

/-- A put is read back at its own name, and hides no other. -/
theorem lookup_put (k k' : κ) (a : α) (rows : List (κ × α)) :
    lookup k' (put k a rows) = if k' = k then some a else lookup k' rows := by
  induction rows with
  | nil =>
    by_cases h : k' = k
    · simp [put, lookup, h]
    · have h' : ¬ k = k' := fun e => h e.symm
      simp [put, lookup, h, h']
  | cons row rows ih =>
    obtain ⟨l, b⟩ := row
    by_cases h : l = k
    · by_cases h' : k' = k
      · simp [put, lookup, h, h']
      · have h'' : ¬ k = k' := fun e => h' e.symm
        simp [put, lookup, h, h', h'']
    · by_cases h' : l = k'
      · have h'' : ¬ k' = k := fun e => h (h'.trans e)
        simp [put, lookup, h', h'']
      · simp [put, lookup, h, h', ih]

/-! ## Operations -/

/-- The table without keys. -/
def empty : Table κ α := ⟨[], List.nodup_nil⟩

instance : Inhabited (Table κ α) := ⟨empty⟩

/-- The value of `k`, if the table has one. -/
def get? (t : Table κ α) (k : κ) : Option α := lookup k t.entries

/-- Whether the table has a value for `k`. -/
def contains (t : Table κ α) (k : κ) : Bool := (t.get? k).isSome

/-- The keys, in the order of their first insertion. -/
def keys (t : Table κ α) : List κ := t.entries.map Prod.fst

/-- The values, in the order of their keys. -/
def values (t : Table κ α) : List α := t.entries.map Prod.snd

/-- The number of keys. -/
def size (t : Table κ α) : Nat := t.entries.length

/-- The table with `k` holding `a`; a new key goes to the end. -/
def insert (t : Table κ α) (k : κ) (a : α) : Table κ α := ⟨put k a t.entries, nodup_put t.nodup⟩

/-- The table of the keys that pass a test. -/
def filter (p : κ → Bool) (t : Table κ α) : Table κ α where
  entries := t.entries.filter fun row => p row.1
  nodup := by
    have h : (t.entries.filter fun row => p row.1).map Prod.fst = t.keys.filter p := by
      rw [keys, List.filter_map]; rfl
    rw [h]
    exact t.nodup.filter p

/-- The table without `k`. -/
def erase (t : Table κ α) (k : κ) : Table κ α := t.filter (fun k' => k' ≠ k)

/-- The table with every value passed through `f`, which also gets the key. -/
def map (f : κ → α → α) (t : Table κ α) : Table κ α where
  entries := t.entries.map fun row => (row.1, f row.1 row.2)
  nodup := by
    have h : (t.entries.map fun row => (row.1, f row.1 row.2)).map Prod.fst =
        t.entries.map Prod.fst := by
      rw [List.map_map]; rfl
    rw [h]
    exact t.nodup

/-- The table with the value of `k`, if any, passed through `f`. -/
def modify (t : Table κ α) (k : κ) (f : α → α) : Table κ α :=
  t.map fun k' a => if k' = k then f a else a

/-- The table with every row of `later` put on top. -/
def overlay (t later : Table κ α) : Table κ α :=
  later.entries.foldl (fun t row => t.insert row.1 row.2) t

/-- The table of a list of rows; the last row of a key wins. -/
def ofList (rows : List (κ × α)) : Table κ α :=
  rows.foldl (fun t row => t.insert row.1 row.2) empty

/-! ## The view -/

/-- The empty table has no entry. -/
@[simp] theorem get?_empty (k : κ) : (empty : Table κ α).get? k = none := rfl

/-- An inserted entry is read back under its key; the other keys read as before. -/
theorem get?_insert (t : Table κ α) (k k' : κ) (a : α) :
    (t.insert k a).get? k' = if k' = k then some a else t.get? k' :=
  lookup_put k k' a t.entries

/-- An inserted entry is read back. -/
@[simp] theorem get?_insert_self (t : Table κ α) (k : κ) (a : α) :
    (t.insert k a).get? k = some a := by
  rw [get?_insert, if_pos rfl]

/-- A filtered table keeps exactly the entries whose keys pass. -/
theorem get?_filter (p : κ → Bool) (t : Table κ α) (k : κ) :
    (t.filter p).get? k = if p k then t.get? k else none := by
  show lookup k (t.entries.filter fun row => p row.1) = if p k then lookup k t.entries else none
  induction t.entries with
  | nil => simp [lookup]
  | cons row rows ih =>
    obtain ⟨l, b⟩ := row
    by_cases hl : l = k
    · subst hl
      cases hp : p l <;> simp [lookup, hp] at ih ⊢
      exact ih
    · cases hp : p l <;> simp [lookup, hp, hl, ih]

/-- An erased key is gone, and the other keys read as before. -/
theorem get?_erase (t : Table κ α) (k k' : κ) :
    (t.erase k).get? k' = if k' = k then none else t.get? k' := by
  rw [erase, get?_filter]
  by_cases h : k' = k <;> simp [h]

/-- Mapping a table maps what each key reads. -/
theorem get?_map (f : κ → α → α) (t : Table κ α) (k : κ) :
    (t.map f).get? k = (t.get? k).map (f k) := by
  show lookup k (t.entries.map fun row => (row.1, f row.1 row.2)) = (lookup k t.entries).map (f k)
  induction t.entries with
  | nil => rfl
  | cons row rows ih =>
    obtain ⟨l, b⟩ := row
    by_cases h : l = k
    · subst h; simp [lookup]
    · simp [lookup, h, ih]

/-- A modification acts on what its own key reads. -/
theorem get?_modify (t : Table κ α) (k k' : κ) (f : α → α) :
    (t.modify k f).get? k' = if k' = k then (t.get? k').map f else t.get? k' := by
  rw [modify, get?_map]
  by_cases h : k' = k <;> simp [h]

/-- A name that heads no row has no value. -/
theorem lookup_eq_none {k : κ} {rows : List (κ × α)} (h : k ∉ rows.map Prod.fst) :
    lookup k rows = none := by
  induction rows with
  | nil => rfl
  | cons row rows ih =>
    obtain ⟨hrow, hrows⟩ := not_or.mp (fun hk => h (List.mem_cons.mpr hk))
    unfold lookup
    rw [if_neg fun heq => hrow heq.symm]
    exact ih hrows

/-- The later table wins where it has the key, and the earlier one answers elsewhere. -/
theorem get?_overlay (t later : Table κ α) (k : κ) :
    (t.overlay later).get? k = (later.get? k).or (t.get? k) := by
  show (later.entries.foldl (fun t row => t.insert row.1 row.2) t).get? k =
    (lookup k later.entries).or (t.get? k)
  obtain ⟨rows, hnodup⟩ := later
  dsimp only
  induction rows generalizing t with
  | nil => rfl
  | cons row rows ih =>
    obtain ⟨l, b⟩ := row
    obtain ⟨hl, hrows⟩ := List.nodup_cons.mp hnodup
    have hlookup : lookup k ((l, b) :: rows) = if l = k then some b else lookup k rows := rfl
    rw [List.foldl_cons, ih (t.insert l b) hrows, get?_insert, hlookup]
    by_cases hk : l = k
    · -- The row of `k` comes once, so what it puts in stays.
      subst hk
      rw [if_pos rfl, if_pos rfl, lookup_eq_none hl]
      rfl
    · rw [if_neg fun heq => hk heq.symm, if_neg hk]

/-! ## Values -/

/-- Where no name stands twice, the value found under a name is the one its row holds. -/
theorem lookup_eq_some_iff {k : κ} {a : α} {rows : List (κ × α)}
    (hnodup : (rows.map Prod.fst).Nodup) : lookup k rows = some a ↔ (k, a) ∈ rows := by
  induction rows with
  | nil => simp [lookup]
  | cons row rows ih =>
    obtain ⟨l, b⟩ := row
    obtain ⟨hl, hrows⟩ := List.nodup_cons.mp hnodup
    have hlookup : lookup k ((l, b) :: rows) = if l = k then some b else lookup k rows := rfl
    rw [hlookup, List.mem_cons, Prod.mk.injEq]
    by_cases hk : l = k
    · -- No other row has the key.
      subst hk
      have hnot : (l, a) ∉ rows := fun h => hl (List.mem_map.mpr ⟨(l, a), h, rfl⟩)
      rw [if_pos rfl]
      simp [hnot, eq_comm]
    · rw [if_neg hk, ih hrows]
      simp [Ne.symm hk]

/-- The entries of a table are what its keys read. -/
theorem get?_eq_some_iff {t : Table κ α} {k : κ} {a : α} :
    t.get? k = some a ↔ (k, a) ∈ t.entries := lookup_eq_some_iff t.nodup

/-- A table reads exactly its keys. -/
theorem isSome_get?_iff {t : Table κ α} {k : κ} : (t.get? k).isSome ↔ k ∈ t.keys := by
  constructor
  · intro hsome
    obtain ⟨a, ha⟩ := Option.isSome_iff_exists.mp hsome
    exact List.mem_map.mpr ⟨(k, a), get?_eq_some_iff.mp ha, rfl⟩
  · intro hk
    obtain ⟨⟨l, a⟩, hrow, rfl⟩ := List.mem_map.mp hk
    rw [get?_eq_some_iff.mpr hrow]
    rfl

/-- A value found is one of the rows' values. -/
theorem mem_of_lookup {k : κ} {a : α} {rows : List (κ × α)} (h : lookup k rows = some a) :
    a ∈ rows.map Prod.snd := by
  induction rows with
  | nil => cases h
  | cons row rows ih =>
    unfold lookup at h
    split at h
    · cases h
      exact List.mem_cons_self
    · exact List.mem_cons_of_mem _ (ih h)

/-- What a key reads is one of the table's values. -/
theorem mem_values_of_get? {t : Table κ α} {k : κ} {a : α} (h : t.get? k = some a) : a ∈ t.values :=
  mem_of_lookup h

/-- After a put the values are the new one and some of the earlier ones. -/
theorem mem_of_mem_put {k : κ} {a b : α} {rows : List (κ × α)}
    (h : b ∈ (put k a rows).map Prod.snd) : b = a ∨ b ∈ rows.map Prod.snd := by
  induction rows with
  | nil => exact .inl (List.mem_singleton.mp h)
  | cons row rows ih =>
    unfold put at h
    split at h
    · rcases List.mem_cons.mp h with rfl | h
      · exact .inl rfl
      · exact .inr (List.mem_cons_of_mem _ h)
    · rcases List.mem_cons.mp h with rfl | h
      · exact .inr List.mem_cons_self
      · exact (ih h).imp_right (List.mem_cons_of_mem _)

/-- After an insertion the values are the new one and some of the earlier ones. -/
theorem mem_of_mem_values_insert {t : Table κ α} {k : κ} {a b : α}
    (h : b ∈ (t.insert k a).values) : b = a ∨ b ∈ t.values := mem_of_mem_put h

/-- Erasing adds no value. -/
theorem mem_of_mem_values_erase {t : Table κ α} {k : κ} {a : α} (h : a ∈ (t.erase k).values) :
    a ∈ t.values := by
  obtain ⟨row, hrow, rfl⟩ := List.mem_map.mp h
  exact List.mem_map.mpr ⟨row, (List.mem_filter.mp hrow).1, rfl⟩

end Table

end FrameHost
