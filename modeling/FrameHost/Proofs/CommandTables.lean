import FrameHost.Frame.Commands
import FrameHost.Proofs.Overlay
import Mathlib.Data.List.DropRight
import Mathlib.Data.List.Sort
import Mathlib.Data.String.Basic

/-!
# Tables of commands

A command is registered exactly if its name is not blank and not taken (`register_eq_ok_iff`), and an
attempt that is refused leaves the table as it is. So of several attempts under one name the first one
counts, and none under a name of the library (`get?_attempted`, `find?_accepted`). The names of the
commands are listed in order and without repetition (`pairwise_names`).
-/

namespace FrameHost

/-! ## Blank names -/

namespace Text

/-- A text is nothing but white space exactly if nothing is left of it when it is trimmed. -/
theorem isAllBlank_iff {s : String} : isAllBlank s = true ↔ trim s.toList = [] := by
  have htrim : trim s.toList = (s.toList.dropWhile isBlank).rdropWhile isBlank := rfl
  unfold isAllBlank
  rw [htrim, List.all_eq_true, List.rdropWhile_eq_nil_iff]
  constructor
  · intro hall c hc
    exact hall c (List.dropWhile_suffix _ |>.subset hc)
  · intro hrest
    -- What is left begins with no blank, so there is nothing left.
    have hnil : s.toList.dropWhile isBlank = [] := by
      by_contra hne
      have hhead := List.head_dropWhile_not isBlank hne
      rw [hrest _ (List.head_mem hne)] at hhead
      cases hhead
    exact List.dropWhile_eq_nil_iff.mp hnil

end Text

namespace Commands

variable {cs cs' : Commands} {name : String} {cb : Callback} {e : Error}

/-! ## Registering -/

/-- A command is registered exactly if its name is not blank and not taken. -/
theorem register_eq_ok_iff : cs.register name cb = .ok cs' ↔
    Text.trim name.toList ≠ [] ∧ cs.get? name = none ∧ cs' = cs.insert name (.host cb) := by
  unfold register
  rw [ne_eq, ← Text.isAllBlank_iff, ← Option.not_isSome_iff_eq_none]
  unfold Table.contains
  by_cases hblank : Text.isAllBlank name = true
  · simp [hblank]
  · by_cases htaken : (cs.get? name).isSome = true
    · simp [hblank, htaken]
    · simp [hblank, htaken, eq_comm]

/-- A command that is not registered is told what is wrong with its name. -/
theorem register_eq_error_iff : cs.register name cb = .error e ↔
    (Text.trim name.toList = [] ∧ e = .blankCommand) ∨
      (Text.trim name.toList ≠ [] ∧ (cs.get? name).isSome ∧ e = .commandTaken name) := by
  unfold register
  rw [ne_eq, ← Text.isAllBlank_iff]
  unfold Table.contains
  -- The name is looked at first, and the table then.
  by_cases hblank : Text.isAllBlank name = true
  · rw [if_pos hblank]
    constructor
    · rintro ⟨⟩
      exact .inl ⟨hblank, rfl⟩
    · rintro (⟨-, rfl⟩ | ⟨hnot, -⟩)
      · rfl
      · exact absurd hblank hnot
  · rw [if_neg hblank]
    by_cases htaken : (cs.get? name).isSome = true
    · rw [if_pos htaken]
      constructor
      · rintro ⟨⟩
        exact .inr ⟨hblank, htaken, rfl⟩
      · rintro (⟨hnot, -⟩ | ⟨-, -, rfl⟩)
        · exact absurd hnot hblank
        · rfl
    · rw [if_neg htaken]
      constructor
      · rintro ⟨⟩
      · rintro (⟨hnot, -⟩ | ⟨-, hnot, -⟩)
        · exact absurd hnot hblank
        · exact absurd hnot htaken

/-! ## Attempts -/

/-- An attempt to register host code as a command. -/
structure Attempt where
  name : String
  cb : Callback
deriving DecidableEq, Repr

/-- The commands after an attempt; if it is refused, they are as before. -/
def attempt (cs : Commands) (a : Attempt) : Commands := (cs.register a.name a.cb).toOption.getD cs

/-- The commands after attempts made one after the other. -/
def attempted (cs : Commands) (as : List Attempt) : Commands := as.foldl attempt cs

/-- The attempts that are not refused. -/
def accepted (cs : Commands) : List Attempt → List Attempt
  | [] => []
  | a :: as =>
    match cs.register a.name a.cb with
    | .ok cs' => a :: accepted cs' as
    | .error _ => accepted cs as

/-- The first attempt under a name. -/
def first? (as : List Attempt) (name : String) : Option Attempt := as.find? (·.name = name)

/-- An attempt that is accepted leaves the table it gives. -/
theorem attempt_of_ok {a : Attempt} (h : cs.register a.name a.cb = .ok cs') : cs.attempt a = cs' := by
  unfold attempt
  rw [h]
  rfl

/-- An attempt that is refused leaves the table alone. -/
theorem attempt_of_error {a : Attempt} (h : cs.register a.name a.cb = .error e) :
    cs.attempt a = cs := by
  unfold attempt
  rw [h]
  rfl

/-- The attempts are made in order. -/
theorem attempted_cons (a : Attempt) (as : List Attempt) :
    cs.attempted (a :: as) = (cs.attempt a).attempted as := rfl

/-- Attempts in two batches are made one batch after the other. -/
theorem attempted_append (as bs : List Attempt) :
    cs.attempted (as ++ bs) = (cs.attempted as).attempted bs := List.foldl_append

/-- An accepted attempt heads the accepted ones. -/
theorem accepted_of_ok {a : Attempt} (h : cs.register a.name a.cb = .ok cs') (as : List Attempt) :
    cs.accepted (a :: as) = a :: cs'.accepted as := by
  rw [accepted, h]

/-- A refused attempt is not among the accepted ones. -/
theorem accepted_of_error {a : Attempt} (h : cs.register a.name a.cb = .error e) (as : List Attempt) :
    cs.accepted (a :: as) = cs.accepted as := by
  rw [accepted, h]

/-- The first attempt under a name is the one that comes first. -/
theorem first?_cons (a : Attempt) (as : List Attempt) (name : String) :
    first? (a :: as) name = if a.name = name then some a else first? as name := by
  unfold first?
  rw [List.find?_cons]
  by_cases h : a.name = name <;> simp [h]

/-- After some attempts a name stands for what it stood for before, and otherwise for the first host
code that was registered under it. -/
theorem get?_attempted (as : List Attempt) (name : String) : (cs.attempted as).get? name =
    (cs.get? name).or ((first? (cs.accepted as) name).map fun a => .host a.cb) := by
  induction as generalizing cs with
  | nil => exact (Option.or_none).symm
  | cons a as ih =>
    rw [attempted_cons]
    cases hr : cs.register a.name a.cb with
    | error e => rw [attempt_of_error hr, accepted_of_error hr, ih]
    -- The name was free, so an attempt for it that comes later is refused.
    | ok cs' =>
      obtain ⟨-, hfree, rfl⟩ := register_eq_ok_iff.mp hr
      rw [attempt_of_ok hr, accepted_of_ok hr, ih, Table.get?_insert, first?_cons]
      by_cases hname : a.name = name
      · subst hname
        rw [if_pos rfl, if_pos rfl, hfree]
        rfl
      · rw [if_neg (Ne.symm hname), if_neg hname]

/-- The first attempt under a name that is not blank and not taken is not refused. -/
theorem find?_accepted (as : List Attempt) (name : String) : first? (cs.accepted as) name =
    if Text.trim name.toList = [] ∨ (cs.get? name).isSome then none else first? as name := by
  induction as generalizing cs with
  | nil => exact (ite_self _).symm
  | cons a as ih =>
    rw [first?_cons]
    cases hr : cs.register a.name a.cb with
    | error e =>
      rw [accepted_of_error hr, ih]
      refine ite_congr rfl (fun _ => rfl) fun hnot => ?_
      -- An attempt under a name that is free would not be refused.
      rw [if_neg]
      rintro rfl
      rcases register_eq_error_iff.mp hr with ⟨hblank, -⟩ | ⟨-, htaken, -⟩
      · exact hnot (.inl hblank)
      · exact hnot (.inr htaken)
    | ok cs' =>
      obtain ⟨hblank, hfree, rfl⟩ := register_eq_ok_iff.mp hr
      rw [accepted_of_ok hr, first?_cons, ih, Table.get?_insert]
      by_cases hname : a.name = name
      · subst hname
        rw [if_pos rfl, if_pos rfl, hfree, if_neg (by simp [hblank])]
      · rw [if_neg hname, if_neg hname, if_neg (Ne.symm hname)]

/-! ## The commands of the library -/

/-- The built-in commands, by name. -/
theorem entries_builtin : builtin.entries =
    [("setIsLoaded", .showContent), ("setConfig", .configure), ("destroyFrame", .destroy)] := by decide

/-- No command of the library runs host code. -/
theorem get?_builtin_ne_host (name : String) (cb : Callback) :
    builtin.get? name ≠ some (.host cb) := by
  intro hget
  have hmem := Table.get?_eq_some_iff.mp hget
  rw [entries_builtin] at hmem
  simp at hmem

/-- The names of the library stand for its commands, whatever the host tries to register. -/
theorem get?_builtin_attempted (as : List Attempt) (name : String) :
    (builtin.attempted as).get? name = if name ∈ builtin.keys then builtin.get? name
      else (first? (builtin.accepted as) name).map fun a => .host a.cb := by
  rw [get?_attempted]
  by_cases hname : name ∈ builtin.keys
  · obtain ⟨c, hc⟩ := Option.isSome_iff_exists.mp (Table.isSome_get?_iff.mpr hname)
    rw [if_pos hname, hc]
    rfl
  · rw [if_neg hname, Table.get?_eq_none hname]
    rfl

/-! ## Names -/

/-- The names of a table are those it has an entry for. -/
theorem mem_names {name : String} : name ∈ cs.names ↔ (cs.get? name).isSome := by
  unfold names
  rw [List.mem_mergeSort, Table.isSome_get?_iff]

/-- The names of the commands are listed in order, each once. -/
theorem pairwise_names (cs : Commands) : cs.names.Pairwise (· < ·) := by
  have hsorted : cs.names.Pairwise (· ≤ ·) := List.pairwise_mergeSort' (· ≤ ·) cs.keys
  have hnodup : cs.names.Nodup := (List.mergeSort_perm cs.keys _).nodup_iff.mpr cs.nodup
  exact (hsorted.and hnodup).imp fun h => lt_of_le_of_ne h.1 h.2

end Commands

end FrameHost
