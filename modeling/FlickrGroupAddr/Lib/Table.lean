import Mathlib.Data.List.Nodup
import Mathlib.Data.List.MinMax
import Mathlib.Algebra.BigOperators.Group.List.Basic
import Mathlib.Algebra.GroupWithZero.Nat
import Mathlib.Algebra.Ring.Int.Defs

/-!
# Keyed tables

A table is a list of rows together with a proof that no two rows share a key,
so the primary-key constraint of a relational table is part of the type.  The
operations are the ones a guarded batch uses: look a row up by key, insert a
row unless its key is taken, modify the row with a given key, delete by key.
Each comes with the lemmas that describe it by lookup and by membership, so
that later proofs never open the underlying list.
-/

namespace KeyedTable

set_option autoImplicit false

universe u v

/-- Rows with pairwise distinct keys, in insertion order. -/
structure Table {ρ : Type u} {κ : Type v} (key : ρ → κ) where
  rows : List ρ
  nodup : (rows.map key).Nodup

namespace Table

variable {ρ : Type u} {κ : Type v} {key : ρ → κ}

instance : Membership ρ (Table key) := ⟨fun table row => row ∈ table.rows⟩

theorem mem_def {table : Table key} {row : ρ} : row ∈ table ↔ row ∈ table.rows := Iff.rfl

instance (table : Table key) (p : ρ → Prop) [DecidablePred p] :
    Decidable (∃ row ∈ table, p row) :=
  inferInstanceAs (Decidable (∃ row ∈ table.rows, p row))

instance (table : Table key) (p : ρ → Prop) [DecidablePred p] :
    Decidable (∀ row ∈ table, p row) :=
  inferInstanceAs (Decidable (∀ row ∈ table.rows, p row))

@[ext] theorem ext {left right : Table key} (h : left.rows = right.rows) : left = right := by
  cases left; cases right; cases h; rfl

instance [DecidableEq ρ] : DecidableEq (Table key) := fun left right =>
  decidable_of_iff (left.rows = right.rows) ⟨ext, fun h => h ▸ rfl⟩

/-- The table without rows. -/
def empty : Table key := ⟨[], List.nodup_nil⟩

@[simp] theorem not_mem_empty (row : ρ) : row ∉ (empty : Table key) := List.not_mem_nil

/-- Two rows of one table with the same key are the same row. -/
theorem eq_of_key_eq {table : Table key} {left right : ρ}
    (hl : left ∈ table) (hr : right ∈ table) (h : key left = key right) : left = right :=
  List.inj_on_of_nodup_map table.nodup hl hr h

/-- The sum of a weight over all rows. -/
def sumBy (table : Table key) (weight : ρ → Nat) : Nat := (table.rows.map weight).sum

@[simp] theorem sumBy_empty (weight : ρ → Nat) : (empty : Table key).sumBy weight = 0 := rfl

variable [DecidableEq κ]

/-- The row with key `k`. -/
def find? (table : Table key) (k : κ) : Option ρ :=
  table.rows.find? fun row => key row = k

theorem find?_eq_some {table : Table key} {k : κ} {row : ρ} :
    table.find? k = some row ↔ row ∈ table ∧ key row = k := by
  constructor
  · intro h
    exact ⟨List.mem_of_find?_eq_some h, by simpa using List.find?_some h⟩
  · rintro ⟨hmem, rfl⟩
    have hex : ∃ other ∈ table.rows, decide (key other = key row) = true :=
      ⟨row, hmem, by simp⟩
    obtain ⟨other, hother⟩ := Option.isSome_iff_exists.mp (List.find?_isSome.mpr hex)
    have hkey : key other = key row := by simpa using List.find?_some hother
    have hsame : other = row :=
      eq_of_key_eq (List.mem_of_find?_eq_some hother) hmem hkey
    rw [find?, hother, hsame]

theorem find?_of_mem {table : Table key} {row : ρ} (h : row ∈ table) :
    table.find? (key row) = some row :=
  find?_eq_some.mpr ⟨h, rfl⟩

theorem mem_of_find? {table : Table key} {k : κ} {row : ρ} (h : table.find? k = some row) :
    row ∈ table :=
  (find?_eq_some.mp h).1

theorem key_of_find? {table : Table key} {k : κ} {row : ρ} (h : table.find? k = some row) :
    key row = k :=
  (find?_eq_some.mp h).2

theorem find?_eq_none {table : Table key} {k : κ} :
    table.find? k = none ↔ ∀ row ∈ table, key row ≠ k := by
  simp only [find?, List.find?_eq_none, decide_eq_true_eq, mem_def, ne_eq]

@[simp] theorem find?_empty (k : κ) : (empty : Table key).find? k = none := rfl

/-! ### Insertion -/

/-- Insert a row; a taken key aborts. -/
def insert? (table : Table key) (row : ρ) : Option (Table key) :=
  if h : key row ∈ table.rows.map key then none
  else some ⟨table.rows ++ [row], by
    rw [List.map_append, List.map_singleton]
    exact List.nodup_append.mpr ⟨table.nodup, List.nodup_singleton _, by
      intro left hleft right hright heq
      rw [List.mem_singleton] at hright
      exact h (hright ▸ heq ▸ hleft)⟩⟩

/-- What an insertion that went through did. -/
theorem insert?_eq_some {table table' : Table key} {row : ρ} (h : table.insert? row = some table') :
    table.find? (key row) = none ∧ table'.rows = table.rows ++ [row] := by
  unfold insert? at h
  split at h
  · cases h
  · next hfresh =>
      cases h
      refine ⟨find?_eq_none.mpr ?_, rfl⟩
      intro other hother heq
      exact hfresh (List.mem_map.mpr ⟨other, hother, heq⟩)

theorem insert?_isSome {table : Table key} {row : ρ} (h : table.find? (key row) = none) :
    ∃ table', table.insert? row = some table' := by
  unfold insert?
  split
  · next htaken =>
      obtain ⟨other, hother, heq⟩ := List.mem_map.mp htaken
      exact absurd heq (find?_eq_none.mp h other hother)
  · exact ⟨_, rfl⟩

theorem mem_insert? {table table' : Table key} {row other : ρ}
    (h : table.insert? row = some table') : other ∈ table' ↔ other ∈ table ∨ other = row := by
  rw [mem_def, (insert?_eq_some h).2, List.mem_append, List.mem_singleton]
  rfl

theorem find?_insert? {table table' : Table key} {row : ρ}
    (h : table.insert? row = some table') (k : κ) :
    table'.find? k = if k = key row then some row else table.find? k := by
  split
  · next heq =>
      exact find?_eq_some.mpr ⟨(mem_insert? h).mpr (Or.inr rfl), heq.symm⟩
  · next hne =>
      rw [find?, (insert?_eq_some h).2, List.find?_append]
      have hlast : List.find? (fun other => decide (key other = k)) [row] = none := by
        simp [Ne.symm hne]
      rw [hlast, Option.or_none]
      rfl

/-- Insert a row; a guard that does not hold aborts, as a taken key does. -/
def insertIf? (table : Table key) (guard : Prop) [Decidable guard] (row : ρ) :
    Option (Table key) :=
  if guard then table.insert? row else none

theorem insertIf?_eq_some {table table' : Table key} {guard : Prop} [Decidable guard] {row : ρ} :
    table.insertIf? guard row = some table' ↔ guard ∧ table.insert? row = some table' := by
  unfold insertIf?
  split
  · next hguard => simp [hguard]
  · next hguard => simp [hguard]

/-- Insert a row unless its key is taken. -/
def ensure (table : Table key) (row : ρ) : Table key := (table.insert? row).getD table

theorem find?_ensure (table : Table key) (row : ρ) (k : κ) :
    (table.ensure row).find? k =
      if k = key row then some ((table.find? k).getD row) else table.find? k := by
  unfold ensure
  cases hfind : table.find? (key row) with
  | none =>
      obtain ⟨table', hinsert⟩ := insert?_isSome hfind
      rw [hinsert, Option.getD_some, find?_insert? hinsert]
      split
      · next heq =>
          rw [heq, hfind]
          rfl
      · rfl
  | some old =>
      have hnone : table.insert? row = none := by
        cases hinsert : table.insert? row with
        | none => rfl
        | some table' =>
            rw [(insert?_eq_some hinsert).1] at hfind
            cases hfind
      rw [hnone, Option.getD_none]
      split
      · next heq =>
          rw [heq, hfind]
          rfl
      · rfl

/-! ### Modification -/

/-- Modify the row with key `k`; the modification keeps the key. -/
def modify (table : Table key) (k : κ) (f : ρ → ρ)
    (hf : ∀ row, key (f row) = key row := by intro _; rfl) : Table key :=
  ⟨table.rows.map fun row => if key row = k then f row else row, by
    have hkeys : (table.rows.map fun row => if key row = k then f row else row).map key =
        table.rows.map key := by
      rw [List.map_map]
      refine List.map_congr_left fun row _ => ?_
      simp only [Function.comp_apply]
      split
      · exact hf row
      · rfl
    rw [hkeys]
    exact table.nodup⟩

theorem mem_modify {table : Table key} {k : κ} {f : ρ → ρ}
    {hf : ∀ row, key (f row) = key row} {row : ρ} :
    row ∈ table.modify k f hf ↔
      ∃ old ∈ table, row = if key old = k then f old else old := by
  simp only [mem_def, modify, List.mem_map, eq_comm]

/-- A modification that keeps the row of its key keeps the table. -/
theorem modify_eq_self {table : Table key} {k : κ} {f : ρ → ρ} {hf : ∀ row, key (f row) = key row}
    (h : ∀ row ∈ table, key row = k → f row = row) : table.modify k f hf = table := by
  apply ext
  unfold modify
  conv_rhs => rw [← List.map_id table.rows]
  apply List.map_congr_left
  intro row hrow
  split
  · next hkey => exact h row hrow hkey
  · rfl

@[simp] theorem find?_modify (table : Table key) (k : κ) (f : ρ → ρ)
    (hf : ∀ row, key (f row) = key row) (k' : κ) :
    (table.modify k f hf).find? k' =
      if k' = k then (table.find? k').map f else table.find? k' := by
  cases hfind : table.find? k' with
  | none =>
      have hnone : (table.modify k f hf).find? k' = none := by
        refine find?_eq_none.mpr fun row hrow heq => ?_
        obtain ⟨old, hold, rfl⟩ := mem_modify.mp hrow
        refine find?_eq_none.mp hfind old hold ?_
        rw [← heq]
        split
        · exact (hf old).symm
        · rfl
      rw [hnone]
      split <;> rfl
  | some old =>
      obtain ⟨hold, hkey⟩ := find?_eq_some.mp hfind
      refine (find?_eq_some.mpr ⟨mem_modify.mpr ⟨old, hold, ?_⟩, ?_⟩ :
        (table.modify k f hf).find? k' = some (if key old = k then f old else old)).trans ?_
      · rfl
      · split
        · exact (hf old).trans hkey
        · exact hkey
      · rw [hkey]
        split <;> rfl

/-- The same as a term, for a modification that leaves the key column out. -/
theorem find?_modify_eq (table : Table key) (k : κ) (f : ρ → ρ) (k' : κ)
    (hf : ∀ row, key (f row) = key row := by intro _; rfl) :
    (table.modify k f hf).find? k' =
      if k' = k then (table.find? k').map f else table.find? k' :=
  find?_modify table k f hf k'

/-- A modification that keeps a view of every row keeps the view of every lookup. -/
theorem map_find?_modify {α : Type*} {view : ρ → α} (table : Table key) (k : κ) (f : ρ → ρ)
    (k' : κ) (hf : ∀ row, key (f row) = key row := by intro _; rfl)
    (hview : ∀ row, view (f row) = view row := by intro _; rfl) :
    ((table.modify k f hf).find? k').map view = (table.find? k').map view := by
  rw [find?_modify]
  split
  · cases table.find? k' with
    | none => rfl
    | some row => exact congrArg some (hview row)
  · rfl

/-- Every row of a modified table is an unmodified row or the modified one. -/
theorem mem_modify_cases {table : Table key} {k : κ} {f : ρ → ρ}
    {hf : ∀ row, key (f row) = key row} {row : ρ} (h : row ∈ table.modify k f hf) :
    (row ∈ table ∧ key row ≠ k) ∨ ∃ old, table.find? k = some old ∧ row = f old := by
  obtain ⟨old, hold, rfl⟩ := mem_modify.mp h
  by_cases hkey : key old = k
  · right
    exact ⟨old, find?_eq_some.mpr ⟨hold, hkey⟩, by rw [if_pos hkey]⟩
  · left
    rw [if_neg hkey]
    exact ⟨hold, hkey⟩

/-- Modify every row of which `p` holds. -/
def modifyWhere (table : Table key) (p : ρ → Bool) (f : ρ → ρ)
    (hf : ∀ row, key (f row) = key row := by intro _; rfl) : Table key :=
  ⟨table.rows.map fun row => if p row then f row else row, by
    have hkeys : (table.rows.map fun row => if p row then f row else row).map key =
        table.rows.map key := by
      rw [List.map_map]
      refine List.map_congr_left fun row _ => ?_
      simp only [Function.comp_apply]
      split
      · exact hf row
      · rfl
    rw [hkeys]
    exact table.nodup⟩

omit [DecidableEq κ] in
theorem mem_modifyWhere {table : Table key} {p : ρ → Bool} {f : ρ → ρ}
    {hf : ∀ row, key (f row) = key row} {row : ρ} :
    row ∈ table.modifyWhere p f hf ↔ ∃ old ∈ table, row = if p old then f old else old := by
  simp only [mem_def, modifyWhere, List.mem_map, eq_comm]

theorem find?_modifyWhere (table : Table key) (p : ρ → Bool) (f : ρ → ρ) (k : κ)
    (hf : ∀ row, key (f row) = key row := by intro _; rfl) :
    (table.modifyWhere p f hf).find? k =
      (table.find? k).map fun row => if p row then f row else row := by
  have hkey : ∀ row, key (if p row then f row else row) = key row := by
    intro row
    split
    · exact hf row
    · rfl
  cases hfind : table.find? k with
  | none =>
      refine find?_eq_none.mpr fun row hrow heq => ?_
      obtain ⟨old, hold, rfl⟩ := mem_modifyWhere.mp hrow
      exact find?_eq_none.mp hfind old hold ((hkey old).symm.trans heq)
  | some old =>
      obtain ⟨hold, hsame⟩ := find?_eq_some.mp hfind
      exact find?_eq_some.mpr ⟨mem_modifyWhere.mpr ⟨old, hold, rfl⟩, (hkey old).trans hsame⟩

/-- A view of the rows that the modification keeps. -/
theorem map_find?_modifyWhere {α : Type*} {view : ρ → α} (table : Table key) (p : ρ → Bool)
    (f : ρ → ρ) (k : κ) (hf : ∀ row, key (f row) = key row := by intro _; rfl)
    (hview : ∀ row, view (f row) = view row := by intro _; rfl) :
    ((table.modifyWhere p f hf).find? k).map view = (table.find? k).map view := by
  rw [find?_modifyWhere table p f k hf, Option.map_map]
  congr 1
  funext row
  simp only [Function.comp_apply]
  split
  · exact hview row
  · rfl

/-! ### Deletion -/

/-- Delete the row with key `k`. -/
def erase (table : Table key) (k : κ) : Table key :=
  ⟨table.rows.filter fun row => key row ≠ k,
    (List.Sublist.map key List.filter_sublist).nodup table.nodup⟩

theorem mem_erase {table : Table key} {k : κ} {row : ρ} :
    row ∈ table.erase k ↔ row ∈ table ∧ key row ≠ k := by
  simp only [mem_def, erase, List.mem_filter, decide_eq_true_eq]

theorem find?_erase (table : Table key) (k k' : κ) :
    (table.erase k).find? k' = if k' = k then none else table.find? k' := by
  split
  · next heq =>
      exact find?_eq_none.mpr fun row hrow hkey =>
        (mem_erase.mp hrow).2 (hkey.trans heq)
  · next hne =>
      cases hfind : table.find? k' with
      | none =>
          exact find?_eq_none.mpr fun row hrow =>
            find?_eq_none.mp hfind row (mem_erase.mp hrow).1
      | some row =>
          obtain ⟨hmem, hkey⟩ := find?_eq_some.mp hfind
          exact find?_eq_some.mpr ⟨mem_erase.mpr ⟨hmem, hkey ▸ hne⟩, hkey⟩

/-- Delete every row of which `p` holds. -/
def deleteWhere (table : Table key) (p : ρ → Bool) : Table key :=
  ⟨table.rows.filter fun row => !p row,
    (List.Sublist.map key List.filter_sublist).nodup table.nodup⟩

omit [DecidableEq κ] in
/-- Of the rows that a deletion cannot meet, none is lost. -/
theorem filter_deleteWhere {table : Table key} {p q : ρ → Bool}
    (h : ∀ row ∈ table, q row = true → p row = false) :
    (table.deleteWhere p).rows.filter q = table.rows.filter q := by
  simp only [deleteWhere, List.filter_filter]
  apply List.filter_congr
  intro row hrow
  cases hq : q row with
  | false => rfl
  | true => simp [h row hrow hq]

omit [DecidableEq κ] in
/-- Of the rows that a deletion covers, none is left. -/
theorem filter_deleteWhere_eq_nil {table : Table key} {p q : ρ → Bool}
    (h : ∀ row, q row = true → p row = true) : (table.deleteWhere p).rows.filter q = [] := by
  simp only [deleteWhere, List.filter_filter]
  apply List.filter_eq_nil_iff.mpr
  intro row _ hboth
  simp only [Bool.and_eq_true, Bool.not_eq_true'] at hboth
  simp [h row hboth.1] at hboth

/-! ### Inserting rows -/

/-- Insert the rows one by one; a taken key aborts. -/
def insertAll? (table : Table key) : List ρ → Option (Table key)
  | [] => some table
  | row :: rest => (table.insert? row).bind fun table => table.insertAll? rest

theorem insertAll?_rows {rows : List ρ} {table table' : Table key}
    (h : table.insertAll? rows = some table') : table'.rows = table.rows ++ rows := by
  induction rows generalizing table with
  | nil =>
      cases h
      simp
  | cons row rest ih =>
      obtain ⟨middle, hrow, hrest⟩ := Option.bind_eq_some_iff.mp h
      rw [ih hrest, (insert?_eq_some hrow).2]
      simp

/-! ### Overwriting a row -/

/-- Overwrite the row with the key of `row`; a table without such a row stays as it is. -/
def set (table : Table key) (row : ρ) : Table key :=
  ⟨table.rows.map fun other => if key other = key row then row else other, by
    have hkeys : (table.rows.map fun other => if key other = key row then row else other).map key =
        table.rows.map key := by
      rw [List.map_map]
      refine List.map_congr_left fun other _ => ?_
      simp only [Function.comp_apply]
      split
      · next heq => exact heq.symm
      · rfl
    rw [hkeys]
    exact table.nodup⟩

/-- The first row with a property that overwriting keeps stays the first one. -/
theorem find?_rows_set {table : Table key} {row : ρ} {p : ρ → Bool}
    (hp : ∀ old ∈ table, key old = key row → p row = p old) :
    (table.set row).rows.find? p =
      (table.rows.find? p).map fun old => if key old = key row then row else old := by
  have hrows : ∀ rows : List ρ, (∀ old ∈ rows, key old = key row → p row = p old) →
      (rows.map fun old => if key old = key row then row else old).find? p =
        (rows.find? p).map fun old => if key old = key row then row else old := by
    intro rows
    induction rows with
    | nil =>
        intro _
        rfl
    | cons old rest ih =>
        intro hkept
        have hsame : p (if key old = key row then row else old) = p old := by
          split
          · next heq => exact hkept old List.mem_cons_self heq
          · rfl
        rw [List.map_cons, List.find?_cons, List.find?_cons, hsame]
        cases p old with
        | true => rfl
        | false => exact ih fun other hother => hkept other (List.mem_cons_of_mem _ hother)
  exact hrows table.rows hp

/-- Every row of the result is the new row or an old one with another key. -/
theorem mem_set_cases {table : Table key} {row other : ρ} (h : other ∈ table.set row) :
    other = row ∨ (other ∈ table ∧ key other ≠ key row) := by
  obtain ⟨old, hold, rfl⟩ := List.mem_map.mp h
  split
  · exact Or.inl rfl
  · next hne => exact Or.inr ⟨hold, hne⟩

theorem mem_set_of_ne {table : Table key} {row other : ρ} (h : other ∈ table)
    (hne : key other ≠ key row) : other ∈ table.set row :=
  List.mem_map.mpr ⟨other, h, if_neg hne⟩

theorem mem_set_self {table : Table key} {row old : ρ} (h : old ∈ table)
    (hkey : key old = key row) : row ∈ table.set row :=
  List.mem_map.mpr ⟨old, h, if_pos hkey⟩

@[simp] theorem find?_set (table : Table key) (row : ρ) (k : κ) :
    (table.set row).find? k =
      if k = key row then (table.find? k).map (fun _ => row) else table.find? k := by
  cases hfind : table.find? k with
  | none =>
      have hnone : (table.set row).find? k = none := by
        refine find?_eq_none.mpr fun other hother heq => ?_
        obtain ⟨old, hold, rfl⟩ := List.mem_map.mp hother
        refine find?_eq_none.mp hfind old hold ?_
        rw [← heq]
        split
        · next hsame => exact hsame
        · rfl
      rw [hnone]
      split <;> rfl
  | some old =>
      obtain ⟨hold, hkey⟩ := find?_eq_some.mp hfind
      split
      · next heq =>
          exact find?_eq_some.mpr ⟨mem_set_self hold (hkey.trans heq), heq.symm⟩
      · next hne =>
          exact find?_eq_some.mpr ⟨mem_set_of_ne hold (fun h => hne (hkey.symm.trans h)), hkey⟩

/-! ### Lookup by the rows a table has -/

/-- A table with the same rows but the one of a key. -/
theorem find?_of_replaced {table table' : Table key} {row : ρ}
    (h : ∀ other, other ∈ table' ↔ other = row ∨ (other ∈ table ∧ key other ≠ key row)) (k : κ) :
    table'.find? k = if k = key row then some row else table.find? k := by
  split
  · next heq =>
      rw [heq]
      exact find?_of_mem ((h row).mpr (Or.inl rfl))
  · next hne =>
      apply Option.ext
      intro other
      rw [find?_eq_some, find?_eq_some, h]
      constructor
      · rintro ⟨rfl | ⟨hmem, _⟩, rfl⟩
        · exact absurd rfl hne
        · exact ⟨hmem, rfl⟩
      · rintro ⟨hmem, rfl⟩
        exact ⟨Or.inr ⟨hmem, hne⟩, rfl⟩

/-- A table with the same rows without the one of a key. -/
theorem find?_of_erased {table table' : Table key} {gone : κ}
    (h : ∀ other, other ∈ table' ↔ other ∈ table ∧ key other ≠ gone) (k : κ) :
    table'.find? k = if k = gone then none else table.find? k := by
  split
  · next heq =>
      rw [heq]
      exact find?_eq_none.mpr fun other hmem => ((h other).mp hmem).2
  · next hne =>
      apply Option.ext
      intro other
      rw [find?_eq_some, find?_eq_some, h]
      constructor
      · rintro ⟨⟨hmem, _⟩, rfl⟩
        exact ⟨hmem, rfl⟩
      · rintro ⟨hmem, rfl⟩
        exact ⟨⟨hmem, hne⟩, rfl⟩

/-! ### Tables that keep their rows -/

/-- Every row is still found under its key, changed as `rel` allows. -/
def Kept (rel : ρ → ρ → Prop) (table table' : Table key) : Prop :=
  ∀ k row, table.find? k = some row → ∃ row', table'.find? k = some row' ∧ rel row row'

theorem Kept.same {rel : ρ → ρ → Prop} [IsPreorder ρ rel] (table : Table key) :
    Kept rel table table := by
  intro k row h
  exact ⟨row, h, refl_of rel row⟩

theorem Kept.trans {rel : ρ → ρ → Prop} [IsPreorder ρ rel] {table middle table' : Table key}
    (hfirst : Kept rel table middle) (hlast : Kept rel middle table') : Kept rel table table' := by
  intro k row h
  obtain ⟨row₁, h₁, hrel₁⟩ := hfirst k row h
  obtain ⟨row₂, h₂, hrel₂⟩ := hlast k row₁ h₁
  exact ⟨row₂, h₂, trans_of rel hrel₁ hrel₂⟩

theorem kept_insert? {rel : ρ → ρ → Prop} [IsPreorder ρ rel] {table table' : Table key} {row : ρ}
    (h : table.insert? row = some table') : Kept rel table table' := by
  intro k old hold
  have hne : k ≠ key row := by
    rintro rfl
    rw [(insert?_eq_some h).1] at hold
    cases hold
  refine ⟨old, ?_, refl_of rel old⟩
  rw [find?_insert? h, if_neg hne]
  exact hold

theorem kept_set {rel : ρ → ρ → Prop} [IsPreorder ρ rel] {table : Table key} {old new : ρ}
    (hold : table.find? (key new) = some old) (hrel : rel old new) :
    Kept rel table (table.set new) := by
  intro k row h
  rw [find?_set]
  split
  · next hkey =>
      rw [hkey, hold] at h
      cases h
      rw [hkey, hold]
      exact ⟨new, rfl, hrel⟩
  · exact ⟨row, h, refl_of rel row⟩

/-! ### The row with the largest measure -/

/-- The largest measure of a row of which `p` holds, and zero without one. -/
def maxOf (table : Table key) (p : ρ → Bool) (measure : ρ → Nat) : Nat :=
  ((table.rows.filter p).map measure).foldr max 0

omit [DecidableEq κ] in
theorem le_maxOf {table : Table key} {p : ρ → Bool} {measure : ρ → Nat} {row : ρ}
    (hmem : row ∈ table) (hp : p row = true) : measure row ≤ table.maxOf p measure := by
  have hin : measure row ∈ (table.rows.filter p).map measure :=
    List.mem_map.mpr ⟨row, List.mem_filter.mpr ⟨hmem, hp⟩, rfl⟩
  unfold maxOf
  generalize (table.rows.filter p).map measure = values at hin
  induction values with
  | nil => cases hin
  | cons head tail ih =>
      rw [List.foldr_cons]
      rcases List.mem_cons.mp hin with rfl | htail
      · exact le_max_left _ _
      · exact (ih htail).trans (le_max_right _ _)

omit [DecidableEq κ] in
theorem maxOf_le {table : Table key} {p : ρ → Bool} {measure : ρ → Nat} {bound : Nat}
    (h : ∀ row ∈ table, p row = true → measure row ≤ bound) : table.maxOf p measure ≤ bound := by
  have hall : ∀ value ∈ (table.rows.filter p).map measure, value ≤ bound := by
    intro value hvalue
    obtain ⟨row, hrow, rfl⟩ := List.mem_map.mp hvalue
    obtain ⟨hmem, hp⟩ := List.mem_filter.mp hrow
    exact h row hmem hp
  unfold maxOf
  generalize (table.rows.filter p).map measure = values at hall
  induction values with
  | nil => exact Nat.zero_le _
  | cons head tail ih =>
      rw [List.foldr_cons]
      apply max_le
      · exact hall head List.mem_cons_self
      · exact ih fun value hvalue => hall value (List.mem_cons_of_mem _ hvalue)

/-- `… ORDER BY measure DESC LIMIT 1`, where `p` selects the rows. -/
def latest? (table : Table key) (p : ρ → Bool) (measure : ρ → Nat) : Option ρ :=
  table.rows.find? fun row => p row && decide (measure row = table.maxOf p measure)

omit [DecidableEq κ] in
theorem latest?_eq_some {table : Table key} {p : ρ → Bool} {measure : ρ → Nat} {row : ρ}
    (h : table.latest? p measure = some row) :
    row ∈ table ∧ p row = true ∧
      ∀ other ∈ table, p other = true → measure other ≤ measure row := by
  have hmem := List.mem_of_find?_eq_some h
  have hsome := List.find?_some h
  rw [Bool.and_eq_true, decide_eq_true_eq] at hsome
  refine ⟨hmem, hsome.1, ?_⟩
  intro other hother hp
  rw [hsome.2]
  exact le_maxOf hother hp

/-! ### What a change adds -/

/-- Every row of the later table is a row of the earlier one or has the property. -/
def AddsOnly (p : ρ → Prop) (table table' : Table key) : Prop :=
  ∀ row ∈ table', row ∈ table ∨ p row

namespace AddsOnly

variable {p q : ρ → Prop} {table middle table' : Table key} {row : ρ}

omit [DecidableEq κ] in
theorem same (table : Table key) : AddsOnly p table table := fun _ hrow => Or.inl hrow

omit [DecidableEq κ] in
theorem of_eq (h : table' = table) : AddsOnly p table table' := by
  rw [h]
  exact same table

omit [DecidableEq κ] in
theorem trans (h : AddsOnly p table middle) (h' : AddsOnly p middle table') :
    AddsOnly p table table' := by
  intro row hrow
  rcases h' row hrow with hmiddle | hp
  · exact h row hmiddle
  · exact Or.inr hp

omit [DecidableEq κ] in
theorem imp (h : AddsOnly p table table') (hpq : ∀ row, p row → q row) :
    AddsOnly q table table' :=
  fun row hrow => (h row hrow).imp_right (hpq row)

theorem insert? (h : table.insert? row = some table') (hp : p row) :
    AddsOnly p table table' := by
  intro other hother
  rcases (mem_insert? h).mp hother with hold | rfl
  · exact Or.inl hold
  · exact Or.inr hp

theorem set (hp : p row) : AddsOnly p table (table.set row) := by
  intro other hother
  rcases mem_set_cases hother with rfl | ⟨hold, _⟩
  · exact Or.inr hp
  · exact Or.inl hold

end AddsOnly

/-! ### Sums over the rows -/

theorem sumBy_insert? {table table' : Table key} {row : ρ}
    (h : table.insert? row = some table') (weight : ρ → Nat) :
    table'.sumBy weight = table.sumBy weight + weight row := by
  simp [sumBy, (insert?_eq_some h).2]

private theorem sum_map_ite_of_notMem (rows : List ρ) (k : κ) (f : ρ → ρ) (weight : ρ → Nat)
    (h : ∀ row ∈ rows, key row ≠ k) :
    ((rows.map fun row => if key row = k then f row else row).map weight).sum =
      (rows.map weight).sum := by
  rw [List.map_map]
  congr 1
  refine List.map_congr_left fun row hrow => ?_
  simp [h row hrow]

private theorem sum_map_modify (rows : List ρ) (k : κ) (f : ρ → ρ) (weight : ρ → Nat) (row : ρ)
    (hnodup : (rows.map key).Nodup) (hmem : row ∈ rows) (hkey : key row = k) :
    ((rows.map fun row => if key row = k then f row else row).map weight).sum + weight row =
      (rows.map weight).sum + weight (f row) := by
  induction rows with
  | nil => cases hmem
  | cons head tail ih =>
      rw [List.map_cons, List.nodup_cons] at hnodup
      rcases List.mem_cons.mp hmem with rfl | htail
      · have hrest : ∀ other ∈ tail, key other ≠ k := by
          intro other hother heq
          exact hnodup.1 (List.mem_map.mpr ⟨other, hother, heq.trans hkey.symm⟩)
        simp only [List.map_cons, if_pos hkey, List.sum_cons]
        rw [sum_map_ite_of_notMem tail k f weight hrest]
        omega
      · have hhead : key head ≠ k := by
          intro heq
          exact hnodup.1 (List.mem_map.mpr ⟨row, htail, hkey.trans heq.symm⟩)
        have hrest := ih hnodup.2 htail
        simp only [List.map_cons, if_neg hhead, List.sum_cons] at hrest ⊢
        omega

/-- Modifying one row moves the sum by the change of that row's weight. -/
theorem sumBy_modify {table : Table key} {k : κ} {f : ρ → ρ}
    {hf : ∀ row, key (f row) = key row} {row : ρ} (h : table.find? k = some row)
    (weight : ρ → Nat) :
    (table.modify k f hf).sumBy weight + weight row = table.sumBy weight + weight (f row) :=
  sum_map_modify table.rows k f weight row table.nodup (mem_of_find? h) (key_of_find? h)

theorem sumBy_set {table : Table key} {old row : ρ} (h : table.find? (key row) = some old)
    (weight : ρ → Nat) :
    (table.set row).sumBy weight + weight old = table.sumBy weight + weight row :=
  sum_map_modify table.rows (key row) (fun _ => row) weight old table.nodup (mem_of_find? h)
    (key_of_find? h)

/-! ### Counting rows -/

omit [DecidableEq κ] in
theorem countP_rows (table : Table key) (p : ρ → Bool) :
    table.rows.countP p = table.sumBy fun row => if p row then 1 else 0 := by
  unfold sumBy
  induction table.rows with
  | nil => rfl
  | cons row rest ih => rw [List.countP_cons, List.map_cons, List.sum_cons, ih, Nat.add_comm]

theorem countP_insert? {table table' : Table key} {row : ρ}
    (h : table.insert? row = some table') (p : ρ → Bool) :
    table'.rows.countP p = table.rows.countP p + if p row then 1 else 0 := by
  rw [countP_rows, countP_rows, sumBy_insert? h]

theorem countP_set {table : Table key} {old row : ρ} (h : table.find? (key row) = some old)
    (p : ρ → Bool) :
    (table.set row).rows.countP p + (if p old then 1 else 0) =
      table.rows.countP p + if p row then 1 else 0 := by
  rw [countP_rows, countP_rows]
  exact sumBy_set h fun row => if p row then 1 else 0

omit [DecidableEq κ] in
/-- Two tests that differ on one row only count alike but for that row. -/
theorem countP_test {table : Table key} {row : ρ} (hmem : row ∈ table) {p q : ρ → Bool}
    (h : ∀ other ∈ table, key other ≠ key row → q other = p other) :
    table.rows.countP q + (if p row then 1 else 0) =
      table.rows.countP p + if q row then 1 else 0 := by
  obtain ⟨front, back, hrows⟩ := List.append_of_mem hmem
  have hnodup := table.nodup
  have hothers : ∀ other ∈ front ++ back, q other = p other := by
    intro other hother
    have hrow : other ∈ table.rows := by
      rw [hrows]
      simp only [List.mem_append, List.mem_cons] at hother ⊢
      tauto
    apply h other hrow
    rw [hrows, List.map_append, List.map_cons, List.nodup_middle, List.nodup_cons,
      ← List.map_append] at hnodup
    intro hkey
    exact hnodup.1 (List.mem_map.mpr ⟨other, hother, hkey⟩)
  have hfront : front.countP q = front.countP p := by
    refine List.countP_congr fun other hother => ?_
    rw [hothers other (List.mem_append_left _ hother)]
  have hback : back.countP q = back.countP p := by
    refine List.countP_congr fun other hother => ?_
    rw [hothers other (List.mem_append_right _ hother)]
  rw [hrows, List.countP_append, List.countP_append, List.countP_cons, List.countP_cons, hfront,
    hback]
  omega

/-- A key stands once in a table that has it, and else not at all. -/
theorem count_key (table : Table key) (k : κ) :
    (table.rows.map key).count k = if (table.find? k).isSome = true then 1 else 0 := by
  rw [List.Nodup.count table.nodup]
  congr 1
  rw [eq_iff_iff]
  constructor
  · intro hmem
    obtain ⟨row, hrow, rfl⟩ := List.mem_map.mp hmem
    rw [find?_of_mem hrow]
    rfl
  · intro hsome
    obtain ⟨row, hfound⟩ := Option.isSome_iff_exists.mp hsome
    exact List.mem_map.mpr ⟨row, mem_of_find? hfound, key_of_find? hfound⟩

omit [DecidableEq κ] in
/-- The latest row is there when a row is. -/
theorem latest?_of_mem {table : Table key} {p : ρ → Bool} {measure : ρ → Nat} {row : ρ}
    (hmem : row ∈ table) (hp : p row = true)
    (hlast : ∀ other ∈ table, p other = true → measure other ≤ measure row) :
    ∃ last, table.latest? p measure = some last ∧ measure last = measure row := by
  have hmax : measure row = table.maxOf p measure :=
    le_antisymm (le_maxOf hmem hp) (maxOf_le hlast)
  have hsome : (table.latest? p measure).isSome = true := by
    unfold latest?
    rw [List.find?_isSome]
    exact ⟨row, hmem, by simp [hp, hmax]⟩
  obtain ⟨last, hlatest⟩ := Option.isSome_iff_exists.mp hsome
  obtain ⟨hin, hplast, hle⟩ := latest?_eq_some hlatest
  exact ⟨last, hlatest, le_antisymm (hlast last hin hplast) (hle row hmem hp)⟩

end Table

end KeyedTable
