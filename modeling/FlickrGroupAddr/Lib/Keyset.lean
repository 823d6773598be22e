import Mathlib.Data.List.Sort

/-!
# Keyset paging

A reader pages through rows in the order of a key: each page holds the rows after a
cursor, up to a limit, and the key of the last row of a full page is the next
cursor.  When all pages are taken from the same rows, the pages together are those
rows, each once and in order, whatever the limits.
-/

namespace Keyset

set_option autoImplicit false

universe u v

variable {ρ : Type u} {κ : Type v} [LinearOrder κ]

section Rows

variable (key : ρ → κ)

/-- The rows in the order of their keys. -/
def ordered (rows : List ρ) : List ρ := rows.insertionSort fun left right => key left ≤ key right

/-- The rows after a cursor, in order. -/
def after (rows : List ρ) (cursor : κ) : List ρ :=
  ordered key (rows.filter fun row => cursor < key row)

/-- One page: at most `limit` rows after the cursor. -/
def page (rows : List ρ) (cursor : κ) (limit : Nat) : List ρ := (after key rows cursor).take limit

variable {key} {rows : List ρ} {cursor : κ}

theorem perm_ordered (rows : List ρ) : (ordered key rows).Perm rows :=
  List.perm_insertionSort _ rows

@[simp] theorem mem_ordered {row : ρ} : row ∈ ordered key rows ↔ row ∈ rows :=
  (perm_ordered rows).mem_iff

@[simp] theorem mem_after {row : ρ} :
    row ∈ after key rows cursor ↔ row ∈ rows ∧ cursor < key row := by
  simp [after]

theorem mem_of_mem_page {limit : Nat} {row : ρ} (h : row ∈ page key rows cursor limit) :
    row ∈ rows ∧ cursor < key row := mem_after.mp (List.mem_of_mem_take h)

theorem length_page_le (limit : Nat) : (page key rows cursor limit).length ≤ limit := by
  simp [page]

theorem pairwise_ordered (rows : List ρ) :
    (ordered key rows).Pairwise fun left right => key left ≤ key right := by
  have : Std.Total fun left right : ρ => key left ≤ key right :=
    ⟨fun left right => le_total (key left) (key right)⟩
  have : IsTrans ρ fun left right => key left ≤ key right :=
    ⟨fun _ _ _ => le_trans⟩
  exact List.pairwise_insertionSort _ rows

/-- Rows with distinct keys are strictly ordered. -/
theorem strict_ordered (h : (rows.map key).Nodup) :
    (ordered key rows).Pairwise fun left right => key left < key right := by
  have hnodup : ((ordered key rows).map key).Nodup :=
    ((perm_ordered rows).map key).nodup_iff.mpr h
  have hne : (ordered key rows).Pairwise fun left right => key left ≠ key right :=
    List.pairwise_map.mp hnodup
  refine ((pairwise_ordered rows).and hne).imp ?_
  intro left right hboth
  exact lt_of_le_of_ne hboth.1 hboth.2

theorem strict_after (h : (rows.map key).Nodup) (cursor : κ) :
    (after key rows cursor).Pairwise fun left right => key left < key right :=
  strict_ordered ((List.filter_sublist.map key).nodup h)

/-- When every key is after the cursor, the rows after it are all of them. -/
theorem after_eq_ordered (h : ∀ row ∈ rows, cursor < key row) :
    after key rows cursor = ordered key rows := by
  unfold after
  rw [List.filter_eq_self.mpr]
  intro row hrow
  exact decide_eq_true (h row hrow)

/-- Two strictly ordered lists with the same rows are the same list. -/
theorem eq_of_strict {left right : List ρ}
    (hleft : left.Pairwise fun l r => key l < key r)
    (hright : right.Pairwise fun l r => key l < key r) (hperm : left.Perm right) :
    left = right := by
  refine List.Perm.eq_of_pairwise ?_ hleft hright hperm
  intro l r _ _ hlt hgt
  exact absurd hgt (lt_asymm hlt)

/-- The rows after the last row of a page are the rows the page left out. -/
theorem after_last (h : (rows.map key).Nodup) {limit : Nat} {last : ρ}
    (hlast : (page key rows cursor limit).getLast? = some last) :
    after key rows (key last) = (after key rows cursor).drop limit := by
  have hstrict := strict_after h cursor
  obtain ⟨front, hfront⟩ := List.getLast?_eq_some_iff.mp hlast
  have hsplit : after key rows cursor = front ++ ([last] ++ (after key rows cursor).drop limit) := by
    rw [← List.append_assoc, ← hfront]
    exact (List.take_append_drop limit _).symm
  generalize (after key rows cursor).drop limit = dropped at hsplit ⊢
  have hcursor : cursor < key last := by
    have hmem : last ∈ page key rows cursor limit := List.mem_of_getLast? hlast
    exact (mem_of_mem_page hmem).2
  rw [hsplit, List.pairwise_append, List.pairwise_append] at hstrict
  obtain ⟨_, ⟨_, hdrop, hafter⟩, hbefore⟩ := hstrict
  refine eq_of_strict (strict_after h _) hdrop ?_
  -- both are the rows above the last key
  have hperm : (after key rows (key last)).Perm
      ((after key rows cursor).filter fun row => key last < key row) := by
    refine (perm_ordered _).trans ?_
    refine List.Perm.trans ?_ ((perm_ordered _).symm.filter _)
    rw [List.filter_filter]
    refine List.Perm.of_eq (List.filter_congr ?_)
    intro row _
    by_cases hrow : key last < key row
    · simp [hrow, hcursor.trans hrow]
    · simp [hrow]
  refine hperm.trans (List.Perm.of_eq ?_)
  rw [hsplit, List.filter_append, List.filter_append]
  have hnone : front.filter (fun row => decide (key last < key row)) = [] := by
    rw [List.filter_eq_nil_iff]
    intro row hrow
    have hlt := hbefore row hrow last (by simp)
    simpa using hlt.le
  have hself : [last].filter (fun row => decide (key last < key row)) = [] := by simp
  have hall : dropped.filter (fun row => decide (key last < key row)) = dropped := by
    rw [List.filter_eq_self]
    intro row hrow
    exact decide_eq_true (hafter last (List.mem_singleton_self _) row hrow)
  rw [hnone, hself, hall]
  rfl

/-! ### A row ahead

A reader may ask for one row more than it hands out, to see whether there are more. -/

/-- Nothing ahead: what is handed out is the rest. -/
theorem take_page_of_le {limit : Nat}
    (h : (page key rows cursor (limit + 1)).length ≤ limit) :
    (page key rows cursor (limit + 1)).take limit = after key rows cursor := by
  have hlength : (after key rows cursor).length ≤ limit := by
    rw [page, List.length_take] at h
    omega
  rw [page, List.take_take, List.take_of_length_le (by omega)]

/-- A row ahead: the rest is after the last row that is handed out. -/
theorem take_page_append (h : (rows.map key).Nodup) {limit : Nat} {last : ρ}
    (hlast : ((page key rows cursor (limit + 1)).take limit).getLast? = some last) :
    (page key rows cursor (limit + 1)).take limit ++ after key rows (key last) =
      after key rows cursor := by
  have htake : (page key rows cursor (limit + 1)).take limit = page key rows cursor limit := by
    rw [page, page, List.take_take, Nat.min_eq_left (Nat.le_succ limit)]
  rw [htake] at hlast ⊢
  rw [after_last h hlast]
  exact List.take_append_drop limit _

/-- A page without a next cursor is the rest. -/
theorem take_page_end {α : Type*} {view : ρ → α} {limit : Nat} (hlimit : 0 < limit)
    (h : (if limit < (page key rows cursor (limit + 1)).length then
      ((page key rows cursor (limit + 1)).take limit).getLast?.map view else none) = none) :
    (page key rows cursor (limit + 1)).take limit = after key rows cursor := by
  split at h
  · next hlong =>
      -- a page with a row ahead has rows
      rw [Option.map_eq_none_iff, List.getLast?_eq_none_iff, List.take_eq_nil_iff] at h
      rcases h with hzero | hnil
      · omega
      · rw [hnil] at hlong
        exact absurd hlong (Nat.not_lt_zero _)
  · next hshort => exact take_page_of_le (not_lt.mp hshort)

/-- A page with a next cursor, and the rows after it, are the rest. -/
theorem take_page_next {α : Type*} {view : ρ → α} (hkeys : (rows.map key).Nodup) {limit : Nat}
    {next : α} (h : (if limit < (page key rows cursor (limit + 1)).length then
      ((page key rows cursor (limit + 1)).take limit).getLast?.map view else none) = some next) :
    ∃ last, view last = next ∧
      (page key rows cursor (limit + 1)).take limit ++ after key rows (key last) =
        after key rows cursor := by
  split at h
  · obtain ⟨last, hlast, hview⟩ := Option.map_eq_some_iff.mp h
    exact ⟨last, hview, take_page_append hkeys hlast⟩
  · cases h

/-- A page with nothing ahead holds every row after the cursor. -/
theorem mem_take_page_of_le {limit : Nat}
    (h : (page key rows cursor (limit + 1)).length ≤ limit) {row : ρ} :
    row ∈ (page key rows cursor (limit + 1)).take limit ↔ row ∈ rows ∧ cursor < key row := by
  rw [take_page_of_le h, mem_after]

/-- Where a row is ahead, a row after the cursor is on the page or after its last row. -/
theorem mem_take_page_or {limit : Nat} (h : (rows.map key).Nodup) {last row : ρ}
    (hlast : ((page key rows cursor (limit + 1)).take limit).getLast? = some last)
    (hrow : row ∈ rows) (hafter : cursor < key row) :
    row ∈ (page key rows cursor (limit + 1)).take limit ∨ key last < key row := by
  have hmem : row ∈ after key rows cursor := mem_after.mpr ⟨hrow, hafter⟩
  rw [← take_page_append h hlast, List.mem_append] at hmem
  rcases hmem with hpage | hrest
  · exact Or.inl hpage
  · exact Or.inr (mem_after.mp hrest).2

/-- A page is in order, after its cursor. -/
theorem strict_take_page (h : (rows.map key).Nodup) (cursor : κ) (limit : Nat) :
    ((page key rows cursor (limit + 1)).take limit).Pairwise fun left right =>
      key left < key right :=
  (strict_after h cursor).sublist ((List.take_sublist _ _).trans (List.take_sublist _ _))

theorem mem_of_mem_take_page {limit : Nat} {row : ρ}
    (h : row ∈ (page key rows cursor (limit + 1)).take limit) : row ∈ rows ∧ cursor < key row :=
  mem_of_mem_page (List.mem_of_mem_take h)

end Rows

/-! ## Walks -/

/-- The pages of a reader that follows the cursors to the end; `read cursor limit rows`
is a page it may get. -/
inductive Walk (key : ρ → κ) (read : κ → Nat → List ρ → Prop) : κ → List (List ρ) → Prop
  | last {cursor : κ} {limit : Nat} {rows : List ρ} :
      read cursor limit rows → rows.length < limit → Walk key read cursor [rows]
  | more {cursor : κ} {limit : Nat} {rows : List ρ} {last : ρ} {rest : List (List ρ)} :
      read cursor limit rows → rows.length = limit → rows.getLast? = some last →
      Walk key read (key last) rest → Walk key read cursor (rows :: rest)

variable {key : ρ → κ} {read : κ → Nat → List ρ → Prop} {rows : List ρ}

/-- Pages that are all taken from the same rows make up those rows. -/
theorem Walk.flatten (hkeys : (rows.map key).Nodup)
    (hread : ∀ cursor limit result, read cursor limit result →
      result = page key rows cursor limit)
    {cursor : κ} {pages : List (List ρ)} (h : Walk key read cursor pages) :
    pages.flatten = after key rows cursor := by
  induction h with
  | @last cursor limit result hpage hshort =>
      have hresult := hread cursor limit result hpage
      have hlength : (after key rows cursor).length ≤ limit := by
        rw [hresult, page, List.length_take] at hshort
        omega
      simp only [List.flatten_cons, List.flatten_nil, List.append_nil]
      rw [hresult, page, List.take_of_length_le hlength]
  | @more cursor limit result last rest hpage _ hlast _ ih =>
      have hresult := hread cursor limit result hpage
      rw [hresult] at hlast
      rw [List.flatten_cons, ih, after_last hkeys hlast, hresult]
      exact List.take_append_drop limit _

end Keyset
