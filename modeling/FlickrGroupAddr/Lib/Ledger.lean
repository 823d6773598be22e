import Mathlib.Data.List.Basic

/-!
# Revision ledgers

A ledger is a list of entries, each about a subject at a revision.  It is complete
for a subject up to a revision when it has exactly one entry for each revision from
one to that one and no other entry about the subject; it records a view when the last
of these entries shows that view.  Appending an entry about another subject keeps
both, and appending the entry of the next revision moves both on.
-/

namespace Ledger

set_option autoImplicit false

universe u v w

variable {ε : Type u} {σ : Type v} {ν : Type w}

/-- Of the subject `s` there is exactly one entry for each revision from one to `n`,
and no other. -/
structure Complete (subject : ε → σ) (revision : ε → ℕ) (entries : List ε) (s : σ) (n : ℕ) :
    Prop where
  bounded : ∀ e ∈ entries, subject e = s → 1 ≤ revision e ∧ revision e ≤ n
  unique : ∀ r, 1 ≤ r → r ≤ n → ∃! e, e ∈ entries ∧ subject e = s ∧ revision e = r

/-- The ledger is complete for `s` up to `n`, and its last entry shows `view`. -/
structure Recorded (subject : ε → σ) (revision : ε → ℕ) (shows : ε → ν) (entries : List ε)
    (s : σ) (n : ℕ) (view : ν) : Prop where
  complete : Complete subject revision entries s n
  last : ∃ e ∈ entries, subject e = s ∧ revision e = n ∧ shows e = view

variable {subject : ε → σ} {revision : ε → ℕ} {shows : ε → ν} {entries : List ε} {s : σ} {n : ℕ}
  {view : ν}

/-- No entry about the subject: complete up to revision zero. -/
theorem Complete.empty (h : ∀ e ∈ entries, subject e ≠ s) :
    Complete subject revision entries s 0 := by
  constructor
  · intro e he hs
    exact absurd hs (h e he)
  · intro r hlow hhigh
    omega

theorem Complete.append (h : Complete subject revision entries s n) {e : ε}
    (hs : subject e = s) (hr : revision e = n + 1) :
    Complete subject revision (entries ++ [e]) s (n + 1) := by
  constructor
  · intro other hother hsame
    rcases List.mem_append.mp hother with hold | hnew
    · have := h.bounded other hold hsame
      omega
    · rw [List.mem_singleton] at hnew
      subst hnew
      omega
  · intro r hlow hhigh
    by_cases hlast : r = n + 1
    · refine ⟨e, ⟨List.mem_append_right _ (List.mem_singleton_self e), hs, hr.trans hlast.symm⟩, ?_⟩
      rintro other ⟨hother, hsame, hrev⟩
      rcases List.mem_append.mp hother with hold | hnew
      · have := h.bounded other hold hsame
        omega
      · exact List.mem_singleton.mp hnew
    · obtain ⟨first, ⟨hfirst, hsame, hrev⟩, huniq⟩ := h.unique r hlow (by omega)
      refine ⟨first, ⟨List.mem_append_left _ hfirst, hsame, hrev⟩, ?_⟩
      rintro other ⟨hother, hother_same, hother_rev⟩
      rcases List.mem_append.mp hother with hold | hnew
      · exact huniq other ⟨hold, hother_same, hother_rev⟩
      · rw [List.mem_singleton] at hnew
        subst hnew
        omega

/-- An entry about another subject changes nothing. -/
theorem Complete.other (h : Complete subject revision entries s n) {e : ε} (hs : subject e ≠ s) :
    Complete subject revision (entries ++ [e]) s n := by
  have hkept : ∀ other, other ∈ entries ++ [e] → subject other = s → other ∈ entries := by
    intro other hother hsame
    rcases List.mem_append.mp hother with hold | hnew
    · exact hold
    · rw [List.mem_singleton] at hnew
      subst hnew
      exact absurd hsame hs
  constructor
  · intro other hother hsame
    exact h.bounded other (hkept other hother hsame) hsame
  · intro r hlow hhigh
    obtain ⟨first, ⟨hfirst, hsame, hrev⟩, huniq⟩ := h.unique r hlow hhigh
    refine ⟨first, ⟨List.mem_append_left _ hfirst, hsame, hrev⟩, ?_⟩
    rintro other ⟨hother, hother_same, hother_rev⟩
    exact huniq other ⟨hkept other hother hother_same, hother_same, hother_rev⟩

/-- The first entry about a subject. -/
theorem Recorded.start (h : ∀ e ∈ entries, subject e ≠ s) {e : ε} (hs : subject e = s)
    (hr : revision e = n) (hn : n = 1) (hv : shows e = view) :
    Recorded subject revision shows (entries ++ [e]) s n view := by
  subst hn
  constructor
  · exact (Complete.empty h).append hs hr
  · exact ⟨e, List.mem_append_right _ (List.mem_singleton_self e), hs, hr, hv⟩

/-- The entry of the next revision. -/
theorem Recorded.append {before : ν} {next : ℕ}
    (h : Recorded subject revision shows entries s n before) {e : ε} (hs : subject e = s)
    (hr : revision e = next) (hn : next = n + 1) (hv : shows e = view) :
    Recorded subject revision shows (entries ++ [e]) s next view := by
  subst hn
  constructor
  · exact h.complete.append hs hr
  · exact ⟨e, List.mem_append_right _ (List.mem_singleton_self e), hs, hr, hv⟩

theorem Recorded.other (h : Recorded subject revision shows entries s n view) {e : ε}
    (hs : subject e ≠ s) : Recorded subject revision shows (entries ++ [e]) s n view := by
  constructor
  · exact h.complete.other hs
  · obtain ⟨last, hlast, hfacts⟩ := h.last
    exact ⟨last, List.mem_append_left _ hlast, hfacts⟩

end Ledger
