import Mathlib.Data.List.Nodup
import Mathlib.Logic.Function.Basic

/-!
# Tickets

Tickets are issued once each, held by at most one holder at a time, and redeemed at most
once.  A holder may lose a ticket; then it stays issued and is never redeemed.
-/

namespace Tickets

set_option autoImplicit false

variable {ι κ : Type*} [DecidableEq ι]

/-- The tickets that were issued and redeemed, and who holds one. -/
@[ext]
structure Book (ι κ : Type*) where
  issued : List κ
  redeemed : List κ
  held : ι → Option κ

structure Book.Sound (book : Book ι κ) : Prop where
  issued : book.issued.Nodup
  redeemed : book.redeemed.Nodup
  redeemed_issued : ∀ ticket ∈ book.redeemed, ticket ∈ book.issued
  held_issued : ∀ i ticket, book.held i = some ticket → ticket ∈ book.issued
  held_fresh : ∀ i ticket, book.held i = some ticket → ticket ∉ book.redeemed
  held_once : ∀ i j ticket, book.held i = some ticket → book.held j = some ticket → i = j

namespace Book.Sound

variable {book : Book ι κ} {ticket : κ} {i : ι}

/-- What is held after an update was held before, or is the new ticket of this holder. -/
theorem held_update {held : ι → Option κ} {given : Option κ} {j : ι}
    (h : Function.update held i given j = some ticket) :
    (j = i ∧ given = some ticket) ∨ (j ≠ i ∧ held j = some ticket) := by
  by_cases hj : j = i
  · subst hj
    exact Or.inl ⟨rfl, by simpa using h⟩
  · exact Or.inr ⟨hj, by simpa [hj] using h⟩

/-- Nobody redeems a ticket that was lost. -/
theorem drop (h : book.Sound) (i : ι) :
    ({ book with held := Function.update book.held i none } : Book ι κ).Sound := by
  have hold : ∀ j ticket, Function.update book.held i none j = some ticket →
      book.held j = some ticket := by
    intro j ticket hheld
    rcases held_update hheld with ⟨_, hnone⟩ | ⟨_, hheld⟩
    · cases hnone
    · exact hheld
  exact ⟨h.issued, h.redeemed, h.redeemed_issued,
    fun j ticket hj => h.held_issued j ticket (hold j ticket hj),
    fun j ticket hj => h.held_fresh j ticket (hold j ticket hj),
    fun j k ticket hj hk => h.held_once j k ticket (hold j ticket hj) (hold k ticket hk)⟩

omit [DecidableEq ι] in
/-- A new ticket. -/
theorem issue (h : book.Sound) (hfresh : ticket ∉ book.issued) :
    ({ book with issued := book.issued ++ [ticket] } : Book ι κ).Sound where
  issued := by
    rw [List.nodup_append_comm]
    exact List.nodup_cons.mpr ⟨hfresh, h.issued⟩
  redeemed := h.redeemed
  redeemed_issued other hother := List.mem_append_left _ (h.redeemed_issued other hother)
  held_issued j other hheld := List.mem_append_left _ (h.held_issued j other hheld)
  held_fresh := h.held_fresh
  held_once := h.held_once

/-- A new ticket for this holder. -/
theorem take (h : book.Sound) (hfresh : ticket ∉ book.issued) (i : ι) :
    ({ book with
      issued := book.issued ++ [ticket]
      held := Function.update book.held i (some ticket) } : Book ι κ).Sound where
  issued := (h.issue hfresh).issued
  redeemed := h.redeemed
  redeemed_issued := (h.issue hfresh).redeemed_issued
  held_issued j other hheld := by
    rcases held_update hheld with ⟨_, hnew⟩ | ⟨_, hheld⟩
    · cases hnew
      exact List.mem_append_right _ (List.mem_singleton_self _)
    · exact (h.issue hfresh).held_issued j other hheld
  held_fresh j other hheld := by
    rcases held_update hheld with ⟨_, hnew⟩ | ⟨_, hheld⟩
    · cases hnew
      exact fun hredeemed => hfresh (h.redeemed_issued _ hredeemed)
    · exact h.held_fresh j other hheld
  held_once j k other hj hk := by
    rcases held_update hj with ⟨hji, hnew⟩ | ⟨_, hold⟩
    · cases hnew
      rcases held_update hk with ⟨hki, _⟩ | ⟨_, hold⟩
      · exact hji.trans hki.symm
      · exact absurd (h.held_issued k _ hold) hfresh
    · rcases held_update hk with ⟨_, hnew⟩ | ⟨_, hold'⟩
      · cases hnew
        exact absurd (h.held_issued j _ hold) hfresh
      · exact h.held_once j k other hold hold'

/-- The holder redeems the ticket. -/
theorem redeem (h : book.Sound) (hheld : book.held i = some ticket) :
    ({ book with
      redeemed := book.redeemed ++ [ticket]
      held := Function.update book.held i none } : Book ι κ).Sound where
  issued := h.issued
  redeemed := by
    rw [List.nodup_append_comm]
    exact List.nodup_cons.mpr ⟨h.held_fresh i ticket hheld, h.redeemed⟩
  redeemed_issued other hother := by
    rcases List.mem_append.mp hother with hold | hnew
    · exact h.redeemed_issued other hold
    · cases List.mem_singleton.mp hnew
      exact h.held_issued i ticket hheld
  held_issued := (h.drop i).held_issued
  held_fresh j other hj hredeemed := by
    rcases held_update hj with ⟨_, hnone⟩ | ⟨hne, hj⟩
    · cases hnone
    · rcases List.mem_append.mp hredeemed with hold | hnew
      · exact h.held_fresh j other hj hold
      · cases List.mem_singleton.mp hnew
        exact hne (h.held_once j i ticket hj hheld)
  held_once := (h.drop i).held_once

end Book.Sound

end Tickets
