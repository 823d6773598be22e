import FlickrGroupAddr.PhotoMemberships
import FlickrGroupAddr.Lib.Calls

/-!
# Observations are whole

Every page of a photo is read from one replacement of its rows, which a complete read of a
call published under the authority the call had taken down.  The revision tells the
replacements apart, and an opened first page retires what was published before.
-/

namespace FlickrGroupAddr

set_option autoImplicit false

open KeyedTable Program Workers Transition

/-! ## The batches -/

/-- The grant and the photo are what a call has taken down. -/
structure CurrentBinding (s : MembershipStore) (auth : AdmissionAuth) (grant : GrantSnapshot)
    (binding : PhotoBinding) : Prop where
  linked : linkedGrant s.db auth = some grant
  verified : ∃ row, s.db.flickr.bindings.find? binding.bindingId = some row ∧
    row.userId = grant.userId ∧ row.photoId = binding.photoId ∧ row.ownerNsid = grant.ownerNsid ∧
    row.linkRevision = grant.revision ∧ row.verificationRevision = binding.verificationRevision

namespace MembershipStore

/-- The revision of the observation of a photo; a photo without a row was never observed. -/
def revisionOf (s : MembershipStore) (bindingId : Token) : Nat :=
  ((s.observations.find? bindingId).map MembershipObservation.revision).getD 0

/-- What is observed of a photo is not shown. -/
def Retired (s : MembershipStore) (bindingId : Token) : Prop :=
  ∀ observation, s.observations.find? bindingId = some observation → observation.valid = false

variable {s s' : MembershipStore} {auth : AdmissionAuth} {grant : GrantSnapshot}
  {binding : PhotoBinding} {groups : List Group} {now : Us} {bindingId : Token}

theorem authorityGuard_current (h : s.authorityGuard auth grant binding = true) :
    CurrentBinding s auth grant binding := by
  obtain ⟨⟨installation, version, link, native⟩, hrows, h⟩ := (Option.any_eq_true _ _).mp h
  simp only [decide_eq_true_eq, Bool.decide_and, Bool.and_eq_true] at h
  obtain ⟨⟨huser, hdigest, howner, hrevision, hgeneration⟩, hbinding⟩ := h
  obtain ⟨row, hrow, hfacts⟩ := (Option.any_eq_true _ _).mp hbinding
  simp only [decide_eq_true_eq, Bool.and_eq_true] at hfacts
  obtain ⟨hrowUser, hphoto, hrowOwner, hrowRevision, hverified⟩ := hfacts
  constructor
  · unfold linkedGrant
    rw [hrows]
    simp [hdigest, huser, howner, hrevision, hgeneration]
  · exact ⟨row, hrow, hrowUser.trans huser, hphoto, hrowOwner.trans howner,
      hrowRevision.trans hrevision, hverified⟩

/-- What a replacement does to the photo it is about. -/
structure Replaces (s s' : MembershipStore) (auth : AdmissionAuth) (grant : GrantSnapshot)
    (binding : PhotoBinding) (groups : List Group) (now : Us) : Prop where
  current : CurrentBinding s auth grant binding
  row : s'.observations.find? binding.bindingId = some (s.replacedRow grant binding.bindingId now)
  groups : s'.observed binding.bindingId = groups

theorem find?_upserted (grant : GrantSnapshot) (bindingId : Token) (now : Us) (other : Token) :
    (s.upserted grant bindingId now).find? other =
      if other = bindingId then some (s.replacedRow grant bindingId now)
      else s.observations.find? other := by
  have hkey : (s.replacedRow grant bindingId now).bindingId = bindingId := rfl
  unfold upserted
  rw [Table.find?_set, Table.find?_ensure, hkey]
  by_cases hother : other = bindingId
  · subst hother
    cases s.observations.find? other <;> simp
  · simp [hother]

theorem observed_insertAll {table rows : Table MembershipRow.key}
    (h : (table.deleteWhere fun row => row.bindingId = binding.bindingId).insertAll?
      (groups.map fun group => ⟨binding.bindingId, group⟩) = some rows) (other : Token) :
    (rows.rows.filter fun row => row.bindingId = other).map MembershipRow.group =
      if other = binding.bindingId then groups
      else (table.rows.filter fun row => row.bindingId = other).map MembershipRow.group := by
  rw [Table.insertAll?_rows h, List.filter_append, List.map_append]
  by_cases hother : other = binding.bindingId
  · subst hother
    rw [Table.filter_deleteWhere_eq_nil fun _ hrow => hrow]
    simp [List.filter_map, Function.comp_def]
  · have hkept : (table.deleteWhere fun row => row.bindingId = binding.bindingId).rows.filter
          (fun row => row.bindingId = other) =
        table.rows.filter fun row => row.bindingId = other := by
      apply Table.filter_deleteWhere
      intro row _ hrow
      have heq : row.bindingId = other := of_decide_eq_true hrow
      simp [heq, hother]
    rw [hkept]
    simp [List.filter_map, Function.comp_def, hother, Ne.symm hother]

/-- A replacement, seen from any photo. -/
theorem replaceObservation_eq_some
    (h : s.replaceObservation auth grant binding groups now = some s') :
    Replaces s s' auth grant binding groups now ∧
      ∀ other, other ≠ binding.bindingId →
        s'.observations.find? other = s.observations.find? other ∧
          s'.observed other = s.observed other := by
  unfold replaceObservation at h
  obtain ⟨⟨hguard, _⟩, h⟩ := Option.ite_none_right_eq_some.mp h
  obtain ⟨rows, hrows, h⟩ := Option.map_eq_some_iff.mp h
  cases h
  refine ⟨⟨authorityGuard_current hguard, ?_, ?_⟩, ?_⟩
  · simp [find?_upserted]
  · simp [observed, observed_insertAll hrows]
  · intro other hother
    simp [find?_upserted, observed, observed_insertAll hrows, hother]

/-- An opened view, seen from any photo. -/
theorem openView_eq_some (h : s.openView auth grant binding = some s') :
    CurrentBinding s auth grant binding ∧ s'.Retired binding.bindingId ∧
      ∀ other, s'.observed other = s.observed other ∧
        s'.revisionOf other = s.revisionOf other ∧ (s.Retired other → s'.Retired other) := by
  unfold openView at h
  obtain ⟨hguard, h⟩ := Option.ite_none_right_eq_some.mp h
  cases h
  have hfind : ∀ other, (s.observations.modify binding.bindingId
      fun observation => { observation with valid := false }).find? other =
        if other = binding.bindingId then (s.observations.find? other).map fun observation =>
          { observation with valid := false }
        else s.observations.find? other := Table.find?_modify_eq _ _ _
  refine ⟨authorityGuard_current hguard, ?_, ?_⟩
  · intro observation hobservation
    rw [hfind, if_pos rfl] at hobservation
    obtain ⟨prior, _, rfl⟩ := Option.map_eq_some_iff.mp hobservation
    rfl
  · intro other
    refine ⟨rfl, ?_, ?_⟩
    · unfold revisionOf
      rw [hfind]
      by_cases hother : other = binding.bindingId
      · rw [if_pos hother, Option.map_map]
        rfl
      · rw [if_neg hother]
    · intro hretired observation hobservation
      rw [hfind] at hobservation
      by_cases hother : other = binding.bindingId
      · rw [if_pos hother] at hobservation
        obtain ⟨prior, _, rfl⟩ := Option.map_eq_some_iff.mp hobservation
        rfl
      · rw [if_neg hother] at hobservation
        exact hretired observation hobservation

theorem Replaces.revisionOf (h : Replaces s s' auth grant binding groups now) :
    s'.revisionOf binding.bindingId = s.revisionOf binding.bindingId + 1 := by
  simp [MembershipStore.revisionOf, h.row, replacedRow]

/-- The groups that are stored for a photo are told apart by their ids. -/
theorem observed_nodup (s : MembershipStore) (bindingId : Token) :
    ((s.observed bindingId).map Group.flickrGroupId).Nodup := by
  have hkeys := List.pairwise_map.mp s.rows.nodup
  simp only [observed, List.map_map]
  apply List.pairwise_map.mpr
  apply (hkeys.sublist List.filter_sublist).imp_of_mem
  intro left right hleft hright hne heq
  apply hne
  have hbinding := of_decide_eq_true (List.mem_filter.mp hleft).2
  have hbinding' := of_decide_eq_true (List.mem_filter.mp hright).2
  exact Prod.ext (hbinding.trans hbinding'.symm) heq

end MembershipStore

/-! ## Steps -/

abbrev MembershipPool (ι : Type) := Pool MembershipStore ι MembershipOp.Answer

abbrev MembershipMove (ι : Type) := Move (MembershipPool ι) (Act ι MembershipOp.Answer)

section Moves

variable {ι : Type}

/-- The move opens a first page of the photo. -/
def Opens (move : MembershipMove ι) (bindingId : Token) : Prop :=
  ∃ auth grant binding, move.label.served = some (.openView auth grant binding) ∧
    binding.bindingId = bindingId ∧
    move.src.store.openView auth grant binding = some move.dst.store

/-- The move publishes the groups of a photo under a revision. -/
structure Publishes (move : MembershipMove ι) (bindingId : Token) (revision : Nat)
    (groups : List Group) : Prop where
  replaces : ∃ auth grant binding now,
    move.label.served = some (.replaceObservation auth grant binding groups) ∧
      binding.bindingId = bindingId ∧
      move.src.store.replaceObservation auth grant binding groups now = some move.dst.store
  revision : move.src.store.revisionOf bindingId + 1 = revision

/-- The photo is seen as before, at most retired. -/
structure KeepsObservation (s s' : MembershipStore) (bindingId : Token) : Prop where
  observed : s'.observed bindingId = s.observed bindingId
  revisionOf : s'.revisionOf bindingId = s.revisionOf bindingId
  retired : s.Retired bindingId → s'.Retired bindingId

variable {move : MembershipMove ι} {s s' : MembershipStore} {bindingId : Token}

theorem KeepsObservation.of_external (h : MembershipExternal s s') (bindingId : Token) :
    KeepsObservation s s' bindingId := by
  obtain ⟨hobservations, hrows⟩ := h
  constructor <;>
    simp [MembershipStore.observed, MembershipStore.revisionOf, MembershipStore.Retired,
      hobservations, hrows]

theorem KeepsObservation.same (s : MembershipStore) (bindingId : Token) :
    KeepsObservation s s bindingId := .of_external ⟨rfl, rfl⟩ bindingId

/-- What a publication leaves. -/
theorem Publishes.after {revision : Nat} {groups : List Group}
    (h : Publishes move bindingId revision groups) :
    move.dst.store.revisionOf bindingId = revision ∧
      move.dst.store.observed bindingId = groups := by
  obtain ⟨⟨auth, grant, binding, now, _, rfl, hreplace⟩, rfl⟩ := h
  have hreplaces := (MembershipStore.replaceObservation_eq_some hreplace).1
  exact ⟨hreplaces.revisionOf, hreplaces.groups⟩

theorem serve_observation {o : MembershipOp} {answer : o.Answer}
    (h : serveMembership s o answer s') (bindingId : Token) :
    KeepsObservation s s' bindingId ∨ ∃ auth grant binding groups now,
      o = .replaceObservation auth grant binding groups ∧ binding.bindingId = bindingId ∧
        s.replaceObservation auth grant binding groups now = some s' := by
  cases o with
  | openView auth grant binding =>
      refine Or.inl ?_
      simp only [serveMembership, batchServes] at h
      split at h
      · obtain ⟨_, rfl⟩ := h
        exact .same s' bindingId
      · next after hopened =>
          obtain ⟨_, rfl⟩ := h
          obtain ⟨hobserved, hrevision, hretired⟩ :=
            (MembershipStore.openView_eq_some hopened).2.2 bindingId
          exact ⟨hobserved, hrevision, hretired⟩
  | replaceObservation auth grant binding groups =>
      obtain ⟨now, h⟩ := h
      simp only [batchServes] at h
      split at h
      · obtain ⟨_, rfl⟩ := h
        exact Or.inl (.same s' bindingId)
      · next after hreplaced =>
          obtain ⟨_, rfl⟩ := h
          by_cases hbinding : binding.bindingId = bindingId
          · exact Or.inr ⟨auth, grant, binding, groups, now, rfl, hbinding, hreplaced⟩
          · obtain ⟨hfind, hobserved⟩ :=
              (MembershipStore.replaceObservation_eq_some hreplaced).2 bindingId (Ne.symm hbinding)
            refine Or.inl ⟨hobserved, ?_, ?_⟩
            · simp [MembershipStore.revisionOf, hfind]
            · simp [MembershipStore.Retired, hfind]
  | rejectGrant => exact Or.inl (.of_external h bindingId)
  | started | grantSecret | applicationSecret | getAllContexts | inTime | respond =>
      cases h
      exact Or.inl (.same s bindingId)
  | authLive | binding | linkedGrant | pageRows =>
      obtain ⟨_, rfl⟩ := h
      exact Or.inl (.same s' bindingId)

variable [DecidableEq ι]

/-- A step keeps what is seen of a photo, or publishes it anew. -/
theorem move_observation (move : MembershipMove ι)
    (hstep : PoolStep membershipMachine move.src move.label move.dst)
    (bindingId : Token) :
    KeepsObservation move.src.store move.dst.store bindingId ∨
      ∃ groups, Publishes move bindingId (move.src.store.revisionOf bindingId + 1) groups := by
  obtain ⟨src, label, dst⟩ := move
  dsimp only at hstep ⊢
  cases hstep with
  | external hexternal => exact Or.inl (.of_external hexternal bindingId)
  | start | crash | lose => exact Or.inl (.same _ bindingId)
  | perform hasks hserve =>
      rcases serve_observation hserve bindingId with
        hkept | ⟨auth, grant, binding, groups, now, rfl, hbinding, hreplaced⟩
      · exact Or.inl hkept
      · exact Or.inr ⟨groups, ⟨auth, grant, binding, now, rfl, hbinding, hreplaced⟩, rfl⟩
  | late hlate hserve =>
      rcases serve_observation hserve bindingId with
        hkept | ⟨auth, grant, binding, groups, now, rfl, hbinding, hreplaced⟩
      · exact Or.inl hkept
      · exact Or.inr ⟨groups, ⟨auth, grant, binding, now, rfl, hbinding, hreplaced⟩, rfl⟩

end Moves

/-! ## Runs -/

section Runs

variable {ι : Type} [DecidableEq ι] {p q : MembershipPool ι} {trace : List (MembershipMove ι)}
  {bindingId : Token}

/-- Revisions only rise. -/
theorem revisionOf_le (hrun : Run (PoolStep membershipMachine) p trace q) (bindingId : Token) :
    p.store.revisionOf bindingId ≤ q.store.revisionOf bindingId := by
  induction hrun with
  | nil => exact le_rfl
  | @snoc before after front act hrun hstep ih =>
      rcases move_observation ⟨before, act, after⟩ hstep bindingId with hkept | ⟨_, hpublish⟩
      · exact ih.trans hkept.revisionOf.ge
      · have hafter := hpublish.after.1
        dsimp only at hafter
        omega

/-- What is shown after a retirement was published since. -/
theorem published_since (hretired : p.store.Retired bindingId)
    (hrun : Run (PoolStep membershipMachine) p trace q) :
    q.store.Retired bindingId ∨ ∃ move ∈ trace,
      Publishes move bindingId (q.store.revisionOf bindingId) (q.store.observed bindingId) := by
  induction hrun with
  | nil => exact Or.inl hretired
  | @snoc before after front act hrun hstep ih =>
      rcases move_observation ⟨before, act, after⟩ hstep bindingId with hkept | ⟨_, hpublish⟩
      · rcases ih with hbefore | ⟨move, hmove, hpublish⟩
        · exact Or.inl (hkept.retired hbefore)
        · refine Or.inr ⟨move, List.mem_append_left _ hmove, ?_⟩
          dsimp only at hkept
          rw [hkept.revisionOf, hkept.observed]
          exact hpublish
      · refine Or.inr ⟨_, List.mem_append_right _ (List.mem_singleton_self _), ?_⟩
        obtain ⟨hrevision, hgroups⟩ := hpublish.after
        dsimp only at hrevision hgroups
        rw [hrevision, hgroups]
        exact hpublish

/-- Of two publications, the later one has the greater revision. -/
theorem publications_rise {front middle back : List (MembershipMove ι)}
    {first second : MembershipMove ι} {revision revision' : Nat} {groups groups' : List Group}
    (hrun : Run (PoolStep membershipMachine) p (front ++ first :: middle ++ second :: back) q)
    (hfirst : Publishes first bindingId revision groups)
    (hsecond : Publishes second bindingId revision' groups') : revision < revision' := by
  have hbefore := hrun.around.1
  have hmiddle := hbefore.around.2.2
  have hle := revisionOf_le hmiddle bindingId
  rw [hfirst.after.1] at hle
  rw [← hsecond.revision]
  omega

/-- A revision has one publication. -/
theorem publication_unique (hrun : Run (PoolStep membershipMachine) p trace q)
    {first second : MembershipMove ι} (hfirst : first ∈ trace) (hsecond : second ∈ trace)
    {revision : Nat} {groups groups' : List Group} (h : Publishes first bindingId revision groups)
    (h' : Publishes second bindingId revision groups') : groups = groups' := by
  obtain ⟨front, back, rfl⟩ := List.append_of_mem hfirst
  rcases List.mem_append.mp hsecond with hearly | hlate
  · obtain ⟨before, middle, rfl⟩ := List.append_of_mem hearly
    exact absurd (publications_rise hrun h' h) (lt_irrefl _)
  · rcases List.mem_cons.mp hlate with rfl | hlate
    · exact h.after.2.symm.trans h'.after.2
    · obtain ⟨middle, after, rfl⟩ := List.append_of_mem hlate
      rw [← List.cons_append, ← List.append_assoc] at hrun
      exact absurd (publications_rise hrun h h') (lt_irrefl _)

end Runs

end FlickrGroupAddr
