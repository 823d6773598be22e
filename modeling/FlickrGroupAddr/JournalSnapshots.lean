import FlickrGroupAddr.Lib.Transition
import FlickrGroupAddr.MainEntryJournal

/-!
# The journal under any number of clients

Every call leaves the tables alone or makes one of five writes, and each write
raises the revision.  So a stop is final, what has returned is closed, and pages
read at one revision are pages of one state.
-/

namespace FlickrGroupAddr

set_option autoImplicit false

open KeyedTable Transition

/-! ## Writes -/

/-- The control row after any write but a stop. -/
def JournalControl.raised (control : JournalControl) : JournalControl :=
  { control with revision := control.revision + 1 }

/-- One committed write, with the guard facts behind it. -/
inductive JournalWrite (db : JournalDb) : JournalDb → Prop
  | admits {row : JournalInvocation} {invocations : Table JournalInvocation.invocation} :
      db.control.stopEvidence = none → isUuid row.invocation = true → row.returned = none →
      db.invocations.insert? row = some invocations →
      JournalWrite db { db with control := db.control.raised, invocations := invocations }
  | effect {row : JournalEffect} {effects : Table JournalEffect.effect}
      {invocation : JournalInvocation} :
      isUuid row.effect = true → row.settled = none →
      db.invocations.find? row.invocation = some invocation → invocation.returned = none →
      db.effects.insert? row = some effects →
      JournalWrite db { db with control := db.control.raised, effects := effects }
  | settle {row : JournalEffect} {invocation : JournalInvocation} {outcome : EntryOutcome} :
      db.effects.find? row.effect = some row → row.settled = none →
      db.invocations.find? row.invocation = some invocation → invocation.returned = none →
      JournalWrite db
        { db with
          control := db.control.raised
          effects := db.effects.set { row with settled := some outcome } }
  | complete {row : JournalInvocation} {outcome : EntryOutcome} :
      db.invocations.find? row.invocation = some row → row.returned = none →
      db.pendingEffect row.invocation = false →
      JournalWrite db
        { db with
          control := db.control.raised
          invocations := db.invocations.set { row with returned := some outcome } }
  | stop {evidence : String} :
      db.control.stopEvidence = none →
      JournalWrite db
        { db with control := { db.control.raised with stopEvidence := some evidence } }

theorem JournalDb.bump_eq_some {db db' : JournalDb} (h : db.bump = some db') :
    db' = { db with control := db.control.raised } := by
  have hboth := Option.ite_none_right_eq_some.mp h
  exact (Option.some.inj hboth.2).symm

theorem JournalDb.leased_eq_some {db : JournalDb} {v : MainEntryLease} {row : JournalInvocation}
    (h : db.leased v = some row) :
    db.invocations.find? row.invocation = some row ∧ row.invocation = v.invocation ∧
      row.returned = none := by
  obtain ⟨hfind, hrow⟩ := Option.filter_eq_some_iff.mp h
  simp only [decide_eq_true_eq] at hrow
  have hkey := (Table.find?_eq_some.mp hfind).2
  refine ⟨?_, hkey, hrow.2.2⟩
  rw [hkey]
  exact hfind

namespace JournalDb

variable {db db' : JournalDb}

theorem insertInvocation_write {row : JournalInvocation}
    (h : db.insertInvocation row = some db') : JournalWrite db db' := by
  obtain ⟨⟨hreturned, hopen, _, huuid⟩, h⟩ := Option.ite_none_right_eq_some.mp h
  obtain ⟨invocations, hinsert, hbump⟩ := Option.bind_eq_some_iff.mp h
  rw [bump_eq_some hbump]
  exact JournalWrite.admits hopen huuid hreturned hinsert

theorem insertEffect_write {row : JournalEffect} (h : db.insertEffect row = some db') :
    JournalWrite db db' := by
  obtain ⟨⟨hsettled, huuid, invocation, hfound, hreturned, _⟩, h⟩ :=
    Option.ite_none_right_eq_some.mp h
  obtain ⟨effects, hinsert, hbump⟩ := Option.bind_eq_some_iff.mp h
  rw [bump_eq_some hbump]
  exact JournalWrite.effect huuid hsettled hfound hreturned hinsert

theorem updateEffect_write {row : JournalEffect} {outcome : EntryOutcome}
    (hrow : db.effects.find? row.effect = some row)
    (h : db.updateEffect row outcome = some db') : JournalWrite db db' := by
  obtain ⟨⟨hsettled, invocation, hfound, hreturned⟩, h⟩ := Option.ite_none_right_eq_some.mp h
  rw [bump_eq_some h]
  exact JournalWrite.settle hrow hsettled hfound hreturned

theorem updateInvocation_write {row : JournalInvocation} {outcome : EntryOutcome}
    (hrow : db.invocations.find? row.invocation = some row)
    (h : db.updateInvocation row outcome = some db') : JournalWrite db db' := by
  obtain ⟨⟨hreturned, hpending⟩, h⟩ := Option.ite_none_right_eq_some.mp h
  rw [bump_eq_some h]
  exact JournalWrite.complete hrow hreturned hpending

end JournalDb

namespace JournalClient

variable {client : JournalClient} {db db' : JournalDb}

/-- A statement that returned a row wrote; one that did not left the tables alone. -/
def Wrote (db : JournalDb) (result : Option (JournalDb × Bool)) : Prop :=
  ∀ db' returned, result = some (db', returned) →
    if returned = true then JournalWrite db db' else db' = db

theorem admitSql_wrote (invocation : String) (entry : MainEntry) :
    Wrote db (client.admitSql db invocation entry) := by
  intro db' returned h
  unfold admitSql at h
  split at h
  · obtain ⟨written, hinsert, hsame⟩ := Option.map_eq_some_iff.mp h
    cases hsame
    exact JournalDb.insertInvocation_write hinsert
  · cases h
    rfl

theorem effectSql_wrote (v : MainEntryLease) (effect : String) (kind : MainEffect) :
    Wrote db (client.effectSql db v effect kind) := by
  intro db' returned h
  unfold effectSql at h
  split at h
  · split at h
    · obtain ⟨written, hinsert, hsame⟩ := Option.map_eq_some_iff.mp h
      cases hsame
      exact JournalDb.insertEffect_write hinsert
    · cases h
      rfl
  · cases h
    rfl

theorem settledSql_wrote (v : MainEntryLease) (effect : String) (result : EntryOutcome) :
    Wrote db (client.settledSql db v effect result) := by
  intro db' returned h
  unfold settledSql at h
  split at h
  · next row hrow =>
      split at h
      · obtain ⟨written, hupdate, hsame⟩ := Option.map_eq_some_iff.mp h
        cases hsame
        refine JournalDb.updateEffect_write ?_ hupdate
        rw [(Table.find?_eq_some.mp hrow).2]
        exact hrow
      · cases h
        rfl
  · cases h
    rfl

theorem returnedSql_wrote (v : MainEntryLease) (result : EntryOutcome) :
    Wrote db (client.returnedSql db v result) := by
  intro db' returned h
  unfold returnedSql at h
  split at h
  · next row hrow =>
      split at h
      · obtain ⟨written, hupdate, hsame⟩ := Option.map_eq_some_iff.mp h
        cases hsame
        exact JournalDb.updateInvocation_write (JournalDb.leased_eq_some hrow).1 hupdate
      · cases h
        rfl
  · cases h
    rfl

theorem stopSql_wrote {evidence : String} (h : client.stopSql db evidence = some db') :
    db' = db ∨ JournalWrite db db' := by
  unfold stopSql at h
  split at h
  · next hopen =>
      right
      obtain ⟨_, hsame⟩ := Option.ite_none_right_eq_some.mp h
      cases hsame
      exact JournalWrite.stop hopen.2
  · cases h
    exact Or.inl rfl

theorem confirmed_cases {result : Option (JournalDb × Bool)} (granted otherwise : JournalAnswer)
    (h : Wrote db result) :
    ((confirmed db result granted otherwise).1 = db ∧
      ((confirmed db result granted otherwise).2 = .unavailable ∨
        (confirmed db result granted otherwise).2 = otherwise)) ∨
    (∃ db', result = some (db', true) ∧ JournalWrite db db' ∧
      confirmed db result granted otherwise = (db', granted)) := by
  unfold confirmed
  cases result with
  | none => exact Or.inl ⟨rfl, Or.inl rfl⟩
  | some written =>
      obtain ⟨db', returned⟩ := written
      have hwrote := h db' returned rfl
      cases returned with
      | false => exact Or.inl ⟨hwrote, Or.inr rfl⟩
      | true => exact Or.inr ⟨db', rfl, hwrote, rfl⟩

/-- A call leaves the tables alone or makes one write. -/
theorem exec_cases (client : JournalClient) (db : JournalDb) (call : JournalCall) :
    (client.exec db call).1 = db ∨ JournalWrite db (client.exec db call).1 := by
  have hstatement : ∀ result granted otherwise, Wrote db result →
      (confirmed db result granted otherwise).1 = db ∨
        JournalWrite db (confirmed db result granted otherwise).1 := by
    intro result granted otherwise hwrote
    rcases confirmed_cases granted otherwise hwrote with
      ⟨hsame, _⟩ | ⟨db', _, hwrite, heq⟩
    · exact Or.inl hsame
    · rw [heq]
      exact Or.inr hwrite
  cases call with
  | admits =>
      simp only [exec]
      split
      · exact hstatement _ _ _ (admitSql_wrote _ _)
      · exact Or.inl rfl
  | effect =>
      simp only [exec]
      split
      · exact hstatement _ _ _ (effectSql_wrote _ _ _)
      · exact Or.inl rfl
  | settled =>
      simp only [exec]
      split
      · exact hstatement _ _ _ (settledSql_wrote _ _ _)
      · exact Or.inl rfl
  | returned =>
      simp only [exec]
      split
      · exact hstatement _ _ _ (returnedSql_wrote _ _)
      · exact Or.inl rfl
  | stop =>
      simp only [exec]
      split
      · split
        · exact Or.inl rfl
        · next hstop =>
            split
            · exact stopSql_wrote hstop
            · exact stopSql_wrote hstop
      · exact Or.inl rfl
  | pageInvocations => exact Or.inl rfl
  | pageEffects => exact Or.inl rfl

/-- A recorded settlement found the effect without an outcome. -/
theorem recorded_settled {v : MainEntryLease} {effect : String} {result : EntryOutcome}
    (h : (client.exec db (.settled v effect result)).2 = .recorded) :
    ∃ row, db.effects.find? effect = some row ∧ row.settled = none ∧
      (client.exec db (.settled v effect result)).1.effects.find? effect =
        some { row with settled := some result } := by
  simp only [exec] at h ⊢
  split at h
  · next hvalid =>
      rw [if_pos hvalid]
      rcases confirmed_cases .recorded .unavailable (settledSql_wrote v effect result) with
        ⟨_, hrefused | hrefused⟩ | ⟨db', hsql, _, heq⟩
      · cases h.symm.trans hrefused
      · cases h.symm.trans hrefused
      · rw [heq]
        unfold settledSql at hsql
        split at hsql
        · next row hrow =>
            split at hsql
            · next hguard =>
                obtain ⟨written, hupdate, hsame⟩ := Option.map_eq_some_iff.mp hsql
                cases hsame
                obtain ⟨_, hbump⟩ := Option.ite_none_right_eq_some.mp hupdate
                have hkey := (Table.find?_eq_some.mp hrow).2
                refine ⟨row, hrow, hguard.2.1, ?_⟩
                rw [JournalDb.bump_eq_some hbump]
                simp [Table.find?_set, hkey, hrow]
            · cases hsql
        · cases hsql
  · cases h

/-- A recorded return found the invocation open. -/
theorem recorded_returned {v : MainEntryLease} {result : EntryOutcome}
    (h : (client.exec db (.returned v result)).2 = .recorded) :
    ∃ row, db.invocations.find? v.invocation = some row ∧ row.returned = none ∧
      (client.exec db (.returned v result)).1.invocations.find? v.invocation =
        some { row with returned := some result } := by
  simp only [exec] at h ⊢
  split at h
  · next hvalid =>
      rw [if_pos hvalid]
      rcases confirmed_cases .recorded .unavailable (returnedSql_wrote v result) with
        ⟨_, hrefused | hrefused⟩ | ⟨db', hsql, _, heq⟩
      · cases h.symm.trans hrefused
      · cases h.symm.trans hrefused
      · rw [heq]
        unfold returnedSql at hsql
        split at hsql
        · next row hrow =>
            obtain ⟨hfind, hkey, hreturned⟩ := JournalDb.leased_eq_some hrow
            split at hsql
            · obtain ⟨written, hupdate, hsame⟩ := Option.map_eq_some_iff.mp hsql
              cases hsame
              obtain ⟨_, hbump⟩ := Option.ite_none_right_eq_some.mp hupdate
              rw [hkey] at hfind
              refine ⟨row, hfind, hreturned, ?_⟩
              rw [JournalDb.bump_eq_some hbump]
              simp [Table.find?_set, hkey, hfind]
            · cases hsql
        · cases hsql
  · cases h

end JournalClient

/-! ## Runs -/

/-- What happens at the database. -/
inductive JournalEvent where
  /-- A call reaches it; its answer may still be lost. -/
  | call (client : JournalClient) (call : JournalCall)
  /-- A call is lost or fails before it commits. -/
  | lost (client : JournalClient) (call : JournalCall)

inductive JournalStep : JournalDb → JournalEvent → JournalDb → Prop
  | call {db : JournalDb} {client : JournalClient} {call : JournalCall} :
      JournalStep db (.call client call) (client.exec db call).1
  | lost {db : JournalDb} {client : JournalClient} {call : JournalCall} :
      JournalStep db (.lost client call) db

/-- The journal right after its control row was inserted. -/
def JournalInstalled (db : JournalDb) : Prop :=
  db.control.stopEvidence = none ∧ db.control.revision = 0 ∧
    db.invocations = .empty ∧ db.effects = .empty

def JournalReachable (db : JournalDb) : Prop := Reachable JournalStep JournalInstalled db

theorem JournalStep.write {db db' : JournalDb} {event : JournalEvent}
    (h : JournalStep db event db') : db' = db ∨ JournalWrite db db' := by
  cases h with
  | @call client call => exact client.exec_cases db call
  | lost => exact Or.inl rfl

/-- A relation that writes respect relates the two ends of a run. -/
theorem JournalStep.relates {rel : JournalDb → JournalDb → Prop} [IsPreorder JournalDb rel]
    (hwrite : ∀ db db', JournalWrite db db' → rel db db') {db db' : JournalDb}
    {trace : List (Move JournalDb JournalEvent)} (hrun : Run JournalStep db trace db') :
    rel db db' := by
  refine hrun.relates ?_
  intro before event after hstep
  rcases hstep.write with rfl | hchange
  · exact refl_of rel _
  · exact hwrite before after hchange

/-! ### The revision -/

/-- Nothing changed, or the revision went up. -/
def JournalLater (db db' : JournalDb) : Prop :=
  db' = db ∨ db.control.revision < db'.control.revision

instance : IsPreorder JournalDb JournalLater where
  refl _ := Or.inl rfl
  trans _ _ _ h h' := by
    rcases h with rfl | h
    · exact h'
    · rcases h' with rfl | h'
      · exact Or.inr h
      · exact Or.inr (h.trans h')

theorem JournalWrite.later {db db' : JournalDb} (h : JournalWrite db db') :
    JournalLater db db' := by
  right
  cases h <;> exact Nat.lt_succ_self _

/-- Two states of a run with one revision are the same. -/
theorem JournalStep.eq_of_revision {start last db db' : JournalDb}
    {trace : List (Move JournalDb JournalEvent)} (hrun : Run JournalStep start trace last)
    (hdb : db ∈ visited start trace) (hdb' : db' ∈ visited start trace)
    (hrevision : db.control.revision = db'.control.revision) : db = db' := by
  have hlater : ∀ before after : JournalDb, JournalWrite before after →
      JournalLater before after := fun _ _ => JournalWrite.later
  rcases hrun.visited_ordered hdb hdb' with ⟨between, hbetween⟩ | ⟨between, hbetween⟩
  · rcases JournalStep.relates hlater hbetween with heq | hlt
    · exact heq.symm
    · omega
  · rcases JournalStep.relates hlater hbetween with heq | hlt
    · exact heq
    · omega

/-! ### What is final -/

/-- A stop stays, and no invocation is added after it. -/
def StopKept (db db' : JournalDb) : Prop :=
  ∀ evidence, db.control.stopEvidence = some evidence →
    db'.control.stopEvidence = some evidence ∧
    ∀ row ∈ db'.invocations, ∃ old ∈ db.invocations, old.invocation = row.invocation

instance : IsPreorder JournalDb StopKept where
  refl _ _ h := ⟨h, fun row hrow => ⟨row, hrow, rfl⟩⟩
  trans _ _ _ h h' evidence hstopped := by
    obtain ⟨hmiddle, hold⟩ := h evidence hstopped
    obtain ⟨hlast, hnew⟩ := h' evidence hmiddle
    refine ⟨hlast, ?_⟩
    intro row hrow
    obtain ⟨middle, hmem, hkey⟩ := hnew row hrow
    obtain ⟨first, hfirst, hkey'⟩ := hold middle hmem
    exact ⟨first, hfirst, hkey'.trans hkey⟩

theorem JournalWrite.stopKept {db db' : JournalDb} (h : JournalWrite db db') :
    StopKept db db' := by
  intro evidence hstopped
  cases h with
  | admits hopen => cases hopen.symm.trans hstopped
  | effect => exact ⟨hstopped, fun row hrow => ⟨row, hrow, rfl⟩⟩
  | settle => exact ⟨hstopped, fun row hrow => ⟨row, hrow, rfl⟩⟩
  | @complete row outcome hfind =>
      refine ⟨hstopped, ?_⟩
      intro other hother
      rcases Table.mem_set_cases hother with rfl | ⟨hold, _⟩
      · exact ⟨row, Table.mem_of_find? hfind, rfl⟩
      · exact ⟨other, hold, rfl⟩
  | stop hopen => cases hopen.symm.trans hstopped

/-- A returned invocation keeps its row, and its effects stay what they are. -/
def ReturnedKept (db db' : JournalDb) : Prop :=
  ∀ row ∈ db.invocations, row.returned ≠ none → row ∈ db'.invocations ∧
    ∀ effect : JournalEffect, effect.invocation = row.invocation →
      (effect ∈ db'.effects ↔ effect ∈ db.effects)

instance : IsPreorder JournalDb ReturnedKept where
  refl _ row hrow _ := ⟨hrow, fun _ _ => Iff.rfl⟩
  trans _ _ _ h h' row hrow hreturned := by
    obtain ⟨hmiddle, hsame⟩ := h row hrow hreturned
    obtain ⟨hlast, hsame'⟩ := h' row hmiddle hreturned
    exact ⟨hlast, fun effect heffect => (hsame' effect heffect).trans (hsame effect heffect)⟩

theorem JournalWrite.returnedKept {db db' : JournalDb} (h : JournalWrite db db') :
    ReturnedKept db db' := by
  intro row hrow hreturned
  have hfind := Table.find?_of_mem hrow
  cases h with
  | admits _ _ _ hinsert =>
      exact ⟨(Table.mem_insert? hinsert).mpr (Or.inl hrow), fun _ _ => Iff.rfl⟩
  | @effect new effects invocation _ _ hinvocation hopen hinsert =>
      refine ⟨hrow, ?_⟩
      intro effect heffect
      rw [Table.mem_insert? hinsert]
      constructor
      · rintro (hold | rfl)
        · exact hold
        · rw [heffect, hfind] at hinvocation
          cases hinvocation
          exact absurd hopen hreturned
      · exact Or.inl
  | @settle old invocation outcome hold _ hinvocation hopen =>
      refine ⟨hrow, ?_⟩
      intro effect heffect
      have hother : old.invocation ≠ row.invocation := by
        intro hsame
        rw [hsame, hfind] at hinvocation
        cases hinvocation
        exact hreturned hopen
      constructor
      · intro hmem
        rcases Table.mem_set_cases hmem with rfl | ⟨hkept, _⟩
        · exact absurd heffect hother
        · exact hkept
      · intro hmem
        refine Table.mem_set_of_ne hmem ?_
        intro hsame
        have heq : effect = old := Table.eq_of_key_eq hmem (Table.mem_of_find? hold) hsame
        exact hother (heq ▸ heffect)
  | @complete old outcome hold hopen =>
      refine ⟨?_, fun _ _ => Iff.rfl⟩
      refine Table.mem_set_of_ne hrow ?_
      intro hsame
      have heq : row = old := Table.eq_of_key_eq hrow (Table.mem_of_find? hold) hsame
      exact hreturned (heq ▸ hopen)
  | stop => exact ⟨hrow, fun _ _ => Iff.rfl⟩

/-- An effect with an outcome keeps its row. -/
def SettledKept (db db' : JournalDb) : Prop :=
  ∀ row ∈ db.effects, row.settled ≠ none → row ∈ db'.effects

instance : IsPreorder JournalDb SettledKept where
  refl _ _ hrow _ := hrow
  trans _ _ _ h h' row hrow hsettled := h' row (h row hrow hsettled) hsettled

theorem JournalWrite.settledKept {db db' : JournalDb} (h : JournalWrite db db') :
    SettledKept db db' := by
  intro row hrow hsettled
  cases h with
  | admits => exact hrow
  | effect _ _ _ _ hinsert => exact (Table.mem_insert? hinsert).mpr (Or.inl hrow)
  | @settle old invocation outcome hold hopen =>
      refine Table.mem_set_of_ne hrow ?_
      intro hsame
      have heq : row = old := Table.eq_of_key_eq hrow (Table.mem_of_find? hold) hsame
      exact hsettled (heq ▸ hopen)
  | complete => exact hrow
  | stop => exact hrow

/-- An invocation that returned has settled its effects. -/
def ReturnedSettled (db : JournalDb) : Prop :=
  ∀ row ∈ db.invocations, row.returned ≠ none → ∀ effect ∈ db.effects,
    effect.invocation = row.invocation → effect.settled ≠ none

theorem JournalWrite.returnedSettled {db db' : JournalDb} (hinv : ReturnedSettled db)
    (h : JournalWrite db db') : ReturnedSettled db' := by
  intro row hrow hreturned effect heffect hsame
  by_cases hold : row ∈ db.invocations
  · have heffect' := ((h.returnedKept row hold hreturned).2 effect hsame).mp heffect
    exact hinv row hold hreturned effect heffect' hsame
  · -- the row is new in this shape: it has just returned
    cases h with
    | admits _ _ hopen hinsert =>
        rcases (Table.mem_insert? hinsert).mp hrow with hrow | rfl
        · exact absurd hrow hold
        · exact absurd hopen hreturned
    | effect => exact absurd hrow hold
    | settle => exact absurd hrow hold
    | @complete old outcome _ _ hpending =>
        rcases Table.mem_set_cases hrow with rfl | ⟨hrow, _⟩
        · intro hopen
          have hnone := List.any_eq_false.mp hpending effect heffect
          simp [hsame, hopen] at hnone
        · exact absurd hrow hold
    | stop => exact absurd hrow hold

/-- Every stored id is a uuid. -/
def JournalIds (db : JournalDb) : Prop :=
  (∀ row ∈ db.invocations, isUuid row.invocation = true) ∧
    ∀ row ∈ db.effects, isUuid row.effect = true

theorem JournalWrite.ids {db db' : JournalDb} (hinv : JournalIds db)
    (h : JournalWrite db db') : JournalIds db' := by
  obtain ⟨hinvocations, heffects⟩ := hinv
  cases h with
  | admits _ huuid _ hinsert =>
      refine ⟨?_, heffects⟩
      intro row hrow
      rcases (Table.mem_insert? hinsert).mp hrow with hold | rfl
      · exact hinvocations row hold
      · exact huuid
  | effect huuid _ _ _ hinsert =>
      refine ⟨hinvocations, ?_⟩
      intro row hrow
      rcases (Table.mem_insert? hinsert).mp hrow with hold | rfl
      · exact heffects row hold
      · exact huuid
  | @settle old _ _ hfind =>
      refine ⟨hinvocations, ?_⟩
      intro row hrow
      rcases Table.mem_set_cases hrow with rfl | ⟨hold, _⟩
      · exact heffects old (Table.mem_of_find? hfind)
      · exact heffects row hold
  | @complete old _ hfind =>
      refine ⟨?_, heffects⟩
      intro row hrow
      rcases Table.mem_set_cases hrow with rfl | ⟨hold, _⟩
      · exact hinvocations old (Table.mem_of_find? hfind)
      · exact hinvocations row hold
  | stop => exact ⟨hinvocations, heffects⟩

theorem JournalReachable.invariant {inv : JournalDb → Prop} {db : JournalDb}
    (h : JournalReachable db) (hstart : ∀ start, JournalInstalled start → inv start)
    (hwrite : ∀ before after, inv before → JournalWrite before after → inv after) : inv db := by
  refine Reachable.invariant h hstart ?_
  intro before event after hinv hstep
  rcases hstep.write with rfl | hchange
  · exact hinv
  · exact hwrite before after hinv hchange

theorem JournalReachable.returnedSettled {db : JournalDb} (h : JournalReachable db) :
    ReturnedSettled db := by
  refine h.invariant ?_ fun _ _ => JournalWrite.returnedSettled
  intro start hstart row hrow
  rw [hstart.2.2.1] at hrow
  exact absurd hrow (Table.not_mem_empty row)

theorem JournalReachable.ids {db : JournalDb} (h : JournalReachable db) : JournalIds db := by
  refine h.invariant ?_ fun _ _ => JournalWrite.ids
  intro start hstart
  constructor
  · intro row hrow
    rw [hstart.2.2.1] at hrow
    exact absurd hrow (Table.not_mem_empty row)
  · intro row hrow
    rw [hstart.2.2.2] at hrow
    exact absurd hrow (Table.not_mem_empty row)

/-! ## Pages -/

/-- The pages of a reader that starts before the first id and follows `next` until it is
null. -/
inductive JournalWalk (read : String → Nat → JournalPage → Prop) :
    String → List JournalPage → Prop
  | last {cursor : String} {limit : Nat} {page : JournalPage} :
      read cursor limit page → page.next = none → JournalWalk read cursor [page]
  | more {cursor next : String} {limit : Nat} {page : JournalPage} {rest : List JournalPage} :
      read cursor limit page → page.next = some next → JournalWalk read next rest →
      JournalWalk read cursor (page :: rest)

/-- The invocations a page shows. -/
def JournalRows.invocationRows : JournalRows → List JournalInvocation
  | .invocations rows => rows
  | .effects _ => []

def JournalRows.effectRows : JournalRows → List JournalEffect
  | .invocations _ => []
  | .effects rows => rows

/-- A walk over pages is a keyset walk over their rows. -/
theorem JournalWalk.keyset {ρ : Type} (key : ρ → String) (rowsOf : JournalPage → List ρ)
    (table : List ρ) {read : String → Nat → JournalPage → Prop}
    (hread : ∀ cursor limit page, read cursor limit page →
      rowsOf page = Keyset.page key table cursor limit ∧
      page.next = nextCursor ((rowsOf page).map key) limit ∧ 1 ≤ limit)
    {cursor : String} {pages : List JournalPage} (h : JournalWalk read cursor pages) :
    Keyset.Walk key (fun cursor limit rows => rows = Keyset.page key table cursor limit) cursor
      (pages.map rowsOf) := by
  induction h with
  | @last cursor limit page hpage hnext =>
      obtain ⟨hrows, hcursor, hpos⟩ := hread cursor limit page hpage
      refine Keyset.Walk.last hrows ?_
      have hle : (rowsOf page).length ≤ limit := hrows ▸ Keyset.length_page_le limit
      rw [hnext, nextCursor, List.length_map] at hcursor
      split at hcursor
      · next hfull =>
          rw [eq_comm, List.getLast?_eq_none_iff, List.map_eq_nil_iff] at hcursor
          rw [hcursor, List.length_nil] at hfull
          omega
      · next hshort => omega
  | @more cursor next limit page rest hpage hnext _ ih =>
      obtain ⟨hrows, hcursor, _⟩ := hread cursor limit page hpage
      rw [hnext, nextCursor, List.length_map] at hcursor
      obtain ⟨hfull, hlast⟩ := Option.ite_none_right_eq_some.mp hcursor.symm
      rw [List.getLast?_map] at hlast
      obtain ⟨row, hrow, rfl⟩ := Option.map_eq_some_iff.mp hlast
      exact Keyset.Walk.more hrows hfull hrow ih

namespace JournalClient

variable {client : JournalClient} {db : JournalDb}

theorem invocationsPage_rows {cursor : String} {limit : Nat} {page : JournalPage}
    (h : client.invocationsPage db cursor limit = some page) :
    page.control = db.control ∧ 1 ≤ limit ∧
    page.rows.invocationRows =
      Keyset.page JournalInvocation.invocation db.invocations.rows cursor limit ∧
    page.next = nextCursor (page.rows.invocationRows.map JournalInvocation.invocation) limit := by
  obtain ⟨control, hcontrol, h⟩ := Option.bind_eq_some_iff.mp h
  obtain ⟨⟨hpageable, _⟩, h⟩ := Option.ite_none_right_eq_some.mp h
  obtain ⟨_, hsame⟩ := Option.ite_none_right_eq_some.mp hcontrol
  cases h
  cases hsame
  simp only [pageable, Bool.and_eq_true, decide_eq_true_eq] at hpageable
  exact ⟨rfl, hpageable.2.1, rfl, rfl⟩

theorem effectsPage_rows {cursor : String} {limit : Nat} {page : JournalPage}
    (h : client.effectsPage db cursor limit = some page) :
    page.control = db.control ∧ 1 ≤ limit ∧
    page.rows.effectRows = Keyset.page JournalEffect.effect db.effects.rows cursor limit ∧
    page.next = nextCursor (page.rows.effectRows.map JournalEffect.effect) limit := by
  obtain ⟨control, hcontrol, h⟩ := Option.bind_eq_some_iff.mp h
  obtain ⟨⟨hpageable, _⟩, h⟩ := Option.ite_none_right_eq_some.mp h
  obtain ⟨_, hsame⟩ := Option.ite_none_right_eq_some.mp hcontrol
  cases h
  cases hsame
  simp only [pageable, Bool.and_eq_true, decide_eq_true_eq] at hpageable
  exact ⟨rfl, hpageable.2.1, rfl, rfl⟩

end JournalClient

theorem isUuid_pos {text : String} (h : isUuid text = true) : "" < text := by
  rw [String.lt_iff_toList_lt]
  cases hchars : text.toList with
  | nil =>
      rw [String.toList_eq_nil_iff] at hchars
      subst hchars
      exact absurd h (by decide)
  | cons c rest => exact List.nil_lt_cons c rest

/-- A page of the invocations that some client read at a revision, in one of the states. -/
def ReadInvocations (states : List JournalDb) (revision : Nat) (cursor : String) (limit : Nat)
    (page : JournalPage) : Prop :=
  ∃ db ∈ states, ∃ client : JournalClient,
    client.invocationsPage db cursor limit = some page ∧ page.control.revision = revision

/-- The same for the effects. -/
def ReadEffects (states : List JournalDb) (revision : Nat) (cursor : String) (limit : Nat)
    (page : JournalPage) : Prop :=
  ∃ db ∈ states, ∃ client : JournalClient,
    client.effectsPage db cursor limit = some page ∧ page.control.revision = revision

/-- A call settled the effect. -/
def Settles (effect : String) (move : Move JournalDb JournalEvent) : Prop :=
  ∃ client lease result, move.label = .call client (.settled lease effect result) ∧
    (client.exec move.src (.settled lease effect result)).2 = .recorded

/-- A call returned the invocation. -/
def Returns (invocation : String) (move : Move JournalDb JournalEvent) : Prop :=
  ∃ client lease result, move.label = .call client (.returned lease result) ∧
    lease.invocation = invocation ∧
    (client.exec move.src (.returned lease result)).2 = .recorded

/-- A fact a move establishes, that stays, and that no such move starts from. -/
theorem JournalStep.at_most_once (fact : JournalDb → Prop)
    {makes : Move JournalDb JournalEvent → Prop}
    (hmakes : ∀ move, JournalStep move.src move.label move.dst → makes move →
      ¬ fact move.src ∧ fact move.dst)
    (hkept : ∀ db db', JournalWrite db db' → fact db → fact db')
    {db db' : JournalDb} {trace : List (Move JournalDb JournalEvent)}
    (hrun : Run JournalStep db trace db') :
    trace.Pairwise fun earlier later => ¬ (makes earlier ∧ makes later) := by
  have hstep : ∀ s event t, JournalStep s event t → fact s → fact t := by
    intro s event t hmove hfact
    rcases hmove.write with rfl | hwrite
    · exact hfact
    · exact hkept s t hwrite hfact
  induction hrun with
  | nil => exact List.Pairwise.nil
  | @snoc middle last trace event hrun hlast ih =>
      rw [List.pairwise_append]
      refine ⟨ih, List.pairwise_singleton _ _, ?_⟩
      intro earlier hearlier later hlater hboth
      obtain rfl := List.mem_singleton.mp hlater
      obtain ⟨front, back, rfl⟩ := List.append_of_mem hearlier
      obtain ⟨_, hmove, hback⟩ := hrun.around
      have hafter : fact middle :=
        hback.invariant (hmakes earlier hmove hboth.1).2 fun _ _ hsrc hnext =>
          hstep _ _ _ hnext hsrc
      exact (hmakes _ hlast hboth.2).1 hafter

theorem JournalStep.settles_once {db db' : JournalDb} {trace : List (Move JournalDb JournalEvent)}
    (hrun : Run JournalStep db trace db') (effect : String) :
    trace.Pairwise fun earlier later => ¬ (Settles effect earlier ∧ Settles effect later) := by
  have hfind : ∀ {db : JournalDb}, (∃ row ∈ db.effects, row.effect = effect ∧ row.settled ≠ none) ↔
      ∃ row, db.effects.find? effect = some row ∧ row.settled ≠ none := by
    intro db
    simp only [Table.find?_eq_some, and_assoc]
  refine JournalStep.at_most_once
    (fun db => ∃ row ∈ db.effects, row.effect = effect ∧ row.settled ≠ none) ?_ ?_ hrun
  · intro move hmove hsettles
    obtain ⟨client, lease, result, hlabel, hrecorded⟩ := hsettles
    obtain ⟨row, hrow, hopen, hnew⟩ := JournalClient.recorded_settled hrecorded
    rw [hlabel] at hmove
    have hdst : move.dst = (client.exec move.src (.settled lease effect result)).1 := by
      generalize move.src = before, move.dst = after at hmove
      cases hmove
      rfl
    rw [hfind, hfind, hdst]
    constructor
    · rintro ⟨other, hother, hsettled⟩
      rw [hrow] at hother
      cases hother
      exact hsettled hopen
    · exact ⟨_, hnew, by simp⟩
  · rintro before after hwrite ⟨row, hrow, hkey, hsettled⟩
    exact ⟨row, hwrite.settledKept row hrow hsettled, hkey, hsettled⟩

theorem JournalStep.returns_once {db db' : JournalDb} {trace : List (Move JournalDb JournalEvent)}
    (hrun : Run JournalStep db trace db') (invocation : String) :
    trace.Pairwise fun earlier later =>
      ¬ (Returns invocation earlier ∧ Returns invocation later) := by
  have hfind : ∀ {db : JournalDb},
      (∃ row ∈ db.invocations, row.invocation = invocation ∧ row.returned ≠ none) ↔
      ∃ row, db.invocations.find? invocation = some row ∧ row.returned ≠ none := by
    intro db
    simp only [Table.find?_eq_some, and_assoc]
  refine JournalStep.at_most_once
    (fun db => ∃ row ∈ db.invocations, row.invocation = invocation ∧ row.returned ≠ none)
    ?_ ?_ hrun
  · intro move hmove hreturns
    obtain ⟨client, lease, result, hlabel, rfl, hrecorded⟩ := hreturns
    obtain ⟨row, hrow, hopen, hnew⟩ := JournalClient.recorded_returned hrecorded
    rw [hlabel] at hmove
    have hdst : move.dst = (client.exec move.src (.returned lease result)).1 := by
      generalize move.src = before, move.dst = after at hmove
      cases hmove
      rfl
    rw [hfind, hfind, hdst]
    constructor
    · rintro ⟨other, hother, hreturned⟩
      rw [hrow] at hother
      cases hother
      exact hreturned hopen
    · exact ⟨_, hnew, by simp⟩
  · rintro before after hwrite ⟨row, hrow, hkey, hreturned⟩
    exact ⟨row, (hwrite.returnedKept row hrow hreturned).1, hkey, hreturned⟩

/-- Pages of one revision are pages of one state. -/
theorem JournalStep.snapshot {start last db : JournalDb}
    {trace : List (Move JournalDb JournalEvent)} (hstart : JournalReachable start)
    (hrun : Run JournalStep start trace last) (hdb : db ∈ visited start trace)
    {invocationPages effectPages : List JournalPage}
    (hinvocations : JournalWalk (ReadInvocations (visited start trace) db.control.revision) ""
      invocationPages)
    (heffects : JournalWalk (ReadEffects (visited start trace) db.control.revision) ""
      effectPages) :
    (invocationPages.flatMap fun page => page.rows.invocationRows) =
      Keyset.ordered JournalInvocation.invocation db.invocations.rows ∧
    (effectPages.flatMap fun page => page.rows.effectRows) =
      Keyset.ordered JournalEffect.effect db.effects.rows := by
  obtain ⟨⟨front, hfront⟩, _⟩ := hrun.mem_visited hdb
  have hreachable : JournalReachable db := Reachable.run hstart hfront
  obtain ⟨hinvocationIds, heffectIds⟩ := hreachable.ids
  constructor
  · have hwalk := hinvocations.keyset JournalInvocation.invocation
      (fun page => page.rows.invocationRows) db.invocations.rows <| by
        rintro cursor limit page ⟨seen, hseen, client, hpage, hrevision⟩
        obtain ⟨hcontrol, hpos, hrows, hnext⟩ := JournalClient.invocationsPage_rows hpage
        rw [hcontrol] at hrevision
        rw [JournalStep.eq_of_revision hrun hseen hdb hrevision] at hrows
        exact ⟨hrows, hnext, hpos⟩
    have hall := hwalk.flatten db.invocations.nodup fun _ _ _ => id
    rw [Keyset.after_eq_ordered fun row hrow => isUuid_pos (hinvocationIds row hrow)] at hall
    exact hall
  · have hwalk := heffects.keyset JournalEffect.effect
      (fun page => page.rows.effectRows) db.effects.rows <| by
        rintro cursor limit page ⟨seen, hseen, client, hpage, hrevision⟩
        obtain ⟨hcontrol, hpos, hrows, hnext⟩ := JournalClient.effectsPage_rows hpage
        rw [hcontrol] at hrevision
        rw [JournalStep.eq_of_revision hrun hseen hdb hrevision] at hrows
        exact ⟨hrows, hnext, hpos⟩
    have hall := hwalk.flatten db.effects.nodup fun _ _ _ => id
    rw [Keyset.after_eq_ordered fun row hrow => isUuid_pos (heffectIds row hrow)] at hall
    exact hall

/-! ## The discipline of the journal -/

/-- From any state on: a stop is final and closes the invocations; what has returned has
settled effects and stays as it is; an effect is settled once and an invocation returned
once; and pages of one revision are the tables of that revision. -/
theorem journal_discipline {start last : JournalDb}
    {trace : List (Move JournalDb JournalEvent)} (hstart : JournalReachable start)
    (hrun : Run JournalStep start trace last) :
    (∀ evidence, start.control.stopEvidence = some evidence →
      last.control.stopEvidence = some evidence ∧
      ∀ row ∈ last.invocations, ∃ old ∈ start.invocations, old.invocation = row.invocation) ∧
    (∀ row ∈ start.invocations, row.returned ≠ none →
      (∀ effect ∈ start.effects, effect.invocation = row.invocation → effect.settled ≠ none) ∧
      row ∈ last.invocations ∧
      ∀ effect : JournalEffect, effect.invocation = row.invocation →
        (effect ∈ last.effects ↔ effect ∈ start.effects)) ∧
    (∀ effect, trace.Pairwise fun earlier later =>
      ¬ (Settles effect earlier ∧ Settles effect later)) ∧
    (∀ invocation, trace.Pairwise fun earlier later =>
      ¬ (Returns invocation earlier ∧ Returns invocation later)) ∧
    ∀ db ∈ visited start trace, ∀ invocationPages effectPages,
      JournalWalk (ReadInvocations (visited start trace) db.control.revision) ""
        invocationPages →
      JournalWalk (ReadEffects (visited start trace) db.control.revision) "" effectPages →
      (invocationPages.flatMap fun page => page.rows.invocationRows) =
        Keyset.ordered JournalInvocation.invocation db.invocations.rows ∧
      (effectPages.flatMap fun page => page.rows.effectRows) =
        Keyset.ordered JournalEffect.effect db.effects.rows := by
  have hstop : StopKept start last :=
    JournalStep.relates (fun _ _ => JournalWrite.stopKept) hrun
  have hreturned : ReturnedKept start last :=
    JournalStep.relates (fun _ _ => JournalWrite.returnedKept) hrun
  refine ⟨hstop, ?_, JournalStep.settles_once hrun, JournalStep.returns_once hrun, ?_⟩
  · intro row hrow hdone
    exact ⟨hstart.returnedSettled row hrow hdone, hreturned row hrow hdone⟩
  · intro db hdb invocationPages effectPages hinvocations heffects
    exact JournalStep.snapshot hstart hrun hdb hinvocations heffects

namespace JournalSample

def binding : MainEntryBinding where
  candidate := "0123456789abcdef0123456789abcdef0123456789abcdef0123456789abcdef"
  lifecycle := "maintenance-1"
  generation := "1"

def client : JournalClient where
  binding := binding
  journalDatabaseId := "00000000-0000-4000-8000-000000000000"
  valid := by decide +kernel
  uuid := by decide +kernel

/-- The journal of the client, installed. -/
def installed : JournalDb where
  control := ⟨binding, client.journalDatabaseId, none, 0⟩
  invocations := .empty
  effects := .empty

def lease : MainEntryLease :=
  ⟨binding, "00000000-0000-4000-8000-000000000001", .fetch⟩

def effect : String := "00000000-0000-4000-8000-000000000002"

/-- One invocation with one effect, to its return. -/
def calls : List JournalCall :=
  [.admits binding lease.invocation .fetch, .effect lease effect .d1,
    .settled lease effect .fulfilled, .returned lease .fulfilled]

/-- The states along a list of calls, with their moves. -/
def moves : JournalDb → List JournalCall → List (Move JournalDb JournalEvent)
  | _, [] => []
  | db, call :: rest =>
      ⟨db, .call client call, (client.exec db call).1⟩ :: moves (client.exec db call).1 rest

def final (db : JournalDb) (calls : List JournalCall) : JournalDb :=
  calls.foldl (fun db call => (client.exec db call).1) db

theorem run_moves (db : JournalDb) (calls : List JournalCall) :
    Run JournalStep db (moves db calls) (final db calls) := by
  induction calls generalizing db with
  | nil => exact Run.nil db
  | cons call rest ih => exact Run.cons JournalStep.call (ih _)

end JournalSample

/-- The invocation that returned is closed, and the two pages of its state show it. -/
theorem journal_discipline_sample :
    let stopped := JournalSample.final JournalSample.installed JournalSample.calls
    (∃ row ∈ stopped.invocations, row.returned = some .fulfilled ∧
      ∀ effect ∈ stopped.effects, effect.invocation = row.invocation → effect.settled ≠ none) ∧
    ∃ invocationPage effectPage,
      JournalSample.client.invocationsPage stopped "" 256 = some invocationPage ∧
      JournalSample.client.effectsPage stopped "" 256 = some effectPage ∧
      invocationPage.rows.invocationRows =
        Keyset.ordered JournalInvocation.invocation stopped.invocations.rows := by
  intro stopped
  have hreachable : JournalReachable stopped :=
    ⟨JournalSample.installed, _, ⟨rfl, rfl, rfl, rfl⟩, JournalSample.run_moves _ _⟩
  obtain ⟨_, hclosed, _, _, hsnapshot⟩ := journal_discipline hreachable (Run.nil stopped)
  constructor
  · have hrow : ∃ row ∈ stopped.invocations.rows, row.returned = some EntryOutcome.fulfilled := by
      decide +kernel
    obtain ⟨row, hmem, hreturned⟩ := hrow
    exact ⟨row, hmem, hreturned, (hclosed row hmem (by simp [hreturned])).1⟩
  · have hfirst : (JournalSample.client.invocationsPage stopped "" 256).map JournalPage.next =
        some none := by decide +kernel
    have hsecond : (JournalSample.client.effectsPage stopped "" 256).map JournalPage.next =
        some none := by decide +kernel
    obtain ⟨invocationPage, hinvocations, hnext⟩ := Option.map_eq_some_iff.mp hfirst
    obtain ⟨effectPage, heffects, hnext'⟩ := Option.map_eq_some_iff.mp hsecond
    refine ⟨invocationPage, effectPage, hinvocations, heffects, ?_⟩
    have hpages := hsnapshot stopped List.mem_cons_self [invocationPage] [effectPage]
      (JournalWalk.last ⟨stopped, List.mem_cons_self, JournalSample.client, hinvocations,
        congrArg JournalControl.revision (JournalClient.invocationsPage_rows hinvocations).1⟩
        hnext)
      (JournalWalk.last ⟨stopped, List.mem_cons_self, JournalSample.client, heffects,
        congrArg JournalControl.revision (JournalClient.effectsPage_rows heffects).1⟩ hnext')
    simpa using hpages.1

end FlickrGroupAddr
