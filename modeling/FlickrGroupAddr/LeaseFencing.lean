import FlickrGroupAddr.Coordination

/-!
# Lease fencing

Workers call under a database clock that never goes back.  A claim raises the
generation of its partition, every call that carries a lease needs the stored one,
and an expired lease never becomes usable again.
-/

namespace FlickrGroupAddr

set_option autoImplicit false

open KeyedTable Transition Relation

/-! ## The clock -/

namespace QueueCall

/-- The clock readings of a call, in the order of its statements. -/
def readings : QueueCall → List Us
  | .admitRequest _ _ _ _ now => [now.us]
  | .claim _ _ _ _ now => [now.us]
  | .renew _ _ now => [now.us]
  | .release _ => []
  | .defer _ _ guardNow updateNow => [guardNow.us, updateNow.us]
  | .begin _ _ guardNow updateNow => [guardNow.us, updateNow.us]
  | .record _ _ _ guardNow updateNow => [guardNow.us, updateNow.us]
  | .resolve _ _ _ _ _ _ clock =>
      [clock.block.us, clock.resolution.us, clock.intent.us, clock.probe.us, clock.gate.us]

/-- The lease a call carries. -/
def lease? : QueueCall → Option Lease
  | .admitRequest _ _ _ _ _ => none
  | .claim _ _ _ _ _ => none
  | .renew lease _ _ => some lease
  | .release lease => some lease
  | .defer lease _ _ _ => some lease
  | .begin lease _ _ _ => some lease
  | .record lease _ _ _ _ => some lease
  | .resolve lease _ _ _ _ _ _ => some lease

/-- The calls whose guard asks for a lease that is still live. -/
def needsLive : QueueCall → Bool
  | .renew _ _ _ => true
  | .defer _ _ _ _ => true
  | .begin _ _ _ _ => true
  | .record _ _ _ _ _ => true
  | _ => false

/-- The calls that settle the head of the leased partition. -/
def settles : QueueCall → Bool
  | .defer _ _ _ _ => true
  | .resolve _ _ _ _ _ _ _ => true
  | _ => false

/-- The call resolves the attempt. -/
def resolves (attemptId : Token) : QueueCall → Bool
  | .resolve _ other _ _ _ _ _ => other = attemptId
  | _ => false

end QueueCall

namespace QueueEvent

/-- The call an event is about, committed or not. -/
def call? : QueueEvent → Option QueueCall
  | .commit call => some call
  | .refuse call => some call
  | .outside => none

def readings : QueueEvent → List Us
  | .commit call => call.readings
  | .refuse _ => []
  | .outside => []

/-- A committed claim of the partition. -/
def claims (partitionId : Token) (event : QueueEvent) : Prop :=
  ∃ leaseId revision config now, event = .commit (.claim partitionId leaseId revision config now)

end QueueEvent

/-- The database and its clock. -/
structure Timed where
  db : Db
  now : Us

/-- An event whose clock readings do not go back. -/
structure TimedStep (s : Timed) (event : QueueEvent) (t : Timed) : Prop where
  step : QueueEventStep s.db event t.db
  clock : (s.now :: (event.readings ++ [t.now])).Pairwise (· ≤ ·)

def TimedReachable (s : Timed) : Prop := Reachable TimedStep (fun start => start.db = emptyDb) s

variable {s t : Timed} {event : QueueEvent}

theorem TimedStep.now_le (h : TimedStep s event t) : s.now ≤ t.now :=
  (List.pairwise_cons.mp h.clock).1 t.now (List.mem_append_right _ (List.mem_singleton_self _))

theorem TimedStep.reading_le (h : TimedStep s event t) {reading : Us}
    (hmem : reading ∈ event.readings) : s.now ≤ reading :=
  (List.pairwise_cons.mp h.clock).1 reading (List.mem_append_left _ hmem)

theorem TimedReachable.commit (h : TimedReachable s) {call : QueueCall} {db' : Db} {now : Us}
    (hexec : call.exec s.db = some db')
    (hclock : (s.now :: (call.readings ++ [now])).Pairwise (· ≤ ·)) : TimedReachable ⟨db', now⟩ :=
  Reachable.extend h ⟨QueueEventStep.commit hexec, hclock⟩

theorem TimedReachable.queueInvariant (h : TimedReachable s) : QueueInvariant s.db.queue := by
  have hinit : ∀ start : Timed, start.db = emptyDb → QueueInvariant start.db.queue := by
    intro start hstart
    rw [hstart]
    exact QueueInvariant.initially
  exact h.invariant hinit fun _ _ _ hinv hstep => hinv.steps hstep.step.steps

/-! ## What a call needs -/

variable {db db' : Db} {call : QueueCall} {lease : Lease}

/-- A call that carries a lease commits only if it is the stored one. -/
theorem QueueCall.exec_owns (h : call.exec db = some db') (hlease : call.lease? = some lease) :
    db.queue.owns lease := by
  cases call with
  | admitRequest => cases hlease
  | claim => cases hlease
  | renew =>
      cases hlease
      exact (renewLease_effect h).2.1
  | release =>
      cases hlease
      exact (releaseLease_effect h).1
  | defer =>
      cases hlease
      exact (deferHead_effect h).1
  | begin =>
      cases hlease
      exact (begin_effect h).1.1.1
  | record =>
      cases hlease
      exact (record_effect h).1.1.1
  | resolve =>
      cases hlease
      exact (resolveAttempt_effect h).1.1.1

/-- The live calls commit only if the lease is live at their guard. -/
theorem QueueCall.exec_live (h : call.exec db = some db') (hlease : call.lease? = some lease)
    (hneeds : call.needsLive = true) :
    ∃ reading ∈ call.readings, db.queue.live lease reading := by
  cases call with
  | admitRequest => cases hlease
  | claim => cases hlease
  | renew =>
      cases hlease
      exact ⟨_, List.mem_singleton_self _, (renewLease_effect h).2.2.1⟩
  | release => cases hneeds
  | defer =>
      cases hlease
      exact ⟨_, List.mem_cons_self, (deferHead_effect h).2.1⟩
  | begin =>
      cases hlease
      exact ⟨_, List.mem_cons_self, (begin_effect h).1.2.1⟩
  | record =>
      cases hlease
      exact ⟨_, List.mem_cons_self, (record_effect h).1.2.1⟩
  | resolve => cases hneeds

/-! ## Generations -/

/-- The stored generation of a partition; there is none before the partition. -/
def generationOf (q : QueueTables) (partitionId : Token) : Nat :=
  match q.partitions.find? partitionId with
  | none => 0
  | some partition => partition.leaseGeneration

/-- The lease columns of every partition are kept, and new partitions have none. -/
structure LeasesKept (q q' : QueueTables) : Prop where
  kept : ∀ k partition, q.partitions.find? k = some partition →
    ∃ partition', q'.partitions.find? k = some partition' ∧
      partition'.lease = partition.lease ∧
      partition'.leaseGeneration = partition.leaseGeneration
  fresh : ∀ k partition', q.partitions.find? k = none →
    q'.partitions.find? k = some partition' →
      partition'.lease = none ∧ partition'.leaseGeneration = 0

namespace LeasesKept

variable {q q' q'' : QueueTables}

theorem of_eq (h : q'.partitions = q.partitions) : LeasesKept q q' where
  kept k partition hfind := ⟨partition, by rw [h]; exact hfind, rfl, rfl⟩
  fresh k partition' hnone hfind := by
    rw [h, hnone] at hfind
    cases hfind

theorem trans (h : LeasesKept q q') (h' : LeasesKept q' q'') : LeasesKept q q'' where
  kept k partition hfind := by
    obtain ⟨middle, hmiddle, hlease, hgeneration⟩ := h.kept k partition hfind
    obtain ⟨last, hlast, hlease', hgeneration'⟩ := h'.kept k middle hmiddle
    exact ⟨last, hlast, hlease'.trans hlease, hgeneration'.trans hgeneration⟩
  fresh k partition' hnone hfind := by
    cases hmiddle : q'.partitions.find? k with
    | none => exact h'.fresh k partition' hmiddle hfind
    | some middle =>
        obtain ⟨last, hlast, hlease, hgeneration⟩ := h'.kept k middle hmiddle
        rw [hfind] at hlast
        cases hlast
        obtain ⟨hlease', hgeneration'⟩ := h.fresh k middle hnone hmiddle
        exact ⟨hlease.trans hlease', hgeneration.trans hgeneration'⟩

/-- A modification that leaves the lease columns out. -/
theorem of_modify {k : Token} {f : GroupPartition → GroupPartition}
    (hpartitions : ∀ k', q'.partitions.find? k' =
      if k' = k then (q.partitions.find? k').map f else q.partitions.find? k')
    (hlease : ∀ partition, (f partition).lease = partition.lease)
    (hgeneration : ∀ partition, (f partition).leaseGeneration = partition.leaseGeneration) :
    LeasesKept q q' where
  kept k' partition hfind := by
    rw [hpartitions, hfind]
    split
    · exact ⟨f partition, rfl, hlease partition, hgeneration partition⟩
    · exact ⟨partition, rfl, rfl, rfl⟩
  fresh k' partition' hnone hfind := by
    rw [hpartitions, hnone] at hfind
    split at hfind <;> cases hfind

end LeasesKept

theorem AdmissionStep.leasesKept {q q' : QueueTables} (h : AdmissionStep q q') :
    LeasesKept q q' := by
  cases h with
  | addPartition _ hinsert =>
      have hfind := Table.find?_insert? hinsert
      constructor
      · intro k partition hold
        refine ⟨partition, ?_, rfl, rfl⟩
        rw [hfind k, if_neg, hold]
        rintro rfl
        cases (Table.insert?_eq_some hinsert).1.symm.trans hold
      · intro k partition' hnone hnew
        rw [hfind k] at hnew
        split at hnew
        · cases hnew
          exact ⟨rfl, rfl⟩
        · cases hnone.symm.trans hnew
  | enqueue =>
      exact LeasesKept.of_modify (fun _ => Table.find?_modify_eq _ _ _ _) (fun _ => rfl)
        (fun _ => rfl)

/-- What a committed call did to the lease of a stored partition. -/
inductive LeaseChange (db : Db) (call : QueueCall) (partition partition' : GroupPartition) : Prop
  | claimed {leaseId : Token} {revision : Option Nat} {config : LeasePolicy}
      {now : ClockReading} :
      call = .claim partition.partitionId leaseId revision config now →
      leaseFree partition now.us →
      partition'.leaseGeneration = partition.leaseGeneration + 1 →
      partition'.lease = some (claimColumns leaseId config now.us) →
      LeaseChange db call partition partition'
  | renewed {lease : Lease} {config : LeasePolicy} {now : ClockReading} {expiresAtUs : Us} :
      call = .renew lease config now → db.queue.owns lease → db.queue.live lease now.us →
      lease.partitionId = partition.partitionId →
      partition'.leaseGeneration = partition.leaseGeneration →
      partition'.lease = partition.lease.map (fun columns =>
        { columns with expiresAtUs := expiresAtUs }) →
      LeaseChange db call partition partition'
  | dropped :
      partition'.leaseGeneration = partition.leaseGeneration → partition'.lease = none →
      LeaseChange db call partition partition'
  | kept :
      partition'.leaseGeneration = partition.leaseGeneration →
      partition'.lease = partition.lease → LeaseChange db call partition partition'

theorem AdmissionStep.leasesKept_steps {q q' : QueueTables}
    (h : ReflTransGen AdmissionStep q q') : LeasesKept q q' := by
  induction h with
  | refl => exact LeasesKept.of_eq rfl
  | tail _ hlast ih => exact ih.trans hlast.leasesKept

/-- A committed call keeps all leases or changes the row of one partition. -/
theorem QueueCall.leases (h : call.exec db = some db') :
    LeasesKept db.queue db'.queue ∨ ∃ (partitionId : Token) (f : GroupPartition → GroupPartition),
      (∀ k, db'.queue.partitions.find? k = if k = partitionId then
        (db.queue.partitions.find? k).map f else db.queue.partitions.find? k) ∧
      ∀ partition, db.queue.partitions.find? partitionId = some partition →
        LeaseChange db call partition (f partition) := by
  cases call with
  | admitRequest =>
      left
      obtain ⟨_, hadmission, rfl⟩ := Option.map_eq_some_iff.mp h
      exact AdmissionStep.leasesKept_steps (admitRequest_steps hadmission).1
  | claim =>
      right
      obtain ⟨_, hclaim, rfl⟩ := Option.map_eq_some_iff.mp h
      obtain ⟨hdb, stored, head, heffect⟩ := claimPartition_effect hclaim
      rw [hdb]
      refine ⟨_, _, fun _ => Table.find?_modify_eq _ _ _ _, fun partition hfind => ?_⟩
      cases heffect.stored.symm.trans hfind
      have hkey := Table.key_of_find? hfind
      subst hkey
      exact LeaseChange.claimed rfl heffect.free rfl rfl
  | renew =>
      right
      obtain ⟨_, howns, hlive, rfl⟩ := renewLease_effect h
      refine ⟨_, _, fun _ => Table.find?_modify_eq _ _ _ _, fun partition hfind => ?_⟩
      exact LeaseChange.renewed rfl howns hlive (Table.key_of_find? hfind).symm rfl rfl
  | release =>
      right
      obtain ⟨_, rfl⟩ := releaseLease_effect h
      exact ⟨_, _, fun _ => Table.find?_modify_eq _ _ _ _,
        fun partition _ => LeaseChange.dropped rfl rfl⟩
  | defer =>
      right
      obtain ⟨_, _, _, rfl⟩ := deferHead_effect h
      exact ⟨_, _, fun _ => Table.find?_modify_eq _ _ _ _,
        fun partition _ => LeaseChange.dropped rfl rfl⟩
  | begin =>
      left
      obtain ⟨hguard, _, _, _, hwrite, rfl⟩ := begin_effect h
      obtain ⟨_, _, _, _, _, hpartitions, _⟩ := beginAttempt_headUpdate hguard.1 hwrite
      exact LeasesKept.of_eq hpartitions
  | record =>
      left
      obtain ⟨hguard, _, hwrite, rfl⟩ := record_effect h
      exact LeasesKept.of_eq (recordPhase_intents hguard.1 hwrite).1.1
  | resolve =>
      right
      obtain ⟨hguard, _, _, _, _, hwrite, rfl⟩ := resolveAttempt_effect h
      exact ⟨_, _, (QueueTables.resolve_effect hwrite).partitions,
        fun partition _ => LeaseChange.dropped (by simp only [settledPartition, probedPartition]; split <;> rfl) rfl⟩

theorem QueueCall.leaseChange (h : call.exec db = some db') {k : Token}
    {partition : GroupPartition} (hfind : db.queue.partitions.find? k = some partition) :
    ∃ partition', db'.queue.partitions.find? k = some partition' ∧
      LeaseChange db call partition partition' := by
  rcases QueueCall.leases h with hkept | ⟨partitionId, f, hpartitions, hchange⟩
  · obtain ⟨partition', hfind', hlease, hgeneration⟩ := hkept.kept k partition hfind
    exact ⟨partition', hfind', LeaseChange.kept hgeneration hlease⟩
  · rw [hpartitions, hfind]
    by_cases hk : k = partitionId
    · subst hk
      rw [if_pos rfl]
      exact ⟨f partition, rfl, hchange partition hfind⟩
    · rw [if_neg hk]
      exact ⟨partition, rfl, LeaseChange.kept rfl rfl⟩

/-- A partition that was not there comes without a lease. -/
theorem QueueCall.lease_fresh (h : call.exec db = some db') {k : Token}
    {partition' : GroupPartition} (hnone : db.queue.partitions.find? k = none)
    (hfind : db'.queue.partitions.find? k = some partition') :
    partition'.lease = none ∧ partition'.leaseGeneration = 0 := by
  rcases QueueCall.leases h with hkept | ⟨partitionId, f, hpartitions, _⟩
  · exact hkept.fresh k partition' hnone hfind
  · rw [hpartitions, hnone] at hfind
    split at hfind <;> cases hfind

theorem generationOf_eq {q : QueueTables} {k : Token} {partition : GroupPartition}
    (hfind : q.partitions.find? k = some partition) :
    generationOf q k = partition.leaseGeneration := by
  rw [generationOf, hfind]

theorem QueueTables.owns.generation {q : QueueTables} (h : q.owns lease) :
    generationOf q lease.partitionId = lease.generation := by
  obtain ⟨partition, hfind, _, hgeneration⟩ := h
  exact (generationOf_eq hfind).trans hgeneration

/-- Only a claim moves a generation, and it moves it up by one. -/
theorem QueueEventStep.generation (h : QueueEventStep db event db') (k : Token) :
    (event.claims k ∧ generationOf db'.queue k = generationOf db.queue k + 1) ∨
      generationOf db'.queue k = generationOf db.queue k := by
  cases h with
  | refuse => exact Or.inr rfl
  | outside hsame =>
      right
      rw [hsame]
  | commit hexec =>
      cases hfind : db.queue.partitions.find? k with
      | none =>
          right
          unfold generationOf
          cases hfind' : db'.queue.partitions.find? k with
          | none => rw [hfind]
          | some partition' =>
              rw [hfind]
              exact (QueueCall.lease_fresh hexec hfind hfind').2
      | some partition =>
          obtain ⟨partition', hfind', hchange⟩ := QueueCall.leaseChange hexec hfind
          rw [generationOf_eq hfind, generationOf_eq hfind']
          have hkey := Table.key_of_find? hfind
          cases hchange with
          | claimed hcall _ hgeneration _ =>
              subst hkey
              exact Or.inl ⟨⟨_, _, _, _, congrArg QueueEvent.commit hcall⟩, hgeneration⟩
          | renewed _ _ _ _ hgeneration _ => exact Or.inr hgeneration
          | dropped hgeneration _ => exact Or.inr hgeneration
          | kept hgeneration _ => exact Or.inr hgeneration

theorem QueueEventStep.generation_claims (h : QueueEventStep db event db') {k : Token}
    (hclaims : event.claims k) : generationOf db'.queue k = generationOf db.queue k + 1 := by
  obtain ⟨leaseId, revision, config, now, rfl⟩ := hclaims
  cases h with
  | commit hexec =>
      obtain ⟨_, hclaim, rfl⟩ := Option.map_eq_some_iff.mp hexec
      obtain ⟨hdb, partition, head, heffect⟩ := claimPartition_effect hclaim
      simp only [hdb, generationOf, QueueTables.takeLease, Table.find?_modify, if_pos,
        heffect.stored, Option.map_some]

/-! ## Runs -/

variable {trace : List (Move Timed QueueEvent)}

theorem generationOf_le_of_run (hrun : Run TimedStep s trace t) (k : Token) :
    generationOf s.db.queue k ≤ generationOf t.db.queue k := by
  induction hrun with
  | nil => exact le_refl _
  | snoc _ hlast ih =>
      rcases hlast.step.generation k with ⟨_, hgeneration⟩ | hgeneration <;> omega

/-- A run with a claim in it ends in a later generation. -/
theorem generationOf_lt_of_claim (hrun : Run TimedStep s trace t) {k : Token}
    {move : Move Timed QueueEvent} (hmem : move ∈ trace) (hclaims : move.label.claims k) :
    generationOf s.db.queue k < generationOf t.db.queue k := by
  obtain ⟨front, back, rfl⟩ := List.append_of_mem hmem
  obtain ⟨hfront, hstep, hback⟩ := hrun.around
  have hbefore := generationOf_le_of_run hfront k
  have hafter := generationOf_le_of_run hback k
  have hclaim := hstep.step.generation_claims hclaims
  omega

theorem QueueTables.live.mono {q : QueueTables} {now earlier : Us} (h : q.live lease now)
    (hle : earlier ≤ now) : q.live lease earlier := by
  obtain ⟨partition, hfind, columns, hcolumns, hexpires, hdeadline⟩ := h
  exact ⟨partition, hfind, columns, hcolumns, hle.trans_lt hexpires, hle.trans_lt hdeadline⟩

/-- A lease that is live after an event was already live before it, unless a claim
just returned it. -/
theorem QueueEventStep.live_back (h : QueueEventStep db event db') {now later : Us}
    (hreadings : ∀ reading ∈ event.readings, now ≤ reading) (hle : now ≤ later)
    (hissued : lease.generation ≤ generationOf db.queue lease.partitionId)
    (howns : db'.queue.owns lease) (hlive : db'.queue.live lease later) :
    db.queue.owns lease ∧ db.queue.live lease now := by
  cases h with
  | refuse => exact ⟨howns, hlive.mono hle⟩
  | outside hsame => exact hsame ▸ ⟨howns, hlive.mono hle⟩
  | commit hexec =>
      obtain ⟨partition', hfind', ⟨columns', hcolumns', hid⟩, hgeneration⟩ := howns
      obtain ⟨_, hlivePartition, columns, hcolumns, hexpires, hdeadline⟩ := hlive
      cases hlivePartition.symm.trans hfind'
      cases hcolumns.symm.trans hcolumns'
      cases hfind : db.queue.partitions.find? lease.partitionId with
      | none =>
          have hnone := (QueueCall.lease_fresh hexec hfind hfind').1
          cases hnone.symm.trans hcolumns
      | some partition =>
          obtain ⟨_, hsame, hchange⟩ := QueueCall.leaseChange hexec hfind
          cases hsame.symm.trans hfind'
          rw [generationOf_eq hfind] at hissued
          cases hchange with
          | claimed _ _ hraised _ => omega
          | dropped _ hnone => cases hnone.symm.trans hcolumns
          | kept hkept hlease =>
              rw [hlease] at hcolumns
              exact ⟨⟨partition, hfind, ⟨columns', hcolumns, hid⟩, hkept.symm.trans hgeneration⟩,
                ⟨partition, hfind, columns', hcolumns, hle.trans_lt hexpires,
                  hle.trans_lt hdeadline⟩⟩
          | renewed hcall _ hlive hpartition hkept hlease =>
              rw [hlease] at hcolumns
              obtain ⟨old, hold, rfl⟩ := Option.map_eq_some_iff.mp hcolumns
              subst hcall
              obtain ⟨_, hstored, live, hliveColumns, hlives⟩ :=
                hlive.mono (hreadings _ (List.mem_singleton_self _))
              rw [hpartition, Table.key_of_find? hfind] at hstored
              cases hstored.symm.trans hfind
              cases hliveColumns.symm.trans hold
              exact ⟨⟨partition, hfind, ⟨old, hold, hid⟩, hkept.symm.trans hgeneration⟩,
                ⟨partition, hfind, old, hold, hlives⟩⟩

/-- The lease is the stored one and neither it nor its invocation has expired. -/
def usable (s : Timed) (lease : Lease) : Prop :=
  s.db.queue.owns lease ∧ s.db.queue.live lease s.now

/-- A lease that was issued and is no longer usable never becomes usable again. -/
theorem usable_back_of_run (hrun : Run TimedStep s trace t)
    (hissued : lease.generation ≤ generationOf s.db.queue lease.partitionId)
    (husable : usable t lease) : usable s lease := by
  induction hrun with
  | nil => exact husable
  | snoc hfront hlast ih =>
      refine ih (hlast.step.live_back (fun _ => hlast.reading_le) hlast.now_le ?_
        husable.1 husable.2)
      exact hissued.trans (generationOf_le_of_run hfront _)

/-! ## Resolutions and heads -/

/-- Resolutions are only added. -/
theorem QueueStep.unresolved_back {q q' : QueueTables} (h : QueueStep q q') {attemptId : Token}
    (hunresolved : q'.unresolved attemptId) : q.unresolved attemptId := by
  cases h with
  | admission hinsert => cases hinsert <;> exact hunresolved
  | claim => exact hunresolved
  | renew => exact hunresolved
  | release => exact hunresolved
  | defer => exact hunresolved
  | begin howns _ _ _ _ hwrite =>
      obtain ⟨_, _, _, _, hresolutions, _⟩ := beginAttempt_headUpdate howns hwrite
      simpa only [QueueTables.unresolved, hresolutions] using hunresolved
  | record howns _ _ hwrite =>
      have hresolutions := (recordPhase_intents howns hwrite).1.2.2.1
      simpa only [QueueTables.unresolved, hresolutions] using hunresolved
  | resolve _ hwrite =>
      have hfind := Table.find?_insert? (QueueTables.resolve_effect hwrite).resolutions attemptId
      rw [QueueTables.unresolved, hfind] at hunresolved
      split at hunresolved
      · cases hunresolved
      · exact hunresolved

theorem unresolved_back_of_steps {q q' : QueueTables} (h : ReflTransGen QueueStep q q')
    {attemptId : Token} (hunresolved : q'.unresolved attemptId) : q.unresolved attemptId := by
  induction h with
  | refl => exact hunresolved
  | tail _ hlast ih => exact ih (hlast.unresolved_back hunresolved)

theorem QueueCall.resolves_resolved (h : call.exec db = some db') {attemptId : Token}
    (hresolves : call.resolves attemptId = true) : ¬ db'.queue.unresolved attemptId := by
  cases call with
  | resolve _ other =>
      obtain ⟨_, _, _, _, _, hwrite, rfl⟩ := resolveAttempt_effect h
      obtain rfl : other = attemptId := by simpa [QueueCall.resolves] using hresolves
      rw [QueueTables.unresolved,
        Table.find?_insert? (QueueTables.resolve_effect hwrite).resolutions, if_pos rfl]
      exact Option.some_ne_none _
  | _ => cases hresolves

/-- An admission keeps the heads there are. -/
theorem AdmissionStep.head_kept {q q' : QueueTables} (hq : QueueInvariant q)
    (hsteps : ReflTransGen AdmissionStep q q') {k : Token} {head : SubmissionIntent}
    (hhead : q.headIntent k = some head) : q'.headIntent k = some head := by
  induction hsteps with
  | refl => exact hhead
  | @tail middle last hfront hlast ih =>
      have hmiddle : QueueInvariant middle :=
        hq.steps (ReflTransGen.mono (fun _ _ => QueueStep.admission) _ _ hfront)
      have hunique := (hmiddle.layout.step (QueueStep.admission hlast)).ordinals
      cases hlast with
      | addPartition => exact ih
      | enqueue _ hpartition _ hinsert =>
          obtain ⟨new, htail⟩ : ∃ new, TailInsert middle _ new :=
            ⟨_, (hmiddle.layout.enqueue_effect hpartition hinsert).tail⟩
          by_cases hk : k = new.partitionId
          · rw [hk] at ih ⊢
            exact htail.headIntent_of_some hunique ih
          · rw [htail.headIntent_of_ne hunique hk]
            exact ih

/-- A step that rewrites the head of the leased partition, and keeps it active,
keeps which intent is the head of every partition. -/
theorem HeadUpdate.head_kept {q q' : QueueTables} {partitionId : Token}
    {head head' : SubmissionIntent} (hu : HeadUpdate q q' partitionId head head')
    (hunique : q'.OrdinalsUnique) (hactive : head'.state.active = true) {k : Token}
    {top : SubmissionIntent} (htop : q.headIntent k = some top) :
    q'.headIntent k = some top ∨
      k = partitionId ∧ ∃ top', q'.headIntent k = some top' ∧ top'.intentId = top.intentId := by
  by_cases hk : k = partitionId
  · subst hk
    cases htop.symm.trans hu.wasHead
    exact Or.inr ⟨rfl, head', hu.headIntent_of_active hunique hactive, hu.intentId⟩
  · rw [hu.headIntent_of_ne hunique hk]
    exact Or.inl htop

/-- A committed call keeps the head row, or carries the lease of its partition and
keeps which intent is the head unless it settles it. -/
theorem QueueCall.head_kept (hq : QueueInvariant db.queue) (h : call.exec db = some db')
    {k : Token} {head : SubmissionIntent} (hhead : db.queue.headIntent k = some head) :
    db'.queue.headIntent k = some head ∨
    ∃ lease, call.lease? = some lease ∧ db.queue.owns lease ∧ k = lease.partitionId ∧
      (call.settles = true ∨ ∃ head', db'.queue.headIntent k = some head' ∧
        head'.intentId = head.intentId) := by
  have hunique := (hq.steps (QueueCall.steps h)).layout.ordinals
  cases call with
  | admitRequest =>
      obtain ⟨_, hadmission, rfl⟩ := Option.map_eq_some_iff.mp h
      exact Or.inl (AdmissionStep.head_kept hq (admitRequest_steps hadmission).1 hhead)
  | claim =>
      obtain ⟨_, hclaim, rfl⟩ := Option.map_eq_some_iff.mp h
      rw [(claimPartition_effect hclaim).1]
      exact Or.inl hhead
  | renew =>
      obtain ⟨_, _, _, rfl⟩ := renewLease_effect h
      exact Or.inl hhead
  | release =>
      obtain ⟨_, rfl⟩ := releaseLease_effect h
      exact Or.inl hhead
  | defer lease =>
      obtain ⟨howns, _, hdeferrable, rfl⟩ := deferHead_effect h
      obtain ⟨_, hu, _⟩ := deferTo_headUpdate hdeferrable _ _
      rcases hu.head_kept hunique rfl hhead with hkept | ⟨hk, hsame⟩
      · exact Or.inl hkept
      · exact Or.inr ⟨lease, rfl, howns, hk, Or.inr hsame⟩
  | begin lease =>
      obtain ⟨hguard, _, _, _, hwrite, rfl⟩ := begin_effect h
      obtain ⟨_, hu, _⟩ := beginAttempt_headUpdate hguard.1 hwrite
      rcases hu.head_kept hunique rfl hhead with hkept | ⟨hk, hsame⟩
      · exact Or.inl hkept
      · exact Or.inr ⟨lease, rfl, hguard.1.1, hk, Or.inr hsame⟩
  | record lease =>
      obtain ⟨hguard, _, hwrite, rfl⟩ := record_effect h
      obtain ⟨_, hintents | ⟨_, hu⟩⟩ := recordPhase_intents hguard.1 hwrite
      · left
        exact (QueueTables.headIntent_congr hintents k).trans hhead
      · rcases hu.head_kept hunique hu.isHead.active hhead with hkept | ⟨hk, hsame⟩
        · exact Or.inl hkept
        · exact Or.inr ⟨lease, rfl, hguard.1.1, hk, Or.inr hsame⟩
  | resolve lease =>
      obtain ⟨hguard, _, _, _, _, hwrite, rfl⟩ := resolveAttempt_effect h
      obtain ⟨_, hu, _⟩ := (QueueTables.resolve_effect hwrite).headUpdate hguard.1
      by_cases hk : k = lease.partitionId
      · exact Or.inr ⟨lease, rfl, hguard.1.1, hk, Or.inl rfl⟩
      · rw [hu.headIntent_of_ne hunique hk]
        exact Or.inl hhead

/-- A partition with a stored lease has a head. -/
theorem DueAgreement.head_of_lease {q : QueueTables} (h : DueAgreement q) {k : Token}
    {partition : GroupPartition} (hfind : q.partitions.find? k = some partition)
    (hlease : partition.lease.isSome = true) : ∃ head, q.headIntent k = some head := by
  obtain ⟨columns, hcolumns⟩ := Option.isSome_iff_exists.mp hlease
  obtain ⟨due, hdue, _⟩ := h.leaseDue k partition hfind columns hcolumns
  exact Option.isSome_iff_exists.mp (dueAgrees_of_isSome (h.due k partition hfind) hdue)

/-! ## Fencing -/

/-- Later claims have later generations. -/
theorem generationOf_lt_of_claims {front middle back : List (Move Timed QueueEvent)}
    {first second : Move Timed QueueEvent} {k : Token}
    (hrun : Run TimedStep s (front ++ first :: middle ++ second :: back) t)
    (hsecond : second.label.claims k) :
    generationOf first.dst.db.queue k < generationOf second.dst.db.queue k := by
  obtain ⟨hbefore, hstep, _⟩ := hrun.around
  obtain ⟨_, _, hmiddle⟩ := hbefore.around
  exact generationOf_lt_of_claim (hmiddle.snoc hstep) (List.mem_append_right _
    (List.mem_singleton_self second)) hsecond

theorem QueueEventStep.exec_of_commit (h : QueueEventStep db (.commit call) db') :
    call.exec db = some db' := by
  cases h with
  | commit hexec => exact hexec

/-- An event about a call either changes nothing or commits the call. -/
theorem QueueEventStep.of_call (h : QueueEventStep db event db') (hcall : event.call? = some call) :
    db' = db ∨ event = .commit call ∧ call.exec db = some db' := by
  cases h with
  | commit hexec =>
      cases hcall
      exact Or.inr ⟨rfl, hexec⟩
  | refuse => exact Or.inl rfl
  | outside => cases hcall

theorem TimedStep.unowned_unchanged (h : TimedStep s event t) (hcall : event.call? = some call)
    (hlease : call.lease? = some lease) (howns : ¬ s.db.queue.owns lease) : t.db = s.db := by
  refine (h.step.of_call hcall).resolve_right ?_
  rintro ⟨_, hexec⟩
  exact howns (QueueCall.exec_owns hexec hlease)

theorem TimedStep.expired_unchanged (h : TimedStep s event t) (hcall : event.call? = some call)
    (hlease : call.lease? = some lease) (hneeds : call.needsLive = true)
    (hexpired : ¬ usable s lease) : t.db = s.db := by
  refine (h.step.of_call hcall).resolve_right ?_
  rintro ⟨rfl, hexec⟩
  obtain ⟨reading, hreading, hlive⟩ := QueueCall.exec_live hexec hlease hneeds
  exact hexpired ⟨QueueCall.exec_owns hexec hlease, hlive.mono (h.reading_le hreading)⟩

/-- A resolution commits only while its attempt is unresolved. -/
theorem QueueCall.exec_unresolved (h : call.exec db = some db') {attemptId : Token}
    (hresolves : call.resolves attemptId = true) : db.queue.unresolved attemptId := by
  cases call with
  | resolve _ other =>
      obtain rfl : other = attemptId := by simpa [QueueCall.resolves] using hresolves
      exact (resolveAttempt_effect h).1.2.2
  | _ => cases hresolves

theorem steps_of_run (hrun : Run TimedStep s trace t) :
    ReflTransGen QueueStep s.db.queue t.db.queue := by
  induction hrun with
  | nil => exact ReflTransGen.refl
  | snoc _ hlast ih => exact ih.trans hlast.step.steps

/-- No earlier move of a run resolved an attempt that is unresolved at its end. -/
theorem not_resolved_in_run (hrun : Run TimedStep s trace t) {attemptId : Token}
    (hunresolved : t.db.queue.unresolved attemptId) {move : Move Timed QueueEvent}
    (hmem : move ∈ trace) {earlier : QueueCall} (hlabel : move.label = .commit earlier) :
    earlier.resolves attemptId = false := by
  obtain ⟨front, back, rfl⟩ := List.append_of_mem hmem
  obtain ⟨_, hstep, hback⟩ := hrun.around
  have hstill := unresolved_back_of_steps (steps_of_run hback) hunresolved
  have hcommit := hstep.step
  rw [hlabel] at hcommit
  by_contra hresolves
  cases hcommit with
  | commit hexec =>
      exact QueueCall.resolves_resolved hexec (Bool.eq_true_of_not_eq_false hresolves) hstill

/-- An event changes the head row of a leased partition only by a call that carries
the lease. -/
theorem QueueEventStep.head_cases (hq : QueueInvariant db.queue) (h : QueueEventStep db event db')
    {k : Token} {partition : GroupPartition}
    (hfind : db.queue.partitions.find? k = some partition)
    (hlease : partition.lease.isSome = true) :
    db'.queue.headIntent k = db.queue.headIntent k ∨
    ∃ call lease, event = .commit call ∧ call.lease? = some lease ∧ db.queue.owns lease ∧
      lease.partitionId = k ∧ (call.settles = true ∨
        (db'.queue.headIntent k).map SubmissionIntent.intentId =
          (db.queue.headIntent k).map SubmissionIntent.intentId) := by
  cases h with
  | refuse => exact Or.inl rfl
  | outside hsame =>
      left
      rw [hsame]
  | @commit _ call hexec =>
      obtain ⟨head, hhead⟩ := hq.due.head_of_lease hfind hlease
      rcases QueueCall.head_kept hq hexec hhead with hkept | ⟨lease, hcall, howns, hk, hsame⟩
      · exact Or.inl (hkept.trans hhead.symm)
      · refine Or.inr ⟨call, lease, rfl, hcall, howns, hk.symm, ?_⟩
        rcases hsame with hsettles | ⟨head', hhead', hid⟩
        · exact Or.inl hsettles
        · right
          rw [hhead', hhead, Option.map_some, Option.map_some, hid]

/-- From any reachable state, whatever the workers do: claims get strictly growing
generations; a call without the stored lease changes nothing, and neither does a
live call once the lease stopped being usable; a resolution finds its attempt
unresolved and no claim since; a stored lease pins the head to the calls that carry
it. -/
theorem lease_fencing (s : Timed) (hs : TimedReachable s) :
    (∀ front first middle second back t k,
      Run TimedStep s (front ++ first :: middle ++ second :: back) t →
      first.label.claims k → second.label.claims k →
      generationOf first.dst.db.queue k < generationOf second.dst.db.queue k) ∧
    (∀ event t call lease, TimedStep s event t → event.call? = some call →
      call.lease? = some lease → ¬ s.db.queue.owns lease → t.db = s.db) ∧
    (∀ trace t event u call lease, Run TimedStep s trace t → TimedStep t event u →
      event.call? = some call → call.lease? = some lease → call.needsLive = true →
      lease.generation ≤ generationOf s.db.queue lease.partitionId → ¬ usable s lease →
      u.db = t.db) ∧
    (∀ trace t call u lease attemptId, Run TimedStep s trace t →
      TimedStep t (.commit call) u → call.lease? = some lease → call.resolves attemptId = true →
      t.db.queue.owns lease ∧ t.db.queue.unresolved attemptId ∧
      (s.db.queue.owns lease → ∀ move ∈ trace, ¬ move.label.claims lease.partitionId) ∧
      ∀ move ∈ trace, ∀ earlier, move.label = .commit earlier →
        earlier.resolves attemptId = false) ∧
    (∀ event t k partition, TimedStep s event t →
      s.db.queue.partitions.find? k = some partition → partition.lease.isSome = true →
      (t.db.queue.headIntent k ≠ s.db.queue.headIntent k →
        ∃ call lease, event = .commit call ∧ call.lease? = some lease ∧
          s.db.queue.owns lease ∧ lease.partitionId = k) ∧
      ((t.db.queue.headIntent k).map SubmissionIntent.intentId ≠
          (s.db.queue.headIntent k).map SubmissionIntent.intentId →
        ∃ call lease, event = .commit call ∧ call.lease? = some lease ∧
          s.db.queue.owns lease ∧ lease.partitionId = k ∧ call.settles = true)) := by
  refine ⟨?_, ?_, ?_, ?_, ?_⟩
  · intro front first middle second back t k hrun _ hsecond
    exact generationOf_lt_of_claims hrun hsecond
  · intro event t call lease hstep hcall hlease howns
    exact hstep.unowned_unchanged hcall hlease howns
  · intro trace t event u call lease hrun hstep hcall hlease hneeds hissued hexpired
    refine hstep.expired_unchanged hcall hlease hneeds fun husable => ?_
    exact hexpired (usable_back_of_run hrun hissued husable)
  · intro trace t call u lease attemptId hrun hstep hlease hresolves
    have hexec := hstep.step.exec_of_commit
    have howns := QueueCall.exec_owns hexec hlease
    have hunresolved := QueueCall.exec_unresolved hexec hresolves
    refine ⟨howns, hunresolved, fun hstart move hmem hclaims => ?_, fun move hmem earlier hlabel =>
      not_resolved_in_run hrun hunresolved hmem hlabel⟩
    have hlater := generationOf_lt_of_claim hrun hmem hclaims
    rw [howns.generation, hstart.generation] at hlater
    exact lt_irrefl _ hlater
  · intro event t k partition hstep hfind hlease
    rcases hstep.step.head_cases hs.queueInvariant hfind hlease with
      hsame | ⟨call, lease, hevent, hcall, howns, hk, hsettles⟩
    · exact ⟨fun hne => absurd hsame hne, fun hne => absurd (congrArg _ hsame) hne⟩
    · refine ⟨fun _ => ⟨call, lease, hevent, hcall, howns, hk⟩, fun hne => ?_⟩
      exact ⟨call, lease, hevent, hcall, howns, hk, hsettles.resolve_right hne⟩

/-- A minute after its claim a lease is stored but not usable: its holder can begin
nothing. -/
theorem lease_fencing_expired : ∃ s, TimedReachable s ∧ s.db.queue.owns Sample.lease ∧
    ¬ usable s Sample.lease ∧ ∀ attemptId guardNow updateNow t,
      TimedStep s (.commit (.begin Sample.lease attemptId guardNow updateNow)) t →
      t.db = s.db := by
  have hstart : TimedReachable ⟨Sample.db, 0⟩ :=
    ⟨⟨emptyDb, 0⟩, [⟨⟨emptyDb, 0⟩, .outside, ⟨Sample.db, 0⟩⟩], rfl,
      Run.single ⟨QueueEventStep.outside rfl, by decide⟩⟩
  have hclaimed : ∀ db ∈ execAll QueueCall.exec Sample.db Sample.claimed,
      db.queue.owns Sample.lease ∧ ¬ db.queue.live Sample.lease 60000005 ∧
        Sample.lease.generation ≤ generationOf db.queue Sample.lease.partitionId := by
    decide +kernel
  have hrun : (execAll QueueCall.exec Sample.db Sample.claimed).isSome = true := by decide +kernel
  obtain ⟨db, hdb⟩ := Option.isSome_iff_exists.mp hrun
  obtain ⟨howns, hexpired, hissued⟩ := hclaimed db hdb
  obtain ⟨middle, hfirst, hrest⟩ := Option.bind_eq_some_iff.mp hdb
  obtain ⟨last, hsecond, hlast⟩ := Option.bind_eq_some_iff.mp hrest
  cases hlast
  have hadmitted : TimedReachable ⟨middle, 1⟩ := hstart.commit hfirst (by decide)
  have hclock : ([1, 5, 60000005] : List Us).Pairwise (· ≤ ·) := by decide
  have hs : TimedReachable ⟨db, 60000005⟩ := hadmitted.commit hsecond hclock
  refine ⟨⟨db, 60000005⟩, hs, howns, fun husable => hexpired husable.2, ?_⟩
  intro attemptId guardNow updateNow t hstep
  exact (lease_fencing ⟨db, 60000005⟩ hs).2.2.1 [] _ _ t _ _ (Run.nil _) hstep rfl rfl rfl hissued
    fun husable => hexpired husable.2

end FlickrGroupAddr
