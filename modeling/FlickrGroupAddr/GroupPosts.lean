import FlickrGroupAddr.DispatchOrder

/-!
# At most one post

The hand-off is the POST of `flickr.groups.pools.add`.  Whatever invocations stop, lose answers
or run beside each other, an attempt is handed off at most once, its resolution says what
became of the hand-off, and a photo is posted to its group again only after Flickr refused the
earlier post for now.
-/

namespace FlickrGroupAddr

set_option autoImplicit false

open KeyedTable Program Workers Transition Handoff

variable {ι : Type}

/-! ## What grants a begin and a hand-off -/

namespace DispatchOp

/-- The attempt that a begin answers. -/
def began? : (o : DispatchOp) → o.Answer → Option Token
  | .begin _, .ok current => some current.attemptId
  | _, _ => none

/-- The attempt that is handed off. -/
def posts? : DispatchOp → Option Token
  | .handoff current => some current.attemptId
  | _ => none

/-- The lease that a claim answers. -/
def claimed? : (o : DispatchOp) → o.Answer → Option (Token × Nat)
  | .claim _ _ _, .ok (some lease) => some (lease.partitionId, lease.generation)
  | _, _ => none

/-- The lease that a begin uses up. -/
def begins? : DispatchOp → Option (Token × Nat)
  | .begin lease => some (lease.partitionId, lease.generation)
  | _ => none

end DispatchOp

/-- The attempt has a row. -/
def attemptBegun (s : DispatchStore) (attemptId : Token) : Prop :=
  s.db.queue.attempts.find? attemptId ≠ none

/-- The lease was claimed. -/
def leaseClaimed (s : DispatchStore) (lease : Token × Nat) : Prop :=
  lease.2 ≤ generationOf s.db.queue lease.1

section Steps

variable {s s' : DispatchStore}

theorem attemptBegun.step {event : QueueEvent} (hstep : QueueEventStep s.db event s'.db)
    {attemptId : Token} (h : attemptBegun s attemptId) : attemptBegun s' attemptId := by
  obtain ⟨row, hrow⟩ := Option.ne_none_iff_exists'.mp h
  have hkept := hstep.attemptMove.rowsKept.attempt _ _ hrow
  exact Option.ne_none_iff_exists'.mpr ⟨row, hkept⟩

theorem leaseClaimed.step {event : QueueEvent} (hstep : QueueEventStep s.db event s'.db)
    {lease : Token × Nat} (h : leaseClaimed s lease) : leaseClaimed s' lease :=
  h.trans (hstep.generation_le lease.1)

/-- What a claim answered: the next generation, of a head of its partition. -/
theorem DispatchOp.serve.claimed {partitionId : Token} {revision : Option Nat}
    {policy : LeasePolicy} {lease : Lease}
    (h : (DispatchOp.claim partitionId revision policy).serve s (.ok (some lease)) s') :
    lease.generation = generationOf s.db.queue lease.partitionId + 1 ∧
      lease.generation = generationOf s'.db.queue lease.partitionId ∧
      ∃ intent ∈ s'.db.queue.intents.find? lease.headId,
        intent.partitionId = lease.partitionId := by
  obtain ⟨db', ⟨hnone, _⟩ | hclaim, rfl⟩ := h
  · cases hnone
  · obtain ⟨lease', leaseId, now, hlease, hclaim⟩ := hclaim
    cases hlease
    obtain ⟨hdb, partition, head, heffect⟩ := claimPartition_effect hclaim
    have hpartition := heffect.returned
    subst hpartition
    have hkey := Table.key_of_find? heffect.stored
    have hhead := QueueTables.isHead_of_headIntent heffect.atHead
    refine ⟨by rw [generationOf_eq heffect.stored], ?_, head, ?_, hhead.partition⟩
    · simp only [hdb, generationOf, QueueTables.takeLease, Table.find?_modify, if_pos,
        heffect.stored, Option.map_some]
    · simp only [hdb, QueueTables.takeLease]
      exact Table.find?_of_mem hhead.mem

/-- What a begin answered. -/
theorem DispatchOp.serve.begun {lease : Lease} {current : Attempt}
    (h : (DispatchOp.begin lease).serve s (.ok current) s') :
    s.db.queue.attempts.find? current.attemptId = none ∧
      (∃ row ∈ s'.db.queue.attempts.find? current.attemptId, row.intentId = current.intentId) ∧
      ∃ intent ∈ s.db.queue.intents.find? current.intentId,
        intent.photoId = current.photoId ∧ intent.groupId = current.groupId := by
  obtain ⟨db', ⟨attemptId, guardNow, updateNow, hbegin, intent, hintent, rfl⟩, rfl⟩ := h
  obtain ⟨_, revisions, q, _, hwrite, rfl⟩ := begin_effect hbegin
  obtain ⟨attempts, hinsert, rfl⟩ := Option.map_eq_some_iff.mp hwrite
  refine ⟨(Table.insert?_eq_some hinsert).1, ?_, intent, hintent, rfl, rfl⟩
  exact ⟨_, (Table.find?_insert? hinsert attemptId).trans (if_pos rfl), rfl⟩

end Steps

namespace DispatchStage

variable {stage : DispatchStage} {k : Token}

theorem held?_moved {phase : AttemptPhase} (h : (stage.moved phase).held? = some k) :
    stage.held? = some k := by
  cases stage with
  | attempting => exact h
  | _ => cases h

theorem held?_found (h : stage.found.held? = some k) : stage.held? = some k := by
  cases stage with
  | attempting => exact h
  | _ => cases h

theorem held?_withheld (h : stage.withheld.held? = some k) : stage.held? = some k := by
  cases stage with
  | attempting lease current phase =>
      cases phase with
      | marked => cases h
      | _ => exact h
  | _ => exact h

theorem held?_handedOff {answer : Except DispatchFault AddResult} :
    (stage.handedOff answer).held? = none := by
  cases stage with
  | _ => rfl

/-- An invocation holds an attempt from its begin to its hand-off. -/
theorem held?_next {o : DispatchOp} {answer : o.Answer}
    (hheld : (stage.next o answer).held? = some k) :
    o.began? answer = some k ∨ (stage.held? = some k ∧ o.posts? = none) := by
  cases o with
  | claim =>
      rcases answer with _ | _ | _
      · cases hheld
      · cases hheld
      · cases hheld
  | unfinished =>
      rcases answer with _ | _ | _
      · cases hheld
      · cases hheld
      · cases hheld
  | begin =>
      rcases answer with _ | current
      · cases hheld
      · exact Or.inl hheld
  | membership =>
      rcases answer with _ | isPresent
      · exact Or.inr ⟨hheld, rfl⟩
      · exact Or.inr ⟨held?_moved hheld, rfl⟩
  | preflight =>
      rcases answer with _ | value
      · exact Or.inr ⟨hheld, rfl⟩
      · exact Or.inr ⟨held?_moved hheld, rfl⟩
  | record lease attemptId kind =>
      rcases answer with _ | _
      · rcases kind with (_ | _) | _ | _
        · cases hheld
        · cases hheld
        · cases hheld
        · cases hheld
      · rcases kind with (_ | _) | _ | _
        · exact Or.inr ⟨held?_found hheld, rfl⟩
        · exact Or.inr ⟨held?_moved hheld, rfl⟩
        · exact Or.inr ⟨held?_moved hheld, rfl⟩
        · exact Or.inr ⟨held?_moved hheld, rfl⟩
  | consume reservation operation =>
      cases operation with
      | add =>
          cases answer with
          | false => exact Or.inr ⟨held?_withheld hheld, rfl⟩
          | true => exact Or.inr ⟨hheld, rfl⟩
      | membership => exact Or.inr ⟨hheld, rfl⟩
      | preflight => exact Or.inr ⟨hheld, rfl⟩
  | handoff =>
      rw [show stage.next _ answer = stage.handedOff answer from rfl, held?_handedOff] at hheld
      cases hheld
  | resolve => cases hheld
  | _ => exact Or.inr ⟨hheld, rfl⟩

variable {lease : Token × Nat}

theorem leased?_moved {phase : AttemptPhase} : (stage.moved phase).leased? = none := by
  cases stage with
  | _ => rfl

theorem leased?_found : stage.found.leased? = none := by
  cases stage with
  | _ => rfl

theorem leased?_handedOff {answer : Except DispatchFault AddResult} :
    (stage.handedOff answer).leased? = none := by
  cases stage with
  | _ => rfl

theorem leased?_withheld (h : stage.withheld.leased? = some lease) :
    stage.leased? = some lease := by
  cases stage with
  | attempting lease current phase =>
      cases phase with
      | marked => cases h
      | _ => exact h
  | _ => exact h

/-- An invocation may begin from its claim to its begin. -/
theorem leased?_next {o : DispatchOp} {answer : o.Answer} (hallows : stage.allows o)
    (hleased : (stage.next o answer).leased? = some lease) :
    o.claimed? answer = some lease ∨ (stage.leased? = some lease ∧ o.begins? = none) := by
  cases o with
  | claim =>
      rcases answer with _ | _ | claimed
      · cases hleased
      · cases hleased
      · exact Or.inl hleased
  | unfinished claimed =>
      obtain rfl : stage = .claimed claimed := hallows
      rcases answer with _ | _ | _
      · cases hleased
      · exact Or.inr ⟨hleased, rfl⟩
      · cases hleased
  | begin =>
      rcases answer with _ | _
      · cases hleased
      · cases hleased
  | membership =>
      rcases answer with _ | isPresent
      · exact Or.inr ⟨hleased, rfl⟩
      · cases leased?_moved.symm.trans hleased
  | preflight =>
      rcases answer with _ | value
      · exact Or.inr ⟨hleased, rfl⟩
      · cases leased?_moved.symm.trans hleased
  | record claimed attemptId kind =>
      rcases answer with _ | _
      · rcases kind with (_ | _) | _ | _
        · cases hleased
        · cases hleased
        · cases hleased
        · cases hleased
      · rcases kind with (_ | _) | _ | _
        · cases leased?_found.symm.trans hleased
        · cases leased?_moved.symm.trans hleased
        · cases leased?_moved.symm.trans hleased
        · cases leased?_moved.symm.trans hleased
  | consume reservation operation =>
      cases operation with
      | add =>
          cases answer with
          | false => exact Or.inr ⟨leased?_withheld hleased, rfl⟩
          | true => exact Or.inr ⟨hleased, rfl⟩
      | membership => exact Or.inr ⟨hleased, rfl⟩
      | preflight => exact Or.inr ⟨hleased, rfl⟩
  | handoff => cases leased?_handedOff.symm.trans hleased
  | resolve => cases hleased
  | _ => exact Or.inr ⟨hleased, rfl⟩

end DispatchStage

/-- A begin grants the hand-off of its attempt. -/
theorem postGrants : Grants dispatchMachine dispatchMonitor .idle DispatchStage.held? attemptBegun
    DispatchOp.began? DispatchOp.posts? where
  start := rfl
  holds := by
    intro stage o answer k _ hheld
    exact DispatchStage.held?_next hheld
  hands := by
    intro stage o k hallows hhanded
    cases o with
    | handoff current =>
        cases hhanded
        obtain ⟨lease, rfl⟩ := hallows
        rfl
    | _ => cases hhanded
  apart := by
    intro o answer k hgranted
    cases o with
    | handoff => cases hgranted
    | _ => rfl
  serves := by
    intro s o answer s' k hserve hgranted
    cases o with
    | begin lease =>
        cases answer with
        | error => cases hgranted
        | ok current =>
            cases hgranted
            obtain ⟨hnone, ⟨row, hrow, _⟩, _⟩ := DispatchOp.serve.begun hserve
            exact ⟨fun h => h hnone, Option.ne_none_iff_exists'.mpr ⟨row, hrow⟩⟩
    | _ => cases hgranted
  loses := by
    intro o answer hlost
    cases o with
    | begin =>
        obtain rfl : answer = .error .failed := hlost
        rfl
    | _ => rfl
  kept := by
    intro s o answer s' k hserve hmarked
    obtain ⟨event, hstep, _⟩ := DispatchOp.serve.event hserve
    exact hmarked.step hstep
  external := by
    intro s s' k hexternal hmarked
    obtain ⟨event, hstep, _⟩ := hexternal.event
    exact hmarked.step hstep

/-- A claim grants one begin under its lease. -/
theorem beginGrants : Grants dispatchMachine dispatchMonitor .idle DispatchStage.leased?
    leaseClaimed DispatchOp.claimed? DispatchOp.begins? where
  start := rfl
  holds := by
    intro stage o answer lease hallows hleased
    exact DispatchStage.leased?_next hallows hleased
  hands := by
    intro stage o k hallows hhanded
    cases o with
    | begin lease =>
        cases hhanded
        obtain rfl : stage = .clear lease := hallows
        rfl
    | _ => cases hhanded
  apart := by
    intro o answer k hgranted
    cases o with
    | begin => cases hgranted
    | _ => rfl
  serves := by
    intro s o answer s' k hserve hgranted
    cases o with
    | claim =>
        cases answer with
        | error => cases hgranted
        | ok value =>
            cases value with
            | none => cases hgranted
            | some lease =>
                cases hgranted
                obtain ⟨hbefore, hafter, _⟩ := DispatchOp.serve.claimed hserve
                constructor
                · intro hclaimed
                  simp only [leaseClaimed] at hclaimed
                  omega
                · exact le_of_eq hafter
    | _ => cases hgranted
  loses := by
    intro o answer hlost
    cases o with
    | claim =>
        obtain rfl : answer = .error .failed := hlost
        rfl
    | _ => rfl
  kept := by
    intro s o answer s' k hserve hmarked
    obtain ⟨event, hstep, _⟩ := DispatchOp.serve.event hserve
    exact hmarked.step hstep
  external := by
    intro s s' k hexternal hmarked
    obtain ⟨event, hstep, _⟩ := hexternal.event
    exact hmarked.step hstep

/-! ## What the tables say of a lease and of an attempt -/

section Facts

variable {db db' : Db} {event : QueueEvent} {lease : Lease} {attemptId : Token}

/-- The lease was claimed for an intent of its partition. -/
def leaseIssued (q : QueueTables) (lease : Lease) : Prop :=
  lease.generation ≤ generationOf q lease.partitionId ∧
    ∃ intent ∈ q.intents.find? lease.headId, intent.partitionId = lease.partitionId

/-- A later lease was claimed before the attempt had its marker, so it never gets one. -/
def attemptAbandoned (q : QueueTables) (attemptId : Token) : Prop :=
  q.marked attemptId = false ∧ ∃ row ∈ q.attempts.find? attemptId,
    ∃ intent ∈ q.intents.find? row.intentId,
      row.leaseGeneration < generationOf q intent.partitionId

/-- Whoever still has the lease may give the attempt up as never dispatched. -/
def attemptRecoverable (q : QueueTables) (lease : Lease) (attemptId : Token) : Prop :=
  lease.generation < generationOf q lease.partitionId ∨ attemptAbandoned q attemptId

/-- The attempt is one of an intent for its photo and group. -/
def attemptKnown (q : QueueTables) (current : Attempt) : Prop :=
  (∃ row ∈ q.attempts.find? current.attemptId, row.intentId = current.intentId) ∧
    ∃ intent ∈ q.intents.find? current.intentId,
      intent.photoId = current.photoId ∧ intent.groupId = current.groupId

/-- The photo was seen outside its group, the preflight is there, and so is the marker. -/
def attemptReady (q : QueueTables) (attemptId : Token) : Prop :=
  q.marked attemptId = true ∧ (∃ row ∈ q.memberships.find? attemptId, row.targetAbsent = true) ∧
    (q.preflights.find? attemptId).isSome = true

theorem leaseIssued.step (hstep : QueueEventStep db event db') (h : leaseIssued db.queue lease) :
    leaseIssued db'.queue lease := by
  obtain ⟨hgeneration, intent, hfind, hhome⟩ := h
  obtain ⟨intent', hfind', hsame⟩ := hstep.intent_kept hfind
  exact ⟨hgeneration.trans (hstep.generation_le _), intent', hfind',
    (congrArg IntentIdentity.partitionId hsame).trans hhome⟩

/-- A marker needs the generation of its attempt. -/
theorem attemptAbandoned.step (hstep : QueueEventStep db event db')
    (h : attemptAbandoned db.queue attemptId) : attemptAbandoned db'.queue attemptId := by
  obtain ⟨hmarked, row, hrow, intent, hintent, hlater⟩ := h
  obtain ⟨intent', hintent', hsame⟩ := hstep.intent_kept hintent
  have hhome : intent'.partitionId = intent.partitionId :=
    congrArg IntentIdentity.partitionId hsame
  refine ⟨?_, row, hstep.attemptMove.rowsKept.attempt _ _ hrow, intent', hintent', ?_⟩
  · by_contra hnew
    have hafter : db'.queue.marked attemptId = true := Bool.eq_true_of_not_eq_false hnew
    obtain ⟨lease, reservationId, guardNow, _, _, howns, _, _, hcurrent, _⟩ :=
      hstep.attemptMove.marker_new hmarked hafter
    obtain ⟨same, hfind, _, _, hhead, _, hgeneration, _⟩ := hcurrent
    cases hrow.symm.trans hfind
    obtain ⟨head, hisHead, _, hheadRow⟩ := howns.head
    rw [hhead] at hintent
    cases hintent.symm.trans hheadRow
    rw [(QueueTables.isHead_of_headIntent hisHead).partition, howns.1.generation,
      ← hgeneration] at hlater
    exact lt_irrefl _ hlater
  · rw [hhome]
    exact lt_of_lt_of_le hlater (hstep.generation_le _)

theorem attemptRecoverable.step (hstep : QueueEventStep db event db')
    (h : attemptRecoverable db.queue lease attemptId) :
    attemptRecoverable db'.queue lease attemptId := by
  rcases h with hlater | habandoned
  · exact Or.inl (lt_of_lt_of_le hlater (hstep.generation_le _))
  · exact Or.inr (habandoned.step hstep)

theorem attemptKnown.step {current : Attempt} (hstep : QueueEventStep db event db')
    (h : attemptKnown db.queue current) : attemptKnown db'.queue current := by
  obtain ⟨⟨row, hrow, hid⟩, intent, hintent, hphoto, hgroup⟩ := h
  obtain ⟨intent', hintent', hsame⟩ := hstep.intent_kept hintent
  exact ⟨⟨row, hstep.attemptMove.rowsKept.attempt _ _ hrow, hid⟩, intent', hintent',
    (congrArg IntentIdentity.photoId hsame).trans hphoto,
    (congrArg IntentIdentity.groupId hsame).trans hgroup⟩

theorem attemptReady.step (hstep : QueueEventStep db event db')
    (h : attemptReady db.queue attemptId) : attemptReady db'.queue attemptId := by
  obtain ⟨hmarked, ⟨row, hrow, habsent⟩, hpreflight⟩ := h
  have hkept := hstep.attemptMove.rowsKept
  obtain ⟨preflight, hfind⟩ := Option.isSome_iff_exists.mp hpreflight
  exact ⟨hkept.marked hmarked, ⟨row, hkept.membership _ _ hrow, habsent⟩,
    Option.isSome_iff_exists.mpr ⟨preflight, hkept.preflight _ _ hfind⟩⟩

/-- A committed marker leaves an attempt that may be handed off. -/
theorem record_marker_ready {reservationId : Option Token} {guardNow updateNow : ClockReading}
    (h : record db lease attemptId (.marker reservationId) guardNow updateNow = some db') :
    attemptReady db'.queue attemptId := by
  obtain ⟨⟨_, _, _, _, _, _, _, ⟨row, hrow, habsent⟩, hpreflight, _⟩, q, hwrite, rfl⟩ :=
    record_effect h
  obtain ⟨_, _, hinsert, hmemberships, hpreflights⟩ := QueueTables.recordPhase_rows hwrite
  refine ⟨?_, ⟨row, ?_, habsent⟩, ?_⟩
  · rw [QueueTables.marked, (Table.find?_insert? hinsert attemptId).trans (if_pos rfl)]
    rfl
  · rw [hmemberships]
    exact hrow
  · rw [hpreflights]
    exact hpreflight

/-- What a look for an unfinished attempt finds. -/
theorem QueueTables.unfinished_some {q : QueueTables} {old : Attempt}
    (h : q.unfinished lease = some old) :
    old.marked = q.marked old.attemptId ∧
      ∃ row ∈ q.attempts, row.attemptId = old.attemptId ∧ row.intentId = lease.headId := by
  obtain ⟨row, hrow, hold⟩ := Option.bind_eq_some_iff.mp h
  obtain ⟨intent, _, rfl⟩ := Option.map_eq_some_iff.mp hold
  have hmem := List.argmax_mem hrow
  obtain ⟨hrowMem, hopen⟩ := List.mem_filter.mp hmem
  have hopen := of_decide_eq_true hopen
  exact ⟨rfl, row, hrowMem, rfl, hopen.1⟩

end Facts

/-! ## The invariant -/

/-- A POST: the attempt that was handed off, with its answer. -/
structure GroupPost where
  current : Attempt
  answer : Except DispatchFault AddResult
deriving DecidableEq

def postOf (o : DispatchOp) (answer : o.Answer) : Option GroupPost :=
  match o, answer with
  | .handoff current, answer => some ⟨current, answer⟩
  | _, _ => none

/-- The POSTs of a log, newest first. -/
def postsOf (log : List (Entry ι DispatchOp.Answer)) : List GroupPost :=
  log.filterMap fun entry => postOf entry.op entry.answer

/-- The request never left, or Flickr refused it for now. -/
def GroupPost.refused (post : GroupPost) : Prop :=
  post.answer = .error .notDispatched ∨
    ∃ code : Int, post.answer = .ok (.code code) ∧ (code = 5 ∨ code = 105 ∨ code = 106)

theorem mem_postsOf {log : List (Entry ι DispatchOp.Answer)} {post : GroupPost} :
    post ∈ postsOf log ↔ ∃ i, ⟨i, .handoff post.current, post.answer⟩ ∈ log := by
  obtain ⟨current, answer⟩ := post
  constructor
  · intro hmem
    obtain ⟨⟨i, o, given⟩, hentry, hpost⟩ := List.mem_filterMap.mp hmem
    cases o with
    | handoff other =>
        cases hpost
        exact ⟨i, hentry⟩
    | _ => cases hpost
  · rintro ⟨i, hentry⟩
    exact List.mem_filterMap.mpr ⟨_, hentry, rfl⟩

theorem handedOff_eq_posts (log : List (Entry ι DispatchOp.Answer)) :
    Workers.handedOff DispatchOp.posts? log =
      (postsOf log).map fun post => post.current.attemptId := by
  induction log with
  | nil => rfl
  | cons entry log ih =>
      obtain ⟨i, o, answer⟩ := entry
      cases o with
      | handoff current => exact congrArg (current.attemptId :: ·) ih
      | _ => exact ih

abbrev DispatchWatch (ι : Type) := Watch DispatchStore ι DispatchStage DispatchOp.Answer

namespace DispatchWatch

variable (w : DispatchWatch ι)

abbrev queue : QueueTables := w.store.db.queue

/-- The attempt has begun, was not handed off, and nobody will hand it off. -/
def spared (attemptId : Token) : Prop :=
  attemptBegun w.store attemptId ∧ (∀ i, (w.seen i).held? ≠ some attemptId) ∧
    attemptId ∉ Workers.handedOff DispatchOp.posts? w.log

/-- What a resolution says of the hand-off of its attempt. -/
def siteSound (attemptId : Token) : ResolutionSite → Prop
  | .recovered true | .unresolvedDispatch => True
  | .recovered false => w.queue.marked attemptId = false
  | .rateUnavailable _ | .unavailable _ | .membershipPresent | .preflightExpired =>
      w.spared attemptId
  | .transportAborted => ∃ post ∈ postsOf w.log,
      post.current.attemptId = attemptId ∧ post.answer = .error .notDispatched
  | .answered result => ∃ post ∈ postsOf w.log,
      post.current.attemptId = attemptId ∧ post.answer = .ok result

/-- What stands behind a resolution that was asked while the queue was `q`. -/
def sitePledged (q : QueueTables) (lease : Lease) (attemptId : Token) : ResolutionSite → Prop
  | .recovered false => attemptRecoverable q lease attemptId
  | site => w.siteSound attemptId site

/-- What stands behind an operation. -/
def opPledged (q : QueueTables) : DispatchOp → Prop
  | .resolve lease attemptId site _ _ => w.sitePledged q lease attemptId site
  | .begin lease =>
      (lease.partitionId, lease.generation) ∈ Workers.handedOff DispatchOp.begins? w.log
  | _ => True

/-- What an invocation relies on. -/
def stageSound : DispatchStage → Prop
  | .claimed lease | .clear lease => leaseIssued w.queue lease
  | .recovering lease old => old.marked = false →
      attemptRecoverable w.queue lease old.attemptId
  | .attempting _ current phase => attemptKnown w.queue current ∧
      (phase = .marked → attemptReady w.queue current.attemptId)
  | .handed _ current answer => ⟨current, answer⟩ ∈ postsOf w.log
  | .idle | .present _ _ | .refused _ _ | .over => True

/-- The attempt was begun by the one begin of its generation. -/
def rowSound (row : SubmissionAttempt) : Prop :=
  ∃ intent ∈ w.queue.intents.find? row.intentId,
    (intent.partitionId, row.leaseGeneration) ∈ Workers.handedOff DispatchOp.begins? w.log ∧
      row.leaseGeneration ≤ generationOf w.queue intent.partitionId

/-- The resolution was made at one of the sites, and says what became of its attempt. -/
def resolutionSound (resolution : AttemptResolution) : Prop :=
  ∃ (site : ResolutionSite) (artifact : Option String),
    resolution.outcome = (site.resolution artifact).outcome ∧
      resolution.reason = (site.resolution artifact).reason ∧
      w.siteSound resolution.attemptId site

/-- What stands behind the resolution or the begin that an event commits. -/
def backs (q : QueueTables) : QueueEvent → Prop
  | .commit (.resolve lease attemptId site _ _ _ _) => w.sitePledged q lease attemptId site
  | .commit (.begin lease _ _ _) =>
      (lease.partitionId, lease.generation) ∈ Workers.handedOff DispatchOp.begins? w.log
  | _ => True

end DispatchWatch

open DispatchWatch in
structure DispatchSound (w : DispatchWatch ι) : Prop where
  reachable : QueueReachable w.store.db
  stages : ∀ i, w.stageSound (w.seen i)
  late : ∀ o ∈ w.late, w.opPledged w.queue o
  rows : ∀ row ∈ w.queue.attempts, w.rowSound row
  resolutions : ∀ resolution ∈ w.queue.resolutions, w.resolutionSound resolution
  posts : ∀ post ∈ postsOf w.log, attemptKnown w.queue post.current ∧
    attemptReady w.queue post.current.attemptId
  again : (postsOf w.log).Pairwise fun later earlier =>
    later.current.photoId = earlier.current.photoId →
      later.current.groupId = earlier.current.groupId → earlier.refused

/-- The watched dispatchers at which each attempt was handed off, and each lease used for a
begin, at most once. -/
structure DispatchOnce (w : DispatchWatch ι) : Prop where
  posts : Once DispatchStage.held? (attemptBegun w.store) w.seen
    (Workers.handedOff DispatchOp.posts? w.log)
  begins : Once DispatchStage.leased? (leaseClaimed w.store) w.seen
    (Workers.handedOff DispatchOp.begins? w.log)

/-! ### What every step keeps -/

/-- What stays true in a step. -/
structure DispatchKept (w w' : DispatchWatch ι) (event : QueueEvent) : Prop where
  event : QueueEventStep w.store.db event w'.store.db
  log : ∃ new, w'.log = new ++ w.log
  spared : ∀ attemptId, w.spared attemptId → w'.spared attemptId

namespace DispatchKept

variable {w w' : DispatchWatch ι} {event : QueueEvent} (h : DispatchKept w w' event)
include h

theorem mem_posts {post : GroupPost} (hpost : post ∈ postsOf w.log) : post ∈ postsOf w'.log := by
  obtain ⟨new, hlog⟩ := h.log
  rw [hlog, postsOf, List.filterMap_append]
  exact List.mem_append_right _ hpost

theorem mem_begins {lease : Token × Nat}
    (hlease : lease ∈ Workers.handedOff DispatchOp.begins? w.log) :
    lease ∈ Workers.handedOff DispatchOp.begins? w'.log := by
  obtain ⟨new, hlog⟩ := h.log
  rw [hlog, Workers.handedOff, List.filterMap_append]
  exact List.mem_append_right _ hlease

theorem stageSound {stage : DispatchStage} (hstage : w.stageSound stage) :
    w'.stageSound stage := by
  cases stage with
  | claimed | clear => exact leaseIssued.step h.event hstage
  | recovering => exact fun hmarked => (hstage hmarked).step h.event
  | attempting =>
      exact ⟨hstage.1.step h.event, fun hphase => (hstage.2 hphase).step h.event⟩
  | handed => exact h.mem_posts hstage
  | _ => trivial

/-- What a resolution said stays true; an attempt that is resolved gets no marker. -/
theorem siteSound {attemptId : Token} {site : ResolutionSite}
    (hresolved : ¬ w.queue.unresolved attemptId) (hsite : w.siteSound attemptId site) :
    w'.siteSound attemptId site := by
  cases site with
  | recovered marked =>
      cases marked with
      | true => trivial
      | false =>
          by_contra hnew
          have hafter : w'.queue.marked attemptId = true := Bool.eq_true_of_not_eq_false hnew
          obtain ⟨_, _, _, _, _, _, _, _, _, hunresolved, _⟩ :=
            h.event.attemptMove.marker_new hsite hafter
          exact hresolved hunresolved
  | rateUnavailable | unavailable | membershipPresent | preflightExpired =>
      exact h.spared _ hsite
  | transportAborted | answered =>
      obtain ⟨post, hpost, hrest⟩ := hsite
      exact ⟨post, h.mem_posts hpost, hrest⟩
  | unresolvedDispatch => trivial

/-- What stood behind a resolution when it was asked still does. -/
theorem sitePledged {q : QueueTables} {lease : Lease} {attemptId : Token}
    {site : ResolutionSite} (hsite : w.sitePledged q lease attemptId site) :
    w'.sitePledged q lease attemptId site := by
  cases site with
  | recovered marked =>
      cases marked with
      | true => trivial
      | false => exact hsite
  | rateUnavailable | unavailable | membershipPresent | preflightExpired =>
      exact h.spared _ hsite
  | transportAborted | answered =>
      obtain ⟨post, hpost, hrest⟩ := hsite
      exact ⟨post, h.mem_posts hpost, hrest⟩
  | unresolvedDispatch => trivial

theorem opPledged {o : DispatchOp} (ho : w.opPledged w.queue o) :
    w'.opPledged w'.queue o := by
  cases o with
  | resolve lease attemptId site =>
      have hlater : w.sitePledged w'.queue lease attemptId site := by
        cases site with
        | recovered marked =>
            cases marked with
            | true => trivial
            | false => exact attemptRecoverable.step h.event ho
        | _ => exact ho
      exact h.sitePledged hlater
  | begin => exact h.mem_begins ho
  | _ => trivial

theorem rowSound {row : SubmissionAttempt} (hrow : w.rowSound row) : w'.rowSound row := by
  obtain ⟨intent, hintent, hbegun, hgeneration⟩ := hrow
  obtain ⟨intent', hintent', hsame⟩ := h.event.intent_kept hintent
  have hhome : intent'.partitionId = intent.partitionId :=
    congrArg IntentIdentity.partitionId hsame
  refine ⟨intent', hintent', ?_, ?_⟩
  · rw [hhome]
    exact h.mem_begins hbegun
  · rw [hhome]
    exact hgeneration.trans (h.event.generation_le _)

end DispatchKept

/-! ### New rows -/

section Step

variable {w w' : DispatchWatch ι} {event : QueueEvent}

/-- A resolution that commits says what its caller relied on. -/
theorem DispatchSound.new_resolution (hkept : DispatchKept w w' event)
    {resolution : AttemptResolution} (hbefore : resolution ∉ w.queue.resolutions)
    (hafter : resolution ∈ w'.queue.resolutions) (hbacks : w'.backs w.queue event) :
    w'.resolutionSound resolution := by
  obtain ⟨lease, attemptId, site, artifact, counts, retryDelay, clock, rfl, hguard, hid,
    houtcome, hreason⟩ := hkept.event.attemptMove.resolution_new hbefore hafter
  have hsite : w'.sitePledged w.queue lease attemptId site := hbacks
  refine ⟨site, artifact, houtcome, hreason, ?_⟩
  rw [hid]
  cases site with
  | recovered marked =>
      cases marked with
      | true => trivial
      | false =>
          -- the guard has the lease, so no later one was claimed
          rcases hsite with hlater | habandoned
          · rw [hguard.1.1.generation] at hlater
            exact absurd hlater (lt_irrefl _)
          · exact (habandoned.step hkept.event).1
  | _ => exact hsite

/-- An attempt that begins does so under the lease of its begin. -/
theorem DispatchSound.new_row (hkept : DispatchKept w w' event) {row : SubmissionAttempt}
    (hbefore : row ∉ w.queue.attempts) (hafter : row ∈ w'.queue.attempts)
    (hbacks : w'.backs w.queue event) : w'.rowSound row := by
  obtain ⟨lease, attemptId, guardNow, updateNow, revisions, rfl, hguard, hrow⟩ :=
    hkept.event.attemptMove.attempt_new hbefore hafter
  obtain ⟨head, hhead, _, hheadRow⟩ := hguard.1.head
  obtain ⟨intent', hintent', hsame⟩ := hkept.event.intent_kept hheadRow
  have hhome : intent'.partitionId = lease.partitionId :=
    (congrArg IntentIdentity.partitionId hsame).trans
      (QueueTables.isHead_of_headIntent hhead).partition
  subst hrow
  refine ⟨intent', hintent', ?_, ?_⟩
  · rw [hhome]
    exact hbacks
  · rw [hhome]
    have hgeneration := hkept.event.generation_le lease.partitionId
    rw [hguard.1.1.generation] at hgeneration
    exact hgeneration

/-- What a step keeps, but for the stages, what was left behind and the new POSTs. -/
theorem DispatchSound.step_of (h : DispatchSound w) (hkept : DispatchKept w w' event)
    (hbacks : w'.backs w.queue event) (hstages : ∀ i, w'.stageSound (w'.seen i)) (hlate : ∀ o ∈ w'.late, w'.opPledged w'.queue o)
    (hposts : ∀ post ∈ postsOf w'.log, attemptKnown w'.queue post.current ∧
      attemptReady w'.queue post.current.attemptId)
    (hagain : (postsOf w'.log).Pairwise fun later earlier =>
      later.current.photoId = earlier.current.photoId →
        later.current.groupId = earlier.current.groupId → earlier.refused) :
    DispatchSound w' := by
  refine ⟨h.reachable.extend hkept.event, hstages, hlate, ?_, ?_, hposts, hagain⟩
  · intro row hafter
    by_cases hbefore : row ∈ w.queue.attempts
    · exact hkept.rowSound (h.rows row hbefore)
    · exact DispatchSound.new_row hkept hbefore hafter hbacks
  · intro resolution hafter
    by_cases hbefore : resolution ∈ w.queue.resolutions
    · obtain ⟨site, artifact, houtcome, hreason, hsite⟩ := h.resolutions resolution hbefore
      refine ⟨site, artifact, houtcome, hreason, hkept.siteSound ?_ hsite⟩
      rw [QueueTables.unresolved, Table.find?_of_mem hbefore]
      exact Option.some_ne_none _
    · exact DispatchSound.new_resolution hkept hbefore hafter hbacks

/-- What was posted before stays known. -/
theorem DispatchSound.posts_kept (h : DispatchSound w) (hkept : DispatchKept w w' event) :
    ∀ post ∈ postsOf w.log, attemptKnown w'.queue post.current ∧
      attemptReady w'.queue post.current.attemptId := by
  intro post hpost
  obtain ⟨hknown, hready⟩ := h.posts post hpost
  exact ⟨hknown.step hkept.event, hready.step hkept.event⟩

end Step

/-! ### What an asked operation relies on -/

section Asked

variable [DecidableEq ι] {w : DispatchWatch ι} {i : ι}

/-- The watch after an operation was asked and answered. -/
def DispatchWatch.asked (w : DispatchWatch ι) (i : ι) (o : DispatchOp) (answer : o.Answer) :
    DispatchWatch ι :=
  { w with
    seen := Function.update w.seen i ((w.seen i).next o answer)
    log := ⟨i, o, answer⟩ :: w.log }

/-- The watch with another store and other operations left behind. -/
def DispatchWatch.settled (w : DispatchWatch ι) (store : DispatchStore) (late : List DispatchOp) :
    DispatchWatch ι :=
  { w with store := store, late := late }

/-- An invocation that gives its attempt up spares it. -/
theorem DispatchOnce.spares (h : DispatchOnce w) {attemptId : Token}
    (hheld : (w.seen i).held? = some attemptId) {o : DispatchOp} {answer : o.Answer}
    (hover : (w.seen i).next o answer = .over) (hposts : o.posts? = none) :
    (w.asked i o answer).spared attemptId := by
  refine ⟨h.posts.marked_held i attemptId hheld, ?_, ?_⟩
  · intro j hj
    by_cases hother : j = i
    · subst hother
      simp only [DispatchWatch.asked, Function.update_self, hover] at hj
      cases hj
    · simp only [DispatchWatch.asked, Function.update_of_ne hother] at hj
      exact hother (h.posts.single j i attemptId hj hheld)
  · simp only [DispatchWatch.asked]
    rw [handedOff_cons_none hposts]
    exact h.posts.pending i attemptId hheld

/-- Whatever an invocation asks, it may rely on. -/
theorem DispatchSound.pledged (h : DispatchSound w) (honce : DispatchOnce w) {o : DispatchOp}
    (answer : o.Answer) (hallows : (w.seen i).allows o) :
    (w.asked i o answer).opPledged w.queue o := by
  cases o with
  | resolve lease attemptId site artifact counts =>
      have hstage := h.stages i
      have hmem : ∀ post ∈ postsOf w.log, post ∈ postsOf
          (w.asked i (.resolve lease attemptId site artifact counts) answer).log :=
        fun _ => id
      cases site with
      | recovered marked =>
          obtain ⟨old, hseen, rfl, rfl⟩ := hallows
          rw [hseen] at hstage
          cases hmarked : old.marked with
          | true => trivial
          | false => exact hstage hmarked
      | rateUnavailable | unavailable | preflightExpired =>
          obtain ⟨current, phase, hseen, rfl⟩ := hallows
          exact honce.spares (by rw [hseen]; rfl) rfl rfl
      | membershipPresent =>
          obtain ⟨current, hseen, rfl⟩ := hallows
          exact honce.spares (by rw [hseen]; rfl) rfl rfl
      | transportAborted =>
          obtain ⟨current, hseen, rfl⟩ := hallows
          rw [hseen] at hstage
          exact ⟨_, hmem _ hstage, rfl, rfl⟩
      | answered result =>
          obtain ⟨current, hseen, rfl⟩ := hallows
          rw [hseen] at hstage
          exact ⟨_, hmem _ hstage, rfl, rfl⟩
      | unresolvedDispatch => trivial
  | begin lease =>
      simp only [DispatchWatch.opPledged, DispatchWatch.asked]
      rw [handedOff_cons_some (show DispatchOp.begins? (.begin lease) = _ from rfl)]
      exact List.mem_cons_self
  | _ => trivial

omit [DecidableEq ι] in
/-- A look that finds an attempt without a marker under the own lease finds one that will never
have a marker. -/
theorem DispatchSound.found_recoverable (h : DispatchSound w) (honce : DispatchOnce w)
    {lease : Lease} (hseen : w.seen i = .claimed lease) {old : Attempt}
    (hold : w.queue.unfinished lease = some old) (hmarked : old.marked = false) :
    attemptRecoverable w.queue lease old.attemptId := by
  have hstage := h.stages i
  rw [hseen] at hstage
  obtain ⟨hissued, intent, hintent, hhome⟩ := hstage
  obtain ⟨hmark, row, hrow, hid, hhead⟩ := QueueTables.unfinished_some hold
  obtain ⟨intent', hintent', hbegun, hgeneration⟩ := h.rows row hrow
  rw [hhead] at hintent'
  cases hintent.symm.trans hintent'
  rw [hhome] at hbegun hgeneration
  -- the own lease began nothing yet
  have hother : row.leaseGeneration ≠ lease.generation := by
    intro hsame
    apply honce.begins.pending i (lease.partitionId, lease.generation)
    · rw [hseen]
      rfl
    · rw [← hsame]
      exact hbegun
  by_cases hcurrent : lease.generation < generationOf w.queue lease.partitionId
  · exact Or.inl hcurrent
  · refine Or.inr ⟨hmark.symm.trans hmarked, row, ?_, intent, ?_, ?_⟩
    · rw [← hid]
      exact Table.find?_of_mem hrow
    · rw [hhead]
      exact hintent
    · rw [hhome]
      omega

end Asked

/-! ### A new post -/

section Posts

variable {w : DispatchWatch ι} {i : ι}

/-- An outcome that leaves the intent in its queue is one of a refusal for now. -/
theorem GroupPost.refused_of_active {post : GroupPost} {result : AddResult}
    (hanswer : post.answer = .ok result)
    (hactive : (classifyAdd result).outcome.state.active = true) : post.refused := by
  right
  rw [hanswer]
  cases result with
  | ok => cases hactive
  | code code =>
      refine ⟨code, rfl, ?_⟩
      by_contra hother
      have h5 : code ≠ 5 := fun hcode => hother (Or.inl hcode)
      have h105 : ¬ (code = 105 ∨ code = 106) := fun hcode => hother (Or.inr hcode)
      simp only [classifyAdd, if_neg h105, if_neg h5] at hactive
      split_ifs at hactive
      all_goals cases hactive

/-- Two entries of one attempt are the same POST. -/
theorem DispatchOnce.post_unique (h : DispatchOnce w) {left right : GroupPost}
    (hleft : left ∈ postsOf w.log) (hright : right ∈ postsOf w.log)
    (hid : left.current.attemptId = right.current.attemptId) : left = right := by
  have hnodup := h.posts.nodup
  rw [handedOff_eq_posts] at hnodup
  exact List.inj_on_of_nodup_map hnodup hleft hright hid

/-- A resolution of an attempt that was marked and is held takes its intent out of the queue. -/
theorem DispatchSound.held_final (h : DispatchSound w) (honce : DispatchOnce w)
    {attemptId : Token} (hheld : (w.seen i).held? = some attemptId)
    (hmarked : w.queue.marked attemptId = true) {resolution : AttemptResolution}
    (hfind : w.queue.resolutions.find? attemptId = some resolution) :
    resolution.outcome.state.active = false := by
  obtain ⟨site, artifact, houtcome, _, hsite⟩ := h.resolutions _ (Table.mem_of_find? hfind)
  rw [houtcome]
  have hkey : resolution.attemptId = attemptId := Table.key_of_find? hfind
  rw [hkey] at hsite
  have hposted : ∀ post ∈ postsOf w.log, post.current.attemptId ≠ attemptId := by
    intro post hpost hid
    apply honce.posts.pending i attemptId hheld
    rw [handedOff_eq_posts]
    exact List.mem_map.mpr ⟨post, hpost, hid⟩
  cases site with
  | recovered marked =>
      cases marked with
      | true => rfl
      | false => exact absurd (hmarked.symm.trans hsite) Bool.true_eq_false_eq_False.elim
  | rateUnavailable | unavailable | membershipPresent | preflightExpired =>
      exact absurd hheld (hsite.2.1 i)
  | transportAborted | answered =>
      obtain ⟨post, hpost, hid, _⟩ := hsite
      exact absurd hid (hposted post hpost)
  | unresolvedDispatch => rfl

/-- A resolution of an attempt that was posted, and that leaves the intent in its queue, says
that the POST was refused. -/
theorem DispatchSound.posted_refused (h : DispatchSound w) (honce : DispatchOnce w)
    {post : GroupPost} (hpost : post ∈ postsOf w.log) {resolution : AttemptResolution}
    (hfind : w.queue.resolutions.find? post.current.attemptId = some resolution)
    (hactive : resolution.outcome.state.active = true) : post.refused := by
  obtain ⟨site, artifact, houtcome, _, hsite⟩ := h.resolutions _ (Table.mem_of_find? hfind)
  rw [houtcome] at hactive
  have hkey : resolution.attemptId = post.current.attemptId := Table.key_of_find? hfind
  rw [hkey] at hsite
  have hmarked := (h.posts post hpost).2.1
  have hhanded : post.current.attemptId ∈ Workers.handedOff DispatchOp.posts? w.log := by
    rw [handedOff_eq_posts]
    exact List.mem_map.mpr ⟨post, hpost, rfl⟩
  cases site with
  | recovered marked =>
      cases marked with
      | true => cases hactive
      | false => exact absurd (hmarked.symm.trans hsite) Bool.true_eq_false_eq_False.elim
  | rateUnavailable | unavailable | membershipPresent | preflightExpired =>
      exact absurd hhanded hsite.2.2
  | transportAborted =>
      obtain ⟨same, hsame, hid, hanswer⟩ := hsite
      rw [honce.post_unique hsame hpost hid] at hanswer
      exact Or.inl hanswer
  | answered result =>
      obtain ⟨same, hsame, hid, hanswer⟩ := hsite
      rw [honce.post_unique hsame hpost hid] at hanswer
      exact GroupPost.refused_of_active hanswer hactive
  | unresolvedDispatch => cases hactive

/-- A pair that is about to be posted was refused in every earlier POST. -/
theorem DispatchSound.refused_before (h : DispatchSound w) (honce : DispatchOnce w)
    {lease : Lease} {current : Attempt} (hseen : w.seen i = .attempting lease current .marked)
    {post : GroupPost} (hpost : post ∈ postsOf w.log)
    (hphoto : current.photoId = post.current.photoId)
    (hgroup : current.groupId = post.current.groupId) : post.refused := by
  have hq := h.reachable.queueInvariant
  have hfinal := h.reachable.finalAgreement
  have hstage := h.stages i
  rw [hseen] at hstage
  have hheld : (w.seen i).held? = some current.attemptId := by
    rw [hseen]
    rfl
  obtain ⟨⟨⟨row, hrow, hid⟩, intent, hintent, hphoto', hgroup'⟩, hready⟩ := hstage
  obtain ⟨⟨⟨row', hrow', hid'⟩, intent', hintent', hphoto'', hgroup''⟩, _⟩ := h.posts post hpost
  -- both attempts are of the one intent of the pair
  have hsame : intent = intent' := hq.layout.pairs _ (Table.mem_of_find? hintent) _
    (Table.mem_of_find? hintent') (hphoto'.trans (hphoto.trans hphoto''.symm))
    (hgroup'.trans (hgroup.trans hgroup''.symm))
  subst hsame
  have hintents : current.intentId = post.current.intentId :=
    (Table.key_of_find? hintent).symm.trans (Table.key_of_find? hintent')
  rw [← hintents] at hid'
  have hkey : intent.intentId = current.intentId := Table.key_of_find? hintent
  have hne : current.attemptId ≠ post.current.attemptId := by
    intro hattempt
    apply honce.posts.pending i _ hheld
    rw [handedOff_eq_posts]
    exact List.mem_map.mpr ⟨post, hpost, hattempt.symm⟩
  -- an open attempt keeps the intent attempting
  have hopen : ∀ attemptId row, w.queue.attempts.find? attemptId = some row →
      row.intentId = current.intentId → w.queue.unresolved attemptId →
      ∀ other, ¬ w.queue.finished current.intentId other := by
    intro attemptId row hrow hid hunresolved other hfinished
    have hattemptId : row.attemptId = attemptId := Table.key_of_find? hrow
    have hattempting := (hq.attempts.attempting intent (Table.mem_of_find? hintent)).mpr
      ⟨row, ⟨Table.mem_of_find? hrow, hattemptId.symm ▸ hunresolved⟩, hid.trans hkey.symm⟩
    obtain ⟨closed, hmem, hclosed, hinactive⟩ := hfinal.closed _ _ hfinished
    rw [Table.eq_of_key_eq hmem (Table.mem_of_find? hintent) (hclosed.trans hkey.symm),
      hattempting] at hinactive
    cases hinactive
  cases hresolved : w.queue.resolutions.find? current.attemptId with
  | some resolution =>
      have hfinished : w.queue.finished current.intentId current.attemptId :=
        ⟨row, hrow, resolution, hresolved, hid, h.held_final honce hheld (hready rfl).1 hresolved⟩
      cases hresolved' : w.queue.resolutions.find? post.current.attemptId with
      | none => exact absurd hfinished (hopen _ row' hrow' hid' hresolved' _)
      | some resolution' =>
          apply h.posted_refused honce hpost hresolved'
          by_contra hinactive
          have hfinished' : w.queue.finished current.intentId post.current.attemptId :=
            ⟨row', hrow', resolution', hresolved', hid', Bool.eq_false_of_not_eq_true hinactive⟩
          exact hne (hfinal.single _ _ _ hfinished hfinished')
  | none =>
      cases hresolved' : w.queue.resolutions.find? post.current.attemptId with
      | none =>
          have hsame : row = row' := by
            apply hq.attempts.single
            · exact ⟨Table.mem_of_find? hrow, (Table.key_of_find? hrow).symm ▸ hresolved⟩
            · exact ⟨Table.mem_of_find? hrow', (Table.key_of_find? hrow').symm ▸ hresolved'⟩
            · exact hid.trans hid'.symm
          subst hsame
          exact absurd ((Table.key_of_find? hrow).symm.trans (Table.key_of_find? hrow')) hne
      | some resolution' =>
          apply h.posted_refused honce hpost hresolved'
          by_contra hinactive
          exact hopen _ row hrow hid hresolved _ ⟨row', hrow', resolution', hresolved', hid',
            Bool.eq_false_of_not_eq_true hinactive⟩

end Posts

/-! ### The steps -/

section Runs

variable [DecidableEq ι] {w w' : DispatchWatch ι} {act : Act ι DispatchOp.Answer}

/-- Each step is one event of the database, asked for by the operation that takes effect. -/
theorem DispatchKept.of_step (hstep : WatchStep dispatchMachine dispatchMonitor .idle w act w') :
    ∃ event, DispatchKept w w' event ∧ (∀ o, act.served = some o → event.askedBy o) ∧
      (act.served = none → ∀ call, event = .commit call → call.isDispatch = false) := by
  have hspared : ∀ attemptId, w.spared attemptId → w'.spared attemptId := by
    rintro attemptId ⟨hbegun, hfree, hposted⟩
    obtain ⟨hbegun', hfree', hlog⟩ := postGrants.closed_step hstep hbegun hfree
    exact ⟨hbegun', hfree', fun hmem => hposted (hlog hmem)⟩
  cases hstep with
  | external hexternal =>
      obtain ⟨event, hevent, hother⟩ := hexternal.event
      exact ⟨event, ⟨hevent, ⟨[], rfl⟩, hspared⟩, fun _ h => (nomatch h), fun _ => hother⟩
  | start =>
      exact ⟨.outside, ⟨.outside rfl, ⟨[], rfl⟩, hspared⟩, fun _ h => (nomatch h),
        fun _ _ h => (nomatch h)⟩
  | perform hallows hserve =>
      obtain ⟨event, hevent, hasked⟩ := DispatchOp.serve.event hserve
      refine ⟨event, ⟨hevent, ⟨[_], rfl⟩, hspared⟩, ?_, fun h => (nomatch h)⟩
      rintro o ⟨rfl⟩
      exact hasked
  | lose =>
      exact ⟨.outside, ⟨.outside rfl, ⟨[_], rfl⟩, hspared⟩, fun _ h => (nomatch h),
        fun _ _ h => (nomatch h)⟩
  | late _ hserve =>
      obtain ⟨event, hevent, hasked⟩ := DispatchOp.serve.event hserve
      refine ⟨event, ⟨hevent, ⟨[], rfl⟩, hspared⟩, ?_, fun h => (nomatch h)⟩
      rintro o ⟨rfl⟩
      exact hasked
  | crash =>
      exact ⟨.outside, ⟨.outside rfl, ⟨[], rfl⟩, hspared⟩, fun _ h => (nomatch h),
        fun _ _ h => (nomatch h)⟩

/-- The watch after an operation took effect and was answered. -/
theorem DispatchKept.of_asked {i : ι} {o : DispatchOp} {answer : o.Answer}
    {store : DispatchStore} {event : QueueEvent} {late : List DispatchOp}
    (hevent : QueueEventStep w.store.db event store.db) :
    DispatchKept (w.asked i o answer) ((w.asked i o answer).settled store late) event where
  event := hevent
  log := ⟨[], rfl⟩
  spared := by
    rintro attemptId ⟨hbegun, hrest⟩
    exact ⟨attemptBegun.step (s := (w.asked i o answer).store) hevent hbegun, hrest⟩

/-- What an invocation relies on after an answer. -/
theorem DispatchSound.stage_served (h : DispatchSound w) (honce : DispatchOnce w) {i : ι}
    {o : DispatchOp} {answer : o.Answer} {store : DispatchStore} {event : QueueEvent}
    (hallows : (w.seen i).allows o) (hserve : o.serve w.store answer store)
    (hkept : DispatchKept w ((w.asked i o answer).settled store w.late) event) :
    ((w.asked i o answer).settled store w.late).stageSound ((w.seen i).next o answer) := by
  have hsame := hkept.stageSound (h.stages i)
  have hmoved : ∀ {lease current before} phase, w.seen i = .attempting lease current before →
      phase ≠ .marked →
        ((w.asked i o answer).settled store w.late).stageSound ((w.seen i).moved phase) := by
    intro lease current before phase hseen hphase
    rw [hseen] at hsame ⊢
    exact ⟨hsame.1, fun hmarked => absurd hmarked hphase⟩
  cases o with
  | claim partitionId revision policy =>
      rcases answer with _ | _ | lease
      · trivial
      · trivial
      · obtain ⟨_, hgeneration, hintent⟩ := DispatchOp.serve.claimed hserve
        exact ⟨le_of_eq hgeneration, hintent⟩
  | unfinished lease =>
      have hseen : w.seen i = .claimed lease := hallows
      rcases answer with _ | _ | old
      · trivial
      · rw [hseen] at hsame
        exact hsame
      · intro hmarked
        have hold := (hserve.2 _ rfl).symm
        exact (h.found_recoverable honce hseen hold hmarked).step hkept.event
  | begin lease =>
      rcases answer with _ | current
      · trivial
      · obtain ⟨_, hrow, intent, hintent, hphoto, hgroup⟩ := DispatchOp.serve.begun hserve
        obtain ⟨intent', hintent', hidentity⟩ := hkept.event.intent_kept hintent
        refine ⟨⟨hrow, intent', hintent', ?_, ?_⟩, fun hphase => (nomatch hphase)⟩
        · exact (congrArg IntentIdentity.photoId hidentity).trans hphoto
        · exact (congrArg IntentIdentity.groupId hidentity).trans hgroup
  | membership current =>
      obtain ⟨lease, hseen⟩ := hallows
      rcases answer with _ | isPresent
      · exact hsame
      · exact hmoved _ hseen fun hphase => nomatch hphase
  | preflight current =>
      obtain ⟨lease, hseen⟩ := hallows
      rcases answer with _ | value
      · exact hsame
      · exact hmoved _ hseen fun hphase => nomatch hphase
  | record lease attemptId kind =>
      obtain ⟨current, phase, hseen, rfl, _⟩ := hallows
      rcases answer with _ | _
      · rcases kind with (_ | _) | _ | _
        · trivial
        · trivial
        · trivial
        · trivial
      · rcases kind with (_ | _) | _ | reservationId
        · have hfound : (w.seen i).found = .present lease current := by
            rw [hseen]
            rfl
          simp only [DispatchStage.next, hfound]
          trivial
        · exact hmoved _ hseen fun hphase => nomatch hphase
        · exact hmoved _ hseen fun hphase => nomatch hphase
        · obtain ⟨db', ⟨guardNow, updateNow, hrecord⟩, rfl⟩ := hserve
          rw [hseen] at hsame
          simp only [DispatchStage.next, DispatchStage.moved, hseen]
          exact ⟨hsame.1, fun _ => record_marker_ready hrecord⟩
  | consume reservation operation =>
      cases operation with
      | add =>
          cases answer with
          | true => exact hsame
          | false =>
              cases hseen : w.seen i with
              | attempting lease current phase =>
                  rw [hseen] at hsame
                  cases phase with
                  | marked => trivial
                  | _ => exact hsame
              | _ =>
                  rw [hseen] at hsame
                  exact hsame
      | membership => exact hsame
      | preflight => exact hsame
  | handoff current =>
      obtain ⟨lease, hseen⟩ := hallows
      simp only [DispatchStage.next, DispatchStage.handedOff, hseen]
      exact List.mem_cons_self
  | resolve => trivial
  | _ => exact hsame

omit [DecidableEq ι] in
/-- What an invocation relies on after its answer was lost. -/
theorem DispatchSound.stage_lost (h : DispatchSound w) {i : ι} {o : DispatchOp}
    {answer : o.Answer} (hlost : o.lost answer) {event : QueueEvent}
    (hkept : DispatchKept w w' event) : w'.stageSound ((w.seen i).next o answer) := by
  have hsame := hkept.stageSound (h.stages i)
  cases o with
  | claim | unfinished | begin =>
      obtain rfl : answer = .error .failed := hlost
      trivial
  | record lease attemptId kind =>
      obtain rfl : answer = .error .failed := hlost
      rcases kind with (_ | _) | _ | _
      · trivial
      · trivial
      · trivial
      · trivial
  | resolve => trivial
  | membership | preflight | consume | handoff => exact hlost.elim
  | _ => exact hsame

theorem DispatchSound.step (h : DispatchSound w) (honce : DispatchOnce w)
    (hstep : WatchStep dispatchMachine dispatchMonitor .idle w act w') : DispatchSound w' := by
  obtain ⟨event, hkept, hasked, hbeside⟩ := DispatchKept.of_step hstep
  have hquiet : act.served = none → w'.backs w.queue event := by
    intro hnone
    cases event with
    | commit call =>
        have hother := hbeside hnone call rfl
        cases call with
        | resolve | begin => cases hother
        | _ => trivial
    | _ => trivial
  -- whatever is pledged for the operation that takes effect
  have hserved : ∀ o, act.served = some o → w'.opPledged w.queue o → w'.backs w.queue event := by
    intro o hserves hpledged
    have ho := hasked o hserves
    cases event with
    | commit call =>
        cases call with
        | resolve lease attemptId site artifact counts =>
            obtain rfl : o = .resolve lease attemptId site artifact counts := ho
            exact hpledged
        | begin lease =>
            obtain rfl : o = .begin lease := ho
            exact hpledged
        | _ => trivial
    | _ => trivial
  have hreset : ∀ i j, w'.stageSound (Function.update w.seen i .idle j) := by
    intro i j
    by_cases hj : j = i
    · subst hj
      rw [Function.update_self]
      trivial
    · rw [Function.update_of_ne hj]
      exact hkept.stageSound (h.stages j)
  have hupdate : ∀ i stage, w'.stageSound stage → ∀ j,
      w'.stageSound (Function.update w.seen i stage j) := by
    intro i stage hstage j
    by_cases hj : j = i
    · subst hj
      rw [Function.update_self]
      exact hstage
    · rw [Function.update_of_ne hj]
      exact hkept.stageSound (h.stages j)
  have hlate := fun o ho => hkept.opPledged (h.late o ho)
  have hposts := h.posts_kept hkept
  cases hstep with
  | external hexternal =>
      exact h.step_of hkept (hquiet rfl) (fun i => hkept.stageSound (h.stages i)) hlate hposts
        h.again
  | start | crash =>
      exact h.step_of hkept (hquiet rfl) (hreset _) hlate hposts h.again
  | @perform i o answer store hallows hserve =>
      have hpledged : ((w.asked i o answer).settled store w.late).opPledged w.queue o := by
        have hasked' := h.pledged honce answer hallows
        have hafter := @DispatchKept.of_asked _ _ w i o answer store event w.late hkept.event
        cases o with
        | resolve => exact hafter.sitePledged hasked'
        | _ => exact hasked'
      have hstage := h.stage_served honce hallows hserve hkept
      refine h.step_of hkept (hserved o rfl hpledged) (hupdate i _ hstage) hlate ?_ ?_
      · intro post hpost
        cases o with
        | handoff current =>
            rcases List.mem_cons.mp hpost with rfl | hold
            · obtain ⟨lease, hseen⟩ := hallows
              have hnow := hkept.stageSound (h.stages i)
              rw [hseen] at hnow
              exact ⟨hnow.1, hnow.2 rfl⟩
            · exact hposts post hold
        | _ => exact hposts post hpost
      · cases o with
        | handoff current =>
            obtain ⟨lease, hseen⟩ := hallows
            refine List.pairwise_cons.mpr ⟨?_, h.again⟩
            intro earlier hearlier hphoto hgroup
            exact h.refused_before honce hseen hearlier hphoto hgroup
        | _ => exact h.again
  | @lose i o answer hallows hlost =>
      have hpledged := h.pledged honce answer hallows
      have hsame : postsOf (⟨i, o, answer⟩ :: w.log) = postsOf w.log := by
        cases o with
        | handoff => exact hlost.elim
        | _ => rfl
      refine h.step_of hkept (hquiet rfl) (hupdate i _ (h.stage_lost hlost hkept)) ?_ ?_ ?_
      · intro other hother
        rcases List.mem_cons.mp hother with rfl | hother
        · have hafter := @DispatchKept.of_asked _ _ w i other answer w.store .outside
            (other :: w.late) (.outside rfl)
          exact hafter.opPledged hpledged
        · exact hlate other hother
      · rw [hsame]
        exact hposts
      · rw [hsame]
        exact h.again
  | @late front back o answer store hsplit hserve =>
      have hmem : o ∈ w.late := by
        rw [hsplit]
        exact List.mem_append_right _ List.mem_cons_self
      have hpledged : (w.settled store (front ++ back)).opPledged w.queue o := by
        have ho := h.late o hmem
        cases o with
        | resolve => exact hkept.sitePledged ho
        | _ => exact ho
      refine h.step_of hkept (hserved o rfl hpledged) (fun i => hkept.stageSound (h.stages i)) ?_
        hposts h.again
      intro other hother
      apply hlate
      rw [hsplit]
      rcases List.mem_append.mp hother with hother | hother
      · exact List.mem_append_left _ hother
      · exact List.mem_append_right _ (List.mem_cons_of_mem _ hother)

omit [DecidableEq ι] in
theorem DispatchSound.initially (hw : WatchInitial DispatchStore.initial .idle w) :
    DispatchSound w := by
  obtain ⟨store, seen, late, log⟩ := w
  obtain ⟨hstore, hseen, hlate, hlog⟩ := hw
  dsimp only at hstore hseen hlate hlog
  subst hstore hlate hlog
  refine ⟨⟨emptyDb, [], rfl, Run.nil _⟩, ?_, ?_, ?_, ?_, ?_, List.Pairwise.nil⟩
  · intro i
    dsimp only
    rw [hseen i]
    trivial
  · intro o ho
    cases ho
  · intro row hrow
    cases hrow
  · intro resolution hresolution
    cases hresolution
  · intro post hpost
    cases hpost

theorem dispatchSound_reachable
    (hw : Reachable (WatchStep dispatchMachine dispatchMonitor .idle)
      (WatchInitial DispatchStore.initial .idle) w) : DispatchSound w ∧ DispatchOnce w := by
  apply Reachable.invariant hw
  · intro first hfirst
    refine ⟨DispatchSound.initially hfirst, ?_, ?_⟩
    · rw [hfirst.log]
      exact Once.initially fun i => by rw [hfirst.seen i]; rfl
    · rw [hfirst.log]
      exact Once.initially fun i => by rw [hfirst.seen i]; rfl
  · rintro before act after ⟨hsound, honce⟩ hstep
    exact ⟨hsound.step honce hstep,
      postGrants.step hstep honce.posts, beginGrants.step hstep honce.begins⟩

end Runs

/-! ## What the dispatchers guarantee -/

/-- The reasons of a resolution whose attempt was never posted. -/
def neverPosted : List String :=
  ["abandoned_before_dispatch", "rate_capacity_unavailable", "safe_read_unavailable",
    "flickr_read_failure", "pre_add_membership_observation", "not_dispatched_preflight_expired"]

/-- A resolution says what became of the POST of its attempt. -/
structure AttemptResolution.TellsPost (resolution : AttemptResolution) (posts : List GroupPost) :
    Prop where
  never : resolution.reason ∈ neverPosted →
    ∀ post ∈ posts, post.current.attemptId ≠ resolution.attemptId
  aborted : resolution.reason = "not_dispatched_transport_aborted" → ∃ post ∈ posts,
    post.current.attemptId = resolution.attemptId ∧ post.answer = .error .notDispatched
  answered : resolution.reason ∉ neverPosted →
    resolution.reason ≠ "not_dispatched_transport_aborted" →
    resolution.reason ≠ "unresolved_dispatch" → ∃ post ∈ posts,
      post.current.attemptId = resolution.attemptId ∧ ∃ result, post.answer = .ok result ∧
        resolution.outcome = (classifyAdd result).outcome ∧
        resolution.reason = (classifyAdd result).reason

/-- The reasons of an answer are no others. -/
theorem classifyAdd_reason (result : AddResult) :
    (classifyAdd result).reason ∉ neverPosted ∧
      (classifyAdd result).reason ≠ "not_dispatched_transport_aborted" := by
  have hcodes : ∀ code ∈ [(1 : Int), 2, 4, 8, 10, 11, 116] ++
      ([98, 99] ++ [95, 96, 97, 100, 111, 112, 114, 115]),
      flickrCodeReason code ∉ neverPosted ∧
        flickrCodeReason code ≠ "not_dispatched_transport_aborted" := by
    decide +kernel
  have htexts : ∀ reason ∈ ["flickr_added", "flickr_code_3"] ++
      (["flickr_code_6", "flickr_code_7"] ++
        (["flickr_code_105", "flickr_code_106"] ++ ["flickr_code_5", "unknown_code"])),
      reason ∉ neverPosted ∧ reason ≠ "not_dispatched_transport_aborted" := by
    decide +kernel
  rcases classifyAdd_cases result with ⟨_, hreason, h⟩ | ⟨_, hreason, h⟩ | ⟨_, hreason, h⟩ | h |
    ⟨code, hcode, _, h⟩ | ⟨code, hcode, _, h⟩ | ⟨code, hcode, _, h⟩ | ⟨_, _, _, h⟩
  · rw [h]
    exact htexts _ (List.mem_append_left _ hreason)
  · rw [h]
    exact htexts _ (List.mem_append_right _ (List.mem_append_left _ hreason))
  · rw [h]
    exact htexts _ (List.mem_append_right _ (List.mem_append_right _
      (List.mem_append_left _ hreason)))
  · rw [h]
    exact htexts _ (by decide)
  · rw [h]
    exact hcodes _ (List.mem_append_left _ hcode)
  · rw [h]
    exact hcodes _ (List.mem_append_right _ (List.mem_append_left _ hcode))
  · rw [h]
    exact hcodes _ (List.mem_append_right _ (List.mem_append_right _ hcode))
  · rw [h]
    exact htexts _ (by decide)

/-- What an invariant of the rows says of a resolution. -/
theorem DispatchSound.tells {w : DispatchWatch ι} (h : DispatchSound w)
    {resolution : AttemptResolution} (hmem : resolution ∈ w.queue.resolutions) :
    resolution.TellsPost (postsOf w.log) := by
  obtain ⟨site, artifact, houtcome, hreason, hsite⟩ := h.resolutions resolution hmem
  have hspared : w.spared resolution.attemptId →
      ∀ post ∈ postsOf w.log, post.current.attemptId ≠ resolution.attemptId := by
    intro hspared post hpost hid
    apply hspared.2.2
    rw [handedOff_eq_posts]
    exact List.mem_map.mpr ⟨post, hpost, hid⟩
  obtain ⟨haborted, hunresolved, hapart⟩ :
      "not_dispatched_transport_aborted" ∉ neverPosted ∧ "unresolved_dispatch" ∉ neverPosted ∧
        "unresolved_dispatch" ≠ "not_dispatched_transport_aborted" := by
    decide +kernel
  -- a reason of one kind makes the other two statements empty
  have hnever : ∀ text, text ∈ neverPosted → resolution.reason = text →
      (∀ post ∈ postsOf w.log, post.current.attemptId ≠ resolution.attemptId) →
      resolution.TellsPost (postsOf w.log) := by
    rintro text hkind rfl hposts
    refine ⟨fun _ => hposts, ?_, fun hother => absurd hkind hother⟩
    intro hsame
    rw [hsame] at hkind
    exact absurd hkind haborted
  have hopen : resolution.reason = "unresolved_dispatch" →
      resolution.TellsPost (postsOf w.log) := by
    intro hsame
    refine ⟨?_, ?_, fun _ _ hother => absurd hsame hother⟩
    · intro hkind
      rw [hsame] at hkind
      exact absurd hkind hunresolved
    · intro hkind
      exact absurd (hsame.symm.trans hkind) hapart
  cases site with
  | recovered marked =>
      cases marked with
      | true => exact hopen hreason
      | false =>
          apply hnever "abandoned_before_dispatch" (by decide) hreason
          intro post hpost hid
          have hmarked := (h.posts post hpost).2.1
          rw [hid] at hmarked
          exact Bool.false_ne_true (hsite.symm.trans hmarked)
  | rateUnavailable =>
      exact hnever "rate_capacity_unavailable" (by decide) hreason (hspared hsite)
  | unavailable code =>
      cases code with
      | none => exact hnever "safe_read_unavailable" (by decide) hreason (hspared hsite)
      | some code =>
          exact hnever "flickr_read_failure" (by decide) hreason (hspared hsite)
  | membershipPresent =>
      exact hnever "pre_add_membership_observation" (by decide) hreason (hspared hsite)
  | preflightExpired =>
      exact hnever "not_dispatched_preflight_expired" (by decide) hreason
        (hspared hsite)
  | transportAborted =>
      have hsame : resolution.reason = "not_dispatched_transport_aborted" := hreason
      refine ⟨?_, fun _ => hsite, fun _ hother => absurd hsame hother⟩
      intro hkind
      rw [hsame] at hkind
      exact absurd hkind haborted
  | unresolvedDispatch => exact hopen hreason
  | answered result =>
      have hclass := classifyAdd_reason result
      have hsame : resolution.reason = (classifyAdd result).reason := hreason
      rw [← hsame] at hclass
      obtain ⟨post, hpost, hid, hanswer⟩ := hsite
      exact ⟨fun hkind => absurd hkind hclass.1, fun haborted => absurd haborted hclass.2,
        fun _ _ _ => ⟨post, hpost, hid, result, hanswer, houtcome, hsame⟩⟩

/-- Whatever the dispatchers do from the empty database on, beside every other call of the queue:
an attempt is posted at most once, and only marked, with the photo seen outside the group and
with its preflight; every resolution tells what became of the POST; and a pair of a photo and a
group is posted again only after every earlier POST of it was refused. -/
theorem group_posts_once [DecidableEq ι] {p : Pool DispatchStore ι DispatchOp.Answer}
    (hp : Reachable (PoolStep dispatchMachine) (PoolInitial DispatchStore.initial) p) :
    ((postsOf p.log).map fun post => post.current.attemptId).Nodup ∧
    (∀ post ∈ postsOf p.log, attemptKnown p.store.db.queue post.current ∧
      attemptReady p.store.db.queue post.current.attemptId) ∧
    (∀ resolution ∈ p.store.db.queue.resolutions, resolution.TellsPost (postsOf p.log)) ∧
    (postsOf p.log).Pairwise fun later earlier =>
      later.current.photoId = earlier.current.photoId →
        later.current.groupId = earlier.current.groupId → earlier.refused := by
  obtain ⟨w, hw, hwatches⟩ := watched dispatchMachine_follows hp
  obtain ⟨hsound, honce⟩ := dispatchSound_reachable hw
  rw [← hwatches.store, ← hwatches.log]
  refine ⟨?_, hsound.posts, fun resolution hmem => hsound.tells hmem, hsound.again⟩
  rw [← handedOff_eq_posts]
  exact honce.posts.nodup

namespace DispatchSample

/-- The clock of the database jumps by some minutes once an attempt is resolved. -/
def now (s : DispatchStore) : ClockReading :=
  if s.db.queue.resolutions.rows = [] then Sample.clock 5 else Sample.clock 400000000

/-- One of two ids, by the same reading. -/
def drawn (s : DispatchStore) (first second : Token) : Token :=
  if s.db.queue.resolutions.rows = [] then first else second

def leaseId (s : DispatchStore) : Token :=
  drawn s ⟨"lease-1", Eq.refl true⟩ ⟨"lease-2", Eq.refl true⟩

def attemptId (s : DispatchStore) : Token :=
  drawn s ⟨"attempt-1", Eq.refl true⟩ ⟨"attempt-2", Eq.refl true⟩

def windowId (s : DispatchStore) : Token :=
  drawn s ⟨"window-1", Eq.refl true⟩ ⟨"window-2", Eq.refl true⟩

def reservationId (s : DispatchStore) : Token :=
  drawn s ⟨"reservation-1", Eq.refl true⟩ ⟨"reservation-2", Eq.refl true⟩

/-- The database does all it is asked; Flickr refuses the first POST for now and takes the
second. -/
def oracle (s : DispatchStore) : (o : DispatchOp) → Option (o.Answer × DispatchStore)
  | .lifetime _ | .fault _ | .prepareAdd _ => some (.ok (), s)
  | .owner partitionId => some (.ok ((s.db.queue.partitions.find? partitionId).map
      GroupPartition.userId), s)
  | .workerGrant userId => some (.ok (workerGrant s.db.flickr userId), s)
  | .claim partitionId revision policy =>
      (claimPartition s.db partitionId (leaseId s) revision policy (now s)).map
        fun (db, lease) => (.ok (some lease), { s with db := db })
  | .unfinished lease => some (.ok (s.db.queue.unfinished lease), s)
  | .begin lease =>
      (begin s.db lease (attemptId s) (now s) (now s)).bind fun db =>
        (s.db.queue.intents.find? lease.headId).map fun intent =>
          (.ok ⟨attemptId s, lease.headId, intent.photoId, intent.groupId, false⟩,
            { s with db := db })
  | .record lease attemptId kind =>
      (record s.db lease attemptId kind (now s) (now s)).map fun db =>
        (.ok (), { s with db := db })
  | .counts lease => some (.ok (failureCounts s.db.queue lease.headId), s)
  | .resolve lease attemptId site artifact counts =>
      (resolveAttempt s.db lease attemptId (site.resolution artifact) counts
        (fun failures => retryDelayMs failures 0)
        ⟨now s, now s, now s, now s, now s⟩).map fun db => (.ok (), { s with db := db })
  | .rejectGrant _ => some (.ok (), s)
  | .beforePreflight lease => some (.ok (decide (preflightLeased s.db.queue lease (now s).us)), s)
  | .reserve attempt =>
      if windowId s ∈ s.windows then none
      else
        (reserveFlickrAttempt s.db attempt (reservationId s) (windowId s) (now s) (now s)).bind
          fun db => (s.handles.insert? ⟨reservationId s, attempt, [], false⟩).map fun handles =>
            (some (reservationId s),
              { s with db := db, handles := handles, windows := windowId s :: s.windows })
  | .rateRetryDelayMs => some (.ok (rateRetryDelay s.db.rate.window (now s).us), s)
  | .check id attempt => (s.handles.find? id).map fun handle =>
      (.ok (handle.admits attempt &&
        decide (reservationHolds s.db id handle.attempt.attemptId (now s).us)), s)
  | .consume id operation => (s.handles.find? id).bind fun handle =>
      (handle.consume operation).map fun after =>
        (true, { s with handles := s.handles.set after })
  | .proveAddNotSent _ => none
  | .close id => (s.handles.find? id).bind fun handle =>
      if handle.released = true then none
      else some (some handle.used.length,
        { s with handles := s.handles.set { handle with released := true } })
  | .refund id used => (releaseReservation s.db.rate id used).map fun rate =>
      (.ok (), { s with db := { s.db with rate := rate } })
  | .monotonicUs => some (5, s)
  | .membership _ => some (.ok false, s)
  | .preflight _ => some (.ok true, s)
  | .handoff _ =>
      some (.ok (if s.db.queue.resolutions.rows = [] then .code 105 else .ok), s)

theorem oracle_serve (s : DispatchStore) (o : DispatchOp) (answer : o.Answer)
    (s' : DispatchStore) (h : oracle s o = some (answer, s')) :
    dispatchMachine.serve s o answer s' := by
  cases o with
  | claim partitionId revision policy =>
      obtain ⟨⟨db, lease⟩, hclaim, h⟩ := Option.map_eq_some_iff.mp h
      cases h
      exact ⟨db, Or.inr ⟨lease, _, _, rfl, hclaim⟩, rfl⟩
  | begin lease =>
      obtain ⟨db, hbegin, h⟩ := Option.bind_eq_some_iff.mp h
      obtain ⟨intent, hintent, h⟩ := Option.map_eq_some_iff.mp h
      cases h
      exact ⟨db, ⟨_, _, _, hbegin, intent, hintent, rfl⟩, rfl⟩
  | record lease attemptId kind =>
      obtain ⟨db, hrecord, h⟩ := Option.map_eq_some_iff.mp h
      cases h
      exact ⟨db, ⟨_, _, hrecord⟩, rfl⟩
  | resolve lease attemptId site artifact counts =>
      obtain ⟨db, hresolve, h⟩ := Option.map_eq_some_iff.mp h
      cases h
      exact ⟨db, ⟨0, _, hresolve⟩, rfl⟩
  | rejectGrant snapshot =>
      cases h
      exact ⟨_, Or.inl rfl, rfl⟩
  | beforePreflight lease =>
      cases h
      refine ⟨rfl, ?_⟩
      intro value hvalue
      exact ⟨_, (Except.ok.inj hvalue).symm⟩
  | rateRetryDelayMs =>
      cases h
      refine ⟨rfl, ?_⟩
      intro value hvalue
      exact ⟨_, (Except.ok.inj hvalue).symm⟩
  | owner | workerGrant | unfinished | counts =>
      cases h
      refine ⟨rfl, ?_⟩
      intro value hvalue
      exact (Except.ok.inj hvalue).symm
  | reserve attempt =>
      obtain ⟨hfresh, h⟩ := Option.ite_none_left_eq_some.mp h
      obtain ⟨db, hreserve, h⟩ := Option.bind_eq_some_iff.mp h
      obtain ⟨handles, hhandles, h⟩ := Option.map_eq_some_iff.mp h
      cases h
      exact ⟨_, _, _, db, handles, hfresh, hreserve, hhandles, rfl⟩
  | check id attempt =>
      obtain ⟨handle, hhandle, h⟩ := Option.map_eq_some_iff.mp h
      cases h
      refine ⟨rfl, ?_⟩
      intro value hvalue
      exact ⟨handle, hhandle, _, (Except.ok.inj hvalue).symm⟩
  | consume id operation =>
      obtain ⟨handle, hhandle, h⟩ := Option.bind_eq_some_iff.mp h
      obtain ⟨after, hafter, h⟩ := Option.map_eq_some_iff.mp h
      cases h
      refine ⟨handle, hhandle, ?_⟩
      rw [hafter]
      exact ⟨rfl, rfl⟩
  | proveAddNotSent => cases h
  | close id =>
      obtain ⟨handle, hhandle, h⟩ := Option.bind_eq_some_iff.mp h
      obtain ⟨hopen, h⟩ := Option.ite_none_left_eq_some.mp h
      cases h
      refine ⟨handle, hhandle, ?_⟩
      rw [if_neg hopen]
      exact ⟨rfl, rfl⟩
  | refund id used =>
      obtain ⟨rate, hrefund, h⟩ := Option.map_eq_some_iff.mp h
      cases h
      exact ⟨_, ⟨rate, hrefund, rfl⟩, rfl⟩
  | _ =>
      cases h
      rfl

/-- The program of an invocation for the partition of the sample. -/
def program : Prog DispatchOp.Answer Unit :=
  (consumePartition true none Sample.partition none).run >>= fun _ => pure ()

/-- The photo is admitted to the group. -/
def admission : QueueCall :=
  .admitRequest ⟨Sample.installation, "digest-1"⟩ Sample.request Sample.requestId
    [(Sample.partition, Sample.intent)] (Sample.clock 1)

def posted (db : Db) : Pool DispatchStore Unit DispatchOp.Answer :=
  (Pool.idle ⟨db, .empty, [], []⟩).playAll oracle () 60 [program, program]

theorem posted_reachable {db : Db} (hdb : admission.exec Sample.db = some db) :
    Reachable (PoolStep dispatchMachine) (PoolInitial DispatchStore.initial) (posted db) := by
  have hstart : Reachable (PoolStep dispatchMachine) (PoolInitial DispatchStore.initial)
      (Pool.idle ⟨emptyDb, .empty, [], []⟩ : Pool DispatchStore Unit DispatchOp.Answer) :=
    ⟨Pool.idle ⟨emptyDb, .empty, [], []⟩, [], ⟨rfl, fun _ => rfl, rfl, rfl⟩, Run.nil _⟩
  have hlinked := hstart.extend (PoolStep.external
    (@BesideDispatch.connection ⟨emptyDb, .empty, [], []⟩ Sample.db rfl rfl))
  have hadmitted := hlinked.extend (PoolStep.external
    (@BesideDispatch.call ⟨Sample.db, .empty, [], []⟩ admission db rfl hdb))
  have hprograms : ∀ other ∈ [program, program], dispatchMachine.program other := by
    intro other hother
    simp only [List.mem_cons, List.not_mem_nil, or_false, or_self] at hother
    exact ⟨true, none, Sample.partition, none, hother⟩
  obtain ⟨trace, hrun⟩ := Pool.run_playAll oracle_serve () 60 hprograms
    (Pool.idle ⟨db, .empty, [], []⟩ : Pool DispatchStore Unit DispatchOp.Answer)
  exact hadmitted.run hrun

/-- Two dispatchers post the photo: the first POST is refused for now, the second one adds it. -/
theorem posted_answers : ∃ db, admission.exec Sample.db = some db ∧
    (postsOf (posted db).log).map GroupPost.answer = [.ok .ok, .ok (.code 105)] := by
  have hsome : (admission.exec Sample.db).isSome = true := by decide +kernel
  obtain ⟨db, hdb⟩ := Option.isSome_iff_exists.mp hsome
  have hfacts : ∀ db ∈ admission.exec Sample.db,
      (postsOf (posted db).log).map GroupPost.answer = [.ok .ok, .ok (.code 105)] := by
    decide +kernel
  exact ⟨db, hdb, hfacts db hdb⟩

end DispatchSample

theorem group_posts_once_sample : ∃ p : Pool DispatchStore Unit DispatchOp.Answer,
    Reachable (PoolStep dispatchMachine) (PoolInitial DispatchStore.initial) p ∧
    (postsOf p.log).map GroupPost.answer = [.ok .ok, .ok (.code 105)] ∧
    ((postsOf p.log).map fun post => post.current.attemptId).Nodup := by
  obtain ⟨db, hdb, hanswers⟩ := DispatchSample.posted_answers
  have hreachable := DispatchSample.posted_reachable hdb
  exact ⟨_, hreachable, hanswers, (group_posts_once hreachable).1⟩

end FlickrGroupAddr
