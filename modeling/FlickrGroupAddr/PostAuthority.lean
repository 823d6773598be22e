import FlickrGroupAddr.GroupPosts

/-!
# What a post is made under

The last record before the hand-off is the marker, and its guard is read in the database: the
lease is live, the gates are open, the revisions are those of the begin and the reservation
holds.  The preflight is younger than a second when the request is handed off, and nothing but
the check of the handle stands between the reading of the clock and the hand-off.
-/

namespace FlickrGroupAddr

set_option autoImplicit false

open KeyedTable Program Workers Transition

abbrev DispatchMove (ι : Type) := Move (Pool DispatchStore ι DispatchOp.Answer)
  (Act ι DispatchOp.Answer)

section Authority

variable {ι : Type} [DecidableEq ι]

/-- What stands behind a hand-off of worker `i` after the steps `front`. -/
structure Authorized (i : ι) (front : List (DispatchMove ι)) (plan : PostPlan) : Prop where
  /-- The worker did all that comes before, then read the clock and spent the handle. -/
  fresh : ∃ now earlier, plan.marked.Sublist earlier ∧
    callOf i front =
      earlier ++ [⟨.monotonicUs, now⟩, ⟨.consume plan.reservation .add, true⟩] ∧
    0 ≤ now - plan.received ∧ now - plan.received < 1000000
  begun : ∃ move ∈ front, ∃ guardNow,
    move.label = .perform ⟨i, .begin plan.lease, .ok plan.current⟩ ∧
      beginGuard move.src.store.db plan.lease guardNow
  marked : ∃ move ∈ front, ∃ guardNow,
    move.label = .perform ⟨i, .record plan.lease plan.current.attemptId
      (.marker (some plan.reservation)), .ok ()⟩ ∧
      recordGuard move.src.store.db plan.lease plan.current.attemptId
        (.marker (some plan.reservation)) guardNow

theorem PostPlan.begun_mem (plan : PostPlan) :
    (⟨.begin plan.lease, .ok plan.current⟩ : Sigma DispatchOp.Answer) ∈ plan.marked := by
  simp [PostPlan.marked, PostPlan.prepared, PostPlan.preflighted, PostPlan.preflightRead,
    PostPlan.leased, PostPlan.absent, PostPlan.membershipRead, PostPlan.begun]

theorem preflightIsFresh_age {received now : Int} (h : preflightIsFresh received now = true) :
    0 ≤ now - received ∧ now - received < 1000000 := by
  simp only [preflightIsFresh, Bool.and_eq_true, decide_eq_true_eq] at h
  exact ⟨h.1.2, h.2⟩

/-- In every run of any number of dispatchers, beside every other call of the queue: a photo is
posted by a worker that claimed the lease, begun the attempt, saw the photo outside the group,
committed the marker and read the clock less than a second after the preflight, in this order;
and the database accepted the begin and the marker under their guards. -/
theorem post_authority {start p : Pool DispatchStore ι DispatchOp.Answer}
    {trace : List (DispatchMove ι)} (hstart : PoolInitial DispatchStore.initial start)
    (hrun : Run (PoolStep dispatchMachine) start trace p) :
    ∀ i current answer, ⟨i, .handoff current, answer⟩ ∈ p.log → ∃ front move back plan,
      trace = front ++ move :: back ∧ move.label = .perform ⟨i, .handoff current, answer⟩ ∧
        plan.current = current ∧ Authorized i front plan := by
  intro i current answer hposted
  obtain ⟨front, move, back, rfl, htells⟩ := run_logged hstart hrun hposted
  have hlabel := (run_performed hrun (List.mem_append_right front List.mem_cons_self) htells
    fun hlost => hlost).1
  have hrule : postRule (callOf i front) (.handoff current) :=
    run_asked dispatchMachine_obeys hstart hrun htells
  obtain ⟨plan, now, rfl, hfresh, earlier, hmarked, hcall⟩ := hrule
  obtain ⟨hfront, _, _⟩ := hrun.around
  have hseen : ∀ seen ∈ plan.marked, seen ∈ callOf i front := by
    intro seen hseen
    rw [hcall]
    exact List.mem_append_left _ (hmarked.subset hseen)
  refine ⟨front, move, back, plan, rfl, hlabel, rfl,
    ⟨now, earlier, hmarked, hcall, preflightIsFresh_age hfresh⟩, ?_, ?_⟩
  · obtain ⟨begin, hbegin, htold⟩ := mem_callOf (hseen _ plan.begun_mem)
    obtain ⟨hlabel', hserve⟩ := run_performed hfront hbegin htold fun hlost => nomatch hlost
    obtain ⟨db', ⟨attemptId, guardNow, updateNow, hbegun, _⟩, _⟩ := hserve
    exact ⟨begin, hbegin, guardNow.us, hlabel', (begin_effect hbegun).1⟩
  · obtain ⟨marking, hmarking, htold⟩ := mem_callOf
      (hseen _ (List.mem_append_right plan.prepared (List.mem_singleton_self _)))
    obtain ⟨hlabel', hserve⟩ := run_performed hfront hmarking htold fun hlost => nomatch hlost
    obtain ⟨db', ⟨guardNow, updateNow, hrecord⟩, _⟩ := hserve
    exact ⟨marking, hmarking, guardNow.us, hlabel', (record_effect hrecord).1⟩

end Authority

/-- Both posts of the sample are authorized. -/
theorem post_authority_sample : ∃ (p : Pool DispatchStore Unit DispatchOp.Answer) (trace : List _),
    (postsOf p.log).length = 2 ∧ ∀ post ∈ postsOf p.log, ∃ front move back plan,
      trace = front ++ move :: back ∧
        move.label = .perform ⟨(), .handoff post.current, post.answer⟩ ∧
        plan.current = post.current ∧ Authorized () front plan := by
  obtain ⟨db, hdb, hanswers⟩ := DispatchSample.posted_answers
  obtain ⟨start, trace, hstart, hrun⟩ := DispatchSample.posted_reachable hdb
  refine ⟨DispatchSample.posted db, trace, ?_, ?_⟩
  · simpa using congrArg List.length hanswers
  · intro post hpost
    obtain ⟨_, hentry⟩ := mem_postsOf.mp hpost
    exact post_authority hstart hrun () post.current post.answer hentry

end FlickrGroupAddr
