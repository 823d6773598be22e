import FlickrGroupAddr.GroupPosts

/-!
# The accounts of the rate window

The window of the key has sixty slots.  Dispatchers reserve three of them for an attempt and give
back what it did not use, at any time later and once; every other call of Flickr is charged for
good.  Windows follow one another.  No window ever gives more slots than it has, and the row of the
current one says exactly how many are taken.
-/

namespace FlickrGroupAddr

set_option autoImplicit false

open KeyedTable Program Workers Transition

/-- The slots that a reservation takes: three, and what was used once it is released. -/
def RateReservation.slots (reservation : RateReservation) : Nat :=
  if reservation.released = true then reservation.consumedSlots.getD 0 else 3

/-- The slots that the reservations of a window take. -/
def RateTables.reservedIn (r : RateTables) (windowId : Token) : Nat :=
  r.reservations.sumBy fun row => if row.windowId = windowId then row.slots else 0

theorem reserveFlickrAttempt_effect {db db' : Db} {attempt : Attempt} {id fresh : Token}
    {opening guarding : ClockReading}
    (h : reserveFlickrAttempt db attempt id fresh opening guarding = some db') :
    ∃ row, row = RateWindow.opened db.rate.window fresh opening.us ∧ row.admits 3 guarding.us ∧
      db'.rate.window = some { row with reservedSlots := row.reservedSlots + (3 : Nat) } ∧
      ∀ windowId, db'.rate.reservedIn windowId =
        db.rate.reservedIn windowId + if row.windowId = windowId then 3 else 0 := by
  unfold reserveFlickrAttempt at h
  dsimp only at h
  split at h
  · next hguard =>
      obtain ⟨reservations, hinsert, rfl⟩ := Option.map_eq_some_iff.mp h
      exact ⟨_, rfl, hguard.1, rfl, fun windowId => Table.sumBy_insert? hinsert _⟩
  · cases h

theorem releaseReservation_effect {r r' : RateTables} {id : Token} {used : Nat}
    (h : releaseReservation r id used = some r') : ∃ reservation : RateReservation, used ≤ 3 ∧
      RateWindow.refunded r.window reservation.windowId (3 - used) = some r'.window ∧
      ∀ windowId, r'.reservedIn windowId +
        (if reservation.windowId = windowId then 3 - used else 0) = r.reservedIn windowId := by
  obtain ⟨reservation, hfind, h⟩ := Option.bind_eq_some_iff.mp h
  split at h
  · next hopen =>
      obtain ⟨window, hwindow, h⟩ := Option.bind_eq_some_iff.mp h
      cases h
      refine ⟨reservation, hopen.2, hwindow, ?_⟩
      intro windowId
      have hsum := @Table.sumBy_modify _ _ _ _ r.reservations id
        (fun row => { row with released := true, consumedSlots := some used }) (fun _ => rfl)
        reservation hfind (fun row => if row.windowId = windowId then row.slots else 0)
      simp only [RateTables.reservedIn, RateReservation.slots, hopen.1] at hsum ⊢
      split at hsum
      · next hsame =>
          rw [if_pos hsame]
          simp only [Option.getD_some, if_true, Bool.false_eq_true, if_false] at hsum
          omega
      · next hother =>
          rw [if_neg hother]
          exact hsum
  · cases h

namespace DispatchStore

/-- The slots that the other calls were charged in a window. -/
def chargedIn (s : DispatchStore) (windowId : Token) : Nat :=
  ((s.charges.filter fun charge => decide (charge.windowId = windowId)).map
    RateCharge.slots).sum

/-- The slots that are taken in a window. -/
def takenIn (s : DispatchStore) (windowId : Token) : Nat :=
  s.db.rate.reservedIn windowId + s.chargedIn windowId

/-- The current window is one of those that were opened and counts the slots taken in it. -/
structure RateSound (s : DispatchStore) : Prop where
  window : ∀ row ∈ s.db.rate.window, row.windowId ∈ s.windows ∧
    row.reservedSlots = s.takenIn row.windowId
  bounded : ∀ windowId, s.takenIn windowId ≤ ratePolicyCapacity
  unopened : ∀ windowId, windowId ∉ s.windows → s.takenIn windowId = 0

variable {s s' : DispatchStore}

theorem RateSound.same (h : RateSound s) (hrate : s'.db.rate = s.db.rate)
    (hwindows : s'.windows = s.windows) (hcharges : s'.charges = s.charges) : RateSound s' := by
  have htaken : s'.takenIn = s.takenIn := by
    funext windowId
    simp only [takenIn, chargedIn, hrate, hcharges]
  constructor
  · rw [hrate, hwindows, htaken]
    exact h.window
  · rw [htaken]
    exact h.bounded
  · rw [hwindows, htaken]
    exact h.unopened

/-- Where slots are taken: in the current window, or in a new one without any. -/
theorem RateSound.opened (h : RateSound s) {fresh : Token} (hfresh : fresh ∉ s.windows)
    {row : RateWindow} {now : Us} (hrow : row = RateWindow.opened s.db.rate.window fresh now) :
    row.windowId ∈ fresh :: s.windows ∧ row.reservedSlots = s.takenIn row.windowId := by
  subst hrow
  have hnew : (0 : Int) = s.takenIn fresh := by rw [h.unopened fresh hfresh]; rfl
  cases hwindow : s.db.rate.window with
  | none => exact ⟨List.mem_cons_self, hnew⟩
  | some row =>
      simp only [RateWindow.opened]
      split
      · exact ⟨List.mem_cons_self, hnew⟩
      · obtain ⟨hopened, htaken⟩ := h.window row hwindow
        exact ⟨List.mem_cons_of_mem fresh hopened, htaken⟩

/-- A batch takes slots that the window admits. -/
theorem RateSound.takes (h : RateSound s) {fresh : Token} (hfresh : fresh ∉ s.windows)
    {row : RateWindow} {opening guarding : Us} {n : Nat}
    (hrow : row = RateWindow.opened s.db.rate.window fresh opening) (hadmits : row.admits n guarding)
    (hwindow : s'.db.rate.window = some { row with reservedSlots := row.reservedSlots + n })
    (hwindows : s'.windows = fresh :: s.windows)
    (htaken : ∀ windowId,
      s'.takenIn windowId = s.takenIn windowId + if row.windowId = windowId then n else 0) :
    RateSound s' := by
  obtain ⟨hopened, hreserved⟩ := h.opened hfresh hrow
  obtain ⟨hcapacity, _, hroom, _⟩ := hadmits
  constructor
  · intro row' hrow'
    cases hwindow.symm.trans hrow'
    rw [hwindows, htaken, if_pos rfl]
    exact ⟨hopened, by simp only [hreserved, Nat.cast_add]⟩
  · intro windowId
    rw [htaken]
    split
    · next hsame =>
        rw [hreserved, hsame, hcapacity] at hroom
        exact_mod_cast hroom
    · exact h.bounded windowId
  · intro windowId hunopened
    rw [hwindows] at hunopened
    have hother : row.windowId ≠ windowId := fun hsame => hunopened (hsame ▸ hopened)
    rw [htaken, if_neg hother]
    exact h.unopened windowId fun hmem => hunopened (List.mem_cons_of_mem fresh hmem)

/-- A release gives back what was not used, to the window it was taken from. -/
theorem RateSound.released (h : RateSound s) {id : Token} {used : Nat}
    (hrelease : releaseReservation s.db.rate id used = some s'.db.rate)
    (hwindows : s'.windows = s.windows) (hcharges : s'.charges = s.charges) : RateSound s' := by
  obtain ⟨reservation, hused, hwindow, hreserved⟩ := releaseReservation_effect hrelease
  have htaken : ∀ windowId, s'.takenIn windowId +
      (if reservation.windowId = windowId then 3 - used else 0) = s.takenIn windowId := by
    intro windowId
    rw [takenIn, takenIn, ← hreserved windowId, chargedIn, chargedIn, hcharges]
    omega
  constructor
  · intro row hrow
    rw [Option.mem_def.mp hrow] at hwindow
    cases hbefore : s.db.rate.window with
    | none =>
        rw [hbefore] at hwindow
        cases hwindow
    | some before =>
        obtain ⟨hopened, hcounted⟩ := h.window before hbefore
        rw [← htaken] at hcounted
        rw [hbefore] at hwindow
        rw [hwindows]
        simp only [RateWindow.refunded] at hwindow
        split at hwindow
        · next hsame =>
            split at hwindow
            · cases hwindow
              rw [if_pos hsame.symm] at hcounted
              refine ⟨hopened, ?_⟩
              dsimp only
              omega
            · cases hwindow
        · next hother =>
            cases hwindow
            rw [if_neg (Ne.symm hother)] at hcounted
            exact ⟨hopened, hcounted⟩
  · intro windowId
    have hkept := h.bounded windowId
    rw [← htaken] at hkept
    omega
  · intro windowId hunopened
    rw [hwindows] at hunopened
    have hnone := h.unopened windowId hunopened
    rw [← htaken] at hnone
    omega

/-- A batch that does not fail has its effect. -/
theorem RateSound.batch (h : RateSound s) {α : Type} {effect : α → Db → Prop}
    {answer : Except DispatchFault α} (hanswered : batchAnswered s effect answer s')
    (heffect : ∀ value db', effect value db' → RateSound { s with db := db' }) : RateSound s' := by
  rcases hanswered.cases with rfl | ⟨value, db', _, hdone, rfl⟩
  · exact h
  · exact heffect value db' hdone

theorem RateSound.serve (h : RateSound s) {o : DispatchOp} {answer : o.Answer}
    (hserve : o.serve s answer s') : RateSound s' := by
  cases o with
  | claim =>
      apply h.batch hserve
      rintro _ db' (⟨_, rfl⟩ | ⟨_, _, _, _, hclaim⟩)
      · exact h
      · exact h.same (by rw [(claimPartition_effect hclaim).1]) rfl rfl
  | begin =>
      apply h.batch hserve
      rintro _ db' ⟨_, _, _, hbegin, _⟩
      obtain ⟨_, _, _, _, _, rfl⟩ := begin_effect hbegin
      exact h.same rfl rfl rfl
  | record =>
      apply h.batch hserve
      rintro _ db' ⟨_, _, hrecord⟩
      obtain ⟨_, _, _, rfl⟩ := record_effect hrecord
      exact h.same rfl rfl rfl
  | resolve =>
      apply h.batch hserve
      rintro _ db' ⟨_, _, hresolve⟩
      obtain ⟨_, _, _, _, _, _, rfl⟩ := resolveAttempt_effect hresolve
      exact h.same rfl rfl rfl
  | rejectGrant =>
      apply h.batch hserve
      rintro _ db' (rfl | ⟨_, _, _, _, _, rfl⟩)
      · exact h
      · exact h.same rfl rfl rfl
  | refund id used =>
      apply h.batch hserve
      rintro _ db' ⟨rate, hrelease, rfl⟩
      exact h.released hrelease rfl rfl
  | reserve attempt =>
      cases answer with
      | none => exact (show s' = s from hserve) ▸ h
      | some id =>
          obtain ⟨fresh, opening, guarding, db', handles, hfresh, hreserve, _, rfl⟩ := hserve
          obtain ⟨row, hrow, hadmits, hwindow, hreserved⟩ := reserveFlickrAttempt_effect hreserve
          refine h.takes hfresh hrow hadmits hwindow rfl ?_
          intro windowId
          simp only [takenIn, hreserved, chargedIn]
          omega
  | consume | proveAddNotSent | close =>
      obtain ⟨handle, _, hserve⟩ := hserve
      split at hserve
      · exact hserve.2 ▸ h
      · rw [hserve.2]
        exact h.same rfl rfl rfl
  | owner | workerGrant | unfinished | counts | beforePreflight | rateRetryDelayMs | check =>
      exact hserve.1 ▸ h
  | lifetime | fault | monotonicUs | membership | preflight | prepareAdd | handoff =>
      exact (show s' = s from hserve) ▸ h

theorem RateSound.beside (h : RateSound s) (hbeside : BesideDispatch s s') : RateSound s' := by
  cases hbeside with
  | @call call db' hother hexec =>
      refine h.same ?_ rfl rfl
      cases call with
      | admitRequest =>
          obtain ⟨_, hadmission, rfl⟩ := Option.map_eq_some_iff.mp hexec
          dsimp only
          rw [(admitRequest_steps hadmission).2]
      | renew =>
          obtain ⟨_, _, _, rfl⟩ := renewLease_effect hexec
          rfl
      | release =>
          obtain ⟨_, rfl⟩ := releaseLease_effect hexec
          rfl
      | defer =>
          obtain ⟨_, _, _, rfl⟩ := deferHead_effect hexec
          rfl
      | claim | begin | record | resolve => cases hother
  | connection hqueue hrate => exact h.same hrate rfl rfl
  | @charge slots fresh opening guarding rate charge hfresh hcharge =>
      obtain ⟨hadmits, hcharge⟩ := Option.ite_none_right_eq_some.mp hcharge
      cases hcharge
      refine h.takes hfresh rfl hadmits rfl rfl ?_
      intro windowId
      simp only [takenIn, chargedIn, List.filter_cons, decide_eq_true_eq]
      split
      · simp only [RateTables.reservedIn, List.map_cons, List.sum_cons]
        omega
      · rfl

theorem RateSound.initially (h : s.initial) : RateSound s := by
  rw [initial] at h
  subst h
  exact ⟨fun _ hrow => (nomatch hrow), fun _ => Nat.zero_le _, fun _ _ => rfl⟩

end DispatchStore

/-- Whatever the dispatchers, the other callers of Flickr and late refunds do: in no window that
was ever opened are more than sixty slots taken, and the row of the current window says how many
are. -/
theorem rate_window_accounts {ι : Type} [DecidableEq ι] {p : Pool DispatchStore ι DispatchOp.Answer}
    (hp : Reachable (PoolStep dispatchMachine) (PoolInitial DispatchStore.initial) p) :
    (∀ row ∈ p.store.db.rate.window, row.windowId ∈ p.store.windows ∧
      row.reservedSlots = p.store.takenIn row.windowId) ∧
    (∀ windowId, p.store.takenIn windowId ≤ ratePolicyCapacity) ∧
    ∀ windowId, windowId ∉ p.store.windows → p.store.takenIn windowId = 0 := by
  have hsound : p.store.RateSound := by
    apply Reachable.invariant hp
    · intro start hstart
      exact DispatchStore.RateSound.initially hstart.store
    · intro before act after h hstep
      cases hstep with
      | external hexternal => exact h.beside hexternal
      | perform _ hserve | late _ hserve => exact h.serve hserve
      | _ => exact h
  exact ⟨hsound.window, hsound.bounded, hsound.unopened⟩

/-- Both attempts of the sample used their three slots, each in a window of its own. -/
theorem rate_window_accounts_sample : ∃ p : Pool DispatchStore Unit DispatchOp.Answer,
    p.store.db.rate.window.map RateWindow.reservedSlots = some 3 ∧
      p.store.windows.map p.store.takenIn = [3, 3] ∧
      ∀ windowId, p.store.takenIn windowId ≤ ratePolicyCapacity := by
  obtain ⟨db, hdb, _⟩ := DispatchSample.posted_answers
  have hfacts : ∀ db ∈ DispatchSample.admission.exec Sample.db,
      (DispatchSample.posted db).store.db.rate.window.map RateWindow.reservedSlots = some 3 ∧
        (DispatchSample.posted db).store.windows.map (DispatchSample.posted db).store.takenIn =
          [3, 3] := by
    decide +kernel
  obtain ⟨hwindow, htaken⟩ := hfacts db hdb
  exact ⟨_, hwindow, htaken, (rate_window_accounts (DispatchSample.posted_reachable hdb)).2.1⟩

end FlickrGroupAddr
