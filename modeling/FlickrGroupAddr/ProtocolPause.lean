import FlickrGroupAddr.ResumeWriteGate

/-!
# Protocol-shaped pauses

A resolution with an undocumented or repair-only code pauses the deployment gate
until a new artifact conforms.  The pause is recorded only while the gate is
enabled, and the cause is looked up at the revision a resumption names, so the
guarantee holds on the runs where neither looks at the wrong event.
-/

namespace FlickrGroupAddr

set_option autoImplicit false

open KeyedTable Transition Relation

/-! ## Protocol-shaped resolutions -/

/-- The artifact of a deployment that resolves an attempt with a protocol-shaped
result. -/
def SystemEvent.protocolArtifact : SystemEvent → Option (Option String)
  | .commit (.queue (.resolve _ _ site artifact _ _ _)) =>
      if protocolShaped (site.resolution artifact).reason
          (site.resolution artifact).options.code then some artifact
      else none
  | _ => none

theorem SystemEvent.protocolArtifact_eq_some {event : SystemEvent} {ran : Option String}
    (h : event.protocolArtifact = some ran) :
    ∃ lease attemptId site counts retryDelay clock,
      event = .commit (.queue (.resolve lease attemptId site ran counts retryDelay clock)) ∧
      protocolShaped (site.resolution ran).reason (site.resolution ran).options.code := by
  unfold SystemEvent.protocolArtifact at h
  split at h
  · next lease attemptId site artifact counts retryDelay clock =>
      split at h
      · next hshape =>
          cases h
          exact ⟨lease, attemptId, site, counts, retryDelay, clock, rfl, hshape⟩
      · cases h
  · cases h

/-- The codes a repair must answer all pause the deployment. -/
theorem classifyAdd_protocol {code : Int}
    (h : code ∈ [(111 : Int), 112, 114, 115] ∨ code ∉ documentedCodes) :
    (classifyAdd (.code code)).pause = some .deployment := by
  rcases h with hrepair | hunknown
  · simp only [List.mem_cons, List.not_mem_nil, or_false] at hrepair
    rcases hrepair with rfl | rfl | rfl | rfl <;> rfl
  · simp only [documentedCodes, List.mem_cons, List.not_mem_nil, or_false, not_or] at hunknown
    have h3 : ¬ code = 3 := by omega
    have h67 : ¬ (code = 6 ∨ code = 7) := by omega
    have h105 : ¬ (code = 105 ∨ code = 106) := by omega
    have h5 : ¬ code = 5 := by omega
    have hattention : code ∉ [(1 : Int), 2, 4, 8, 10, 11, 116] := by
      simp only [List.mem_cons, List.not_mem_nil, or_false, not_or]
      omega
    have huser : code ∉ [(98 : Int), 99] := by
      simp only [List.mem_cons, List.not_mem_nil, or_false, not_or]
      omega
    have hdeployment : code ∉ [(95 : Int), 96, 97, 100, 111, 112, 114, 115] := by
      simp only [List.mem_cons, List.not_mem_nil, or_false, not_or]
      omega
    simp only [classifyAdd, if_neg h3, if_neg h67, if_neg h105, if_neg h5, if_neg hattention,
      if_neg huser, if_neg hdeployment]

theorem protocolShaped_plain {reason : String} (h : reason ≠ "unknown_code") :
    ¬ protocolShaped reason none := by
  rintro (hreason | hrepair | ⟨code, hcode, _⟩)
  · exact h hreason
  · exact absurd hrepair (by decide)
  · cases hcode

theorem protocolShaped_code {reason : String} {code : Int}
    (h : protocolShaped reason (some code)) (hreason : reason ≠ "unknown_code") :
    code ∈ [(111 : Int), 112, 114, 115] ∨ code ∉ documentedCodes := by
  rcases h with hunknown | hrepair | ⟨other, hother, hundocumented⟩
  · exact absurd hunknown hreason
  · exact Or.inl hrepair
  · cases hother
    exact Or.inr hundocumented

/-- An undocumented result pauses the deployment as well. -/
theorem classifyAdd_unknown {result : AddResult}
    (h : (classifyAdd result).reason = "unknown_code") :
    (classifyAdd result).pause = some .deployment := by
  rcases classifyAdd_cases result with ⟨reason, hreason, hclass⟩ | ⟨reason, hreason, hclass⟩ |
    ⟨reason, hreason, hclass⟩ | hclass | ⟨code, hcode, _, hclass⟩ | ⟨code, hcode, _, hclass⟩ |
    ⟨code, _, _, hclass⟩ | ⟨code, _, _, hclass⟩
  · rw [hclass] at h
    simp only [List.mem_cons, List.not_mem_nil, or_false] at hreason
    rcases hreason with rfl | rfl <;> exact absurd h (by decide)
  · rw [hclass] at h
    simp only [List.mem_cons, List.not_mem_nil, or_false] at hreason
    rcases hreason with rfl | rfl <;> exact absurd h (by decide)
  · rw [hclass] at h
    simp only [List.mem_cons, List.not_mem_nil, or_false] at hreason
    rcases hreason with rfl | rfl <;> exact absurd h (by decide)
  · rw [hclass] at h
    exact absurd h (by decide)
  · rw [hclass] at h
    simp only [List.mem_cons, List.not_mem_nil, or_false] at hcode
    rcases hcode with rfl | rfl | rfl | rfl | rfl | rfl | rfl <;> exact absurd h (by decide)
  · rw [hclass] at h
    simp only [List.mem_cons, List.not_mem_nil, or_false] at hcode
    rcases hcode with rfl | rfl <;> exact absurd h (by decide)
  · rw [hclass]
  · rw [hclass]

/-- A protocol-shaped resolution pauses the deployment gate, with the artifact of the
deployment in its event. -/
theorem ResolutionSite.protocol_pause {site : ResolutionSite} {artifact : Option String}
    (h : protocolShaped (site.resolution artifact).reason
      (site.resolution artifact).options.code) :
    (site.resolution artifact).pause = some .deployment ∧
      (site.resolution artifact).options.artifactSha2_256 = artifact := by
  have hpause : ∀ (r : Resolution), r.options.pause = some .deployment →
      r.pause = some .deployment := by
    intro r hgiven
    simp [Resolution.pause, hgiven]
  cases site with
  | recovered marked =>
      exfalso
      cases marked <;> exact protocolShaped_plain (by simp [ResolutionSite.resolution]) h
  | rateUnavailable => exact absurd h (protocolShaped_plain (by simp [ResolutionSite.resolution]))
  | membershipPresent => exact absurd h (protocolShaped_plain (by simp [ResolutionSite.resolution]))
  | preflightExpired => exact absurd h (protocolShaped_plain (by simp [ResolutionSite.resolution]))
  | transportAborted => exact absurd h (protocolShaped_plain (by simp [ResolutionSite.resolution]))
  | unresolvedDispatch => exact absurd h (protocolShaped_plain (by simp [ResolutionSite.resolution]))
  | unavailable code =>
      cases code with
      | none => exact absurd h (protocolShaped_plain (by simp [ResolutionSite.resolution]))
      | some code =>
          refine ⟨hpause _ ?_, rfl⟩
          exact classifyAdd_protocol (protocolShaped_code h (by simp [ResolutionSite.resolution]))
  | answered result =>
      refine ⟨hpause _ ?_, rfl⟩
      by_cases hunknown : (classifyAdd result).reason = "unknown_code"
      · exact classifyAdd_unknown hunknown
      · cases result with
        | ok => exact absurd h (protocolShaped_plain hunknown)
        | code code => exact classifyAdd_protocol (protocolShaped_code h hunknown)

/-! ## The pause -/

/-- The deployment gate is paused, by a protocol-shaped event of this artifact. -/
def HeldBy (g : GateLog) (ran : Option String) : Prop :=
  ∃ gate ∈ g.gates.find? .deployment, gate.enabled = false ∧
    ∃ event ∈ g.events, event.key = .deployment ∧ event.revision = gate.revision ∧
      protocolShaped event.reason event.flickrCode ∧ event.artifactSha2_256 = ran

instance (g : GateLog) (ran : Option String) : Decidable (HeldBy g ran) :=
  inferInstanceAs (Decidable (∃ gate ∈ g.gates.find? .deployment, _ ∧ ∃ event ∈ g.events, _))

/-- The deployment gate is enabled. -/
def GateLog.open (g : GateLog) : Prop :=
  ∃ gate ∈ g.gates.find? .deployment, gate.enabled = true

instance (g : GateLog) : Decidable g.open :=
  inferInstanceAs (Decidable (∃ gate ∈ g.gates.find? .deployment, _))

variable {s t : System} {event : SystemEvent} {ran : Option String}

/-- A protocol-shaped resolution holds the gate, when it was enabled or held for the
same artifact. -/
theorem HeldBy.of_resolution (h : event.protocolArtifact = some ran)
    (hstep : SystemStep s event t) (hwf : s.log.WellFormed)
    (hbefore : s.log.open ∨ HeldBy s.log ran) : HeldBy t.log ran := by
  obtain ⟨lease, attemptId, site, counts, retryDelay, clock, rfl, hshape⟩ :=
    SystemEvent.protocolArtifact_eq_some h
  cases hstep with
  | commit hexec =>
      obtain ⟨hpause, hartifact⟩ := ResolutionSite.protocol_pause hshape
      obtain ⟨db, hcall, rfl⟩ := Option.map_eq_some_iff.mp hexec
      obtain ⟨_, _, _, _, _, _, rfl⟩ := resolveAttempt_effect hcall
      have htarget : ∀ f : FlickrTables, f.pauseFor s.db.queue lease attemptId
          (site.resolution ran) clock.gate.us = f.pauseGate .deployment
            (some ⟨(site.resolution ran).reason, (site.resolution ran).options.code,
              some attemptId, ran⟩) clock.gate.us := by
        intro f
        simp only [FlickrTables.pauseFor, hpause, Option.bind_some, pauseTarget, hartifact]
      simp only [System.log, htarget]
      rcases (FlickrTables.pauseGate_log hwf _).2 with
        ⟨hsame, hpaused⟩ | ⟨gate, hgate, _, hlog⟩
      · rw [hsame]
        rcases hbefore with ⟨gate, hgate, henabled⟩ | hheld
        · exact absurd (henabled.symm.trans (hpaused gate hgate)) (by decide)
        · exact hheld
      · rw [hlog]
        have hkey := Table.key_of_find? hgate
        refine ⟨⟨gate.key, false, gate.revision + 1⟩, ?_, rfl, _,
          List.mem_append_right _ (List.mem_singleton_self _), hkey, rfl, hshape, rfl⟩
        rw [GateLog.find?_move, if_pos hkey.symm]
        exact congrArg _ hgate

/-! ## Resumptions -/

/-- The request for which the event enables the deployment gate. -/
def SystemEvent.enablesFor (s : System) : SystemEvent → Option ResumeRequest
  | .commit (.commitResume callId _) =>
      (s.resumptions.find? callId).bind fun resumption =>
        if resumption.request.scope = .deployment then some resumption.request else none
  | _ => none

theorem SystemEvent.enablesFor_eq_some {request : ResumeRequest}
    (h : event.enablesFor s = some request) :
    ∃ callId now resumption, event = .commit (.commitResume callId now) ∧
      s.resumptions.find? callId = some resumption ∧ resumption.request = request ∧
      request.scope = .deployment := by
  unfold SystemEvent.enablesFor at h
  split at h
  · next callId now =>
      obtain ⟨resumption, hfind, h⟩ := Option.bind_eq_some_iff.mp h
      split at h
      · next hscope =>
          cases h
          exact ⟨callId, now, resumption, rfl, hfind, rfl, hscope⟩
      · cases h
  · cases h

theorem SystemEvent.enablesFor_commit {callId : Token} {now : ClockReading}
    {resumption : Resumption} (hfind : s.resumptions.find? callId = some resumption)
    (hscope : resumption.request.scope = .deployment) :
    SystemEvent.enablesFor s (.commit (.commitResume callId now)) = some resumption.request := by
  simp only [SystemEvent.enablesFor, hfind, Option.bind_some, if_pos hscope]

/-- The request whose cause the event reads at the deployment gate. -/
def SystemEvent.readsCause : SystemEvent → Option ResumeRequest
  | .commit (.startResume _ request) =>
      if request.scope = .deployment then some request else none
  | _ => none

/-- The digest given is well formed, is not the one the attempt ran under, and has a
receipt for the current contract. -/
def RepairedFrom (f : FlickrTables) (given ran : Option String) : Prop :=
  (∃ artifact ∈ given, isDigest artifact = true ∧ some artifact ≠ ran) ∧ f.conforms given

instance (f : FlickrTables) (given ran : Option String) : Decidable (RepairedFrom f given ran) :=
  inferInstanceAs (Decidable ((∃ artifact ∈ given, _) ∧ _))

theorem ResumeRequest.key_deployment (request : ResumeRequest) :
    request.key = .deployment ↔ request.scope = .deployment := by
  obtain ⟨userId, scope, revision, artifact⟩ := request
  cases scope with
  | deployment => simp [ResumeRequest.key]
  | user => simp [ResumeRequest.key]

/-- What the checks before the batch have established for a call on the deployment
gate: its revision exists, and a protocol-shaped event there has been answered. -/
structure Checked (s : System) (resumption : Resumption) : Prop where
  reached : ∃ gate, s.log.gates.find? .deployment = some gate ∧
    (resumption.request.revision : Int) ≤ gate.revision
  answered : ∀ event ∈ s.log.events, event.key = .deployment →
    (event.revision : Int) = resumption.request.revision →
    protocolShaped event.reason event.flickrCode →
      newArtifact resumption.request.artifactSha2_256 event.artifactSha2_256 ∧
        (resumption.phase ≠ .conformance →
          s.db.flickr.conforms resumption.request.artifactSha2_256)

/-- Every call on the deployment gate is checked. -/
def ResumptionsChecked (s : System) : Prop :=
  ∀ resumption ∈ s.resumptions, resumption.request.scope = .deployment → Checked s resumption

/-- Later events are beyond the revision that was checked. -/
theorem Checked.step {resumption : Resumption} (h : Checked s resumption)
    (hgrows : GateLog.Grows s.log t.log)
    (hkept : FlickrTables.ConformanceKept s.db.flickr t.db.flickr) : Checked t resumption := by
  obtain ⟨gate, hgate, hreached⟩ := h.reached
  constructor
  · obtain ⟨gate', hgate', hle⟩ := hgrows.gates _ _ hgate
    exact ⟨gate', hgate', hreached.trans (by exact_mod_cast hle)⟩
  · intro event hevent hkey hrevision hshape
    rcases hgrows.fresh event hevent with hold | hnew
    · obtain ⟨hartifact, hconforms⟩ := h.answered event hold hkey hrevision hshape
      exact ⟨hartifact, fun hphase => hkept.conforms (hconforms hphase)⟩
    · have hlt := hnew gate (hkey ▸ hgate)
      omega

/-- A call whose cause is read at a revision the gate has is checked. -/
theorem Checked.of_start {resumption : Resumption} (hwf : s.log.WellFormed)
    (hscope : resumption.request.scope = .deployment)
    (hstart : s.db.flickr.startResume resumption.request = some resumption.phase)
    (hreached : ∃ gate, s.log.gates.find? .deployment = some gate ∧
      (resumption.request.revision : Int) ≤ gate.revision) : Checked s resumption := by
  refine ⟨hreached, ?_⟩
  intro event hevent hkey hrevision hshape
  have hcause : s.db.flickr.pauseCause resumption.request.revision = some event := by
    apply argmax_of_unique
    · simpa using ⟨hevent, hkey, hrevision⟩
    · intro other hother
      obtain ⟨hmem, hother⟩ := List.mem_filter.mp hother
      obtain ⟨hotherKey, hotherRevision⟩ := of_decide_eq_true hother
      apply hwf.single other hmem event hevent (hotherKey.trans hkey.symm)
      exact_mod_cast hotherRevision.trans hrevision.symm
  unfold FlickrTables.startResume at hstart
  split at hstart
  · rw [hscope] at hstart
    simp only [hcause, if_pos hshape] at hstart
    split at hstart
    · next hartifact =>
        refine ⟨hartifact, fun hphase => ?_⟩
        exact absurd (Option.some.inj hstart).symm hphase
    · cases hstart
  · cases hstart

/-- The next statement of a call keeps what was checked, and the receipt is there once
it was read. -/
theorem Checked.advance {old resumption : Resumption} (h : Checked s old)
    (hrequest : old.request = resumption.request)
    (hadvance : s.db.flickr.advanceResume old.request old.phase = some resumption.phase) :
    Checked s resumption := by
  rw [hrequest] at hadvance
  refine ⟨hrequest ▸ h.reached, ?_⟩
  intro event hevent hkey hrevision hshape
  obtain ⟨hartifact, hconforms⟩ := h.answered event hevent hkey (hrequest ▸ hrevision) hshape
  rw [hrequest] at hartifact hconforms
  refine ⟨hartifact, fun _ => ?_⟩
  cases hphase : old.phase with
  | conformance =>
      rw [hphase] at hadvance
      simp only [FlickrTables.advanceResume] at hadvance
      split at hadvance
      · next hreceipt => exact hreceipt
      · cases hadvance
  | connection => exact hconforms (by rw [hphase]; decide)
  | commit => exact hconforms (by rw [hphase]; exact ResumePhase.noConfusion)

/-! ## Runs -/

/-- The condition on a step: a protocol-shaped resolution finds the deployment gate
enabled or already held for its artifact, and a cause is read at a revision the gate
has reached. -/
def Orderly (s : System) (event : SystemEvent) : Prop :=
  (∀ ran ∈ event.protocolArtifact, s.log.open ∨ HeldBy s.log ran) ∧
  ∀ request ∈ event.readsCause, ∃ gate ∈ s.log.gates.find? .deployment,
    request.revision ≤ gate.revision

instance (s : System) (event : SystemEvent) : Decidable (Orderly s event) :=
  inferInstanceAs (Decidable ((∀ ran ∈ event.protocolArtifact, _) ∧
    ∀ request ∈ event.readsCause, ∃ gate ∈ s.log.gates.find? .deployment, _))

theorem SystemStep.checked (hstep : SystemStep s event t) (hwf : s.log.WellFormed)
    (horderly : Orderly s event) (h : ResumptionsChecked s) : ResumptionsChecked t := by
  have hkept := (hstep.log_cases hwf).2
  have hgrows : GateLog.Grows s.log t.log := by
    rcases (hstep.log_cases hwf).1 with hstop | ⟨_, _, _, _, heffect⟩
    · exact GateLog.stops_grow hstop
    · exact heffect.enable.grows
  intro resumption hmem hscope
  apply Checked.step _ hgrows hkept
  cases hstep.resumption_origin hmem with
  | kept hold => exact h resumption hold hscope
  | started hevent hstart =>
      refine Checked.of_start hwf hscope hstart (horderly.2 resumption.request ?_)
      rw [hevent]
      exact if_pos hscope
  | advanced hold hrequest hadvance =>
      exact (h _ hold (hrequest ▸ hscope)).advance hrequest hadvance

/-- A held gate stays held until the deployment is enabled. -/
theorem HeldBy.step (h : HeldBy s.log ran) (hstep : SystemStep s event t)
    (hwf : s.log.WellFormed) (hnot : event.enablesFor s = none) :
    HeldBy t.log ran := by
  obtain ⟨gate, hgate, hpaused, cause, hcause, hcauseKey, hrest⟩ := h
  have hkey := Table.key_of_find? hgate
  rcases (hstep.log_cases hwf).1 with hstop | ⟨callId, now, resumption, hevent, heffect⟩
  · rw [← hkey] at hgate
    have hgate' := GateLog.stops_paused_kept hstop hgate hpaused
    rw [hkey] at hgate'
    exact ⟨gate, hgate', hpaused, cause, (GateLog.stops_grow hstop).events _ hcause, hcauseKey,
      hrest⟩
  · have hne : GateKey.deployment ≠ resumption.request.key := by
      intro hsame
      have hscope := (ResumeRequest.key_deployment _).mp hsame.symm
      rw [hevent, SystemEvent.enablesFor_commit heffect.found hscope] at hnot
      cases hnot
    exact ⟨gate, (heffect.enable.kept hne).trans hgate, hpaused, cause,
      heffect.enable.grows.events _ hcause, hcauseKey, hrest⟩

/-- Enabling a held deployment takes a new conformant artifact. -/
theorem HeldBy.enabled (h : HeldBy s.log ran) (hstep : SystemStep s event t)
    (hwf : s.log.WellFormed) (hchecked : ResumptionsChecked s) {request : ResumeRequest}
    (henables : event.enablesFor s = some request) :
    RepairedFrom s.db.flickr request.artifactSha2_256 ran := by
  obtain ⟨callId, now, resumption, rfl, hfind, rfl, hscope⟩ :=
    SystemEvent.enablesFor_eq_some henables
  obtain ⟨gate, hgate, hpaused, cause, hcause, hkey, hrevision, hshape, hran⟩ := h
  cases hstep with
  | commit hexec =>
      obtain ⟨found, heffect⟩ := SystemCall.commitResume_effect hwf hexec
      cases heffect.found.symm.trans hfind
      obtain ⟨stored, hstored, hsame, _⟩ := heffect.gate
      rw [(ResumeRequest.key_deployment _).mpr hscope] at hstored
      cases hgate.symm.trans hstored
      have hat : (cause.revision : Int) = resumption.request.revision := by
        rw [hrevision]
        exact hsame
      obtain ⟨hartifact, hconforms⟩ :=
        (hchecked resumption (Table.mem_of_find? hfind) hscope).answered cause hcause hkey hat hshape
      obtain ⟨linkRevision, generation, hphase⟩ := heffect.phase
      obtain ⟨artifact, hgiven, hdigest, old, hold, _, hne⟩ := hartifact
      refine ⟨⟨artifact, hgiven, hdigest, ?_⟩,
        hconforms (by rw [hphase]; exact ResumePhase.noConfusion)⟩
      rw [← hran, hold]
      intro heq
      exact hne (Option.some.inj heq)

/-- After a protocol-shaped resolution the deployment is next enabled for a new
conformant artifact. -/
def PauseRespected (trace : List (Move System SystemEvent)) : Prop :=
  ∀ front resolved middle enabling back ran request,
    trace = front ++ resolved :: (middle ++ enabling :: back) →
    resolved.label.protocolArtifact = some ran →
    (∀ move ∈ middle, move.label.enablesFor move.src = none) →
    enabling.label.enablesFor enabling.src = some request →
      RepairedFrom enabling.src.db.flickr request.artifactSha2_256 ran

/-- What orderly steps preserve. -/
structure OrderlyInvariant (s : System) : Prop where
  wellFormed : s.log.WellFormed
  checked : ResumptionsChecked s

theorem OrderlyInvariant.initially : OrderlyInvariant initialSystem := by
  refine ⟨GateLog.WellFormed.initially, ?_⟩
  intro resumption hmem
  exact absurd hmem (Table.not_mem_empty resumption)

theorem OrderlyInvariant.step (h : OrderlyInvariant s) (hstep : SystemStep s event t)
    (horderly : Orderly s event) : OrderlyInvariant t :=
  ⟨hstep.wellFormed h.wellFormed, hstep.checked h.wellFormed horderly h.checked⟩

theorem OrderlyInvariant.run {trace : List (Move System SystemEvent)} (h : OrderlyInvariant s)
    (hrun : Run SystemStep s trace t)
    (horderly : ∀ move ∈ trace, Orderly move.src move.label) : OrderlyInvariant t := by
  apply Run.invariant hrun h
  intro move hmove hinv hstep
  exact hinv.step hstep (horderly move hmove)

/-- While nothing enables the deployment, an orderly run keeps it held. -/
theorem HeldBy.run {trace : List (Move System SystemEvent)} (hheld : HeldBy s.log ran)
    (hrun : Run SystemStep s trace t) (hinv : OrderlyInvariant s)
    (horderly : ∀ move ∈ trace, Orderly move.src move.label)
    (hnot : ∀ move ∈ trace, move.label.enablesFor move.src = none) :
    HeldBy t.log ran := by
  induction hrun with
  | nil => exact hheld
  | snoc hfront hlast ih =>
      simp only [List.mem_append, List.mem_singleton] at horderly hnot
      have hmiddle := ih (fun move hmove => horderly move (Or.inl hmove))
        (fun move hmove => hnot move (Or.inl hmove))
      have hinv' := hinv.run hfront fun move hmove => horderly move (Or.inl hmove)
      exact hmiddle.step hlast hinv'.wellFormed (hnot _ (Or.inr rfl))

/-- On a run of orderly steps, a protocol-shaped pause is lifted by a new conformant
artifact only. -/
theorem protocol_pause_respected {t : System} {trace : List (Move System SystemEvent)}
    (hrun : Run SystemStep initialSystem trace t)
    (horderly : ∀ move ∈ trace, Orderly move.src move.label) : PauseRespected trace := by
  intro front resolved middle enabling back ran request htrace hresolution hmiddle henables
  subst htrace
  obtain ⟨hfront, hresolved, hrest⟩ := Run.around hrun
  obtain ⟨hmiddleRun, henabling, _⟩ := Run.around hrest
  simp only [List.mem_append, List.mem_cons] at horderly
  have hhere := horderly resolved (Or.inr (Or.inl rfl))
  have hbefore := OrderlyInvariant.initially.run hfront fun move hmove =>
    horderly move (Or.inl hmove)
  have hafter := hbefore.step hresolved hhere
  have hbetween : ∀ move ∈ middle, Orderly move.src move.label := fun move hmove =>
    horderly move (Or.inr (Or.inr (Or.inl hmove)))
  have hheld := HeldBy.of_resolution hresolution hresolved hbefore.wellFormed
    (hhere.1 ran hresolution)
  have hheld' := hheld.run hmiddleRun hafter hbetween hmiddle
  have hlast := hafter.run hmiddleRun hbetween
  exact hheld'.enabled henabling hlast.wellFormed hlast.checked henables

namespace Sample

def otherGroup : Token := ⟨"group-2", Eq.refl true⟩
def otherPartition : Token := ⟨"partition-2", Eq.refl true⟩
def otherIntent : Token := ⟨"intent-2", Eq.refl true⟩
def otherLeaseId : Token := ⟨"sweep-2", Eq.refl true⟩
def otherAttempt : Token := ⟨"attempt-2", Eq.refl true⟩

/-- The artifact the deployment runs, and the one that replaces it. -/
def artifact : String := "aaaaaaaaaaaaaaaaaaaaaaaaaaaaaaaaaaaaaaaaaaaaaaaaaaaaaaaaaaaaaaaa"
def repaired : String := "bbbbbbbbbbbbbbbbbbbbbbbbbbbbbbbbbbbbbbbbbbbbbbbbbbbbbbbbbbbbbbbb"

def twoGroups : AdmissionRequest :=
  { request with
    flickrGroupIds := [group, otherGroup]
    groups_pos := by decide
    groups_le := by decide
    groups_nodup := by decide }

def otherLease : Lease := ⟨otherPartition, otherLeaseId, 1, otherIntent, 60000005⟩

/-- Claim a partition and run its attempt up to the marker. -/
def marked (lease : Lease) (attemptId : Token) : List SystemCall :=
  [.queue (.claim lease.partitionId lease.leaseId none defaultLeasePolicy (clock 5)),
    .queue (.begin lease attemptId (clock 6) (clock 6)),
    .queue (.record lease attemptId (.membership true) (clock 7) (clock 7)),
    .queue (.record lease attemptId (.preflight true) (clock 8) (clock 8)),
    .queue (.record lease attemptId (.marker none) (clock 9) (clock 9))]

def answer (lease : Lease) (attemptId : Token) (result : AddResult) : SystemCall :=
  .queue (.resolve lease attemptId (.answered result) (some artifact) ⟨0, 1⟩ (fun _ => none)
    ⟨clock 10, clock 10, clock 10, clock 10, clock 10⟩)

/-- Two attempts of one user are in flight. -/
def inFlight : List SystemCall :=
  connected ++
    [.queue (.admitRequest ⟨installation, "digest-1"⟩ twoGroups requestId
      [(partition, intent), (otherPartition, otherIntent)] (clock 2))] ++
    marked lease attempt ++ marked otherLease otherAttempt

/-- An undocumented answer, and its repair by a conformant artifact. -/
def repair : List SystemCall :=
  inFlight ++
    [answer lease attempt (.code 9999),
      .lifecycle (.recordConformance repaired failPoliteContractSha2_256),
      .startResume deploymentCall ⟨user, .deployment, 3, some repaired⟩,
      .advanceResume deploymentCall, .advanceResume deploymentCall,
      .commitResume deploymentCall (clock 11)]

end Sample

/-- An undocumented answer that is repaired: the deployment is enabled again. -/
theorem protocol_pause_respected_repaired :
    ∃ t trace, Run SystemStep initialSystem trace t ∧ t.log.open ∧
      (∃ move ∈ trace, move.label.protocolArtifact = some (some Sample.artifact)) ∧
      PauseRespected trace := by
  have hexec : (execAll SystemCall.exec Sample.installed Sample.repair).isSome = true := by
    decide +kernel
  obtain ⟨t, ht⟩ := Option.isSome_iff_exists.mp hexec
  have hopen : ∀ s ∈ execAll SystemCall.exec Sample.installed Sample.repair, s.log.open := by
    decide +kernel
  have horderly : ∀ move ∈ ⟨initialSystem, .outside, Sample.installed⟩ ::
      movesOf SystemCall.exec SystemEvent.commit Sample.installed Sample.repair,
      Orderly move.src move.label := by
    decide +kernel
  have hshape : ∃ move ∈ ⟨initialSystem, .outside, Sample.installed⟩ ::
      movesOf SystemCall.exec SystemEvent.commit Sample.installed Sample.repair,
      move.label.protocolArtifact = some (some Sample.artifact) := by
    decide +kernel
  have hrun := Run.cons Sample.installed_step (SystemCall.run ht)
  exact ⟨t, _, hrun, hopen t ht, hshape, protocol_pause_respected hrun horderly⟩

/-- The answer of the first attempt pauses the deployment for a documented code; the
undocumented answer of the second finds it paused and leaves no event, so a call
without an artifact enables it. -/
theorem protocol_pause_lost :
    ¬ ∀ t trace, Run SystemStep initialSystem trace t → PauseRespected trace := by
  intro hclaim
  have hexec : (execAll SystemCall.exec Sample.installed
      ((Sample.inFlight ++ [Sample.answer Sample.lease Sample.attempt (.code 95)]) ++
        ([Sample.answer Sample.otherLease Sample.otherAttempt (.code 9999)] ++
          ([.startResume Sample.deploymentCall ⟨Sample.user, .deployment, 3, none⟩,
            .advanceResume Sample.deploymentCall] ++
          [.commitResume Sample.deploymentCall (Sample.clock 11)])))).isSome = true := by
    decide +kernel
  obtain ⟨t, ht⟩ := Option.isSome_iff_exists.mp hexec
  obtain ⟨before, hbefore, ht⟩ := execAll_append.mp ht
  obtain ⟨resolved, hresolved, ht⟩ := execAll_append.mp ht
  obtain ⟨asked, hasked, ht⟩ := execAll_append.mp ht
  have hrequest : ∀ s ∈ execAll SystemCall.exec Sample.installed
      ((Sample.inFlight ++ [Sample.answer Sample.lease Sample.attempt (.code 95)]) ++
        ([Sample.answer Sample.otherLease Sample.otherAttempt (.code 9999)] ++
          [.startResume Sample.deploymentCall ⟨Sample.user, .deployment, 3, none⟩,
            .advanceResume Sample.deploymentCall])),
      SystemEvent.enablesFor s (.commit (.commitResume Sample.deploymentCall (Sample.clock 11))) =
        some ⟨Sample.user, .deployment, 3, none⟩ := by
    decide +kernel
  have hhere := hrequest asked (execAll_append.mpr ⟨before, hbefore,
    execAll_append.mpr ⟨resolved, hresolved, hasked⟩⟩)
  obtain ⟨middle, hanswer, hsame⟩ := Option.bind_eq_some_iff.mp hresolved
  cases hsame
  obtain ⟨final, hcommit, hsame⟩ := Option.bind_eq_some_iff.mp ht
  cases hsame
  have hrun := Run.cons Sample.installed_step ((SystemCall.run hbefore).append
    (Run.cons (SystemStep.commit hanswer) ((SystemCall.run hasked).append
      (Run.single (SystemStep.commit hcommit)))))
  have hnone : ∀ move ∈ movesOf SystemCall.exec SystemEvent.commit resolved
      [.startResume Sample.deploymentCall ⟨Sample.user, .deployment, 3, none⟩,
        .advanceResume Sample.deploymentCall], move.label.enablesFor move.src = none := by
    intro move hmove
    obtain ⟨call, hcall, hlabel⟩ := label_of_mem_movesOf hmove
    simp only [List.mem_cons, List.not_mem_nil, or_false] at hcall
    rcases hcall with rfl | rfl <;> rw [hlabel] <;> rfl
  obtain ⟨⟨artifact, hartifact, _⟩, _⟩ := hclaim t _ hrun (_ :: _) _ _ _ [] (some Sample.artifact) _ rfl rfl hnone hhere
  cases hartifact

end FlickrGroupAddr
