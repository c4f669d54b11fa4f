import Ocg.Meeting.Jobs

/-!
# Created meetings are recorded

A meeting exists at the provider before it exists in the database, and only the claim of its owner
leads from the one to the other. `add_meeting` inserts nothing, and raises nothing, when it no
longer finds the claim. The claim of a session goes with the row when an edit of the event leaves
the session out, so the meeting of a session that was removed while it was being created is recorded
nowhere. As long as the row stays, whatever the organizers do to it, the meeting is recorded.

Identifiers of meetings are told apart first: the one that the provider has just given out is that
of no other meeting, claim or job.
-/

namespace Ocg.Meetings

open Relational

variable {H : Type} {digest : SyncInputs → H} {sys sys' : Service H}

/-! ## Identifiers of meetings -/

/-- The meeting that the provider has created for the job. -/
def Job.createdId (job : Job H) : Option String :=
  match job.stage with
  | .created _ meeting => some meeting.id
  | _ => none

theorem Job.exists_created {job : Job H} {id : String} (h : id ∈ job.createdId) :
    ∃ host meeting, job.stage = .created host meeting := by
  unfold Job.createdId at h
  split at h
  · next host meeting hstage => exact ⟨host, meeting, hstage⟩
  · simp at h

/-- What the provider gave out is given out once. -/
structure Service.Identified (sys : Service H) : Prop where
  meetings : ∀ m ∈ sys.db.meetings, m.providerMeetingId ∈ sys.provided
  claims : ∀ job ∈ sys.jobs, ∀ id ∈ job.claim.providerMeetingId, id ∈ sys.provided
  created : ∀ job ∈ sys.jobs, ∀ id ∈ job.createdId, id ∈ sys.provided
  notRecorded : ∀ job ∈ sys.jobs, ∀ id ∈ job.createdId, ∀ m ∈ sys.db.meetings,
    m.providerMeetingId ≠ id
  notClaimed : ∀ job ∈ sys.jobs, ∀ id ∈ job.createdId, ∀ job' ∈ sys.jobs,
    job'.claim.providerMeetingId ≠ some id
  once : ∀ job ∈ sys.jobs, ∀ id ∈ job.createdId, ∀ job' ∈ sys.jobs, id ∈ job'.createdId →
    job'.worker = job.worker

/-- A step in which the provider creates nothing. The meetings are those there were, those that the
jobs claimed, and those of jobs that are done. -/
theorem Service.Identified.of_frame (h : sys.Identified) (hprovided : sys'.provided = sys.provided)
    (hjobs : ∀ job' ∈ sys'.jobs, ∃ job ∈ sys.jobs, job'.worker = job.worker
      ∧ job'.claim = job.claim ∧ ∀ id ∈ job'.createdId, id ∈ job.createdId)
    (hmeetings : ∀ m' ∈ sys'.db.meetings,
      (∃ m ∈ sys.db.meetings, m'.providerMeetingId = m.providerMeetingId)
      ∨ (∃ job ∈ sys.jobs, job.claim.providerMeetingId = some m'.providerMeetingId)
      ∨ ∃ job ∈ sys.jobs, job.createdId = some m'.providerMeetingId
        ∧ ∀ job' ∈ sys'.jobs, job'.worker ≠ job.worker) : sys'.Identified := by
  refine ⟨fun m' hm' ↦ ?_, fun job' hjob' id hid ↦ ?_, fun job' hjob' id hid ↦ ?_,
    fun job' hjob' id hid m' hm' heq ↦ ?_, fun job' hjob' id hid job'' hjob'' heq ↦ ?_,
    fun job' hjob' id hid job'' hjob'' hid' ↦ ?_⟩
  · rw [hprovided]
    rcases hmeetings m' hm' with ⟨m, hm, heq⟩ | ⟨job, hjob, hclaim⟩ | ⟨job, hjob, hcreated, -⟩
    · exact heq ▸ h.meetings m hm
    · exact h.claims job hjob _ hclaim
    · exact h.created job hjob _ hcreated
  · obtain ⟨job, hjob, -, hclaim, -⟩ := hjobs job' hjob'
    exact hprovided ▸ h.claims job hjob id (hclaim ▸ hid)
  · obtain ⟨job, hjob, -, -, hcreated⟩ := hjobs job' hjob'
    exact hprovided ▸ h.created job hjob id (hcreated id hid)
  · obtain ⟨job, hjob, hworker, -, hcreated⟩ := hjobs job' hjob'
    rcases hmeetings m' hm' with ⟨m, hm, hsame⟩ | ⟨job₁, hjob₁, hclaim⟩ | ⟨job₁, hjob₁, hid₁, hdone⟩
    · exact h.notRecorded job hjob id (hcreated id hid) m hm (hsame.symm.trans heq)
    · exact h.notClaimed job hjob id (hcreated id hid) job₁ hjob₁ (heq ▸ hclaim)
    · refine hdone job' hjob' (hworker.trans ?_)
      exact h.once job₁ hjob₁ id (heq ▸ hid₁) job hjob (hcreated id hid)
  · obtain ⟨job, hjob, -, -, hcreated⟩ := hjobs job' hjob'
    obtain ⟨job₁, hjob₁, -, hclaim, -⟩ := hjobs job'' hjob''
    exact h.notClaimed job hjob id (hcreated id hid) job₁ hjob₁ (hclaim ▸ heq)
  · obtain ⟨job, hjob, hworker, -, hcreated⟩ := hjobs job' hjob'
    obtain ⟨job₁, hjob₁, hworker₁, -, hcreated₁⟩ := hjobs job'' hjob''
    rw [hworker, hworker₁]
    exact h.once job hjob id (hcreated id hid) job₁ hjob₁ (hcreated₁ id hid')

theorem exists_of_mem_replaceJob {job job' job₁ : Job H} {jobs : List (Job H)}
    (h : job₁ ∈ replaceRow Job.worker job' jobs) (hjob : job ∈ jobs)
    (hworker : job'.worker = job.worker) (hclaim : job'.claim = job.claim)
    (hcreated : job'.createdId = none) :
    ∃ job₂ ∈ jobs, job₁.worker = job₂.worker ∧ job₁.claim = job₂.claim
      ∧ ∀ id ∈ job₁.createdId, id ∈ job₂.createdId := by
  rcases mem_replaceRow h with rfl | ⟨hjob₁, -⟩
  · exact ⟨job, hjob, hworker, hclaim, by simp [hcreated]⟩
  · exact ⟨job₁, hjob₁, rfl, rfl, fun _ hid ↦ hid⟩

theorem Service.Identified.claim (hwf : sys.WellFormed) (h : sys.Identified) {now : Timestamp}
    {worker : ℕ} {claim : Claim H} {db' : MeetingDatabase}
    (hclaim : Claims digest now sys.db claim db') :
    ({ sys with
      db := db'
      jobs := sys.jobs ++ [⟨worker, claim, .claimed⟩] } : Service H).Identified := by
  have hmeetings : ∀ m' ∈ db'.meetings, ∃ m ∈ sys.db.meetings,
      m'.providerMeetingId = m.providerMeetingId := fun m' hm' ↦ by
    obtain ⟨m, hm, -, -, -, -, hsame | hnone⟩ := hclaim.trimmed.mem hm'
    · exact ⟨m, hm, hsame⟩
    · simp at hnone
  -- a claim reads the identifier of a meeting that is recorded
  have hread : ∀ id ∈ claim.providerMeetingId, ∃ m ∈ sys.db.meetings, m.providerMeetingId = id := by
    intro id hid
    cases hclaim with
    | sync ho hneeds =>
      obtain ⟨m, hm, rfl⟩ := Option.map_eq_some_iff.1 hid
      exact ⟨m, (hwf.db.meetingOf_eq_some.1 hm).1, rfl⟩
    | delete ho hneeds =>
      obtain ⟨m, hm, rfl⟩ := Option.map_eq_some_iff.1 hid
      exact ⟨m, (hwf.db.meetingOf_eq_some.1 hm).1, rfl⟩
    | @orphan m hm horphan => exact ⟨m, hm, Option.some.inj hid⟩
  have hcases : ∀ job ∈ sys.jobs ++ [⟨worker, claim, .claimed⟩],
      job ∈ sys.jobs ∨ job = ⟨worker, claim, .claimed⟩ := fun job hjob ↦
    (List.mem_append.1 hjob).imp_right List.mem_singleton.1
  have hcreated : ∀ job ∈ sys.jobs ++ [⟨worker, claim, .claimed⟩], ∀ id ∈ job.createdId,
      job ∈ sys.jobs := fun job hjob id hid ↦ by
    rcases hcases job hjob with hjob | rfl
    · exact hjob
    · simp [Job.createdId] at hid
  refine ⟨fun m' hm' ↦ ?_, fun job hjob id hid ↦ ?_, fun job hjob id hid ↦ ?_,
    fun job hjob id hid m' hm' ↦ ?_, fun job hjob id hid job' hjob' heq ↦ ?_,
    fun job hjob id hid job' hjob' hid' ↦ ?_⟩
  · obtain ⟨m, hm, hsame⟩ := hmeetings m' hm'
    exact hsame ▸ h.meetings m hm
  · rcases hcases job hjob with hjob | rfl
    · exact h.claims job hjob id hid
    · obtain ⟨m, hm, rfl⟩ := hread id hid
      exact h.meetings m hm
  · exact h.created job (hcreated job hjob id hid) id hid
  · obtain ⟨m, hm, hsame⟩ := hmeetings m' hm'
    exact hsame ▸ h.notRecorded job (hcreated job hjob id hid) id hid m hm
  · rcases hcases job' hjob' with hjob' | rfl
    · exact h.notClaimed job (hcreated job hjob id hid) id hid job' hjob' heq
    · obtain ⟨m, hm, hsame⟩ := hread id heq
      exact h.notRecorded job (hcreated job hjob id hid) id hid m hm hsame
  · exact h.once job (hcreated job hjob id hid) id hid job' (hcreated job' hjob' id hid') hid'

theorem Service.Identified.create (h : sys.Identified) {job job' : Job H}
    {meeting : ProviderMeeting} (hjob : job ∈ sys.jobs)
    (hcreate : job.create meeting sys.provided = .ok job') :
    ({ sys with
      jobs := replaceRow Job.worker job' sys.jobs
      provided := sys.provided ++ [meeting.id] } : Service H).Identified := by
  obtain ⟨host, -, hnew, rfl⟩ := Job.create_eq_ok hcreate
  set job' : Job H := { job with stage := .created host meeting } with hjob'
  have hclaim : ∀ job₁ ∈ replaceRow Job.worker job' sys.jobs, ∃ job₂ ∈ sys.jobs,
      job₁.claim = job₂.claim := fun job₁ hjob₁ ↦ by
    rcases mem_replaceRow hjob₁ with rfl | ⟨hjob₁, -⟩
    · exact ⟨job, hjob, rfl⟩
    · exact ⟨job₁, hjob₁, rfl⟩
  have hcreated : ∀ job₁ ∈ replaceRow Job.worker job' sys.jobs, ∀ id ∈ job₁.createdId,
      (job₁ = job' ∧ id = meeting.id) ∨ (job₁ ∈ sys.jobs ∧ id ∈ sys.provided) :=
    fun job₁ hjob₁ id hid ↦ by
    rcases mem_replaceRow hjob₁ with rfl | ⟨hjob₁, -⟩
    · exact .inl ⟨rfl, (Option.some.inj hid).symm⟩
    · exact .inr ⟨hjob₁, h.created job₁ hjob₁ id hid⟩
  refine ⟨fun m hm ↦ List.mem_append_left _ (h.meetings m hm), fun job₁ hjob₁ id hid ↦ ?_,
    fun job₁ hjob₁ id hid ↦ ?_, fun job₁ hjob₁ id hid m hm heq ↦ ?_,
    fun job₁ hjob₁ id hid job₂ hjob₂ heq ↦ ?_, fun job₁ hjob₁ id hid job₂ hjob₂ hid' ↦ ?_⟩
  · obtain ⟨job₂, hjob₂, heq⟩ := hclaim job₁ hjob₁
    exact List.mem_append_left _ (h.claims job₂ hjob₂ id (heq ▸ hid))
  · rcases hcreated job₁ hjob₁ id hid with ⟨rfl, rfl⟩ | ⟨hjob₁, hid⟩
    · exact List.mem_append_right _ (List.mem_singleton.2 rfl)
    · exact List.mem_append_left _ hid
  · rcases hcreated job₁ hjob₁ id hid with ⟨rfl, rfl⟩ | ⟨hjob₁, -⟩
    · exact hnew (heq ▸ h.meetings m hm)
    · exact h.notRecorded job₁ hjob₁ id hid m hm heq
  · obtain ⟨job₃, hjob₃, hsame⟩ := hclaim job₂ hjob₂
    rcases hcreated job₁ hjob₁ id hid with ⟨rfl, rfl⟩ | ⟨hjob₁, -⟩
    · exact hnew (h.claims job₃ hjob₃ _ (hsame ▸ heq))
    · exact h.notClaimed job₁ hjob₁ id hid job₃ hjob₃ (hsame ▸ heq)
  · rcases hcreated job₁ hjob₁ id hid with ⟨rfl, rfl⟩ | ⟨hmem₁, hprovided⟩
    · rcases hcreated job₂ hjob₂ _ hid' with ⟨rfl, -⟩ | ⟨-, hprovided⟩
      · rfl
      · exact absurd hprovided hnew
    · rcases hcreated job₂ hjob₂ id hid' with ⟨rfl, rfl⟩ | ⟨hmem₂, -⟩
      · exact absurd hprovided hnew
      · exact h.once job₁ hmem₁ id hid job₂ hmem₂ hid'

theorem Service.Identified.assign (hwf : sys.WellFormed) (h : sys.Identified) {cfg : ZoomConfig}
    {now : Timestamp}
    {job job' : Job H} {db' : MeetingDatabase} (hjob : job ∈ sys.jobs)
    (hassign : job.assign cfg now sys.db = .ok (job', db')) :
    ({ sys with
      db := db'
      jobs := replaceRow Job.worker job' sys.jobs } : Service H).Identified := by
  obtain ⟨ref, -, -, hstage, houtcome⟩ := Job.assign_eq_ok (hwf.hostless job hjob) hassign
  rcases houtcome with ⟨rfl, rfl⟩ | ⟨_, _, host, -, -, -, rfl, rfl⟩
  · refine h.of_frame rfl (fun job₁ hjob₁ ↦ ?_) fun m hm ↦ .inl ⟨m, hm, rfl⟩
    refine exists_of_mem_replaceJob hjob₁ hjob rfl rfl ?_
    rw [Job.createdId, hstage]
  · refine h.of_frame rfl (fun job₁ hjob₁ ↦ ?_) fun m hm ↦ .inl ⟨m, hm, rfl⟩
    refine exists_of_mem_replaceJob hjob₁ hjob rfl rfl ?_
    by_cases hheld : sys.db.IsClaimHeld ref job.claim.syncClaimedAt
    · simp [Job.createdId, hheld]
    · simp [Job.createdId, hheld]

theorem exists_of_mem_finish {worker : ℕ} {db' : MeetingDatabase} {job' : Job H}
    (h : job' ∈ (sys.finish worker db').jobs) : ∃ job ∈ sys.jobs, job'.worker = job.worker
      ∧ job'.claim = job.claim ∧ ∀ id ∈ job'.createdId, id ∈ job.createdId :=
  ⟨job', (List.mem_filter.1 h).1, rfl, rfl, fun _ hid ↦ hid⟩

theorem Service.Identified.release (h : sys.Identified) (job : Job H) :
    (sys.finish job.worker (releaseMeetingSyncClaim job.claim sys.db)).Identified := by
  refine h.of_frame rfl (fun _ ↦ exists_of_mem_finish) fun m' hm' ↦ .inl ?_
  obtain ⟨m, hm, -, -, -, -, hsame | hnone⟩ := (releaseMeetingSyncClaim_trimmed job.claim).mem hm'
  · exact ⟨m, hm, hsame⟩
  · simp at hnone

variable [DecidableEq H]

theorem Service.Identified.complete (hwf : sys.WellFormed) (h : sys.Identified) {job : Job H}
    (hjob : job ∈ sys.jobs) {completion : Completion} {current : Option H} {db' : MeetingDatabase}
    (hcomplete : job.complete completion current sys.db = .ok db') :
    (sys.finish job.worker db').Identified := by
  refine h.of_frame rfl (fun _ ↦ exists_of_mem_finish) fun m' hm' ↦ ?_
  rcases Job.complete_effect hwf.db hcomplete with ⟨error, meetings, rfl, htrim⟩ |
    ⟨ref, host, meeting, -, -, hstage, -, -, rfl⟩
  · obtain ⟨m, hm, -, -, -, -, hsame | hread⟩ := htrim.mem hm'
    · exact .inl ⟨m, hm, hsame⟩
    · exact .inr (.inl ⟨job, hjob, hread.symm⟩)
  · rcases List.mem_append.1 hm' with hm' | hm'
    · exact .inl ⟨m', hm', rfl⟩
    · refine .inr (.inr ⟨job, hjob, ?_,
        fun job' hjob' ↦ of_decide_eq_true (List.mem_filter.1 hjob').2⟩)
      rw [List.mem_singleton.1 hm', Job.createdId, hstage]
      rfl

theorem StepEffect.identified {cfg : ZoomConfig} {now : Timestamp} {op : Operation}
    (hwf : sys.WellFormed) (h : sys.Identified) (hstep : StepEffect digest cfg now sys op sys') :
    sys'.Identified := by
  cases hstep with
  | edit hrun =>
    refine h.of_frame rfl (fun job hjob ↦ ⟨job, hjob, rfl, rfl, fun _ hid ↦ hid⟩)
      fun m' hm' ↦ .inl ?_
    obtain ⟨m, hm, rfl | rfl, -⟩ := (Edit.run_frame hwf.db hrun).meetings m' hm'
    · exact ⟨m', hm, rfl⟩
    · exact ⟨m, hm, rfl⟩
  | claim hfree hclaim => exact h.claim hwf hclaim
  | assign hjob hassign => exact h.assign hwf hjob hassign
  | create hjob hcreate => exact h.create hjob hcreate
  | complete hjob hcomplete => exact h.complete hwf hjob hcomplete
  | release hjob => exact h.release _

theorem Service.Reached.identified {cfg : ZoomConfig} {now : Timestamp}
    (h : sys.Reached digest cfg now) : sys.Identified := by
  refine (Reachable.stable (P := fun sys ↦ sys.WellFormed ∧ sys.Identified) h (fun s hs ↦ ?_) ?_).2
  · have hwf := hs.wellFormed
    obtain ⟨-, -, hmeetings, hjobs, -⟩ := hs
    refine ⟨hwf, ⟨?_, ?_, ?_, ?_, ?_, ?_⟩⟩
    all_goals simp [hmeetings, hjobs]
  · rintro _ s s' ⟨hwf, hid⟩ ⟨rules, op, hrun⟩
    have hstep := Operation.run_effect hwf hrun
    exact ⟨hstep.wellFormed hwf, hstep.identified hwf hid⟩

/-! ## Adding the created meeting -/

/-- `add_meeting` leaves a row of the created meeting exactly if the owner's row is still there. -/
theorem Job.add_records_iff (hwf : sys.WellFormed) (hid : sys.Identified) {job : Job H}
    (hjob : job ∈ sys.jobs) {ref : OwnerRef} {host : String} {meeting : ProviderMeeting}
    {current : Option H} {db' : MeetingDatabase} (howner : job.claim.owner = some ref)
    (hstage : job.stage = .created host meeting)
    (hadd : job.complete .add current sys.db = .ok db') :
    (∃ m ∈ db'.meetings, m.providerMeetingId = meeting.id ∧ m.owner? = some ref)
      ↔ (sys.db.owner? ref).isSome := by
  have hcreated : job.createdId = some meeting.id := by rw [Job.createdId, hstage]
  constructor
  · rintro ⟨m', hm', heq, -⟩
    rcases Job.complete_effect hwf.db hadd with ⟨error, meetings, rfl, htrim⟩ |
      ⟨ref', host', meeting', howner', -, -, ⟨o, ho, -⟩, -, rfl⟩
    · -- a meeting that was there before has another identifier
      obtain ⟨m, hm, -, -, -, -, hsame | hread⟩ := htrim.mem hm'
      · exact absurd (hsame.symm.trans heq) (hid.notRecorded job hjob _ hcreated m hm)
      · refine absurd (hread.symm.trans (congrArg some heq)) ?_
        exact hid.notClaimed job hjob _ hcreated job hjob
    · obtain rfl : ref' = ref := Option.some.inj (howner'.symm.trans howner)
      exact Option.isSome_of_mem ho
  · intro hsome
    obtain ⟨o, ho⟩ := Option.isSome_iff_exists.1 hsome
    have hheld : sys.db.IsClaimHeld ref job.claim.syncClaimedAt :=
      ⟨o, ho, hwf.held job hjob ref howner o (hwf.db.owner?_eq_some.1 ho)⟩
    have haction : job.claim.syncAction = .create := (hwf.staged job hjob (by simp [hstage])).1
    simp only [Job.complete, howner, haction, hstage, addMeeting, hheld, if_true] at hadd
    obtain ⟨-, rfl⟩ := insertMeeting_eq_ok (newMeeting_owner? ..)
      (by exact hwf.db.oneOwner) hadd
    exact ⟨_, List.mem_append_right _ (List.mem_singleton_self _), rfl, newMeeting_owner? ..⟩

/-- Without the owner's row, `add_meeting` commits and inserts nothing. -/
theorem Job.add_commits_of_gone (hwf : sys.WellFormed) {job : Job H} (hjob : job ∈ sys.jobs)
    {ref : OwnerRef} {host : String} {meeting : ProviderMeeting} {current : Option H}
    (howner : job.claim.owner = some ref) (hstage : job.stage = .created host meeting)
    (hgone : ¬ (sys.db.owner? ref).isSome) : ∃ db', job.complete .add current sys.db = .ok db' := by
  have hfree : ¬ sys.db.IsClaimHeld ref job.claim.syncClaimedAt := fun ⟨o, ho, _⟩ ↦
    hgone (Option.isSome_of_mem ho)
  have haction : job.claim.syncAction = .create := (hwf.staged job hjob (by simp [hstage])).1
  refine ⟨completeClaim ref job.claim current none sys.db, ?_⟩
  simp only [Job.complete, howner, haction, hstage, addMeeting]
  exact if_neg hfree

/-! ## Runs that spare the sessions with a creation under way -/

/-- The edit removes no session whose meeting is being created. -/
def SparesCreations : EditGuard H := fun _ edit sys ↦
  ∀ job ∈ sys.jobs, job.claim.syncAction = .create → ∀ s ∈ sys.db.sessions,
    job.claim.owner = some (.session s.sessionId) → ¬ edit.Removes s

instance decidableSparesCreations (now : Timestamp) (edit : Edit) (sys : Service H) :
    Decidable (SparesCreations now edit sys) :=
  inferInstanceAs (Decidable (∀ job ∈ sys.jobs, _ → ∀ s ∈ sys.db.sessions, _ → _))

/-- The owners whose meetings are being created are there. -/
def Service.CreatesForOwners (sys : Service H) : Prop :=
  ∀ job ∈ sys.jobs, job.claim.syncAction = .create → ∀ ref ∈ job.claim.owner,
    ∃ o, (ref, o) ∈ sys.db.owners

omit [DecidableEq H] in
theorem Service.CreatesForOwners.of_frame (h : sys.CreatesForOwners)
    (hjobs : ∀ job' ∈ sys'.jobs, ∃ job ∈ sys.jobs, job'.claim = job.claim)
    (hkept : ∀ job ∈ sys.jobs, job.claim.syncAction = .create → ∀ ref ∈ job.claim.owner,
      ∀ o, (ref, o) ∈ sys.db.owners → ∃ o', (ref, o') ∈ sys'.db.owners) :
    sys'.CreatesForOwners := by
  -- a step in which no owner of a creation goes away
  intro job' hjob' haction ref href
  obtain ⟨job, hjob, hclaim⟩ := hjobs job' hjob'
  rw [hclaim] at haction href
  obtain ⟨o, ho⟩ := h job hjob haction ref href
  exact hkept job hjob haction ref href o ho

theorem mem_owners_updateOwner_of_mem {db : MeetingDatabase} {ref r : OwnerRef}
    {selected : Owner → Prop} [DecidablePred selected] {f : Owner → Owner} {o : Owner}
    (ho : (r, o) ∈ db.owners) : ∃ o', (r, o') ∈ (db.updateOwner ref selected f).owners :=
  ⟨_, mem_owners_updateOwner.2 ⟨o, ho, rfl⟩⟩

theorem StepEffect.createsForOwners {cfg : ZoomConfig} {now : Timestamp} {op : Operation}
    (hwf : sys.WellFormed) (h : sys.CreatesForOwners)
    (hspares : op.IsAllowed (SparesCreations now · sys))
    (hstep : StepEffect digest cfg now sys op sys') : sys'.CreatesForOwners := by
  cases hstep with
  | @edit rules edit db' hrun =>
    refine h.of_frame (fun job hjob ↦ ⟨job, hjob, rfl⟩) fun job hjob haction ref href o ho ↦ ?_
    refine Edit.run_keeps hwf.db hrun ho fun s hs heq ↦ ?_
    exact hspares job hjob haction s hs (heq ▸ href)
  | @claim worker case claim db' hfree hclaim =>
    have hkept : ∀ {ref : OwnerRef} {o : Owner}, (ref, o) ∈ sys.db.owners →
        ∃ o', (ref, o') ∈ db'.owners := by
      intro ref o ho
      cases hclaim with
      | sync => exact mem_owners_updateOwner_of_mem ho
      | delete => exact mem_owners_updateOwner_of_mem ho
      | orphan => exact ⟨o, ho⟩
    intro job hjob haction ref href
    rcases List.mem_append.1 hjob with hjob | hjob
    · obtain ⟨o, ho⟩ := h job hjob haction ref href
      exact hkept ho
    · rw [List.mem_singleton.1 hjob] at haction href
      cases hclaim with
      | @sync ref' o ho =>
        obtain rfl := Option.some.inj href
        exact hkept ho
      | delete => simp [Claim.syncAction, MeetingDatabase.deleteClaim] at haction
      | orphan => simp [Claim.syncAction, Meeting.orphanClaim] at haction
  | @assign job job' db' hjob hassign =>
    obtain ⟨ref, -, -, -, houtcome⟩ := Job.assign_eq_ok (hwf.hostless job hjob) hassign
    rcases houtcome with ⟨rfl, rfl⟩ | ⟨_, _, _, -, -, -, rfl, rfl⟩
    · refine h.of_frame (fun job₁ hjob₁ ↦ ?_) fun _ _ _ _ _ o ho ↦ ⟨o, ho⟩
      rcases mem_replaceRow hjob₁ with rfl | ⟨hjob₁, -⟩
      · exact ⟨_, hjob, rfl⟩
      · exact ⟨job₁, hjob₁, rfl⟩
    · refine h.of_frame (fun job₁ hjob₁ ↦ ?_) fun _ _ _ _ _ o ho ↦ mem_owners_updateOwner_of_mem ho
      rcases mem_replaceRow hjob₁ with rfl | ⟨hjob₁, -⟩
      · exact ⟨job, hjob, rfl⟩
      · exact ⟨job₁, hjob₁, rfl⟩
  | @create job job' meeting hjob hcreate =>
    obtain ⟨host, -, -, rfl⟩ := Job.create_eq_ok hcreate
    refine h.of_frame (fun job₁ hjob₁ ↦ ?_) fun _ _ _ _ _ o ho ↦ ⟨o, ho⟩
    rcases mem_replaceRow hjob₁ with rfl | ⟨hjob₁, -⟩
    · exact ⟨job, hjob, rfl⟩
    · exact ⟨job₁, hjob₁, rfl⟩
  | @complete job completion db' hjob hcomplete =>
    refine h.of_frame (fun job' hjob' ↦ ⟨job', (List.mem_filter.1 hjob').1, rfl⟩)
      fun _ _ _ ref _ o ho ↦ ?_
    rcases Job.complete_effect hwf.db hcomplete with ⟨error, meetings, rfl, -⟩ |
      ⟨_, _, _, -, -, -, -, -, rfl⟩
    · exact ⟨_, mem_owners_settle.2 ⟨o, ho, rfl⟩⟩
    · exact ⟨_, mem_owners_settle.2 ⟨o, ho, rfl⟩⟩
  | @release job hjob =>
    refine h.of_frame (fun job' hjob' ↦ ⟨job', (List.mem_filter.1 hjob').1, rfl⟩)
      fun _ _ _ ref _ o ho ↦ ?_
    unfold releaseMeetingSyncClaim Service.finish
    cases job.claim.owner with
    | none => exact ⟨o, ho⟩
    | some ref' => exact mem_owners_updateOwner_of_mem ho

theorem Service.ReachedUnder.createsForOwners {cfg : ZoomConfig} {now : Timestamp}
    (h : sys.ReachedUnder digest SparesCreations cfg now) : sys.CreatesForOwners := by
  refine (Reachable.stable (P := fun sys ↦ sys.WellFormed ∧ sys.CreatesForOwners) h
    (fun s hs ↦ ⟨hs.wellFormed, ?_⟩) ?_).2
  · obtain ⟨-, -, -, hjobs, -⟩ := hs
    intro job hjob
    simp [hjobs] at hjob
  · rintro _ s s' ⟨hwf, hcreates⟩ ⟨rules, op, hspares, hrun⟩
    have hstep := Operation.run_effect hwf hrun
    exact ⟨hstep.wellFormed hwf, hstep.createsForOwners hwf hcreates hspares⟩

/-- No event and no session has two meetings. -/
def MeetingDatabase.OneMeetingEach (db : MeetingDatabase) : Prop :=
  ∀ m ∈ db.meetings, ∀ m' ∈ db.meetings, ∀ ref ∈ m.owner?, ref ∈ m'.owner? → m = m'

/-- The `add_meeting` of a job, if it is what commits next, leaves a row of the meeting that the
provider created for the job. -/
def Job.IsRecorded (digest : SyncInputs → H) (cfg : ZoomConfig) (now : Timestamp)
    (sys : Service H) (job : Job H) : Prop :=
  ∀ (rules : Rules) (sys' : Service H),
    (Operation.complete job.worker .add).run digest rules cfg now sys = .ok sys' →
    ∃ m ∈ sys'.db.meetings, some m.providerMeetingId = job.createdId ∧ m.owner? = job.claim.owner

/-- **Created meetings.** No owner ever has two meetings. The `add_meeting` of a created meeting
records it if and only if the owner's row is still there; so it records every created meeting of a
run in which no session is removed while its meeting is being created. -/
theorem created_meetings_recorded {cfg : ZoomConfig} {now : Timestamp}
    (h : sys.Reached digest cfg now) : sys.db.OneMeetingEach
      ∧ (∀ job ∈ sys.jobs, ∀ ref ∈ job.claim.owner, ∀ id ∈ job.createdId,
        job.IsRecorded digest cfg now sys ↔ (sys.db.owner? ref).isSome)
      ∧ (sys.ReachedUnder digest SparesCreations cfg now → ∀ job ∈ sys.jobs, ∀ id ∈ job.createdId,
        job.IsRecorded digest cfg now sys) := by
  have hwf := h.wellFormed
  have hrecorded : ∀ job ∈ sys.jobs, ∀ ref ∈ job.claim.owner, ∀ id ∈ job.createdId,
      job.IsRecorded digest cfg now sys ↔ (sys.db.owner? ref).isSome := by
    intro job hjob ref howner id hcreated
    obtain ⟨host, meeting, hstage⟩ := Job.exists_created hcreated
    have hiff : ∀ {db'}, job.complete .add (currentHash digest job.claim sys.db) sys.db = .ok db' →
        ((∃ m ∈ db'.meetings, some m.providerMeetingId = job.createdId ∧ m.owner? = job.claim.owner)
          ↔ (sys.db.owner? ref).isSome) := fun hadd ↦ by
      rw [← Job.add_records_iff hwf h.identified hjob howner hstage hadd, Option.mem_def.1 howner,
        Job.createdId, hstage]
      simp
    constructor
    · intro hrecords
      by_contra hgone
      -- without the owner's row, `add_meeting` commits
      obtain ⟨db', hadd⟩ := Job.add_commits_of_gone hwf hjob howner hstage hgone
      have hrun : (Operation.complete job.worker .add).run digest sampleRules cfg now sys
          = .ok (sys.finish job.worker db') := by
        rw [Operation.run, (Service.job?_eq_some hwf).2 ⟨hjob, rfl⟩]
        dsimp only
        rw [hadd]
        rfl
      exact hgone ((hiff hadd).1 (hrecords sampleRules _ hrun))
    · intro hsome rules sys' hrun
      simp only [Operation.run, (Service.job?_eq_some hwf).2 ⟨hjob, rfl⟩, bind_eq_ok,
        Except.ok.injEq] at hrun
      obtain ⟨db', hadd, rfl⟩ := hrun
      exact (hiff hadd).2 hsome
  refine ⟨hwf.db.oneMeeting, hrecorded, fun hspared job hjob id hid ↦ ?_⟩
  obtain ⟨host, meeting, hstage⟩ := Job.exists_created hid
  obtain ⟨haction, howner⟩ := hwf.staged job hjob (by simp [hstage])
  obtain ⟨ref, howner⟩ := Option.ne_none_iff_exists'.1 howner
  obtain ⟨o, ho⟩ := hspared.createsForOwners job hjob haction ref howner
  refine (hrecorded job hjob ref howner id hid).2 ?_
  rw [hwf.db.owner?_eq_some.2 ho]
  rfl

/-- An event with one session, whose meeting the first worker creates. -/
def sampleCreation : List (Timestamp × Operation) :=
  [(0, .edit (.addEvent (sampleEventPayload (samplePayload (hours 10) (hours 20) none)
    [sampleSessionPayload none (samplePayload (hours 10) (hours 11) (some true))]))),
    (0, .edit (.publishEvent 1)), (0, .claim 1 (.sync (.session 2))), (0, .assign 1),
    (0, .create 1 (sampleMeeting "1000"))]

/-- The session is renamed while its meeting is being created. -/
theorem created_meetings_recorded_sample : ∃ sys : Service SyncInputs,
    sys.ReachedUnder id SparesCreations sampleConfig 0
      ∧ ∃ job ∈ sys.jobs, job.createdId = some "1000" ∧ job.IsRecorded id sampleConfig 0 sys := by
  obtain ⟨sys, hreached, job, hjob, hid⟩ := exists_reachedUnder SparesCreations
    (sampleCreation ++ [(0, .edit (.updateEvent 1 (sampleEventPayload
      (samplePayload (hours 10) (hours 20) none)
      [sampleSessionPayload (some 2)
        { samplePayload (hours 10) (hours 11) (some true) with name := "Talk" }])))])
    (fun sys ↦ ∃ job ∈ sys.jobs, job.createdId = some "1000") (by decide +kernel)
  exact ⟨sys, hreached, job, hjob, hid,
    (created_meetings_recorded hreached.reached).2.2 hreached job hjob _ hid⟩

/-- The session is removed while its meeting is being created. -/
theorem not_created_meetings_recorded : ¬ ∀ (now : Timestamp) (sys : Service SyncInputs),
    sys.Reached id sampleConfig now → ∀ job ∈ sys.jobs, ∀ meetingId ∈ job.createdId,
      job.IsRecorded id sampleConfig now sys := by
  intro hclaim
  obtain ⟨sys, hreached, job, hjob, hid, hadd⟩ := exists_reached
    (sampleCreation ++ [(0, .edit (.updateEvent 1 (sampleEventPayload
      (samplePayload (hours 10) (hours 20) none) [])))])
    (fun sys ↦ ∃ job ∈ sys.jobs, job.createdId = some "1000"
      ∧ Replays (Operation.run id sampleRules sampleConfig) [(0, .complete job.worker .add)] sys
        fun sys' ↦ sys'.db.meetings = []) (by decide +kernel)
  obtain ⟨sys', hrun, hnone⟩ := exists_of_replays hadd
  obtain ⟨m, hm, -⟩ := hclaim 0 sys hreached job hjob _ hid sampleRules sys'
    (by simpa [replay] using hrun)
  simp [hnone] at hm

end Ocg.Meetings
