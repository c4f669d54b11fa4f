import Ocg.Meeting.Jobs

/-!
# Pending deletions

A meeting that is not wanted any more is deleted by whoever claims its owner for a deletion. The
only trace of that is the owner's own row: `meeting_in_sync = false` beside a request that is not
null. Two kinds of edit erase it. One that omits `meeting_requested` turns the request into null,
which no deletion case selects. One that says `meeting_requested = false` for an owner whose
deletion is already pending finds nothing requested before, and turns the sync flag into null. In
runs without such edits every pending deletion is claimed or can be claimed.

The history remembers for which owners a deletion was attempted since their meeting became unwanted.
-/

namespace Ocg.Meetings

open Relational

variable {H : Type} {digest : SyncInputs → H}

/-! ## Wanted meetings -/

/-- The owner asks for a meeting and its event is live. -/
def MeetingDatabase.Wants (db : MeetingDatabase) (ref : OwnerRef) : Prop :=
  ∃ o ∈ db.owner? ref, o.meetingRequested = some true ∧ db.IsLive ref

instance MeetingDatabase.decidableWants (db : MeetingDatabase) (ref : OwnerRef) :
    Decidable (db.Wants ref) :=
  inferInstanceAs (Decidable (∃ o ∈ db.owner? ref, _ ∧ _))

/-- A meeting is recorded for the owner. -/
def MeetingDatabase.HasMeeting (db : MeetingDatabase) (ref : OwnerRef) : Prop :=
  ∃ m ∈ db.meetings, ref ∈ m.owner?

instance MeetingDatabase.decidableHasMeeting (db : MeetingDatabase) (ref : OwnerRef) :
    Decidable (db.HasMeeting ref) :=
  inferInstanceAs (Decidable (∃ m ∈ db.meetings, _))

/-- Inputs of an owner that wants its meeting. -/
def SyncInputs.Wanted : SyncInputs → Prop
  | .event i => i.meetingRequested = some true ∧ i.deleted = false ∧ i.canceled = false
    ∧ i.published = true
  | .session i => i.meetingRequested = some true ∧ i.eventDeleted = false ∧ i.eventCanceled = false
    ∧ i.eventPublished = true

namespace MeetingDatabase.WellFormed

variable {db : MeetingDatabase} (h : db.WellFormed)
include h

theorem wants_iff {ref : OwnerRef} {o : Owner} (ho : (ref, o) ∈ db.owners) :
    db.Wants ref ↔ o.meetingRequested = some true ∧ db.IsLive ref := by
  constructor
  · rintro ⟨o', ho', hwants⟩
    rwa [h.owner_unique ho (h.owner?_eq_some.1 ho')]
  · exact fun hwants ↦ ⟨o, h.owner?_eq_some.2 ho, hwants⟩

theorem wanted_iff {ref : OwnerRef} {o : Owner} {inputs : SyncInputs} (ho : (ref, o) ∈ db.owners)
    (hinputs : db.syncInputs ref = some inputs) :
    inputs.Wanted ↔ o.meetingRequested = some true ∧ db.IsLive ref := by
  cases ref with
  | event id =>
    obtain ⟨e, he, rfl, rfl⟩ := event_mem_owners.1 ho
    have hfind := h.event?_eq_some.2 ⟨he, rfl⟩
    rw [MeetingDatabase.syncInputs, hfind, Option.map_some, Option.some.injEq] at hinputs
    subst hinputs
    rw [MeetingDatabase.IsLive, eventOf_event, hfind]
    simp [SyncInputs.Wanted, Event.syncInputs, Event.IsLive]
  | session id =>
    obtain ⟨s, hs, rfl, rfl⟩ := session_mem_owners.1 ho
    obtain ⟨e, he, hid⟩ := List.mem_map.1 (h.sessionEvent _ (List.mem_map_of_mem hs))
    have hfind := h.event?_eq_some.2 ⟨he, hid⟩
    rw [MeetingDatabase.syncInputs, h.session?_eq_some.2 ⟨hs, rfl⟩, Option.bind_some, hfind,
      Option.map_some, Option.some.injEq] at hinputs
    subst hinputs
    rw [MeetingDatabase.IsLive, eventOf_session, h.session?_eq_some.2 ⟨hs, rfl⟩, Option.bind_some,
      hfind]
    simp [SyncInputs.Wanted, Session.syncInputs, Event.IsLive]

end MeetingDatabase.WellFormed

/-! ## Histories of attempts -/

/-- A service, with the owners of unwanted meetings for which a deletion was attempted since. -/
structure Tracked (H : Type) where
  sys : Service H
  attempted : List OwnerRef
  deriving DecidableEq, Repr

/-- The owner of a deletion that the operation completes or records as failed. -/
def Operation.attempts (sys : Service H) : Operation → List OwnerRef
  | .complete worker .delete | .complete worker (.setError _) =>
    match sys.job? worker with
    | some job => if job.claim.syncAction = .delete then job.claim.owner.toList else []
    | none => []
  | _ => []

/-- The history after the operation. -/
def Tracked.next (op : Operation) (sys' : Service H) (t : Tracked H) : Tracked H :=
  ⟨sys', (t.attempted ++ op.attempts t.sys).filter fun ref ↦ ¬ sys'.db.Wants ref⟩

/-- Every recorded meeting whose deletion is due is claimed, or can be claimed for its deletion. -/
def Tracked.DeletionsPending (t : Tracked H) : Prop :=
  ∀ m ∈ t.sys.db.meetings, match m.owner? with
    | some ref => ¬ t.sys.db.Wants ref → ref ∉ t.attempted →
      (∃ o ∈ t.sys.db.owner? ref, o.meetingSyncClaimedAt ≠ none) ∨ t.sys.db.NeedsDelete ref
    | none => m.syncClaimedAt ≠ none ∨ m.IsUnclaimedOrphan

/-! ## Edits that keep pending deletions -/

/-- The edit does not omit the request of an owner whose meeting is recorded or being worked on, and
does not withdraw a request again while the deletion is pending. -/
def Edit.KeepsDeletions (edit : Edit) (t : Tracked H) : Prop :=
  ∀ row ∈ t.sys.db.owners, ∀ p ∈ edit.payloadOf row.1, row.1 ∉ t.attempted →
    (p.meetingRequested = none →
      ¬ t.sys.db.HasMeeting row.1 ∧ row.2.meetingSyncClaimedAt = none)
    ∧ ¬ (p.meetingRequested = some false ∧ row.2.meetingRequested = some false
      ∧ t.sys.db.HasMeeting row.1 ∧ t.sys.db.NeedsDelete row.1)

instance Edit.decidableKeepsDeletions (edit : Edit) (t : Tracked H) :
    Decidable (edit.KeepsDeletions t) :=
  inferInstanceAs (Decidable (∀ row ∈ t.sys.db.owners, ∀ p ∈ edit.payloadOf row.1, _ → _ ∧ _))

section Runs

variable [DecidableEq H]

/-- One committed step, in which an edit satisfies `guard`. -/
def TrackedStep (digest : SyncInputs → H) (guard : Edit → Tracked H → Prop) (cfg : ZoomConfig)
    (now : Timestamp) (t t' : Tracked H) : Prop :=
  ∃ (rules : Rules) (op : Operation) (sys' : Service H), op.IsAllowed (guard · t)
    ∧ op.run digest rules cfg now t.sys = .ok sys' ∧ t' = t.next op sys'

/-- The histories whose edits satisfy `guard`. -/
def Tracked.ReachedUnder (digest : SyncInputs → H) (guard : Edit → Tracked H → Prop)
    (cfg : ZoomConfig) (now : Timestamp) (t : Tracked H) : Prop :=
  Reachable (TrackedStep digest guard cfg) (fun _ _ ↦ True)
    (fun t ↦ t.sys.Fresh ∧ t.attempted = []) now t

end Runs

/-! ## The invariant -/

/-- What the row of an owner must say of its meeting, unless its deletion was attempted. -/
structure Owner.KeepsMeeting (db : MeetingDatabase) (ref : OwnerRef) (o : Owner) : Prop where
  requested : db.HasMeeting ref ∨ o.meetingSyncClaimedAt ≠ none → o.meetingRequested ≠ none
  outOfSync : db.HasMeeting ref → ¬ (o.meetingRequested = some true ∧ db.IsLive ref) →
    o.meetingSyncClaimedAt = none → o.meetingInSync = some false

structure Tracked.Invariant (digest : SyncInputs → H) (t : Tracked H) : Prop where
  wellFormed : t.sys.WellFormed
  owners : ∀ ref o, (ref, o) ∈ t.sys.db.owners → ref ∉ t.attempted → o.KeepsMeeting t.sys.db ref
  wanted : ∀ job ∈ t.sys.jobs, job.claim.syncAction ≠ .delete →
    ∃ inputs : SyncInputs, job.claim.syncStateHash = some (digest inputs) ∧ inputs.Wanted

variable {db db' : MeetingDatabase} {t : Tracked H} {sys' : Service H}

theorem Owner.KeepsMeeting.of_eq {ref : OwnerRef} {o o' : Owner} (h : o.KeepsMeeting db ref)
    (hmeeting : db'.HasMeeting ref → db.HasMeeting ref) (hlive : db'.IsLive ref ↔ db.IsLive ref)
    (hrequested : o'.meetingRequested = o.meetingRequested)
    (hsync : o'.meetingInSync = o.meetingInSync)
    (hclaimed : o'.meetingSyncClaimedAt = o.meetingSyncClaimedAt) : o'.KeepsMeeting db' ref := by
  constructor
  · rw [hrequested, hclaimed]
    exact fun hdue ↦ h.requested (hdue.imp_left hmeeting)
  · rw [hrequested, hclaimed, hsync, hlive]
    exact fun hm ↦ h.outOfSync (hmeeting hm)

/-- It is enough to look at owners without an attempt. -/
theorem Tracked.Invariant.next (h : t.Invariant digest) {op : Operation} (hwf : sys'.WellFormed)
    (howners : ∀ ref o', (ref, o') ∈ sys'.db.owners → ref ∉ t.attempted →
      ref ∉ op.attempts t.sys → o'.KeepsMeeting sys'.db ref)
    (hwanted : ∀ job' ∈ sys'.jobs, (∃ job ∈ t.sys.jobs, job'.claim = job.claim) ∨
      (job'.claim.syncAction ≠ .delete → ∃ inputs : SyncInputs,
        job'.claim.syncStateHash = some (digest inputs) ∧ inputs.Wanted)) :
    (t.next op sys').Invariant digest := by
  refine ⟨hwf, fun ref o' ho' hnot ↦ ?_, fun job' hjob' haction ↦ ?_⟩
  · have hnot : sys'.db.Wants ref ∨ (ref ∉ t.attempted ∧ ref ∉ op.attempts t.sys) := by
      by_contra hcon
      push Not at hcon
      refine hnot (List.mem_filter.2 ⟨?_, decide_eq_true hcon.1⟩)
      by_cases hmem : ref ∈ t.attempted
      · exact List.mem_append_left _ hmem
      · exact List.mem_append_right _ (hcon.2 hmem)
    rcases hnot with hwants | ⟨hattempted, hattempts⟩
    · rw [hwf.db.wants_iff ho'] at hwants
      exact ⟨fun _ ↦ by simp [hwants.1], fun _ hun ↦ absurd hwants hun⟩
    · exact howners ref o' ho' hattempted hattempts
  · rcases hwanted job' hjob' with ⟨job, hjob, hclaim⟩ | hnew
    · rw [hclaim] at haction ⊢
      exact h.wanted job hjob haction
    · exact hnew haction

/-! ## Edits -/

theorem Owner.KeepsMeeting.edit {ref : OwnerRef} {o o' : Owner} {p : OwnerPayload}
    (h : o.KeepsMeeting db ref) (hmeeting : db'.HasMeeting ref → db.HasMeeting ref)
    (hlive : db'.IsLive ref ↔ db.IsLive ref) (hedited : OwnerEdited (some p) o o')
    (homits : p.meetingRequested = none → ¬ db.HasMeeting ref ∧ o.meetingSyncClaimedAt = none)
    (hrepeats : p.meetingRequested = some false → o.meetingRequested = some false →
      o.meetingInSync = some false → o.meetingSyncClaimedAt = none → ¬ db.HasMeeting ref) :
    o'.KeepsMeeting db' ref := by
  obtain ⟨flag, rfl, hflag⟩ := hedited
  refine ⟨fun hdue hnone ↦ ?_, fun hm hunwanted hunclaimed ↦ ?_⟩
  · obtain ⟨hnot, hunclaimed⟩ := homits hnone
    exact hdue.elim (fun hm ↦ hnot (hmeeting hm)) fun hclaimed ↦ hclaimed hunclaimed
  · have hm := hmeeting hm
    rw [hlive] at hunwanted
    by_cases hbefore : o.meetingRequested = some true
    · by_cases hafter : p.meetingRequested = some true
      · -- still requested, so the event is not live and the flag was down already
        have hnotLive : ¬ db.IsLive ref := fun hl ↦ hunwanted ⟨hafter, hl⟩
        refine hflag.pending (h.outOfSync hm (fun hw ↦ hnotLive hw.2) hunclaimed) ?_
        simp [hafter]
      · exact hflag.withdrawn hbefore hafter
    · have hpending := h.outOfSync hm (fun hw ↦ hbefore hw.1) hunclaimed
      refine hflag.pending hpending fun hafter ↦ ?_
      have hfalse : o.meetingRequested = some false := by
        have hsome := h.requested (.inl hm)
        cases hrequested : o.meetingRequested with
        | none => exact absurd hrequested hsome
        | some b =>
          cases b with
          | true => exact absurd hrequested hbefore
          | false => rfl
      exact hrepeats hafter hfalse hpending hunclaimed hm

theorem Owner.KeepsMeeting.markOutOfSync {ref : OwnerRef} {o : Owner} (h : o.KeepsMeeting db ref)
    (hmeeting : db'.HasMeeting ref → db.HasMeeting ref) : o.markOutOfSync.KeepsMeeting db' ref := by
  obtain ⟨hrequested, -, hclaimed, -⟩ := o.markOutOfSync_eq
  refine ⟨?_, ?_⟩
  · rw [hrequested, hclaimed]
    exact fun hdue ↦ h.requested (hdue.imp_left hmeeting)
  · rw [hrequested, hclaimed]
    intro hm _ hunclaimed
    unfold Owner.markOutOfSync
    by_cases hreq : o.meetingRequested = some true
    · rw [if_pos hreq]
    · rw [if_neg hreq]
      exact h.outOfSync (hmeeting hm) (fun hw ↦ hreq hw.1) hunclaimed

theorem Tracked.Invariant.edit (h : t.Invariant digest) {rules : Rules} {now : Timestamp}
    {edit : Edit} (hguard : edit.KeepsDeletions t) (hrun : edit.run rules now t.sys.db = .ok db')
    {ref : OwnerRef} {o' : Owner} (ho' : (ref, o') ∈ db'.owners) (hnot : ref ∉ t.attempted) :
    o'.KeepsMeeting db' ref := by
  have hwf := h.wellFormed.db
  have hframe := Edit.run_frame hwf hrun
  have hmeeting : ∀ r, db'.HasMeeting r → t.sys.db.HasMeeting r := by
    rintro r ⟨m', hm', hr⟩
    obtain ⟨m, hm, -, hback⟩ := hframe.meetings m' hm'
    exact ⟨m, hm, hback r hr⟩
  rcases Edit.run_effect hwf hrun with ⟨rfl, -⟩ | heffect | ⟨⟨id, f, rfl, hf⟩, -, -⟩
  · exact h.owners ref o' ho' hnot
  · rcases heffect.owner ho' with ⟨o, ho, hedited⟩ | ⟨hfresh, hnew⟩
    · have hlive := heffect.isLive_iff hwf ho ho'
      have hkeeps := h.owners ref o ho hnot
      cases hp : edit.payloadOf ref with
      | none =>
        obtain rfl : o' = o := by
          rw [hp] at hedited
          exact hedited
        exact hkeeps.of_eq (hmeeting ref) hlive rfl rfl rfl
      | some p =>
        rw [hp] at hedited
        obtain ⟨homits, hrepeats⟩ := hguard (ref, o) ho p hp hnot
        refine hkeeps.edit (hmeeting ref) hlive hedited homits fun hafter hbefore hsync hclaim hm ↦
          ?_
        exact hrepeats ⟨hafter, hbefore, hm, o, hwf.owner?_eq_some.2 ho, hsync, hclaim,
          .inr hbefore⟩
    · refine ⟨fun hdue ↦ ?_, fun hm ↦ ?_⟩
      · rcases hdue with hm | hclaimed
        · obtain ⟨m, hm, href⟩ := hmeeting ref hm
          obtain ⟨o, ho⟩ := hwf.exists_owner hm href
          exact absurd (hwf.issued ho) (not_lt.2 hfresh)
        · exact absurd hnew.unclaimed hclaimed
      · obtain ⟨m, hm, href⟩ := hmeeting ref hm
        obtain ⟨o, ho⟩ := hwf.exists_owner hm href
        exact absurd (hwf.issued ho) (not_lt.2 hfresh)
  · rcases switchEvent_owner hwf hf ho' with ⟨o, ho, rfl⟩ | ⟨ho, hlive⟩
    · exact (h.owners ref o ho hnot).markOutOfSync (hmeeting ref)
    · exact (h.owners ref o' ho hnot).of_eq (hmeeting ref) hlive rfl rfl rfl

/-! ## Workers -/

theorem MeetingsTrimmed.hasMeeting {id : Option String}
    (h : MeetingsTrimmed id db.meetings db'.meetings) {ref : OwnerRef} (hm : db'.HasMeeting ref) :
    db.HasMeeting ref := by
  obtain ⟨m', hm', href⟩ := hm
  obtain ⟨m, hm, -, hsame, -⟩ := h.mem hm'
  exact ⟨m, hm, hsame ▸ href⟩

theorem Tracked.Invariant.claim (h : t.Invariant digest) {now : Timestamp} {claim : Claim H}
    (hclaim : Claims digest now t.sys.db claim db') {ref : OwnerRef} {o' : Owner}
    (ho' : (ref, o') ∈ db'.owners) (hnot : ref ∉ t.attempted) : o'.KeepsMeeting db' ref := by
  have hmeeting : db'.HasMeeting ref → t.sys.db.HasMeeting ref := hclaim.trimmed.hasMeeting
  -- the claimed row has a request that is not null
  have hclaimed : ∀ {r : OwnerRef}, (∀ o, (r, o) ∈ t.sys.db.owners → o.meetingRequested ≠ none) →
      (ref, o') ∈ (t.sys.db.updateOwner r (fun _ ↦ True) (Owner.claim now)).owners →
      (db'.IsLive ref ↔ t.sys.db.IsLive ref) → o'.KeepsMeeting db' ref := by
    intro r hrequested ho' hlive
    obtain ⟨o, ho, rfl⟩ := mem_owners_updateOwner.1 ho'
    by_cases heq : ref = r
    · rw [if_pos ⟨heq, trivial⟩]
      exact ⟨fun _ ↦ hrequested o (heq ▸ ho), fun _ _ hnone ↦ by simp [Owner.claim] at hnone⟩
    · rw [if_neg fun hsel ↦ heq hsel.1]
      exact (h.owners ref o ho hnot).of_eq hmeeting hlive rfl rfl rfl
  have hwf := h.wellFormed.db
  cases hclaim with
  | sync ho hneeds =>
    obtain ⟨o₁, ho₁, hreq, -⟩ := hneeds
    refine hclaimed (fun o ho ↦ ?_) ho' isLive_updateOwner
    rw [hwf.owner_unique ho (hwf.owner?_eq_some.1 ho₁), hreq]
    simp
  | delete ho hneeds =>
    obtain ⟨o₁, ho₁, -, -, hreq⟩ := hneeds
    refine hclaimed (fun o ho ↦ ?_) ho' isLive_updateOwner
    rw [hwf.owner_unique ho (hwf.owner?_eq_some.1 ho₁)]
    rcases hreq with ⟨hreq, -⟩ | hreq
    · simp [hreq]
    · simp [hreq]
  | orphan => exact (h.owners ref o' ho' hnot).of_eq hmeeting Iff.rfl rfl rfl rfl

variable [DecidableEq H]

theorem Job.attempts_complete (hwf : t.sys.WellFormed) {job : Job H} {completion : Completion}
    {current : Option H} (hjob : job ∈ t.sys.jobs) (haction : job.claim.syncAction = .delete)
    (hcomplete : job.complete completion current t.sys.db = .ok db') :
    (Operation.complete job.worker completion).attempts t.sys = job.claim.owner.toList := by
  have hfind := (Service.job?_eq_some hwf).2 ⟨hjob, rfl⟩
  cases completion with
  | add => simp [Job.complete, haction] at hcomplete
  | update meeting => simp [Job.complete, haction] at hcomplete
  | delete => simp [Operation.attempts, hfind, haction]
  | setError error => simp [Operation.attempts, hfind, haction]

theorem Tracked.Invariant.complete (hdigest : Function.Injective digest) (h : t.Invariant digest)
    {job : Job H} {completion : Completion} (hjob : job ∈ t.sys.jobs)
    (hcomplete : job.complete completion (currentHash digest job.claim t.sys.db) t.sys.db = .ok db')
    {ref : OwnerRef} {o' : Owner} (ho' : (ref, o') ∈ db'.owners) (hnot : ref ∉ t.attempted)
    (hattempts : ref ∉ (Operation.complete job.worker completion).attempts t.sys) :
    o'.KeepsMeeting db' ref := by
  have hwf := h.wellFormed
  have heffect := Job.complete_effect hwf.db hcomplete
  obtain ⟨error, hsettled⟩ : ∃ error,
      (ref, o') ∈ (job.settle (currentHash digest job.claim t.sys.db) error t.sys.db).owners := by
    rcases heffect with ⟨error, meetings, rfl, -⟩ | ⟨_, _, _, -, -, -, -, -, rfl⟩
    · exact ⟨error, ho'⟩
    · exact ⟨none, ho'⟩
  have hlive : db'.IsLive ref ↔ t.sys.db.IsLive ref := by
    rcases heffect with ⟨error, meetings, rfl, -⟩ | ⟨_, _, _, -, -, -, -, -, rfl⟩
    · exact isLive_settle
    · exact isLive_settle
  obtain ⟨o, ho, rfl⟩ := mem_owners_settle.1 hsettled
  have hkeeps := h.owners ref o ho hnot
  by_cases howner : job.claim.owner = some ref
  · have hheld := hwf.held job hjob ref howner o ho
    rw [if_pos ⟨howner, hheld⟩]
    have hrequested : o.meetingRequested ≠ none := by
      refine hkeeps.requested (.inr ?_)
      rw [hheld]
      simp
    refine ⟨fun _ ↦ hrequested, fun _ hunwanted _ ↦ ?_⟩
    have haction : job.claim.syncAction ≠ .delete := fun haction ↦ by
      rw [Job.attempts_complete hwf hjob haction hcomplete, howner] at hattempts
      simp at hattempts
    -- the claim was made for a wanted meeting, so what is hashed has changed
    obtain ⟨claimed, hhash, hwanted⟩ := h.wanted job hjob haction
    obtain ⟨inputs, hinputs⟩ := hwf.db.exists_syncInputs ho
    have hchanged : inputs ≠ claimed := by
      rintro rfl
      rw [hwf.db.wanted_iff ho hinputs, ← hlive] at hwanted
      exact hunwanted hwanted
    have hcurrent : currentHash digest job.claim t.sys.db = some (digest inputs) := by
      rw [currentHash, howner, Option.bind_some, MeetingDatabase.syncStateHash, hinputs,
        Option.map_some]
    simp [Owner.complete, hcurrent, hhash, hdigest.ne hchanged]
  · rw [if_neg fun hsel ↦ howner hsel.1]
    refine hkeeps.of_eq (fun hm ↦ ?_) hlive rfl rfl rfl
    rcases heffect with ⟨error, meetings, rfl, htrim⟩ | ⟨ref', _, _, howner', -, -, -, -, rfl⟩
    · exact htrim.hasMeeting hm
    · obtain ⟨m, hm, href⟩ := hm
      rcases List.mem_append.1 hm with hm | hm
      · exact ⟨m, hm, href⟩
      · rw [List.mem_singleton.1 hm, newMeeting_owner?] at href
        exact absurd (howner'.trans href) howner

omit [DecidableEq H] in
theorem Tracked.Invariant.release (h : t.Invariant digest) {job : Job H} {ref : OwnerRef}
    {o' : Owner} (ho' : (ref, o') ∈ (releaseMeetingSyncClaim job.claim t.sys.db).owners)
    (hnot : ref ∉ t.attempted) :
    o'.KeepsMeeting (releaseMeetingSyncClaim job.claim t.sys.db) ref := by
  have hmeeting : (releaseMeetingSyncClaim job.claim t.sys.db).HasMeeting ref →
      t.sys.db.HasMeeting ref := (releaseMeetingSyncClaim_trimmed job.claim).hasMeeting
  cases howner : job.claim.owner with
  | none =>
    simp only [releaseMeetingSyncClaim, howner] at ho' hmeeting ⊢
    exact (h.owners ref o' ho' hnot).of_eq hmeeting Iff.rfl rfl rfl rfl
  | some ref' =>
    simp only [releaseMeetingSyncClaim, howner] at ho' hmeeting ⊢
    obtain ⟨o, ho, rfl⟩ := mem_owners_updateOwner.1 ho'
    have hkeeps := h.owners ref o ho hnot
    split
    · next hsel =>
      -- only a claim of an owner that is out of sync is given back
      obtain ⟨-, hsync, hclaimed⟩ := hsel
      refine ⟨fun _ ↦ hkeeps.requested (.inr ?_), fun _ _ _ ↦ hsync⟩
      rw [hclaimed]
      simp
    · exact hkeeps.of_eq hmeeting isLive_updateOwner rfl rfl rfl

theorem Tracked.Invariant.step (hdigest : Function.Injective digest) (h : t.Invariant digest)
    {cfg : ZoomConfig} {now : Timestamp} {op : Operation}
    (hguard : op.IsAllowed (Edit.KeepsDeletions · t))
    (hstep : StepEffect digest cfg now t.sys op sys') : (t.next op sys').Invariant digest := by
  have hwf := hstep.wellFormed h.wellFormed
  cases hstep with
  | @edit rules edit db' hrun =>
    exact h.next hwf (fun ref o' ho' hnot _ ↦ h.edit hguard hrun ho' hnot)
      fun job hjob ↦ .inl ⟨job, hjob, rfl⟩
  | @claim worker case claim db' hfree hclaim =>
    refine h.next hwf (fun ref o' ho' hnot _ ↦ h.claim hclaim ho' hnot) fun job' hjob' ↦ ?_
    rcases List.mem_append.1 hjob' with hjob' | hjob'
    · exact .inl ⟨job', hjob', rfl⟩
    · rw [List.mem_singleton.1 hjob']
      refine .inr fun haction ↦ ?_
      cases hclaim with
      | @sync ref o ho hneeds =>
        obtain ⟨o₁, ho₁, hreq, -, -, -, hlive⟩ := hneeds
        obtain ⟨inputs, hinputs⟩ := h.wellFormed.db.exists_syncInputs ho
        refine ⟨inputs, ?_, (h.wellFormed.db.wanted_iff ho hinputs).2 ⟨?_, hlive⟩⟩
        · simp [MeetingDatabase.syncClaim, MeetingDatabase.syncStateHash, hinputs]
        · rwa [h.wellFormed.db.owner_unique ho (h.wellFormed.db.owner?_eq_some.1 ho₁)]
      | delete => simp [Claim.syncAction, MeetingDatabase.deleteClaim] at haction
      | orphan => simp [Claim.syncAction, Meeting.orphanClaim] at haction
  | @assign job job' db' hjob hassign =>
    obtain ⟨ref', -, -, -, houtcome⟩ :=
      Job.assign_eq_ok (h.wellFormed.hostless job hjob) hassign
    refine h.next hwf (fun ref o' ho' hnot _ ↦ ?_) fun job₁ hjob₁ ↦ .inl ?_
    · rcases houtcome with ⟨-, rfl⟩ | ⟨_, _, _, -, -, -, -, rfl⟩
      · exact h.owners ref o' ho' hnot
      · obtain ⟨o, ho, rfl⟩ := mem_owners_updateOwner.1 ho'
        refine (h.owners ref o ho hnot).of_eq (fun hm ↦ hm) isLive_updateOwner ?_ ?_ ?_
        all_goals
          split
          · rfl
          · rfl
    · rcases mem_replaceRow hjob₁ with rfl | ⟨hjob₁, -⟩
      · refine ⟨job, hjob, ?_⟩
        rcases houtcome with ⟨rfl, -⟩ | ⟨_, _, _, -, -, -, rfl, -⟩
        · rfl
        · rfl
      · exact ⟨job₁, hjob₁, rfl⟩
  | @create job job' meeting hjob hcreate =>
    obtain ⟨host, -, -, rfl⟩ := Job.create_eq_ok hcreate
    refine h.next hwf (fun ref o ho hnot _ ↦ h.owners ref o ho hnot) fun job₁ hjob₁ ↦ .inl ?_
    rcases mem_replaceRow hjob₁ with rfl | ⟨hjob₁, -⟩
    · exact ⟨job, hjob, rfl⟩
    · exact ⟨job₁, hjob₁, rfl⟩
  | @complete job completion db' hjob hcomplete =>
    refine h.next hwf (fun ref o' ho' hnot hattempts ↦ ?_)
      fun job' hjob' ↦ .inl ⟨job', (List.mem_filter.1 hjob').1, rfl⟩
    exact h.complete hdigest hjob hcomplete ho' hnot hattempts
  | @release job hjob =>
    exact h.next hwf (fun ref o' ho' hnot _ ↦ h.release ho' hnot)
      fun job' hjob' ↦ .inl ⟨job', (List.mem_filter.1 hjob').1, rfl⟩

theorem Tracked.ReachedUnder.invariant (hdigest : Function.Injective digest) {cfg : ZoomConfig}
    {now : Timestamp} (h : t.ReachedUnder digest Edit.KeepsDeletions cfg now) :
    t.Invariant digest := by
  refine Reachable.stable h (fun t ⟨hfresh, _⟩ ↦ ⟨hfresh.wellFormed, ?_, ?_⟩) ?_
  · obtain ⟨hevents, hsessions, -⟩ := hfresh
    intro ref o ho
    simp [MeetingDatabase.owners, hevents, hsessions] at ho
  · obtain ⟨-, -, -, hjobs, -⟩ := hfresh
    intro job hjob
    simp [hjobs] at hjob
  · rintro _ t t' hinv ⟨rules, op, sys', hguard, hrun, rfl⟩
    exact hinv.step hdigest hguard (Operation.run_effect hinv.wellFormed hrun)

/-! ## Deletions stay pending -/

/-- **Pending deletions.** In a run without edits that drop a pending deletion, the deletion of
every meeting that is not wanted any more, and for which none was attempted since, is claimed or can
be claimed. -/
theorem deletions_pending (hdigest : Function.Injective digest) {cfg : ZoomConfig} {now : Timestamp}
    (h : t.ReachedUnder digest Edit.KeepsDeletions cfg now) : t.DeletionsPending := by
  have hinv := h.invariant hdigest
  have hwf := hinv.wellFormed.db
  intro m hm
  cases href : m.owner? with
  | none =>
    have hevent : m.eventId = none ∧ m.sessionId = none := by
      simpa [Meeting.owner?] using href
    by_cases hclaimed : m.syncClaimedAt = none
    · exact .inr ⟨hevent.1, hevent.2, hclaimed⟩
    · exact .inl hclaimed
  | some ref =>
    intro hunwanted hnot
    obtain ⟨o, ho⟩ := hwf.exists_owner hm href
    have hkeeps := hinv.owners ref o ho hnot
    rw [hwf.wants_iff ho] at hunwanted
    by_cases hclaimed : o.meetingSyncClaimedAt = none
    · refine .inr ⟨o, hwf.owner?_eq_some.2 ho, hkeeps.outOfSync ⟨m, hm, href⟩ hunwanted hclaimed,
        hclaimed, ?_⟩
      have hsome := hkeeps.requested (.inl ⟨m, hm, href⟩)
      cases hrequested : o.meetingRequested with
      | none => exact absurd hrequested hsome
      | some b =>
        cases b with
        | true =>
          obtain ⟨e, -, he⟩ := hwf.exists_eventOf ho
          exact .inl ⟨rfl, e, he, fun hlive ↦ hunwanted ⟨hrequested, e, he, hlive⟩⟩
        | false => exact .inr rfl
    · exact .inl ⟨o, hwf.owner?_eq_some.2 ho, hclaimed⟩

/-! ### A sample history -/

/-- The operation, if `guard` allows it. -/
def Operation.track (guard : Edit → Tracked SyncInputs → Prop) [∀ e t, Decidable (guard e t)]
    (now : Timestamp) (op : Operation) (t : Tracked SyncInputs) :
    Except DbError (Tracked SyncInputs) := do
  require (op.IsAllowed (guard · t)) notDue
  let sys ← op.run id sampleRules sampleConfig now t.sys
  .ok (t.next op sys)

theorem exists_tracked (guard : Edit → Tracked SyncInputs → Prop) [∀ e t, Decidable (guard e t)]
    (script : List (Timestamp × Operation)) (P : Tracked SyncInputs → Prop)
    (h : Replays (Operation.track guard) script ⟨sampleService, []⟩ P) :
    ∃ t : Tracked SyncInputs,
      t.ReachedUnder id guard sampleConfig ((script.map Prod.fst).getLastD 0) ∧ P t := by
  obtain ⟨t, hscript, hP⟩ := exists_of_replays h
  refine ⟨t, reachable_of_replay (fun _ op t t' hrun ↦ ?_) (.start (by decide))
    (List.pairwise_of_forall fun _ _ ↦ trivial) hscript, hP⟩
  simp only [Operation.track, bind_eq_ok, require_eq_ok, Except.ok.injEq] at hrun
  obtain ⟨-, hallowed, sys', hrun, rfl⟩ := hrun
  exact ⟨sampleRules, op, sys', hallowed, hrun, rfl⟩

/-- An event with a recorded meeting. -/
def sampleRecorded : List (Timestamp × Operation) :=
  [(0, .edit (.addEvent (sampleEventPayload (samplePayload (hours 10) (hours 11) (some true)) []))),
    (0, .edit (.publishEvent 1)), (0, .claim 1 (.sync (.event 1))), (0, .assign 1),
    (0, .create 1 (sampleMeeting "1000")), (0, .complete 1 .add)]

/-- The edit that withdraws the request for the meeting of that event. -/
def sampleWithdrawal : Operation :=
  .edit (.updateEvent 1 (sampleEventPayload (samplePayload (hours 10) (hours 11) (some false)) []))

theorem deletions_pending_sample : ∃ t : Tracked SyncInputs,
    t.ReachedUnder id Edit.KeepsDeletions sampleConfig 0 ∧ t.sys.db.HasMeeting (.event 1)
      ∧ ¬ t.sys.db.Wants (.event 1) ∧ .event 1 ∉ t.attempted ∧ t.DeletionsPending := by
  obtain ⟨t, hreached, hmeeting, hunwanted, hnot⟩ := exists_tracked Edit.KeepsDeletions
    (sampleRecorded ++ [(0, sampleWithdrawal)])
    (fun t ↦ t.sys.db.HasMeeting (.event 1) ∧ ¬ t.sys.db.Wants (.event 1)
      ∧ .event 1 ∉ t.attempted) (by decide +kernel)
  exact ⟨t, hreached, hmeeting, hunwanted, hnot,
    deletions_pending Function.injective_id hreached⟩

/-- The request is withdrawn twice before a worker comes. -/
theorem not_deletions_pending : ¬ ∀ (now : Timestamp) (t : Tracked SyncInputs),
    t.ReachedUnder id (fun _ _ ↦ True) sampleConfig now → t.DeletionsPending := by
  intro hclaim
  obtain ⟨t, hreached, m, hm, href, hunwanted, hnot, hfree, hlost⟩ := exists_tracked
    (fun _ _ ↦ True) (sampleRecorded ++ [(0, sampleWithdrawal), (0, sampleWithdrawal)])
    (fun t ↦ ∃ m ∈ t.sys.db.meetings, m.owner? = some (.event 1) ∧ ¬ t.sys.db.Wants (.event 1)
      ∧ .event 1 ∉ t.attempted ∧ (∀ o ∈ t.sys.db.owner? (.event 1), o.meetingSyncClaimedAt = none)
      ∧ ¬ t.sys.db.NeedsDelete (.event 1)) (by decide +kernel)
  have hdue := hclaim 0 t hreached m hm
  rw [href] at hdue
  rcases hdue hunwanted hnot with ⟨o, ho, hclaimed⟩ | hneeds
  · exact hclaimed (hfree o ho)
  · exact hlost hneeds

end Ocg.Meetings
