import Ocg.Meeting.Effect

/-!
# What the workers do to owners and meetings

A completion settles the claimed owner and then records, rewrites or drops meetings; a release only
gives the claim back. From this and the effect of an edit follows what holds in every reached state:
one worker at a time works on an owner, it holds the claim of an owner that still exists, and an
owner whose meeting is being created has none recorded.
-/

namespace Ocg.Meetings

open Relational

variable {H : Type} {digest : SyncInputs → H} {db db' : MeetingDatabase}

/-! ## Meetings that are kept -/

/-- Meetings are dropped or rewritten, but none changes its owner or its host. `id` is the
provider identifier that a rewritten meeting may get. -/
def MeetingsTrimmed (id : Option String) (ms ms' : List Meeting) : Prop :=
  ∃ (keep : Meeting → Bool) (f : Meeting → Meeting), ms' = (ms.filter keep).map f
    ∧ ∀ m, (f m).meetingId = m.meetingId ∧ (f m).eventId = m.eventId
      ∧ (f m).sessionId = m.sessionId ∧ (f m).meetingProviderId = m.meetingProviderId
      ∧ (f m).providerHostUserId = m.providerHostUserId
      ∧ ((f m).providerMeetingId = m.providerMeetingId ∨ some (f m).providerMeetingId = id)

theorem MeetingsTrimmed.refl (id : Option String) (ms : List Meeting) : MeetingsTrimmed id ms ms :=
  ⟨fun _ ↦ true, fun m ↦ m, by simp, fun _ ↦ ⟨rfl, rfl, rfl, rfl, rfl, .inl rfl⟩⟩

theorem MeetingsTrimmed.filter (id : Option String) (ms : List Meeting) (keep : Meeting → Bool) :
    MeetingsTrimmed id ms (ms.filter keep) :=
  ⟨keep, fun m ↦ m, by simp, fun _ ↦ ⟨rfl, rfl, rfl, rfl, rfl, .inl rfl⟩⟩

theorem MeetingsTrimmed.update {id : Option String} {selected : Meeting → Prop}
    [DecidablePred selected] {f : Meeting → Meeting} (ms : List Meeting)
    (hf : ∀ m, (f m).meetingId = m.meetingId ∧ (f m).eventId = m.eventId
      ∧ (f m).sessionId = m.sessionId ∧ (f m).meetingProviderId = m.meetingProviderId
      ∧ (f m).providerHostUserId = m.providerHostUserId
      ∧ ((f m).providerMeetingId = m.providerMeetingId ∨ some (f m).providerMeetingId = id)) :
    MeetingsTrimmed id ms (updateWhere selected f ms) := by
  refine ⟨fun _ ↦ true, fun m ↦ if selected m then f m else m, by simp [updateWhere], fun m ↦ ?_⟩
  by_cases hm : selected m
  · simpa [hm] using hf m
  · simp [hm]

theorem MeetingsTrimmed.mem {id : Option String} {ms ms' : List Meeting}
    (h : MeetingsTrimmed id ms ms') {m' : Meeting} (hm : m' ∈ ms') :
    ∃ m ∈ ms, m'.meetingId = m.meetingId ∧ m'.owner? = m.owner?
      ∧ m'.meetingProviderId = m.meetingProviderId
      ∧ m'.providerHostUserId = m.providerHostUserId
      ∧ (m'.providerMeetingId = m.providerMeetingId ∨ some m'.providerMeetingId = id) := by
  obtain ⟨keep, f, rfl, hf⟩ := h
  obtain ⟨m, hmem, rfl⟩ := List.mem_map.1 hm
  obtain ⟨hid, hevent, hsession, hprovider, hhost, hpmid⟩ := hf m
  exact ⟨m, (List.mem_filter.1 hmem).1,
    hid, by rw [Meeting.owner?, Meeting.owner?, hevent, hsession],
    hprovider, hhost, hpmid⟩

theorem MeetingDatabase.WellFormed.trim (h : db.WellFormed) {id : Option String}
    {meetings : List Meeting} (ht : MeetingsTrimmed id db.meetings meetings) :
    ({ db with meetings := meetings } : MeetingDatabase).WellFormed := by
  obtain ⟨keep, f, rfl, hf⟩ := ht
  have hkeys : ((db.meetings.filter keep).map f).map Meeting.meetingId
      = (db.meetings.filter keep).map Meeting.meetingId := by
    rw [List.map_map]
    exact List.map_congr_left fun m _ ↦ (hf m).1
  have hback : ∀ m ∈ (db.meetings.filter keep).map f, ∃ m₀ ∈ db.meetings, m = f m₀ := by
    intro m hm
    obtain ⟨m₀, hm₀, rfl⟩ := List.mem_map.1 hm
    exact ⟨m₀, (List.mem_filter.1 hm₀).1, rfl⟩
  have howner : ∀ m, (f m).owner? = m.owner? := fun m ↦ by
    rw [Meeting.owner?, Meeting.owner?, (hf m).2.1, (hf m).2.2.1]
  refine { h with
    meetingKeys := by simpa only [hkeys] using nodup_keys_filter h.meetingKeys keep
    meetingIssued := fun id hid ↦ ?_
    meetingEvent := fun m hm id hid ↦ ?_
    meetingSession := fun m hm id hid ↦ ?_
    oneOwner := fun m hm ↦ ?_
    oneMeeting := fun m hm m' hm' ref href href' ↦ ?_ }
  · rw [hkeys] at hid
    obtain ⟨m, hm, rfl⟩ := List.mem_map.1 hid
    exact h.meetingIssued _ (List.mem_map_of_mem (List.mem_filter.1 hm).1)
  · obtain ⟨m₀, hm₀, rfl⟩ := hback m hm
    exact h.meetingEvent m₀ hm₀ id ((hf m₀).2.1 ▸ hid)
  · obtain ⟨m₀, hm₀, rfl⟩ := hback m hm
    exact h.meetingSession m₀ hm₀ id ((hf m₀).2.2.1 ▸ hid)
  · obtain ⟨m₀, hm₀, rfl⟩ := hback m hm
    rw [(hf m₀).2.1, (hf m₀).2.2.1]
    exact h.oneOwner m₀ hm₀
  · obtain ⟨m₀, hm₀, rfl⟩ := hback m hm
    obtain ⟨m₁, hm₁, rfl⟩ := hback m' hm'
    rw [howner] at href href'
    rw [h.oneMeeting m₀ hm₀ m₁ hm₁ ref href href']

/-! ## Completions -/

section Completions

variable [DecidableEq H]

/-- The owner part of a completion. -/
def Job.settle (job : Job H) (current : Option H) (error : Option String) (db : MeetingDatabase) :
    MeetingDatabase :=
  job.claim.owner.elim db fun ref ↦ completeClaim ref job.claim current error db

@[simp] theorem settle_meetings (job : Job H) (current : Option H) (error : Option String) :
    (job.settle current error db).meetings = db.meetings := by
  unfold Job.settle
  cases job.claim.owner <;> rfl

@[simp] theorem settle_nextUuid (job : Job H) (current : Option H) (error : Option String) :
    (job.settle current error db).nextUuid = db.nextUuid := by
  unfold Job.settle
  cases job.claim.owner <;> rfl

theorem mem_owners_settle {job : Job H} {current : Option H} {error : Option String} {r : OwnerRef}
    {o' : Owner} : (r, o') ∈ (job.settle current error db).owners ↔
      ∃ o, (r, o) ∈ db.owners
        ∧ o' = if job.claim.owner = some r ∧ o.IsClaimedAt job.claim.syncClaimedAt then
          o.complete current job.claim.syncStateHash error else o := by
  unfold Job.settle
  cases howner : job.claim.owner with
  | none => simp
  | some ref =>
    simp only [Option.elim_some, completeClaim, mem_owners_updateOwner, Option.some.injEq]
    simp only [eq_comm (a := r)]

theorem isLive_settle {job : Job H} {current : Option H} {error : Option String} {r : OwnerRef} :
    (job.settle current error db).IsLive r ↔ db.IsLive r := by
  unfold Job.settle
  cases job.claim.owner with
  | none => rfl
  | some ref => exact isLive_updateOwner

theorem MeetingDatabase.WellFormed.settle (h : db.WellFormed) (job : Job H) (current : Option H)
    (error : Option String) : (job.settle current error db).WellFormed := by
  unfold Job.settle
  cases job.claim.owner with
  | none => exact h
  | some ref => exact h.updateOwner fun _ ↦ ⟨rfl, rfl⟩

/-- The database after a completion that settles the owner and trims the meetings. -/
structure Trims (job : Job H) (current : Option H) (db db' : MeetingDatabase) : Prop where
  exists_settle : ∃ error meetings, db' = { job.settle current error db with meetings := meetings }
    ∧ MeetingsTrimmed job.claim.providerMeetingId db.meetings meetings

/-- The database after the completion that records a created meeting. -/
structure Records (job : Job H) (current : Option H) (ref : OwnerRef) (host : String)
    (meeting : ProviderMeeting) (db db' : MeetingDatabase) : Prop where
  owner : job.claim.owner = some ref
  action : job.claim.syncAction = .create
  stage : job.stage = .created host meeting
  held : db.IsClaimHeld ref job.claim.syncClaimedAt
  distinct : ∀ m ∈ db.meetings, ref ∉ m.owner?
  after : db' = { job.settle current none db with
    meetings := db.meetings
      ++ [newMeeting db.nextUuid ref (job.claim.provider.getD "zoom") (some host) meeting]
    nextUuid := db.nextUuid + 1 }

@[simp] theorem newMeeting_owner? (id : Uuid) (ref : OwnerRef) (provider : String)
    (host : Option String) (meeting : ProviderMeeting) :
    (newMeeting id ref provider host meeting).owner? = some ref := by
  cases ref with
  | event id => rfl
  | session id => rfl

theorem insertMeeting_eq_ok {new : Meeting} {ref : OwnerRef} (href : new.owner? = some ref)
    (hone : ∀ m ∈ db.meetings, m.eventId = none ∨ m.sessionId = none)
    (h : insertMeeting new db = .ok db') :
    (∀ m ∈ db.meetings, ref ∉ m.owner?) ∧ db' = { db with meetings := db.meetings ++ [new] } := by
  -- a committed insert met no meeting of the same owner
  unfold insertMeeting at h
  simp only [bind_eq_ok, require_eq_ok, Except.ok.injEq] at h
  obtain ⟨_, hevent, _, -, _, hsession, rfl⟩ := h
  refine ⟨fun m hm href' ↦ ?_, rfl⟩
  have hm' := hone m hm
  cases hnewEvent : new.eventId with
  | some id =>
    have hne := hevent.resolve_left (by simp [hnewEvent]) m hm
    simp only [Meeting.owner?, hnewEvent, Option.map_some, Option.some_or, Option.some.injEq]
      at href
    subst href
    cases hmEvent : m.eventId with
    | some id' =>
      simp only [Meeting.owner?, hmEvent, Option.map_some, Option.some_or, Option.mem_def,
        Option.some.injEq, OwnerRef.event.injEq] at href'
      exact hne (by rw [hmEvent, hnewEvent, href'])
    | none => simp [Meeting.owner?, hmEvent] at href'
  | none =>
    cases hnewSession : new.sessionId with
    | none => simp [Meeting.owner?, hnewEvent, hnewSession] at href
    | some id =>
      have hne := hsession.resolve_left (by simp [hnewSession]) m hm
      simp only [Meeting.owner?, hnewEvent, hnewSession, Option.map_none, Option.map_some,
        Option.none_or, Option.some.injEq] at href
      subst href
      cases hmEvent : m.eventId with
      | some id' => simp [Meeting.owner?, hmEvent] at href'
      | none =>
        simp only [Meeting.owner?, hmEvent, Option.map_none, Option.none_or, Option.mem_def,
          Option.map_eq_some_iff, OwnerRef.session.injEq, exists_eq_right] at href'
        exact hne (by rw [href', hnewSession])

/-- **What a completion does.** -/
theorem Job.complete_effect {job : Job H} {completion : Completion} {current : Option H}
    (hwf : db.WellFormed) (h : job.complete completion current db = .ok db') :
    Trims job current db db' ∨ ∃ ref host meeting, Records job current ref host meeting db db' := by
  unfold Job.complete at h
  split at h
  · -- a created meeting is recorded, if the claim is still held
    next ref host meeting howner haction hstage =>
    have hsettle : ∀ error, completeClaim ref job.claim current error db
        = job.settle current error db := fun error ↦ by rw [Job.settle, howner, Option.elim_some]
    unfold addMeeting at h
    simp only [hsettle] at h
    split at h
    · next hheld =>
      obtain ⟨hdistinct, rfl⟩ := insertMeeting_eq_ok (newMeeting_owner? ..)
        (by simpa using hwf.oneOwner) h
      refine .inr ⟨ref, host, meeting, howner, haction, hstage, hheld, by simpa using hdistinct, ?_⟩
      simp
    · obtain rfl := Except.ok.inj h
      refine .inl ⟨none, (job.settle current none db).meetings, rfl, ?_⟩
      rw [settle_meetings]
      exact .refl _ _
  · -- the meeting is rewritten
    next ref meeting howner haction =>
    obtain rfl := Except.ok.inj h
    unfold updateMeeting
    split
    · refine .inl ⟨none, _, by rw [Job.settle, howner]; rfl, .update _ fun m ↦ ?_⟩
      refine ⟨rfl, rfl, rfl, rfl, rfl, ?_⟩
      cases job.claim.providerMeetingId with
      | none => exact .inl rfl
      | some id => exact .inr rfl
    · exact .inl ⟨none, db.meetings, by rw [Job.settle, howner]; rfl, .refl _ _⟩
  · -- the meeting is dropped
    next haction =>
    obtain rfl := Except.ok.inj h
    unfold deleteMeeting
    split
    · next howner => exact .inl ⟨none, _, by rw [Job.settle, howner]; rfl, .filter _ _ _⟩
    · next ref howner =>
      dsimp only
      split
      · exact .inl ⟨none, _, by rw [Job.settle, howner]; rfl, .filter _ _ _⟩
      · exact .inl ⟨none, db.meetings, by rw [Job.settle, howner]; rfl, .refl _ _⟩
  · -- only the error is recorded
    next error =>
    obtain rfl := Except.ok.inj h
    unfold setMeetingError
    split
    · next howner => exact .inl ⟨some error, _, by rw [Job.settle, howner]; rfl, .filter _ _ _⟩
    · next ref howner =>
      exact .inl ⟨some error, db.meetings, by rw [Job.settle, howner]; rfl, .refl _ _⟩
  · simp at h

end Completions

/-! ## Claims, reservations and releases -/

/-- A claim takes an unclaimed owner, for a creation or an update or for a deletion, or an
orphan. -/
inductive Claims (digest : SyncInputs → H) (now : Timestamp) (db : MeetingDatabase) :
    Claim H → MeetingDatabase → Prop
  | sync {ref : OwnerRef} {o : Owner} (ho : (ref, o) ∈ db.owners) (hneeds : db.NeedsSync now ref) :
    Claims digest now db (db.syncClaim digest now ref o)
      (db.updateOwner ref (fun _ ↦ True) (Owner.claim now))
  | delete {ref : OwnerRef} {o : Owner} (ho : (ref, o) ∈ db.owners) (hneeds : db.NeedsDelete ref) :
    Claims digest now db (db.deleteClaim digest now ref o)
      (db.updateOwner ref (fun _ ↦ True) (Owner.claim now))
  | orphan {m : Meeting} (hm : m ∈ db.meetings) (horphan : m.IsUnclaimedOrphan) :
    Claims digest now db (m.orphanClaim now)
      { db with
        meetings := updateWhere (fun m' ↦ m'.meetingId = m.meetingId)
          (fun m' ↦ { m' with syncClaimedAt := some now }) db.meetings }

theorem claimMeetingOutOfSync_eq_some {now : Timestamp} {case : ClaimCase} {claim : Claim H}
    (hwf : db.WellFormed) (h : claimMeetingOutOfSync digest now case db = some (claim, db')) :
    Claims digest now db claim db' := by
  unfold claimMeetingOutOfSync at h
  cases case with
  | sync ref =>
    dsimp only at h
    split at h
    · simp at h
    next o ho =>
    split at h
    · next hneeds =>
      obtain ⟨rfl, rfl⟩ := Prod.mk.inj (Option.some.inj h)
      exact .sync (hwf.owner?_eq_some.1 ho) hneeds
    · simp at h
  | delete ref =>
    dsimp only at h
    split at h
    · simp at h
    next o ho =>
    split at h
    · next hneeds =>
      obtain ⟨rfl, rfl⟩ := Prod.mk.inj (Option.some.inj h)
      exact .delete (hwf.owner?_eq_some.1 ho) hneeds
    · simp at h
  | orphan id =>
    dsimp only at h
    split at h
    · simp at h
    next m hfind =>
    obtain ⟨hm, rfl⟩ := (find?_key_eq_some hwf.meetingKeys).1 hfind
    split at h
    · next horphan =>
      obtain ⟨rfl, rfl⟩ := Prod.mk.inj (Option.some.inj h)
      exact .orphan hm horphan
    · simp at h

theorem Claims.trimmed {now : Timestamp} {claim : Claim H} (h : Claims digest now db claim db') :
    MeetingsTrimmed none db.meetings db'.meetings := by
  cases h with
  | sync => exact .refl _ _
  | delete => exact .refl _ _
  | orphan => exact .update _ fun m ↦ ⟨rfl, rfl, rfl, rfl, rfl, .inl rfl⟩

theorem releaseMeetingSyncClaim_trimmed (claim : Claim H) :
    MeetingsTrimmed none db.meetings (releaseMeetingSyncClaim claim db).meetings := by
  unfold releaseMeetingSyncClaim
  cases claim.owner with
  | none => exact .update _ fun m ↦ ⟨rfl, rfl, rfl, rfl, rfl, .inl rfl⟩
  | some ref => exact .refl _ _

/-- A reservation puts the host on the claimed owner and in the job, if one has room. -/
structure Reserves (cfg : ZoomConfig) (now : Timestamp) (ref : OwnerRef) (job : Job H)
    (db : MeetingDatabase) (job' : Job H) (db' : MeetingDatabase) : Prop where
  owner : job.claim.owner = some ref
  action : job.claim.syncAction = .create
  stage : job.stage = .claimed
  outcome : (job' = job ∧ db' = db) ∨ ∃ starts ends host,
    job.claim.startsAt = some starts ∧ job.claim.endsAt = some ends
      ∧ selectHost now cfg.hostPoolUsers cfg.maxSimultaneousMeetingsPerHost starts ends db
        = some host
      ∧ job' = { job with
          stage := if db.IsClaimHeld ref job.claim.syncClaimedAt then .assigned host else .claimed }
      ∧ db' = db.updateOwner ref (Owner.IsClaimedAt job.claim.syncClaimedAt)
          fun o ↦ { o with meetingProviderHostUser := some host }

theorem Job.assign_eq_ok {cfg : ZoomConfig} {now : Timestamp} {job job' : Job H}
    (hhostless : job.claim.owner ≠ none → job.claim.providerHostUserId = none)
    (h : job.assign cfg now db = .ok (job', db')) :
    ∃ ref, Reserves cfg now ref job db job' db' := by
  unfold Job.assign at h
  split at h
  next ref howner haction hstage =>
    refine ⟨ref, howner, haction, hstage, ?_⟩
    have hsame : ({ job with stage := .claimed } : Job H) = job := by rw [← hstage]
    simp only [hhostless (by simp [howner]), Except.ok.injEq, Prod.mk.injEq] at h
    obtain ⟨rfl, rfl⟩ := h
    unfold assignZoomHostUser
    split
    · next starts ends hstarts hends =>
      split
      · exact .inl ⟨hsame, rfl⟩
      · split
        · exact .inl ⟨hsame, rfl⟩
        · next host hhost =>
          refine .inr ⟨starts, ends, host, hstarts, hends, hhost, ?_, rfl⟩
          congr 1
          by_cases hheld : db.IsClaimHeld ref job.claim.syncClaimedAt
          · simp [hheld]
          · simp [hheld]
    · exact .inl ⟨hsame, rfl⟩
  · simp at h

/-! ## The jobs -/

/-- What holds of the jobs between any two steps. -/
structure Service.WellFormed (sys : Service H) : Prop where
  db : sys.db.WellFormed
  workers : (sys.jobs.map Job.worker).Nodup
  issued : ∀ job ∈ sys.jobs, ∀ ref ∈ job.claim.owner, ref.id < sys.db.nextUuid
  distinct : ∀ job ∈ sys.jobs, ∀ job' ∈ sys.jobs, ∀ ref ∈ job.claim.owner, ref ∈ job'.claim.owner →
    job.worker = job'.worker
  held : ∀ job ∈ sys.jobs, ∀ ref ∈ job.claim.owner, ∀ o, (ref, o) ∈ sys.db.owners →
    o.IsClaimedAt job.claim.syncClaimedAt
  unrecorded : ∀ job ∈ sys.jobs, job.claim.syncAction = .create → ∀ ref ∈ job.claim.owner,
    ∀ m ∈ sys.db.meetings, ref ∉ m.owner?
  staged : ∀ job ∈ sys.jobs, job.stage ≠ .claimed →
    job.claim.syncAction = .create ∧ job.claim.owner ≠ none
  reserved : ∀ ref o, (ref, o) ∈ sys.db.owners → o.meetingProviderHostUser ≠ none →
    o.meetingSyncClaimedAt ≠ none
  hostless : ∀ job ∈ sys.jobs, job.claim.owner ≠ none → job.claim.providerHostUserId = none

theorem MeetingDatabase.WellFormed.meetingOf_eq_some (h : db.WellFormed) {ref : OwnerRef}
    {m : Meeting} : db.meetingOf ref = some m ↔ m ∈ db.meetings ∧ ref ∈ m.owner? := by
  have hevent : ∀ m ∈ db.meetings, ∀ id, .event id ∈ m.owner? ↔ m.eventId = some id := by
    intro m hm id
    have hone := h.oneOwner m hm
    cases heventId : m.eventId <;> simp [Meeting.owner?, heventId]
  have hsession : ∀ m ∈ db.meetings, ∀ id, .session id ∈ m.owner? ↔ m.sessionId = some id := by
    intro m hm id
    have hone := h.oneOwner m hm
    cases heventId : m.eventId <;> simp_all [Meeting.owner?]
  have hmem : ∀ m', db.meetingOf ref = some m' → m' ∈ db.meetings ∧ ref ∈ m'.owner? := by
    intro m' hfind
    cases ref with
    | event id =>
      have hm' := List.mem_of_find?_eq_some hfind
      have hid := List.find?_some hfind
      exact ⟨hm', (hevent m' hm' id).2 (of_decide_eq_true hid)⟩
    | session id =>
      have hm' := List.mem_of_find?_eq_some hfind
      have hid := List.find?_some hfind
      exact ⟨hm', (hsession m' hm' id).2 (of_decide_eq_true hid)⟩
  refine ⟨hmem m, ?_⟩
  rintro ⟨hm, href⟩
  cases hfind : db.meetingOf ref with
  | some m' =>
    obtain ⟨hm', href'⟩ := hmem m' hfind
    rw [h.oneMeeting m hm m' hm' ref href href']
  | none =>
    cases ref with
    | event id =>
      exact absurd (decide_eq_true ((hevent m hm id).1 href)) (List.find?_eq_none.1 hfind m hm)
    | session id =>
      exact absurd (decide_eq_true ((hsession m hm id).1 href)) (List.find?_eq_none.1 hfind m hm)

theorem MeetingDatabase.WellFormed.meetingOf_eq_none (h : db.WellFormed) {ref : OwnerRef} :
    db.meetingOf ref = none ↔ ∀ m ∈ db.meetings, ref ∉ m.owner? := by
  rw [Option.eq_none_iff_forall_ne_some]
  constructor
  · exact fun hnone m hm href ↦ hnone m (h.meetingOf_eq_some.2 ⟨hm, href⟩)
  · intro hnone m hsome
    obtain ⟨hm, href⟩ := h.meetingOf_eq_some.1 hsome
    exact hnone m hm href

theorem MeetingDatabase.WellFormed.record (h : db.WellFormed) {ref : OwnerRef} {o : Owner}
    (ho : (ref, o) ∈ db.owners) (hdistinct : ∀ m ∈ db.meetings, ref ∉ m.owner?) (provider : String)
    (host : Option String) (meeting : ProviderMeeting) :
    ({ db with
      meetings := db.meetings ++ [newMeeting db.nextUuid ref provider host meeting]
      nextUuid := db.nextUuid + 1 } : MeetingDatabase).WellFormed := by
  have hcases : ∀ m ∈ db.meetings ++ [newMeeting db.nextUuid ref provider host meeting],
      m ∈ db.meetings ∨ m = newMeeting db.nextUuid ref provider host meeting := fun m hm ↦
    (List.mem_append.1 hm).imp_right List.mem_singleton.1
  refine { h with
    meetingKeys := nodup_keys_append h.meetingKeys fun m hm ↦
      (h.meetingIssued _ (List.mem_map_of_mem hm)).ne
    eventIssued := fun id hid ↦ (h.eventIssued id hid).trans (Nat.lt_succ_self _)
    sessionIssued := fun id hid ↦ (h.sessionIssued id hid).trans (Nat.lt_succ_self _)
    meetingIssued := fun id hid ↦ ?_
    meetingEvent := fun m hm id hid ↦ ?_
    meetingSession := fun m hm id hid ↦ ?_
    oneOwner := fun m hm ↦ ?_
    oneMeeting := fun m hm m' hm' r href href' ↦ ?_ }
  · obtain ⟨m, hm, rfl⟩ := List.mem_map.1 hid
    rcases hcases m hm with hm | rfl
    · exact (h.meetingIssued _ (List.mem_map_of_mem hm)).trans (Nat.lt_succ_self _)
    · exact Nat.lt_succ_self _
  · rcases hcases m hm with hm | rfl
    · exact h.meetingEvent m hm id hid
    · cases ref with
      | event eventId =>
        obtain rfl : eventId = id := Option.some.inj hid
        obtain ⟨e, he, rfl, -⟩ := event_mem_owners.1 ho
        exact List.mem_map_of_mem he
      | session sessionId => simp [newMeeting] at hid
  · rcases hcases m hm with hm | rfl
    · exact h.meetingSession m hm id hid
    · cases ref with
      | event eventId => simp [newMeeting] at hid
      | session sessionId =>
        obtain rfl : sessionId = id := Option.some.inj hid
        obtain ⟨s, hs, rfl, -⟩ := session_mem_owners.1 ho
        exact List.mem_map_of_mem hs
  · rcases hcases m hm with hm | rfl
    · exact h.oneOwner m hm
    · cases ref with
      | event eventId => exact .inr rfl
      | session sessionId => exact .inl rfl
  · rcases hcases m hm with hm | rfl
    · rcases hcases m' hm' with hm' | rfl
      · exact h.oneMeeting m hm m' hm' r href href'
      · rw [newMeeting_owner?] at href'
        obtain rfl := Option.some.inj href'
        exact absurd href (hdistinct m hm)
    · rw [newMeeting_owner?] at href
      obtain rfl := Option.some.inj href
      rcases hcases m' hm' with hm' | rfl
      · exact absurd href' (hdistinct m' hm')
      · rfl

section Jobs

variable {sys sys' : Service H}

theorem Service.WellFormed.of_frame (h : sys.WellFormed) (hdb : sys'.db.WellFormed)
    (hnext : sys.db.nextUuid ≤ sys'.db.nextUuid) (hworkers : (sys'.jobs.map Job.worker).Nodup)
    (hjobs : ∀ job' ∈ sys'.jobs, ∃ job ∈ sys.jobs, job'.worker = job.worker
      ∧ job'.claim = job.claim)
    (hstaged : ∀ job ∈ sys'.jobs, job.stage ≠ .claimed →
      job.claim.syncAction = .create ∧ job.claim.owner ≠ none)
    (howners : ∀ job ∈ sys'.jobs, ∀ ref ∈ job.claim.owner, ∀ o', (ref, o') ∈ sys'.db.owners →
      ∃ o, (ref, o) ∈ sys.db.owners ∧ o'.meetingSyncClaimedAt = o.meetingSyncClaimedAt)
    (hmeetings : ∀ job ∈ sys'.jobs, ∀ ref ∈ job.claim.owner, ∀ m' ∈ sys'.db.meetings,
      ref ∈ m'.owner? → ∃ m ∈ sys.db.meetings, ref ∈ m.owner?)
    (hreserved : ∀ ref o', (ref, o') ∈ sys'.db.owners → o'.meetingProviderHostUser ≠ none →
      o'.meetingSyncClaimedAt ≠ none) : sys'.WellFormed where
  db := hdb
  workers := hworkers
  issued := fun job' hjob' ref href ↦ by
    obtain ⟨job, hjob, -, hclaim⟩ := hjobs job' hjob'
    exact (h.issued job hjob ref (hclaim ▸ href)).trans_le hnext
  distinct := fun job' hjob' job'' hjob'' ref href href' ↦ by
    obtain ⟨job, hjob, hworker, hclaim⟩ := hjobs job' hjob'
    obtain ⟨job₂, hjob₂, hworker₂, hclaim₂⟩ := hjobs job'' hjob''
    rw [hworker, hworker₂]
    exact h.distinct job hjob job₂ hjob₂ ref (hclaim ▸ href) (hclaim₂ ▸ href')
  held := fun job' hjob' ref href o' ho' ↦ by
    obtain ⟨job, hjob, -, hclaim⟩ := hjobs job' hjob'
    obtain ⟨o, ho, hsame⟩ := howners job' hjob' ref href o' ho'
    rw [Owner.IsClaimedAt, hsame, hclaim]
    exact h.held job hjob ref (hclaim ▸ href) o ho
  unrecorded := fun job' hjob' haction ref href m' hm' hm'ref ↦ by
    obtain ⟨job, hjob, -, hclaim⟩ := hjobs job' hjob'
    obtain ⟨m, hm, hmref⟩ := hmeetings job' hjob' ref href m' hm' hm'ref
    exact h.unrecorded job hjob (hclaim ▸ haction) ref (hclaim ▸ href) m hm hmref
  staged := hstaged
  reserved := hreserved
  hostless := fun job' hjob' ↦ by
    obtain ⟨job, hjob, -, hclaim⟩ := hjobs job' hjob'
    exact hclaim ▸ h.hostless job hjob

theorem Service.WellFormed.edit (h : sys.WellFormed) {db' : MeetingDatabase}
    (hframe : EditFrame sys.db db') : ({ sys with db := db' } : Service H).WellFormed := by
  refine h.of_frame hframe.wellFormed hframe.nextUuid h.workers
    (fun job hjob ↦ ⟨job, hjob, rfl, rfl⟩) h.staged (fun job hjob ref href o' ho' ↦ ?_)
    (fun job hjob ref href m' hm' href' ↦ ?_) fun ref o' ho' hhost ↦ ?_
  · rcases hframe.owners ref o' ho' with ⟨o, ho, hsame, -⟩ | ⟨hfresh, -⟩
    · exact ⟨o, ho, hsame⟩
    · exact absurd (h.issued job hjob ref href) (not_lt.2 hfresh)
  · obtain ⟨m, hm, -, hback⟩ := hframe.meetings m' hm'
    exact ⟨m, hm, hback ref href'⟩
  · rcases hframe.owners ref o' ho' with ⟨o, ho, hclaim, hsame⟩ | ⟨-, hnew⟩
    · rw [hclaim]
      exact h.reserved ref o ho (hsame ▸ hhost)
    · exact absurd hnew.noHost hhost

/-- The jobs that go on when one is done belong to other owners. -/
theorem Service.WellFormed.other (h : sys.WellFormed) {job job' : Job H} (hjob : job ∈ sys.jobs)
    {db' : MeetingDatabase} (hjob' : job' ∈ (sys.finish job.worker db').jobs) :
    job' ∈ sys.jobs ∧ ∀ ref ∈ job'.claim.owner, job.claim.owner ≠ some ref := by
  obtain ⟨hmem, hne⟩ := List.mem_filter.1 hjob'
  refine ⟨hmem, fun ref href heq ↦ of_decide_eq_true hne ?_⟩
  exact h.distinct job' hmem job hjob ref href heq

theorem Service.WellFormed.finish (h : sys.WellFormed) {job : Job H} (hjob : job ∈ sys.jobs)
    {db' : MeetingDatabase} (hdb : db'.WellFormed) (hnext : sys.db.nextUuid ≤ db'.nextUuid)
    (howners : ∀ ref, job.claim.owner ≠ some ref → ∀ o', (ref, o') ∈ db'.owners →
      (ref, o') ∈ sys.db.owners)
    (hmeetings : ∀ ref, job.claim.owner ≠ some ref → ∀ m' ∈ db'.meetings, ref ∈ m'.owner? →
      ∃ m ∈ sys.db.meetings, ref ∈ m.owner?)
    (hreserved : ∀ ref o', (ref, o') ∈ db'.owners → (ref, o') ∈ sys.db.owners
      ∨ o'.meetingProviderHostUser = none) : (sys.finish job.worker db').WellFormed := by
  -- a job is done, and nothing happened to the claims or the meetings of other owners
  refine h.of_frame hdb hnext (nodup_keys_filter h.workers _)
    (fun job' hjob' ↦ ⟨job', (h.other hjob hjob').1, rfl, rfl⟩)
    (fun job' hjob' ↦ h.staged job' (h.other hjob hjob').1) (fun job' hjob' ref href o' ho' ↦ ?_)
    (fun job' hjob' ref href m' hm' ↦ ?_)
    fun ref o' ho' hhost ↦ h.reserved ref o' ((hreserved ref o' ho').resolve_right hhost) hhost
  · exact ⟨o', howners ref ((h.other hjob hjob').2 ref href) o' ho', rfl⟩
  · exact hmeetings ref ((h.other hjob hjob').2 ref href) m' hm'

theorem Service.WellFormed.complete [DecidableEq H] (h : sys.WellFormed) {job : Job H}
    (hjob : job ∈ sys.jobs)
    {completion : Completion} {current : Option H} {db' : MeetingDatabase}
    (hcomplete : job.complete completion current sys.db = .ok db') :
    (sys.finish job.worker db').WellFormed := by
  have hsettled : ∀ error ref, job.claim.owner ≠ some ref → ∀ o',
      (ref, o') ∈ (job.settle current error sys.db).owners → (ref, o') ∈ sys.db.owners := by
    intro error ref hne o' ho'
    obtain ⟨o, ho, rfl⟩ := mem_owners_settle.1 ho'
    rwa [if_neg fun hsel ↦ hne hsel.1]
  have hreserved : ∀ error ref o', (ref, o') ∈ (job.settle current error sys.db).owners →
      (ref, o') ∈ sys.db.owners ∨ o'.meetingProviderHostUser = none := by
    intro error ref o' ho'
    obtain ⟨o, ho, rfl⟩ := mem_owners_settle.1 ho'
    split
    · exact .inr rfl
    · exact .inl ho
  rcases Job.complete_effect h.db hcomplete with ⟨error, meetings, rfl, htrim⟩ |
    ⟨ref, host, meeting, howner, -, -, hheld, hdistinct, rfl⟩
  · have hwf := (h.db.settle job current error).trim (by simpa using htrim)
    refine h.finish hjob hwf (by simp) (hsettled error) (fun ref _ m' hm' href ↦ ?_)
      (hreserved error)
    obtain ⟨m, hm, -, hsame, -⟩ := htrim.mem hm'
    exact ⟨m, hm, hsame ▸ href⟩
  · refine h.finish hjob ?_ (Nat.le_succ _) (hsettled none) (fun ref' hne m' hm' href ↦ ?_)
      (hreserved none)
    · obtain ⟨o, ho, -⟩ := hheld
      have ho' : (ref, _) ∈ (job.settle current none sys.db).owners :=
        mem_owners_settle.2 ⟨o, h.db.owner?_eq_some.1 ho, rfl⟩
      simpa using (h.db.settle job current none).record ho' (by simpa using hdistinct)
        (job.claim.provider.getD "zoom") (some host) meeting
    · rcases List.mem_append.1 hm' with hm' | hm'
      · exact ⟨m', hm', href⟩
      · rw [List.mem_singleton.1 hm', newMeeting_owner?] at href
        exact absurd (howner.trans href) hne

theorem Service.WellFormed.release (h : sys.WellFormed) {job : Job H} (hjob : job ∈ sys.jobs) :
    (sys.finish job.worker (releaseMeetingSyncClaim job.claim sys.db)).WellFormed := by
  have htrim : MeetingsTrimmed none sys.db.meetings
      (releaseMeetingSyncClaim job.claim sys.db).meetings := releaseMeetingSyncClaim_trimmed _
  have hmeetings : ∀ ref, ∀ m' ∈ (releaseMeetingSyncClaim job.claim sys.db).meetings,
      ref ∈ m'.owner? → ∃ m ∈ sys.db.meetings, ref ∈ m.owner? := fun ref m' hm' href ↦ by
    obtain ⟨m, hm, -, hsame, -⟩ := htrim.mem hm'
    exact ⟨m, hm, hsame ▸ href⟩
  refine h.finish hjob ?_ ?_ (fun ref hne o' ho' ↦ ?_) (fun ref _ ↦ hmeetings ref)
    fun ref o' ho' ↦ ?_
  all_goals
    cases howner : job.claim.owner
    all_goals simp only [releaseMeetingSyncClaim, howner] at htrim ⊢
  · exact h.db.trim htrim
  · exact h.db.updateOwner fun _ ↦ ⟨rfl, rfl⟩
  · exact le_rfl
  · exact le_rfl
  · rw [releaseMeetingSyncClaim, howner] at ho'
    exact ho'
  · rw [releaseMeetingSyncClaim, howner] at ho'
    obtain ⟨o, ho, rfl⟩ := mem_owners_updateOwner.1 ho'
    rwa [if_neg fun hsel ↦ hne (howner.trans (congrArg some hsel.1.symm))]
  · rw [releaseMeetingSyncClaim, howner] at ho'
    exact .inl ho'
  · rw [releaseMeetingSyncClaim, howner] at ho'
    obtain ⟨o, ho, rfl⟩ := mem_owners_updateOwner.1 ho'
    split
    · exact .inr rfl
    · exact .inl ho

theorem Service.WellFormed.restage (h : sys.WellFormed) {job job' : Job H} (hjob : job ∈ sys.jobs)
    (hjobs : sys'.jobs = replaceRow Job.worker job' sys.jobs) (hworker : job'.worker = job.worker)
    (hclaim : job'.claim = job.claim)
    (hstaged : job'.stage ≠ .claimed → job.claim.syncAction = .create ∧ job.claim.owner ≠ none)
    (hdb : sys'.db.WellFormed) (hnext : sys'.db.nextUuid = sys.db.nextUuid)
    (howners : ∀ ref o', (ref, o') ∈ sys'.db.owners → ∃ o, (ref, o) ∈ sys.db.owners
      ∧ o'.meetingSyncClaimedAt = o.meetingSyncClaimedAt)
    (hmeetings : sys'.db.meetings = sys.db.meetings)
    (hreserved : ∀ ref o', (ref, o') ∈ sys'.db.owners → (ref, o') ∈ sys.db.owners
      ∨ o'.meetingSyncClaimedAt ≠ none) : sys'.WellFormed := by
  refine h.of_frame hdb hnext.ge ?_ (fun job₁ hjob₁ ↦ ?_) (fun job₁ hjob₁ ↦ ?_)
    (fun _ _ ref _ o' ho' ↦ howners ref o' ho')
    (fun _ _ ref _ m' hm' href ↦ ⟨m', hmeetings ▸ hm', href⟩) fun ref o' ho' hhost ↦ ?_
  · rw [hjobs, map_key_replaceRow]
    exact h.workers
  · rcases mem_replaceRow (hjobs ▸ hjob₁) with rfl | ⟨hjob₁, -⟩
    · exact ⟨job, hjob, hworker, hclaim⟩
    · exact ⟨job₁, hjob₁, rfl, rfl⟩
  · rcases mem_replaceRow (hjobs ▸ hjob₁) with rfl | ⟨hjob₁, -⟩
    · rw [hclaim]
      exact hstaged
    · exact h.staged job₁ hjob₁
  · rcases hreserved ref o' ho' with ho | hclaimed
    · exact h.reserved ref o' ho hhost
    · exact hclaimed

theorem Service.WellFormed.assign (h : sys.WellFormed) {cfg : ZoomConfig} {now : Timestamp}
    {job job' : Job H} {db' : MeetingDatabase} (hjob : job ∈ sys.jobs)
    (hassign : job.assign cfg now sys.db = .ok (job', db')) :
    ({ sys with
      db := db'
      jobs := replaceRow Job.worker job' sys.jobs } : Service H).WellFormed := by
  obtain ⟨ref, howner, haction, hstage, houtcome⟩ := Job.assign_eq_ok (h.hostless job hjob) hassign
  have hdue : job.claim.syncAction = .create ∧ job.claim.owner ≠ none :=
    ⟨haction, by simp [howner]⟩
  rcases houtcome with ⟨rfl, rfl⟩ | ⟨_, _, host, -, -, -, rfl, rfl⟩
  · exact h.restage hjob rfl rfl rfl (fun _ ↦ hdue) h.db rfl (fun ref o ho ↦ ⟨o, ho, rfl⟩) rfl
      fun ref o ho ↦ .inl ho
  · have hwf : (sys.db.updateOwner ref (Owner.IsClaimedAt job.claim.syncClaimedAt)
        fun o ↦ { o with meetingProviderHostUser := some host }).WellFormed :=
      h.db.updateOwner fun _ ↦ ⟨rfl, rfl⟩
    refine h.restage hjob rfl rfl rfl (fun _ ↦ hdue) hwf rfl (fun ref o' ho' ↦ ?_) rfl
      fun ref o' ho' ↦ ?_
    · obtain ⟨o, ho, rfl⟩ := mem_owners_updateOwner.1 ho'
      refine ⟨o, ho, ?_⟩
      split
      · rfl
      · rfl
    · obtain ⟨o, ho, rfl⟩ := mem_owners_updateOwner.1 ho'
      split
      · next hsel =>
        have hclaimed : o.meetingSyncClaimedAt = some job.claim.syncClaimedAt := hsel.2
        exact .inr (by simp [hclaimed])
      · exact .inl ho

theorem Job.create_eq_ok {job job' : Job H} {meeting : ProviderMeeting} {provided : List String}
    (h : job.create meeting provided = .ok job') : ∃ host, job.stage = .assigned host
      ∧ meeting.id ∉ provided ∧ job' = { job with stage := .created host meeting } := by
  unfold Job.create at h
  split at h
  · next host hstage =>
    split at h
    · simp at h
    · next hnew => exact ⟨host, hstage, hnew, (Except.ok.inj h).symm⟩
  · simp at h

theorem Service.WellFormed.create (h : sys.WellFormed) {job job' : Job H}
    {meeting : ProviderMeeting}
    {provided : List String} (hjob : job ∈ sys.jobs)
    (hcreate : job.create meeting sys.provided = .ok job') :
    ({ sys with
      jobs := replaceRow Job.worker job' sys.jobs
      provided := provided } : Service H).WellFormed := by
  obtain ⟨host, hstage, -, rfl⟩ := Job.create_eq_ok hcreate
  exact h.restage hjob rfl rfl rfl (fun _ ↦ h.staged job hjob (by simp [hstage])) h.db rfl
    (fun ref o ho ↦ ⟨o, ho, rfl⟩) rfl fun ref o ho ↦ .inl ho

/-- A claim becomes the job of a free worker, if its owner is unclaimed and known. -/
theorem Service.WellFormed.addJob (h : sys.WellFormed) {worker : ℕ} {claim : Claim H}
    {db' : MeetingDatabase} (hfree : ∀ job ∈ sys.jobs, job.worker ≠ worker) (hdb : db'.WellFormed)
    (hnext : db'.nextUuid = sys.db.nextUuid)
    (hunclaimed : ∀ ref ∈ claim.owner, ∃ o, (ref, o) ∈ sys.db.owners
      ∧ o.meetingSyncClaimedAt = none)
    (howners : ∀ ref o', (ref, o') ∈ db'.owners → ∃ o, (ref, o) ∈ sys.db.owners
      ∧ (o'.meetingSyncClaimedAt = if claim.owner = some ref then some claim.syncClaimedAt
        else o.meetingSyncClaimedAt)
      ∧ o'.meetingProviderHostUser = o.meetingProviderHostUser)
    (hmeetings : ∀ ref, ∀ m' ∈ db'.meetings, ref ∈ m'.owner? →
      ∃ m ∈ sys.db.meetings, ref ∈ m.owner?)
    (hcreate : claim.syncAction = .create → ∀ ref ∈ claim.owner, ∀ m ∈ sys.db.meetings,
      ref ∉ m.owner?)
    (hhostless : claim.owner ≠ none → claim.providerHostUserId = none) :
    ({ sys with
      db := db'
      jobs := sys.jobs ++ [⟨worker, claim, .claimed⟩] } : Service H).WellFormed := by
  -- an owner that a job works on is claimed, so it is not the one claimed now
  have hother : ∀ job ∈ sys.jobs, ∀ ref ∈ job.claim.owner, claim.owner ≠ some ref := by
    intro job hjob ref href href'
    obtain ⟨o, ho, hnone⟩ := hunclaimed ref href'
    have := h.held job hjob ref href o ho
    rw [Owner.IsClaimedAt, hnone] at this
    simp at this
  have hcases : ∀ job ∈ sys.jobs ++ [⟨worker, claim, .claimed⟩],
      job ∈ sys.jobs ∨ job = ⟨worker, claim, .claimed⟩ := fun job hjob ↦
    (List.mem_append.1 hjob).imp_right List.mem_singleton.1
  refine ⟨hdb, nodup_keys_append h.workers hfree, fun job hjob ref href ↦ ?_,
    fun job hjob job' hjob' ref href href' ↦ ?_, fun job hjob ref href o' ho' ↦ ?_,
    fun job hjob haction ref href m' hm' href' ↦ ?_, fun job hjob hstage ↦ ?_,
    fun ref o' ho' hhost ↦ ?_, fun job hjob ↦ ?_⟩
  · rw [hnext]
    rcases hcases job hjob with hjob | rfl
    · exact h.issued job hjob ref href
    · obtain ⟨o, ho, -⟩ := hunclaimed ref href
      exact h.db.issued ho
  · rcases hcases job hjob with hjob | rfl
    · rcases hcases job' hjob' with hjob' | rfl
      · exact h.distinct job hjob job' hjob' ref href href'
      · exact absurd href' (hother job hjob ref href)
    · rcases hcases job' hjob' with hjob' | rfl
      · exact absurd href (hother job' hjob' ref href')
      · rfl
  · obtain ⟨o, ho, hclaimedAt, -⟩ := howners ref o' ho'
    rcases hcases job hjob with hjob | rfl
    · rw [if_neg (hother job hjob ref href)] at hclaimedAt
      exact hclaimedAt.trans (h.held job hjob ref href o ho)
    · rwa [if_pos (Option.mem_def.1 href)] at hclaimedAt
  · obtain ⟨m, hm, hmref⟩ := hmeetings ref m' hm' href'
    rcases hcases job hjob with hjob | rfl
    · exact h.unrecorded job hjob haction ref href m hm hmref
    · exact hcreate haction ref href m hm hmref
  · rcases hcases job hjob with hjob | rfl
    · exact h.staged job hjob hstage
    · exact absurd rfl hstage
  · obtain ⟨o, ho, hclaimedAt, hsame⟩ := howners ref o' ho'
    rw [hclaimedAt]
    split
    · simp
    · exact h.reserved ref o ho (hsame ▸ hhost)
  · rcases hcases job hjob with hjob | rfl
    · exact h.hostless job hjob
    · exact hhostless

theorem Service.WellFormed.claim (h : sys.WellFormed) {now : Timestamp} {worker : ℕ}
    {claim : Claim H} {db' : MeetingDatabase} (hfree : ∀ job ∈ sys.jobs, job.worker ≠ worker)
    (hclaim : Claims digest now sys.db claim db') :
    ({ sys with
      db := db'
      jobs := sys.jobs ++ [⟨worker, claim, .claimed⟩] } : Service H).WellFormed := by
  have hclaimed : ∀ {ref ref' : OwnerRef} {o' : Owner},
      (ref', o') ∈ (sys.db.updateOwner ref (fun _ ↦ True) (Owner.claim now)).owners →
      ∃ o, (ref', o) ∈ sys.db.owners
        ∧ (o'.meetingSyncClaimedAt
          = if some ref = some ref' then some now else o.meetingSyncClaimedAt)
        ∧ o'.meetingProviderHostUser = o.meetingProviderHostUser := by
    intro ref ref' o' ho'
    obtain ⟨o, ho, rfl⟩ := mem_owners_updateOwner.1 ho'
    refine ⟨o, ho, ?_⟩
    by_cases heq : ref' = ref
    · simp [heq, Owner.claim]
    · simp [heq, Ne.symm heq]
  have htrim := hclaim.trimmed
  -- an unclaimed owner has no host
  have hhostless : ∀ {ref : OwnerRef} {o : Owner}, (ref, o) ∈ sys.db.owners →
      o.meetingSyncClaimedAt = none → o.meetingProviderHostUser = none := fun ho hnone ↦ by
    by_contra hhost
    exact h.reserved _ _ ho hhost hnone
  cases hclaim with
  | @sync ref o ho hneeds =>
    obtain ⟨o₁, ho₁, -, -, hnone, -⟩ := hneeds
    refine h.addJob hfree (h.db.updateOwner fun _ ↦ ⟨rfl, rfl⟩) rfl (fun ref' href ↦ ?_)
      (fun _ _ ↦ hclaimed) (fun ref' m' hm' href ↦ ⟨m', hm', href⟩) (fun haction ref' href ↦ ?_)
      fun _ ↦ ?_
    · obtain rfl := Option.some.inj href
      exact ⟨o₁, h.db.owner?_eq_some.1 ho₁, hnone⟩
    · obtain rfl := Option.some.inj href
      refine h.db.meetingOf_eq_none.1 ?_
      by_contra hmeeting
      obtain ⟨m, hm⟩ := Option.ne_none_iff_exists'.1 hmeeting
      simp [Claim.syncAction, MeetingDatabase.syncClaim, hm] at haction
    · obtain rfl := h.db.owner_unique ho (h.db.owner?_eq_some.1 ho₁)
      exact hhostless ho hnone
  | @delete ref o ho hneeds =>
    obtain ⟨o₁, ho₁, -, hnone, -⟩ := hneeds
    refine h.addJob hfree (h.db.updateOwner fun _ ↦ ⟨rfl, rfl⟩) rfl (fun ref' href ↦ ?_)
      (fun _ _ ↦ hclaimed) (fun ref' m' hm' href ↦ ⟨m', hm', href⟩) (fun haction ↦ ?_) fun _ ↦ ?_
    · obtain rfl := Option.some.inj href
      exact ⟨o₁, h.db.owner?_eq_some.1 ho₁, hnone⟩
    · simp [Claim.syncAction, MeetingDatabase.deleteClaim] at haction
    · obtain rfl := h.db.owner_unique ho (h.db.owner?_eq_some.1 ho₁)
      exact hhostless ho hnone
  | @orphan m hm horphan =>
    refine h.addJob hfree (h.db.trim htrim) rfl
      (fun ref' href ↦ by simp [Meeting.orphanClaim] at href)
      (fun ref' o' ho' ↦ ⟨o', ho', by simp [Meeting.orphanClaim]⟩) (fun ref' m' hm' href ↦ ?_)
      (fun haction ↦ by simp [Claim.syncAction, Meeting.orphanClaim] at haction)
      fun howner ↦ absurd rfl howner
    obtain ⟨m₁, hm₁, -, hsame, -⟩ := htrim.mem hm'
    exact ⟨m₁, hm₁, hsame ▸ href⟩

theorem Service.job?_eq_some (h : sys.WellFormed) {worker : ℕ} {job : Job H} :
    sys.job? worker = some job ↔ job ∈ sys.jobs ∧ job.worker = worker :=
  find?_key_eq_some h.workers

theorem Service.Fresh.wellFormed (h : sys.Fresh) : sys.WellFormed := by
  obtain ⟨hevents, hsessions, hmeetings, hjobs, -⟩ := h
  have howners : sys.db.owners = [] := by
    rw [MeetingDatabase.owners, hevents, hsessions]
    rfl
  refine ⟨⟨?_, ?_, ?_, ?_, ?_, ?_, ?_, ?_, ?_, ?_, ?_, ?_⟩, ?_, ?_, ?_, ?_, ?_, ?_, ?_, ?_⟩
  all_goals simp [hevents, hsessions, hmeetings, hjobs, howners]

end Jobs

/-! ## Steps -/

section Steps

variable [DecidableEq H] {sys sys' : Service H}

/-- What one step does, by the operation. -/
inductive StepEffect (digest : SyncInputs → H) (cfg : ZoomConfig) (now : Timestamp)
    (sys : Service H) : Operation → Service H → Prop
  | edit {rules : Rules} {edit : Edit} {db' : MeetingDatabase}
    (hrun : edit.run rules now sys.db = .ok db') :
    StepEffect digest cfg now sys (.edit edit) { sys with db := db' }
  | claim {worker : ℕ} {case : ClaimCase} {claim : Claim H} {db' : MeetingDatabase}
    (hfree : ∀ job ∈ sys.jobs, job.worker ≠ worker) (hclaim : Claims digest now sys.db claim db') :
    StepEffect digest cfg now sys (.claim worker case)
      { sys with
        db := db'
        jobs := sys.jobs ++ [⟨worker, claim, .claimed⟩] }
  | assign {job job' : Job H} {db' : MeetingDatabase} (hjob : job ∈ sys.jobs)
    (hassign : job.assign cfg now sys.db = .ok (job', db')) :
    StepEffect digest cfg now sys (.assign job.worker)
      { sys with
        db := db'
        jobs := replaceRow Job.worker job' sys.jobs }
  | create {job job' : Job H} {meeting : ProviderMeeting} (hjob : job ∈ sys.jobs)
    (hcreate : job.create meeting sys.provided = .ok job') :
    StepEffect digest cfg now sys (.create job.worker meeting)
      { sys with
        jobs := replaceRow Job.worker job' sys.jobs
        provided := sys.provided ++ [meeting.id] }
  | complete {job : Job H} {completion : Completion} {db' : MeetingDatabase} (hjob : job ∈ sys.jobs)
    (hcomplete : job.complete completion (currentHash digest job.claim sys.db) sys.db = .ok db') :
    StepEffect digest cfg now sys (.complete job.worker completion) (sys.finish job.worker db')
  | release {job : Job H} (hjob : job ∈ sys.jobs) :
    StepEffect digest cfg now sys (.release job.worker)
      (sys.finish job.worker (releaseMeetingSyncClaim job.claim sys.db))

/-- **What a committed operation does.** -/
theorem Operation.run_effect {rules : Rules} {cfg : ZoomConfig} {now : Timestamp} {op : Operation}
    (hwf : sys.WellFormed) (h : op.run digest rules cfg now sys = .ok sys') :
    StepEffect digest cfg now sys op sys' := by
  cases op with
  | edit e =>
    simp only [Operation.run, bind_eq_ok, Except.ok.injEq] at h
    obtain ⟨db', hrun, rfl⟩ := h
    exact .edit hrun
  | claim worker case =>
    simp only [Operation.run] at h
    split at h
    · next hfree hclaim =>
      obtain rfl := Except.ok.inj h
      refine .claim (fun job hjob heq ↦ ?_) (claimMeetingOutOfSync_eq_some hwf.db hclaim)
      have := (Service.job?_eq_some hwf).2 ⟨hjob, heq⟩
      simp [hfree] at this
    · simp at h
  | assign worker =>
    simp only [Operation.run] at h
    split at h
    · simp at h
    next job hfind =>
    obtain ⟨hjob, rfl⟩ := (Service.job?_eq_some hwf).1 hfind
    simp only [bind_eq_ok, Except.ok.injEq] at h
    obtain ⟨⟨job', db'⟩, hassign, rfl⟩ := h
    exact .assign hjob hassign
  | create worker meeting =>
    simp only [Operation.run] at h
    split at h
    · simp at h
    next job hfind =>
    obtain ⟨hjob, rfl⟩ := (Service.job?_eq_some hwf).1 hfind
    simp only [bind_eq_ok, Except.ok.injEq] at h
    obtain ⟨job', hcreate, rfl⟩ := h
    exact .create hjob hcreate
  | complete worker completion =>
    simp only [Operation.run] at h
    split at h
    · simp at h
    next job hfind =>
    obtain ⟨hjob, rfl⟩ := (Service.job?_eq_some hwf).1 hfind
    simp only [bind_eq_ok, Except.ok.injEq] at h
    obtain ⟨db', hcomplete, rfl⟩ := h
    exact .complete hjob hcomplete
  | release worker =>
    simp only [Operation.run] at h
    split at h
    · simp at h
    next job hfind =>
    obtain ⟨hjob, rfl⟩ := (Service.job?_eq_some hwf).1 hfind
    obtain rfl := Except.ok.inj h
    exact .release hjob

theorem StepEffect.wellFormed {cfg : ZoomConfig} {now : Timestamp} {op : Operation}
    (hwf : sys.WellFormed) (h : StepEffect digest cfg now sys op sys') : sys'.WellFormed := by
  cases h with
  | edit hrun => exact hwf.edit (Edit.run_frame hwf.db hrun)
  | claim hfree hclaim => exact hwf.claim hfree hclaim
  | assign hjob hassign => exact hwf.assign hjob hassign
  | create hjob hcreate => exact hwf.create hjob hcreate
  | complete hjob hcomplete => exact hwf.complete hjob hcomplete
  | release hjob => exact hwf.release hjob

theorem Service.Reached.wellFormed {cfg : ZoomConfig} {now : Timestamp}
    (h : sys.Reached digest cfg now) : sys.WellFormed := by
  refine Reachable.stable h (fun _ ↦ Service.Fresh.wellFormed) ?_
  rintro _ s s' hwf ⟨rules, op, hrun⟩
  exact (Operation.run_effect hwf hrun).wellFormed hwf

end Steps

end Ocg.Meetings
