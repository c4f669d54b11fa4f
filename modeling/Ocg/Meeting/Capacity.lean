import Ocg.Meeting.Hosts

/-!
# The capacity of host users

A host user is reserved on the claim of a creation, for the time that came with the claim. The
reservation lasts until the meeting is recorded with the host, and the record until the meeting is
deleted. Only an edit can change the time, or hide the reservation, and no edit looks at the hosts.

So the configured maximum holds at every instant of a run whose edits leave the creations under way
alone, and move meetings only to where the check of `assign_zoom_host_user`, made before the edit,
finds room.
-/

namespace Ocg.Meetings

open Relational

variable {H : Type} {digest : SyncInputs → H} {db db' : MeetingDatabase} {host : String}
  {t : Timestamp}

/-! ## The times of an edit -/

/-- The owner with the time of a payload, if there is one for it. -/
def Owner.reschedule (p : Option OwnerPayload) (o : Owner) : Owner :=
  { o with
    endsAt := p.elim o.endsAt (·.endsAt)
    startsAt := p.elim o.startsAt (·.startsAt) }

/-- The database with the times that the edit gives. A session that it removes has none. -/
def Edit.reschedule (edit : Edit) (db : MeetingDatabase) : MeetingDatabase :=
  { db with
    events := db.events.map fun e ↦
      { e with toOwner := e.toOwner.reschedule (edit.payloadOf (.event e.eventId)) }
    sessions := db.sessions.map fun s ↦
      { s with
        toOwner := if edit.Removes s then { s.toOwner with endsAt := none, startsAt := none }
          else s.toOwner.reschedule (edit.payloadOf (.session s.sessionId)) } }

theorem exists_of_mem_reschedule {edit : Edit} {ref : OwnerRef} {o₁ : Owner}
    (h : (ref, o₁) ∈ (edit.reschedule db).owners) : ∃ o, (ref, o) ∈ db.owners
      ∧ (o₁ = { o with endsAt := none, startsAt := none }
        ∨ o₁ = o.reschedule (edit.payloadOf ref)) := by
  cases ref with
  | event id =>
    obtain ⟨e₁, he₁, rfl, rfl⟩ := event_mem_owners.1 h
    obtain ⟨e, he, rfl⟩ := List.mem_map.1 he₁
    exact ⟨e.toOwner, Event.mem_owners he, .inr rfl⟩
  | session id =>
    obtain ⟨s₁, hs₁, rfl, rfl⟩ := session_mem_owners.1 h
    obtain ⟨s, hs, rfl⟩ := List.mem_map.1 hs₁
    refine ⟨s.toOwner, Session.mem_owners hs, ?_⟩
    by_cases hgone : edit.Removes s
    · exact .inl (if_pos hgone)
    · exact .inr (if_neg hgone)

theorem reschedule_mem_owners {edit : Edit} {ref : OwnerRef} {o : Owner} (ho : (ref, o) ∈ db.owners)
    (hstays : ∀ s ∈ db.sessions, ref = .session s.sessionId → ¬ edit.Removes s) :
    (ref, o.reschedule (edit.payloadOf ref)) ∈ (edit.reschedule db).owners := by
  cases ref with
  | event id =>
    obtain ⟨e, he, rfl, rfl⟩ := event_mem_owners.1 ho
    exact event_mem_owners.2 ⟨_, List.mem_map_of_mem he, rfl, rfl⟩
  | session id =>
    obtain ⟨s, hs, rfl, rfl⟩ := session_mem_owners.1 ho
    exact session_mem_owners.2 ⟨_, List.mem_map_of_mem hs, rfl, if_neg (hstays s hs rfl)⟩

theorem MeetingDatabase.WellFormed.reschedule (h : db.WellFormed) (edit : Edit) :
    (edit.reschedule db).WellFormed := by
  refine h.of_keys ?_ ?_ ?_ rfl rfl ?_
  · simp only [Edit.reschedule, List.map_map]
    rfl
  · simp only [Edit.reschedule, List.map_map]
    rfl
  · simp only [Edit.reschedule, List.map_map]
    rfl
  · rintro ⟨ref, o₁⟩ hrow hrequested
    obtain ⟨o, ho, rfl | rfl⟩ := exists_of_mem_reschedule hrow
    · exact h.provider (ref, o) ho hrequested
    · exact h.provider (ref, o) ho hrequested

/-! ## Edits that keep the capacity -/

/-- The edit changes the time of the owner. -/
def Edit.Moves (edit : Edit) (row : OwnerRef × Owner) : Prop :=
  ∃ p ∈ edit.payloadOf row.1, p.startsAt ≠ row.2.startsAt ∨ p.endsAt ≠ row.2.endsAt

instance Edit.decidableMoves (edit : Edit) (row : OwnerRef × Owner) : Decidable (edit.Moves row) :=
  inferInstanceAs (Decidable (∃ p ∈ edit.payloadOf row.1, _))

/-- The edit changes the time of the meeting. -/
def Edit.MovesMeeting (edit : Edit) (db : MeetingDatabase) (m : Meeting) : Prop :=
  ∃ row ∈ db.owners, m.owner? = some row.1 ∧ edit.Moves row

instance Edit.decidableMovesMeeting (edit : Edit) (m : Meeting) :
    Decidable (edit.MovesMeeting db m) :=
  inferInstanceAs (Decidable (∃ row ∈ db.owners, _))

/-- The host of a recorded meeting. -/
def Meeting.host? (m : Meeting) : Option String :=
  if m.meetingProviderId = "zoom" then m.providerHostUserId.map lower else none

/-- The host of a live reservation. -/
def Owner.host? (o : Owner) : Option String :=
  if o.meetingProviderId = some "zoom" ∧ o.meetingSyncClaimedAt ≠ none
      ∧ o.meetingInSync = some false then o.meetingProviderHostUser.map lower
  else none

/-- The hosts that the owner takes, through recorded meetings and its reservation. -/
def MeetingDatabase.hostsOf (db : MeetingDatabase) (row : OwnerRef × Owner) : List String :=
  (db.meetings.filter fun m ↦ m.owner? = some row.1).filterMap Meeting.host? ++ row.2.host?.toList

/-- The slots of the meetings and reservations that the edit does not move. -/
def Edit.keptSlots (edit : Edit) (db : MeetingDatabase) : List HostSlot :=
  (db.meetings.filter fun m ↦ ¬ edit.MovesMeeting db m).filterMap (Meeting.recordedSlot db)
    ++ (db.owners.filter fun row ↦ ¬ edit.Moves row).filterMap fun row ↦ row.2.reservedSlot

/-- The number of meetings and reservations of the host that the edit moves. -/
def Edit.movedCount (edit : Edit) (db : MeetingDatabase) (host : String) : ℕ :=
  db.meetings.countP (fun m ↦ m.host? = some host ∧ edit.MovesMeeting db m)
    + db.owners.countP fun row ↦ row.2.host? = some host ∧ edit.Moves row

/-- What the edit moves fits on the host beside the slots that overlap the time range, as
`assign_zoom_host_user` counts them. -/
def Edit.FindsRoom (edit : Edit) (cfg : ZoomConfig) (db : MeetingDatabase) (host : String)
    (startsAt endsAt : Timestamp) : Prop :=
  (((edit.keptSlots db).countP fun slot ↦ slot.host = host ∧ slot.Overlaps startsAt endsAt)
    + edit.movedCount db host : ℤ) ≤ cfg.maxSimultaneousMeetingsPerHost

instance Edit.decidableFindsRoom (edit : Edit) (cfg : ZoomConfig) (startsAt endsAt : Timestamp) :
    Decidable (edit.FindsRoom cfg db host startsAt endsAt) :=
  inferInstanceAs (Decidable (_ ≤ _))

/-- The edit leaves the creation of the job alone: the request and the provider of the owner stay,
and so does its time while no host is assigned. -/
def Edit.SparesCreation (edit : Edit) (db : MeetingDatabase) (job : Job H) : Prop :=
  ∀ row ∈ db.owners, job.claim.owner = some row.1 → ∀ p ∈ edit.payloadOf row.1,
    p.meetingProviderId = some "zoom"
      ∧ (p.meetingRequested = some false → row.2.meetingRequested = some true)
      ∧ (job.stage = .claimed → ¬ edit.Moves row)

instance Edit.decidableSparesCreation (edit : Edit) (job : Job H) :
    Decidable (edit.SparesCreation db job) :=
  inferInstanceAs (Decidable (∀ row ∈ db.owners, _ → ∀ p ∈ edit.payloadOf row.1, _ ∧ (_ → _) ∧ _))

/-- The edit leaves creations under way alone, and gives an owner that takes a host a new time only
where the state before it has room for what it moves. -/
def KeepsCapacity (cfg : ZoomConfig) : EditGuard H := fun _ edit sys ↦
  (∀ job ∈ sys.jobs, job.claim.syncAction = .create → edit.SparesCreation sys.db job)
    ∧ ∀ row ∈ sys.db.owners, edit.Moves row → ∀ p ∈ edit.payloadOf row.1,
      ∀ startsAt ∈ p.startsAt, ∀ endsAt ∈ p.endsAt, ∀ host ∈ sys.db.hostsOf row,
        edit.FindsRoom cfg sys.db host startsAt endsAt

instance decidableKeepsCapacity (cfg : ZoomConfig) (now : Timestamp) (edit : Edit)
    (sys : Service H) : Decidable (KeepsCapacity cfg now edit sys) :=
  inferInstanceAs (Decidable ((∀ job ∈ sys.jobs, _ → _) ∧ ∀ row ∈ sys.db.owners, _ →
    ∀ p ∈ edit.payloadOf row.1, ∀ startsAt ∈ p.startsAt, ∀ endsAt ∈ p.endsAt,
      ∀ host ∈ sys.db.hostsOf row, _))

/-! ## The invariant -/

/-- The host that the job has reserved. -/
def Job.hostUser (job : Job H) : Option String :=
  match job.stage with
  | .claimed => none
  | .assigned host => some host
  | .created host _ => some host

/-- Hosts are reserved by the creations under way, whose reservations are live. -/
structure Service.HostsReserved (cfg : ZoomConfig) (sys : Service H) : Prop where
  reserved : ∀ ref o, (ref, o) ∈ sys.db.owners → ∀ user ∈ o.meetingProviderHostUser,
    ∃ job ∈ sys.jobs, job.claim.owner = some ref ∧ job.hostUser = some user
  assigned : ∀ job ∈ sys.jobs, ∀ user ∈ job.hostUser, ∀ ref o, job.claim.owner = some ref →
    (ref, o) ∈ sys.db.owners → o.meetingProviderHostUser = some user
  creating : ∀ job ∈ sys.jobs, job.claim.syncAction = .create → ∀ ref o,
    job.claim.owner = some ref → (ref, o) ∈ sys.db.owners →
    o.meetingInSync = some false ∧ o.meetingProviderId = some "zoom"
  timed : ∀ job ∈ sys.jobs, job.claim.syncAction = .create → job.stage = .claimed → ∀ ref o,
    job.claim.owner = some ref → (ref, o) ∈ sys.db.owners →
    o.startsAt = job.claim.startsAt ∧ o.endsAt = job.claim.endsAt
  capacity : ∀ host t, (sys.db.load host t : ℤ) ≤ cfg.maxSimultaneousMeetingsPerHost

variable {cfg : ZoomConfig} {sys sys' : Service H}

theorem Job.stage_ne_claimed {job : Job H} {user : String} (h : job.hostUser = some user) :
    job.stage ≠ .claimed := by
  intro hstage
  simp [Job.hostUser, hstage] at h

theorem Service.HostsReserved.live (hwf : sys.WellFormed) (h : sys.HostsReserved cfg)
    {ref : OwnerRef} {o : Owner} (ho : (ref, o) ∈ sys.db.owners) {user : String}
    (huser : o.meetingProviderHostUser = some user) : o.meetingProviderId = some "zoom"
      ∧ o.meetingSyncClaimedAt ≠ none ∧ o.meetingInSync = some false := by
  obtain ⟨job, hjob, howner, hhost⟩ := h.reserved ref o ho user huser
  have haction := (hwf.staged job hjob (Job.stage_ne_claimed hhost)).1
  obtain ⟨hsync, hprovider⟩ := h.creating job hjob haction ref o howner ho
  exact ⟨hprovider, hwf.reserved ref o ho (by simp [huser]), hsync⟩

/-! ## Edits -/

theorem OwnerEdited.creating {p : OwnerPayload} {o o' : Owner} (h : OwnerEdited (some p) o o')
    (hsync : o.meetingInSync = some false) (hprovider : p.meetingProviderId = some "zoom")
    (hrequested : p.meetingRequested = some false → o.meetingRequested = some true) :
    o'.meetingInSync = some false ∧ o'.meetingProviderId = some "zoom" := by
  -- a payload for an owner with a creation under way leaves its reservation live
  obtain ⟨flag, rfl, hflag⟩ := h
  refine ⟨?_, hprovider⟩
  by_cases hafter : p.meetingRequested = some false
  · exact hflag.withdrawn (hrequested hafter) (by simp [hafter])
  · exact hflag.pending hsync hafter

theorem OwnerEdited.times {p : Option OwnerPayload} {o o' : Owner} (h : OwnerEdited p o o') :
    o'.startsAt = (o.reschedule p).startsAt ∧ o'.endsAt = (o.reschedule p).endsAt := by
  cases p with
  | none =>
    obtain rfl : o' = o := h
    exact ⟨rfl, rfl⟩
  | some p =>
    obtain ⟨flag, rfl, -⟩ := h
    exact ⟨rfl, rfl⟩

theorem Edit.run_times {rules : Rules} {now : Timestamp} {edit : Edit} (hwf : db.WellFormed)
    (h : edit.run rules now db = .ok db') {ref : OwnerRef} {o' : Owner}
    (ho' : (ref, o') ∈ db'.owners) :
    (∃ o, (ref, o) ∈ db.owners
      ∧ (ref, o.reschedule (edit.payloadOf ref)) ∈ (edit.reschedule db).owners
      ∧ (o'.startsAt = (o.reschedule (edit.payloadOf ref)).startsAt
        ∧ o'.endsAt = (o.reschedule (edit.payloadOf ref)).endsAt)
      ∧ o'.meetingSyncClaimedAt = o.meetingSyncClaimedAt
      ∧ o'.meetingProviderHostUser = o.meetingProviderHostUser)
      ∨ (db.nextUuid ≤ ref.id ∧ o'.IsNew) := by
  rcases edit.run_owner hwf h ho' with ⟨o, ho, hstays, hedited | ⟨hnone, rfl⟩⟩ | hnew
  · exact .inl ⟨o, ho, reschedule_mem_owners ho hstays, hedited.times, hedited.claim⟩
  · obtain ⟨-, -, hclaimed, hhost, hstarts, hends⟩ := o.markOutOfSync_eq
    refine .inl ⟨o, ho, reschedule_mem_owners ho hstays, ?_, hclaimed, hhost⟩
    rw [hnone]
    exact ⟨hstarts, hends⟩
  · exact .inr hnew

theorem Owner.isAt_of_eq {o o' : Owner} (hstarts : o'.startsAt = o.startsAt)
    (hends : o'.endsAt = o.endsAt) : o'.IsAt t ↔ o.IsAt t := by
  unfold Owner.IsAt
  rw [hstarts, hends]

/-- The load after an edit is at most the load with the times of the edit. -/
theorem Service.HostsReserved.load_edit (hwf : sys.WellFormed) (h : sys.HostsReserved cfg)
    {rules : Rules} {now : Timestamp} {edit : Edit} (hrun : edit.run rules now sys.db = .ok db') :
    db'.load host t ≤ (edit.reschedule sys.db).load host t := by
  have hframe := Edit.run_frame hwf.db hrun
  refine load_mono (hwf.db.reschedule edit) hframe.wellFormed ?_ ?_
  · intro m' hm' _ ref href o' ho' hat
    obtain ⟨m, hm, hcase, hback⟩ := hframe.meetings m' hm'
    have href := hback ref href
    have hsame : m.meetingId = m'.meetingId ∧ m'.meetingProviderId = m.meetingProviderId
        ∧ m'.providerHostUserId = m.providerHostUserId := by
      rcases hcase with rfl | rfl
      · exact ⟨rfl, rfl, rfl⟩
      · exact ⟨rfl, rfl, rfl⟩
    refine ⟨m, hm, hsame.1, href, hsame.2.1, hsame.2.2, ?_⟩
    rcases Edit.run_times hwf.db hrun ho' with ⟨o, -, hmem, ⟨hstarts, hends⟩, -⟩ | ⟨hfresh, -⟩
    · exact ⟨_, hmem, (Owner.isAt_of_eq hstarts hends).1 hat⟩
    · obtain ⟨o, ho⟩ := hwf.db.exists_owner hm href
      exact absurd (hwf.db.issued ho) (not_lt.2 hfresh)
  · intro ref o' ho' htakes
    obtain ⟨-, ⟨user, huser, hname⟩, hat⟩ := Owner.takes_iff.1 htakes
    rcases Edit.run_times hwf.db hrun ho' with ⟨o, ho, hmem, ⟨hstarts, hends⟩, -, hsame⟩ | ⟨-, hnew⟩
    · have huser : o.meetingProviderHostUser = some user := hsame.symm.trans huser
      have hlive := h.live hwf ho huser
      refine ⟨_, hmem, Owner.takes_iff.2 ⟨hlive, ⟨user, huser, hname⟩, ?_⟩⟩
      exact (Owner.isAt_of_eq hstarts hends).1 hat
    · rw [hnew.noHost] at huser
      simp at huser

/-! ## The load with the times of an edit -/

theorem Meeting.host?_eq_some {m : Meeting} : m.host? = some host
    ↔ m.meetingProviderId = "zoom" ∧ ∃ user ∈ m.providerHostUserId, lower user = host := by
  unfold Meeting.host?
  split
  · next hzoom => simp [hzoom]
  · next hzoom => simp [hzoom]

theorem Owner.host?_eq_some {o : Owner} : o.host? = some host
    ↔ (o.meetingProviderId = some "zoom" ∧ o.meetingSyncClaimedAt ≠ none
      ∧ o.meetingInSync = some false) ∧ ∃ user ∈ o.meetingProviderHostUser, lower user = host := by
  unfold Owner.host?
  split
  · next hlive => simp [hlive]
  · next hlive => simp only [reduceCtorEq, hlive, false_and]

theorem Edit.isAt_of_not_moves {edit : Edit} {ref : OwnerRef} {o : Owner}
    (hstays : ¬ edit.Moves (ref, o)) (hat : (o.reschedule (edit.payloadOf ref)).IsAt t) :
    o.IsAt t := by
  cases hp : edit.payloadOf ref with
  | none =>
    rw [hp] at hat
    exact hat
  | some p =>
    have hsame : p.startsAt = o.startsAt ∧ p.endsAt = o.endsAt := by
      by_contra hne
      exact hstays ⟨p, hp, not_and_or.1 hne⟩
    rw [hp] at hat
    exact (Owner.isAt_of_eq hsame.1 hsame.2).1 hat

theorem Meeting.takes_reschedule {edit : Edit} (hwf : db.WellFormed) {m : Meeting}
    (hm : m ∈ db.meetings) (htakes : m.Takes (edit.reschedule db) host t) :
    m.host? = some host ∧ ∃ row ∈ db.owners, m.owner? = some row.1
      ∧ (row.2.reschedule (edit.payloadOf row.1)).IsAt t := by
  -- what takes a host with the times of the edit is of that host before
  obtain ⟨hzoom, hhost, ref, href, o₁, ho₁, hat⟩ :=
    (Meeting.takes_iff (hwf.reschedule edit) hm).1 htakes
  refine ⟨Meeting.host?_eq_some.2 ⟨hzoom, hhost⟩, ?_⟩
  obtain ⟨o, ho, rfl | rfl⟩ := exists_of_mem_reschedule ho₁
  · simp [Owner.IsAt] at hat
  · exact ⟨(ref, o), ho, href, hat⟩

theorem Owner.takes_reschedule {edit : Edit} {ref : OwnerRef} {o₁ : Owner}
    (ho₁ : (ref, o₁) ∈ (edit.reschedule db).owners) (htakes : o₁.Takes host t) :
    ∃ o, (ref, o) ∈ db.owners ∧ o.host? = some host
      ∧ (o.reschedule (edit.payloadOf ref)).IsAt t := by
  obtain ⟨hlive, hhost, hat⟩ := Owner.takes_iff.1 htakes
  obtain ⟨o, ho, rfl | rfl⟩ := exists_of_mem_reschedule ho₁
  · simp [Owner.IsAt] at hat
  · exact ⟨o, ho, Owner.host?_eq_some.2 ⟨hlive, hhost⟩, hat⟩

theorem Edit.countP_keptSlots_ge (edit : Edit) {startsAt endsAt : Timestamp}
    (hstarts : startsAt ≤ t) (hends : t < endsAt) :
    db.meetings.countP (fun m ↦ ¬ edit.MovesMeeting db m ∧ m.Takes db host t)
      + db.owners.countP (fun row ↦ ¬ edit.Moves row ∧ row.2.Takes host t)
      ≤ (edit.keptSlots db).countP fun slot ↦
        slot.host = host ∧ slot.Overlaps startsAt endsAt := by
  unfold Edit.keptSlots
  rw [List.countP_append, List.countP_filterMap, List.countP_filterMap, List.countP_filter,
    List.countP_filter]
  apply Nat.add_le_add
  · refine List.countP_mono_left fun m _ htakes ↦ ?_
    obtain ⟨hstays, slot, hslot, htakes⟩ := of_decide_eq_true htakes
    have hslot : m.recordedSlot db = some slot := hslot
    simp [hslot, hstays, htakes.overlaps hstarts hends]
  · refine List.countP_mono_left fun row _ htakes ↦ ?_
    obtain ⟨hstays, slot, hslot, htakes⟩ := of_decide_eq_true htakes
    have hslot : row.2.reservedSlot = some slot := hslot
    simp [hslot, hstays, htakes.overlaps hstarts hends]

/-- At an instant of a time range, the slots that the edit keeps and the meetings and reservations
that it moves are all that takes the host. -/
theorem load_reschedule_le {edit : Edit} (hwf : db.WellFormed) {startsAt endsAt : Timestamp}
    (hstarts : startsAt ≤ t) (hends : t < endsAt) : (edit.reschedule db).load host t
      ≤ ((edit.keptSlots db).countP fun slot ↦ slot.host = host ∧ slot.Overlaps startsAt endsAt)
        + edit.movedCount db host := by
  have hmeetings : db.meetings.countP (fun m ↦ m.Takes (edit.reschedule db) host t)
      ≤ db.meetings.countP (fun m ↦ ¬ edit.MovesMeeting db m ∧ m.Takes db host t)
        + db.meetings.countP fun m ↦ m.host? = some host ∧ edit.MovesMeeting db m := by
    refine countP_le_add fun m hm htakes ↦ ?_
    simp only [decide_eq_true_eq] at htakes ⊢
    obtain ⟨hhost, row, hrow, hmrow, hat⟩ := Meeting.takes_reschedule hwf hm htakes
    by_cases hmoves : edit.MovesMeeting db m
    · exact .inr ⟨hhost, hmoves⟩
    · refine .inl ⟨hmoves, (Meeting.takes_iff hwf hm).2 ?_⟩
      obtain ⟨hzoom, huser⟩ := Meeting.host?_eq_some.1 hhost
      refine ⟨hzoom, huser, row.1, hmrow, row.2, hrow, ?_⟩
      exact Edit.isAt_of_not_moves (fun h ↦ hmoves ⟨row, hrow, hmrow, h⟩) hat
  have howners : (edit.reschedule db).owners.countP (fun row ↦ row.2.Takes host t)
      ≤ db.owners.countP (fun row ↦ ¬ edit.Moves row ∧ row.2.Takes host t)
        + db.owners.countP fun row ↦ row.2.host? = some host ∧ edit.Moves row :=
    calc (edit.reschedule db).owners.countP (fun row ↦ row.2.Takes host t)
        ≤ db.owners.countP fun row ↦ row.2.host? = some host
          ∧ (row.2.reschedule (edit.payloadOf row.1)).IsAt t := by
          refine countP_le_of_keys (hwf.reschedule edit).ownerKeys ?_
          rintro ⟨ref, o₁⟩ ho₁ htakes
          obtain ⟨o, ho, hhost, hat⟩ := Owner.takes_reschedule ho₁ (of_decide_eq_true htakes)
          exact ⟨(ref, o), ho, rfl, decide_eq_true ⟨hhost, hat⟩⟩
      _ ≤ _ := by
          refine countP_le_add fun row hrow htakes ↦ ?_
          simp only [decide_eq_true_eq] at htakes ⊢
          by_cases hmoves : edit.Moves row
          · exact .inr ⟨htakes.1, hmoves⟩
          · obtain ⟨hlive, hhost⟩ := Owner.host?_eq_some.1 htakes.1
            have hat := Edit.isAt_of_not_moves hmoves htakes.2
            exact .inl ⟨hmoves, Owner.takes_iff.2 ⟨hlive, hhost, hat⟩⟩
  have hkept : db.meetings.countP (fun m ↦ ¬ edit.MovesMeeting db m ∧ m.Takes db host t)
      + db.owners.countP (fun row ↦ ¬ edit.Moves row ∧ row.2.Takes host t)
      ≤ (edit.keptSlots db).countP fun slot ↦ slot.host = host ∧ slot.Overlaps startsAt endsAt :=
    edit.countP_keptSlots_ge hstarts hends
  rw [load_eq]
  unfold Edit.movedCount
  have hsame : (edit.reschedule db).meetings = db.meetings := rfl
  rw [hsame]
  omega

theorem Service.HostsReserved.load_reschedule (hwf : sys.WellFormed) (h : sys.HostsReserved cfg)
    {now : Timestamp} {edit : Edit} (hguard : KeepsCapacity cfg now edit sys) :
    ((edit.reschedule sys.db).load host t : ℤ) ≤ cfg.maxSimultaneousMeetingsPerHost := by
  by_cases hmoved : ∃ row ∈ sys.db.owners, edit.Moves row ∧ host ∈ sys.db.hostsOf row
      ∧ (row.2.reschedule (edit.payloadOf row.1)).IsAt t
  · -- the instant is in a new time, for which the edit was checked
    obtain ⟨row, hrow, hmoves, hhost, hat⟩ := hmoved
    obtain ⟨p, hp, -⟩ := id hmoves
    rw [show edit.payloadOf row.1 = some p from hp] at hat
    obtain ⟨⟨startsAt, hstartsAt, hstarts⟩, endsAt, hendsAt, hends⟩ := hat
    have hroom := hguard.2 row hrow hmoves p hp startsAt hstartsAt endsAt hendsAt host hhost
    exact le_trans (Int.ofNat_le.2 (load_reschedule_le hwf.db hstarts hends))
      (by exact_mod_cast hroom)
  · -- whatever takes the host at that instant took it before
    have hstill (row : OwnerRef × Owner) (hrow : row ∈ sys.db.owners)
        (hhost : host ∈ sys.db.hostsOf row)
        (hat : (row.2.reschedule (edit.payloadOf row.1)).IsAt t) : row.2.IsAt t :=
      Edit.isAt_of_not_moves (fun hmoves ↦ hmoved ⟨row, hrow, hmoves, hhost, hat⟩) hat
    refine le_trans (Int.ofNat_le.2 (load_mono hwf.db (hwf.db.reschedule edit) ?_ ?_))
      (h.capacity host t)
    · intro m hm htakes ref href o₁ ho₁ hat
      obtain ⟨hhost, row, hrow, hmrow, hat⟩ := Meeting.takes_reschedule hwf.db hm htakes
      obtain rfl : ref = row.1 := Option.some.inj (href.symm.trans hmrow)
      refine ⟨m, hm, rfl, href, rfl, rfl, row.2, hrow, hstill row hrow ?_ hat⟩
      exact List.mem_append_left _ (List.mem_filterMap.2
        ⟨m, List.mem_filter.2 ⟨hm, decide_eq_true hmrow⟩, hhost⟩)
    · intro ref o₁ ho₁ htakes
      obtain ⟨o, ho, hhost, hat⟩ := Owner.takes_reschedule ho₁ htakes
      obtain ⟨hlive, huser⟩ := Owner.host?_eq_some.1 hhost
      refine ⟨o, ho, Owner.takes_iff.2 ⟨hlive, huser, hstill (ref, o) ho ?_ hat⟩⟩
      exact List.mem_append_right _ (Option.mem_toList.2 hhost)

theorem Service.HostsReserved.edit (hwf : sys.WellFormed) (h : sys.HostsReserved cfg)
    {rules : Rules} {now : Timestamp} {edit : Edit} (hguard : KeepsCapacity cfg now edit sys)
    (hrun : edit.run rules now sys.db = .ok db') :
    ({ sys with db := db' } : Service H).HostsReserved cfg := by
  have hframe := Edit.run_frame hwf.db hrun
  have hold : ∀ job ∈ sys.jobs, ∀ ref o', job.claim.owner = some ref → (ref, o') ∈ db'.owners →
      ¬ sys.db.nextUuid ≤ ref.id := fun job hjob ref o' howner _ ↦
    not_le.2 (hwf.issued job hjob ref howner)
  refine ⟨fun ref o' ho' user huser ↦ ?_, fun job hjob user huser ref o' howner ho' ↦ ?_,
    fun job hjob haction ref o' howner ho' ↦ ?_,
    fun job hjob haction hstage ref o' howner ho' ↦ ?_, fun host t ↦ ?_⟩
  · rcases hframe.owners ref o' ho' with ⟨o, ho, -, hsame⟩ | ⟨-, hnew⟩
    · exact h.reserved ref o ho user (hsame ▸ huser)
    · rw [hnew.noHost] at huser
      simp at huser
  · rcases hframe.owners ref o' ho' with ⟨o, ho, -, hsame⟩ | ⟨hfresh, -⟩
    · rw [hsame]
      exact h.assigned job hjob user huser ref o howner ho
    · exact absurd hfresh (hold job hjob ref o' howner ho')
  · rcases edit.run_owner hwf.db hrun ho' with ⟨o, ho, -, hedited | ⟨-, rfl⟩⟩ | ⟨hfresh, -⟩
    · obtain ⟨hsync, hprovider⟩ := h.creating job hjob haction ref o howner ho
      cases hp : edit.payloadOf ref with
      | none =>
        rw [hp] at hedited
        obtain rfl : o' = o := hedited
        exact ⟨hsync, hprovider⟩
      | some p =>
        rw [hp] at hedited
        obtain ⟨hzoom, hrequested, -⟩ := hguard.1 job hjob haction (ref, o) ho howner p hp
        exact hedited.creating hsync hzoom hrequested
    · obtain ⟨hsync, hprovider⟩ := h.creating job hjob haction ref o howner ho
      refine ⟨?_, o.markOutOfSync_eq.2.1.trans hprovider⟩
      unfold Owner.markOutOfSync
      split
      · rfl
      · exact hsync
    · exact absurd hfresh (hold job hjob ref o' howner ho')
  · rcases edit.run_owner hwf.db hrun ho' with ⟨o, ho, -, hedited | ⟨-, rfl⟩⟩ | ⟨hfresh, -⟩
    · obtain ⟨hstarts, hends⟩ := h.timed job hjob haction hstage ref o howner ho
      cases hp : edit.payloadOf ref with
      | none =>
        rw [hp] at hedited
        obtain rfl : o' = o := hedited
        exact ⟨hstarts, hends⟩
      | some p =>
        rw [hp] at hedited
        obtain ⟨flag, rfl, -⟩ := hedited
        have hstill := (hguard.1 job hjob haction (ref, o) ho howner p hp).2.2 hstage
        have hsame : p.startsAt = o.startsAt ∧ p.endsAt = o.endsAt := by
          by_contra hne
          exact hstill ⟨p, hp, not_and_or.1 hne⟩
        exact ⟨hsame.1.trans hstarts, hsame.2.trans hends⟩
    · obtain ⟨hstarts, hends⟩ := h.timed job hjob haction hstage ref o howner ho
      obtain ⟨-, -, -, -, hstarts', hends'⟩ := o.markOutOfSync_eq
      exact ⟨hstarts'.trans hstarts, hends'.trans hends⟩
    · exact absurd hfresh (hold job hjob ref o' howner ho')
  · exact (Int.ofNat_le.2 (h.load_edit hwf hrun)).trans (h.load_reschedule hwf hguard)

/-! ## Claims and provider calls -/

theorem Claims.mem_owners {now : Timestamp} {claim : Claim H} (hwf : sys.WellFormed)
    (hclaim : Claims digest now sys.db claim db') {ref : OwnerRef} {o' : Owner}
    (ho' : (ref, o') ∈ db'.owners) :
    ∃ o, (ref, o) ∈ sys.db.owners
      ∧ (o' = o ∨ (o' = o.claim now ∧ o.meetingProviderHostUser = none)) := by
  -- a claim changes the mark of the claimed owner, which has no host
  have hclaimed : ∀ {r : OwnerRef} {o₁ : Owner}, (r, o₁) ∈ sys.db.owners →
      o₁.meetingSyncClaimedAt = none →
      (ref, o') ∈ (sys.db.updateOwner r (fun _ ↦ True) (Owner.claim now)).owners →
      ∃ o, (ref, o) ∈ sys.db.owners
        ∧ (o' = o ∨ (o' = o.claim now ∧ o.meetingProviderHostUser = none)) := by
    intro r o₁ ho₁ hnone ho'
    obtain ⟨o, ho, rfl⟩ := mem_owners_updateOwner.1 ho'
    refine ⟨o, ho, ?_⟩
    split
    · next hsel =>
      refine .inr ⟨rfl, by_contra fun hhost ↦ hwf.reserved ref o ho hhost ?_⟩
      obtain rfl := hsel.1
      rw [hwf.db.owner_unique ho ho₁, hnone]
    · exact .inl rfl
  cases hclaim with
  | sync ho hneeds =>
    obtain ⟨o₁, ho₁, -, -, hnone, -⟩ := hneeds
    exact hclaimed (hwf.db.owner?_eq_some.1 ho₁) hnone ho'
  | delete ho hneeds =>
    obtain ⟨o₁, ho₁, -, hnone, -⟩ := hneeds
    exact hclaimed (hwf.db.owner?_eq_some.1 ho₁) hnone ho'
  | orphan => exact ⟨o', ho', .inl rfl⟩

theorem Claims.of_create {now : Timestamp} {claim : Claim H} (hwf : db.WellFormed)
    (hclaim : Claims digest now db claim db') (haction : claim.syncAction = .create)
    {ref : OwnerRef} {o : Owner} (howner : claim.owner = some ref) (ho : (ref, o) ∈ db.owners) :
    (o.meetingInSync = some false ∧ o.meetingProviderId = some "zoom")
      ∧ o.startsAt = claim.startsAt ∧ o.endsAt = claim.endsAt := by
  cases hclaim with
  | @sync ref' o' ho' hneeds =>
    obtain rfl := Option.some.inj howner
    obtain rfl := hwf.owner_unique ho ho'
    obtain ⟨o₁, ho₁, hrequested, hsync, -⟩ := hneeds
    obtain rfl := hwf.owner_unique ho (hwf.owner?_eq_some.1 ho₁)
    exact ⟨⟨hsync, hwf.provider (ref', o) ho hrequested⟩, rfl, rfl⟩
  | delete => simp [Claim.syncAction, MeetingDatabase.deleteClaim] at haction
  | orphan => simp [Claim.syncAction, Meeting.orphanClaim] at haction

theorem Service.HostsReserved.claim (hwf : sys.WellFormed) (h : sys.HostsReserved cfg)
    {now : Timestamp} {worker : ℕ} {claim : Claim H} (hdb : db'.WellFormed)
    (hclaim : Claims digest now sys.db claim db') :
    ({ sys with
      db := db'
      jobs := sys.jobs ++ [⟨worker, claim, .claimed⟩] } : Service H).HostsReserved cfg := by
  have hsame : ∀ ref o', (ref, o') ∈ db'.owners → ∃ o, (ref, o) ∈ sys.db.owners
      ∧ o'.meetingProviderHostUser = o.meetingProviderHostUser
      ∧ o'.meetingInSync = o.meetingInSync ∧ o'.meetingProviderId = o.meetingProviderId
      ∧ o'.startsAt = o.startsAt ∧ o'.endsAt = o.endsAt := fun ref o' ho' ↦ by
    obtain ⟨o, ho, rfl | ⟨rfl, -⟩⟩ := hclaim.mem_owners hwf ho'
    · exact ⟨_, ho, rfl, rfl, rfl, rfl, rfl⟩
    · exact ⟨o, ho, rfl, rfl, rfl, rfl, rfl⟩
  have hcases : ∀ job ∈ sys.jobs ++ [⟨worker, claim, .claimed⟩],
      job ∈ sys.jobs ∨ job = ⟨worker, claim, .claimed⟩ := fun job hjob ↦
    (List.mem_append.1 hjob).imp_right List.mem_singleton.1
  refine ⟨fun ref o' ho' user huser ↦ ?_, fun job hjob user huser ref o' howner ho' ↦ ?_,
    fun job hjob haction ref o' howner ho' ↦ ?_,
    fun job hjob haction hstage ref o' howner ho' ↦ ?_, fun host t ↦ ?_⟩
  · obtain ⟨o, ho, hhost, -⟩ := hsame ref o' ho'
    obtain ⟨job, hjob, hjob'⟩ := h.reserved ref o ho user (hhost ▸ huser)
    exact ⟨job, List.mem_append_left _ hjob, hjob'⟩
  · obtain ⟨o, ho, hhost, -⟩ := hsame ref o' ho'
    rcases hcases job hjob with hjob | rfl
    · rw [hhost]
      exact h.assigned job hjob user huser ref o howner ho
    · simp [Job.hostUser] at huser
  · obtain ⟨o, ho, -, hsync, hprovider, -⟩ := hsame ref o' ho'
    rw [hsync, hprovider]
    rcases hcases job hjob with hjob | rfl
    · exact h.creating job hjob haction ref o howner ho
    · exact (hclaim.of_create hwf.db haction howner ho).1
  · obtain ⟨o, ho, -, -, -, hstarts, hends⟩ := hsame ref o' ho'
    rw [hstarts, hends]
    rcases hcases job hjob with hjob | rfl
    · exact h.timed job hjob haction hstage ref o howner ho
    · exact (hclaim.of_create hwf.db haction howner ho).2
  · refine (Int.ofNat_le.2 (load_mono hwf.db hdb ?_ ?_)).trans (h.capacity host t)
    · intro m' hm' _ ref href o' ho' hat
      obtain ⟨m, hm, hid, howner, hprovider, hhost, -⟩ := hclaim.trimmed.mem hm'
      obtain ⟨o, ho, -, -, -, hstarts, hends⟩ := hsame ref o' ho'
      exact ⟨m, hm, hid.symm, howner ▸ href, hprovider, hhost, o, ho,
        (Owner.isAt_of_eq hstarts hends).1 hat⟩
    · intro ref o' ho' htakes
      obtain ⟨o, ho, rfl | ⟨rfl, hnone⟩⟩ := hclaim.mem_owners hwf ho'
      · exact ⟨_, ho, htakes⟩
      · obtain ⟨-, ⟨user, huser, -⟩, -⟩ := Owner.takes_iff.1 htakes
        have huser : o.meetingProviderHostUser = some user := huser
        simp [hnone] at huser

theorem Service.HostsReserved.create (hwf : sys.WellFormed) (h : sys.HostsReserved cfg)
    {job job' : Job H} {meeting : ProviderMeeting} {provided : List String} (hjob : job ∈ sys.jobs)
    (hcreate : job.create meeting sys.provided = .ok job') :
    ({ sys with
      jobs := replaceRow Job.worker job' sys.jobs
      provided := provided } : Service H).HostsReserved cfg := by
  obtain ⟨host, hstage, -, rfl⟩ := Job.create_eq_ok hcreate
  have hback : ∀ job₁ ∈ replaceRow Job.worker { job with stage := .created host meeting } sys.jobs,
      ∃ job₂ ∈ sys.jobs, job₁.claim = job₂.claim ∧ job₁.hostUser = job₂.hostUser
        ∧ (job₁.stage = .claimed → job₂.stage = .claimed) := fun job₁ hjob₁ ↦ by
    rcases mem_replaceRow hjob₁ with rfl | ⟨hjob₁, -⟩
    · exact ⟨job, hjob, rfl, by simp [Job.hostUser, hstage], by simp⟩
    · exact ⟨job₁, hjob₁, rfl, rfl, id⟩
  refine ⟨fun ref o ho user huser ↦ ?_, fun job₁ hjob₁ user huser ref o howner ho ↦ ?_,
    fun job₁ hjob₁ haction ref o howner ho ↦ ?_,
    fun job₁ hjob₁ haction hstage ref o howner ho ↦ ?_, h.capacity⟩
  · obtain ⟨job₁, hjob₁, howner, hhost⟩ := h.reserved ref o ho user huser
    by_cases hworker : job₁.worker = job.worker
    · obtain rfl := eq_of_key_eq hwf.workers hjob₁ hjob hworker
      refine ⟨_, new_mem_replaceRow hjob rfl, howner, ?_⟩
      simpa [Job.hostUser, hstage] using hhost
    · exact ⟨job₁, mem_replaceRow_of_ne hjob₁ hworker, howner, hhost⟩
  · obtain ⟨job₂, hjob₂, hclaim, hhost, -⟩ := hback job₁ hjob₁
    exact h.assigned job₂ hjob₂ user (hhost ▸ huser) ref o (hclaim ▸ howner) ho
  · obtain ⟨job₂, hjob₂, hclaim, -⟩ := hback job₁ hjob₁
    exact h.creating job₂ hjob₂ (hclaim ▸ haction) ref o (hclaim ▸ howner) ho
  · obtain ⟨job₂, hjob₂, hclaim, -, hclaimed⟩ := hback job₁ hjob₁
    rw [hclaim] at haction howner ⊢
    exact h.timed job₂ hjob₂ haction (hclaimed hstage) ref o howner ho

/-! ## Assignments -/

/-- The host that is selected has room at every instant of the range. -/
theorem load_lt_of_selectHost {now starts ends : Timestamp} {users : List String} {limit : ℤ}
    (h : selectHost now users limit starts ends db = some host) (hstarts : starts ≤ t)
    (hends : t < ends) : lower host = host ∧ (db.load host t : ℤ) < limit := by
  obtain ⟨hpool, hfree⟩ := List.mem_filter.1 (firstBy_mem h)
  refine ⟨lower_of_mem_poolHosts hpool, lt_of_le_of_lt ?_ (of_decide_eq_true hfree)⟩
  exact Int.ofNat_le.2 (load_le_overlappingMeetings hstarts hends)

/-- The owner with a reserved host. -/
def Owner.reserve (user : String) (o : Owner) : Owner :=
  { o with meetingProviderHostUser := some user }

variable (host t) in
theorem load_reserve (hwf : db.WellFormed) {ref : OwnerRef} {o : Owner} (ho : (ref, o) ∈ db.owners)
    {claimedAt : Timestamp} (hheld : o.IsClaimedAt claimedAt) (user : String) :
    (db.updateOwner ref (Owner.IsClaimedAt claimedAt) (Owner.reserve user)).load host t
        ≤ db.load host t
      ∨ (lower user = host ∧ o.IsAt t
        ∧ (db.updateOwner ref (Owner.IsClaimedAt claimedAt) (Owner.reserve user)).load host t
          ≤ db.load host t + 1) := by
  set db' := db.updateOwner ref (Owner.IsClaimedAt claimedAt) (Owner.reserve user)
  have hwf' : db'.WellFormed := hwf.updateOwner fun _ ↦ ⟨rfl, rfl⟩
  have hmeetings : db'.meetings.countP (fun m ↦ m.Takes db' host t)
      ≤ db.meetings.countP fun m ↦ m.Takes db host t := by
    refine List.countP_mono_left fun m hm htakes ↦ ?_
    obtain ⟨hzoom, hhost, r, href, o', ho', hat⟩ :=
      (Meeting.takes_iff hwf' hm).1 (of_decide_eq_true htakes)
    obtain ⟨o₁, ho₁, rfl⟩ := mem_owners_updateOwner.1 ho'
    refine decide_eq_true ((Meeting.takes_iff hwf hm).2 ⟨hzoom, hhost, r, href, o₁, ho₁, ?_⟩)
    split at hat
    · exact hat
    · exact hat
  have hreplaced : db'.owners = replaceRow Prod.fst (ref, o.reserve user) db.owners :=
    hwf.owners_updateOwner_eq ho hheld
  have howners := countP_replaceRow (fun row : OwnerRef × Owner ↦ decide (row.2.Takes host t))
    (fun row ↦ decide (row.2.Takes host t)) hwf.ownerKeys ho
    (show (ref, o).1 = (ref, o.reserve user).1 from rfl) fun _ _ _ ↦ rfl
  rw [← hreplaced] at howners
  rw [load_eq, load_eq]
  by_cases htakes : (o.reserve user).Takes host t
  · obtain ⟨-, ⟨user', huser, hname⟩, hat⟩ := Owner.takes_iff.1 htakes
    obtain rfl : user = user' := Option.some.inj huser
    refine .inr ⟨hname, hat, ?_⟩
    simp only [htakes, decide_true, if_true] at howners
    omega
  · refine .inl ?_
    simp only [htakes, decide_false, Bool.false_eq_true, if_false] at howners
    omega

variable (host t) in
theorem load_le_of_rows (hwf : db.WellFormed) (hwf' : db'.WellFormed)
    (hmeetings : db'.meetings = db.meetings)
    (howners : ∀ ref o, (ref, o) ∈ db'.owners → (ref, o) ∈ db.owners) :
    db'.load host t ≤ db.load host t := by
  refine load_mono hwf hwf' (fun m hm _ ref href o ho hat ↦ ?_) fun ref o ho htakes ↦ ?_
  · exact ⟨m, hmeetings ▸ hm, rfl, href, rfl, rfl, o, howners ref o ho, hat⟩
  · exact ⟨o, howners ref o ho, htakes⟩

/-- A host that has room takes the reservation without passing the limit, as the selection looked
at the times of the owner. -/
theorem Service.HostsReserved.load_assign (hwf : sys.WellFormed) (h : sys.HostsReserved cfg)
    {now starts ends : Timestamp} {job : Job H} (hjob : job ∈ sys.jobs) {ref : OwnerRef}
    (howner : job.claim.owner = some ref) (haction : job.claim.syncAction = .create)
    (hstage : job.stage = .claimed) (hstarts : job.claim.startsAt = some starts)
    (hends : job.claim.endsAt = some ends) {user : String}
    (hselect : selectHost now cfg.hostPoolUsers cfg.maxSimultaneousMeetingsPerHost starts ends
      sys.db = some user) (host : String) (t : Timestamp) :
    (((sys.db.updateOwner ref (Owner.IsClaimedAt job.claim.syncClaimedAt)
      (Owner.reserve user)).load host t : ℕ) : ℤ) ≤ cfg.maxSimultaneousMeetingsPerHost := by
  by_cases hgone : ∃ o, (ref, o) ∈ sys.db.owners
  · obtain ⟨o, ho⟩ := hgone
    have hheld := hwf.held job hjob ref howner o ho
    rcases load_reserve host t hwf.db ho hheld user with
      hle | ⟨hname, ⟨⟨s, hs, hst⟩, e, he, hte⟩, hle⟩
    · exact (Int.ofNat_le.2 hle).trans (h.capacity host t)
    · obtain ⟨hstarts', hends'⟩ := h.timed job hjob haction hstage ref o howner ho
      obtain rfl : s = starts := Option.some.inj (hs.symm.trans (hstarts'.trans hstarts))
      obtain rfl : e = ends := Option.some.inj (he.symm.trans (hends'.trans hends))
      obtain ⟨hlower, hfree⟩ := load_lt_of_selectHost hselect hst hte
      obtain rfl : user = host := hlower.symm.trans hname
      exact (Int.ofNat_le.2 hle).trans (by push_cast; omega)
  · -- the owner is gone, and its reservation touches no row
    have hsame : ∀ r o', (r, o') ∈ (sys.db.updateOwner ref
        (Owner.IsClaimedAt job.claim.syncClaimedAt) (Owner.reserve user)).owners →
        (r, o') ∈ sys.db.owners := by
      intro r o' ho'
      obtain ⟨o, ho, rfl⟩ := mem_owners_updateOwner.1 ho'
      split
      · next hsel => exact absurd ⟨o, hsel.1 ▸ ho⟩ hgone
      · exact ho
    have hwf' : (sys.db.updateOwner ref (Owner.IsClaimedAt job.claim.syncClaimedAt)
        (Owner.reserve user)).WellFormed :=
      hwf.db.updateOwner fun _ ↦ ⟨rfl, rfl⟩
    have hle := load_le_of_rows host t hwf.db hwf' rfl hsame
    exact (Int.ofNat_le.2 hle).trans (h.capacity host t)

theorem Service.HostsReserved.assign (hwf : sys.WellFormed) (h : sys.HostsReserved cfg)
    {now : Timestamp} {job job' : Job H} (hjob : job ∈ sys.jobs)
    (hassign : job.assign cfg now sys.db = .ok (job', db')) :
    ({ sys with
      db := db'
      jobs := replaceRow Job.worker job' sys.jobs } : Service H).HostsReserved cfg := by
  obtain ⟨ref, howner, haction, hstage, houtcome⟩ :=
    Job.assign_eq_ok (hwf.hostless job hjob) hassign
  rcases houtcome with ⟨rfl, rfl⟩ | ⟨starts, ends, user, hstarts, hends, hselect, rfl, rfl⟩
  · rw [replaceRow_self hwf.workers hjob]
    exact h
  · set job' : Job H := { job with
      stage := if sys.db.IsClaimHeld ref job.claim.syncClaimedAt then .assigned user else .claimed }
    have hjobs : ∀ job₁ ∈ replaceRow Job.worker job' sys.jobs, job₁ = job'
        ∨ (job₁ ∈ sys.jobs ∧ job₁.worker ≠ job.worker) := fun job₁ hjob₁ ↦ mem_replaceRow hjob₁
    -- the rows of other owners are as they were
    have hrow : ∀ r o', (r, o') ∈ (sys.db.updateOwner ref
      (Owner.IsClaimedAt job.claim.syncClaimedAt)
        fun o ↦ { o with meetingProviderHostUser := some user }).owners →
        ∃ o, (r, o) ∈ sys.db.owners ∧ ((r ≠ ref ∧ o' = o) ∨ (r = ref ∧ o' = o.reserve user)) := by
      intro r o' ho'
      obtain ⟨o, ho, rfl⟩ := mem_owners_updateOwner.1 ho'
      refine ⟨o, ho, ?_⟩
      by_cases href : r = ref
      · obtain rfl := href
        rw [if_pos ⟨rfl, hwf.held job hjob r howner o ho⟩]
        exact .inr ⟨rfl, rfl⟩
      · rw [if_neg fun hsel ↦ href hsel.1]
        exact .inl ⟨href, rfl⟩
    have hother : ∀ job₁ ∈ sys.jobs, job₁.worker ≠ job.worker → job₁.claim.owner ≠ some ref :=
      fun job₁ hjob₁ hne heq ↦ hne (hwf.distinct job₁ hjob₁ job hjob ref heq howner)
    have hassigned : ∀ o, (ref, o) ∈ sys.db.owners → job'.hostUser = some user := fun o ho ↦ by
      have hheld : sys.db.IsClaimHeld ref job.claim.syncClaimedAt :=
        ⟨o, hwf.db.owner?_eq_some.2 ho, hwf.held job hjob ref howner o ho⟩
      simp [job', Job.hostUser, hheld]
    refine ⟨fun r o' ho' user' huser ↦ ?_, fun job₁ hjob₁ user' huser r o' howner₁ ho' ↦ ?_,
      fun job₁ hjob₁ haction₁ r o' howner₁ ho' ↦ ?_,
      fun job₁ hjob₁ haction₁ hstage₁ r o' howner₁ ho' ↦ ?_, fun host t ↦ ?_⟩
    · obtain ⟨o, ho, ⟨hne, rfl⟩ | ⟨rfl, rfl⟩⟩ := hrow r o' ho'
      · obtain ⟨job₁, hjob₁, howner₁, hhost⟩ := h.reserved r _ ho user' huser
        refine ⟨job₁, mem_replaceRow_of_ne hjob₁ fun heq ↦ hne ?_, howner₁, hhost⟩
        obtain rfl := eq_of_key_eq hwf.workers hjob₁ hjob heq
        exact Option.some.inj (howner₁.symm.trans howner)
      · obtain rfl : user = user' := Option.some.inj huser
        exact ⟨job', new_mem_replaceRow hjob rfl, howner, hassigned o ho⟩
    · obtain ⟨o, ho, ⟨hne, rfl⟩ | ⟨rfl, rfl⟩⟩ := hrow r o' ho'
      · rcases hjobs job₁ hjob₁ with rfl | ⟨hjob₁, -⟩
        · exact absurd (Option.some.inj (howner₁.symm.trans howner)) hne
        · exact h.assigned job₁ hjob₁ user' huser r _ howner₁ ho
      · rcases hjobs job₁ hjob₁ with rfl | ⟨hjob₁, hne⟩
        · obtain rfl : user = user' := Option.some.inj ((hassigned o ho).symm.trans huser)
          rfl
        · exact absurd howner₁ (hother job₁ hjob₁ hne)
    · obtain ⟨o, ho, hcase⟩ := hrow r o' ho'
      have hsame : o'.meetingInSync = o.meetingInSync
          ∧ o'.meetingProviderId = o.meetingProviderId := by
        rcases hcase with ⟨-, rfl⟩ | ⟨-, rfl⟩
        · exact ⟨rfl, rfl⟩
        · exact ⟨rfl, rfl⟩
      rw [hsame.1, hsame.2]
      rcases hjobs job₁ hjob₁ with rfl | ⟨hjob₁, -⟩
      · exact h.creating job hjob haction r o howner₁ ho
      · exact h.creating job₁ hjob₁ haction₁ r o howner₁ ho
    · obtain ⟨o, ho, hcase⟩ := hrow r o' ho'
      have hsame : o'.startsAt = o.startsAt ∧ o'.endsAt = o.endsAt := by
        rcases hcase with ⟨-, rfl⟩ | ⟨-, rfl⟩
        · exact ⟨rfl, rfl⟩
        · exact ⟨rfl, rfl⟩
      rw [hsame.1, hsame.2]
      rcases hjobs job₁ hjob₁ with rfl | ⟨hjob₁, -⟩
      · exact h.timed job hjob haction hstage r o howner₁ ho
      · exact h.timed job₁ hjob₁ haction₁ hstage₁ r o howner₁ ho
    · exact h.load_assign hwf hjob howner haction hstage hstarts hends hselect host t

/-! ## The end of a job -/

theorem Service.HostsReserved.finish (hwf : sys.WellFormed) (h : sys.HostsReserved cfg)
    {job : Job H}
    (hjob : job ∈ sys.jobs)
    (hrow : ∀ ref o', (ref, o') ∈ db'.owners → ∃ o, (ref, o) ∈ sys.db.owners
      ∧ ((job.claim.owner ≠ some ref ∧ o' = o)
        ∨ (job.claim.owner = some ref ∧ o'.meetingProviderHostUser = none)))
    (hload : ∀ host t, db'.load host t ≤ sys.db.load host t) :
    (sys.finish job.worker db').HostsReserved cfg := by
  have hback : ∀ job' ∈ (sys.finish job.worker db').jobs, ∀ ref o',
      job'.claim.owner = some ref → (ref, o') ∈ db'.owners →
      job' ∈ sys.jobs ∧ (ref, o') ∈ sys.db.owners := by
    intro job' hjob' ref o' howner ho'
    obtain ⟨hmem, hother⟩ := hwf.other hjob hjob'
    obtain ⟨o, ho, ⟨-, rfl⟩ | ⟨howner', -⟩⟩ := hrow ref o' ho'
    · exact ⟨hmem, ho⟩
    · exact absurd howner' (hother ref howner)
  refine ⟨fun ref o' ho' user huser ↦ ?_, fun job' hjob' user huser ref o' howner ho' ↦ ?_,
    fun job' hjob' haction ref o' howner ho' ↦ ?_,
    fun job' hjob' haction hstage ref o' howner ho' ↦ ?_, fun host t ↦ ?_⟩
  · obtain ⟨o, ho, ⟨hne, rfl⟩ | ⟨-, hnone⟩⟩ := hrow ref o' ho'
    · obtain ⟨job', hjob', howner, hhost⟩ := h.reserved ref _ ho user huser
      refine ⟨job', List.mem_filter.2 ⟨hjob', decide_eq_true fun heq ↦ hne ?_⟩, howner, hhost⟩
      rwa [← eq_of_key_eq hwf.workers hjob' hjob heq]
    · simp [hnone] at huser
  · obtain ⟨hmem, ho⟩ := hback job' hjob' ref o' howner ho'
    exact h.assigned job' hmem user huser ref o' howner ho
  · obtain ⟨hmem, ho⟩ := hback job' hjob' ref o' howner ho'
    exact h.creating job' hmem haction ref o' howner ho
  · obtain ⟨hmem, ho⟩ := hback job' hjob' ref o' howner ho'
    exact h.timed job' hmem haction hstage ref o' howner ho
  · exact (Int.ofNat_le.2 (hload host t)).trans (h.capacity host t)

theorem load_le_of_trimmed {id : Option String} (hwf : db.WellFormed) (hwf' : db'.WellFormed)
    (htrim : MeetingsTrimmed id db.meetings db'.meetings)
    (howners : ∀ ref o', (ref, o') ∈ db'.owners → ∃ o, (ref, o) ∈ db.owners
      ∧ (o' = o ∨ (o'.meetingProviderHostUser = none
        ∧ o'.startsAt = o.startsAt ∧ o'.endsAt = o.endsAt))) :
    db'.load host t ≤ db.load host t := by
  refine load_mono hwf hwf' (fun m' hm' _ ref href o' ho' hat ↦ ?_) fun ref o' ho' htakes ↦ ?_
  · obtain ⟨m, hm, hid, howner, hprovider, hhost, -⟩ := htrim.mem hm'
    refine ⟨m, hm, hid.symm, howner ▸ href, hprovider, hhost, ?_⟩
    obtain ⟨o, ho, rfl | ⟨-, hstarts, hends⟩⟩ := howners ref o' ho'
    · exact ⟨_, ho, hat⟩
    · exact ⟨o, ho, (Owner.isAt_of_eq hstarts hends).1 hat⟩
  · obtain ⟨o, ho, rfl | ⟨hnone, -⟩⟩ := howners ref o' ho'
    · exact ⟨_, ho, htakes⟩
    · obtain ⟨-, ⟨user, huser, -⟩, -⟩ := Owner.takes_iff.1 htakes
      simp [hnone] at huser

section Completions

variable [DecidableEq H]

theorem Service.WellFormed.settle_row (hwf : sys.WellFormed) {job : Job H} (hjob : job ∈ sys.jobs)
    {current : Option H} {error : Option String} {ref : OwnerRef} {o' : Owner}
    (ho' : (ref, o') ∈ (job.settle current error sys.db).owners) : ∃ o, (ref, o) ∈ sys.db.owners
      ∧ ((job.claim.owner ≠ some ref ∧ o' = o)
        ∨ (job.claim.owner = some ref ∧ o'.meetingProviderHostUser = none
          ∧ o'.startsAt = o.startsAt ∧ o'.endsAt = o.endsAt)) := by
  obtain ⟨o, ho, rfl⟩ := mem_owners_settle.1 ho'
  refine ⟨o, ho, ?_⟩
  by_cases howner : job.claim.owner = some ref
  · rw [if_pos ⟨howner, hwf.held job hjob ref howner o ho⟩]
    exact .inr ⟨howner, rfl, rfl, rfl⟩
  · rw [if_neg fun hsel ↦ howner hsel.1]
    exact .inl ⟨howner, rfl⟩

theorem Service.HostsReserved.load_record (hwf : sys.WellFormed) (h : sys.HostsReserved cfg)
    {job : Job H} (hjob : job ∈ sys.jobs) {current : Option H} {ref : OwnerRef} {user : String}
    {meeting : ProviderMeeting} (hrecords : Records job current ref user meeting sys.db db')
    (hwf' : db'.WellFormed) : db'.load host t ≤ sys.db.load host t := by
  -- a recorded meeting takes the host that its reservation took
  obtain ⟨howner, haction, hstage, hheld, -, hafter⟩ := hrecords
  obtain ⟨o, hfind, hclaimed⟩ := hheld
  have ho : (ref, o) ∈ sys.db.owners := hwf.db.owner?_eq_some.1 hfind
  have howners : db'.owners = replaceRow Prod.fst
      (ref, o.complete current job.claim.syncStateHash none) sys.db.owners := by
    have hsettled : (job.settle current none sys.db).owners = replaceRow Prod.fst
        (ref, o.complete current job.claim.syncStateHash none) sys.db.owners := by
      rw [Job.settle, howner]
      exact hwf.db.owners_updateOwner_eq ho hclaimed
    rw [hafter]
    exact hsettled
  have hrow : ∀ r o', (r, o') ∈ db'.owners → ∃ o, (r, o) ∈ sys.db.owners
      ∧ o'.startsAt = o.startsAt ∧ o'.endsAt = o.endsAt := by
    intro r o' ho'
    rw [howners] at ho'
    rcases mem_replaceRow ho' with hrow | ⟨ho', -⟩
    · obtain ⟨rfl, rfl⟩ := Prod.mk.inj hrow
      exact ⟨o, ho, rfl, rfl⟩
    · exact ⟨o', ho', rfl, rfl⟩
  have hmeetings : db'.meetings = sys.db.meetings ++ [newMeeting sys.db.nextUuid ref
      (job.claim.provider.getD "zoom") (some user) meeting] := by
    rw [hafter]
  have hold : sys.db.meetings.countP (fun m ↦ m.Takes db' host t)
      ≤ sys.db.meetings.countP fun m ↦ m.Takes sys.db host t := by
    refine List.countP_mono_left fun m hm htakes ↦ ?_
    have hm' : m ∈ db'.meetings := hmeetings ▸ List.mem_append_left _ hm
    obtain ⟨hzoom, hhost, r, href, o', ho', hat⟩ :=
      (Meeting.takes_iff hwf' hm').1 (of_decide_eq_true htakes)
    obtain ⟨o₁, ho₁, hstarts, hends⟩ := hrow r o' ho'
    exact decide_eq_true ((Meeting.takes_iff hwf.db hm).2 ⟨hzoom, hhost, r, href, o₁, ho₁,
      (Owner.isAt_of_eq hstarts hends).1 hat⟩)
  -- the reservation is gone, and what it took is what the new meeting takes
  set new := newMeeting sys.db.nextUuid ref (job.claim.provider.getD "zoom") (some user) meeting
  have hnew : new.Takes db' host t → o.Takes host t := by
    intro htakes
    have hmem : new ∈ db'.meetings := by simp [hmeetings]
    obtain ⟨-, ⟨user', huser', hname⟩, r, href, o', ho', hat⟩ :=
      (Meeting.takes_iff hwf' hmem).1 htakes
    obtain rfl : ref = r := by simpa [new] using href
    obtain rfl : user = user' := Option.some.inj huser'
    obtain ⟨o₁, ho₁, hstarts, hends⟩ := hrow ref o' ho'
    obtain rfl := hwf.db.owner_unique ho ho₁
    have huser := h.assigned job hjob user (by simp [Job.hostUser, hstage]) ref o howner ho
    exact Owner.takes_iff.2 ⟨h.live hwf ho huser, ⟨user, huser, hname⟩,
      (Owner.isAt_of_eq hstarts hends).1 hat⟩
  have hcount := countP_replaceRow (fun row : OwnerRef × Owner ↦ decide (row.2.Takes host t))
    (fun row ↦ decide (row.2.Takes host t)) hwf.db.ownerKeys ho
    (show (ref, o).1 = (ref, o.complete current job.claim.syncStateHash none).1 from rfl)
    fun _ _ _ ↦ rfl
  have hcleared : ¬ (o.complete current job.claim.syncStateHash none).Takes host t := by
    rw [Owner.takes_iff]
    rintro ⟨-, ⟨user, huser, -⟩, -⟩
    simp [Owner.complete] at huser
  rw [← howners] at hcount
  simp only [hcleared, decide_false, Bool.false_eq_true, if_false] at hcount
  rw [load_eq, load_eq, hmeetings, List.countP_append]
  by_cases htakes : new.Takes db' host t
  · simp only [hnew htakes, decide_true, if_true] at hcount
    simp only [List.countP_singleton, htakes, decide_true, if_true]
    omega
  · simp only [List.countP_singleton, htakes, decide_false, Bool.false_eq_true, if_false]
    omega

theorem Service.HostsReserved.complete (hwf : sys.WellFormed) (h : sys.HostsReserved cfg)
    {job : Job H} (hjob : job ∈ sys.jobs) {completion : Completion} {current : Option H}
    (hcomplete : job.complete completion current sys.db = .ok db') :
    (sys.finish job.worker db').HostsReserved cfg := by
  have hwf' : db'.WellFormed := (hwf.complete hjob hcomplete).db
  rcases Job.complete_effect hwf.db hcomplete with ⟨error, meetings, rfl, htrim⟩ |
    ⟨ref, user, meeting, hrecords⟩
  · refine h.finish hwf hjob (fun ref o' ho' ↦ ?_) fun host t ↦ ?_
    · obtain ⟨o, ho, hsame | ⟨howner, hnone, -⟩⟩ := hwf.settle_row hjob ho'
      · exact ⟨o, ho, .inl hsame⟩
      · exact ⟨o, ho, .inr ⟨howner, hnone⟩⟩
    · refine load_le_of_trimmed hwf.db hwf' htrim fun ref o' ho' ↦ ?_
      obtain ⟨o, ho, ⟨-, hsame⟩ | ⟨-, hcleared⟩⟩ := hwf.settle_row hjob ho'
      · exact ⟨o, ho, .inl hsame⟩
      · exact ⟨o, ho, .inr hcleared⟩
  · refine h.finish hwf hjob (fun ref' o' ho' ↦ ?_) fun host t ↦
      h.load_record hwf hjob hrecords hwf'
    rw [hrecords.after] at ho'
    obtain ⟨o, ho, hsame | ⟨howner, hnone, -⟩⟩ := hwf.settle_row hjob ho'
    · exact ⟨o, ho, .inl hsame⟩
    · exact ⟨o, ho, .inr ⟨howner, hnone⟩⟩

end Completions

theorem Service.HostsReserved.release (hwf : sys.WellFormed) (h : sys.HostsReserved cfg)
    {job : Job H} (hjob : job ∈ sys.jobs) :
    (sys.finish job.worker (releaseMeetingSyncClaim job.claim sys.db)).HostsReserved cfg := by
  have hwf' : (releaseMeetingSyncClaim job.claim sys.db).WellFormed := (hwf.release hjob).db
  -- a reservation is live, so the release clears it
  have hrow : ∀ ref o', (ref, o') ∈ (releaseMeetingSyncClaim job.claim sys.db).owners →
      ∃ o, (ref, o) ∈ sys.db.owners ∧ ((job.claim.owner ≠ some ref ∧ o' = o)
        ∨ (job.claim.owner = some ref ∧ o'.meetingProviderHostUser = none
          ∧ o'.startsAt = o.startsAt ∧ o'.endsAt = o.endsAt)) := by
    intro ref o' ho'
    cases howner : job.claim.owner with
    | none =>
      rw [releaseMeetingSyncClaim, howner] at ho'
      exact ⟨o', ho', .inl ⟨by simp, rfl⟩⟩
    | some ref₁ =>
      rw [releaseMeetingSyncClaim, howner] at ho'
      obtain ⟨o, ho, rfl⟩ := mem_owners_updateOwner.1 ho'
      refine ⟨o, ho, ?_⟩
      by_cases href : ref = ref₁
      · refine .inr ⟨by rw [href], ?_⟩
        split
        · exact ⟨rfl, rfl, rfl⟩
        · next hkept =>
          refine ⟨?_, rfl, rfl⟩
          by_contra hhost
          obtain ⟨user, huser⟩ := Option.ne_none_iff_exists'.1 hhost
          refine hkept ⟨href, (h.live hwf ho huser).2.2, ?_⟩
          exact hwf.held job hjob ref (href ▸ howner) o ho
      · rw [if_neg fun hsel ↦ href hsel.1]
        exact .inl ⟨fun heq ↦ href (Option.some.inj heq).symm, rfl⟩
  refine h.finish hwf hjob (fun ref o' ho' ↦ ?_) fun host t ↦ ?_
  · obtain ⟨o, ho, hsame | ⟨howner, hnone, -⟩⟩ := hrow ref o' ho'
    · exact ⟨o, ho, .inl hsame⟩
    · exact ⟨o, ho, .inr ⟨howner, hnone⟩⟩
  · refine load_le_of_trimmed hwf.db hwf' (releaseMeetingSyncClaim_trimmed _) fun ref o' ho' ↦ ?_
    obtain ⟨o, ho, ⟨-, hsame⟩ | ⟨-, hcleared⟩⟩ := hrow ref o' ho'
    · exact ⟨o, ho, .inl hsame⟩
    · exact ⟨o, ho, .inr hcleared⟩

/-! ## The capacity in every run -/

section Runs

variable [DecidableEq H]

end Runs

/-! ### A sample history -/

end Ocg.Meetings
