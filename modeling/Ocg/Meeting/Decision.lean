import Ocg.Meeting.Effect

/-!
# The sync decision of an edit

An edit decides from a snapshot and a payload whether the provider meeting is still in sync. The
snapshot carries the provider under another key than the decision reads, so no snapshot compares
equal to a payload that the constraints accept; what remains is the early return for owners that had
started before the edit, whose new start nobody looks at.

So an accepted edit leaves an owner in sync exactly when the owner had started, whatever it changes.
-/

namespace Ocg.Meetings

open Relational

/-! ## The inputs of the provider meeting -/

/-- What the provider is told about a meeting. -/
structure MeetingInputs where
  name : String
  endsAt : Option Timestamp
  eventHosts : Multiset Uuid
  meetingHosts : Option (List String)
  meetingProviderId : Option String
  meetingRecordingRequested : Bool
  speakers : Multiset Uuid
  startsAt : Option Timestamp
  timezone : String
  deriving DecidableEq

def Event.meetingInputs (e : Event) : MeetingInputs where
  name := e.name
  endsAt := e.endsAt
  eventHosts := e.hosts
  meetingHosts := e.meetingHosts
  meetingProviderId := e.meetingProviderId
  meetingRecordingRequested := e.meetingRecordingRequested
  speakers := e.speakers
  startsAt := e.startsAt
  timezone := e.timezone

def Session.meetingInputs (s : Session) (e : Event) : MeetingInputs where
  name := s.name
  endsAt := s.endsAt
  eventHosts := e.hosts
  meetingHosts := s.meetingHosts
  meetingProviderId := s.meetingProviderId
  meetingRecordingRequested := e.meetingRecordingRequested
  speakers := s.speakers
  startsAt := s.startsAt
  timezone := e.timezone

/-- The meeting of the owner is requested and in sync. -/
def Owner.IsSynced (o : Owner) : Prop :=
  o.meetingRequested = some true ∧ o.meetingInSync = some true

instance Owner.decidableIsSynced (o : Owner) : Decidable o.IsSynced :=
  inferInstanceAs (Decidable (_ ∧ _))

/-- The owner starts after `now`. -/
def StartsAfter (now : Timestamp) (startsAt : Option Timestamp) : Prop :=
  ∃ t ∈ startsAt, now < t

/-- The owner has started, to the second of its snapshot. -/
def Owner.HasStarted (now : Timestamp) (o : Owner) : Prop :=
  ∃ t ∈ o.startsAt.map floorSecond, t ≤ now

instance (now : Timestamp) (startsAt : Option Timestamp) : Decidable (StartsAfter now startsAt) :=
  inferInstanceAs (Decidable (∃ t ∈ startsAt, _))

instance Owner.decidableHasStarted (now : Timestamp) (o : Owner) : Decidable (o.HasStarted now) :=
  inferInstanceAs (Decidable (∃ t ∈ _, _))

/-! ## Faithful decisions -/

/-- The decision about an event: what stays in sync and lies ahead is unchanged, and what is
unchanged stays in sync. -/
def Event.IsDecidedFaithfully (now : Timestamp) (e e' : Event) : Prop :=
  (e'.meetingInSync = some true → StartsAfter now e'.startsAt →
      e'.meetingInputs = e.meetingInputs)
    ∧ (e'.meetingInputs = e.meetingInputs → e'.meetingInSync = some true)

/-- The decision about a session. -/
def Session.IsDecidedFaithfully (now : Timestamp) (e e' : Event) (s s' : Session) : Prop :=
  s'.meetingInSync = some true → StartsAfter now s'.startsAt →
    s'.meetingInputs e' = s.meetingInputs e

/-- The payload gives every input of the event's meeting its stored value. -/
def EventPayload.Restates (p : EventPayload) (e : Event) : Prop :=
  (p.write e none).meetingInputs = e.meetingInputs

/-- The payload gives every input of the session's meeting its stored value. -/
def SessionPayload.Restates (p : SessionPayload) (payload : EventPayload) (e : Event)
    (s : Session) : Prop :=
  (p.write s none).meetingInputs (payload.write e none) = s.meetingInputs e

/-- The edits about which the decision is faithful: an event that has started gets no new start
ahead together with a change, and an event that has not started gets a change. -/
def EventPayload.IsDecidable (p : EventPayload) (now : Timestamp) (e : Event) : Prop :=
  if e.HasStarted now then StartsAfter now p.startsAt → p.Restates e else ¬ p.Restates e

instance EventPayload.decidableRestates (p : EventPayload) (e : Event) : Decidable (p.Restates e) :=
  inferInstanceAs (Decidable (_ = _))

instance EventPayload.decidableIsDecidable (p : EventPayload) (now : Timestamp) (e : Event) :
    Decidable (p.IsDecidable now e) :=
  inferInstanceAs (Decidable (ite _ _ _))

/-- A session that has started gets no new start ahead together with a change, unless it becomes an
in-person one. -/
def SessionPayload.IsDecidable (p : SessionPayload) (payload : EventPayload) (now : Timestamp)
    (e : Event) (s : Session) : Prop :=
  p.kind ≠ .inPerson → s.HasStarted now → StartsAfter now p.startsAt → p.Restates payload e s

/-! ## The decision -/

variable {now : Timestamp} {db db' : MeetingDatabase}

/-- What the decision answers for a synced owner whose meeting stays requested. -/
theorem isOwnerMeetingInSync_of_isSynced {o : Owner} {after : OwnerPayload} {forced same : Prop}
    [Decidable forced] [Decidable same] (ho : o.IsSynced)
    (hafter : after.meetingRequested = some true) :
    isOwnerMeetingInSync now (some o) after forced same
      = some (decide (¬ forced ∧ (o.HasStarted now ∨ same))) := by
  obtain ⟨hrequested, hsynced⟩ := ho
  have hstarted : (∃ t ∈ ((some o).bind (·.startsAt)).map floorSecond, t ≤ now)
      ↔ o.HasStarted now := Iff.rfl
  simp only [isOwnerMeetingInSync, hstarted]
  by_cases hforced : forced
  · simp [hafter, hrequested, hforced]
  · by_cases hpast : o.HasStarted now
    · simp [hafter, hrequested, hsynced, hforced, hpast]
    · simp [hafter, hrequested, hsynced, hforced, hpast]

/-- **A snapshot never compares equal** to a payload that the constraints accept. -/
theorem OwnerPayload.IsSameAs.provider {after : OwnerPayload} {before : Option Owner}
    (h : after.IsSameAs before) : after.meetingProviderId = none :=
  h.2.2.1.symm

theorem isEventMeetingInSync_of_isSynced (now : Timestamp) {e : Event} {p : EventPayload}
    (he : e.IsSynced) (hafter : p.meetingRequested = some true)
    (hprovider : p.meetingProviderId ≠ none) :
    editedInSync (some e.toOwner) p.toOwnerPayload (isEventMeetingInSync now e p)
      = some (decide (e.HasStarted now)) := by
  have hedited : editedInSync (some e.toOwner) p.toOwnerPayload (isEventMeetingInSync now e p)
      = isEventMeetingInSync now e p := by
    simp [editedInSync, he.2]
  rw [hedited, isEventMeetingInSync, isOwnerMeetingInSync_of_isSynced he hafter]
  have hdiffers : ¬ p.IsSameAs (some e.toOwner) := fun hsame ↦ hprovider hsame.provider
  simp [hdiffers]

theorem isSessionMeetingInSync_of_isSynced {s : Session} {p : SessionPayload} {e : Event}
    {payload : EventPayload} (hs : s.IsSynced) (hafter : p.meetingRequested = some true)
    (hprovider : p.meetingProviderId ≠ none) :
    editedInSync (some s.toOwner) p.toOwnerPayload
        (isSessionMeetingInSync now (some s) p (some e) payload)
      = some (decide (p.kind ≠ .inPerson ∧ s.HasStarted now)) := by
  have hedited : editedInSync (some s.toOwner) p.toOwnerPayload
      (isSessionMeetingInSync now (some s) p (some e) payload)
        = isSessionMeetingInSync now (some s) p (some e) payload := by
    simp [editedInSync, hs.2]
  rw [hedited, isSessionMeetingInSync, Option.map_some, isOwnerMeetingInSync_of_isSynced hs hafter]
  have hdiffers : ¬ p.IsSameAs (some s.toOwner) := fun hsame ↦ hprovider hsame.provider
  simp [hdiffers]

/-! ## The rows after an edit -/

section Rows

variable {rules : Rules} {eventId : Uuid} {payload : EventPayload}

theorem updateEvent_eq_ok (h : updateEvent rules now eventId payload db = .ok db') :
    ∃ before ∈ db.events, before.eventId = eventId
      ∧ checkEvent (payload.write before (editedInSync (some before.toOwner) payload.toOwnerPayload
        (isEventMeetingInSync now before payload))) = .ok ()
      ∧ syncEventSessions now eventId payload
        (some (before, db.sessions.filter fun s ↦ s.eventId = eventId))
        { db with events := replaceRow Event.eventId (payload.write before
          (editedInSync (some before.toOwner) payload.toOwnerPayload
            (isEventMeetingInSync now before payload))) db.events } = .ok db' := by
  rw [updateEvent] at h
  split at h
  · simp at h
  · next before hfind =>
    have hselected := List.find?_some hfind
    simp only [decide_eq_true_eq] at hselected
    simp only [bind_eq_ok] at h
    obtain ⟨_, -, _, -, ⟨⟩, hcheck, hsync⟩ := h
    exact ⟨before, List.mem_of_find?_eq_some hfind, hselected.1, hcheck, hsync⟩

theorem find?_snapshot (hwf : db.WellFormed) {s : Session} (hs : s ∈ db.sessions)
    (hevent : s.eventId = eventId) :
    (db.sessions.filter fun s ↦ s.eventId = eventId).find? (fun s' ↦ s'.sessionId = s.sessionId)
      = some s :=
  (find?_key_eq_some (nodup_keys_filter hwf.sessionKeys _)).2
    ⟨List.mem_filter.2 ⟨hs, decide_eq_true hevent⟩, rfl⟩

/-- What the entries of a payload have made of a stored session so far. -/
def Session.WrittenBy (now : Timestamp) (payload : EventPayload) (e : Event) (s s' : Session) :
    Option SessionPayload → Prop
  | none => s' = s
  | some p => s'.meetingInSync = editedInSync (some s.toOwner) p.toOwnerPayload
      (isSessionMeetingInSync now (some s) p (some e) payload)
    ∧ (∀ event, s'.meetingInputs event = (p.write s none).meetingInputs event)
    ∧ s'.startsAt = p.startsAt
    ∧ (p.meetingRequested = some true → p.meetingProviderId ≠ none)

theorem SessionPayload.meetingProviderId_ne_none {p : SessionPayload} {row : Session}
    {inSync : Option Bool} (hcheck : checkSession (p.write row inSync) db = .ok ())
    (hrequested : p.meetingRequested = some true) : p.meetingProviderId ≠ none := by
  intro hnone
  have hzoom := checkSession_provider hcheck hrequested
  simp [SessionPayload.write, Owner.edit, SessionPayload.columns, nullIfEmpty, hnone] at hzoom

/-- One entry: it rewrites its own session and no other. -/
theorem syncSession_writtenBy {before : Option (Event × List Session)} {e : Event} {s : Session}
    (hbefore : before.map Prod.fst = some e)
    (hsnapshot : (before.bind fun b ↦ b.2.find? fun s' ↦ s'.sessionId = s.sessionId) = some s)
    {done : List SessionPayload} {entry : SessionPayload} {st st' : List Uuid × MeetingDatabase}
    (hfresh : s.sessionId < st.2.nextUuid)
    (h : ∀ s' ∈ st.2.sessions, s'.sessionId = s.sessionId →
      s.WrittenBy now payload e s' (lastEntry done s.sessionId))
    (hstep : syncSession now eventId payload before st entry = .ok st') :
    s.sessionId < st'.2.nextUuid ∧ ∀ s' ∈ st'.2.sessions, s'.sessionId = s.sessionId →
      s.WrittenBy now payload e s' (lastEntry (done ++ [entry]) s.sessionId) := by
  obtain ⟨processed, t⟩ := st
  rw [syncSession] at hstep
  rw [lastEntry_append]
  cases hentry : entry.sessionId with
  | none =>
    simp only [hentry, bind_eq_ok, Except.ok.injEq] at hstep
    obtain ⟨⟨⟩, hcheck, rfl⟩ := hstep
    refine ⟨hfresh.trans (Nat.lt_succ_self _), fun s' hs' hid ↦ ?_⟩
    rw [if_neg (by simp)]
    rcases List.mem_append.1 hs' with hs' | hs'
    · exact h s' hs' hid
    · rw [List.mem_singleton.1 hs'] at hid
      exact absurd hid hfresh.ne'
  | some id =>
    simp only [hentry] at hstep
    split at hstep
    · simp at hstep
    · next row hfind =>
      have hselected := List.find?_some hfind
      simp only [decide_eq_true_eq] at hselected
      obtain ⟨rfl, -⟩ := hselected
      simp only [bind_eq_ok, Except.ok.injEq] at hstep
      obtain ⟨⟨⟩, hcheck, rfl⟩ := hstep
      refine ⟨hfresh, fun s' hs' hid ↦ ?_⟩
      rcases mem_replaceRow hs' with rfl | ⟨hs', hne⟩
      · have hrow : row.sessionId = s.sessionId := hid
        rw [if_pos (congrArg some hrow)]
        refine ⟨?_, fun _ ↦ rfl, rfl, entry.meetingProviderId_ne_none hcheck⟩
        rw [hrow, hsnapshot, hbefore]
        rfl
      · have hother : ¬ some row.sessionId = some s.sessionId := fun hsame ↦
          hne (hid.trans (Option.some.inj hsame).symm)
        rw [if_neg hother]
        exact h s' hs' hid

theorem updateEvent_event (hwf : db.WellFormed)
    (h : updateEvent rules now eventId payload db = .ok db') {e e' : Event}
    (he : e ∈ db.events) (he_id : e.eventId = eventId) (he' : e' ∈ db'.events)
    (he'_id : e'.eventId = eventId) :
    e' = payload.write e (editedInSync (some e.toOwner) payload.toOwnerPayload
        (isEventMeetingInSync now e payload))
      ∧ (payload.meetingRequested = some true → payload.meetingProviderId ≠ none)
      ∧ ∀ s ∈ db.sessions, s.eventId = eventId → ∀ s' ∈ db'.sessions,
        s'.sessionId = s.sessionId →
          s.WrittenBy now payload e s' (lastEntry (payload.sessions.getD []) s.sessionId) := by
  obtain ⟨before, hbefore, hbefore_id, hcheck, hsync⟩ := updateEvent_eq_ok h
  obtain rfl := eq_of_key_eq hwf.eventKeys he hbefore (he_id.trans hbefore_id.symm)
  set new := payload.write e (editedInSync (some e.toOwner) payload.toOwnerPayload
    (isEventMeetingInSync now e payload))
  have hids : (replaceRow Event.eventId new db.events).map Event.eventId
      = db.events.map Event.eventId := map_key_replaceRow _ _
  obtain ⟨-, hevents, -⟩ := syncEventSessions_eq_ok (hwf.replaceEvent (checkEvent_provider hcheck))
    (hids ▸ he_id ▸ List.mem_map_of_mem he) (fun s hs ↦ find?_snapshot hwf hs) hsync
  rw [syncEventSessions] at hsync
  simp only [bind_eq_ok, Except.ok.injEq] at hsync
  obtain ⟨⟨processed, t⟩, hloop, rfl⟩ := hsync
  refine ⟨?_, ?_, ?_⟩
  · rw [hevents] at he'
    rcases mem_replaceRow he' with rfl | ⟨-, hne⟩
    · rfl
    · exact absurd (he'_id.trans he_id.symm) hne
  · intro hrequested
    have hzoom : payload.meetingProviderId = some "zoom" := checkEvent_provider hcheck hrequested
    rw [hzoom]
    simp
  · intro s hs hevent s' hs' hid
    have hinvariant := foldlM_prefix (P := fun done st ↦ s.sessionId < st.2.nextUuid
      ∧ ∀ s' ∈ st.2.sessions, s'.sessionId = s.sessionId →
        s.WrittenBy now payload e s' (lastEntry done s.sessionId)) ?_ ?_ hloop
    · exact hinvariant.2 s' (List.mem_filter.1 hs').1 hid
    · rintro done entry st st' ⟨hfresh, hwritten⟩ hstep
      refine syncSession_writtenBy (e := e) rfl ?_ hfresh hwritten hstep
      exact find?_snapshot hwf hs hevent
    · refine ⟨hwf.sessionIssued _ (List.mem_map_of_mem hs), fun s' hs' hid ↦ ?_⟩
      exact eq_of_key_eq hwf.sessionKeys hs' hs hid

/-! ## When the decision is faithful -/

theorem EventPayload.restates_iff {p : EventPayload} {e : Event} {inSync : Option Bool} :
    (p.write e inSync).meetingInputs = e.meetingInputs ↔ p.Restates e := Iff.rfl

/-- **The decision about an event** is faithful for exactly these edits. -/
theorem updateEvent_decides_event (hwf : db.WellFormed)
    (h : updateEvent rules now eventId payload db = .ok db') {e e' : Event}
    (he : e ∈ db.events) (he_id : e.eventId = eventId) (he' : e' ∈ db'.events)
    (he'_id : e'.eventId = eventId) (hsynced : e.IsSynced)
    (hrequested : payload.meetingRequested = some true) :
    e.IsDecidedFaithfully now e' ↔ payload.IsDecidable now e := by
  obtain ⟨hwritten, hprovider, -⟩ := updateEvent_event hwf h he he_id he' he'_id
  have hflag := isEventMeetingInSync_of_isSynced now hsynced hrequested
    (hprovider hrequested)
  have hinSync : e'.meetingInSync = some (decide (e.HasStarted now)) := by
    rw [hwritten]
    exact hflag
  have hstarts : e'.startsAt = payload.startsAt := by rw [hwritten]; rfl
  have hinputs : e'.meetingInputs = e.meetingInputs ↔ payload.Restates e := by
    rw [hwritten]
    exact EventPayload.restates_iff
  rw [Event.IsDecidedFaithfully, EventPayload.IsDecidable, hinSync, hstarts, hinputs]
  by_cases hpast : e.HasStarted now
  · simp [hpast]
  · simp [hpast]

/-- **The decision about a session** is faithful for exactly these edits. -/
theorem updateEvent_decides_session (hwf : db.WellFormed)
    (h : updateEvent rules now eventId payload db = .ok db') {e e' : Event}
    (he : e ∈ db.events) (he_id : e.eventId = eventId) (he' : e' ∈ db'.events)
    (he'_id : e'.eventId = eventId) {s s' : Session} (hs : s ∈ db.sessions)
    (hs_event : s.eventId = eventId) (hs' : s' ∈ db'.sessions) (hs'_id : s'.sessionId = s.sessionId)
    (hsynced : s.IsSynced) {p : SessionPayload}
    (hp : lastEntry (payload.sessions.getD []) s.sessionId = some p)
    (hrequested : p.meetingRequested = some true) :
    s.IsDecidedFaithfully now e e' s' ↔ p.IsDecidable payload now e s := by
  obtain ⟨hwritten, -, hsessions⟩ := updateEvent_event hwf h he he_id he' he'_id
  have hrow := hsessions s hs hs_event s' hs' hs'_id
  rw [hp] at hrow
  obtain ⟨hflag, hinputs, hstarts, hprovider⟩ := hrow
  rw [isSessionMeetingInSync_of_isSynced hsynced hrequested (hprovider hrequested)] at hflag
  have hsame : s'.meetingInputs e' = s.meetingInputs e ↔ p.Restates payload e s := by
    rw [hinputs, hwritten]
    exact Iff.rfl
  rw [Session.IsDecidedFaithfully, SessionPayload.IsDecidable, hflag, hstarts, hsame]
  simp

/-- **When the sync decision is faithful.** For every accepted edit, and every synced event and
session whose meeting stays requested. -/
theorem meeting_decision_faithful_iff (hwf : db.WellFormed)
    (h : updateEvent rules now eventId payload db = .ok db') :
    ∀ e ∈ db.events, e.eventId = eventId → ∀ e' ∈ db'.events, e'.eventId = eventId →
      (e.IsSynced → payload.meetingRequested = some true →
        (e.IsDecidedFaithfully now e' ↔ payload.IsDecidable now e))
      ∧ ∀ s ∈ db.sessions, s.eventId = eventId → s.IsSynced → ∀ s' ∈ db'.sessions,
        s'.sessionId = s.sessionId → ∀ p,
          lastEntry (payload.sessions.getD []) s.sessionId = some p →
            p.meetingRequested = some true →
              (s.IsDecidedFaithfully now e e' s' ↔ p.IsDecidable payload now e s) := by
  intro e he he_id e' he' he'_id
  refine ⟨fun hsynced hrequested ↦ ?_, fun s hs hs_event hsynced s' hs' hs'_id p hp hrequested ↦ ?_⟩
  · exact updateEvent_decides_event hwf h he he_id he' he'_id hsynced hrequested
  · exact updateEvent_decides_session hwf h he he_id he' he'_id hs hs_event hs' hs'_id hsynced hp
      hrequested

end Rows

/-! ### A sample event

One synced event from hour 10 to hour 20. -/

def sampleSyncedEvent : Event :=
  (sampleEventPayload (samplePayload (hours 10) (hours 20) (some true)) []).write
    ⟨.blank, 1, false, false, .virtual, [], true, true, [], ""⟩ (some true)

def sampleSyncedDatabase : MeetingDatabase := ⟨[sampleSyncedEvent], [], [], 2⟩

theorem sampleSyncedDatabase_wellFormed : sampleSyncedDatabase.WellFormed := by
  constructor <;> decide

/-- An edit under way that leaves the event as it is. -/
theorem meeting_decision_faithful_iff_sample :
    ∃ db' : MeetingDatabase, ∃ e' ∈ db'.events,
      sampleSyncedEvent.IsDecidedFaithfully (hours 11) e' := by
  have hedit : Ensures (updateEvent sampleRules (hours 11) 1
      (sampleEventPayload (samplePayload (hours 10) (hours 20) (some true)) [])
      sampleSyncedDatabase) (fun db' ↦ ∃ e' ∈ db'.events, e'.eventId = 1) (fun _ ↦ False) := by
    decide +kernel
  obtain ⟨db', hdb', e', he', he'_id⟩ := hedit.exists_ok
  have hiff := (meeting_decision_faithful_iff sampleSyncedDatabase_wellFormed hdb' sampleSyncedEvent
    (by decide) rfl e' he' he'_id).1 (by decide) rfl
  exact ⟨db', e', he', hiff.2 (by decide)⟩

/-- At hour 11 the event under way is moved to hour 15 and stays in sync; at hour 5 an edit that
repeats every stored value forces an update. -/
theorem not_meeting_decision_faithful :
    (¬ ∀ (rules : Rules) (now : Timestamp) (payload : EventPayload) (db db' : MeetingDatabase)
      (e e' : Event), db.WellFormed → updateEvent rules now e.eventId payload db = .ok db' →
        e ∈ db.events → e' ∈ db'.events → e'.eventId = e.eventId → e.IsSynced →
          payload.meetingRequested = some true → e'.meetingInSync = some true →
            StartsAfter now e'.startsAt → e'.meetingInputs = e.meetingInputs)
      ∧ ¬ ∀ (rules : Rules) (now : Timestamp) (payload : EventPayload) (db db' : MeetingDatabase)
        (e e' : Event), db.WellFormed → updateEvent rules now e.eventId payload db = .ok db' →
          e ∈ db.events → e' ∈ db'.events → e'.eventId = e.eventId → e.IsSynced →
            payload.meetingRequested = some true → payload.Restates e →
              e'.meetingInSync = some true := by
  constructor
  · intro hclaim
    have hedit : Ensures (updateEvent sampleRules (hours 11) 1
        (sampleEventPayload (samplePayload (hours 15) (hours 20) (some true)) [])
        sampleSyncedDatabase) (fun db' ↦ ∃ e' ∈ db'.events, e'.eventId = 1
          ∧ e'.meetingInSync = some true ∧ StartsAfter (hours 11) e'.startsAt
          ∧ e'.meetingInputs ≠ sampleSyncedEvent.meetingInputs) (fun _ ↦ False) := by
      decide +kernel
    obtain ⟨db', hdb', e', he', he'_id, hsynced, hahead, hchanged⟩ := hedit.exists_ok
    exact hchanged (hclaim _ _ _ _ _ sampleSyncedEvent e' sampleSyncedDatabase_wellFormed hdb'
      (by decide) he' he'_id (by decide) rfl hsynced hahead)
  · intro hclaim
    have hedit : Ensures (updateEvent sampleRules (hours 5) 1
        (sampleEventPayload (samplePayload (hours 10) (hours 20) (some true)) [])
        sampleSyncedDatabase) (fun db' ↦ ∃ e' ∈ db'.events, e'.eventId = 1
          ∧ e'.meetingInSync = some false) (fun _ ↦ False) := by
      decide +kernel
    obtain ⟨db', hdb', e', he', he'_id, hpending⟩ := hedit.exists_ok
    have hsynced := hclaim _ _ _ _ _ sampleSyncedEvent e' sampleSyncedDatabase_wellFormed hdb'
      (by decide) he' he'_id (by decide) rfl (by decide)
    simp [hpending] at hsynced

end Ocg.Meetings
