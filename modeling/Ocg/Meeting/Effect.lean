import Ocg.Meeting.Owners

/-!
# What an edit does to the owners of meetings

An organizer operation either switches a publication flag of one event, and then marks the event and
its sessions as out of sync, or it writes a payload. A payload changes an existing row by the last
entry it has for it, adds new rows, and removes the sessions of its event that it does not list; no
operation touches the claim or the reserved host of a row that stays.
-/

namespace Ocg.Meetings

open Relational

variable {db db' : MeetingDatabase}

/-! ## One row -/

/-- What an edit makes of the sync flag of the row `o`, by what it requests. -/
structure FlagAfter (o : Owner) (requested flag : Option Bool) : Prop where
  pending : o.meetingInSync = some false → requested ≠ some false → flag = some false
  withdrawn : o.meetingRequested = some true → requested ≠ some true → flag = some false
  repeated : o.meetingRequested ≠ some true → requested = some false → flag = none

theorem editedInSync_flagAfter {now : Timestamp} {o : Owner} {p : OwnerPayload} {forced same : Prop}
    [Decidable forced] [Decidable same] :
    FlagAfter o p.meetingRequested
      (editedInSync (some o) p (isOwnerMeetingInSync now (some o) p forced same)) := by
  refine ⟨fun hpending hrequested ↦ ?_, fun hbefore hafter ↦ ?_, fun hbefore hafter ↦ ?_⟩
  · exact if_pos ⟨hpending, hrequested⟩
  · unfold editedInSync
    split
    · rfl
    · simp [isOwnerMeetingInSync, hbefore, hafter]
  · have hfalse : o.meetingRequested.getD false ≠ true := by
      cases hr : o.meetingRequested with
      | none => simp
      | some b => simpa [hr] using hbefore
    unfold editedInSync
    rw [if_neg fun h ↦ h.2 hafter]
    simp [isOwnerMeetingInSync, hfalse, hafter]

theorem isEventMeetingInSync_flagAfter {now : Timestamp} {e : Event} {p : EventPayload} :
    FlagAfter e.toOwner p.meetingRequested
      (editedInSync (some e.toOwner) p.toOwnerPayload (isEventMeetingInSync now e p)) := by
  unfold isEventMeetingInSync
  exact editedInSync_flagAfter

theorem isSessionMeetingInSync_flagAfter {now : Timestamp} {s : Session} {p : SessionPayload}
    {eventBefore : Option Event} {eventAfter : EventPayload} :
    FlagAfter s.toOwner p.meetingRequested
      (editedInSync ((some s).map Session.toOwner) p.toOwnerPayload
        (isSessionMeetingInSync now (some s) p eventBefore eventAfter)) := by
  unfold isSessionMeetingInSync
  exact editedInSync_flagAfter

/-- What an edit writes to an existing row, given the payload it has for it. -/
def OwnerEdited (p : Option OwnerPayload) (o o' : Owner) : Prop :=
  match p with
  | none => o' = o
  | some p => ∃ flag, o' = o.edit p flag ∧ FlagAfter o p.meetingRequested flag

theorem OwnerEdited.claim {p : Option OwnerPayload} {o o' : Owner} (h : OwnerEdited p o o') :
    o'.meetingSyncClaimedAt = o.meetingSyncClaimedAt
      ∧ o'.meetingProviderHostUser = o.meetingProviderHostUser := by
  cases p with
  | none =>
    obtain rfl : o' = o := h
    exact ⟨rfl, rfl⟩
  | some p =>
    obtain ⟨flag, rfl, -⟩ := h
    exact ⟨rfl, rfl⟩

/-- The columns of a second payload replace those of the first. -/
theorem OwnerEdited.overwrite {p : Option OwnerPayload} {q : OwnerPayload} {o row : Owner}
    {flag : Option Bool} (h : OwnerEdited p o row) (hflag : FlagAfter o q.meetingRequested flag) :
    OwnerEdited (some q) o (row.edit q flag) := by
  cases p with
  | none =>
    obtain rfl : row = o := h
    exact ⟨flag, rfl, hflag⟩
  | some p =>
    obtain ⟨flag', rfl, -⟩ := h
    exact ⟨flag, rfl, hflag⟩

/-- A row without a claim. -/
structure Owner.IsNew (o : Owner) : Prop where
  unclaimed : o.meetingSyncClaimedAt = none
  noHost : o.meetingProviderHostUser = none

theorem checkOwner_provider {o : Owner} {u : Unit} (h : checkOwner o = .ok u)
    (hrequested : o.meetingRequested = some true) : o.meetingProviderId = some "zoom" := by
  unfold checkOwner at h
  simp only [bind_eq_ok, require_eq_ok] at h
  obtain ⟨-, -, -, -, -, hprovider, -, -, hzoom⟩ := h
  exact hzoom.resolve_left fun hnone ↦ hprovider ⟨hrequested, hnone⟩

theorem checkSession_provider {s : Session} {u : Unit} (h : checkSession s db = .ok u)
    (hrequested : s.meetingRequested = some true) : s.meetingProviderId = some "zoom" := by
  unfold checkSession at h
  simp only [bind_eq_ok, require_eq_ok] at h
  obtain ⟨-, -, -, -, -, -, h⟩ := h
  exact checkOwner_provider h hrequested

theorem checkEvent_provider {e : Event} {u : Unit} (h : checkEvent e = .ok u)
    (hrequested : e.meetingRequested = some true) : e.meetingProviderId = some "zoom" := by
  unfold checkEvent at h
  simp only [bind_eq_ok] at h
  obtain ⟨_, h, -⟩ := h
  exact checkOwner_provider h hrequested

/-! ## The sessions of a payload -/

/-- The entry that the payload's sessions end with for a session. -/
def lastEntry (entries : List SessionPayload) (id : Uuid) : Option SessionPayload :=
  entries.reverse.find? fun entry ↦ entry.sessionId = some id

@[simp] theorem lastEntry_nil (id : Uuid) : lastEntry [] id = none := rfl

theorem lastEntry_append (entries : List SessionPayload) (entry : SessionPayload) (id : Uuid) :
    lastEntry (entries ++ [entry]) id
      = if entry.sessionId = some id then some entry else lastEntry entries id := by
  unfold lastEntry
  rw [List.reverse_append]
  by_cases hid : entry.sessionId = some id
  · simp [hid]
  · simp [hid]

/-- The loop of `sync_event_sessions` after the entries `done`. -/
structure SessionLoop (eventId : Uuid) (db : MeetingDatabase) (done : List SessionPayload)
    (st : List Uuid × MeetingDatabase) : Prop where
  events : st.2.events = db.events
  meetings : st.2.meetings = db.meetings
  nextUuid : db.nextUuid ≤ st.2.nextUuid
  wellFormed : st.2.WellFormed
  rows : ∀ s' ∈ st.2.sessions, (∃ s ∈ db.sessions, s'.sessionId = s.sessionId
      ∧ s'.eventId = s.eventId
      ∧ OwnerEdited ((lastEntry done s.sessionId).map SessionPayload.columns) s.toOwner s'.toOwner)
    ∨ (db.nextUuid ≤ s'.sessionId ∧ s'.toOwner.IsNew)
  kept : ∀ id ∈ db.sessions.map Session.sessionId, id ∈ st.2.sessions.map Session.sessionId
  processed : ∀ s ∈ db.sessions, s.sessionId ∈ st.1 ↔ lastEntry done s.sessionId ≠ none
  owned : ∀ s ∈ db.sessions, lastEntry done s.sessionId ≠ none → s.eventId = eventId

theorem MeetingDatabase.WellFormed.replaceSession (h : db.WellFormed) {row new : Session}
    (hrow : row ∈ db.sessions) (hid : new.sessionId = row.sessionId)
    (hevent : new.eventId = row.eventId)
    (hprovider : new.meetingRequested = some true → new.meetingProviderId = some "zoom") :
    ({ db with sessions := replaceRow Session.sessionId new db.sessions } :
      MeetingDatabase).WellFormed := by
  refine h.of_keys rfl (map_key_replaceRow _ _) (map_replaceRow_eq _ fun s hs hkey ↦ ?_) rfl rfl ?_
  · rw [eq_of_key_eq h.sessionKeys hs hrow (hkey.trans hid), hevent]
  · rintro r hr hrequested
    rcases mem_owners.1 hr with ⟨e, he, rfl⟩ | ⟨s, hs, rfl⟩
    · exact h.provider _ (Event.mem_owners he) hrequested
    · rcases mem_replaceRow hs with rfl | ⟨hs, -⟩
      · exact hprovider hrequested
      · exact h.provider _ (Session.mem_owners hs) hrequested

theorem MeetingDatabase.WellFormed.addSession (h : db.WellFormed) {new : Session}
    (hid : new.sessionId = db.nextUuid) (hevent : new.eventId ∈ db.events.map Event.eventId)
    (hprovider : new.meetingRequested = some true → new.meetingProviderId = some "zoom") :
    ({ db with
      sessions := db.sessions ++ [new]
      nextUuid := db.nextUuid + 1 } : MeetingDatabase).WellFormed := by
  have hnew : ∀ s ∈ db.sessions, s.sessionId ≠ new.sessionId := fun s hs heq ↦
    (h.sessionIssued _ (List.mem_map_of_mem hs)).ne (heq.trans hid)
  refine { h with
    sessionKeys := nodup_keys_append h.sessionKeys hnew
    eventIssued := fun id hmem ↦ (h.eventIssued id hmem).trans (Nat.lt_succ_self _)
    sessionIssued := fun id hmem ↦ ?_
    meetingIssued := fun id hmem ↦ (h.meetingIssued id hmem).trans (Nat.lt_succ_self _)
    sessionEvent := fun id hmem ↦ ?_
    meetingSession := fun m hm id hmem ↦ ?_
    provider := fun row hrow hrequested ↦ ?_ }
  · rw [List.map_append, List.mem_append] at hmem
    rcases hmem with hmem | hmem
    · exact (h.sessionIssued id hmem).trans (Nat.lt_succ_self _)
    · rw [List.mem_singleton.1 hmem, hid]
      exact Nat.lt_succ_self _
  · rw [List.map_append, List.mem_append] at hmem
    rcases hmem with hmem | hmem
    · exact h.sessionEvent id hmem
    · exact List.mem_singleton.1 hmem ▸ hevent
  · rw [List.map_append]
    exact List.mem_append_left _ (h.meetingSession m hm id hmem)
  · rcases mem_owners.1 hrow with ⟨e, he, rfl⟩ | ⟨s, hs, rfl⟩
    · exact h.provider _ (Event.mem_owners he) hrequested
    · rcases List.mem_append.1 hs with hs | hs
      · exact h.provider _ (Session.mem_owners hs) hrequested
      · rw [List.mem_singleton.1 hs] at hrequested ⊢
        exact hprovider hrequested

section Loop

variable {now : Timestamp} {eventId : Uuid} {payload : EventPayload}
  {before : Option (Event × List Session)} {done : List SessionPayload} {entry : SessionPayload}
  {st st' : List Uuid × MeetingDatabase}

theorem SessionLoop.update (hwf : db.WellFormed)
    (hbefore : ∀ s ∈ db.sessions, s.eventId = eventId →
      (before.bind fun b ↦ b.2.find? fun s' ↦ s'.sessionId = s.sessionId) = some s)
    (h : SessionLoop eventId db done st) {id : Uuid} (hentry : entry.sessionId = some id)
    (hstep : syncSession now eventId payload before st entry = .ok st') :
    SessionLoop eventId db (done ++ [entry]) st' := by
  obtain ⟨processed, t⟩ := st
  unfold syncSession at hstep
  simp only [hentry] at hstep
  split at hstep
  · simp at hstep
  next row hfind =>
  have hrow := List.mem_of_find?_eq_some hfind
  have hselected := List.find?_some hfind
  simp only [decide_eq_true_eq] at hselected
  obtain ⟨rfl, hevent⟩ := hselected
  simp only [bind_eq_ok, Except.ok.injEq] at hstep
  obtain ⟨_, hcheck, rfl⟩ := hstep
  have hother : ∀ s : Session, s.sessionId ≠ row.sessionId →
      lastEntry (done ++ [entry]) s.sessionId = lastEntry done s.sessionId := fun s hne ↦ by
    rw [lastEntry_append, if_neg fun heq ↦ hne (Option.some.inj (hentry.symm.trans heq)).symm]
  have hlast : ∀ s : Session, s.sessionId = row.sessionId →
      lastEntry (done ++ [entry]) s.sessionId = some entry := fun s heq ↦ by
    rw [lastEntry_append, heq, if_pos hentry]
  refine ⟨h.events, h.meetings, h.nextUuid,
    h.wellFormed.replaceSession hrow rfl rfl (checkSession_provider hcheck), fun s' hs' ↦ ?_,
    fun id hid ↦ ?_, fun s hs ↦ ?_, fun s hs hsome ↦ ?_⟩
  · rcases mem_replaceRow hs' with rfl | ⟨hs', hne⟩
    · rcases h.rows row hrow with ⟨s, hs, hid, hsame, hedited⟩ | ⟨hfresh, hnew⟩
      · refine .inl ⟨s, hs, hid, hsame, ?_⟩
        rw [hlast s hid.symm, hid, hbefore s hs (hsame ▸ hevent)]
        exact hedited.overwrite isSessionMeetingInSync_flagAfter
      · exact .inr ⟨hfresh, hnew.unclaimed, hnew.noHost⟩
    · rcases h.rows s' hs' with ⟨s, hs, hid, hsame, hedited⟩ | hnew
      · refine .inl ⟨s, hs, hid, hsame, ?_⟩
        rw [hother s (hid ▸ hne)]
        exact hedited
      · exact .inr hnew
  · rw [map_key_replaceRow]
    exact h.kept id hid
  · rw [List.mem_append, List.mem_singleton]
    by_cases hid : s.sessionId = row.sessionId
    · rw [hlast s hid]
      simp [hid]
    · rw [hother s hid, ← h.processed s hs]
      simp [hid]
  · by_cases hid : s.sessionId = row.sessionId
    · rcases h.rows row hrow with ⟨s₀, hs₀, hid₀, hsame, -⟩ | ⟨hfresh, -⟩
      · rw [eq_of_key_eq hwf.sessionKeys hs hs₀ (hid.trans hid₀), ← hsame, hevent]
      · exact absurd (hid ▸ hwf.sessionIssued _ (List.mem_map_of_mem hs)) (not_lt.2 hfresh)
    · exact h.owned s hs (hother s hid ▸ hsome)

theorem SessionLoop.insert (hwf : db.WellFormed) (hevent : eventId ∈ db.events.map Event.eventId)
    (h : SessionLoop eventId db done st) (hentry : entry.sessionId = none)
    (hstep : syncSession now eventId payload before st entry = .ok st') :
    SessionLoop eventId db (done ++ [entry]) st' := by
  obtain ⟨processed, t⟩ := st
  unfold syncSession at hstep
  simp only [hentry, bind_eq_ok, Except.ok.injEq] at hstep
  obtain ⟨_, hcheck, rfl⟩ := hstep
  have hlast : ∀ id, lastEntry (done ++ [entry]) id = lastEntry done id := fun id ↦ by
    rw [lastEntry_append, hentry, if_neg (by simp)]
  refine ⟨h.events, h.meetings, h.nextUuid.trans (Nat.le_succ _),
    h.wellFormed.addSession rfl (h.events.symm ▸ hevent) (checkSession_provider hcheck),
    fun s' hs' ↦ ?_, fun id hid ↦ ?_, fun s hs ↦ ?_,
      fun s hs hsome ↦ h.owned s hs (hlast _ ▸ hsome)⟩
  · rcases List.mem_append.1 hs' with hs' | hs'
    · simpa only [hlast] using h.rows s' hs'
    · rw [List.mem_singleton.1 hs']
      exact .inr ⟨h.nextUuid, rfl, rfl⟩
  · rw [List.map_append]
    exact List.mem_append_left _ (h.kept id hid)
  · have hne : s.sessionId ≠ t.nextUuid :=
      ((hwf.sessionIssued _ (List.mem_map_of_mem hs)).trans_le h.nextUuid).ne
    rw [hlast, ← h.processed s hs, List.mem_append, List.mem_singleton]
    simp [hne]

theorem foldlM_syncSession (hwf : db.WellFormed) (hevent : eventId ∈ db.events.map Event.eventId)
    (hbefore : ∀ s ∈ db.sessions, s.eventId = eventId →
      (before.bind fun b ↦ b.2.find? fun s' ↦ s'.sessionId = s.sessionId) = some s)
    {entries : List SessionPayload}
    (h : entries.foldlM (syncSession now eventId payload before) ([], db) = .ok st') :
    SessionLoop eventId db entries st' := by
  refine foldlM_prefix (P := SessionLoop eventId db) (fun done entry t t' ht hstep ↦ ?_)
    ⟨rfl, rfl, le_rfl, hwf, fun s hs ↦ .inl ⟨s, hs, rfl, rfl, rfl⟩, fun _ hid ↦ hid, by simp,
      by simp⟩ h
  cases hentry : entry.sessionId with
  | none => exact ht.insert hwf hevent hentry hstep
  | some id => exact ht.update hwf hbefore hentry hstep

end Loop

/-! ## A payload -/

/-- The payload that an edit has for an existing owner. -/
def Edit.payloadOf : Edit → OwnerRef → Option OwnerPayload
  | .updateEvent id payload, .event id' => if id' = id then some payload.toOwnerPayload else none
  | .updateEvent _ payload, .session id =>
    (lastEntry (payload.sessions.getD []) id).map SessionPayload.columns
  | _, _ => none

/-- The session is one that the edit does not list. -/
def Edit.Removes : Edit → Session → Prop
  | .updateEvent id payload, s =>
    s.eventId = id ∧ lastEntry (payload.sessions.getD []) s.sessionId = none
  | _, _ => False

instance Edit.decidableRemoves (edit : Edit) (s : Session) : Decidable (edit.Removes s) :=
  match edit with
  | .updateEvent .. => inferInstanceAs (Decidable (_ ∧ _))
  | .addEvent .. | .publishEvent .. | .unpublishEvent .. | .cancelEvent .. | .deleteEvent .. =>
    .isFalse id

/-- The meeting of a session that is gone becomes an orphan. -/
def Meeting.orphan (m : Meeting) : Meeting := { m with sessionId := none }

theorem Meeting.orphan_owner? {m : Meeting} {ref : OwnerRef} (h : ref ∈ m.orphan.owner?) :
    ref ∈ m.owner? := by
  have href : m.eventId.map OwnerRef.event = some ref := by
    simpa [Meeting.owner?, Meeting.orphan] using h
  simp [Meeting.owner?, href]

/-- What an edit that writes a payload does. -/
structure PayloadEffect (edit : Edit) (db db' : MeetingDatabase) : Prop where
  wellFormed : db'.WellFormed
  nextUuid : db.nextUuid ≤ db'.nextUuid
  events : ∀ e' ∈ db'.events, (∃ e ∈ db.events, e'.eventId = e.eventId
      ∧ (e'.canceled = e.canceled ∧ e'.deleted = e.deleted ∧ e'.published = e.published)
      ∧ OwnerEdited (edit.payloadOf (.event e.eventId)) e.toOwner e'.toOwner)
    ∨ (db.nextUuid ≤ e'.eventId ∧ e'.toOwner.IsNew)
  eventsKept : ∀ id ∈ db.events.map Event.eventId, id ∈ db'.events.map Event.eventId
  sessions : ∀ s' ∈ db'.sessions, (∃ s ∈ db.sessions, s'.sessionId = s.sessionId
      ∧ s'.eventId = s.eventId
      ∧ OwnerEdited (edit.payloadOf (.session s.sessionId)) s.toOwner s'.toOwner)
    ∨ (db.nextUuid ≤ s'.sessionId ∧ s'.toOwner.IsNew)
  sessionsKept : ∀ s ∈ db.sessions,
    s.sessionId ∈ db'.sessions.map Session.sessionId ↔ ¬ edit.Removes s
  meetings : db'.meetings = updateWhere
    (fun m ↦ ∃ id ∈ m.sessionId, id ∉ db'.sessions.map Session.sessionId) Meeting.orphan db.meetings

theorem MeetingDatabase.WellFormed.removeSessions (h : db.WellFormed) (eventId : Uuid)
    (kept : List Uuid) : (removeSessions eventId kept db).WellFormed := by
  have hback : ∀ m ∈ (Meetings.removeSessions eventId kept db).meetings, ∃ m₀ ∈ db.meetings,
      m.meetingId = m₀.meetingId ∧ (m = m₀ ∨ m = m₀.orphan) := fun m hm ↦ by
    rcases mem_updateWhere.1 hm with ⟨m₀, hm₀, -, rfl⟩ | ⟨hm, -⟩
    · exact ⟨m₀, hm₀, rfl, .inr rfl⟩
    · exact ⟨m, hm, rfl, .inl rfl⟩
  have hsub : (Meetings.removeSessions eventId kept db).sessions ⊆ db.sessions := fun s hs ↦
    (List.mem_filter.1 hs).1
  have hkeys : (Meetings.removeSessions eventId kept db).meetings.map Meeting.meetingId
      = db.meetings.map Meeting.meetingId := by
    apply map_updateWhere
    exact fun _ ↦ rfl
  refine { h with
    sessionKeys := nodup_keys_filter h.sessionKeys _
    meetingKeys := hkeys ▸ h.meetingKeys
    sessionIssued := fun id hid ↦ h.sessionIssued id (List.map_subset Session.sessionId hsub hid)
    meetingIssued := hkeys ▸ h.meetingIssued
    sessionEvent := fun id hid ↦ h.sessionEvent id (List.map_subset Session.eventId hsub hid)
    meetingEvent := fun m hm id hid ↦ ?_
    meetingSession := fun m hm id hid ↦ ?_
    oneOwner := fun m hm ↦ ?_
    oneMeeting := fun m hm m' hm' ref href href' ↦ ?_
    provider := fun row hrow ↦ h.provider row ?_ }
  · obtain ⟨m₀, hm₀, -, rfl | rfl⟩ := hback m hm
    · exact h.meetingEvent m hm₀ id hid
    · exact h.meetingEvent m₀ hm₀ id hid
  · rcases mem_updateWhere.1 hm with ⟨m₀, -, -, rfl⟩ | ⟨hm, hkept⟩
    · simp at hid
    · obtain ⟨s, hs, rfl⟩ := List.mem_map.1 (h.meetingSession m hm id hid)
      refine List.mem_map_of_mem (List.mem_filter.2 ⟨hs, decide_eq_true fun hgone ↦ hkept ?_⟩)
      exact ⟨s, hs, hid, hgone⟩
  · obtain ⟨m₀, hm₀, -, rfl | rfl⟩ := hback m hm
    · exact h.oneOwner m hm₀
    · exact .inr rfl
  · obtain ⟨m₀, hm₀, hid, hcase⟩ := hback m hm
    obtain ⟨m₁, hm₁, hid', hcase'⟩ := hback m' hm'
    have href₀ : ref ∈ m₀.owner? := by
      rcases hcase with rfl | rfl
      · exact href
      · exact Meeting.orphan_owner? href
    have href₁ : ref ∈ m₁.owner? := by
      rcases hcase' with rfl | rfl
      · exact href'
      · exact Meeting.orphan_owner? href'
    refine eq_of_key_eq (hkeys ▸ h.meetingKeys) hm hm' ?_
    rw [hid, hid', h.oneMeeting m₀ hm₀ m₁ hm₁ ref href₀ href₁]
  · rcases mem_owners.1 hrow with ⟨e, he, rfl⟩ | ⟨s, hs, rfl⟩
    · exact Event.mem_owners he
    · exact Session.mem_owners (List.mem_filter.1 hs).1

theorem syncEventSessions_eq_ok {now : Timestamp} {eventId : Uuid} {payload : EventPayload}
    {before : Option (Event × List Session)} (hwf : db.WellFormed)
    (hevent : eventId ∈ db.events.map Event.eventId)
    (hbefore : ∀ s ∈ db.sessions, s.eventId = eventId →
      (before.bind fun b ↦ b.2.find? fun s' ↦ s'.sessionId = s.sessionId) = some s)
    (h : syncEventSessions now eventId payload before db = .ok db') :
    db'.WellFormed ∧ db'.events = db.events ∧ db.nextUuid ≤ db'.nextUuid
      ∧ (∀ s' ∈ db'.sessions, (∃ s ∈ db.sessions, s'.sessionId = s.sessionId
          ∧ s'.eventId = s.eventId ∧ OwnerEdited
            ((lastEntry (payload.sessions.getD []) s.sessionId).map SessionPayload.columns)
            s.toOwner s'.toOwner)
        ∨ (db.nextUuid ≤ s'.sessionId ∧ s'.toOwner.IsNew))
      ∧ (∀ s ∈ db.sessions, s.sessionId ∈ db'.sessions.map Session.sessionId
        ↔ ¬ (s.eventId = eventId ∧ lastEntry (payload.sessions.getD []) s.sessionId = none))
      ∧ (∀ s ∈ db.sessions, lastEntry (payload.sessions.getD []) s.sessionId ≠ none →
        s.eventId = eventId)
      ∧ db'.meetings = updateWhere
        (fun m ↦ ∃ id ∈ m.sessionId, id ∉ db'.sessions.map Session.sessionId) Meeting.orphan
        db.meetings := by
  unfold syncEventSessions at h
  simp only [bind_eq_ok, Except.ok.injEq] at h
  obtain ⟨⟨processed, t⟩, hloop, rfl⟩ := h
  have hloop := foldlM_syncSession hwf hevent hbefore hloop
  have hkept : ∀ s ∈ db.sessions, ∃ s' ∈ t.sessions, s'.sessionId = s.sessionId
      ∧ s'.eventId = s.eventId := fun s hs ↦ by
    obtain ⟨s', hs', hid⟩ := List.mem_map.1 (hloop.kept _ (List.mem_map_of_mem hs))
    rcases hloop.rows s' hs' with ⟨s₀, hs₀, hid₀, hevent₀, -⟩ | ⟨hfresh, -⟩
    · rw [eq_of_key_eq hwf.sessionKeys hs hs₀ (hid.symm.trans hid₀)]
      exact ⟨s', hs', hid₀, hevent₀⟩
    · exact absurd (hid ▸ hwf.sessionIssued _ (List.mem_map_of_mem hs)) (not_lt.2 hfresh)
  have hgone : ∀ s ∈ db.sessions,
      s.sessionId ∈ (removeSessions eventId processed t).sessions.map Session.sessionId
        ↔ ¬ (s.eventId = eventId ∧ lastEntry (payload.sessions.getD []) s.sessionId = none) := by
    intro s hs
    have hprocessed := hloop.processed s hs
    simp only at hprocessed
    constructor
    · rintro hmem ⟨hsEvent, hnone⟩
      obtain ⟨s', hs', hid⟩ := List.mem_map.1 hmem
      obtain ⟨hs', hstays⟩ := List.mem_filter.1 hs'
      obtain ⟨s₁, hs₁, hid₁, hevent₁⟩ := hkept s hs
      rw [eq_of_key_eq hloop.wellFormed.sessionKeys hs' hs₁ (hid.trans hid₁.symm)] at hstays
      refine of_decide_eq_true hstays ⟨hevent₁.trans hsEvent, ?_⟩
      rw [hid₁, hprocessed, hnone]
      simp
    · intro hstays
      obtain ⟨s', hs', hid', hevent'⟩ := hkept s hs
      refine List.mem_map.2 ⟨s', List.mem_filter.2 ⟨hs', decide_eq_true ?_⟩, hid'⟩
      rintro ⟨hsEvent, hnot⟩
      rw [hid', hprocessed, not_not] at hnot
      exact hstays ⟨hevent'.symm.trans hsEvent, hnot⟩
  refine ⟨hloop.wellFormed.removeSessions _ _, hloop.events, hloop.nextUuid,
    fun s' hs' ↦ hloop.rows s' (List.mem_filter.1 hs').1, hgone, hloop.owned, ?_⟩
  rw [← hloop.meetings]
  refine List.map_congr_left fun m hm ↦ ?_
  -- a meeting is orphaned when its session is one of those removed
  have hiff : (∃ s ∈ t.sessions, m.sessionId = some s.sessionId ∧ s.eventId = eventId
        ∧ s.sessionId ∉ processed)
      ↔ ∃ id ∈ m.sessionId,
        id ∉ (removeSessions eventId processed t).sessions.map Session.sessionId := by
    constructor
    · rintro ⟨s, hs, hid, hgone⟩
      refine ⟨s.sessionId, hid, fun hmem ↦ ?_⟩
      obtain ⟨s', hs', hid'⟩ := List.mem_map.1 hmem
      obtain ⟨hs', hstays⟩ := List.mem_filter.1 hs'
      rw [eq_of_key_eq hloop.wellFormed.sessionKeys hs' hs hid'] at hstays
      exact of_decide_eq_true hstays hgone
    · rintro ⟨id, hid, hnot⟩
      obtain ⟨s, hs, rfl⟩ := List.mem_map.1 (hloop.wellFormed.meetingSession m hm id hid)
      refine ⟨s, hs, hid, not_not.1 fun hstays ↦ hnot ?_⟩
      exact List.mem_map_of_mem (List.mem_filter.2 ⟨hs, decide_eq_true hstays⟩)
  simp only [hiff, Meeting.orphan]

theorem MeetingDatabase.WellFormed.replaceEvent (h : db.WellFormed) {new : Event}
    (hprovider : new.meetingRequested = some true → new.meetingProviderId = some "zoom") :
    ({ db with events := replaceRow Event.eventId new db.events } :
      MeetingDatabase).WellFormed := by
  refine h.of_keys (map_key_replaceRow _ _) rfl rfl rfl rfl fun row hrow hrequested ↦ ?_
  rcases mem_owners.1 hrow with ⟨e, he, rfl⟩ | ⟨s, hs, rfl⟩
  · rcases mem_replaceRow he with rfl | ⟨he, -⟩
    · exact hprovider hrequested
    · exact h.provider _ (Event.mem_owners he) hrequested
  · exact h.provider _ (Session.mem_owners hs) hrequested

theorem MeetingDatabase.WellFormed.addEvent (h : db.WellFormed) {new : Event}
    (hid : new.eventId = db.nextUuid)
    (hprovider : new.meetingRequested = some true → new.meetingProviderId = some "zoom") :
    ({ db with
      events := db.events ++ [new]
      nextUuid := db.nextUuid + 1 } : MeetingDatabase).WellFormed := by
  have hnew : ∀ e ∈ db.events, e.eventId ≠ new.eventId := fun e he heq ↦
    (h.eventIssued _ (List.mem_map_of_mem he)).ne (heq.trans hid)
  refine { h with
    eventKeys := nodup_keys_append h.eventKeys hnew
    eventIssued := fun id hmem ↦ ?_
    sessionIssued := fun id hmem ↦ (h.sessionIssued id hmem).trans (Nat.lt_succ_self _)
    meetingIssued := fun id hmem ↦ (h.meetingIssued id hmem).trans (Nat.lt_succ_self _)
    sessionEvent := fun id hmem ↦ ?_
    meetingEvent := fun m hm id hmem ↦ ?_
    provider := fun row hrow hrequested ↦ ?_ }
  · rw [List.map_append, List.mem_append] at hmem
    rcases hmem with hmem | hmem
    · exact (h.eventIssued id hmem).trans (Nat.lt_succ_self _)
    · rw [List.mem_singleton.1 hmem, hid]
      exact Nat.lt_succ_self _
  · rw [List.map_append]
    exact List.mem_append_left _ (h.sessionEvent id hmem)
  · rw [List.map_append]
    exact List.mem_append_left _ (h.meetingEvent m hm id hmem)
  · rcases mem_owners.1 hrow with ⟨e, he, rfl⟩ | ⟨s, hs, rfl⟩
    · rcases List.mem_append.1 he with he | he
      · exact h.provider _ (Event.mem_owners he) hrequested
      · rw [List.mem_singleton.1 he] at hrequested ⊢
        exact hprovider hrequested
    · exact h.provider _ (Session.mem_owners hs) hrequested

theorem addEvent_effect {rules : Rules} {now : Timestamp} {payload : EventPayload}
    (hwf : db.WellFormed) (h : addEvent rules now payload db = .ok db') :
    PayloadEffect (.addEvent payload) db db' := by
  unfold addEvent at h
  simp only [bind_eq_ok] at h
  obtain ⟨_, -, _, hcheck, hsync⟩ := h
  -- no session belongs to the event that is being added
  have hnone : ∀ s ∈ db.sessions, s.eventId ≠ db.nextUuid := fun s hs ↦
    (hwf.eventIssued _ (hwf.sessionEvent _ (List.mem_map_of_mem hs))).ne
  have hadded : ∀ new : Event, new.eventId = db.nextUuid →
      db.nextUuid ∈ (db.events ++ [new]).map Event.eventId := fun new hid ↦ by
    rw [List.map_append]
    exact List.mem_append_right _ (List.mem_singleton.2 hid.symm)
  obtain ⟨hwf', hevents, hnext, hsessions, hkept, howned, hmeetings⟩ :=
    syncEventSessions_eq_ok (hwf.addEvent rfl (checkEvent_provider hcheck)) (hadded _ rfl)
      (fun s hs heq ↦ absurd heq (hnone s hs)) hsync
  refine ⟨hwf', (Nat.le_succ _).trans hnext, fun e' he' ↦ ?_, fun id hid ↦ ?_, fun s' hs' ↦ ?_,
    fun s hs ↦ ?_, hmeetings⟩
  · rw [hevents] at he'
    rcases List.mem_append.1 he' with he' | he'
    · exact .inl ⟨e', he', rfl, ⟨rfl, rfl, rfl⟩, rfl⟩
    · rw [List.mem_singleton.1 he']
      exact .inr ⟨le_rfl, rfl, rfl⟩
  · rw [hevents, List.map_append]
    exact List.mem_append_left _ hid
  · rcases hsessions s' hs' with ⟨s, hs, hid, hevent, hedited⟩ | ⟨hfresh, hnew⟩
    · have hlast : lastEntry (payload.sessions.getD []) s.sessionId = none :=
        not_not.1 fun hsome ↦ hnone s hs (howned s hs hsome)
      rw [hlast] at hedited
      exact .inl ⟨s, hs, hid, hevent, hedited⟩
    · exact .inr ⟨(Nat.le_succ _).trans hfresh, hnew⟩
  · rw [hkept s hs]
    simp [Edit.Removes, hnone s hs]

theorem updateEvent_effect {rules : Rules} {now : Timestamp} {id : Uuid} {payload : EventPayload}
    (hwf : db.WellFormed) (h : updateEvent rules now id payload db = .ok db') :
    PayloadEffect (.updateEvent id payload) db db' := by
  unfold updateEvent at h
  split at h
  · simp at h
  next before hfind =>
  have hbefore := List.mem_of_find?_eq_some hfind
  have hselected := List.find?_some hfind
  simp only [decide_eq_true_eq] at hselected
  obtain ⟨rfl, -, -⟩ := hselected
  simp only [bind_eq_ok] at h
  obtain ⟨_, -, _, -, _, hcheck, hsync⟩ := h
  have hids : (replaceRow Event.eventId (payload.write before
      (editedInSync (some before.toOwner) payload.toOwnerPayload
        (isEventMeetingInSync now before payload))) db.events).map Event.eventId
      = db.events.map Event.eventId := map_key_replaceRow _ _
  have hsnapshot : ∀ s ∈ db.sessions, s.eventId = before.eventId →
      ((some (before, db.sessions.filter fun s ↦ s.eventId = before.eventId)).bind fun b ↦
        b.2.find? fun s' ↦ s'.sessionId = s.sessionId) = some s := fun s hs heq ↦
    (find?_key_eq_some (nodup_keys_filter hwf.sessionKeys _)).2
      ⟨List.mem_filter.2 ⟨hs, decide_eq_true heq⟩, rfl⟩
  obtain ⟨hwf', hevents, hnext, hsessions, hkept, -, hmeetings⟩ :=
    syncEventSessions_eq_ok (hwf.replaceEvent (checkEvent_provider hcheck))
      (hids ▸ List.mem_map_of_mem hbefore) hsnapshot hsync
  refine ⟨hwf', hnext, fun e' he' ↦ ?_, fun id hid ↦ ?_, hsessions, hkept, hmeetings⟩
  · rw [hevents] at he'
    rcases mem_replaceRow he' with rfl | ⟨he', hne⟩
    · refine .inl ⟨before, hbefore, rfl, ⟨rfl, rfl, rfl⟩, ?_⟩
      rw [Edit.payloadOf, if_pos rfl]
      exact ⟨_, rfl, isEventMeetingInSync_flagAfter⟩
    · refine .inl ⟨e', he', rfl, ⟨rfl, rfl, rfl⟩, ?_⟩
      have hne : e'.eventId ≠ before.eventId := hne
      rw [Edit.payloadOf, if_neg hne]
      exact rfl
  · rw [hevents, hids]
    exact hid

/-! ## A publication flag -/

/-- What a publication function does: a flag of one event changes, and the event and its sessions
are marked as out of sync. -/
structure SwitchEffect (edit : Edit) (db db' : MeetingDatabase) : Prop where
  isSwitch : ∃ id f, db' = switchEvent id f db ∧ ∀ e : Event, (f e).eventId = e.eventId
    ∧ (f e).toOwner = e.toOwner
  noPayload : ∀ ref, edit.payloadOf ref = none
  noRemoval : ∀ s, ¬ edit.Removes s

theorem Owner.markOutOfSync_eq (o : Owner) : o.markOutOfSync.meetingRequested = o.meetingRequested
    ∧ o.markOutOfSync.meetingProviderId = o.meetingProviderId
    ∧ o.markOutOfSync.meetingSyncClaimedAt = o.meetingSyncClaimedAt
    ∧ o.markOutOfSync.meetingProviderHostUser = o.meetingProviderHostUser
    ∧ o.markOutOfSync.startsAt = o.startsAt ∧ o.markOutOfSync.endsAt = o.endsAt := by
  unfold Owner.markOutOfSync
  split
  · exact ⟨rfl, rfl, rfl, rfl, rfl, rfl⟩
  · exact ⟨rfl, rfl, rfl, rfl, rfl, rfl⟩

section Switch

variable {id : Uuid} {f : Event → Event}

theorem event?_switchEvent (hf : ∀ e : Event, (f e).eventId = e.eventId
    ∧ (f e).toOwner = e.toOwner) {id' : Uuid} (hne : id' ≠ id) :
    (switchEvent id f db).event? id' = db.event? id' := by
  have hfind : (switchEvent id f db).event? id' = (db.event? id').map fun e ↦
      if e.eventId = id then { f e with toOwner := e.toOwner.markOutOfSync } else e := by
    apply find?_updateWhere
    intro e
    simp only [(hf e).1]
  rw [hfind]
  cases he : db.event? id' with
  | none => rfl
  | some e =>
    have hid := List.find?_some he
    simp only [decide_eq_true_eq] at hid
    rw [Option.map_some, if_neg (hid ▸ hne)]

theorem mem_owners_switchEvent (hf : ∀ e : Event, (f e).eventId = e.eventId
    ∧ (f e).toOwner = e.toOwner) {r : OwnerRef} {o' : Owner}
    (h : (r, o') ∈ (switchEvent id f db).owners) :
    ∃ o, (r, o) ∈ db.owners ∧ (o' = o ∨ o' = o.markOutOfSync) := by
  -- the rows of the event and of its sessions are marked, the others are as they were
  cases r with
  | event id' =>
    obtain ⟨e', he', rfl, rfl⟩ := event_mem_owners.1 h
    rcases mem_updateWhere.1 he' with ⟨e, he, -, rfl⟩ | ⟨he, -⟩
    · exact ⟨e.toOwner, (hf e).1 ▸ Event.mem_owners he, .inr rfl⟩
    · exact ⟨_, Event.mem_owners he, .inl rfl⟩
  | session id' =>
    obtain ⟨s', hs', rfl, rfl⟩ := session_mem_owners.1 h
    rcases mem_updateWhere.1 hs' with ⟨s, hs, -, rfl⟩ | ⟨hs, -⟩
    · exact ⟨s.toOwner, Session.mem_owners hs, .inr rfl⟩
    · exact ⟨_, Session.mem_owners hs, .inl rfl⟩

theorem map_eventId_switchEvent (hf : ∀ e : Event, (f e).eventId = e.eventId
    ∧ (f e).toOwner = e.toOwner) :
    (switchEvent id f db).events.map Event.eventId = db.events.map Event.eventId := by
  apply map_updateWhere
  exact fun e ↦ (hf e).1

theorem MeetingDatabase.WellFormed.switchEvent (h : db.WellFormed)
    (hf : ∀ e : Event, (f e).eventId = e.eventId ∧ (f e).toOwner = e.toOwner) :
    (switchEvent id f db).WellFormed := by
  have hsessions : (Meetings.switchEvent id f db).sessions.map Session.sessionId
      = db.sessions.map Session.sessionId := by
    apply map_updateWhere
    exact fun _ ↦ rfl
  have hsessionEvents : (Meetings.switchEvent id f db).sessions.map Session.eventId
      = db.sessions.map Session.eventId := by
    apply map_updateWhere
    exact fun _ ↦ rfl
  refine h.of_keys (map_eventId_switchEvent hf) hsessions hsessionEvents rfl rfl ?_
  rintro ⟨r, o'⟩ hrow hrequested
  obtain ⟨o, ho, rfl | rfl⟩ := mem_owners_switchEvent hf hrow
  · exact h.provider _ ho hrequested
  · have heq := o.markOutOfSync_eq
    exact heq.2.1.trans (h.provider _ ho (heq.1.symm.trans hrequested))

theorem switchEvent_owner (hwf : db.WellFormed) (hf : ∀ e : Event, (f e).eventId = e.eventId
    ∧ (f e).toOwner = e.toOwner) {r : OwnerRef} {o' : Owner}
    (h : (r, o') ∈ (switchEvent id f db).owners) :
    (∃ o, (r, o) ∈ db.owners ∧ o' = o.markOutOfSync)
      ∨ ((r, o') ∈ db.owners ∧ ((switchEvent id f db).IsLive r ↔ db.IsLive r)) := by
  -- a row that is not marked belongs to an event that is not switched
  have hwf' : (switchEvent id f db).WellFormed := hwf.switchEvent hf
  cases r with
  | event id' =>
    obtain ⟨e', he', rfl, rfl⟩ := event_mem_owners.1 h
    rcases mem_updateWhere.1 he' with ⟨e, he, -, rfl⟩ | ⟨he, hne⟩
    · exact .inl ⟨e.toOwner, (hf e).1 ▸ Event.mem_owners he, rfl⟩
    · refine .inr ⟨Event.mem_owners he, ?_⟩
      rw [MeetingDatabase.IsLive, MeetingDatabase.IsLive, eventOf_event, eventOf_event,
        event?_switchEvent hf hne]
  | session id' =>
    obtain ⟨s', hs', rfl, rfl⟩ := session_mem_owners.1 h
    rcases mem_updateWhere.1 hs' with ⟨s, hs, -, rfl⟩ | ⟨hs, hne⟩
    · exact .inl ⟨s.toOwner, Session.mem_owners hs, rfl⟩
    · refine .inr ⟨Session.mem_owners hs, ?_⟩
      rw [MeetingDatabase.IsLive, MeetingDatabase.IsLive, eventOf_session, eventOf_session,
        hwf'.session?_eq_some.2 ⟨hs', rfl⟩, hwf.session?_eq_some.2 ⟨hs, rfl⟩, Option.bind_some,
        Option.bind_some, event?_switchEvent hf hne]

end Switch

/-- **What an accepted edit does.** -/
theorem Edit.run_effect {rules : Rules} {now : Timestamp} {edit : Edit} (hwf : db.WellFormed)
    (h : edit.run rules now db = .ok db') :
    (db' = db ∧ (∀ ref, edit.payloadOf ref = none) ∧ ∀ s, ¬ edit.Removes s)
      ∨ PayloadEffect edit db db' ∨ SwitchEffect edit db db' := by
  cases edit with
  | addEvent payload => exact .inr (.inl (addEvent_effect hwf h))
  | updateEvent id payload => exact .inr (.inl (updateEvent_effect hwf h))
  | publishEvent id =>
    simp only [Edit.run, Meetings.publishEvent] at h
    split at h
    · simp at h
    · split at h
      · exact .inl ⟨(Except.ok.inj h).symm, fun _ ↦ rfl, fun _ hs ↦ hs⟩
      · simp only [bind_eq_ok, Except.ok.injEq] at h
        obtain ⟨_, -, _, -, rfl⟩ := h
        exact .inr (.inr ⟨⟨id, _, rfl, fun _ ↦ ⟨rfl, rfl⟩⟩, fun _ ↦ rfl, fun _ hs ↦ hs⟩)
  | unpublishEvent id =>
    simp only [Edit.run, Meetings.unpublishEvent] at h
    split at h
    · simp at h
    · split at h
      · exact .inl ⟨(Except.ok.inj h).symm, fun _ ↦ rfl, fun _ hs ↦ hs⟩
      · obtain rfl := Except.ok.inj h
        exact .inr (.inr ⟨⟨id, _, rfl, fun _ ↦ ⟨rfl, rfl⟩⟩, fun _ ↦ rfl, fun _ hs ↦ hs⟩)
  | cancelEvent id =>
    simp only [Edit.run, Meetings.cancelEvent] at h
    split at h
    · simp at h
    · simp only [bind_eq_ok, Except.ok.injEq] at h
      obtain ⟨_, -, rfl⟩ := h
      exact .inr (.inr ⟨⟨id, _, rfl, fun _ ↦ ⟨rfl, rfl⟩⟩, fun _ ↦ rfl, fun _ hs ↦ hs⟩)
  | deleteEvent id =>
    simp only [Edit.run, Meetings.deleteEvent] at h
    split at h
    · simp at h
    · simp only [bind_eq_ok, Except.ok.injEq] at h
      obtain ⟨_, -, rfl⟩ := h
      exact .inr (.inr ⟨⟨id, _, rfl, fun _ ↦ ⟨rfl, rfl⟩⟩, fun _ ↦ rfl, fun _ hs ↦ hs⟩)

/-- The identifier of an owner. -/
def OwnerRef.id : OwnerRef → Uuid
  | .event id => id
  | .session id => id

/-- What every edit leaves alone: the claim and the host of a row that stays, and the owner of a
meeting, unless it becomes an orphan. -/
structure EditFrame (db db' : MeetingDatabase) : Prop where
  wellFormed : db'.WellFormed
  nextUuid : db.nextUuid ≤ db'.nextUuid
  owners : ∀ r o', (r, o') ∈ db'.owners → (∃ o, (r, o) ∈ db.owners
      ∧ o'.meetingSyncClaimedAt = o.meetingSyncClaimedAt
      ∧ o'.meetingProviderHostUser = o.meetingProviderHostUser)
    ∨ (db.nextUuid ≤ r.id ∧ o'.IsNew)
  meetings : ∀ m' ∈ db'.meetings, ∃ m ∈ db.meetings, (m' = m ∨ m' = m.orphan)
    ∧ ∀ ref ∈ m'.owner?, ref ∈ m.owner?

theorem MeetingDatabase.WellFormed.issued (h : db.WellFormed) {r : OwnerRef} {o : Owner}
    (ho : (r, o) ∈ db.owners) : r.id < db.nextUuid := by
  rcases mem_owners.1 ho with ⟨e, he, heq⟩ | ⟨s, hs, heq⟩
  · obtain ⟨rfl, -⟩ := Prod.mk.inj heq
    exact h.eventIssued _ (List.mem_map_of_mem he)
  · obtain ⟨rfl, -⟩ := Prod.mk.inj heq
    exact h.sessionIssued _ (List.mem_map_of_mem hs)

/-- The rows that a payload leaves: those there were, by what it has for each, and new ones. -/
theorem PayloadEffect.owner {edit : Edit} (h : PayloadEffect edit db db') {r : OwnerRef}
    {o' : Owner} (ho' : (r, o') ∈ db'.owners) :
    (∃ o, (r, o) ∈ db.owners ∧ OwnerEdited (edit.payloadOf r) o o')
      ∨ (db.nextUuid ≤ r.id ∧ o'.IsNew) := by
  cases r with
  | event id =>
    obtain ⟨e', he', rfl, rfl⟩ := event_mem_owners.1 ho'
    rcases h.events e' he' with ⟨e, he, hid, -, hedited⟩ | hnew
    · rw [hid]
      exact .inl ⟨e.toOwner, Event.mem_owners he, hedited⟩
    · exact .inr hnew
  | session id =>
    obtain ⟨s', hs', rfl, rfl⟩ := session_mem_owners.1 ho'
    rcases h.sessions s' hs' with ⟨s, hs, hid, -, hedited⟩ | hnew
    · rw [hid]
      exact .inl ⟨s.toOwner, Session.mem_owners hs, hedited⟩
    · exact .inr hnew

theorem PayloadEffect.isLive_iff {edit : Edit} (hwf : db.WellFormed) (h : PayloadEffect edit db db')
    {r : OwnerRef} {o o' : Owner} (ho : (r, o) ∈ db.owners) (ho' : (r, o') ∈ db'.owners) :
    db'.IsLive r ↔ db.IsLive r := by
  have hevent : ∀ id ∈ db.events.map Event.eventId, ∀ id' ∈ db'.events.map Event.eventId, id' = id →
      ((∃ e ∈ db'.event? id', e.IsLive) ↔ ∃ e ∈ db.event? id, e.IsLive) := by
    rintro _ hid _ hid' rfl
    obtain ⟨e', he', heq⟩ := List.mem_map.1 hid'
    rcases h.events e' he' with ⟨e, he, hsame, ⟨hcanceled, hdeleted, hpublished⟩, -⟩ | ⟨hfresh, -⟩
    · rw [h.wellFormed.event?_eq_some.2 ⟨he', heq⟩, hwf.event?_eq_some.2 ⟨he, hsame.symm.trans heq⟩]
      simp [Event.IsLive, hcanceled, hdeleted, hpublished]
    · exact absurd (heq ▸ hwf.eventIssued _ hid) (not_lt.2 hfresh)
  cases r with
  | event id =>
    obtain ⟨e, he, hid, -⟩ := event_mem_owners.1 ho
    obtain ⟨e', he', hid', -⟩ := event_mem_owners.1 ho'
    exact hevent id (hid ▸ List.mem_map_of_mem he) id (hid' ▸ List.mem_map_of_mem he') rfl
  | session id =>
    obtain ⟨s, hs, rfl, -⟩ := session_mem_owners.1 ho
    obtain ⟨s', hs', hid', -⟩ := session_mem_owners.1 ho'
    have hsame : s'.eventId = s.eventId := by
      rcases h.sessions s' hs' with ⟨s₀, hs₀, hid₀, heq, -⟩ | ⟨hfresh, -⟩
      · rw [heq, eq_of_key_eq hwf.sessionKeys hs₀ hs (hid₀.symm.trans hid')]
      · exact absurd (hid' ▸ hwf.sessionIssued _ (List.mem_map_of_mem hs)) (not_lt.2 hfresh)
    rw [MeetingDatabase.IsLive, MeetingDatabase.IsLive, eventOf_session, eventOf_session,
      h.wellFormed.session?_eq_some.2 ⟨hs', hid'⟩, hwf.session?_eq_some.2 ⟨hs, rfl⟩,
      Option.bind_some, Option.bind_some]
    exact hevent _ (hwf.sessionEvent _ (List.mem_map_of_mem hs)) _
      (h.wellFormed.sessionEvent _ (List.mem_map_of_mem hs')) hsame

theorem PayloadEffect.frame {edit : Edit} (h : PayloadEffect edit db db') : EditFrame db db' := by
  refine ⟨h.wellFormed, h.nextUuid, fun r o' hrow ↦ ?_, fun m' hm' ↦ ?_⟩
  · rcases h.owner hrow with ⟨o, ho, hedited⟩ | hnew
    · exact .inl ⟨o, ho, hedited.claim⟩
    · exact .inr hnew
  · rw [h.meetings] at hm'
    rcases mem_updateWhere.1 hm' with ⟨m, hm, -, rfl⟩ | ⟨hm, -⟩
    · exact ⟨m, hm, .inr rfl, fun ref ↦ Meeting.orphan_owner?⟩
    · exact ⟨m', hm, .inl rfl, fun _ href ↦ href⟩

theorem SwitchEffect.frame {edit : Edit} (hwf : db.WellFormed) (h : SwitchEffect edit db db') :
    EditFrame db db' := by
  obtain ⟨⟨id, f, rfl, hf⟩, -, -⟩ := h
  refine ⟨hwf.switchEvent hf, le_rfl, fun r o' hrow ↦ ?_,
    fun m hm ↦ ⟨m, hm, .inl rfl, fun _ href ↦ href⟩⟩
  obtain ⟨o, ho, rfl | rfl⟩ := mem_owners_switchEvent hf hrow
  · exact .inl ⟨_, ho, rfl, rfl⟩
  · exact .inl ⟨o, ho, o.markOutOfSync_eq.2.2.1, o.markOutOfSync_eq.2.2.2.1⟩

theorem Edit.run_frame {rules : Rules} {now : Timestamp} {edit : Edit} (hwf : db.WellFormed)
    (h : edit.run rules now db = .ok db') : EditFrame db db' := by
  rcases edit.run_effect hwf h with ⟨rfl, -⟩ | heffect | heffect
  · exact ⟨hwf, le_rfl, fun r o ho ↦ .inl ⟨o, ho, rfl, rfl⟩,
      fun m hm ↦ ⟨m, hm, .inl rfl, fun _ href ↦ href⟩⟩
  · exact heffect.frame
  · exact heffect.frame hwf

theorem Edit.run_keeps {rules : Rules} {now : Timestamp} {edit : Edit} (hwf : db.WellFormed)
    (h : edit.run rules now db = .ok db') {ref : OwnerRef} {o : Owner} (ho : (ref, o) ∈ db.owners)
    (hspared : ∀ s ∈ db.sessions, ref = .session s.sessionId → ¬ edit.Removes s) :
    ∃ o', (ref, o') ∈ db'.owners := by
  -- an owner stays, unless it is a session that the edit removes
  rcases edit.run_effect hwf h with ⟨rfl, -⟩ | heffect | ⟨⟨id, f, rfl, hf⟩, -, -⟩
  · exact ⟨o, ho⟩
  · rcases mem_owners.1 ho with ⟨e, he, heq⟩ | ⟨s, hs, heq⟩
    · obtain ⟨rfl, -⟩ := Prod.mk.inj heq
      obtain ⟨e', he', hid⟩ := List.mem_map.1 (heffect.eventsKept _ (List.mem_map_of_mem he))
      exact ⟨e'.toOwner, hid ▸ Event.mem_owners he'⟩
    · obtain ⟨rfl, -⟩ := Prod.mk.inj heq
      obtain ⟨s', hs', hid⟩ := List.mem_map.1 ((heffect.sessionsKept s hs).2 (hspared s hs rfl))
      exact ⟨s'.toOwner, hid ▸ Session.mem_owners hs'⟩
  · have hrefs : (switchEvent id f db).owners.map Prod.fst = db.owners.map Prod.fst := by
      rw [map_fst_owners, map_fst_owners, map_eventId_switchEvent hf]
      congr 2
      apply map_updateWhere
      exact fun _ ↦ rfl
    obtain ⟨row, hrow, rfl⟩ := List.mem_map.1 (hrefs ▸ List.mem_map_of_mem (f := Prod.fst) ho)
    exact ⟨row.2, hrow⟩

/-- **What an edit makes of a row.** It writes its payload, or marks the row as out of sync. -/
theorem Edit.run_owner {rules : Rules} {now : Timestamp} {edit : Edit} (hwf : db.WellFormed)
    (h : edit.run rules now db = .ok db') {r : OwnerRef} {o' : Owner} (ho' : (r, o') ∈ db'.owners) :
    (∃ o, (r, o) ∈ db.owners ∧ (∀ s ∈ db.sessions, r = .session s.sessionId → ¬ edit.Removes s)
      ∧ (OwnerEdited (edit.payloadOf r) o o'
        ∨ (edit.payloadOf r = none ∧ o' = o.markOutOfSync)))
      ∨ (db.nextUuid ≤ r.id ∧ o'.IsNew) := by
  rcases edit.run_effect hwf h with ⟨rfl, hpayload, hremoves⟩ | heffect |
    ⟨⟨id, f, rfl, hf⟩, hpayload, hremoves⟩
  · refine .inl ⟨o', ho', fun s _ _ ↦ hremoves s, .inl ?_⟩
    rw [hpayload]
    exact rfl
  · refine (heffect.owner ho').imp_left fun ⟨o, ho, hedited⟩ ↦
      ⟨o, ho, fun s hs heq ↦ ?_, .inl hedited⟩
    subst heq
    obtain ⟨s', hs', hid, -⟩ := session_mem_owners.1 ho'
    exact (heffect.sessionsKept s hs).1 (hid ▸ List.mem_map_of_mem hs')
  · obtain ⟨o, ho, rfl | rfl⟩ := mem_owners_switchEvent hf ho'
    · refine .inl ⟨_, ho, fun s _ _ ↦ hremoves s, .inl ?_⟩
      rw [hpayload]
      exact rfl
    · exact .inl ⟨o, ho, fun s _ _ ↦ hremoves s, .inr ⟨hpayload r, rfl⟩⟩

end Ocg.Meetings
