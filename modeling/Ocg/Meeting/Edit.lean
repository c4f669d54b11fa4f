import Ocg.Meeting.Sync

/-!
# Organizer operations on events with meetings

What `add_event`, `update_event` with `sync_event_sessions`, `publish_event`, `unpublish_event`,
`cancel_event` and `delete_event` do to the meeting columns. An edit computes the new sync flag from
a JSON snapshot of the event before the edit and from the payload.

The rules that read no meeting column and no time (ticketing, enrollment, capacity, refunds) come in
as a parameter. Local times of a payload are given as instants.
-/

namespace Ocg.Meetings

open Relational

/-! ## Payloads -/

/-- The meeting fields that the payloads of an event and of a session have in common. -/
structure OwnerPayload where
  endsAt : Option Timestamp
  meetingHosts : Option (List String)
  meetingJoinInstructions : Option String
  meetingJoinUrl : Option String
  meetingProviderId : Option String
  meetingRequested : Option Bool
  name : String
  startsAt : Option Timestamp
  deriving DecidableEq, Repr

structure SessionPayload extends OwnerPayload where
  cfsSpeakers : List Uuid
  kind : SessionKind
  sessionId : Option Uuid
  speakers : List Uuid
  deriving DecidableEq, Repr

structure EventPayload extends OwnerPayload where
  hosts : List Uuid
  kindId : EventKind
  meetingRecordingRequested : Option Bool
  registrationEndsAt : Option Timestamp
  registrationStartsAt : Option Timestamp
  sessions : Option (List SessionPayload)
  speakers : List Uuid
  timezone : String
  deriving DecidableEq, Repr

/-! ## The sync flag after an edit -/

/-- `floor(extract(epoch from t))`, read back as an instant. -/
def floorSecond (t : Timestamp) : Timestamp := t / 1000000 * 1000000

/-- The part of `is_event_meeting_in_sync` and `is_session_meeting_in_sync` that does not depend on
the owner's table. `forced` is the case in which a session became an in-person one, and `same` says
whether the compared fields agree. -/
def isOwnerMeetingInSync (now : Timestamp) (before : Option Owner) (after : OwnerPayload)
    (forced same : Prop) [Decidable forced] [Decidable same] : Option Bool :=
  let beforeRequested := (before.bind (·.meetingRequested)).getD false
  let beforeInSync := before.bind (·.meetingInSync)
  if after.meetingRequested ≠ some true then
    -- a meeting that was requested has to be deleted
    if beforeRequested = true then some false else none
  else if forced ∧ beforeRequested = true then some false
  else if beforeRequested = true ∧ beforeInSync = some false then some false
  else if beforeRequested = true ∧ beforeInSync = some true
      ∧ ∃ t ∈ (before.bind (·.startsAt)).map floorSecond, t ≤ now then some true
  else some (decide (beforeRequested = true ∧ same))

/-- The fields of an owner that are compared. The snapshot has its provider under another key than
the one that is read, so the provider before the edit is always null. -/
def OwnerPayload.IsSameAs (after : OwnerPayload) (before : Option Owner) : Prop :=
  (before.bind (·.endsAt)).map floorSecond = after.endsAt
    ∧ before.bind (·.meetingHosts) = after.meetingHosts
    ∧ none = after.meetingProviderId
    ∧ before.map (·.name) = some after.name
    ∧ (before.bind (·.startsAt)).map floorSecond = after.startsAt

instance OwnerPayload.decidableIsSameAs (after : OwnerPayload) (before : Option Owner) :
    Decidable (after.IsSameAs before) :=
  inferInstanceAs (Decidable (_ ∧ _))

/-- `is_event_meeting_in_sync`. -/
def isEventMeetingInSync (now : Timestamp) (before : Event) (after : EventPayload) : Option Bool :=
  isOwnerMeetingInSync now (some before.toOwner) after.toOwnerPayload False
    (after.IsSameAs (some before.toOwner)
      ∧ (before.hosts : Multiset Uuid) = after.hosts
      ∧ before.meetingRecordingRequested = after.meetingRecordingRequested.getD true
      ∧ (before.speakers : Multiset Uuid) = after.speakers
      ∧ before.timezone = after.timezone)

/-- The speakers in the snapshot of a session: its own, or those of its proposal. -/
def Session.snapshotSpeakers (s : Session) : List Uuid :=
  if s.speakers = [] then s.cfsSpeakers else s.speakers

/-- `is_session_meeting_in_sync`. A session may be missing from the snapshot. -/
def isSessionMeetingInSync (now : Timestamp) (before : Option Session) (after : SessionPayload)
    (eventBefore : Option Event) (eventAfter : EventPayload) : Option Bool :=
  isOwnerMeetingInSync now (before.map Session.toOwner) after.toOwnerPayload
    (after.kind = .inPerson)
    (after.IsSameAs (before.map Session.toOwner)
      ∧ ((eventBefore.map Event.hosts).getD [] : Multiset Uuid) = eventAfter.hosts
      ∧ (eventBefore.map Event.meetingRecordingRequested).getD true
        = eventAfter.meetingRecordingRequested.getD true
      ∧ ((before.map Session.snapshotSpeakers).getD [] : Multiset Uuid) = after.speakers
      ∧ eventBefore.map Event.timezone = some eventAfter.timezone)

/-- The `case` that both updates wrap around the sync functions. -/
def editedInSync (before : Option Owner) (after : OwnerPayload) (inSync : Option Bool) :
    Option Bool :=
  if before.bind (·.meetingInSync) = some false
    ∧ after.meetingRequested ≠ some false then some false
  else inSync

/-! ## Constraints -/

/-- `nullif(text, '')`. -/
def nullIfEmpty (s : Option String) : Option String := s.filter (· ≠ "")

/-- The meeting constraints of both owner tables. -/
def checkOwner (o : Owner) : Except DbError Unit := do
  require (∀ t ∈ o.endsAt, ∃ s ∈ o.startsAt, s ≤ t) (.violated "ends_at_check")
  require (¬ (o.meetingRequested = some true
      ∧ (o.meetingJoinInstructions ≠ none ∨ o.meetingJoinUrl ≠ none)))
    (.violated "meeting_conflict_chk")
  require (¬ (o.meetingRequested = some true ∧ o.meetingProviderId = none))
    (.violated "meeting_provider_required_chk")
  require (¬ (o.meetingRequested = some true ∧ (o.startsAt = none ∨ o.endsAt = none)))
    (.violated "meeting_requested_times_chk")
  require (o.meetingProviderId = none ∨ o.meetingProviderId = some "zoom")
    (.violated "meeting_provider_id_fkey")

/-- The meeting constraints of `event`. -/
def checkEvent (e : Event) : Except DbError Unit := do
  checkOwner e.toOwner
  require (¬ (e.meetingRequested = some true ∧ e.eventKindId = .inPerson))
    (.violated "event_meeting_kind_chk")

/-- The constraints of `session`, and `check_session_within_event_bounds`. -/
def checkSession (s : Session) (db : MeetingDatabase) : Except DbError Unit := do
  require (s.startsAt ≠ none) (.violated "starts_at")
  let bounds := (db.event? s.eventId).bind fun e ↦
    e.startsAt.bind fun starts ↦ e.endsAt.map fun ends ↦ (starts, ends)
  require (∀ b ∈ bounds, ∀ t ∈ s.startsAt, b.1 ≤ t ∧ t ≤ b.2)
    (.raised "session starts_at must be within event bounds")
  require (∀ b ∈ bounds, ∀ t ∈ s.endsAt, t ≤ b.2)
    (.raised "session ends_at must be within event bounds")
  checkOwner s.toOwner

/-! ## Sessions -/

/-- The columns that an edit takes over from the payload of an owner. -/
def Owner.edit (o : Owner) (after : OwnerPayload) (inSync : Option Bool) : Owner :=
  { o with
    endsAt := after.endsAt
    meetingHosts := after.meetingHosts
    meetingInSync := inSync
    meetingJoinInstructions := nullIfEmpty after.meetingJoinInstructions
    meetingJoinUrl := nullIfEmpty after.meetingJoinUrl
    meetingProviderId := after.meetingProviderId
    meetingRequested := after.meetingRequested
    name := after.name
    startsAt := after.startsAt }

/-- An owner row before its first edit. -/
def Owner.blank : Owner where
  endsAt := none
  meetingError := none
  meetingHosts := none
  meetingInSync := none
  meetingJoinInstructions := none
  meetingJoinUrl := none
  meetingProviderHostUser := none
  meetingProviderId := none
  meetingRequested := none
  meetingSyncClaimedAt := none
  name := ""
  startsAt := none

/-- The sync flag of a new row. -/
def newInSync (requested : Option Bool) : Option Bool :=
  if requested = some true then some false else none

/-- The provider column of a session, `nullif(…, '')`. -/
def SessionPayload.columns (after : SessionPayload) : OwnerPayload :=
  { after.toOwnerPayload with meetingProviderId := nullIfEmpty after.meetingProviderId }

/-- A session as one iteration of `sync_event_sessions` writes it. -/
def SessionPayload.write (after : SessionPayload) (row : Session) (inSync : Option Bool) :
    Session :=
  { row with
    toOwner := row.toOwner.edit after.columns inSync
    cfsSpeakers := after.cfsSpeakers
    sessionKindId := after.kind
    speakers := after.speakers }

/-- The error of an update that finds no session. -/
def sessionNotFound (id eventId : Uuid) : DbError :=
  .raised ("session " ++ toString id ++ " not found for event " ++ toString eventId)

/-- One iteration of `sync_event_sessions` over the sessions of the payload: the processed
identifiers and the database. `before` is the snapshot of the event and its sessions. -/
def syncSession (now : Timestamp) (eventId : Uuid) (payload : EventPayload)
    (before : Option (Event × List Session)) (st : List Uuid × MeetingDatabase)
    (session : SessionPayload) : Except DbError (List Uuid × MeetingDatabase) :=
  let (processed, db) := st
  match session.sessionId with
  | some id =>
    match db.sessions.find? fun s ↦ s.sessionId = id ∧ s.eventId = eventId with
    | none => .error (sessionNotFound id eventId)
    | some row => do
      let sessionBefore := before.bind fun b ↦ b.2.find? fun s ↦ s.sessionId = id
      let inSync := editedInSync (sessionBefore.map Session.toOwner) session.toOwnerPayload
        (isSessionMeetingInSync now sessionBefore session (before.map Prod.fst) payload)
      let new := session.write row inSync
      checkSession new db
      .ok (processed ++ [id], { db with sessions := replaceRow Session.sessionId new db.sessions })
  | none => do
    let row : Session := ⟨.blank, db.nextUuid, eventId, [], .virtual, []⟩
    let new := session.write row (newInSync session.meetingRequested)
    checkSession new db
    .ok (processed ++ [db.nextUuid],
      { db with
        sessions := db.sessions ++ [new]
        nextUuid := db.nextUuid + 1 })

/-- `DELETE FROM session` of the event's sessions that `kept` does not list. Meetings refer to
sessions `on delete set null`. -/
def removeSessions (eventId : Uuid) (kept : List Uuid) (db : MeetingDatabase) : MeetingDatabase :=
  { db with
    sessions := db.sessions.filter fun s ↦ ¬ (s.eventId = eventId ∧ s.sessionId ∉ kept)
    meetings := updateWhere
      (fun m ↦ ∃ s ∈ db.sessions, m.sessionId = some s.sessionId ∧ s.eventId = eventId
        ∧ s.sessionId ∉ kept)
      (fun m ↦ { m with sessionId := none }) db.meetings }

/-- `sync_event_sessions`. -/
def syncEventSessions (now : Timestamp) (eventId : Uuid) (payload : EventPayload)
    (before : Option (Event × List Session)) (db : MeetingDatabase) :
    Except DbError MeetingDatabase := do
  let (processed, db) ← (payload.sessions.getD []).foldlM
    (syncSession now eventId payload before) ([], db)
  .ok (removeSessions eventId processed db)

/-! ## Dates -/

/-- The date rules of an edit for one time column. `first` is the earliest time that an edit of an
owner under way may give. -/
def checkNotPast (now : Timestamp) (before : Option Timestamp) (t : Timestamp) (what : String) :
    Except DbError Unit :=
  if t < now then do
    require (∃ b ∈ before, b < now) (.raised (what ++ " cannot be in the past"))
    require (∀ b ∈ before, b ≤ t) (.raised (what ++ " cannot be earlier than current value"))
  else .ok ()

/-- `validate_update_event_dates` for a session of an event that is not over. -/
def checkSessionDates (now : Timestamp) (sessionsBefore : List Session) (session : SessionPayload) :
    Except DbError Unit := do
  let before := session.sessionId.bind fun id ↦ sessionsBefore.find? fun s ↦ s.sessionId = id
  for t in session.startsAt.toList do
    checkNotPast now ((before.bind (·.startsAt)).map floorSecond) t "session starts_at"
  for t in session.endsAt.toList do
    checkNotPast now ((before.bind (·.endsAt)).map floorSecond) t "session ends_at"

/-- `validate_update_event_dates`. -/
def validateUpdateEventDates (now : Timestamp) (payload : EventPayload) (before : Event)
    (sessionsBefore : List Session) : Except DbError Unit := do
  let startsBefore := before.startsAt.map floorSecond
  let endsBefore := before.endsAt.map floorSecond
  let sessions := payload.sessions.getD []
  require (¬ (before.published = true ∧ payload.startsAt = none))
    (.raised "published event must have a start date")
  require (∀ t ∈ payload.registrationStartsAt, ∀ u ∈ payload.registrationEndsAt, t < u)
    (.raised "registration starts_at must be before registration ends_at")
  require (∀ t ∈ payload.registrationStartsAt, ∀ u ∈ payload.startsAt, t ≤ u)
    (.raised "registration starts_at cannot be after event starts_at")
  require (∀ t ∈ payload.registrationEndsAt, ∀ u ∈ payload.startsAt, t ≤ u)
    (.raised "registration ends_at cannot be after event starts_at")
  if ∃ t ∈ endsBefore.or startsBefore, t < now then
    require (∀ t ∈ payload.startsAt, t ≤ now) (.raised "event starts_at cannot be in the future")
    require (∀ t ∈ payload.endsAt, t ≤ now) (.raised "event ends_at cannot be in the future")
    require (∀ s ∈ sessions, ∀ t ∈ s.startsAt, t ≤ now)
      (.raised "session starts_at cannot be in the future")
    require (∀ s ∈ sessions, ∀ t ∈ s.endsAt, t ≤ now)
      (.raised "session ends_at cannot be in the future")
  else
    for t in payload.startsAt.toList do
      checkNotPast now startsBefore t "event starts_at"
    require (∀ t ∈ payload.endsAt, now ≤ t) (.raised "event ends_at cannot be in the past")
    for s in sessions do
      checkSessionDates now sessionsBefore s

/-! ## Events -/

/-- The rules of the organizer operations that concern other columns. -/
structure Rules where
  addEvent : EventPayload → MeetingDatabase → Except DbError Unit
  updateEvent : Uuid → EventPayload → MeetingDatabase → Except DbError Unit
  publishEvent : Uuid → MeetingDatabase → Except DbError Unit
  cancelEvent : Uuid → MeetingDatabase → Except DbError Unit
  deleteEvent : Uuid → MeetingDatabase → Except DbError Unit

/-- The event row with the payload's columns. -/
def EventPayload.write (payload : EventPayload) (row : Event) (inSync : Option Bool) : Event :=
  { row with
    toOwner := row.toOwner.edit payload.toOwnerPayload inSync
    eventKindId := payload.kindId
    hosts := payload.hosts
    meetingRecordingRequested := payload.meetingRecordingRequested.getD true
    speakers := payload.speakers
    timezone := payload.timezone }

/-- `add_event`. The provider column is `nullif(…, '')` here. -/
def addEvent (rules : Rules) (now : Timestamp) (payload : EventPayload) (db : MeetingDatabase) :
    Except DbError MeetingDatabase := do
  rules.addEvent payload db
  let row : Event := ⟨.blank, db.nextUuid, false, false, .virtual, [], true, false, [], ""⟩
  let columns := { payload with meetingProviderId := nullIfEmpty payload.meetingProviderId }
  let new := columns.write row (newInSync payload.meetingRequested)
  checkEvent new
  syncEventSessions now db.nextUuid payload none
    { db with
      events := db.events ++ [new]
      nextUuid := db.nextUuid + 1 }

/-- `update_event`. -/
def updateEvent (rules : Rules) (now : Timestamp) (id : Uuid) (payload : EventPayload)
    (db : MeetingDatabase) : Except DbError MeetingDatabase :=
  match db.events.find? fun e ↦ e.eventId = id ∧ e.deleted = false ∧ e.canceled = false with
  | none => .error (.raised "event not found or inactive")
  | some before => do
    let sessionsBefore := db.sessions.filter fun s ↦ s.eventId = id
    rules.updateEvent id payload db
    validateUpdateEventDates now payload before sessionsBefore
    let new := payload.write before (editedInSync (some before.toOwner) payload.toOwnerPayload
      (isEventMeetingInSync now before payload))
    checkEvent new
    syncEventSessions now id payload (some (before, sessionsBefore))
      { db with events := replaceRow Event.eventId new db.events }

/-- `case when meeting_requested = true then false else meeting_in_sync end`. -/
def Owner.markOutOfSync (o : Owner) : Owner :=
  if o.meetingRequested = some true then { o with meetingInSync := some false } else o

/-- The row update that the publication functions share: the event is changed, and it and its
sessions are marked as out of sync. -/
def switchEvent (id : Uuid) (f : Event → Event) (db : MeetingDatabase) : MeetingDatabase :=
  { db with
    events := updateWhere (fun e ↦ e.eventId = id)
      (fun e ↦ { f e with toOwner := e.toOwner.markOutOfSync }) db.events
    sessions := updateWhere (fun s ↦ s.eventId = id)
      (fun s ↦ { s with toOwner := s.toOwner.markOutOfSync }) db.sessions }

/-- `publish_event`. -/
def publishEvent (rules : Rules) (id : Uuid) (db : MeetingDatabase) :
    Except DbError MeetingDatabase :=
  match db.events.find? fun e ↦ e.eventId = id ∧ e.deleted = false ∧ e.canceled = false with
  | none => .error (.raised "event not found or inactive")
  | some e =>
    if e.published = true then .ok db
    else do
      rules.publishEvent id db
      require (e.startsAt ≠ none) (.raised "event must have a start date to be published")
      .ok (switchEvent id (fun e ↦ { e with published := true }) db)

/-- `unpublish_event`. -/
def unpublishEvent (id : Uuid) (db : MeetingDatabase) : Except DbError MeetingDatabase :=
  match db.events.find? fun e ↦ e.eventId = id ∧ e.deleted = false with
  | none => .error (.raised "event not found or inactive")
  | some e =>
    if e.published = false then .ok db
    else .ok (switchEvent id (fun e ↦ { e with published := false }) db)

/-- `cancel_event`. -/
def cancelEvent (rules : Rules) (now : Timestamp) (id : Uuid) (db : MeetingDatabase) :
    Except DbError MeetingDatabase :=
  match db.events.find? fun e ↦ e.eventId = id ∧ e.canceled = false ∧ e.deleted = false
      ∧ ∀ t ∈ e.endsAt.or e.startsAt, now ≤ t with
  | none => .error (.raised "event not found or inactive")
  | some _ => do
    rules.cancelEvent id db
    .ok (switchEvent id (fun e ↦ { e with canceled := true }) db)

/-- `delete_event`. -/
def deleteEvent (rules : Rules) (id : Uuid) (db : MeetingDatabase) :
    Except DbError MeetingDatabase :=
  match db.events.find? fun e ↦ e.eventId = id ∧ e.deleted = false with
  | none => .error (.raised "event not found or inactive")
  | some _ => do
    rules.deleteEvent id db
    .ok (switchEvent id
      (fun e ↦ { e with
        deleted := true
        published := false }) db)

end Ocg.Meetings
