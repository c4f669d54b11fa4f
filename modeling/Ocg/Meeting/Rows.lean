import Mathlib.Data.Multiset.ZeroCons
import Ocg.Schema.Rows
import Ocg.Relational.Table
import Ocg.Relational.Transaction

/-!
# Meetings and their owners

Automatic provider meetings belong to an event or to a session. Both tables carry the same columns
for them: what the organizers asked for, whether the provider has been told (`meeting_in_sync`,
which may be null), and the claim of the worker that is telling it. A row of `meeting` records a
meeting that exists at the provider; it is an orphan once the session it belongs to is gone.

The columns that no meeting function reads are left out. A column list that is only read in sorted
order is compared as a multiset.
-/

namespace Ocg.Meetings

open Relational

/-! ## Rows -/

/-- The columns of `event` and of `session` that concern the meeting. -/
structure Owner where
  endsAt : Option Timestamp
  meetingError : Option String
  meetingHosts : Option (List String)
  meetingInSync : Option Bool
  meetingJoinInstructions : Option String
  meetingJoinUrl : Option String
  meetingProviderHostUser : Option String
  meetingProviderId : Option String
  meetingRequested : Option Bool
  meetingSyncClaimedAt : Option Timestamp
  name : String
  startsAt : Option Timestamp
  deriving DecidableEq, Repr

/-- `event`, with the users of `event_host` and `event_speaker`. -/
structure Event extends Owner where
  eventId : Uuid
  canceled : Bool
  deleted : Bool
  eventKindId : EventKind
  hosts : List Uuid
  meetingRecordingRequested : Bool
  published : Bool
  speakers : List Uuid
  timezone : String
  deriving DecidableEq, Repr

inductive SessionKind
  | hybrid
  | inPerson
  | virtual
  deriving DecidableEq, Repr

/-- `session`, with the users of `session_speaker` and the speakers of the proposal behind
`cfs_submission_id`. -/
structure Session extends Owner where
  sessionId : Uuid
  eventId : Uuid
  cfsSpeakers : List Uuid
  sessionKindId : SessionKind
  speakers : List Uuid
  deriving DecidableEq, Repr

structure Meeting where
  meetingId : Uuid
  eventId : Option Uuid
  joinUrl : String
  meetingProviderId : String
  password : Option String
  providerHostUserId : Option String
  providerMeetingId : String
  sessionId : Option Uuid
  syncClaimedAt : Option Timestamp
  deriving DecidableEq, Repr

/-- The row that a meeting, or a claim, belongs to. -/
inductive OwnerRef
  | event (eventId : Uuid)
  | session (sessionId : Uuid)
  deriving DecidableEq, Repr

structure MeetingDatabase where
  events : List Event
  sessions : List Session
  meetings : List Meeting
  nextUuid : Uuid
  deriving DecidableEq, Repr

/-- The row that a meeting is joined with, if it is not an orphan. -/
def Meeting.owner? (m : Meeting) : Option OwnerRef :=
  (m.eventId.map .event).or (m.sessionId.map .session)

namespace MeetingDatabase

variable (db : MeetingDatabase)

/-! ## Owners -/

/-- The rows of both owner tables. -/
def owners : List (OwnerRef × Owner) :=
  db.events.map (fun e ↦ (.event e.eventId, e.toOwner))
    ++ db.sessions.map fun s ↦ (.session s.sessionId, s.toOwner)

def owner? (ref : OwnerRef) : Option Owner :=
  (db.owners.find? fun row ↦ row.1 = ref).map Prod.snd

def event? (id : Uuid) : Option Event := db.events.find? fun e ↦ e.eventId = id

def session? (id : Uuid) : Option Session := db.sessions.find? fun s ↦ s.sessionId = id

/-- The event of an owner: the row itself, or the one that a session is joined with. -/
def eventOf : OwnerRef → Option Event
  | .event id => db.event? id
  | .session id => (db.session? id).bind fun s ↦ db.event? s.eventId

/-- `UPDATE … SET … WHERE` of the selected owner row. -/
def updateOwner (ref : OwnerRef) (selected : Owner → Prop) [DecidablePred selected]
    (f : Owner → Owner) : MeetingDatabase :=
  { db with
    events := updateWhere (fun e ↦ .event e.eventId = ref ∧ selected e.toOwner)
      (fun e ↦ { e with toOwner := f e.toOwner }) db.events
    sessions := updateWhere (fun s ↦ .session s.sessionId = ref ∧ selected s.toOwner)
      (fun s ↦ { s with toOwner := f s.toOwner }) db.sessions }

/-- `left join meeting m on m.event_id = …`, or on `m.session_id`. -/
def meetingOf (ref : OwnerRef) : Option Meeting :=
  match ref with
  | .event id => db.meetings.find? fun m ↦ m.eventId = some id
  | .session id => db.meetings.find? fun m ↦ m.sessionId = some id

end MeetingDatabase

/-! ## Sync inputs -/

/-- The hashed columns of an event. -/
structure EventSyncInputs where
  canceled : Bool
  deleted : Bool
  endsAt : Option Timestamp
  eventHostIds : Multiset Uuid
  eventId : Uuid
  eventSpeakerIds : Multiset Uuid
  meetingHosts : Multiset String
  meetingProviderId : Option String
  meetingRecordingRequested : Bool
  meetingRequested : Option Bool
  name : String
  published : Bool
  startsAt : Option Timestamp
  timezone : String
  deriving DecidableEq

/-- The hashed columns of a session and of its event. -/
structure SessionSyncInputs where
  eventCanceled : Bool
  eventDeleted : Bool
  eventHostIds : Multiset Uuid
  eventPublished : Bool
  eventMeetingRecordingRequested : Bool
  eventTimezone : String
  endsAt : Option Timestamp
  meetingHosts : Multiset String
  meetingProviderId : Option String
  meetingRequested : Option Bool
  name : String
  sessionId : Uuid
  sessionKindId : SessionKind
  sessionSpeakerIds : Multiset Uuid
  startsAt : Option Timestamp
  deriving DecidableEq

/-- What is hashed for an owner. -/
inductive SyncInputs
  | event (inputs : EventSyncInputs)
  | session (inputs : SessionSyncInputs)
  deriving DecidableEq

/-- The argument of `digest` in `get_event_meeting_sync_state_hash`. -/
def Event.syncInputs (e : Event) : EventSyncInputs where
  canceled := e.canceled
  deleted := e.deleted
  endsAt := e.endsAt
  eventHostIds := e.hosts
  eventId := e.eventId
  eventSpeakerIds := e.speakers
  meetingHosts := e.meetingHosts.getD []
  meetingProviderId := e.meetingProviderId
  meetingRecordingRequested := e.meetingRecordingRequested
  meetingRequested := e.meetingRequested
  name := e.name
  published := e.published
  startsAt := e.startsAt
  timezone := e.timezone

/-- The argument of `digest` in `get_session_meeting_sync_state_hash`. -/
def Session.syncInputs (s : Session) (e : Event) : SessionSyncInputs where
  eventCanceled := e.canceled
  eventDeleted := e.deleted
  eventHostIds := e.hosts
  eventPublished := e.published
  eventMeetingRecordingRequested := e.meetingRecordingRequested
  eventTimezone := e.timezone
  endsAt := s.endsAt
  meetingHosts := s.meetingHosts.getD []
  meetingProviderId := s.meetingProviderId
  meetingRequested := s.meetingRequested
  name := s.name
  sessionId := s.sessionId
  sessionKindId := s.sessionKindId
  sessionSpeakerIds := s.speakers
  startsAt := s.startsAt

/-- The sync inputs of an owner that exists. -/
def MeetingDatabase.syncInputs (db : MeetingDatabase) : OwnerRef → Option SyncInputs
  | .event id => (db.event? id).map fun e ↦ .event e.syncInputs
  | .session id => (db.session? id).bind fun s ↦
    (db.event? s.eventId).map fun e ↦ .session (s.syncInputs e)

end Ocg.Meetings
