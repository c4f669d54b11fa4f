import Ocg.Meeting.Rows

/-!
# Synchronizing meetings with the provider

A worker claims one owner that is out of sync (or an orphan meeting), talks to the provider, and
completes the claim. A completion compares the hash of the owner's sync inputs with the hash that
came with the claim; only if they agree is the owner in sync. Host users of the provider account are
shared, so a worker reserves one on its claim before it creates a meeting.

Each function takes the digest of the sync inputs as a parameter. A completion also takes the hash
that its statement evaluates, since the statement may have to wait for the row it updates.
-/

namespace Ocg.Meetings

open Relational

variable {H : Type} [DecidableEq H] (digest : SyncInputs → H)

/-! ## Claims -/

/-- What `claim_meeting_out_of_sync` returns. `endsAt` is `starts_at` plus the returned duration. -/
structure Claim (H : Type) where
  delete : Bool
  endsAt : Option Timestamp
  meetingId : Option Uuid
  owner : Option OwnerRef
  provider : Option String
  providerHostUserId : Option String
  providerMeetingId : Option String
  startsAt : Option Timestamp
  syncClaimedAt : Timestamp
  syncStateHash : Option H
  deriving DecidableEq, Repr

/-- What the worker does with a claim. -/
inductive SyncAction
  | create
  | delete
  | update
  deriving DecidableEq, Repr

/-- `Meeting::sync_action`. -/
def Claim.syncAction (claim : Claim H) : SyncAction :=
  if claim.delete then .delete
  else if claim.providerMeetingId.isNone then .create
  else .update

/-- The event is neither canceled nor deleted, and it is published. -/
def Event.IsLive (e : Event) : Prop := e.deleted = false ∧ e.canceled = false ∧ e.published = true

instance Event.decidableIsLive (e : Event) : Decidable e.IsLive :=
  inferInstanceAs (Decidable (_ ∧ _))

/-- The event or session needs its meeting created or updated. -/
def MeetingDatabase.NeedsSync (db : MeetingDatabase) (now : Timestamp) (ref : OwnerRef) : Prop :=
  ∃ o ∈ db.owner? ref, o.meetingRequested = some true ∧ o.meetingInSync = some false
    ∧ o.meetingSyncClaimedAt = none ∧ (∃ t ∈ o.startsAt, now < t)
    ∧ ∃ e ∈ db.eventOf ref, e.IsLive

instance MeetingDatabase.decidableNeedsSync (db : MeetingDatabase) (now : Timestamp)
    (ref : OwnerRef) : Decidable (db.NeedsSync now ref) :=
  inferInstanceAs (Decidable (∃ o ∈ db.owner? ref, _ ∧ _ ∧ _ ∧ _ ∧ ∃ e ∈ db.eventOf ref, _))

/-- The event or session needs its meeting deleted. -/
def MeetingDatabase.NeedsDelete (db : MeetingDatabase) (ref : OwnerRef) : Prop :=
  ∃ o ∈ db.owner? ref, o.meetingInSync = some false ∧ o.meetingSyncClaimedAt = none
    ∧ ((o.meetingRequested = some true ∧ ∃ e ∈ db.eventOf ref, ¬ e.IsLive)
      ∨ o.meetingRequested = some false)

instance MeetingDatabase.decidableNeedsDelete (db : MeetingDatabase) (ref : OwnerRef) :
    Decidable (db.NeedsDelete ref) :=
  inferInstanceAs (Decidable (∃ o ∈ db.owner? ref, _ ∧ _ ∧ ((_ ∧ ∃ e ∈ db.eventOf ref, _) ∨ _)))

/-- Orphan meetings that no worker has claimed. -/
def Meeting.IsUnclaimedOrphan (m : Meeting) : Prop :=
  m.eventId = none ∧ m.sessionId = none ∧ m.syncClaimedAt = none

instance Meeting.decidableIsUnclaimedOrphan (m : Meeting) : Decidable m.IsUnclaimedOrphan :=
  inferInstanceAs (Decidable (_ ∧ _))

/-- The cases of `claim_meeting_out_of_sync`, with the row that the case finds. -/
inductive ClaimCase
  | sync (ref : OwnerRef)
  | delete (ref : OwnerRef)
  | orphan (meetingId : Uuid)
  deriving DecidableEq, Repr

/-- `meeting_error = null, meeting_sync_claimed_at = current_timestamp`. -/
def Owner.claim (now : Timestamp) (o : Owner) : Owner :=
  { o with
    meetingError := none
    meetingSyncClaimedAt := some now }

/-- `get_event_meeting_sync_state_hash` and `get_session_meeting_sync_state_hash`. -/
def MeetingDatabase.syncStateHash (db : MeetingDatabase) (ref : OwnerRef) : Option H :=
  (db.syncInputs ref).map digest

/-- The claim of an owner for a creation or an update. -/
def MeetingDatabase.syncClaim (db : MeetingDatabase) (now : Timestamp) (ref : OwnerRef)
    (o : Owner) :
    Claim H where
  delete := false
  endsAt := o.endsAt
  meetingId := (db.meetingOf ref).map (·.meetingId)
  owner := some ref
  provider := o.meetingProviderId
  providerHostUserId := o.meetingProviderHostUser
  providerMeetingId := (db.meetingOf ref).map (·.providerMeetingId)
  startsAt := o.startsAt
  syncClaimedAt := now
  syncStateHash := db.syncStateHash digest ref

/-- The claim of an owner for a deletion. -/
def MeetingDatabase.deleteClaim (db : MeetingDatabase) (now : Timestamp) (ref : OwnerRef)
    (o : Owner) : Claim H where
  delete := true
  endsAt := none
  meetingId := (db.meetingOf ref).map (·.meetingId)
  owner := some ref
  provider := (db.meetingOf ref).map (·.meetingProviderId)
  providerHostUserId := o.meetingProviderHostUser
  providerMeetingId := (db.meetingOf ref).map (·.providerMeetingId)
  startsAt := none
  syncClaimedAt := now
  syncStateHash := db.syncStateHash digest ref

/-- The claim of an orphan. -/
def Meeting.orphanClaim (m : Meeting) (now : Timestamp) : Claim H where
  delete := true
  endsAt := none
  meetingId := some m.meetingId
  owner := none
  provider := some m.meetingProviderId
  providerHostUserId := m.providerHostUserId
  providerMeetingId := some m.providerMeetingId
  startsAt := none
  syncClaimedAt := now
  syncStateHash := none

/-- `claim_meeting_out_of_sync`. The queries have no `order by` and skip locked rows, so any row
that a case selects can be the one it finds, and an earlier case may find none. -/
def claimMeetingOutOfSync (now : Timestamp) (case : ClaimCase) (db : MeetingDatabase) :
    Option (Claim H × MeetingDatabase) :=
  match case with
  | .sync ref =>
    match db.owner? ref with
    | none => none
    | some o =>
      if db.NeedsSync now ref then
        some (db.syncClaim digest now ref o, db.updateOwner ref (fun _ ↦ True) (Owner.claim now))
      else none
  | .delete ref =>
    match db.owner? ref with
    | none => none
    | some o =>
      if db.NeedsDelete ref then
        some (db.deleteClaim digest now ref o, db.updateOwner ref (fun _ ↦ True) (Owner.claim now))
      else none
  | .orphan id =>
    match db.meetings.find? fun m ↦ m.meetingId = id with
    | none => none
    | some m =>
      if m.IsUnclaimedOrphan then
        some (m.orphanClaim now, { db with
          meetings := updateWhere (fun m ↦ m.meetingId = id)
            (fun m ↦ { m with syncClaimedAt := some now }) db.meetings })
      else none

/-! ## Completions -/

/-- The assignments of a completion, given the hash that its statement evaluated. `error` is what
`meeting_error` becomes if the hashes agree. -/
def Owner.complete (current hash : Option H) (error : Option String) (o : Owner) : Owner :=
  { o with
    meetingError := if current = hash ∧ current ≠ none then error else o.meetingError
    meetingInSync := current.bind fun c ↦ hash.map fun h ↦ decide (c = h)
    meetingProviderHostUser := none
    meetingSyncClaimedAt := none }

/-- `meeting_sync_claimed_at = p_sync_claimed_at`. -/
def Owner.IsClaimedAt (t : Timestamp) (o : Owner) : Prop := o.meetingSyncClaimedAt = some t

instance Owner.decidableIsClaimedAt (t : Timestamp) (o : Owner) : Decidable (o.IsClaimedAt t) :=
  inferInstanceAs (Decidable (_ = _))

/-- The worker still holds the claim of the owner. -/
def MeetingDatabase.IsClaimHeld (db : MeetingDatabase) (ref : OwnerRef) (t : Timestamp) : Prop :=
  ∃ o ∈ db.owner? ref, o.IsClaimedAt t

instance MeetingDatabase.decidableIsClaimHeld (db : MeetingDatabase) (ref : OwnerRef)
    (t : Timestamp) : Decidable (db.IsClaimHeld ref t) :=
  inferInstanceAs (Decidable (∃ o ∈ db.owner? ref, _))

/-- The `update` that the four completions share. -/
def completeClaim (ref : OwnerRef) (claim : Claim H) (current : Option H) (error : Option String)
    (db : MeetingDatabase) : MeetingDatabase :=
  db.updateOwner ref (Owner.IsClaimedAt claim.syncClaimedAt)
    (Owner.complete current claim.syncStateHash error)

/-- What the provider returned for a created or updated meeting. -/
structure ProviderMeeting where
  id : String
  joinUrl : String
  password : Option String
  deriving DecidableEq, Repr

/-- The columns of a new row of `meeting`. -/
def newMeeting (id : Uuid) (ref : OwnerRef) (provider : String) (host : Option String)
    (created : ProviderMeeting) : Meeting where
  meetingId := id
  eventId := match ref with | .event eventId => some eventId | .session _ => none
  joinUrl := created.joinUrl
  meetingProviderId := provider
  password := created.password
  providerHostUserId := host
  providerMeetingId := created.id
  sessionId := match ref with | .event _ => none | .session sessionId => some sessionId
  syncClaimedAt := none

/-- `INSERT INTO meeting`, with its unique indexes. -/
def insertMeeting (new : Meeting) (db : MeetingDatabase) : Except DbError MeetingDatabase := do
  require (new.eventId = none ∨ ∀ m ∈ db.meetings, m.eventId ≠ new.eventId)
    (.violated "meeting_event_id_idx")
  require (∀ m ∈ db.meetings, ¬ (m.meetingProviderId = new.meetingProviderId
    ∧ m.providerMeetingId = new.providerMeetingId))
    (.violated "meeting_meeting_provider_id_provider_meeting_id_idx")
  require (new.sessionId = none ∨ ∀ m ∈ db.meetings, m.sessionId ≠ new.sessionId)
    (.violated "meeting_session_id_idx")
  .ok { db with meetings := db.meetings ++ [new] }

/-- `add_meeting`. The worker's provider is `zoom` where the claim names none. -/
def addMeeting (ref : OwnerRef) (claim : Claim H) (host : Option String) (created : ProviderMeeting)
    (current : Option H) (db : MeetingDatabase) : Except DbError MeetingDatabase :=
  let completed := completeClaim ref claim current none db
  if db.IsClaimHeld ref claim.syncClaimedAt then
    insertMeeting (newMeeting db.nextUuid ref (claim.provider.getD "zoom") host created)
      { completed with nextUuid := db.nextUuid + 1 }
  else .ok completed

/-- `update_meeting`. -/
def updateMeeting (ref : OwnerRef) (claim : Claim H) (updated : ProviderMeeting)
    (current : Option H) (db : MeetingDatabase) : MeetingDatabase :=
  let completed := completeClaim ref claim current none db
  if db.IsClaimHeld ref claim.syncClaimedAt then
    { completed with
      meetings := updateWhere (fun m ↦ some m.meetingId = claim.meetingId)
        (fun m ↦ { m with
          joinUrl := updated.joinUrl
          password := updated.password
          providerMeetingId := claim.providerMeetingId.getD m.providerMeetingId }) db.meetings }
  else completed

/-- The orphan case of `delete_meeting` and of `set_meeting_error`. -/
def deleteOrphan (claim : Claim H) (db : MeetingDatabase) : MeetingDatabase :=
  { db with
    meetings := db.meetings.filter fun m ↦
      ¬ (some m.meetingId = claim.meetingId ∧ m.syncClaimedAt = some claim.syncClaimedAt) }

/-- `delete_meeting`. -/
def deleteMeeting (claim : Claim H) (current : Option H) (db : MeetingDatabase) : MeetingDatabase :=
  match claim.owner with
  | none => deleteOrphan claim db
  | some ref =>
    let completed := completeClaim ref claim current none db
    if db.IsClaimHeld ref claim.syncClaimedAt then
      { completed with meetings := db.meetings.filter fun m ↦ some m.meetingId ≠ claim.meetingId }
    else completed

/-- `set_meeting_error`. -/
def setMeetingError (claim : Claim H) (error : String) (current : Option H) (db : MeetingDatabase) :
    MeetingDatabase :=
  match claim.owner with
  | none => deleteOrphan claim db
  | some ref => completeClaim ref claim current (some error) db

/-- `release_meeting_sync_claim`. -/
def releaseMeetingSyncClaim (claim : Claim H) (db : MeetingDatabase) : MeetingDatabase :=
  match claim.owner with
  | none => { db with
      meetings := updateWhere
        (fun m ↦ some m.meetingId = claim.meetingId ∧ m.syncClaimedAt = some claim.syncClaimedAt)
        (fun m ↦ { m with syncClaimedAt := none }) db.meetings }
  | some ref => db.updateOwner ref
      (fun o ↦ o.meetingInSync = some false ∧ o.IsClaimedAt claim.syncClaimedAt)
      fun o ↦ { o with
        meetingProviderHostUser := none
        meetingSyncClaimedAt := none }

/-! ## Host users -/

/-- A time for which a host user is taken. -/
structure HostSlot where
  host : String
  startsAt : Timestamp
  endsAt : Timestamp
  deriving DecidableEq, Repr

/-- The slot of a host and a time that are all known. -/
def hostSlot (host : Option String) (startsAt endsAt : Option Timestamp) : Option HostSlot :=
  host.bind fun h ↦ startsAt.bind fun s ↦ endsAt.map fun e ↦ ⟨lower h, s, e⟩

/-- `coalesce(e.starts_at, s.starts_at)`, and likewise for the other columns of the joined rows. -/
def Meeting.ownerColumn (m : Meeting) (column : Owner → Option Timestamp) (db : MeetingDatabase) :
    Option Timestamp :=
  ((m.eventId.bind fun id ↦ db.owner? (.event id)).bind column).or
    ((m.sessionId.bind fun id ↦ db.owner? (.session id)).bind column)

/-- The host slot persisted on a provider meeting. -/
def Meeting.recordedSlot (db : MeetingDatabase) (m : Meeting) : Option HostSlot :=
  if m.meetingProviderId = "zoom" then
    hostSlot m.providerHostUserId (m.ownerColumn (·.startsAt) db) (m.ownerColumn (·.endsAt) db)
  else none

/-- The host reservation made by a claimed sync worker. -/
def Owner.reservedSlot (o : Owner) : Option HostSlot :=
  if o.meetingProviderId = some "zoom" ∧ o.meetingSyncClaimedAt ≠ none
      ∧ o.meetingInSync = some false then
    hostSlot o.meetingProviderHostUser o.startsAt o.endsAt
  else none

/-- The subquery `reserved`. -/
def MeetingDatabase.hostSlots (db : MeetingDatabase) : List HostSlot :=
  db.meetings.filterMap (Meeting.recordedSlot db)
    ++ db.owners.filterMap fun row ↦ row.2.reservedSlot

/-- Whether the slot, with a quarter of an hour before and after it, overlaps a time range. -/
def HostSlot.Overlaps (startsAt endsAt : Timestamp) (slot : HostSlot) : Prop :=
  slot.startsAt - minutes 15 < endsAt ∧ startsAt < slot.endsAt + minutes 15

instance HostSlot.decidableOverlaps (startsAt endsAt : Timestamp) (slot : HostSlot) :
    Decidable (slot.Overlaps startsAt endsAt) :=
  inferInstanceAs (Decidable (_ ∧ _))

/-- `overlapping_meetings` of a host. -/
def MeetingDatabase.overlappingMeetings (db : MeetingDatabase) (startsAt endsAt : Timestamp)
    (host : String) : ℕ :=
  db.hostSlots.countP fun slot ↦ slot.host = host ∧ slot.Overlaps startsAt endsAt

/-- `upcoming_meetings` of a host. -/
def MeetingDatabase.upcomingMeetings (db : MeetingDatabase) (now : Timestamp) (host : String) : ℕ :=
  db.hostSlots.countP fun slot ↦ slot.host = host ∧ now ≤ slot.endsAt

/-- The configured pool in normal form. -/
def poolHosts (poolUsers : List String) : List String :=
  ((poolUsers.filter fun user ↦ btrim user ≠ "").map fun user ↦ lower (btrim user)).dedup

/-- The order in which free hosts are preferred. -/
def MeetingDatabase.prefersHost (db : MeetingDatabase) (now startsAt endsAt : Timestamp)
    (host host' : String) : Bool :=
  let load := db.overlappingMeetings startsAt endsAt
  let upcoming := db.upcomingMeetings now
  decide (load host < load host' ∨ (load host = load host'
    ∧ (upcoming host < upcoming host' ∨ (upcoming host = upcoming host' ∧ host < host'))))

/-- The host that `assign_zoom_host_user` selects: the least loaded one with an available slot. -/
def selectHost (now : Timestamp) (poolUsers : List String) (maxSimultaneous : ℤ)
    (startsAt endsAt : Timestamp) (db : MeetingDatabase) : Option String :=
  firstBy (db.prefersHost now startsAt endsAt)
    ((poolHosts poolUsers).filter fun host ↦
      (db.overlappingMeetings startsAt endsAt host : ℤ) < maxSimultaneous)

/-- `assign_zoom_host_user`. The advisory lock that it takes first makes assignments follow one
another. -/
def assignZoomHostUser (now : Timestamp) (ref : OwnerRef) (syncClaimedAt : Timestamp)
    (poolUsers : List String) (maxSimultaneous : ℤ) (startsAt endsAt : Option Timestamp)
    (db : MeetingDatabase) : Option String × MeetingDatabase :=
  match startsAt, endsAt with
  | some startsAt, some endsAt =>
    if maxSimultaneous < 1 ∨ endsAt ≤ startsAt ∨ poolUsers = [] then (none, db)
    else match selectHost now poolUsers maxSimultaneous startsAt endsAt db with
      | none => (none, db)
      | some host =>
        (if db.IsClaimHeld ref syncClaimedAt then some host else none,
          db.updateOwner ref (Owner.IsClaimedAt syncClaimedAt)
            fun o ↦ { o with meetingProviderHostUser := some host })
  | _, _ => (none, db)

end Ocg.Meetings
