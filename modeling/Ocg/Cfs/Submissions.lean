import Ocg.Relational.Locking
import Ocg.Relational.Overlay
import Ocg.Relational.Run
import Ocg.Schema.Rows

/-!
# Sessions and their submissions

Organizers link sessions to submissions of a call for speakers and review the submissions; speakers
withdraw and resubmit them. Only approved submissions may be linked. The trigger on `session` reads
the submission that a row names before the row is written; the foreign key locks it after that, if
the row did not name it before. `update_cfs_submission` locks the submission and then looks for
sessions that name it.

Transactions run at the same time, each on a connection of its own, as in the hierarchy of groups: a
step is a statement, or the part of one between two locks. A statement reads what is committed when
it starts, with the writes of its own transaction over it, and row locks are held until the end.
-/

namespace Ocg.Cfs

open Relational

/-! ## Rows -/

/-- `cfs_submission_status`. -/
inductive SubmissionStatus
  | approved
  | informationRequested
  | notReviewed
  | rejected
  | withdrawn
  deriving DecidableEq, Repr

/-- `cfs_submission`, with the user of its `session_proposal`. -/
structure Submission where
  cfsSubmissionId : Uuid
  eventId : Uuid
  statusId : SubmissionStatus
  userId : Uuid
  deriving DecidableEq, Repr

/-- `session`. A deleted row stays as a version that is not live, which no statement sees. -/
structure Session where
  sessionId : Uuid
  cfsSubmissionId : Option Uuid
  eventId : Uuid
  live : Bool
  deriving DecidableEq, Repr

/-- The submission that a live session is linked to. -/
def Session.link (session : Session) : Option Uuid :=
  if session.live then session.cfsSubmissionId else none

/-! ## Locks -/

/-- The modes of row locks: that of a foreign key, that of an update of other columns, and
`for update`. -/
inductive LockMode
  | keyShare
  | noKeyUpdate
  | forUpdate
  deriving DecidableEq, Repr

def LockMode.Conflicts (mode mode' : LockMode) : Prop :=
  mode = .forUpdate ∨ mode' = .forUpdate ∨ mode = .noKeyUpdate ∧ mode' = .noKeyUpdate

instance : DecidableRel LockMode.Conflicts := fun mode mode' ↦
  inferInstanceAs (Decidable (mode = .forUpdate ∨ mode' = .forUpdate
    ∨ mode = .noKeyUpdate ∧ mode' = .noKeyUpdate))

/-- A session row, a submission row, or an entry of the unique index on `session`, which a writer of
the value or of a row that had it keeps others from using. -/
inductive Lock
  | session (sessionId : Uuid)
  | submission (cfsSubmissionId : Uuid) (mode : LockMode)
  | link (cfsSubmissionId : Uuid)
  deriving DecidableEq, Repr

def Lock.Conflicts : Lock → Lock → Prop
  | .session id, .session id' => id = id'
  | .submission id mode, .submission id' mode' => id = id' ∧ mode.Conflicts mode'
  | .link id, .link id' => id = id'
  | _, _ => False

instance : DecidableRel Lock.Conflicts
  | .session id, .session id' => inferInstanceAs (Decidable (id = id'))
  | .submission id mode, .submission id' mode' =>
    inferInstanceAs (Decidable (id = id' ∧ mode.Conflicts mode'))
  | .link id, .link id' => inferInstanceAs (Decidable (id = id'))
  | .session _, .submission _ _ | .session _, .link _ | .submission _ _, .session _
  | .submission _ _, .link _ | .link _, .session _ | .link _, .submission _ _ =>
    inferInstanceAs (Decidable False)

/-! ## Connections -/

/-- A session in the payload of `sync_event_sessions`. The identifier of a session without one is
the default of its column. -/
structure SessionPayload where
  sessionId : Option Uuid
  defaultId : Uuid
  cfsSubmissionId : Option Uuid
  deriving DecidableEq, Repr

/-- `withdraw_cfs_submission` and `resubmit_cfs_submission`: the statuses from which the user of the
submission may change it, and the status that it gets. -/
structure StatusChange where
  userId : Uuid
  cfsSubmissionId : Uuid
  before : List SubmissionStatus
  after : SubmissionStatus
  err : String
  before_not_approved : SubmissionStatus.approved ∉ before
  deriving DecidableEq, Repr

def withdraw (userId cfsSubmissionId : Uuid) : StatusChange where
  userId := userId
  cfsSubmissionId := cfsSubmissionId
  before := [.informationRequested, .notReviewed]
  after := .withdrawn
  err := "submission not found or cannot be withdrawn"
  before_not_approved := by decide

def resubmit (userId cfsSubmissionId : Uuid) : StatusChange where
  userId := userId
  cfsSubmissionId := cfsSubmissionId
  before := [.informationRequested]
  after := .notReviewed
  err := "submission not found or cannot be resubmitted"
  before_not_approved := by decide

/-- What a connection does next. -/
inductive Stage
  /-- Between two calls. -/
  | ready
  /-- The loop of `sync_event_sessions`, with the identifiers that it has processed. -/
  | saveSessions (eventId : Uuid) (sessions : List SessionPayload) (processed : List Uuid)
  /-- The trigger has let the row pass, and it is written. -/
  | writeSession (eventId : Uuid) (sessions : List SessionPayload) (processed : List Uuid)
    (old : Option Session) (new : Session)
  /-- The foreign key of the row that was written. -/
  | checkReference (eventId : Uuid) (sessions : List SessionPayload) (processed : List Uuid)
    (old : Option Session) (new : Session)
  /-- The last statement of `sync_event_sessions`, with the rows that it still has to visit. -/
  | deleteSessions (eventId : Uuid) (sessionIds : List Uuid)
  /-- `update_cfs_submission`, before it locks the submission. -/
  | lockSubmission (eventId cfsSubmissionId : Uuid) (statusId : SubmissionStatus)
  /-- `update_cfs_submission`, before it looks for links. -/
  | checkLinks (eventId cfsSubmissionId : Uuid) (statusId : SubmissionStatus)
  /-- `update_cfs_submission`, before its update. -/
  | updateSubmission (eventId cfsSubmissionId : Uuid) (statusId : SubmissionStatus)
  /-- The update of `withdraw_cfs_submission` and `resubmit_cfs_submission`. -/
  | findSubmission (change : StatusChange)
  /-- That update, once it has found the row. -/
  | changeStatus (change : StatusChange)
  deriving DecidableEq, Repr

/-- A transaction: its next statement, its locks, and its writes with the last one first. -/
structure Connection where
  stage : Stage
  locked : List Lock
  sessions : List Session
  submissions : List Submission
  deriving DecidableEq, Repr

def Connection.idle : Connection where
  stage := .ready
  locked := []
  sessions := []
  submissions := []

/-- The committed rows, and the connections. -/
structure State (τ : Type) where
  sessions : List Session
  submissions : List Submission
  connection : τ → Connection

/-- Why a statement does not complete. -/
inductive Interrupt
  | waits
  | raises (err : DbError)
  deriving DecidableEq, Repr

section Statements

variable {τ : Type}

/-- The sessions that the statements of a connection read. -/
def State.sessionView (s : State τ) (t : τ) : List Session :=
  overlay Session.sessionId (s.connection t).sessions s.sessions

/-- The submissions that they read. -/
def State.submissionView (s : State τ) (t : τ) : List Submission :=
  overlay Submission.cfsSubmissionId (s.connection t).submissions s.submissions

def State.session? (s : State τ) (t : τ) (sessionId : Uuid) : Option Session :=
  lookup Session.sessionId (s.sessionView t) sessionId

def State.submission? (s : State τ) (t : τ) (cfsSubmissionId : Uuid) : Option Submission :=
  lookup Submission.cfsSubmissionId (s.submissionView t) cfsSubmissionId

/-- `where session_id = … and event_id = …`. -/
def State.eventSession? (s : State τ) (t : τ) (eventId sessionId : Uuid) : Option Session :=
  (s.session? t sessionId).filter fun x ↦ x.live = true ∧ x.eventId = eventId

/-- `exists (select 1 from session s where s.cfs_submission_id = …)`. -/
def State.HasLink (s : State τ) (t : τ) (cfsSubmissionId : Uuid) : Prop :=
  ∃ x ∈ s.sessionView t, x.link = some cfsSubmissionId

instance (s : State τ) (t : τ) (cfsSubmissionId : Uuid) : Decidable (s.HasLink t cfsSubmissionId) :=
  inferInstanceAs (Decidable (∃ x ∈ s.sessionView t, x.link = some cfsSubmissionId))

def State.held (s : State τ) (t : τ) : List Lock := (s.connection t).locked

/-- `check_session_cfs_submission_approved`. -/
def checkSessionCfsSubmissionApproved (s : State τ) (t : τ) (new : Session) :
    Except Interrupt Unit :=
  match new.cfsSubmissionId with
  | none => .ok ()
  | some cfsSubmissionId =>
    match s.submission? t cfsSubmissionId with
    | none => .error (.raises (.raised "cfs submission not found"))
    | some submission => do
      require (submission.eventId = new.eventId)
        (.raises (.raised "cfs submission does not belong to the session event"))
      require (submission.statusId = .approved)
        (.raises (.raised "cfs submission must be approved"))

/-- The submission whose foreign key is checked: one that the row did not name before. -/
def newReference (old : Option Session) (new : Session) : Option Uuid :=
  if old.bind Session.cfsSubmissionId = new.cfsSubmissionId then none else new.cfsSubmissionId

/-- `session_cfs_submission_id_unique_idx`. -/
def LinkUnique (rows : List Session) (new : Session) : Prop :=
  ∀ cfsSubmissionId, new.cfsSubmissionId = some cfsSubmissionId →
    ∀ x ∈ rows, x.link = some cfsSubmissionId → x.sessionId = new.sessionId

instance (rows : List Session) (new : Session) : Decidable (LinkUnique rows new) :=
  decidable_of_iff
    (∀ x ∈ rows, ∀ cfsSubmissionId ∈ new.cfsSubmissionId, x.link = some cfsSubmissionId →
      x.sessionId = new.sessionId)
    ⟨fun h _ hnew x hx hlink ↦ h x hx _ hnew hlink, fun h x hx _ hnew hlink ↦ h _ hnew x hx hlink⟩

/-- `where cfs_submission_id = … and event_id = … and status_id <> 'withdrawn'`. -/
def State.reviewed? (s : State τ) (t : τ) (eventId cfsSubmissionId : Uuid) : Option Submission :=
  (s.submission? t cfsSubmissionId).filter fun q ↦
    q.eventId = eventId ∧ q.statusId ≠ .withdrawn

/-- The conditions of a status change on the submission itself. -/
def State.changed? (s : State τ) (t : τ) (change : StatusChange) : Option Submission :=
  (s.submission? t change.cfsSubmissionId).filter fun q ↦
    q.userId = change.userId ∧ q.statusId ∈ change.before

/-! ## Statements -/

variable [Fintype τ] [DecidableEq τ]

/-- Locks, some of which the connection may already hold. -/
def takeLocks (s : State τ) (t : τ) (locks : List Lock) : Except Interrupt (List Lock) := do
  require (∀ l ∈ locks, Grantable Lock.Conflicts s.held t l) .waits
  .ok (locks ++ s.held t)

/-- The next statement of a connection. -/
def statement (s : State τ) (t : τ) : Except Interrupt Connection :=
  let conn := s.connection t
  match conn.stage with
  | .ready => .error .waits
  | .saveSessions eventId [] processed =>
    let rest := (s.sessionView t).filter fun x ↦
      x.live = true ∧ x.eventId = eventId ∧ x.sessionId ∉ processed
    .ok { conn with stage := .deleteSessions eventId (rest.map Session.sessionId) }
  | .saveSessions eventId (payload :: sessions) processed =>
    match payload.sessionId with
    | some sessionId =>
      match s.eventSession? t eventId sessionId with
      | none => .error (.raises (.raised "session not found for event"))
      | some old => do
        let locked ← takeLocks s t [.session sessionId]
        let new := { old with cfsSubmissionId := payload.cfsSubmissionId }
        checkSessionCfsSubmissionApproved s t new
        .ok { conn with
          stage := .writeSession eventId sessions processed (some old) new
          locked := locked }
    | none => do
      let new : Session :=
        { sessionId := payload.defaultId
          cfsSubmissionId := payload.cfsSubmissionId
          eventId := eventId
          live := true }
      checkSessionCfsSubmissionApproved s t new
      .ok { conn with stage := .writeSession eventId sessions processed none new }
  | .writeSession eventId sessions processed old new => do
    let locked ← takeLocks s t (.session new.sessionId
      :: ((old.bind Session.cfsSubmissionId).toList ++ new.cfsSubmissionId.toList).map .link)
    require (old = none → (s.session? t new.sessionId).all (·.live = false))
      (.raises (.violated "session_pkey"))
    require (LinkUnique (s.sessionView t) new)
      (.raises (.violated "session_cfs_submission_id_unique_idx"))
    .ok { conn with
      stage := .checkReference eventId sessions processed old new
      locked := locked
      sessions := new :: conn.sessions }
  | .checkReference eventId sessions processed old new => do
    let locked ← takeLocks s t ((newReference old new).toList.map (.submission · .keyShare))
    .ok { conn with
      stage := .saveSessions eventId sessions (processed ++ [new.sessionId])
      locked := locked }
  | .deleteSessions _ [] => .ok { conn with stage := .ready }
  | .deleteSessions eventId (sessionId :: sessionIds) =>
    match s.eventSession? t eventId sessionId with
    | none => .ok { conn with stage := .deleteSessions eventId sessionIds }
    | some old => do
      let locked ← takeLocks s t (.session sessionId :: old.cfsSubmissionId.toList.map .link)
      .ok { conn with
        stage := .deleteSessions eventId sessionIds
        locked := locked
        sessions := { old with live := false } :: conn.sessions }
  | .lockSubmission eventId cfsSubmissionId statusId => do
    require (statusId ≠ .withdrawn) (.raises (.raised "invalid submission status"))
    match s.reviewed? t eventId cfsSubmissionId with
    | none => .error (.raises (.raised "submission not found"))
    | some _ => do
      let locked ← takeLocks s t [.submission cfsSubmissionId .forUpdate]
      .ok { conn with
        stage := .checkLinks eventId cfsSubmissionId statusId
        locked := locked }
  | .checkLinks eventId cfsSubmissionId statusId => do
    require (statusId = .approved ∨ ¬ s.HasLink t cfsSubmissionId)
      (.raises (.raised "linked submissions must remain approved"))
    .ok { conn with stage := .updateSubmission eventId cfsSubmissionId statusId }
  | .updateSubmission eventId cfsSubmissionId statusId =>
    match s.reviewed? t eventId cfsSubmissionId with
    | none => .ok { conn with stage := .ready }
    | some old => do
      let locked ← takeLocks s t [.submission cfsSubmissionId .noKeyUpdate]
      .ok { conn with
        stage := .ready
        locked := locked
        submissions := { old with statusId := statusId } :: conn.submissions }
  | .findSubmission change => do
    require ((s.changed? t change).isSome ∧ ¬ s.HasLink t change.cfsSubmissionId)
      (.raises (.raised change.err))
    .ok { conn with stage := .changeStatus change }
  | .changeStatus change =>
    -- the row is looked at again, but not the sessions
    match s.changed? t change with
    | none => .error (.raises (.raised change.err))
    | some old => do
      let locked ← takeLocks s t [.submission change.cfsSubmissionId .noKeyUpdate]
      .ok { conn with
        stage := .ready
        locked := locked
        submissions := { old with statusId := change.after } :: conn.submissions }

/-! ## Runs -/

/-- A call of a database function. Without sessions in its payload, `sync_event_sessions` removes
all sessions of the event. -/
inductive Call
  | syncEventSessions (eventId : Uuid) (sessions : Option (List SessionPayload))
  | updateCfsSubmission (eventId cfsSubmissionId : Uuid) (statusId : SubmissionStatus)
  | withdrawCfsSubmission (userId cfsSubmissionId : Uuid)
  | resubmitCfsSubmission (userId cfsSubmissionId : Uuid)
  deriving DecidableEq, Repr

/-- Where a call starts. -/
def Call.stage : Call → Stage
  | .syncEventSessions eventId sessions => .saveSessions eventId (sessions.getD []) []
  | .updateCfsSubmission eventId cfsSubmissionId statusId =>
    .lockSubmission eventId cfsSubmissionId statusId
  | .withdrawCfsSubmission userId cfsSubmissionId =>
    .findSubmission (withdraw userId cfsSubmissionId)
  | .resubmitCfsSubmission userId cfsSubmissionId =>
    .findSubmission (resubmit userId cfsSubmissionId)

/-- What happens on a connection. -/
inductive Action
  | call (request : Call)
  | advance
  | commit
  | rollback
  deriving DecidableEq, Repr

def State.connect (s : State τ) (t : τ) (conn : Connection) : State τ :=
  { s with connection := Function.update s.connection t conn }

/-- What a transaction sees is committed. -/
def State.commit (s : State τ) (t : τ) : State τ :=
  State.connect
    { s with
      sessions := s.sessionView t
      submissions := s.submissionView t } t .idle

def Action.run (t : τ) (action : Action) (s : State τ) : Except Interrupt (State τ) :=
  let conn := s.connection t
  match action with
  | .call request => do
    require (conn.stage = .ready) .waits
    .ok (s.connect t { conn with stage := request.stage })
  | .advance =>
    match statement s t with
    | .ok conn' => .ok (s.connect t conn')
    | .error (.raises _) => .ok (s.connect t .idle)
    | .error .waits => .error .waits
  | .commit => do
    require (conn.stage = .ready) .waits
    .ok (s.commit t)
  | .rollback => .ok (s.connect t .idle)

/-- Every session that is linked has an approved submission of its event, and no other session has
the same one. -/
structure Linked (sessions : List Session) (submissions : List Submission) : Prop where
  approved : ∀ x ∈ sessions, ∀ id, x.link = some id → ∃ q ∈ submissions,
    q.cfsSubmissionId = id ∧ q.eventId = x.eventId ∧ q.statusId = .approved
  unique : ∀ x ∈ sessions, ∀ x' ∈ sessions, ∀ id, x.link = some id → x'.link = some id → x = x'

/-- Any sessions and submissions in order, and no transaction yet. -/
structure Init (s : State τ) : Prop where
  sessionId_nodup : (s.sessions.map Session.sessionId).Nodup
  cfsSubmissionId_nodup : (s.submissions.map Submission.cfsSubmissionId).Nodup
  linked : Linked s.sessions s.submissions
  idle : ∀ t, s.connection t = .idle

/-- The states that the connections may reach. -/
def State.Reached (s : State τ) : Prop :=
  Reachable (fun _ s s' ↦ ∃ t action, Action.run t action s = .ok s') (fun _ _ ↦ True) Init () s

end Statements

end Ocg.Cfs
