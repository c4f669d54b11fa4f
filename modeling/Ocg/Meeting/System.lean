import Ocg.Meeting.Edit
import Ocg.Relational.Run

/-!
# Organizers and workers

Organizers edit events while any number of workers synchronize meetings. A worker keeps what it
claimed, the host it reserved and what the provider returned between its transactions; this is the
job of the worker. The provider is represented by the identifiers of the meetings it has created,
which it gives out once.

Every operation is one transaction, or one call to the provider. Claims do not time out.
-/

namespace Ocg.Meetings

open Relational

variable {H : Type} [DecidableEq H]

/-- How far a creation has come. -/
inductive Stage
  | claimed
  | assigned (host : String)
  | created (host : String) (meeting : ProviderMeeting)
  deriving DecidableEq, Repr

/-- What a worker remembers of the claim it works on. -/
structure Job (H : Type) where
  worker : ℕ
  claim : Claim H
  stage : Stage
  deriving DecidableEq, Repr

/-- The database, the jobs of the workers, and the identifiers that the provider has given out. -/
structure Service (H : Type) where
  db : MeetingDatabase
  jobs : List (Job H)
  provided : List String
  deriving DecidableEq, Repr

/-- The configuration of the meetings provider, which is validated at startup. -/
structure ZoomConfig where
  hostPoolUsers : List String
  maxSimultaneousMeetingsPerHost : ℤ
  positive : 1 ≤ maxSimultaneousMeetingsPerHost

/-- An operation of an organizer. -/
inductive Edit
  | addEvent (payload : EventPayload)
  | updateEvent (id : Uuid) (payload : EventPayload)
  | publishEvent (id : Uuid)
  | unpublishEvent (id : Uuid)
  | cancelEvent (id : Uuid)
  | deleteEvent (id : Uuid)
  deriving DecidableEq, Repr

def Edit.run (rules : Rules) (now : Timestamp) (edit : Edit) (db : MeetingDatabase) :
    Except DbError MeetingDatabase :=
  match edit with
  | .addEvent payload => Meetings.addEvent rules now payload db
  | .updateEvent id payload => Meetings.updateEvent rules now id payload db
  | .publishEvent id => Meetings.publishEvent rules id db
  | .unpublishEvent id => Meetings.unpublishEvent id db
  | .cancelEvent id => Meetings.cancelEvent rules now id db
  | .deleteEvent id => Meetings.deleteEvent rules id db

/-- How a worker ends a job. -/
inductive Completion
  | add
  | update (meeting : ProviderMeeting)
  | delete
  | setError (error : String)
  deriving DecidableEq, Repr

/-- A step of the service. A worker is named by its number. -/
inductive Operation
  | edit (edit : Edit)
  | claim (worker : ℕ) (case : ClaimCase)
  | assign (worker : ℕ)
  | create (worker : ℕ) (meeting : ProviderMeeting)
  | complete (worker : ℕ) (completion : Completion)
  | release (worker : ℕ)
  deriving DecidableEq, Repr

/-- The error of an operation that is not due. -/
def notDue : DbError := .raised "no such step"

variable (digest : SyncInputs → H)

/-- The hash that the statement of a completion evaluates. -/
def currentHash (claim : Claim H) (db : MeetingDatabase) : Option H :=
  claim.owner.bind (db.syncStateHash digest)

/-- The database function that a completion of the job calls, with the hash that its statement has
evaluated. Only a created meeting is added, and only a deletion deletes. -/
def Job.complete (job : Job H) (completion : Completion) (current : Option H)
    (db : MeetingDatabase) : Except DbError MeetingDatabase :=
  match completion, job.claim.owner, job.claim.syncAction, job.stage with
  | .add, some ref, .create, .created host meeting =>
    addMeeting ref job.claim (some host) meeting current db
  | .update meeting, some ref, .update, _ => .ok (updateMeeting ref job.claim meeting current db)
  | .delete, _, .delete, _ => .ok (deleteMeeting job.claim current db)
  | .setError error, _, _, _ => .ok (setMeetingError job.claim error current db)
  | _, _, _, _ => .error notDue

/-- The job of a worker. -/
def Service.job? (worker : ℕ) (sys : Service H) : Option (Job H) :=
  sys.jobs.find? fun job ↦ job.worker = worker

/-- The worker is done. -/
def Service.finish (worker : ℕ) (db : MeetingDatabase) (sys : Service H) : Service H :=
  { sys with
    db := db
    jobs := sys.jobs.filter fun job ↦ job.worker ≠ worker }

/-- `assign_zoom_host_user` of a worker that creates a meeting, which keeps a host that came with
the claim; without a free host, the job stays where it is and fails. -/
def Job.assign (cfg : ZoomConfig) (now : Timestamp) (job : Job H) (db : MeetingDatabase) :
    Except DbError (Job H × MeetingDatabase) :=
  match job.claim.owner, job.claim.syncAction, job.stage with
  | some ref, .create, .claimed =>
    match job.claim.providerHostUserId with
    | some host => .ok ({ job with stage := .assigned host }, db)
    | none =>
      let (host, db) := assignZoomHostUser now ref job.claim.syncClaimedAt cfg.hostPoolUsers
        cfg.maxSimultaneousMeetingsPerHost job.claim.startsAt job.claim.endsAt db
      .ok ({ job with stage := host.elim .claimed .assigned }, db)
  | _, _, _ => .error notDue

/-- The provider creates a meeting, once a host is assigned. -/
def Job.create (meeting : ProviderMeeting) (provided : List String) (job : Job H) :
    Except DbError (Job H) :=
  match job.stage with
  | .assigned host =>
    if meeting.id ∈ provided then .error notDue
    else .ok { job with stage := .created host meeting }
  | _ => .error notDue

/-- Runs one operation. -/
def Operation.run (digest : SyncInputs → H) (rules : Rules) (cfg : ZoomConfig) (now : Timestamp)
    (op : Operation) (sys : Service H) : Except DbError (Service H) :=
  match op with
  | .edit e => do
    let db ← e.run rules now sys.db
    .ok { sys with db := db }
  | .claim worker case =>
    match sys.job? worker, claimMeetingOutOfSync digest now case sys.db with
    | none, some (taken, db) => .ok { sys with
        db := db
        jobs := sys.jobs ++ [⟨worker, taken, .claimed⟩] }
    | _, _ => .error notDue
  | .assign worker =>
    match sys.job? worker with
    | none => .error notDue
    | some job => do
      let (job, db) ← job.assign cfg now sys.db
      .ok { sys with
        db := db
        jobs := replaceRow Job.worker job sys.jobs }
  | .create worker meeting =>
    match sys.job? worker with
    | none => .error notDue
    | some job => do
      let job ← job.create meeting sys.provided
      .ok { sys with
        jobs := replaceRow Job.worker job sys.jobs
        provided := sys.provided ++ [meeting.id] }
  | .complete worker completion =>
    match sys.job? worker with
    | none => .error notDue
    | some job => do
      let db ← job.complete completion (currentHash digest job.claim sys.db) sys.db
      .ok (sys.finish worker db)
  | .release worker =>
    match sys.job? worker with
    | none => .error notDue
    | some job => .ok (sys.finish worker (releaseMeetingSyncClaim job.claim sys.db))

/-- One committed step. -/
def Step (cfg : ZoomConfig) (now : Timestamp) (sys sys' : Service H) : Prop :=
  ∃ (rules : Rules) (op : Operation), op.run digest rules cfg now sys = .ok sys'

/-- No events yet. -/
def Service.Fresh (sys : Service H) : Prop :=
  sys.db.events = [] ∧ sys.db.sessions = [] ∧ sys.db.meetings = [] ∧ sys.jobs = []
    ∧ sys.provided = []

instance Service.decidableFresh (sys : Service H) : Decidable sys.Fresh :=
  inferInstanceAs (Decidable (_ ∧ _))

/-- The states that a service reaches. Transactions may start in another order than they commit
in. -/
def Service.Reached (cfg : ZoomConfig) (now : Timestamp) (sys : Service H) : Prop :=
  Reachable (Step digest cfg) (fun _ _ ↦ True) Service.Fresh now sys

/-! ## Guarded runs -/

/-- A condition on an edit, the time and the state in which it starts. -/
abbrev EditGuard (H : Type) := Timestamp → Edit → Service H → Prop

/-- The guard allows the operation, which it does unless that is an edit. -/
def Operation.IsAllowed (guard : Edit → Prop) : Operation → Prop
  | .edit e => guard e
  | _ => True

instance Operation.decidableIsAllowed (guard : Edit → Prop) [DecidablePred guard] (op : Operation) :
    Decidable (op.IsAllowed guard) :=
  match op with
  | .edit e => inferInstanceAs (Decidable (guard e))
  | .claim .. | .assign .. | .create .. | .complete .. | .release .. => .isTrue trivial

/-- One committed step that the guard allows. -/
def GuardedStep (guard : EditGuard H) (cfg : ZoomConfig) (now : Timestamp) (sys sys' : Service H) :
    Prop :=
  ∃ (rules : Rules) (op : Operation),
    op.IsAllowed (guard now · sys) ∧ op.run digest rules cfg now sys = .ok sys'

/-- The states of runs in which the guard allows every step. -/
def Service.ReachedUnder (guard : EditGuard H) (cfg : ZoomConfig) (now : Timestamp)
    (sys : Service H) : Prop :=
  Reachable (GuardedStep digest guard cfg) (fun _ _ ↦ True) Service.Fresh now sys

variable {digest} in
theorem Service.ReachedUnder.reached {guard : EditGuard H} {cfg : ZoomConfig} {now : Timestamp}
    {sys : Service H} (h : sys.ReachedUnder digest guard cfg now) : sys.Reached digest cfg now :=
  Reachable.mono h (fun _ _ _ ↦ trivial) fun _ _ _ ⟨rules, op, _, hrun⟩ ↦ ⟨rules, op, hrun⟩

/-! ## A sample service

One host user, and events without rules of their own, for the concrete runs of the modules that
follow. Sync inputs are their own digest. -/

def sampleRules : Rules :=
  ⟨fun _ _ ↦ .ok (), fun _ _ _ ↦ .ok (), fun _ _ ↦ .ok (), fun _ _ ↦ .ok (), fun _ _ ↦ .ok ()⟩

def sampleConfig : ZoomConfig := ⟨["host@example.org"], 1, le_rfl⟩

def sampleService : Service SyncInputs := ⟨⟨[], [], [], 1⟩, [], []⟩

/-- The meeting fields of a payload with a time, with or without an automatic meeting. -/
def samplePayload (startsAt endsAt : Timestamp) (requested : Option Bool) : OwnerPayload where
  endsAt := some endsAt
  meetingHosts := none
  meetingJoinInstructions := none
  meetingJoinUrl := none
  meetingProviderId := if requested = some true then some "zoom" else none
  meetingRequested := requested
  name := "Meeting"
  startsAt := some startsAt

def sampleEventPayload (owner : OwnerPayload) (sessions : List SessionPayload) : EventPayload where
  toOwnerPayload := owner
  hosts := []
  kindId := .virtual
  meetingRecordingRequested := none
  registrationEndsAt := none
  registrationStartsAt := none
  sessions := some sessions
  speakers := []
  timezone := "UTC"

def sampleSessionPayload (sessionId : Option Uuid) (owner : OwnerPayload) : SessionPayload where
  toOwnerPayload := owner
  cfsSpeakers := []
  kind := .virtual
  sessionId := sessionId
  speakers := []

/-- The meeting that the provider returns. -/
def sampleMeeting (id : String) : ProviderMeeting := ⟨id, "https://example.org/j", none⟩

/-- A script that commits on the sample service is a run. -/
theorem exists_reached (script : List (Timestamp × Operation)) (P : Service SyncInputs → Prop)
    (h : Replays (Operation.run id sampleRules sampleConfig) script sampleService P) :
    ∃ sys : Service SyncInputs,
      sys.Reached id sampleConfig ((script.map Prod.fst).getLastD 0) ∧ P sys := by
  obtain ⟨sys, hscript, hP⟩ := exists_of_replays h
  exact ⟨sys, reachable_of_replay (fun _ op _ _ hrun ↦ ⟨sampleRules, op, hrun⟩)
    (.start (by decide)) (List.pairwise_of_forall fun _ _ ↦ trivial) hscript, hP⟩

/-- The operation, if the guard allows it. -/
def Operation.runUnder (guard : EditGuard SyncInputs) [∀ t e s, Decidable (guard t e s)]
    (now : Timestamp) (op : Operation) (sys : Service SyncInputs) :
    Except DbError (Service SyncInputs) := do
  require (op.IsAllowed (guard now · sys)) notDue
  op.run id sampleRules sampleConfig now sys

theorem exists_reachedUnder (guard : EditGuard SyncInputs) [∀ t e s, Decidable (guard t e s)]
    (script : List (Timestamp × Operation)) (P : Service SyncInputs → Prop)
    (h : Replays (Operation.runUnder guard) script sampleService P) :
    ∃ sys : Service SyncInputs,
      sys.ReachedUnder id guard sampleConfig ((script.map Prod.fst).getLastD 0) ∧ P sys := by
  obtain ⟨sys, hscript, hP⟩ := exists_of_replays h
  refine ⟨sys, reachable_of_replay (fun _ op _ _ hrun ↦ ?_) (.start (by decide))
    (List.pairwise_of_forall fun _ _ ↦ trivial) hscript, hP⟩
  simp only [Operation.runUnder, bind_eq_ok, require_eq_ok] at hrun
  obtain ⟨-, hallowed, hrun⟩ := hrun
  exact ⟨sampleRules, op, hallowed, hrun⟩

end Ocg.Meetings
