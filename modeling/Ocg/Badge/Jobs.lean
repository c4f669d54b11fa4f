import Mathlib
import Ocg.Badge.Batch

/-!
# Badge award jobs

An award request stores a job with the list of its recipients. Workers claim due jobs and process
them in batches; a batch that raises is recorded as a failure of the job, a claim whose worker is
gone is recovered, and an operator may requeue a job that failed for good.

The actor, the audit entries and the checks of an award request on the group, its permissions, the
badge and the eligibility of the recipients are not modelled: the checks are one parameter.
-/

namespace Ocg

open Relational

/-! ## Creating -/

structure AwardRequest where
  badgeId : Uuid
  badgeSnapshot : String
  groupId : Uuid
  userIds : List (Option Uuid)
  eventId : Option Uuid
  deriving DecidableEq, Repr

/-- The checks that come before the list of recipients, and those of their eligibility: the message
of one that fails. -/
structure AwardChecks where
  request : AwardRequest → Option String
  recipients : AwardRequest → List Uuid → Option String

def raiseAny (message : Option String) : Except DbError Unit :=
  require (message = none) (.raised (message.getD ""))

/-- The user holds the badge, or durable work will award it. -/
def BadgeDatabase.Owns (db : BadgeDatabase) (badge user : Uuid) : Prop :=
  (∃ ub ∈ db.userBadges, ub.badgeId = some badge ∧ ub.revokedAt = none ∧ ub.userId = some user)
    ∨ ∃ bajr ∈ db.recipients, bajr.userId = some user ∧ ∃ baj ∈ db.jobs,
      baj.badgeAwardJobId = bajr.badgeAwardJobId ∧ baj.badgeId = some badge
        ∧ baj.status ∈ [AwardJobStatus.failed, .pending, .processing]

instance BadgeDatabase.decidableOwns (db : BadgeDatabase) (badge user : Uuid) :
    Decidable (db.Owns badge user) :=
  inferInstanceAs (Decidable ((∃ ub ∈ db.userBadges, _) ∨ ∃ bajr ∈ db.recipients, _))

/-- `array_agg(distinct … order by …)`. -/
def distinctInOrder (users : List Uuid) : List Uuid :=
  users.dedup.insertionSort (· ≤ ·)

/-- The job that `award_badge` inserts. -/
def AwardRequest.job (request : AwardRequest) (id : Uuid) (recipients accepted : List Uuid)
    (now : Timestamp) : BadgeAwardJob where
  badgeAwardJobId := id
  acceptedCount := accepted.length
  awardedCount := 0
  badgeSnapshot := request.badgeSnapshot
  createdAt := now
  failureCount := 0
  groupId := request.groupId
  nextAttemptAt := now
  nextRecipientOffset := 0
  recipientCount := recipients.length
  skippedCount := recipients.length - accepted.length
  status := .pending
  badgeId := some request.badgeId
  claimId := none
  claimedAt := none
  completedAt := none
  error := none
  eventId := request.eventId

/-- The recipients with their positions. -/
def recipientRows (job : Uuid) (accepted : List Uuid) : List BadgeAwardJobRecipient :=
  accepted.zipIdx.map fun recipient ↦ ⟨job, recipient.2, some recipient.1⟩

/-- `award_badge`. It returns how many recipients were queued and how many were skipped. -/
def awardBadge (checks : AwardChecks) (request : AwardRequest) (now : Timestamp)
    (db : BadgeDatabase) : Except DbError ((ℕ × ℕ) × BadgeDatabase) := do
  raiseAny (checks.request request)
  require (request.userIds ≠ [] ∧ none ∉ request.userIds)
    (.raised "badge recipients cannot be empty")
  let recipients := distinctInOrder (request.userIds.filterMap id)
  raiseAny (checks.recipients request recipients)
  -- Exclude current holders and recipients already owned by durable work
  let accepted := recipients.filter fun user ↦ ¬ db.Owns request.badgeId user
  let counts := (accepted.length, recipients.length - accepted.length)
  if accepted = [] then .ok (counts, db)
  else do
    let new := request.job db.nextUuid recipients accepted now
    require new.Valid (.violated "badge_award_job_counts_chk")
    .ok (counts, { db with
      jobs := db.jobs ++ [new]
      recipients := db.recipients ++ recipientRows db.nextUuid accepted
      nextUuid := db.nextUuid + 1 })

/-! ## Claiming -/

/-- `order by next_attempt_at, created_at, badge_award_job_id`. -/
def BadgeAwardJob.dueBefore (baj baj' : BadgeAwardJob) : Bool :=
  decide (baj.nextAttemptAt < baj'.nextAttemptAt
    ∨ baj.nextAttemptAt = baj'.nextAttemptAt ∧ (baj.createdAt < baj'.createdAt
      ∨ baj.createdAt = baj'.createdAt ∧ baj.badgeAwardJobId < baj'.badgeAwardJobId))

/-- What a worker remembers of its claim. -/
structure AwardClaim where
  badgeAwardJobId : Uuid
  claimId : Uuid
  deriving DecidableEq, Repr

/-- `claim_badge_award_job`. The rows that other transactions hold are skipped. -/
def claimBadgeAwardJob (locked : Uuid → Bool) (now : Timestamp) (db : BadgeDatabase) :
    Except DbError (Option AwardClaim × BadgeDatabase) :=
  match firstBy BadgeAwardJob.dueBefore (db.jobs.filter fun baj ↦ baj.status = .pending
      ∧ baj.nextAttemptAt ≤ now ∧ locked baj.badgeAwardJobId = false) with
  | none => .ok (none, db)
  | some baj => do
    let db' ← writeAwardJob
      { baj with
        claimId := some db.nextUuid
        claimedAt := some now
        status := .processing } { db with nextUuid := db.nextUuid + 1 }
    .ok (some ⟨baj.badgeAwardJobId, db.nextUuid⟩, db')

/-! ## Failing and recovering -/

/-- `left(coalesce(nullif(btrim(p_error), ''), 'badge award processing failed'), 1000)`. -/
def failureText (error : Option String) : String :=
  let text := (error.map btrim).getD ""
  String.ofList
    ((if text = "" then "badge award processing failed" else text).toList.take 1000)

/-- The row that a failure writes. -/
def BadgeAwardJob.fail (baj : BadgeAwardJob) (error : String) (terminal : Bool)
    (nextAttemptAt now : Timestamp) : BadgeAwardJob :=
  { baj with
    claimId := none
    claimedAt := none
    completedAt := if terminal then some now else none
    error := some error
    failureCount := baj.failureCount + 1
    nextAttemptAt := nextAttemptAt
    status := if terminal then .failed else .pending }

/-- `record_badge_award_job_failure`. -/
def recordBadgeAwardJobFailure (job claim : Uuid) (error : Option String) (maxFailures : ℤ)
    (now : Timestamp) (db : BadgeDatabase) : Except DbError (Bool × BadgeDatabase) := do
  require (0 < maxFailures) (.raised "badge award job failure limit must be positive")
  match db.claimedJob job claim with
  | none => .error (.raised "badge award job claim not found")
  | some baj => do
    let terminal := decide (maxFailures ≤ baj.failureCount + 1)
    let delay : ℤ := 60 * 2 ^ baj.failureCount.toNat
    require (terminal = true ∨ delay < 2 ^ 31) (.raised "integer out of range")
    let db ← writeAwardJob (baj.fail (failureText error) terminal
      (if terminal then baj.nextAttemptAt else now + min 1800 delay * 1000000) now) db
    .ok (terminal, db)

/-- An abandoned claim. -/
def BadgeAwardJob.IsStale (baj : BadgeAwardJob) (processingTimeout : ℤ) (now : Timestamp) : Prop :=
  baj.status = .processing
    ∧ ∃ claimedAt ∈ baj.claimedAt, claimedAt < now - processingTimeout * 1000000

instance BadgeAwardJob.decidableStale (baj : BadgeAwardJob) (processingTimeout : ℤ)
    (now : Timestamp) : Decidable (baj.IsStale processingTimeout now) :=
  inferInstanceAs (Decidable (_ ∧ _))

/-- `order by claimed_at, badge_award_job_id`. -/
def BadgeAwardJob.claimedBefore (baj baj' : BadgeAwardJob) : Prop :=
  baj.claimedAt.getD 0 < baj'.claimedAt.getD 0
    ∨ baj.claimedAt.getD 0 = baj'.claimedAt.getD 0 ∧ baj.badgeAwardJobId ≤ baj'.badgeAwardJobId

instance : DecidableRel BadgeAwardJob.claimedBefore := fun _ _ ↦
  inferInstanceAs (Decidable (_ ∨ _))

/-- `recover_stale_badge_award_jobs`, of the replica that gets the advisory lock. The rows that
other transactions hold are skipped. -/
def recoverStaleBadgeAwardJobs (locked : Uuid → Bool) (processingTimeout maxFailures : ℤ)
    (now : Timestamp) (db : BadgeDatabase) : Except DbError (ℕ × BadgeDatabase) := do
  require (0 < maxFailures) (.raised "badge award job failure limit must be positive")
  require (0 < processingTimeout) (.raised "badge award job processing timeout must be positive")
  let stale := ((db.jobs.filter fun baj ↦ baj.IsStale processingTimeout now
    ∧ locked baj.badgeAwardJobId = false).insertionSort BadgeAwardJob.claimedBefore).take 100
  let db ← stale.foldlM (fun db baj ↦ writeAwardJob (baj.fail "badge award worker claim expired"
    (maxFailures ≤ baj.failureCount + 1) now now) db) db
  .ok (stale.length, db)

/-- `requeue_badge_award_job`. -/
def requeueBadgeAwardJob (job : Uuid) (now : Timestamp) (db : BadgeDatabase) :
    Except DbError BadgeDatabase :=
  match db.jobs.find? fun baj ↦ baj.badgeAwardJobId = job ∧ baj.status = .failed with
  | none => .error (.raised "failed badge award job not found")
  | some baj =>
    writeAwardJob
      { baj with
        completedAt := none
        error := none
        failureCount := 0
        nextAttemptAt := now
        status := .pending } db

/-! ## Cleaning up -/

/-- A terminal summary past its retention period. -/
def BadgeAwardJob.IsExpired (baj : BadgeAwardJob) (retention : ℤ) (now : Timestamp) : Prop :=
  baj.status ∈ [AwardJobStatus.completed, .failed]
    ∧ ∃ completedAt ∈ baj.completedAt, completedAt < now - retention * 1000000

instance BadgeAwardJob.decidableExpired (baj : BadgeAwardJob) (retention : ℤ) (now : Timestamp) :
    Decidable (baj.IsExpired retention now) :=
  inferInstanceAs (Decidable (_ ∧ _))

/-- `order by completed_at, badge_award_job_id`. -/
def BadgeAwardJob.completedBefore (baj baj' : BadgeAwardJob) : Prop :=
  baj.completedAt.getD 0 < baj'.completedAt.getD 0
    ∨ baj.completedAt.getD 0 = baj'.completedAt.getD 0
      ∧ baj.badgeAwardJobId ≤ baj'.badgeAwardJobId

instance : DecidableRel BadgeAwardJob.completedBefore := fun _ _ ↦
  inferInstanceAs (Decidable (_ ∨ _))

/-- `cleanup_badge_award_jobs`. The recipients of a deleted job go with it. -/
def cleanupBadgeAwardJobs (locked : Uuid → Bool) (retention : ℤ) (now : Timestamp)
    (db : BadgeDatabase) : Except DbError (ℕ × BadgeDatabase) := do
  require (0 < retention) (.raised "badge award job retention must be positive")
  let expired := (((db.jobs.filter fun baj ↦ baj.IsExpired retention now
    ∧ locked baj.badgeAwardJobId = false).insertionSort BadgeAwardJob.completedBefore).take
      100).map (·.badgeAwardJobId)
  .ok (expired.length, { db with
    jobs := db.jobs.filter fun baj ↦ baj.badgeAwardJobId ∉ expired
    recipients := db.recipients.filter fun bajr ↦ bajr.badgeAwardJobId ∉ expired })

end Ocg
