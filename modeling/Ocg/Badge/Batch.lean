import Mathlib.Data.List.Sort
import Ocg.Relational.Table
import Ocg.Relational.Transaction
import Ocg.Schema.Rows

/-!
# Awarding badges in batches

A badge award job keeps the list of its recipients; a worker claims the job and awards it batch by
batch. Every awarded badge gets a bit in a revocation list of the group, and the batch keeps the
list it allocates from in a local row variable, which it writes back when the list is full and when
the batch ends. Issuance is serialized by an advisory lock, so batches run one after another.

The badge definition, the notification and the audit entry of an award are not modelled.
-/

namespace Ocg

open Relational

/-! ## Rows -/

/-- The number of bits of a status list. -/
def statusListSize : ℕ := 131072

structure BadgeStatusList where
  badgeStatusListId : Uuid
  allocationOffset : ℕ
  allocationPosition : ℕ
  allocationStride : ℕ
  createdAt : Timestamp
  groupId : Uuid
  deriving DecidableEq, Repr

structure UserBadge where
  userBadgeId : Uuid
  awardedAt : Timestamp
  badgeStatusListId : Uuid
  displayOrder : ℕ
  groupId : Uuid
  isListed : Bool
  snapshot : String
  statusListIndex : ℕ
  badgeId : Option Uuid
  eventId : Option Uuid
  revokedAt : Option Timestamp
  userId : Option Uuid
  deriving DecidableEq, Repr

inductive AwardJobStatus
  | completed
  | failed
  | pending
  | processing
  deriving DecidableEq, Repr

structure BadgeAwardJob where
  badgeAwardJobId : Uuid
  acceptedCount : ℤ
  awardedCount : ℤ
  badgeSnapshot : String
  createdAt : Timestamp
  failureCount : ℤ
  groupId : Uuid
  nextAttemptAt : Timestamp
  nextRecipientOffset : ℤ
  recipientCount : ℤ
  skippedCount : ℤ
  status : AwardJobStatus
  badgeId : Option Uuid
  claimId : Option Uuid
  claimedAt : Option Timestamp
  completedAt : Option Timestamp
  error : Option String
  eventId : Option Uuid
  deriving DecidableEq, Repr

structure BadgeAwardJobRecipient where
  badgeAwardJobId : Uuid
  position : ℤ
  userId : Option Uuid
  deriving DecidableEq, Repr

/-- The badge tables, and the users that still exist. -/
structure BadgeDatabase where
  statusLists : List BadgeStatusList
  userBadges : List UserBadge
  jobs : List BadgeAwardJob
  recipients : List BadgeAwardJobRecipient
  users : List Uuid
  nextUuid : Uuid
  deriving DecidableEq, Repr

/-! ## Constraints -/

/-- The `CHECK`s of `badge_status_list`. -/
def BadgeStatusList.Valid (bsl : BadgeStatusList) : Prop :=
  bsl.allocationOffset < statusListSize ∧ bsl.allocationPosition ≤ statusListSize
    ∧ bsl.allocationStride < statusListSize ∧ bsl.allocationStride % 2 = 1

instance BadgeStatusList.decidableValid (bsl : BadgeStatusList) : Decidable bsl.Valid :=
  inferInstanceAs (Decidable (_ ∧ _ ∧ _ ∧ _))

/-- The `CHECK`s of `badge_award_job`. -/
def BadgeAwardJob.Valid (baj : BadgeAwardJob) : Prop :=
  (0 ≤ baj.acceptedCount ∧ 0 ≤ baj.awardedCount ∧ 0 ≤ baj.failureCount
      ∧ 0 ≤ baj.nextRecipientOffset ∧ 0 < baj.recipientCount ∧ 0 ≤ baj.skippedCount)
    ∧ (baj.status = .processing ↔ baj.claimId ≠ none ∧ baj.claimedAt ≠ none)
    ∧ (baj.claimId = none ↔ baj.claimedAt = none)
    ∧ baj.recipientCount ≤ baj.acceptedCount + baj.skippedCount
    ∧ baj.awardedCount + baj.skippedCount ≤ baj.recipientCount
    ∧ baj.nextRecipientOffset ≤ baj.acceptedCount
    ∧ (baj.status = .completed → baj.awardedCount + baj.skippedCount = baj.recipientCount
      ∧ baj.nextRecipientOffset = baj.acceptedCount)
    ∧ (baj.status ∈ [AwardJobStatus.completed, .failed] ↔ baj.completedAt ≠ none)

instance BadgeAwardJob.decidableValid (baj : BadgeAwardJob) : Decidable baj.Valid :=
  inferInstanceAs (Decidable (_ ∧ _ ∧ _ ∧ _ ∧ _ ∧ _ ∧ _ ∧ _))

/-- `UPDATE badge_status_list` of one row. -/
def writeStatusList (new : BadgeStatusList) (db : BadgeDatabase) :
    Except DbError BadgeDatabase := do
  require new.Valid (.violated "badge_status_list_allocation_position_chk")
  .ok { db with
    statusLists := replaceRow BadgeStatusList.badgeStatusListId new db.statusLists }

/-- `UPDATE badge_award_job` of one row. -/
def writeAwardJob (new : BadgeAwardJob) (db : BadgeDatabase) : Except DbError BadgeDatabase := do
  require new.Valid (.violated "badge_award_job_counts_chk")
  .ok { db with jobs := replaceRow BadgeAwardJob.badgeAwardJobId new db.jobs }

/-- `INSERT INTO user_badge`. -/
def insertUserBadge (new : UserBadge) (db : BadgeDatabase) : Except DbError BadgeDatabase := do
  require (new.statusListIndex < statusListSize) (.violated "user_badge_status_list_index_check")
  require (∃ bsl ∈ db.statusLists, bsl.badgeStatusListId = new.badgeStatusListId
      ∧ bsl.groupId = new.groupId)
    (.violated "user_badge_badge_status_list_id_group_id_fkey")
  require (∀ ub ∈ db.userBadges, ¬ (ub.badgeStatusListId = new.badgeStatusListId
      ∧ ub.statusListIndex = new.statusListIndex))
    (.violated "user_badge_status_list_index_key")
  require (∀ ub ∈ db.userBadges, ¬ (ub.revokedAt = none ∧ ub.badgeId ≠ none
      ∧ ub.badgeId = new.badgeId ∧ ub.userId = new.userId))
    (.violated "user_badge_badge_id_user_id_active_idx")
  .ok { db with userBadges := db.userBadges ++ [new] }

/-! ## Allocation -/

/-- `order by created_at desc, badge_status_list_id desc`. -/
def BadgeStatusList.newerThan (bsl bsl' : BadgeStatusList) : Bool :=
  decide (bsl'.createdAt < bsl.createdAt
    ∨ (bsl'.createdAt = bsl.createdAt ∧ bsl'.badgeStatusListId < bsl.badgeStatusListId))

/-- The bit that a list allocates at a position. -/
def BadgeStatusList.indexAt (bsl : BadgeStatusList) (position : ℕ) : ℕ :=
  (bsl.allocationOffset + position * bsl.allocationStride) % statusListSize

/-- Persist a filled list position before selecting another list. -/
def flushFilledList (cursor : Option BadgeStatusList) (db : BadgeDatabase) :
    Except DbError (Option BadgeStatusList × BadgeDatabase) :=
  match cursor with
  | none => .ok (none, db)
  | some bsl =>
    if statusListSize ≤ bsl.allocationPosition then do
      let db ← writeStatusList bsl db
      .ok (none, db)
    else .ok (some bsl, db)

/-- Lock or create the newest group list with remaining capacity. The offset and the stride of a new
list are random column defaults. -/
def openStatusList (random : Uuid → ℕ × ℕ) (now : Timestamp) (groupId : Uuid)
    (cursor : Option BadgeStatusList) (db : BadgeDatabase) :
    Except DbError (BadgeStatusList × BadgeDatabase) :=
  match cursor with
  | some bsl => .ok (bsl, db)
  | none =>
    match firstBy BadgeStatusList.newerThan (db.statusLists.filter fun bsl ↦
        bsl.groupId = groupId ∧ bsl.allocationPosition < statusListSize) with
    | some bsl => .ok (bsl, db)
    | none => do
      let new : BadgeStatusList :=
        { badgeStatusListId := db.nextUuid
          allocationOffset := (random db.nextUuid).1
          allocationPosition := 0
          allocationStride := (random db.nextUuid).2
          createdAt := now
          groupId := groupId }
      require new.Valid (.violated "badge_status_list_allocation_stride_chk")
      .ok (new, { db with nextUuid := db.nextUuid + 1, statusLists := db.statusLists ++ [new] })

/-! ## One recipient -/

/-- The recipient's account is gone, or the recipient holds the badge already. -/
def BadgeDatabase.SkipsRecipient (db : BadgeDatabase) (badge recipient : Option Uuid) : Prop :=
  (∀ user ∈ recipient, user ∉ db.users)
    ∨ ∃ ub ∈ db.userBadges, ub.badgeId ≠ none ∧ ub.badgeId = badge ∧ ub.revokedAt = none
      ∧ ub.userId ≠ none ∧ ub.userId = recipient

instance BadgeDatabase.decidableSkips (db : BadgeDatabase) (badge recipient : Option Uuid) :
    Decidable (db.SkipsRecipient badge recipient) :=
  inferInstanceAs (Decidable (_ ∨ ∃ ub ∈ db.userBadges, _))

/-- `coalesce(max(display_order) + 1, 0)` over the recipient's active badges. -/
def BadgeDatabase.nextDisplayOrder (db : BadgeDatabase) (recipient : Option Uuid) : ℕ :=
  (((db.userBadges.filter fun ub ↦ ub.revokedAt = none ∧ ub.userId ≠ none
    ∧ ub.userId = recipient).map (·.displayOrder + 1)).foldr max 0)

/-- The local variables of the recipient loop: `v_status_list`, null while no list is open, and the
counts of awarded and skipped recipients. -/
structure BatchState where
  db : BadgeDatabase
  cursor : Option BadgeStatusList
  awardedCount : ℤ
  skippedCount : ℤ
  deriving DecidableEq, Repr

/-- One turn of the recipient loop. -/
def awardRecipient (random : Uuid → ℕ × ℕ) (now : Timestamp) (job : BadgeAwardJob)
    (st : BatchState) (recipient : Option Uuid) : Except DbError BatchState :=
  if st.db.SkipsRecipient job.badgeId recipient then
    .ok { st with skippedCount := st.skippedCount + 1 }
  else do
    let (cursor, db) ← flushFilledList st.cursor st.db
    let (bsl, db) ← openStatusList random now job.groupId cursor db
    let badge : UserBadge :=
      { userBadgeId := db.nextUuid
        awardedAt := now
        badgeStatusListId := bsl.badgeStatusListId
        displayOrder := db.nextDisplayOrder recipient
        groupId := job.groupId
        isListed := true
        snapshot := job.badgeSnapshot
        statusListIndex := bsl.indexAt bsl.allocationPosition
        badgeId := job.badgeId
        eventId := job.eventId
        revokedAt := none
        userId := recipient }
    let db ← insertUserBadge badge { db with nextUuid := db.nextUuid + 1 }
    .ok { db := db
          cursor := some { bsl with allocationPosition := bsl.allocationPosition + 1 }
          awardedCount := st.awardedCount + 1
          skippedCount := st.skippedCount }

/-- Persist the final allocation cursor used by this batch. -/
def flushCursor (st : BatchState) : Except DbError BadgeDatabase :=
  match st.cursor with
  | none => .ok st.db
  | some bsl => writeStatusList bsl st.db

/-! ## The batch -/

/-- The answer of a batch. -/
structure BatchReport where
  completed : Bool
  processedCount : ℤ
  rateLimited : Bool
  deriving DecidableEq, Repr

/-- The claimed row, while the claim is the current one. -/
def BadgeDatabase.claimedJob (db : BadgeDatabase) (job claim : Uuid) : Option BadgeAwardJob :=
  db.jobs.find? fun baj ↦ baj.badgeAwardJobId = job ∧ baj.claimId = some claim
    ∧ baj.status = .processing

/-- The recipient slice of a batch, in canonical order. -/
def batchRows (job : BadgeAwardJob) (allowed : ℤ) (db : BadgeDatabase) :
    List BadgeAwardJobRecipient :=
  ((db.recipients.filter fun bajr ↦ bajr.badgeAwardJobId = job.badgeAwardJobId
    ∧ job.nextRecipientOffset ≤ bajr.position).insertionSort fun r r' ↦
      r.position ≤ r'.position).take allowed.toNat

/-- The users of the slice. -/
def batchRecipients (job : BadgeAwardJob) (allowed : ℤ) (db : BadgeDatabase) :
    List (Option Uuid) :=
  (batchRows job allowed db).map (·.userId)

/-- Advance progress and release or complete the current claim. -/
def finishBatch (now : Timestamp) (job : BadgeAwardJob) (allowed : ℤ) (st : BatchState)
    (db : BadgeDatabase) : Except DbError (BatchReport × BadgeDatabase) := do
  let next := job.nextRecipientOffset + allowed
  let complete := decide (job.acceptedCount ≤ next)
  let recipients := if complete then
    db.recipients.filter fun bajr ↦ bajr.badgeAwardJobId ≠ job.badgeAwardJobId else db.recipients
  let db ← writeAwardJob
    { job with
      awardedCount := job.awardedCount + st.awardedCount
      claimId := none
      claimedAt := none
      completedAt := if complete then some now else none
      error := none
      nextAttemptAt := if complete then job.nextAttemptAt else now + 1000000
      nextRecipientOffset := next
      skippedCount := job.skippedCount + st.skippedCount
      status := if complete then .completed else .pending }
    { db with recipients := recipients }
  .ok (⟨complete, allowed, false⟩, db)

/-- `process_badge_award_job_batch`. -/
def processBadgeAwardJobBatch (random : Uuid → ℕ × ℕ) (now : Timestamp) (job claim : Uuid)
    (batchSize rateLimit : ℤ) (db : BadgeDatabase) :
    Except DbError (BatchReport × BadgeDatabase) := do
  require (0 < batchSize) (.raised "badge award batch size must be positive")
  require (0 < rateLimit) (.raised "badge award rate limit must be positive")
  match db.claimedJob job claim with
  | none => .error (.raised "badge award job claim not found")
  | some baj => do
    let awardedLastMinute : ℤ :=
      (db.userBadges.filter fun ub ↦ now - minutes 1 ≤ ub.awardedAt).length
    let remaining := baj.acceptedCount - baj.nextRecipientOffset
    let allowed := min (min batchSize (max 0 (rateLimit - awardedLastMinute))) remaining
    if allowed = 0 ∧ 0 < remaining then do
      -- Release rate-limited work without consuming its failure budget
      let db ← writeAwardJob { baj with
        claimId := none
        claimedAt := none
        nextAttemptAt := now + 5000000
        status := .pending } db
      .ok (⟨false, 0, true⟩, db)
    else do
      let recipients := if 0 < allowed then batchRecipients baj allowed db else []
      require (0 < allowed → (recipients.length : ℤ) = allowed)
        (.raised "badge award job recipients are incomplete")
      let st ← recipients.foldlM (awardRecipient random now baj) ⟨db, none, 0, 0⟩
      let db ← flushCursor st
      finishBatch now baj allowed st db

end Ocg
