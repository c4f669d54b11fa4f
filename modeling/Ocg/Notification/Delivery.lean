import Mathlib
import Ocg.Relational.Table
import Ocg.Relational.Transaction
import Ocg.Schema.Rows

/-!
# Delivering notifications

Delivery workers claim a pending notification, send it, and report the outcome under the claim time;
a recovery worker marks abandoned claims, and an operator requeues what failed. The five functions
of the store that move a notification are followed by the worker's report, which picks one of them.

The email itself (address, template, attachments) is not modelled: an outcome is what the transport
or the preparation answered.
-/

namespace Ocg

open Relational

/-- `make_interval(secs => n)`, in microseconds. -/
def seconds (n : ℤ) : ℤ := n * 1000000

/-! ## Rows -/

inductive DeliveryStatus
  | deliveryUnknown
  | failed
  | pending
  | processed
  | processing
  deriving DecidableEq, Repr

/-- The kinds that a claim tells apart; the others by their name. -/
inductive NotificationKind
  | emailVerification
  | eventAdmissionOfferCanceled
  | eventAdmissionOfferCreated
  | eventInvitation
  | other (name : String)
  deriving DecidableEq, Repr

inductive RegistrationStatus
  | preRegistered
  | registered
  deriving DecidableEq, Repr

structure Notification where
  notificationId : Uuid
  createdAt : Timestamp
  deliveryAttempts : ℕ
  deliveryStatus : DeliveryStatus
  kind : NotificationKind
  userId : Uuid
  deliveryClaimedAt : Option Timestamp
  error : Option String
  nextDeliveryAttemptAt : Option Timestamp
  processedAt : Option Timestamp
  deriving DecidableEq, Repr

structure NotificationUser where
  userId : Uuid
  emailVerified : Bool
  registrationStatus : RegistrationStatus
  deriving DecidableEq, Repr

structure NotificationDatabase where
  notifications : List Notification
  users : List NotificationUser
  nextUuid : Uuid
  deriving DecidableEq, Repr

/-- The `CHECK`s of `notification`. -/
def Notification.Valid (n : Notification) : Prop :=
  (∀ error ∈ n.error, btrim error ≠ "")
    ∧ (n.nextDeliveryAttemptAt = none ∨ n.deliveryStatus = .pending)

instance Notification.decidableValid (n : Notification) : Decidable n.Valid :=
  inferInstanceAs (Decidable (_ ∧ _))

def NotificationDatabase.replace (db : NotificationDatabase) (new : Notification) :
    NotificationDatabase :=
  { db with notifications := replaceRow Notification.notificationId new db.notifications }

/-- `UPDATE notification` of one row. -/
def writeNotification (new : Notification) (db : NotificationDatabase) :
    Except DbError NotificationDatabase := do
  require new.Valid (.violated "notification_error_check")
  .ok (db.replace new)

/-! ## Enqueueing -/

/-- One row of `enqueue_notification`. -/
def insertNotification (kind : NotificationKind) (now : Timestamp) (db : NotificationDatabase)
    (recipient : Uuid) : NotificationDatabase :=
  { db with
    nextUuid := db.nextUuid + 1
    notifications := db.notifications ++
      [{ notificationId := db.nextUuid
         createdAt := now
         deliveryAttempts := 0
         deliveryStatus := .pending
         kind := kind
         userId := recipient
         deliveryClaimedAt := none
         error := none
         nextDeliveryAttemptAt := none
         processedAt := none }] }

/-- `enqueue_notification`, for the recipients that did not opt out of the kind. -/
def enqueueNotification (kind : NotificationKind) (recipients : List Uuid) (now : Timestamp)
    (db : NotificationDatabase) : Except DbError NotificationDatabase := do
  require (∀ recipient ∈ recipients, ∃ u ∈ db.users, u.userId = recipient)
    (.violated "notification_user_id_fkey")
  .ok (recipients.foldl (insertNotification kind now) db)

/-! ## Claiming -/

/-- What a worker remembers of its claim. -/
structure DeliveryClaim where
  notificationId : Uuid
  deliveryClaimedAt : Timestamp
  deriving DecidableEq, Repr

/-- The recipient can be written to. -/
def NotificationUser.IsReachable (u : NotificationUser) (kind : NotificationKind) : Prop :=
  (u.registrationStatus = .registered ∧ u.emailVerified = true)
    ∨ kind = .emailVerification
    ∨ (kind ∈ [NotificationKind.eventAdmissionOfferCanceled, .eventAdmissionOfferCreated,
        .eventInvitation] ∧ u.registrationStatus = .preRegistered)

instance (u : NotificationUser) (kind : NotificationKind) : Decidable (u.IsReachable kind) :=
  inferInstanceAs (Decidable (_ ∨ _ ∨ _))

/-- The notification is due for delivery. -/
def NotificationDatabase.IsDeliverable (db : NotificationDatabase) (now : Timestamp)
    (n : Notification) : Prop :=
  n.deliveryStatus = .pending
    ∧ (∀ next ∈ n.nextDeliveryAttemptAt, next ≤ now)
    ∧ ∃ u ∈ db.users, u.userId = n.userId ∧ u.IsReachable n.kind

instance (db : NotificationDatabase) (now : Timestamp) (n : Notification) :
    Decidable (db.IsDeliverable now n) :=
  inferInstanceAs (Decidable (_ ∧ _ ∧ ∃ u ∈ db.users, _))

/-- The row that a claim writes. -/
def Notification.claim (n : Notification) (now : Timestamp) : Notification :=
  { n with
    deliveryAttempts := n.deliveryAttempts + 1
    deliveryClaimedAt := some now
    deliveryStatus := .processing
    error := none
    nextDeliveryAttemptAt := none
    processedAt := none }

/-- `claim_pending_notification`. The rows that other transactions hold are skipped. -/
def claimPendingNotification (locked : Uuid → Bool) (rateLimit rateLimitWindow : ℤ)
    (now : Timestamp) (db : NotificationDatabase) :
    Except DbError (Option DeliveryClaim × NotificationDatabase) := do
  require (0 < rateLimit) (.raised "delivery rate limit must be positive")
  require (0 < rateLimitWindow) (.raised "delivery rate limit window must be positive")
  let claimed := db.notifications.filter fun n ↦
    ∃ claimedAt ∈ n.deliveryClaimedAt, now - seconds rateLimitWindow ≤ claimedAt
  if rateLimit ≤ claimed.length then .ok (none, db)
  else
    -- Find the oldest deliverable pending notification
    match firstBy (fun n n' ↦ decide (n.createdAt < n'.createdAt)) (db.notifications.filter fun n ↦
        db.IsDeliverable now n ∧ locked n.notificationId = false) with
    | none => .ok (none, db)
    | some n => do
      let db ← writeNotification (n.claim now) db
      .ok (some ⟨n.notificationId, now⟩, db)

/-! ## Reporting -/

/-- The row of a claim that is still active. -/
def NotificationDatabase.claimed (db : NotificationDatabase) (claim : DeliveryClaim) :
    Option Notification :=
  db.notifications.find? fun n ↦ n.notificationId = claim.notificationId
    ∧ n.deliveryStatus = .processing ∧ n.deliveryClaimedAt = some claim.deliveryClaimedAt

def claimNotFound : DbError :=
  .raised "notification delivery claim not found or no longer active"

/-- `update_notification`. -/
def updateNotification (claim : DeliveryClaim) (error : Option String) (now : Timestamp)
    (db : NotificationDatabase) : Except DbError NotificationDatabase :=
  match db.claimed claim with
  | none => .error claimNotFound
  | some n =>
    writeNotification
      { n with
        deliveryStatus := if error = none then .processed else .failed
        error := error
        nextDeliveryAttemptAt := none
        processedAt := some now } db

/-- The delay, in seconds, before the next attempt. -/
def retryAfter (base maximum : ℤ) (attempts : ℕ) : ℤ :=
  min maximum (base * 2 ^ min (attempts - 1) 30)

/-- `requeue_notification`. -/
def requeueNotification (claim : DeliveryClaim) (error : String) (base maximum maxAttempts : ℤ)
    (now : Timestamp) (db : NotificationDatabase) : Except DbError NotificationDatabase := do
  require (btrim error ≠ "") (.raised "delivery error is required")
  require (0 < base) (.raised "base retry delay must be positive")
  require (0 < maximum) (.raised "maximum retry delay must be positive")
  require (base ≤ maximum) (.raised "maximum retry delay cannot be less than base retry delay")
  require (0 < maxAttempts) (.raised "maximum delivery attempts must be positive")
  match db.claimed claim with
  | none => .error claimNotFound
  | some n =>
    if maxAttempts ≤ n.deliveryAttempts then
      writeNotification
        { n with
          deliveryStatus := .failed
          error := some error
          nextDeliveryAttemptAt := none
          processedAt := some now } db
    else do
      require (base * 2 ^ min (n.deliveryAttempts - 1) 30 < 2 ^ 63) (.raised "bigint out of range")
      writeNotification
        { n with
          deliveryStatus := .pending
          error := some error
          nextDeliveryAttemptAt := some (now + seconds (retryAfter base maximum n.deliveryAttempts))
          processedAt := none } db

/-- `mark_notification_delivery_unknown`. -/
def markNotificationDeliveryUnknown (claim : DeliveryClaim) (error : String) (now : Timestamp)
    (db : NotificationDatabase) : Except DbError NotificationDatabase := do
  require (btrim error ≠ "") (.raised "delivery error is required")
  match db.claimed claim with
  | none => .error claimNotFound
  | some n =>
    writeNotification
      { n with
        deliveryStatus := .deliveryUnknown
        error := some error
        nextDeliveryAttemptAt := none
        processedAt := some now } db

/-! ## Sweeping and requeueing -/

/-- An abandoned claim. -/
def Notification.IsStale (n : Notification) (processingTimeout : ℤ) (now : Timestamp) : Prop :=
  n.deliveryStatus = .processing
    ∧ ∃ claimedAt ∈ n.deliveryClaimedAt, claimedAt < now - seconds processingTimeout

instance (n : Notification) (processingTimeout : ℤ) (now : Timestamp) :
    Decidable (n.IsStale processingTimeout now) := inferInstanceAs (Decidable (_ ∧ _))

/-- The row that the sweep writes. -/
def Notification.abandon (n : Notification) (now : Timestamp) : Notification :=
  { n with
    deliveryStatus := .deliveryUnknown
    error := some "delivery outcome unknown after processing timeout"
    nextDeliveryAttemptAt := none
    processedAt := some now }

/-- `mark_stale_processing_notifications_unknown`. -/
def markStaleProcessingNotificationsUnknown (processingTimeout : ℤ) (now : Timestamp)
    (db : NotificationDatabase) : Except DbError (ℕ × NotificationDatabase) := do
  require (0 < processingTimeout) (.raised "processing timeout must be positive")
  .ok ((db.notifications.filter fun n ↦ n.IsStale processingTimeout now).length,
    { db with
      notifications := updateWhere (fun n ↦ n.IsStale processingTimeout now)
        (fun n ↦ n.abandon now) db.notifications })

/-- The operator may requeue the notification. -/
def Notification.IsRequeueable (n : Notification) (notificationIds : List Uuid) : Prop :=
  n.notificationId ∈ notificationIds ∧ n.deliveryStatus ∈ [DeliveryStatus.deliveryUnknown, .failed]

instance (n : Notification) (notificationIds : List Uuid) :
    Decidable (n.IsRequeueable notificationIds) := inferInstanceAs (Decidable (_ ∧ _))

/-- The row that a manual requeue writes. -/
def Notification.requeue (n : Notification) (reason : String) : Notification :=
  { n with
    deliveryAttempts := 0
    deliveryClaimedAt := none
    deliveryStatus := .pending
    error := some reason
    nextDeliveryAttemptAt := none
    processedAt := none }

/-- `manual_requeue_notifications`. -/
def manualRequeueNotifications (notificationIds : List Uuid) (reason : String)
    (db : NotificationDatabase) : Except DbError (ℕ × NotificationDatabase) := do
  require (notificationIds ≠ []) (.raised "notification ids are required")
  require (btrim reason ≠ "") (.raised "requeue reason is required")
  .ok ((db.notifications.filter fun n ↦ n.IsRequeueable notificationIds).length,
    { db with
      notifications := updateWhere (fun n ↦ n.IsRequeueable notificationIds)
        (fun n ↦ n.requeue reason) db.notifications })

/-! ## The delivery worker -/

/-- `DELIVERY_MAX_CLAIMS`. -/
def deliveryMaxClaims : ℤ := 10

/-- `DELIVERY_PROCESSING_TIMEOUT`, in seconds. -/
def deliveryProcessingTimeout : ℤ := 15 * 60

/-- `DELIVERY_REQUEUE_BASE_DELAY`, in seconds. -/
def deliveryRequeueBaseDelay : ℤ := 60

/-- `DELIVERY_REQUEUE_MAX_DELAY`, in seconds. -/
def deliveryRequeueMaxDelay : ℤ := 30 * 60

inductive EmailDeliveryError
  | retryable (error : String)
  | terminal (error : String)
  | unknown (error : String)
  deriving DecidableEq, Repr

/-- How an attempt ended: the preparation of the email may fail before it is sent. -/
inductive DeliveryOutcome
  | sent
  | unprepared (error : String)
  | undelivered (error : EmailDeliveryError)
  deriving DecidableEq, Repr

/-- `record_delivery_error`. -/
def recordDeliveryError (claim : DeliveryClaim) (err : EmailDeliveryError) (now : Timestamp)
    (db : NotificationDatabase) : Except DbError NotificationDatabase :=
  match err with
  | .retryable error => requeueNotification claim error deliveryRequeueBaseDelay
    deliveryRequeueMaxDelay deliveryMaxClaims now db
  | .terminal error => updateNotification claim (some error) now db
  | .unknown error => markNotificationDeliveryUnknown claim error now db

/-- The report of `deliver_notification`, the only one that a worker makes under a claim. -/
def reportDelivery (claim : DeliveryClaim) (outcome : DeliveryOutcome) (now : Timestamp)
    (db : NotificationDatabase) : Except DbError NotificationDatabase :=
  match outcome with
  | .sent => updateNotification claim none now db
  | .unprepared error => updateNotification claim (some error) now db
  | .undelivered err => recordDeliveryError claim err now db

end Ocg
