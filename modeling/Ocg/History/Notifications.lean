import Ocg.Notification.Delivery
import Ocg.Relational.Run

/-!
# A claim is the delivery lease

The claim time of a notification is the lease of the worker that claimed it: a report counts only
under the time that the row still carries. Times of transactions do not run backwards, and the
claims that workers have not reported yet are part of the state, so a claim that lost its row is
told apart from every later one. The log of claims, retryable failures and operator requeues is kept
beside the database to count them.
-/

namespace Ocg

open Relational

/-! ## The system -/

inductive DeliveryEvent
  | claimed (claim : DeliveryClaim)
  | failedRetryably (notificationId : Uuid) (failedAt : Timestamp)
  | requeued (notificationIds : List Uuid)
  deriving DecidableEq, Repr

/-- The database, the claims under which a worker has not reported yet, and the events, newest
first. -/
structure Delivery where
  db : NotificationDatabase
  inFlight : List DeliveryClaim
  log : List DeliveryEvent
  deriving DecidableEq, Repr

/-- The worker that reports this outcome asks for another attempt. -/
def DeliveryOutcome.IsRetryable : DeliveryOutcome → Bool
  | .undelivered (.retryable _) => true
  | _ => false

/-- A worker reports under its claim, once. A report that raises changes nothing. -/
def Delivery.report (now : Timestamp) (claim : DeliveryClaim) (outcome : DeliveryOutcome)
    (s : Delivery) : Delivery :=
  match reportDelivery claim outcome now s.db with
  | .error _ => { s with inFlight := s.inFlight.erase claim }
  | .ok db =>
    { db := db
      inFlight := s.inFlight.erase claim
      log := if outcome.IsRetryable then .failedRetryably claim.notificationId now :: s.log
        else s.log }

/-- One transaction on the notifications. -/
inductive DeliveryOperation
  | claim (locked : Uuid → Bool) (rateLimit window : ℤ)
  | report (claim : DeliveryClaim) (outcome : DeliveryOutcome)
  | sweep
  | manualRequeue (notificationIds : List Uuid) (reason : String)
  | enqueue (kind : NotificationKind) (recipients : List Uuid)
  /-- Accounts change; the notifications of deleted accounts go with them. -/
  | accounts (users : List NotificationUser) (deleted : List Uuid)

def DeliveryOperation.run (now : Timestamp) (op : DeliveryOperation) (s : Delivery) :
    Except DbError Delivery :=
  match op with
  | .claim locked rateLimit window => do
    let (granted, db) ← claimPendingNotification locked rateLimit window now s.db
    .ok { db := db
          inFlight := s.inFlight ++ granted.toList
          log := granted.toList.map .claimed ++ s.log }
  | .report c outcome => .ok (s.report now c outcome)
  | .sweep => do
    let (_, db) ← markStaleProcessingNotificationsUnknown deliveryProcessingTimeout now s.db
    .ok { s with db := db }
  | .manualRequeue notificationIds reason => do
    let (_, db) ← manualRequeueNotifications notificationIds reason s.db
    let requeued := s.db.notifications.filter fun n ↦ n.IsRequeueable notificationIds
    .ok { s with db := db, log := .requeued (requeued.map (·.notificationId)) :: s.log }
  | .enqueue kind recipients => do
    let db ← enqueueNotification kind recipients now s.db
    .ok { s with db := db }
  | .accounts users deleted =>
    .ok { s with db := { s.db with
      users := users
      notifications := s.db.notifications.filter fun n ↦ n.userId ∉ deleted } }

/-- A worker reports under a claim that it holds. -/
def DeliveryOperation.IsHeld (s : Delivery) : DeliveryOperation → Prop
  | .report c _ => c ∈ s.inFlight
  | _ => True

/-- The steps of the system, by the operations that are allowed. -/
def DeliveryStep (allowed : Timestamp → Delivery → DeliveryOperation → Prop) (now : Timestamp)
    (s s' : Delivery) : Prop :=
  ∃ op : DeliveryOperation, op.IsHeld s ∧ allowed now s op ∧ op.run now s = .ok s'

instance DeliveryOperation.decidableHeld (s : Delivery) :
    (op : DeliveryOperation) → Decidable (op.IsHeld s)
  | .report c _ => inferInstanceAs (Decidable (c ∈ s.inFlight))
  | .claim _ _ _ | .sweep | .manualRequeue _ _ | .enqueue _ _ | .accounts _ _ =>
    inferInstanceAs (Decidable True)

/-- Before the first notification. -/
def Delivery.Fresh (s : Delivery) : Prop :=
  s.db.notifications = [] ∧ s.inFlight = [] ∧ s.log = []

/-- The states of the delivery system, at nondecreasing transaction times. -/
def Delivery.Reached (now : Timestamp) (s : Delivery) : Prop :=
  Reachable (DeliveryStep fun _ _ _ ↦ True) (· ≤ ·) Delivery.Fresh now s

/-- What a history goes on to from a state. -/
def Delivery.ReachedFrom (now₀ : Timestamp) (s₀ : Delivery) (now : Timestamp) (s : Delivery) :
    Prop :=
  Continues (DeliveryStep fun _ _ _ ↦ True) (· ≤ ·) now₀ s₀ now s

/-! ## Counting since the last operator requeue -/

def DeliveryEvent.Requeues (id : Uuid) : DeliveryEvent → Bool
  | .requeued ids => ids.contains id
  | _ => false

/-- The events since an operator last requeued the notification. -/
def sinceRequeue (id : Uuid) (log : List DeliveryEvent) : List DeliveryEvent :=
  log.takeWhile fun e ↦ !e.Requeues id

def DeliveryEvent.Claims (id : Uuid) : DeliveryEvent → Bool
  | .claimed c => c.notificationId = id
  | _ => false

def claimsSinceRequeue (id : Uuid) (log : List DeliveryEvent) : ℕ :=
  (sinceRequeue id log).countP fun e ↦ e.Claims id

def DeliveryEvent.IsFailureOf (id : Uuid) : DeliveryEvent → Bool
  | .failedRetryably i _ => i = id
  | _ => false

def failuresSinceRequeue (id : Uuid) (log : List DeliveryEvent) : ℕ :=
  (sinceRequeue id log).countP fun e ↦ e.IsFailureOf id

section Counts

variable (id i : Uuid) (c : DeliveryClaim) (t : Timestamp) (ids : List Uuid)
  (log : List DeliveryEvent)

@[simp] theorem claimsSinceRequeue_claimed : claimsSinceRequeue id (.claimed c :: log)
    = claimsSinceRequeue id log + if c.notificationId = id then 1 else 0 := by
  simp [claimsSinceRequeue, sinceRequeue, DeliveryEvent.Requeues, DeliveryEvent.Claims,
    List.countP_cons]

@[simp] theorem claimsSinceRequeue_failedRetryably :
    claimsSinceRequeue id (.failedRetryably i t :: log) = claimsSinceRequeue id log := by
  simp [claimsSinceRequeue, sinceRequeue, DeliveryEvent.Requeues, DeliveryEvent.Claims]

@[simp] theorem claimsSinceRequeue_requeued : claimsSinceRequeue id (.requeued ids :: log)
    = if id ∈ ids then 0 else claimsSinceRequeue id log := by
  by_cases h : id ∈ ids <;>
    simp [claimsSinceRequeue, sinceRequeue, DeliveryEvent.Requeues, DeliveryEvent.Claims, h]

@[simp] theorem failuresSinceRequeue_claimed :
    failuresSinceRequeue id (.claimed c :: log) = failuresSinceRequeue id log := by
  simp [failuresSinceRequeue, sinceRequeue, DeliveryEvent.Requeues, DeliveryEvent.IsFailureOf]

@[simp] theorem failuresSinceRequeue_failedRetryably :
    failuresSinceRequeue id (.failedRetryably i t :: log)
      = failuresSinceRequeue id log + if i = id then 1 else 0 := by
  simp [failuresSinceRequeue, sinceRequeue, DeliveryEvent.Requeues, DeliveryEvent.IsFailureOf,
    List.countP_cons]

@[simp] theorem failuresSinceRequeue_requeued : failuresSinceRequeue id (.requeued ids :: log)
    = if id ∈ ids then 0 else failuresSinceRequeue id log := by
  by_cases h : id ∈ ids <;>
    simp [failuresSinceRequeue, sinceRequeue, DeliveryEvent.Requeues,
      DeliveryEvent.IsFailureOf, h]

end Counts

/-! ## What each function does -/

variable {now : Timestamp} {db db' : NotificationDatabase} {claim : DeliveryClaim}

theorem writeNotification_eq_ok {new : Notification} (h : writeNotification new db = .ok db') :
    db' = db.replace new := by
  simp only [writeNotification, bind_eq_ok, require_eq_ok] at h
  obtain ⟨-, -, h⟩ := h
  exact (Except.ok.inj h).symm

/-- A claim is granted while the rows that show a claim of the window are fewer than the limit. -/
theorem claimPendingNotification_spec {locked : Uuid → Bool} {rateLimit window : ℤ}
    {granted : Option DeliveryClaim}
    (h : claimPendingNotification locked rateLimit window now db = .ok (granted, db')) :
    (granted = none ∧ db' = db) ∨ ∃ n ∈ db.notifications, db.IsDeliverable now n
      ∧ ((db.notifications.countP fun n ↦
        ∃ t ∈ n.deliveryClaimedAt, now - seconds window ≤ t) : ℤ) < rateLimit
      ∧ granted = some ⟨n.notificationId, now⟩ ∧ db' = db.replace (n.claim now) := by
  simp only [claimPendingNotification, bind_eq_ok, require_eq_ok] at h
  obtain ⟨-, -, -, -, h⟩ := h
  split_ifs at h with hrate
  · obtain ⟨rfl, rfl⟩ := Prod.mk.inj (Except.ok.inj h)
    exact .inl ⟨rfl, rfl⟩
  · split at h
    · obtain ⟨rfl, rfl⟩ := Prod.mk.inj (Except.ok.inj h)
      exact .inl ⟨rfl, rfl⟩
    · next n hn =>
      obtain ⟨hmem, hselected⟩ := List.mem_filter.1 (firstBy_mem hn)
      simp only [bind_eq_ok] at h
      obtain ⟨u, hu, h⟩ := h
      obtain ⟨rfl, rfl⟩ := Prod.mk.inj (Except.ok.inj h)
      refine .inr ⟨n, hmem, (of_decide_eq_true hselected).1, ?_, rfl, writeNotification_eq_ok hu⟩
      rw [List.countP_eq_length_filter]
      exact not_le.1 hrate

/-- The row that a report may be made for. -/
def NotificationDatabase.IsLive (db : NotificationDatabase) (claim : DeliveryClaim) : Prop :=
  ∃ n ∈ db.notifications, n.notificationId = claim.notificationId ∧ n.deliveryStatus = .processing
    ∧ n.deliveryClaimedAt = some claim.deliveryClaimedAt

theorem NotificationDatabase.claimed_eq_some {n : Notification} (h : db.claimed claim = some n) :
    n ∈ db.notifications ∧ n.notificationId = claim.notificationId ∧ n.deliveryStatus = .processing
      ∧ n.deliveryClaimedAt = some claim.deliveryClaimedAt :=
  ⟨List.mem_of_find?_eq_some h, by simpa using List.find?_some h⟩

/-- What a report may write to the row of a live claim. -/
structure Notification.Reported (now : Timestamp) (outcome : DeliveryOutcome)
    (n new : Notification) : Prop where
  id : new.notificationId = n.notificationId
  attempts : new.deliveryAttempts = n.deliveryAttempts
  claimedAt : new.deliveryClaimedAt = n.deliveryClaimedAt
  /-- The claim is finalized, or the row waits for its next attempt. -/
  status : new.deliveryStatus ∈ [DeliveryStatus.deliveryUnknown, .failed, .processed]
    ∧ (outcome.IsRetryable = true → 10 ≤ n.deliveryAttempts)
    ∨ outcome.IsRetryable = true ∧ n.deliveryAttempts < 10 ∧ new.deliveryStatus = .pending
      ∧ new.nextDeliveryAttemptAt = some (now + seconds (retryAfter deliveryRequeueBaseDelay
        deliveryRequeueMaxDelay n.deliveryAttempts))

section Reports

variable {outcome : DeliveryOutcome}

theorem updateNotification_spec {error : Option String} (hfinal : outcome.IsRetryable = false)
    (h : updateNotification claim error now db = .ok db') :
    ∃ n, db.claimed claim = some n ∧ ∃ new, n.Reported now outcome new ∧ db' = db.replace new := by
  rw [updateNotification] at h
  cases hn : db.claimed claim with
  | none => simp [hn] at h
  | some n =>
    simp only [hn] at h
    refine ⟨n, rfl, _, ?_, writeNotification_eq_ok h⟩
    refine ⟨rfl, rfl, rfl, .inl ⟨?_, by simp [hfinal]⟩⟩
    by_cases herror : error = none <;> simp [herror]

theorem markNotificationDeliveryUnknown_spec {error : String}
    (hfinal : outcome.IsRetryable = false)
    (h : markNotificationDeliveryUnknown claim error now db = .ok db') :
    ∃ n, db.claimed claim = some n ∧ ∃ new, n.Reported now outcome new ∧ db' = db.replace new := by
  simp only [markNotificationDeliveryUnknown, bind_eq_ok, require_eq_ok] at h
  obtain ⟨-, -, h⟩ := h
  cases hn : db.claimed claim with
  | none => simp [hn] at h
  | some n =>
    simp only [hn] at h
    refine ⟨n, rfl, _, ?_, writeNotification_eq_ok h⟩
    exact ⟨rfl, rfl, rfl, .inl ⟨by simp, by simp [hfinal]⟩⟩

theorem requeueNotification_spec {error : String} (hretryable : outcome.IsRetryable = true)
    (h : requeueNotification claim error deliveryRequeueBaseDelay deliveryRequeueMaxDelay
      deliveryMaxClaims now db = .ok db') :
    ∃ n, db.claimed claim = some n ∧ ∃ new, n.Reported now outcome new ∧ db' = db.replace new := by
  simp only [requeueNotification, bind_eq_ok, require_eq_ok] at h
  obtain ⟨-, -, -, -, -, -, -, -, -, -, h⟩ := h
  cases hn : db.claimed claim with
  | none => simp [hn] at h
  | some n =>
    simp only [hn] at h
    by_cases hbudget : deliveryMaxClaims ≤ n.deliveryAttempts
    · rw [if_pos hbudget] at h
      have hspent : 10 ≤ n.deliveryAttempts := by
        rw [deliveryMaxClaims] at hbudget
        omega
      refine ⟨n, rfl, _, ?_, writeNotification_eq_ok h⟩
      exact ⟨rfl, rfl, rfl, .inl ⟨by simp, fun _ ↦ hspent⟩⟩
    · simp only [if_neg hbudget, bind_eq_ok, require_eq_ok] at h
      obtain ⟨-, -, h⟩ := h
      have hroom : n.deliveryAttempts < 10 := by
        rw [deliveryMaxClaims] at hbudget
        omega
      refine ⟨n, rfl, _, ?_, writeNotification_eq_ok h⟩
      exact ⟨rfl, rfl, rfl, .inr ⟨hretryable, hroom, rfl, rfl⟩⟩

/-- **A report needs the lease**, and writes one row. -/
theorem reportDelivery_spec (h : reportDelivery claim outcome now db = .ok db') :
    ∃ n, db.claimed claim = some n ∧ ∃ new, n.Reported now outcome new ∧ db' = db.replace new := by
  cases outcome with
  | sent => exact updateNotification_spec rfl h
  | unprepared error => exact updateNotification_spec rfl h
  | undelivered err =>
    cases err with
    | retryable error => exact requeueNotification_spec rfl h
    | terminal error => exact updateNotification_spec rfl h
    | unknown error => exact markNotificationDeliveryUnknown_spec rfl h

end Reports

theorem reportDelivery_of_not_isLive {outcome : DeliveryOutcome} (h : ¬ db.IsLive claim) :
    ∃ e, reportDelivery claim outcome now db = .error e := by
  cases hreport : reportDelivery claim outcome now db with
  | error e => exact ⟨e, rfl⟩
  | ok db' =>
    obtain ⟨n, hn, -⟩ := reportDelivery_spec hreport
    exact absurd ⟨n, NotificationDatabase.claimed_eq_some hn⟩ h

/-- What an operation makes of the system. -/
inductive DeliveryEffect (now : Timestamp) (s : Delivery) : DeliveryOperation → Delivery → Prop
  | unclaimed {locked : Uuid → Bool} {rateLimit window : ℤ} :
    DeliveryEffect now s (.claim locked rateLimit window) s
  | claimed {locked : Uuid → Bool} {rateLimit window : ℤ} {n : Notification}
    (hn : n ∈ s.db.notifications) (hdue : s.db.IsDeliverable now n)
    (hroom : ((s.db.notifications.countP fun n ↦
      ∃ t ∈ n.deliveryClaimedAt, now - seconds window ≤ t) : ℤ) < rateLimit) :
    DeliveryEffect now s (.claim locked rateLimit window)
      { db := s.db.replace (n.claim now)
        inFlight := s.inFlight ++ [⟨n.notificationId, now⟩]
        log := .claimed ⟨n.notificationId, now⟩ :: s.log }
  | raised {c : DeliveryClaim} {outcome : DeliveryOutcome} :
    DeliveryEffect now s (.report c outcome) { s with inFlight := s.inFlight.erase c }
  | reported {c : DeliveryClaim} {outcome : DeliveryOutcome} {n new : Notification}
    (hclaimed : s.db.claimed c = some n) (hnew : n.Reported now outcome new) :
    DeliveryEffect now s (.report c outcome)
      { db := s.db.replace new
        inFlight := s.inFlight.erase c
        log := if outcome.IsRetryable then .failedRetryably c.notificationId now :: s.log
          else s.log }
  | swept : DeliveryEffect now s .sweep
      { s with db := { s.db with
        notifications := updateWhere (fun n ↦ n.IsStale deliveryProcessingTimeout now)
          (fun n ↦ n.abandon now) s.db.notifications } }
  | requeued {notificationIds : List Uuid} {reason : String} :
    DeliveryEffect now s (.manualRequeue notificationIds reason)
      { s with
        db := { s.db with
          notifications := updateWhere (fun n ↦ n.IsRequeueable notificationIds)
            (fun n ↦ n.requeue reason) s.db.notifications }
        log := .requeued ((s.db.notifications.filter fun n ↦
          n.IsRequeueable notificationIds).map (·.notificationId)) :: s.log }
  | enqueued {kind : NotificationKind} {recipients : List Uuid} :
    DeliveryEffect now s (.enqueue kind recipients)
      { s with db := recipients.foldl (insertNotification kind now) s.db }
  | accounts {users : List NotificationUser} {deleted : List Uuid} :
    DeliveryEffect now s (.accounts users deleted)
      { s with db := { s.db with
        users := users
        notifications := s.db.notifications.filter fun n ↦ n.userId ∉ deleted } }

theorem DeliveryOperation.effect {op : DeliveryOperation} {s s' : Delivery}
    (h : op.run now s = .ok s') : DeliveryEffect now s op s' := by
  cases op with
  | claim locked rateLimit window =>
    simp only [run, bind_eq_ok] at h
    obtain ⟨⟨granted, db'⟩, hclaim, h⟩ := h
    obtain rfl := Except.ok.inj h
    obtain ⟨rfl, rfl⟩ | ⟨n, hn, hdue, hroom, rfl, rfl⟩ := claimPendingNotification_spec hclaim
    · simpa using DeliveryEffect.unclaimed
    · exact .claimed hn hdue hroom
  | report c outcome =>
    obtain rfl := Except.ok.inj h
    rw [Delivery.report]
    cases hreport : reportDelivery c outcome now s.db with
    | error e => exact .raised
    | ok db' =>
      obtain ⟨n, hclaimed, new, hnew, rfl⟩ := reportDelivery_spec hreport
      exact .reported hclaimed hnew
  | sweep =>
    simp only [run, markStaleProcessingNotificationsUnknown, bind_eq_ok, require_eq_ok] at h
    obtain ⟨⟨count, db'⟩, ⟨-, -, hsweep⟩, h⟩ := h
    obtain rfl := Except.ok.inj h
    obtain ⟨-, rfl⟩ := Prod.mk.inj (Except.ok.inj hsweep)
    exact .swept
  | manualRequeue notificationIds reason =>
    simp only [run, manualRequeueNotifications, bind_eq_ok, require_eq_ok] at h
    obtain ⟨⟨count, db'⟩, ⟨-, -, -, -, hrequeue⟩, h⟩ := h
    obtain rfl := Except.ok.inj h
    obtain ⟨-, rfl⟩ := Prod.mk.inj (Except.ok.inj hrequeue)
    exact .requeued
  | enqueue kind recipients =>
    simp only [run, enqueueNotification, bind_eq_ok, require_eq_ok] at h
    obtain ⟨db', ⟨-, -, henqueue⟩, h⟩ := h
    obtain rfl := Except.ok.inj h
    obtain rfl := Except.ok.inj henqueue
    exact .enqueued
  | accounts users deleted =>
    obtain rfl := Except.ok.inj h
    exact .accounts

/-! ## What every history keeps -/

/-- How the counters of a row agree with the log. -/
structure Notification.Accounted (log : List DeliveryEvent) (n : Notification) : Prop where
  claims : claimsSinceRequeue n.notificationId log = n.deliveryAttempts
  budget : n.deliveryAttempts ≤ 10
  pending : n.deliveryStatus = .pending → n.deliveryAttempts < 10
    ∧ failuresSinceRequeue n.notificationId log = n.deliveryAttempts
  processing : n.deliveryStatus = .processing →
    failuresSinceRequeue n.notificationId log + 1 = n.deliveryAttempts

/-- The delay after the `k`-th retryable failure. -/
def backoff (k : ℕ) : ℤ :=
  seconds (min deliveryRequeueMaxDelay (deliveryRequeueBaseDelay * 2 ^ (k - 1)))

structure Delivery.Coherent (now : Timestamp) (s : Delivery) : Prop where
  keys : (s.db.notifications.map Notification.notificationId).Nodup
  fresh : ∀ n ∈ s.db.notifications, n.notificationId < s.db.nextUuid
  unclaimed : ∀ id, s.db.nextUuid ≤ id →
    claimsSinceRequeue id s.log = 0 ∧ failuresSinceRequeue id s.log = 0
  accounted : ∀ n ∈ s.db.notifications, n.Accounted s.log
  budget : ∀ id, claimsSinceRequeue id s.log ≤ 10
  distinct : s.inFlight.Nodup
  issued : ∀ claim ∈ s.inFlight, claim.notificationId < s.db.nextUuid
  /-- A claim that lost its row is older than any claim to come, or its row is gone. -/
  lost : ∀ claim ∈ s.inFlight, ¬ s.db.IsLive claim → claim.deliveryClaimedAt < now
    ∨ ∀ n ∈ s.db.notifications, n.notificationId ≠ claim.notificationId
  /-- The row of the latest failure waits. -/
  waiting : ∀ id failedAt rest, s.log = .failedRetryably id failedAt :: rest →
    failuresSinceRequeue id s.log < 10 → ∀ n ∈ s.db.notifications, n.notificationId = id →
      n.deliveryStatus = .pending
        ∧ n.nextDeliveryAttemptAt = some (failedAt + backoff (failuresSinceRequeue id s.log))

section Keeps

variable {s : Delivery}

theorem Delivery.Coherent.after_wait (h : s.Coherent now) {later : Timestamp} (hle : now ≤ later) :
    s.Coherent later :=
  { h with lost := fun c hc hdead ↦ (h.lost c hc hdead).imp_left fun hlt ↦ hlt.trans_le hle }

theorem Delivery.Coherent.live_unique (h : s.Coherent now) {claim claim' : DeliveryClaim}
    (hlive : s.db.IsLive claim) (hlive' : s.db.IsLive claim')
    (hid : claim.notificationId = claim'.notificationId) : claim = claim' := by
  -- the rows of two live claims of one notification are one row
  obtain ⟨n, hn, hn_id, -, hclaimed⟩ := hlive
  obtain ⟨n', hn', hn'_id, -, hclaimed'⟩ := hlive'
  obtain rfl := eq_of_key_eq h.keys hn hn' (by rw [hn_id, hn'_id, hid])
  have htime := Option.some.inj (hclaimed.symm.trans hclaimed')
  cases claim
  cases claim'
  simp_all

theorem NotificationDatabase.IsLive.replace {claim : DeliveryClaim} (h : db.IsLive claim)
    {new : Notification} (hne : new.notificationId ≠ claim.notificationId) :
    (db.replace new).IsLive claim := by
  obtain ⟨n, hn, hid, hrest⟩ := h
  exact ⟨n, mem_replaceRow_of_ne hn fun hsame ↦ hne (hsame.symm.trans hid), hid, hrest⟩

theorem NotificationDatabase.replace_ids (new : Notification) :
    (db.replace new).notifications.map Notification.notificationId
      = db.notifications.map Notification.notificationId :=
  map_key_replaceRow _ _

theorem exists_row_of_ids {rows rows' : List Notification}
    (h : rows'.map Notification.notificationId = rows.map Notification.notificationId)
    {n : Notification} (hn : n ∈ rows') : ∃ r ∈ rows, r.notificationId = n.notificationId := by
  have hmem := List.mem_map_of_mem (f := Notification.notificationId) hn
  rw [h] at hmem
  exact List.mem_map.1 hmem

theorem Delivery.Coherent.lost_of (h : s.Coherent now)
    (hrows : ∀ n ∈ db'.notifications, ∃ r ∈ s.db.notifications,
      r.notificationId = n.notificationId) {c : DeliveryClaim} (hc : c ∈ s.inFlight)
    (hdead : ¬ s.db.IsLive c) : c.deliveryClaimedAt < now
      ∨ ∀ n ∈ db'.notifications, n.notificationId ≠ c.notificationId := by
  -- a lost claim stays lost while no row comes back
  refine (h.lost c hc hdead).imp_right fun hgone n hn ↦ ?_
  obtain ⟨r, hr, hid⟩ := hrows n hn
  exact hid ▸ hgone r hr

theorem Delivery.Coherent.after_claim (h : s.Coherent now) {n : Notification}
    (hn : n ∈ s.db.notifications) (hpending : n.deliveryStatus = .pending) :
    Delivery.Coherent now
      { db := s.db.replace (n.claim now)
        inFlight := s.inFlight ++ [⟨n.notificationId, now⟩]
        log := .claimed ⟨n.notificationId, now⟩ :: s.log } := by
  have hid : n.notificationId = (n.claim now).notificationId := rfl
  have hids := s.db.replace_ids (n.claim now)
  have hrow : ∀ {r}, r ∈ (s.db.replace (n.claim now)).notifications ↔ r = n.claim now ∨
      (r ∈ s.db.notifications ∧ r.notificationId ≠ (n.claim now).notificationId) :=
    mem_replaceRow_iff hn hid
  have hdead : ∀ c ∈ s.inFlight, c.notificationId = n.notificationId → ¬ s.db.IsLive c := by
    rintro c - hc ⟨r, hr, hr_id, hprocessing, -⟩
    obtain rfl := eq_of_key_eq h.keys hr hn (hr_id.trans hc)
    simp [hpending] at hprocessing
  obtain ⟨hbudget, hfailures⟩ := (h.accounted n hn).pending hpending
  refine ⟨?_, ?_, ?_, ?_, ?_, ?_, ?_, ?_, ?_⟩
  · exact hids ▸ h.keys
  · intro r hr
    obtain ⟨r', hr', hsame⟩ := exists_row_of_ids hids hr
    exact hsame ▸ h.fresh r' hr'
  · intro id hle
    have hne : n.notificationId ≠ id := ((h.fresh n hn).trans_le hle).ne
    simpa [hne] using h.unclaimed id hle
  · intro r hr
    rcases hrow.1 hr with rfl | ⟨hr, hne⟩
    · refine ⟨?_, hbudget, by simp [Notification.claim], fun _ ↦ ?_⟩
      · simp [(h.accounted n hn).claims, Notification.claim]
      · simp [hfailures, Notification.claim]
    · have hne : n.notificationId ≠ r.notificationId := fun hsame ↦ hne (hsame ▸ hid)
      obtain ⟨hclaims, hle, hpend, hproc⟩ := h.accounted r hr
      exact ⟨by simpa [hne] using hclaims, hle, by simpa using hpend, by simpa using hproc⟩
  · intro id
    rw [claimsSinceRequeue_claimed]
    split_ifs with hsame
    · subst hsame
      rw [(h.accounted n hn).claims]
      exact hbudget
    · exact h.budget id
  · rw [List.nodup_append]
    refine ⟨h.distinct, by simp, ?_⟩
    rintro c hc _ hnew rfl
    obtain rfl := List.mem_singleton.1 hnew
    rcases h.lost _ hc (hdead _ hc rfl) with hlt | hgone
    · exact lt_irrefl _ hlt
    · exact hgone n hn rfl
  · intro c hc
    rcases List.mem_append.1 hc with hc | hc
    · exact h.issued c hc
    · rw [List.mem_singleton.1 hc]
      exact h.fresh n hn
  · intro c hc hlost
    rcases List.mem_append.1 hc with hc | hc
    · by_cases hsame : c.notificationId = n.notificationId
      · exact h.lost_of (fun r ↦ exists_row_of_ids hids) hc (hdead c hc hsame)
      · exact h.lost_of (fun r ↦ exists_row_of_ids hids) hc
          fun hlive ↦ hlost (hlive.replace (Ne.symm hsame))
    · obtain rfl := List.mem_singleton.1 hc
      exact absurd ⟨_, hrow.2 (.inl rfl), rfl, rfl, rfl⟩ hlost
  · rintro id failedAt rest hlog
    simp at hlog

theorem Delivery.Coherent.after_raise (h : s.Coherent now) (c : DeliveryClaim) :
    Delivery.Coherent now { s with inFlight := s.inFlight.erase c } :=
  { h with
    distinct := h.distinct.erase c
    issued := fun c' hc' ↦ h.issued c' (List.mem_of_mem_erase hc')
    lost := fun c' hc' ↦ h.lost c' (List.mem_of_mem_erase hc') }

theorem Delivery.Coherent.after_report (h : s.Coherent now) {n new : Notification}
    {c : DeliveryClaim} {outcome : DeliveryOutcome} (hclaimed : s.db.claimed c = some n)
    (hnew : n.Reported now outcome new) :
    Delivery.Coherent now
      { db := s.db.replace new
        inFlight := s.inFlight.erase c
        log := if outcome.IsRetryable then .failedRetryably c.notificationId now :: s.log
          else s.log } := by
  obtain ⟨hn, hc_id, hprocessing, hn_claimed⟩ := NotificationDatabase.claimed_eq_some hclaimed
  obtain ⟨hid, hattempts, -, hstatus⟩ := hnew
  have hids := s.db.replace_ids new
  have hrow : ∀ {r}, r ∈ (s.db.replace new).notifications ↔ r = new ∨
      (r ∈ s.db.notifications ∧ r.notificationId ≠ new.notificationId) :=
    mem_replaceRow_iff hn hid.symm
  have hclaims : ∀ id, claimsSinceRequeue id (if outcome.IsRetryable then
      .failedRetryably c.notificationId now :: s.log else s.log)
        = claimsSinceRequeue id s.log := by
    intro id
    split_ifs <;> simp
  have hothers : ∀ id, n.notificationId ≠ id → failuresSinceRequeue id
      (if outcome.IsRetryable then .failedRetryably c.notificationId now :: s.log else s.log)
        = failuresSinceRequeue id s.log := by
    intro id hne
    split_ifs <;> simp [← hc_id, hne]
  obtain ⟨hn_claims, hn_budget, -, hn_failures⟩ := h.accounted n hn
  have hfailures : outcome.IsRetryable = true → failuresSinceRequeue n.notificationId
      (.failedRetryably c.notificationId now :: s.log) = n.deliveryAttempts := by
    intro _
    rw [← hc_id, failuresSinceRequeue_failedRetryably, if_pos rfl]
    exact hn_failures hprocessing
  refine ⟨?_, ?_, ?_, ?_, ?_, h.distinct.erase c, ?_, ?_, ?_⟩
  · exact hids ▸ h.keys
  · intro r hr
    obtain ⟨r', hr', hsame⟩ := exists_row_of_ids hids hr
    exact hsame ▸ h.fresh r' hr'
  · intro id hle
    have hne : n.notificationId ≠ id := ((h.fresh n hn).trans_le hle).ne
    rw [hclaims, hothers id hne]
    exact h.unclaimed id hle
  · intro r hr
    rcases hrow.1 hr with rfl | ⟨hr, hne⟩
    · refine ⟨?_, hattempts ▸ hn_budget, fun hpending ↦ ?_, fun hprocessing' ↦ ?_⟩
      · rw [hclaims, hid, hn_claims, hattempts]
      · rcases hstatus with ⟨hterminal, -⟩ | ⟨hretryable, hroom, -, -⟩
        · simp [hpending] at hterminal
        · rw [if_pos hretryable, hid, hattempts]
          exact ⟨hroom, hfailures hretryable⟩
      · rcases hstatus with ⟨hterminal, -⟩ | ⟨-, -, hpending, -⟩
        · simp [hprocessing'] at hterminal
        · simp [hprocessing'] at hpending
    · obtain ⟨hr_claims, hr_budget, hr_pending, hr_processing⟩ := h.accounted r hr
      have hother := hothers r.notificationId (fun hsame ↦ hne (hsame.symm.trans hid.symm))
      exact ⟨by rwa [hclaims], hr_budget, by rwa [hother], by rwa [hother]⟩
  · exact fun id ↦ (hclaims id).trans_le (h.budget id)
  · exact fun c' hc' ↦ h.issued c' (List.mem_of_mem_erase hc')
  · intro c' hc' hlost
    obtain ⟨hne, hc'⟩ := h.distinct.mem_erase_iff.1 hc'
    refine h.lost_of (fun r ↦ exists_row_of_ids hids) hc' fun hlive ↦ ?_
    by_cases hsame : new.notificationId = c'.notificationId
    · have hc_live : s.db.IsLive c := ⟨n, hn, hc_id, hprocessing, hn_claimed⟩
      exact hne (h.live_unique hlive hc_live (by rw [← hsame, hid, hc_id]))
    · exact hlost (hlive.replace hsame)
  · rintro id failedAt rest hlog hroom r hr rfl
    by_cases hretryable : outcome.IsRetryable = true
    · simp only [if_pos hretryable, List.cons.injEq, DeliveryEvent.failedRetryably.injEq] at hlog
      obtain ⟨⟨hsame, rfl⟩, rfl⟩ := hlog
      rcases hrow.1 hr with rfl | ⟨hr, hne⟩
      · simp only [if_pos hretryable, hid, hfailures hretryable] at hroom ⊢
        rcases hstatus with ⟨-, hspent⟩ | ⟨-, -, hpending, hnext⟩
        · have := hspent hretryable
          omega
        · refine ⟨hpending, hnext.trans ?_⟩
          have hcap : min (n.deliveryAttempts - 1) 30 = n.deliveryAttempts - 1 := by omega
          rw [retryAfter, hcap, backoff]
      · exact absurd (hsame.symm.trans (hc_id.symm.trans hid.symm)) hne
    · simp only [if_neg hretryable] at hlog hroom ⊢
      have hne : r.notificationId ≠ new.notificationId := by
        intro hsame
        have := (h.waiting _ _ _ hlog hroom n hn (hid.symm.trans hsame.symm)).1
        simp [hprocessing] at this
      rcases hrow.1 hr with rfl | ⟨hr, -⟩
      · exact absurd rfl hne
      · exact h.waiting _ _ _ hlog hroom r hr rfl

theorem Delivery.Coherent.after_sweep (h : s.Coherent now) :
    Delivery.Coherent now { s with db := { s.db with
      notifications := updateWhere (fun n ↦ n.IsStale deliveryProcessingTimeout now)
        (fun n ↦ n.abandon now) s.db.notifications } } := by
  have hids : (updateWhere (fun n ↦ n.IsStale deliveryProcessingTimeout now)
      (fun n ↦ n.abandon now) s.db.notifications).map Notification.notificationId
        = s.db.notifications.map Notification.notificationId := by
    apply map_updateWhere
    exact fun _ ↦ rfl
  refine ⟨hids ▸ h.keys, ?_, h.unclaimed, ?_, h.budget, h.distinct, h.issued, ?_, ?_⟩
  · intro r hr
    obtain ⟨r', hr', hsame⟩ := exists_row_of_ids hids hr
    exact hsame ▸ h.fresh r' hr'
  · intro r hr
    rcases mem_updateWhere.1 hr with ⟨n, hn, -, rfl⟩ | ⟨hr, -⟩
    · obtain ⟨hclaims, hbudget, -, -⟩ := h.accounted n hn
      exact ⟨hclaims, hbudget, by simp [Notification.abandon], by simp [Notification.abandon]⟩
    · exact h.accounted r hr
  · intro c hc hlost
    by_cases hlive : s.db.IsLive c
    · obtain ⟨n, hn, hid, hprocessing, hclaimed⟩ := hlive
      by_cases hstale : n.IsStale deliveryProcessingTimeout now
      · obtain ⟨-, claimedAt, hclaimedAt, hold⟩ := hstale
        obtain rfl := Option.some.inj (hclaimed.symm.trans hclaimedAt)
        exact .inl (hold.trans_le (Int.sub_le_self _ (by decide)))
      · exact absurd ⟨n, mem_updateWhere.2 (.inr ⟨hn, hstale⟩), hid, hprocessing, hclaimed⟩ hlost
    · exact h.lost_of (fun r ↦ exists_row_of_ids hids) hc hlive
  · rintro id failedAt rest hlog hroom r hr hid
    rcases mem_updateWhere.1 hr with ⟨n, hn, hstale, rfl⟩ | ⟨hr, -⟩
    · -- a row that waits is not processing
      have := (h.waiting id failedAt rest hlog hroom n hn hid).1
      simp [hstale.1] at this
    · exact h.waiting id failedAt rest hlog hroom r hr hid

theorem Delivery.Coherent.after_requeue (h : s.Coherent now) {notificationIds : List Uuid}
    {reason : String} :
    Delivery.Coherent now
      { s with
        db := { s.db with
          notifications := updateWhere (fun n ↦ n.IsRequeueable notificationIds)
            (fun n ↦ n.requeue reason) s.db.notifications }
        log := .requeued ((s.db.notifications.filter fun n ↦
          n.IsRequeueable notificationIds).map (·.notificationId)) :: s.log } := by
  have hids : (updateWhere (fun n ↦ n.IsRequeueable notificationIds)
      (fun n ↦ n.requeue reason) s.db.notifications).map Notification.notificationId
        = s.db.notifications.map Notification.notificationId := by
    apply map_updateWhere
    exact fun _ ↦ rfl
  set requeued := (s.db.notifications.filter fun n ↦ n.IsRequeueable notificationIds).map
    (·.notificationId)
  have hrequeued : ∀ n ∈ s.db.notifications, n.notificationId ∈ requeued ↔
      n.IsRequeueable notificationIds := by
    intro n hn
    constructor
    · intro hmem
      obtain ⟨r, hr, hsame⟩ := List.mem_map.1 hmem
      obtain ⟨hr, hselected⟩ := List.mem_filter.1 hr
      obtain rfl := eq_of_key_eq h.keys hr hn hsame
      exact of_decide_eq_true hselected
    · exact fun hselected ↦ List.mem_map_of_mem (List.mem_filter.2 ⟨hn, by simpa using hselected⟩)
  refine ⟨hids ▸ h.keys, ?_, ?_, ?_, ?_, h.distinct, h.issued, ?_, ?_⟩
  · intro r hr
    obtain ⟨r', hr', hsame⟩ := exists_row_of_ids hids hr
    exact hsame ▸ h.fresh r' hr'
  · intro id hle
    rw [claimsSinceRequeue_requeued, failuresSinceRequeue_requeued]
    split_ifs
    · exact ⟨rfl, rfl⟩
    · exact h.unclaimed id hle
  · intro r hr
    rcases mem_updateWhere.1 hr with ⟨n, hn, hselected, rfl⟩ | ⟨hr, hkept⟩
    · have hmem : (n.requeue reason).notificationId ∈ requeued := (hrequeued n hn).2 hselected
      refine ⟨?_, by simp [Notification.requeue], fun _ ↦ ?_, by simp [Notification.requeue]⟩
      · rw [claimsSinceRequeue_requeued, if_pos hmem]
        rfl
      · rw [failuresSinceRequeue_requeued, if_pos hmem]
        exact ⟨by simp [Notification.requeue], rfl⟩
    · have hmem : r.notificationId ∉ requeued := fun hmem ↦ hkept ((hrequeued r hr).1 hmem)
      obtain ⟨hclaims, hbudget, hpending, hprocessing⟩ := h.accounted r hr
      refine ⟨?_, hbudget, ?_, ?_⟩
      · rwa [claimsSinceRequeue_requeued, if_neg hmem]
      · rwa [failuresSinceRequeue_requeued, if_neg hmem]
      · rwa [failuresSinceRequeue_requeued, if_neg hmem]
  · intro id
    rw [claimsSinceRequeue_requeued]
    split_ifs
    · exact Nat.zero_le _
    · exact h.budget id
  · intro c hc hlost
    refine h.lost_of (fun r ↦ exists_row_of_ids hids) hc fun hlive ↦ hlost ?_
    obtain ⟨n, hn, hid, hprocessing, hclaimed⟩ := hlive
    refine ⟨n, mem_updateWhere.2 (.inr ⟨hn, fun hselected ↦ ?_⟩), hid, hprocessing, hclaimed⟩
    simp [hprocessing, Notification.IsRequeueable] at hselected
  · rintro id failedAt rest hlog
    simp at hlog

theorem Delivery.Coherent.after_insert (h : s.Coherent now) (kind : NotificationKind)
    (recipient : Uuid) :
    Delivery.Coherent now { s with db := insertNotification kind now s.db recipient } := by
  have hold : ∀ {n}, n ∈ (insertNotification kind now s.db recipient).notifications →
      n ∈ s.db.notifications ∨ n.notificationId = s.db.nextUuid ∧ n.deliveryAttempts = 0
        ∧ n.deliveryStatus = .pending := by
    intro n hn
    rcases List.mem_append.1 hn with hn | hn
    · exact .inl hn
    · rw [List.mem_singleton.1 hn]
      exact .inr ⟨rfl, rfl, rfl⟩
  refine ⟨?_, ?_, ?_, ?_, h.budget, h.distinct, ?_, ?_, ?_⟩
  · exact nodup_keys_append h.keys fun n hn ↦ (h.fresh n hn).ne
  · intro n hn
    rcases hold hn with hn | ⟨hid, -, -⟩
    · exact (h.fresh n hn).trans (Nat.lt_succ_self _)
    · exact hid ▸ Nat.lt_succ_self _
  · exact fun id hle ↦ h.unclaimed id ((Nat.le_succ _).trans hle)
  · intro n hn
    rcases hold hn with hn | ⟨hid, hattempts, hpending⟩
    · exact h.accounted n hn
    · obtain ⟨hclaims, hfailures⟩ := h.unclaimed n.notificationId hid.ge
      refine ⟨hclaims.trans hattempts.symm, by omega,
        fun _ ↦ ⟨by omega, hfailures.trans hattempts.symm⟩, ?_⟩
      simp [hpending]
  · exact fun c hc ↦ (h.issued c hc).trans (Nat.lt_succ_self _)
  · intro c hc hlost
    have hdead : ¬ s.db.IsLive c := fun ⟨n, hn, hrest⟩ ↦
      hlost ⟨n, List.mem_append_left _ hn, hrest⟩
    refine (h.lost c hc hdead).imp_right fun hgone n hn ↦ ?_
    rcases hold hn with hn | ⟨hid, -, -⟩
    · exact hgone n hn
    · exact hid ▸ (h.issued c hc).ne'
  · rintro id failedAt rest hlog hroom n hn hid
    rcases hold hn with hn | ⟨hid', -, -⟩
    · exact h.waiting id failedAt rest hlog hroom n hn hid
    · -- a new notification has not failed yet
      have hnone := (h.unclaimed id (hid ▸ hid').ge).2
      rw [hlog, failuresSinceRequeue_failedRetryably, if_pos rfl] at hnone
      omega

theorem Delivery.Coherent.after_inserts (h : s.Coherent now) (kind : NotificationKind)
    (recipients : List Uuid) : Delivery.Coherent now
      { s with db := recipients.foldl (insertNotification kind now) s.db } := by
  induction recipients generalizing s with
  | nil => exact h
  | cons recipient recipients ih => exact ih (h.after_insert kind recipient)

theorem Delivery.Coherent.after_accounts (h : s.Coherent now) (users : List NotificationUser)
    (deleted : List Uuid) :
    Delivery.Coherent now { s with db := { s.db with
      users := users
      notifications := s.db.notifications.filter fun n ↦ n.userId ∉ deleted } } := by
  have hold : ∀ {n}, n ∈ s.db.notifications.filter (fun n ↦ n.userId ∉ deleted) →
      n ∈ s.db.notifications := fun hn ↦ (List.mem_filter.1 hn).1
  refine ⟨nodup_keys_filter h.keys _, fun n hn ↦ h.fresh n (hold hn), h.unclaimed,
    fun n hn ↦ h.accounted n (hold hn), h.budget, h.distinct, h.issued, ?_, ?_⟩
  · intro c hc hlost
    by_cases hlive : s.db.IsLive c
    · -- the row of a live claim went with its account, and no other row has its identifier
      obtain ⟨n, hn, hid, hactive⟩ := hlive
      refine .inr fun r hr hr_id ↦ hlost ?_
      obtain rfl := eq_of_key_eq h.keys (hold hr) hn (hr_id.trans hid.symm)
      exact ⟨r, hr, hid, hactive⟩
    · exact h.lost_of (fun n hn ↦ ⟨n, hold hn, rfl⟩) hc hlive
  · exact fun id failedAt rest hlog hroom n hn ↦ h.waiting id failedAt rest hlog hroom n (hold hn)

theorem DeliveryStep.coherent {allowed : Timestamp → Delivery → DeliveryOperation → Prop}
    {s' : Delivery} (hstep : DeliveryStep allowed now s s') (h : s.Coherent now) :
    s'.Coherent now := by
  obtain ⟨op, -, -, hrun⟩ := hstep
  cases op.effect hrun with
  | unclaimed => exact h
  | claimed hn hdue _ => exact h.after_claim hn hdue.1
  | raised => exact h.after_raise _
  | reported hclaimed hnew => exact h.after_report hclaimed hnew
  | swept => exact h.after_sweep
  | requeued => exact h.after_requeue
  | enqueued => exact h.after_inserts _ _
  | accounts => exact h.after_accounts _ _

theorem Delivery.Reached.coherent (h : s.Reached now) : s.Coherent now := by
  refine h.invariant ?_ (fun _ _ _ hle hs ↦ hs.after_wait hle) fun _ _ _ hs hstep ↦
    hstep.coherent hs
  rintro now s ⟨hrows, hclaims, hlog⟩
  refine ⟨?_, ?_, ?_, ?_, ?_, ?_, ?_, ?_, ?_⟩ <;>
    simp [hrows, hclaims, hlog, claimsSinceRequeue, failuresSinceRequeue, sinceRequeue]

end Keeps

/-! ## What a step does to a row -/

/-- Where a row of the state after a step comes from. -/
inductive RowStep (now : Timestamp) (s s' : Delivery) (n' : Notification) : Prop
  | kept (h : n' ∈ s.db.notifications)
  | claimed {n : Notification} (hn : n ∈ s.db.notifications)
    (hdeliverable : s.db.IsDeliverable now n) (h : n' = n.claim now)
  /-- The claim was reported or swept. -/
  | finished {n : Notification} (hn : n ∈ s.db.notifications)
    (hid : n'.notificationId = n.notificationId) (hprocessing : n.deliveryStatus = .processing)
    (h : n'.deliveryStatus ≠ .processing)
  | requeued {n : Notification} (hn : n ∈ s.db.notifications)
    (hid : n'.notificationId = n.notificationId)
    (hterminal : n.deliveryStatus ∈ [DeliveryStatus.deliveryUnknown, .failed])
    (hlog : ∃ e, s'.log = e :: s.log ∧ e.Requeues n.notificationId = true)
    (h : n'.deliveryStatus = .pending)
  | inserted (hid : s.db.nextUuid ≤ n'.notificationId) (h : n'.deliveryStatus = .pending)

theorem insertNotifications_rows {kind : NotificationKind} {recipients : List Uuid}
    {n : Notification}
    (hn : n ∈ (recipients.foldl (insertNotification kind now) db).notifications) :
    n ∈ db.notifications ∨ db.nextUuid ≤ n.notificationId ∧ n.deliveryStatus = .pending := by
  induction recipients generalizing db with
  | nil => exact .inl hn
  | cons recipient recipients ih =>
    rcases ih hn with hn | ⟨hle, hpending⟩
    · rcases List.mem_append.1 hn with hn | hn
      · exact .inl hn
      · rw [List.mem_singleton.1 hn]
        exact .inr ⟨le_rfl, rfl⟩
    · exact .inr ⟨(Nat.le_succ _).trans hle, hpending⟩

theorem insertNotifications_nextUuid {kind : NotificationKind} {recipients : List Uuid} :
    db.nextUuid ≤ (recipients.foldl (insertNotification kind now) db).nextUuid := by
  induction recipients generalizing db with
  | nil => exact le_rfl
  | cons recipient recipients ih =>
    exact (Nat.le_succ db.nextUuid).trans (@ih (insertNotification kind now db recipient))

section Step

variable {allowed : Timestamp → Delivery → DeliveryOperation → Prop} {s s' : Delivery}

theorem DeliveryStep.row (hstep : DeliveryStep allowed now s s') {n' : Notification}
    (hn' : n' ∈ s'.db.notifications) : RowStep now s s' n' := by
  obtain ⟨op, -, -, hrun⟩ := hstep
  cases op.effect hrun with
  | unclaimed | raised => exact .kept hn'
  | claimed hn hdue _ =>
    rcases mem_replaceRow hn' with rfl | ⟨hn', -⟩
    · exact .claimed hn hdue rfl
    · exact .kept hn'
  | reported hclaimed hnew =>
    obtain ⟨hn, -, hprocessing, -⟩ := NotificationDatabase.claimed_eq_some hclaimed
    rcases mem_replaceRow hn' with rfl | ⟨hn', -⟩
    · refine .finished hn hnew.id hprocessing fun hactive ↦ ?_
      rcases hnew.status with ⟨hterminal, -⟩ | ⟨-, -, hpending, -⟩
      · simp [hactive] at hterminal
      · simp [hactive] at hpending
    · exact .kept hn'
  | swept =>
    rcases mem_updateWhere.1 hn' with ⟨n, hn, hstale, rfl⟩ | ⟨hn', -⟩
    · exact .finished hn rfl hstale.1 (by simp [Notification.abandon])
    · exact .kept hn'
  | requeued =>
    rcases mem_updateWhere.1 hn' with ⟨n, hn, hselected, rfl⟩ | ⟨hn', -⟩
    · refine .requeued hn rfl hselected.2 ⟨_, rfl, ?_⟩ rfl
      rw [DeliveryEvent.Requeues, List.contains_iff_mem]
      exact List.mem_map_of_mem (List.mem_filter.2 ⟨hn, by simpa using hselected⟩)
    · exact .kept hn'
  | enqueued =>
    rcases insertNotifications_rows hn' with hn' | ⟨hle, hpending⟩
    · exact .kept hn'
    · exact .inserted hle hpending
  | accounts => exact .kept (List.mem_filter.1 hn').1

theorem DeliveryStep.nextUuid_le (hstep : DeliveryStep allowed now s s') :
    s.db.nextUuid ≤ s'.db.nextUuid := by
  obtain ⟨op, -, -, hrun⟩ := hstep
  cases op.effect hrun with
  | enqueued => exact insertNotifications_nextUuid
  | unclaimed | claimed _ _ _ | raised | reported _ _ | swept | requeued | accounts => exact le_rfl

/-- A step logs one event at most, and a claim only of a row that is due. -/
theorem DeliveryStep.log (hstep : DeliveryStep allowed now s s') :
    s'.log = s.log ∨ ∃ e, s'.log = e :: s.log ∧ ∀ id, e.Claims id = true →
      ∃ n ∈ s.db.notifications, n.notificationId = id ∧ s.db.IsDeliverable now n := by
  obtain ⟨op, -, -, hrun⟩ := hstep
  cases op.effect hrun with
  | unclaimed | raised | swept | enqueued | accounts => exact .inl rfl
  | claimed hn hdue _ => exact .inr ⟨_, rfl, fun id hid ↦ ⟨_, hn, of_decide_eq_true hid, hdue⟩⟩
  | @reported c outcome _ _ _ _ =>
    by_cases hretryable : outcome.IsRetryable = true
    · exact .inr ⟨_, if_pos hretryable, by simp [DeliveryEvent.Claims]⟩
    · exact .inl (if_neg hretryable)
  | requeued => exact .inr ⟨_, rfl, by simp [DeliveryEvent.Claims]⟩

end Step

/-! ## What a history goes on to -/

section Later

variable {later : Timestamp} {s s' : Delivery}

/-- **A lost claim stays lost.** -/
theorem Delivery.ReachedFrom.lost (h : s.ReachedFrom now later s') {c : DeliveryClaim}
    (hdead : ¬ s.db.IsLive c)
    (hlost : c.deliveryClaimedAt < now ∨ c.notificationId < s.db.nextUuid
      ∧ ∀ n ∈ s.db.notifications, n.notificationId ≠ c.notificationId) : ¬ s'.db.IsLive c := by
  have hall := h.invariant (P := fun t u ↦ ¬ u.db.IsLive c ∧ (c.deliveryClaimedAt < t
    ∨ c.notificationId < u.db.nextUuid
      ∧ ∀ n ∈ u.db.notifications, n.notificationId ≠ c.notificationId)) ⟨hdead, hlost⟩ ?_ ?_
  · exact hall.1
  · rintro t t' u hle ⟨hdead, hlost⟩
    exact ⟨hdead, hlost.imp_left fun hlt ↦ hlt.trans_le hle⟩
  · rintro t u u' ⟨hdead, hlost⟩ hstep
    refine ⟨?_, ?_⟩
    · rintro ⟨n', hn', hid, hprocessing, hclaimed⟩
      cases hstep.row hn' with
      | kept hn' => exact hdead ⟨n', hn', hid, hprocessing, hclaimed⟩
      | claimed hn hdeliverable heq =>
        -- the new claim carries the time of the step
        subst heq
        obtain rfl := Option.some.inj hclaimed
        rcases hlost with hlt | ⟨-, hgone⟩
        · exact lt_irrefl _ hlt
        · exact hgone _ hn hid
      | finished _ _ _ hstatus => exact hstatus hprocessing
      | requeued _ _ _ _ hstatus => simp [hprocessing] at hstatus
      | inserted _ hstatus => simp [hprocessing] at hstatus
    · refine hlost.imp_right fun ⟨hlt, hgone⟩ ↦ ⟨hlt.trans_le hstep.nextUuid_le, ?_⟩
      intro n' hn'
      cases hstep.row hn' with
      | kept hn' => exact hgone n' hn'
      | @claimed n hn _ heq =>
        subst heq
        exact hgone n hn
      | finished hn hid _ _ => exact hid ▸ hgone _ hn
      | requeued hn hid _ _ _ => exact hid ▸ hgone _ hn
      | inserted hle _ => exact (hlt.trans_le hle).ne'

/-- A row that cannot be claimed while nothing requeues it. -/
theorem Delivery.ReachedFrom.unclaimed {id : Uuid} {P : Timestamp → List DeliveryEvent → Prop}
    {Q : Notification → Prop} (h : s.ReachedFrom now later s') (hid : id < s.db.nextUuid)
    (hrows : ∀ n ∈ s.db.notifications, n.notificationId = id → Q n)
    (hwait : ∀ t t' new, t ≤ t' → P t' new → P t new)
    (hlog : ∀ t e new, P t (e :: new) → P t new)
    (hclaimable : ∀ t new db n, P t new → Q n → ¬ NotificationDatabase.IsDeliverable db t n)
    (hprocessing : ∀ n, Q n → n.deliveryStatus ≠ .processing)
    (hrequeued : ∀ t e new n, P t (e :: new) → Q n → e.Requeues n.notificationId = true →
      n.deliveryStatus ∉ [DeliveryStatus.deliveryUnknown, .failed]) :
    ∃ new, s'.log = new ++ s.log ∧ (P later new → (∀ e ∈ new, e.Claims id = false)
      ∧ ∀ n ∈ s'.db.notifications, n.notificationId = id → Q n) := by
  have hall := h.invariant (P := fun t u ↦ id < u.db.nextUuid ∧ ∃ new, u.log = new ++ s.log
    ∧ (P t new → (∀ e ∈ new, e.Claims id = false)
      ∧ ∀ n ∈ u.db.notifications, n.notificationId = id → Q n))
    ⟨hid, [], rfl, fun _ ↦ ⟨by simp, hrows⟩⟩ ?_ ?_
  · exact hall.2
  · rintro t t' u hle ⟨hid, new, hnew, hkept⟩
    exact ⟨hid, new, hnew, fun hP ↦ hkept (hwait t t' new hle hP)⟩
  · rintro t u u' ⟨hid, new, hnew, hkept⟩ hstep
    refine ⟨hid.trans_le hstep.nextUuid_le, ?_⟩
    -- the rows after a step that logs `new'`
    have hrows' : ∀ new', u'.log = new' ++ s.log → (P t new' → P t new) → P t new' →
        ∀ n' ∈ u'.db.notifications, n'.notificationId = id → Q n' := by
      intro new' hnew' hinitial hP n' hn' hn'_id
      obtain ⟨-, hold⟩ := hkept (hinitial hP)
      cases hstep.row hn' with
      | kept hn' => exact hold n' hn' hn'_id
      | claimed hn hdeliverable heq =>
        subst heq
        exact absurd hdeliverable (hclaimable t new _ _ (hinitial hP) (hold _ hn hn'_id))
      | finished hn hsame hactive _ =>
        exact absurd hactive (hprocessing _ (hold _ hn (hsame ▸ hn'_id)))
      | requeued hn hsame hterminal hevent _ =>
        obtain ⟨e, he, hrequeues⟩ := hevent
        have : new' = e :: new := by
          rw [he, hnew, ← List.cons_append] at hnew'
          exact (List.append_cancel_right hnew').symm
        subst this
        exact absurd hterminal
          (hrequeued t e new _ hP (hold _ hn (hsame ▸ hn'_id)) hrequeues)
      | inserted hle _ => exact absurd (hn'_id ▸ hle) (not_le.2 hid)
    rcases hstep.log with hsame | ⟨e, he, hclaim⟩
    · refine ⟨new, hsame.trans hnew, fun hP ↦ ⟨(hkept hP).1, ?_⟩⟩
      exact hrows' new (hsame.trans hnew) (fun hP ↦ hP) hP
    · refine ⟨e :: new, by rw [he, hnew, List.cons_append], fun hP ↦ ⟨?_, ?_⟩⟩
      · obtain ⟨hnone, hold⟩ := hkept (hlog t e new hP)
        intro e' he'
        rcases List.mem_cons.1 he' with rfl | he'
        · refine eq_false_of_ne_true fun hclaims ↦ ?_
          obtain ⟨n, hn, hn_id, hdeliverable⟩ := hclaim id hclaims
          exact hclaimable t new _ n (hlog t _ new hP) (hold n hn hn_id) hdeliverable
        · exact hnone e' he'
      · exact hrows' (e :: new) (by rw [he, hnew, List.cons_append]) (hlog t e new) hP

/-- **A terminal notification stays so** until an operator requeues it, a processed one for good. -/
theorem Delivery.ReachedFrom.terminal (h : s.ReachedFrom now later s') {id : Uuid}
    {status : DeliveryStatus} (hid : id < s.db.nextUuid)
    (hterminal : status ∈ [DeliveryStatus.deliveryUnknown, .failed, .processed])
    (hrows : ∀ n ∈ s.db.notifications, n.notificationId = id → n.deliveryStatus = status) :
    ∃ new, s'.log = new ++ s.log
      ∧ ((status = .processed ∨ ∀ e ∈ new, e.Requeues id = false) →
        (∀ e ∈ new, e.Claims id = false)
        ∧ ∀ n ∈ s'.db.notifications, n.notificationId = id → n.deliveryStatus = status) := by
  refine (h.unclaimed
    (P := fun _ new ↦ status = .processed ∨ ∀ e ∈ new, e.Requeues id = false)
    (Q := fun n ↦ n.notificationId = id ∧ n.deliveryStatus = status) hid
    (fun n hn hn_id ↦ ⟨hn_id, hrows n hn hn_id⟩) (fun _ _ _ _ hP ↦ hP) ?_ ?_ ?_ ?_).imp
    fun new ⟨hnew, hkept⟩ ↦ ⟨hnew, fun hP ↦ ⟨(hkept hP).1, fun n hn hn_id ↦
      ((hkept hP).2 n hn hn_id).2⟩⟩
  · exact fun _ e new hP ↦ hP.imp_right fun hnone e' he' ↦ hnone e' (List.mem_cons_of_mem _ he')
  · rintro t new db n - ⟨-, rfl⟩ ⟨hpending, -⟩
    simp [hpending] at hterminal
  · rintro n ⟨-, rfl⟩ hprocessing
    simp [hprocessing] at hterminal
  · rintro t e new n hP ⟨hn_id, rfl⟩ hrequeues hrequeueable
    rcases hP with hprocessed | hnone
    · simp [hprocessed] at hrequeueable
    · rw [hn_id] at hrequeues
      simp [hnone e (by simp)] at hrequeues

/-- **A retry waits for its delay.** -/
theorem Delivery.ReachedFrom.backoff (h : s.ReachedFrom now later s') (hs : s.Coherent now)
    {id : Uuid} {failedAt : Timestamp} {rest : List DeliveryEvent}
    (hlog : s.log = .failedRetryably id failedAt :: rest)
    (hroom : failuresSinceRequeue id s.log < 10)
    (hlater : later < failedAt + Ocg.backoff (failuresSinceRequeue id s.log)) :
    ∃ new, s'.log = new ++ s.log ∧ ∀ e ∈ new, e.Claims id = false := by
  have hid : id < s.db.nextUuid := by
    by_contra hle
    have hnone := (hs.unclaimed id (not_lt.1 hle)).2
    rw [hlog, failuresSinceRequeue_failedRetryably, if_pos rfl] at hnone
    omega
  refine (h.unclaimed
    (P := fun t _ ↦ t < failedAt + Ocg.backoff (failuresSinceRequeue id s.log))
    (Q := fun n ↦ n.deliveryStatus = .pending ∧ n.nextDeliveryAttemptAt
      = some (failedAt + Ocg.backoff (failuresSinceRequeue id s.log))) hid
    (hs.waiting id failedAt rest hlog hroom) (fun _ _ _ hle hlt ↦ hle.trans_lt hlt)
    (fun _ _ _ hlt ↦ hlt) ?_ ?_ ?_).imp fun new ⟨hnew, hkept⟩ ↦ ⟨hnew, (hkept hlater).1⟩
  · rintro t new db n hlt ⟨-, hnext⟩ ⟨-, hdue, -⟩
    exact not_lt.2 (hdue _ hnext) hlt
  · rintro n ⟨hpending, -⟩
    simp [hpending]
  · rintro t e new n - ⟨hpending, -⟩ -
    simp [hpending]

end Later

/-- **Notification delivery lease.** One claim of a notification is live at most, and a claim that
lost its row reports to nobody ever after; a terminal notification is claimed again only after an
operator requeued it, a processed one never; ten claims are made at most between operator requeues;
and the `k`-th retryable failure puts the next claim off by the delay of its power of two. -/
theorem delivery_lease {s : Delivery} (h : s.Reached now) :
    (s.inFlight.Nodup ∧ ∀ c ∈ s.inFlight, ∀ c' ∈ s.inFlight, s.db.IsLive c → s.db.IsLive c' →
        c.notificationId = c'.notificationId → c = c')
      ∧ (∀ c, c ∈ s.inFlight ∨ c.deliveryClaimedAt < now → ¬ s.db.IsLive c →
        ∀ later s', s.ReachedFrom now later s' → ∀ outcome reportedAt,
          ∃ e, reportDelivery c outcome reportedAt s'.db = .error e)
      ∧ (∀ n ∈ s.db.notifications,
        n.deliveryStatus ∈ [DeliveryStatus.deliveryUnknown, .failed, .processed] →
        ∀ later s', s.ReachedFrom now later s' → ∃ new, s'.log = new ++ s.log
          ∧ ((n.deliveryStatus = .processed ∨ ∀ e ∈ new, e.Requeues n.notificationId = false) →
            ∀ e ∈ new, e.Claims n.notificationId = false))
      ∧ (∀ id, claimsSinceRequeue id s.log ≤ 10)
      ∧ ∀ id failedAt rest, s.log = .failedRetryably id failedAt :: rest →
        failuresSinceRequeue id s.log < 10 → ∀ later s', s.ReachedFrom now later s' →
          later < failedAt + backoff (failuresSinceRequeue id s.log) →
            ∃ new, s'.log = new ++ s.log ∧ ∀ e ∈ new, e.Claims id = false := by
  have hs := h.coherent
  refine ⟨⟨hs.distinct, fun c _ c' _ hlive hlive' hid ↦ hs.live_unique hlive hlive' hid⟩, ?_, ?_,
    hs.budget, fun id failedAt rest hlog hroom later s' hlater hearly ↦
      hlater.backoff hs hlog hroom hearly⟩
  · intro c hc hdead later s' hlater outcome reportedAt
    refine reportDelivery_of_not_isLive (hlater.lost hdead ?_)
    rcases hc with hc | hold
    · exact (hs.lost c hc hdead).imp_right fun hgone ↦ ⟨hs.issued c hc, hgone⟩
    · exact .inl hold
  · intro n hn hterminal later s' hlater
    obtain ⟨new, hnew, hkept⟩ := hlater.terminal (hs.fresh n hn) hterminal fun n' hn' hid ↦ by
      rw [eq_of_key_eq hs.keys hn' hn hid]
    exact ⟨new, hnew, fun hP ↦ (hkept hP).1⟩

/-- The operation, if it is a step. -/
def DeliveryOperation.runAllowed (allowed : Timestamp → Delivery → DeliveryOperation → Prop)
    [∀ now s op, Decidable (allowed now s op)] (now : Timestamp) (op : DeliveryOperation)
    (s : Delivery) : Except DbError Delivery := do
  require (op.IsHeld s ∧ allowed now s op) claimNotFound
  op.run now s

/-- One account, and no notification. -/
def Delivery.sample : Delivery := ⟨⟨[], [⟨1, true, .registered⟩], 1⟩, [], []⟩

theorem reachable_of_deliveryScript {allowed : Timestamp → Delivery → DeliveryOperation → Prop}
    [∀ now s op, Decidable (allowed now s op)] {next : Timestamp → Timestamp → Prop}
    {script : List (Timestamp × DeliveryOperation)} {s : Delivery}
    (hscript : replay (DeliveryOperation.runAllowed allowed) script .sample = .ok s)
    (htimes : (0 :: script.map Prod.fst).Pairwise next) :
    Reachable (DeliveryStep allowed) next Delivery.Fresh ((script.map Prod.fst).getLastD 0) s := by
  refine reachable_of_replay (fun t op u v hrun ↦ ?_) (.start ⟨rfl, rfl, rfl⟩) htimes hscript
  simp only [DeliveryOperation.runAllowed, bind_eq_ok, require_eq_ok] at hrun
  obtain ⟨-, ⟨hheld, hallowed⟩, hrun⟩ := hrun
  exact ⟨op, hheld, hallowed, hrun⟩

/-- After the first retryable failure the next claim waits a minute. -/
theorem delivery_lease_sample : ∃ s : Delivery, s.Reached 5 ∧ s.log ≠ []
    ∧ ∀ later s', s.ReachedFrom 5 later s' → later < 5 + minutes 1 →
      ∃ new, s'.log = new ++ s.log ∧ ∀ e ∈ new, e.Claims 1 = false := by
  have hscript : Replays (DeliveryOperation.runAllowed fun _ _ _ ↦ True)
      [(0, .enqueue .eventInvitation [1]), (0, .claim (fun _ ↦ false) 15000 60),
        (5, .report ⟨1, 0⟩ (.undelivered (.retryable "timeout")))] .sample
      (fun s ↦ s.log = [.failedRetryably 1 5, .claimed ⟨1, 0⟩]) := by
    decide +kernel
  obtain ⟨s, hscript, hlog⟩ := exists_of_replays hscript
  have hreached : s.Reached 5 := reachable_of_deliveryScript hscript (by decide)
  refine ⟨s, hreached, by simp [hlog], fun later s' hlater hearly ↦ ?_⟩
  obtain ⟨-, -, -, -, hbackoff⟩ := delivery_lease hreached
  exact hbackoff 1 5 _ hlog (by rw [hlog]; decide) later s' hlater (by rw [hlog]; exact hearly)

end Ocg
