import Mathlib.Tactic.Linarith
import Ocg.History.Notifications
import Ocg.Relational.RateLimit

/-!
# The delivery rate limit

A claim counts the rows whose last claim time lies in the last minute, whatever the order of start
times. A notification is claimed again at least a minute after its previous claim, because a retry
waits that long, so the row still stands for every claim that the window of a new one can hold.

Only a manual requeue forgets a claim: it clears the claim time, and the notification may be claimed
again at once. The runs are those of the delivery system in any order of start times; its log says
which claims were forgotten, and the limit holds in every run whose claims start a minute away from
them.
-/

namespace Ocg

open Relational

/-! ## The claims of a run -/

structure ClaimRecord where
  notificationId : Uuid
  claimedAt : Timestamp
  /-- A manual requeue has cleared the claim time since. -/
  forgotten : Bool
  deriving DecidableEq, Repr

def ClaimRecord.forget (ids : List Uuid) (r : ClaimRecord) : ClaimRecord :=
  { r with forgotten := r.forgotten || ids.contains r.notificationId }

/-- The claims of a log, in the order of their commits. -/
def claimRecords : List DeliveryEvent → List ClaimRecord
  | [] => []
  | .claimed c :: log => claimRecords log ++ [⟨c.notificationId, c.deliveryClaimedAt, false⟩]
  | .failedRetryably _ _ :: log => claimRecords log
  | .requeued ids :: log => (claimRecords log).map (ClaimRecord.forget ids)

/-- A claim takes the delivery limit for the default window of a minute, a report is a transaction
that starts after the one that claimed, and no notification goes with its account. -/
def DeliveryOperation.IsPaced (limit : ℕ) (now : Timestamp) : DeliveryOperation → Prop
  | .claim _ rateLimit window => rateLimit = limit ∧ window = 60
  | .report c _ => c.deliveryClaimedAt ≤ now
  | .accounts _ deleted => deleted = []
  | _ => True

instance DeliveryOperation.decidablePaced (limit : ℕ) (now : Timestamp) :
    (op : DeliveryOperation) → Decidable (op.IsPaced limit now)
  | .claim _ rateLimit window => inferInstanceAs (Decidable (rateLimit = limit ∧ window = 60))
  | .report c _ => inferInstanceAs (Decidable (c.deliveryClaimedAt ≤ now))
  | .accounts _ deleted => inferInstanceAs (Decidable (deleted = []))
  | .sweep | .manualRequeue _ _ | .enqueue _ _ => inferInstanceAs (Decidable True)

/-- No claim starts within a minute of one that was forgotten. -/
def DeliveryOperation.SparesForgotten (now : Timestamp) (s : Delivery) : DeliveryOperation → Prop
  | .claim _ _ _ => ∀ r ∈ claimRecords s.log, r.forgotten = true →
      r.claimedAt + seconds 60 ≤ now ∨ now + seconds 60 ≤ r.claimedAt
  | _ => True

instance DeliveryOperation.decidableSparesForgotten (now : Timestamp) (s : Delivery) :
    (op : DeliveryOperation) → Decidable (op.SparesForgotten now s)
  | .claim _ _ _ => inferInstanceAs (Decidable (∀ r ∈ claimRecords s.log, r.forgotten = true →
      r.claimedAt + seconds 60 ≤ now ∨ now + seconds 60 ≤ r.claimedAt))
  | .report _ _ | .sweep | .manualRequeue _ _ | .enqueue _ _ | .accounts _ _ =>
    inferInstanceAs (Decidable True)

/-- The states of the system, in any order of start times. -/
def Delivery.ReachedPaced (limit : ℕ) (now : Timestamp) (s : Delivery) : Prop :=
  Reachable (DeliveryStep fun now _ op ↦ op.IsPaced limit now) (fun _ _ ↦ True)
    Delivery.Fresh now s

/-- The states of the runs whose claims spare the forgotten ones. -/
def Delivery.ReachedSparing (limit : ℕ) (now : Timestamp) (s : Delivery) : Prop :=
  Reachable (DeliveryStep fun now s op ↦ op.IsPaced limit now ∧ op.SparesForgotten now s)
    (fun _ _ ↦ True) Delivery.Fresh now s

/-- The claims that start in the minute from `x` on. -/
def Delivery.claimsInMinute (s : Delivery) (x : Timestamp) : ℕ :=
  (claimRecords s.log).countP fun r ↦ x ≤ r.claimedAt ∧ r.claimedAt < x + seconds 60

/-! ## The invariant -/

/-- What every run whose claims spare the forgotten ones keeps. -/
structure Delivery.Paced (limit : ℕ) (s : Delivery) : Prop where
  keys : (s.db.notifications.map Notification.notificationId).Nodup
  fresh : ∀ n ∈ s.db.notifications, n.notificationId < s.db.nextUuid
  /-- A row that waits for a retry waits a minute from its claim at least. -/
  delayed : ∀ n ∈ s.db.notifications, n.deliveryStatus = .pending →
    ∀ t ∈ n.deliveryClaimedAt, ∃ next ∈ n.nextDeliveryAttemptAt, t + seconds 60 ≤ next
  /-- The row of a claim that was not forgotten shows its time or a later one. -/
  recorded : ∀ r ∈ claimRecords s.log, r.forgotten = false → ∃ n ∈ s.db.notifications,
    n.notificationId = r.notificationId ∧ ∃ t ∈ n.deliveryClaimedAt, r.claimedAt ≤ t
  spaced : (claimRecords s.log).Pairwise fun r r' ↦ r.forgotten = false → r'.forgotten = false →
    r.notificationId = r'.notificationId → r.claimedAt + seconds 60 ≤ r'.claimedAt
  limited : Limited limit (seconds 60 - 1) ((claimRecords s.log).map (·.claimedAt))

variable {limit : ℕ} {now : Timestamp} {s s' : Delivery}

theorem Delivery.Fresh.paced (h : s.Fresh) : s.Paced limit := by
  obtain ⟨hrows, -, hlog⟩ := h
  refine ⟨?_, ?_, ?_, ?_, ?_, ?_⟩
  rotate_right
  · rw [hlog]
    exact .nil
  all_goals simp [hrows, hlog, claimRecords]

section Windows

/-- The claims of a window around the time of a new one: none of them is forgotten, so each is
another row that shows a claim of the last minute. -/
theorem Delivery.Paced.countP_inWindow_le (h : s.Paced limit)
    (hspared : ∀ r ∈ claimRecords s.log, r.forgotten = true →
      r.claimedAt + seconds 60 ≤ now ∨ now + seconds 60 ≤ r.claimedAt)
    {x : Timestamp} (hx : inWindow (seconds 60 - 1) x now = true) :
    ((claimRecords s.log).map (·.claimedAt)).countP (inWindow (seconds 60 - 1) x)
      ≤ s.db.notifications.countP fun n ↦
        ∃ t ∈ n.deliveryClaimedAt, now - seconds 60 ≤ t := by
  obtain ⟨hle, hge⟩ := of_decide_eq_true hx
  set near : ClaimRecord → Bool := fun r ↦ inWindow (seconds 60 - 1) x r.claimedAt
  have hnear : ∀ r ∈ claimRecords s.log, near r = true → r.forgotten = false
      ∧ now - seconds 60 ≤ r.claimedAt := by
    intro r hr hr_near
    obtain ⟨hr_le, hr_ge⟩ := of_decide_eq_true hr_near
    refine ⟨?_, by linarith⟩
    by_contra hforgotten
    rw [Bool.not_eq_false] at hforgotten
    rcases hspared r hr hforgotten with hbefore | hafter <;> linarith
  have hkeys : (((claimRecords s.log).filter near).map ClaimRecord.notificationId).Nodup := by
    -- two claims of one notification are a minute apart
    rw [List.Nodup, List.pairwise_map]
    refine (h.spaced.filter near).imp_of_mem fun {r r'} hr hr' hspaced hsame ↦ ?_
    obtain ⟨hr, hr_near⟩ := List.mem_filter.1 hr
    obtain ⟨hr', hr'_near⟩ := List.mem_filter.1 hr'
    have hapart := hspaced (hnear r hr hr_near).1 (hnear r' hr' hr'_near).1 hsame
    have hfrom := (of_decide_eq_true hr_near).1
    have hto := (of_decide_eq_true hr'_near).2
    linarith
  have hrow : ∀ r ∈ claimRecords s.log, near r = true → ∃ n ∈ s.db.notifications,
      n.notificationId = r.notificationId
        ∧ decide (∃ t ∈ n.deliveryClaimedAt, now - seconds 60 ≤ t) = true := by
    intro r hr hr_near
    obtain ⟨hkept, hrecent⟩ := hnear r hr hr_near
    obtain ⟨n, hn, hn_id, t, ht, hle⟩ := h.recorded r hr hkept
    exact ⟨n, hn, hn_id, decide_eq_true ⟨t, ht, hrecent.trans hle⟩⟩
  rw [List.countP_map]
  exact countP_le_of_keys_eq hkeys hrow

end Windows

/-! ## Each operation -/

section Keeps

variable {db' : NotificationDatabase} {inFlight : List DeliveryClaim} {log : List DeliveryEvent}

/-- The rows of a database with their claim times. -/
def NotificationDatabase.claimTimes (db : NotificationDatabase) :
    List (Uuid × Option Timestamp) :=
  db.notifications.map fun n ↦ (n.notificationId, n.deliveryClaimedAt)

theorem Delivery.Paced.of_claimTimes (h : s.Paced limit) (htimes : db'.claimTimes = s.db.claimTimes)
    (hnext : s.db.nextUuid ≤ db'.nextUuid)
    (hdelayed : ∀ n ∈ db'.notifications, n.deliveryStatus = .pending →
      ∀ t ∈ n.deliveryClaimedAt, ∃ next ∈ n.nextDeliveryAttemptAt, t + seconds 60 ≤ next)
    (hrecords : claimRecords log = claimRecords s.log) :
    Delivery.Paced limit { db := db', inFlight := inFlight, log := log } := by
  have hids : db'.notifications.map Notification.notificationId
      = s.db.notifications.map Notification.notificationId := by
    have hfst := congrArg (List.map Prod.fst) htimes
    simpa only [NotificationDatabase.claimTimes, List.map_map, Function.comp_def] using hfst
  refine ⟨hids ▸ h.keys, ?_, hdelayed, ?_, hrecords ▸ h.spaced, hrecords ▸ h.limited⟩
  · intro n hn
    have hmem : n.notificationId ∈ s.db.notifications.map Notification.notificationId :=
      hids ▸ List.mem_map_of_mem hn
    obtain ⟨n', hn', hsame⟩ := List.mem_map.1 hmem
    exact hsame ▸ (h.fresh n' hn').trans_le hnext
  · intro r hr hkept
    rw [hrecords] at hr
    obtain ⟨n, hn, hn_id, t, ht, hle⟩ := h.recorded r hr hkept
    have hmem : (n.notificationId, n.deliveryClaimedAt) ∈ db'.claimTimes :=
      htimes ▸ List.mem_map_of_mem hn
    obtain ⟨n', hn', hsame⟩ := List.mem_map.1 hmem
    obtain ⟨hsame_id, hsame_time⟩ := Prod.ext_iff.1 hsame
    exact ⟨n', hn', hsame_id.trans hn_id, t, Eq.mpr (congrArg (t ∈ ·) hsame_time) ht, hle⟩

theorem Delivery.Paced.after_claim (h : s.Paced limit) {n : Notification}
    (hn : n ∈ s.db.notifications) (hdue : s.db.IsDeliverable now n)
    (hspared : ∀ r ∈ claimRecords s.log, r.forgotten = true →
      r.claimedAt + seconds 60 ≤ now ∨ now + seconds 60 ≤ r.claimedAt)
    (hroom : (s.db.notifications.countP fun n ↦
      ∃ t ∈ n.deliveryClaimedAt, now - seconds 60 ≤ t) < limit) :
    Delivery.Paced limit
      { db := s.db.replace (n.claim now)
        inFlight := inFlight
        log := .claimed ⟨n.notificationId, now⟩ :: s.log } := by
  -- a notification is claimed again a minute after its last claim, in a window with room
  obtain ⟨hpending, hnext, -⟩ := hdue
  have hids := s.db.replace_ids (n.claim now)
  have hrow : ∀ {r}, r ∈ (s.db.replace (n.claim now)).notifications ↔ r = n.claim now ∨
      (r ∈ s.db.notifications ∧ r.notificationId ≠ n.notificationId) := mem_replaceRow_iff hn rfl
  -- the earlier claims of the notification
  have hlast : ∀ r ∈ claimRecords s.log, r.forgotten = false → r.notificationId = n.notificationId →
      r.claimedAt + seconds 60 ≤ now := by
    intro r hr hkept hr_id
    obtain ⟨n', hn', hn'_id, t, ht, hle⟩ := h.recorded r hr hkept
    obtain rfl := eq_of_key_eq h.keys hn' hn (hn'_id.trans hr_id)
    obtain ⟨next, hnext_mem, hlater⟩ := h.delayed n' hn hpending t ht
    have hdue := hnext next hnext_mem
    linarith
  refine ⟨hids ▸ h.keys, ?_, ?_, ?_, ?_, ?_⟩
  · intro r hr
    rcases hrow.1 hr with rfl | ⟨hr, -⟩
    · exact h.fresh n hn
    · exact h.fresh r hr
  · intro r hr hr_pending
    rcases hrow.1 hr with rfl | ⟨hr, -⟩
    · simp [Notification.claim] at hr_pending
    · exact h.delayed r hr hr_pending
  · intro r hr hkept
    rcases List.mem_append.1 hr with hr | hr
    · obtain ⟨n', hn', hn'_id, t, ht, hle⟩ := h.recorded r hr hkept
      by_cases hsame : n'.notificationId = n.notificationId
      · have hearlier := hlast r hr hkept (hn'_id.symm.trans hsame)
        refine ⟨n.claim now, hrow.2 (.inl rfl), hsame.symm.trans hn'_id, now, rfl, ?_⟩
        have hminute : 0 < seconds 60 := by decide
        linarith
      · exact ⟨n', hrow.2 (.inr ⟨hn', hsame⟩), hn'_id, t, ht, hle⟩
    · rw [List.mem_singleton.1 hr]
      exact ⟨n.claim now, hrow.2 (.inl rfl), rfl, now, rfl, le_rfl⟩
  · refine List.pairwise_append.2 ⟨h.spaced, List.pairwise_singleton _ _, ?_⟩
    intro r hr r' hr' hkept _ hsame
    rw [List.mem_singleton.1 hr'] at hsame ⊢
    exact hlast r hr hkept hsame
  · rw [claimRecords, List.map_append]
    refine h.limited.admit now ?_ ?_
    · simp
    · intro x hx
      have hcount := h.countP_inWindow_le hspared hx
      simp only [List.map_cons, List.map_nil, List.length_singleton]
      omega

theorem seconds_sixty_le_retryAfter (attempts : ℕ) : seconds 60
    ≤ seconds (retryAfter deliveryRequeueBaseDelay deliveryRequeueMaxDelay attempts) := by
  have hpow : (1 : ℤ) ≤ 2 ^ min (attempts - 1) 30 := one_le_pow₀ (by decide)
  have hdelay : 60 ≤ retryAfter deliveryRequeueBaseDelay deliveryRequeueMaxDelay attempts := by
    rw [retryAfter, deliveryRequeueBaseDelay, deliveryRequeueMaxDelay]
    omega
  rw [seconds, seconds]
  omega

theorem Delivery.Paced.after_report (h : s.Paced limit) {n new : Notification} {c : DeliveryClaim}
    {outcome : DeliveryOutcome} (hclaimed : s.db.claimed c = some n)
    (hnew : n.Reported now outcome new) (hle : c.deliveryClaimedAt ≤ now) :
    Delivery.Paced limit
      { db := s.db.replace new
        inFlight := inFlight
        log := if outcome.IsRetryable then .failedRetryably c.notificationId now :: s.log
          else s.log } := by
  -- a retryable failure waits a minute at least
  obtain ⟨hn, -, -, hn_claimed⟩ := NotificationDatabase.claimed_eq_some hclaimed
  refine h.of_claimTimes ?_ le_rfl ?_ (by split_ifs <;> rfl)
  · refine map_replaceRow_eq _ fun r hr hsame ↦ ?_
    rw [hnew.id] at hsame
    rw [eq_of_key_eq h.keys hr hn hsame, hnew.id, hnew.claimedAt]
  · intro r hr hpending t ht
    rcases mem_replaceRow hr with rfl | ⟨hr, -⟩
    · obtain ⟨hterminal, -⟩ | ⟨-, -, -, hnext⟩ := hnew.status
      · simp [hpending] at hterminal
      · rw [hnew.claimedAt, hn_claimed] at ht
        obtain rfl := Option.some.inj ht
        refine ⟨_, hnext, ?_⟩
        have hdelay := seconds_sixty_le_retryAfter n.deliveryAttempts
        linarith
    · exact h.delayed r hr hpending t ht

theorem Delivery.Paced.after_sweep (h : s.Paced limit) :
    Delivery.Paced limit { s with db := { s.db with
      notifications := updateWhere (fun n ↦ n.IsStale deliveryProcessingTimeout now)
        (fun n ↦ n.abandon now) s.db.notifications } } := by
  -- an abandoned claim keeps its time
  refine h.of_claimTimes ?_ le_rfl ?_ rfl
  · apply map_updateWhere
    exact fun _ ↦ rfl
  · intro n hn hpending
    rcases mem_updateWhere.1 hn with ⟨n', -, -, rfl⟩ | ⟨hn, -⟩
    · simp [Notification.abandon] at hpending
    · exact h.delayed n hn hpending

theorem Delivery.Paced.after_manualRequeue (h : s.Paced limit) {notificationIds : List Uuid}
    {reason : String} :
    Delivery.Paced limit
      { s with
        db := { s.db with
          notifications := updateWhere (fun n ↦ n.IsRequeueable notificationIds)
            (fun n ↦ n.requeue reason) s.db.notifications }
        log := .requeued ((s.db.notifications.filter fun n ↦
          n.IsRequeueable notificationIds).map (·.notificationId)) :: s.log } := by
  -- a manual requeue clears the claim times of its rows, and with them the claims are forgotten
  set ids := (s.db.notifications.filter fun n ↦ n.IsRequeueable notificationIds).map
    (·.notificationId) with hids_def
  have hids : (updateWhere (fun n ↦ n.IsRequeueable notificationIds)
      (fun n ↦ n.requeue reason) s.db.notifications).map Notification.notificationId
        = s.db.notifications.map Notification.notificationId := by
    apply map_updateWhere
    exact fun _ ↦ rfl
  have hkept_of : ∀ r : ClaimRecord, (r.forget ids).forgotten = false →
      r.forgotten = false ∧ r.notificationId ∉ ids := by
    intro r hr
    simpa [ClaimRecord.forget] using hr
  refine ⟨hids ▸ h.keys, ?_, ?_, ?_, ?_, ?_⟩
  · intro n hn
    obtain ⟨n', hn', hsame⟩ := exists_row_of_ids hids hn
    exact hsame ▸ h.fresh n' hn'
  · intro n hn hpending t ht
    rcases mem_updateWhere.1 hn with ⟨n', -, -, rfl⟩ | ⟨hn, -⟩
    · simp [Notification.requeue] at ht
    · exact h.delayed n hn hpending t ht
  · intro r hr hkept
    obtain ⟨r', hr', rfl⟩ := List.mem_map.1 hr
    obtain ⟨hkept, hother⟩ := hkept_of r' hkept
    obtain ⟨n, hn, hn_id, hshown⟩ := h.recorded r' hr' hkept
    refine ⟨n, mem_updateWhere.2 (.inr ⟨hn, fun hrequeued ↦ ?_⟩), hn_id, hshown⟩
    -- a row that is requeued is one whose claims are forgotten
    exact hother (List.mem_map.2 ⟨n, List.mem_filter.2 ⟨hn, decide_eq_true hrequeued⟩, hn_id⟩)
  · rw [claimRecords, List.pairwise_map]
    refine h.spaced.imp fun {r r'} hspaced hkept hkept' hsame ↦ ?_
    exact hspaced (hkept_of r hkept).1 (hkept_of r' hkept').1 hsame
  · rw [claimRecords, List.map_map]
    exact h.limited

theorem Delivery.Paced.after_insert (h : s.Paced limit) (kind : NotificationKind)
    (recipient : Uuid) :
    Delivery.Paced limit { s with db := insertNotification kind now s.db recipient } := by
  -- a new notification has no claim
  refine ⟨?_, ?_, ?_, ?_, h.spaced, h.limited⟩
  · exact nodup_keys_append h.keys fun r hr ↦ (h.fresh r hr).ne
  · intro n hn
    rcases List.mem_append.1 hn with hn | hn
    · exact (h.fresh n hn).trans (Nat.lt_succ_self _)
    · rw [List.mem_singleton.1 hn]
      exact Nat.lt_succ_self _
  · intro n hn hpending t ht
    rcases List.mem_append.1 hn with hn | hn
    · exact h.delayed n hn hpending t ht
    · rw [List.mem_singleton.1 hn] at ht
      simp at ht
  · intro r hr hkept
    obtain ⟨n, hn, hshown⟩ := h.recorded r hr hkept
    exact ⟨n, List.mem_append_left _ hn, hshown⟩

theorem Delivery.Paced.after_inserts (h : s.Paced limit) (kind : NotificationKind)
    (recipients : List Uuid) : Delivery.Paced limit
      { s with db := recipients.foldl (insertNotification kind now) s.db } := by
  induction recipients generalizing s with
  | nil => exact h
  | cons recipient recipients ih => exact ih (h.after_insert kind recipient)

/-- **One operation keeps the pace**, when a claim spares the forgotten ones. -/
theorem Delivery.Paced.after_run (h : s.Paced limit) {op : DeliveryOperation}
    (hpaced : op.IsPaced limit now) (hspared : op.SparesForgotten now s)
    (hrun : op.run now s = .ok s') : s'.Paced limit := by
  cases op.effect hrun with
  | unclaimed => exact h
  | claimed hn hdue hroom =>
    obtain ⟨rfl, rfl⟩ := hpaced
    exact h.after_claim hn hdue hspared (by exact_mod_cast hroom)
  | raised => exact h.of_claimTimes rfl le_rfl h.delayed rfl
  | reported hclaimed hnew => exact h.after_report hclaimed hnew hpaced
  | swept => exact h.after_sweep
  | requeued => exact h.after_manualRequeue
  | enqueued => exact h.after_inserts _ _
  | accounts =>
    obtain rfl := hpaced
    refine h.of_claimTimes ?_ le_rfl (by simpa using h.delayed) rfl
    simp [NotificationDatabase.claimTimes]

end Keeps

/-! ## Every run -/

theorem Delivery.ReachedSparing.paced (h : s.ReachedSparing limit now) : s.Paced limit := by
  refine h.stable (fun s hs ↦ hs.paced) ?_
  rintro now s s' hs ⟨op, -, ⟨hpaced, hspared⟩, hrun⟩
  exact hs.after_run hpaced hspared hrun

/-- **The delivery rate limit.** While no claim starts within a minute of one that a manual requeue
has cleared, no minute holds more claims than the limit. -/
theorem Delivery.ReachedSparing.claimsInMinute_le (h : s.ReachedSparing limit now)
    (x : Timestamp) : s.claimsInMinute x ≤ limit := by
  have hwindow := h.paced.limited x
  rw [List.countP_map] at hwindow
  refine le_trans (List.countP_mono_left fun r _ hr ↦ ?_) hwindow
  obtain ⟨hle, hlt⟩ := of_decide_eq_true hr
  exact decide_eq_true ⟨hle, by linarith [Int.le_sub_one_of_lt hlt]⟩

/-! ### Sample runs

The limit is one claim a minute. -/

/-- A claim at the time, and a failure to deliver a second later. -/
def sampleAttempt (error : String → EmailDeliveryError) (t : ℤ) :
    List (Timestamp × DeliveryOperation) :=
  [(seconds t, .claim (fun _ ↦ false) 1 60),
    (seconds (t + 1), .report ⟨1, seconds t⟩ (.undelivered (error "unavailable")))]

theorem Delivery.ReachedSparing.claimsInMinute_le_sample :
    ∃ s : Delivery, s.ReachedSparing 1 (seconds 60) ∧ (claimRecords s.log).length = 2
      ∧ s.claimsInMinute 0 ≤ 1 := by
  have hscript : Replays
      (DeliveryOperation.runAllowed fun now s op ↦ op.IsPaced 1 now ∧ op.SparesForgotten now s)
      ([(0, .enqueue .eventInvitation [1])] ++ sampleAttempt .terminal 0
        ++ [(seconds 2, .manualRequeue [1] "requested"), (seconds 60, .claim (fun _ ↦ false) 1 60)])
      .sample (fun s ↦ (claimRecords s.log).length = 2) := by
    decide +kernel
  obtain ⟨s, hscript, hlength⟩ := exists_of_replays hscript
  have hreached : s.ReachedSparing 1 (seconds 60) :=
    reachable_of_deliveryScript hscript (List.pairwise_of_forall fun _ _ ↦ trivial)
  exact ⟨s, hreached, hlength, Delivery.ReachedSparing.claimsInMinute_le hreached 0⟩

/-- A notification that failed for the tenth time is requeued by an operator, and claimed again
three seconds after its last claim. -/
theorem not_claimsInMinute_le : ¬ ∀ (limit : ℕ) (now : Timestamp) (s : Delivery), 1 ≤ limit →
    s.ReachedPaced limit now → ∀ x, s.claimsInMinute x ≤ limit := by
  intro hclaim
  have hscript : Replays (DeliveryOperation.runAllowed fun now _ op ↦ op.IsPaced 1 now)
      ([(0, .enqueue .eventInvitation [1])]
        ++ (List.range 10).flatMap (fun i ↦ sampleAttempt .retryable (i * 1801))
        ++ [(seconds 16211, .manualRequeue [1] "requested"),
          (seconds 16212, .claim (fun _ ↦ false) 1 60)])
      .sample (fun s ↦ s.claimsInMinute (seconds 16209) = 2) := by
    decide +kernel
  obtain ⟨s, hscript, htwo⟩ := exists_of_replays hscript
  have hreached : s.ReachedPaced 1 (seconds 16212) :=
    reachable_of_deliveryScript hscript (List.pairwise_of_forall fun _ _ ↦ trivial)
  have hle := hclaim 1 _ s le_rfl hreached (seconds 16209)
  omega

end Ocg
