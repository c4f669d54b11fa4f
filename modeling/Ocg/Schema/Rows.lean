import Mathlib.Data.Int.Notation
import Mathlib.Data.List.Basic
import Mathlib.Tactic.DeriveFintype
import Mathlib.Tactic.Common
import Ocg.Text.Trim

/-!
# Enrollment and payment rows

The rows of one event's partition of the database: the event and its group, its ticket tiers with
their price windows, and the seven tables that enrollment and refunds move rows through. A column
that no modelled function reads — timestamps kept for display, tax document snapshots, meeting and
check-in flags — is left out.

Timestamps are microseconds. Identifiers are natural numbers issued by two counters, one for the
enrollment tables and one for refunds, their requests and their claims, so that a fresh identifier
differs from every identifier it is compared with. Columns whose `CHECK`
couples their nullness are one optional record: the price snapshot of an offer, and the
authoritative amounts of a purchase.
-/

namespace Ocg

abbrev Timestamp := ℤ
abbrev Uuid := ℕ

/-- `interval 'n minutes'`, in microseconds. -/
def minutes (n : ℤ) : ℤ := n * 60000000

/-- `interval 'n hours'`, in microseconds. -/
def hours (n : ℤ) : ℤ := minutes (n * 60)

/-- An exception that aborts the transaction: `raise exception`, or a violated constraint. -/
inductive DbError
  | raised (message : String)
  | violated (constraint : String)
  deriving DecidableEq, Repr

/-! ## Text -/

/-- `btrim(text)`: spaces are removed from both ends. -/
def btrim (s : String) : String := Text.trimBy (· = ' ') s

/-- `nullif(btrim(text), '')`. -/
def nullIfBlank (s : Option String) : Option String :=
  (s.map btrim).filter (· ≠ "")

/-- `upper(text)` of ASCII letters. The database's locale maps other letters too. -/
def upper (s : String) : String := String.ofList (s.toList.map Char.toUpper)

/-- `lower(text)` of ASCII letters. The database's locale maps other letters too; the proofs use
only that doing it twice changes nothing. -/
def lower (s : String) : String := String.ofList (s.toList.map Char.toLower)

theorem toLower_toLower (c : Char) : c.toLower.toLower = c.toLower := by
  by_cases h : c.val ≥ 'A'.val ∧ c.val ≤ 'Z'.val
  · have hval : c.toLower.val = c.val + ('a'.val - 'A'.val) := congrArg Char.val (dif_pos h)
    refine dif_neg ?_
    rw [hval]
    simp only [ge_iff_le, UInt32.le_iff_toNat_le, UInt32.toNat_add] at h ⊢
    simp at h ⊢
    omega
  · exact congrArg Char.toLower (dif_neg h)

theorem lower_lower (s : String) : lower (lower s) = lower s := by
  unfold lower
  rw [String.toList_ofList, List.map_map]
  congr 2
  funext c
  exact toLower_toLower c

/-! ## Statuses and kinds -/

inductive TicketAvailability
  | invitationOnly
  | publicTier
  deriving DecidableEq, Repr

inductive EventKind
  | hybrid
  | inPerson
  | virtual
  deriving DecidableEq, Repr

inductive TaxBehavior
  | exclusive
  | inclusive
  deriving DecidableEq, Repr

inductive TaxCalculationMode
  | automatic
  | manual
  | noTax
  deriving DecidableEq, Repr

inductive ChargeModel
  | directCharge
  | ocgFree
  deriving DecidableEq, Repr

inductive OfferSource
  | approval
  | organizerInvitation
  | waitlist
  deriving DecidableEq, Repr

inductive OfferStatus
  | canceled
  | checkoutPending
  | completed
  | declined
  | expired
  | pending
  deriving DecidableEq, Repr

inductive PurchaseStatus
  | completed
  | expired
  | pending
  | refundPending
  | refundRecoveryPending
  | refundRequested
  | refunded
  deriving DecidableEq, Repr

inductive AttendeeStatus
  | attendanceCanceled
  | confirmed
  | invitationCanceled
  | invitationPending
  | invitationRejected
  | registrationQuestionsPending
  deriving DecidableEq, Repr

inductive InvitationRequestStatus
  | accepted
  | pending
  | rejected
  deriving DecidableEq, Repr

inductive RefundRequestStatus
  | approved
  | approving
  | pending
  | rejected
  deriving DecidableEq, Repr

inductive RefundKind
  | attendanceCancellation
  | automaticUnfulfillableCheckout
  | eventCancellation
  | refundRequestApproval
  deriving DecidableEq, Repr

inductive RefundStatus
  | finalized
  | processing
  | providerFailed
  | providerPending
  | providerSucceeded
  deriving DecidableEq, Repr

/-- `event_discount_code.kind` with the value column that its kind requires. -/
inductive DiscountKind
  | fixedAmount (amountMinor : ℤ)
  | percentage (percentage : ℤ)
  deriving DecidableEq, Repr

/-- `admission_offer.status in ('checkout_pending', 'pending')`. -/
def OfferStatus.IsActive (s : OfferStatus) : Prop := s ∈ [OfferStatus.checkoutPending, .pending]

instance (s : OfferStatus) : Decidable s.IsActive :=
  inferInstanceAs (Decidable (s ∈ [OfferStatus.checkoutPending, .pending]))

@[simp] theorem OfferStatus.isActive_iff {s : OfferStatus} :
    s.IsActive ↔ s = .checkoutPending ∨ s = .pending := by
  simp [OfferStatus.IsActive]

/-- `event_purchase.status in ('completed', 'refund-requested')`: the purchase entitles to
attendance. -/
def PurchaseStatus.IsEntitled (s : PurchaseStatus) : Prop :=
  s ∈ [PurchaseStatus.completed, .refundRequested]

instance (s : PurchaseStatus) : Decidable s.IsEntitled :=
  inferInstanceAs (Decidable (s ∈ [PurchaseStatus.completed, .refundRequested]))

@[simp] theorem PurchaseStatus.isEntitled_iff {s : PurchaseStatus} :
    s.IsEntitled ↔ s = .completed ∨ s = .refundRequested := by
  simp [PurchaseStatus.IsEntitled]

/-- `event_purchase.status in ('completed', 'pending', 'refund-requested')`: the statuses of the
partial unique indexes. -/
def PurchaseStatus.IsActive (s : PurchaseStatus) : Prop :=
  s ∈ [PurchaseStatus.completed, .pending, .refundRequested]

instance (s : PurchaseStatus) : Decidable s.IsActive :=
  inferInstanceAs (Decidable (s ∈ [PurchaseStatus.completed, .pending, .refundRequested]))

@[simp] theorem PurchaseStatus.isActive_iff {s : PurchaseStatus} :
    s.IsActive ↔ s = .completed ∨ s = .pending ∨ s = .refundRequested := by
  simp [PurchaseStatus.IsActive]

/-- The four statuses that keep a seat whatever the hold: completed, and every unsettled refund. -/
def PurchaseStatus.IsSeated (s : PurchaseStatus) : Prop :=
  s ∈ [PurchaseStatus.completed, .refundPending, .refundRecoveryPending, .refundRequested]

instance (s : PurchaseStatus) : Decidable s.IsSeated :=
  inferInstanceAs (Decidable
    (s ∈ [PurchaseStatus.completed, .refundPending, .refundRecoveryPending, .refundRequested]))

@[simp] theorem PurchaseStatus.isSeated_iff {s : PurchaseStatus} :
    s.IsSeated ↔ s = .completed ∨ s = .refundPending ∨ s = .refundRecoveryPending
      ∨ s = .refundRequested := by
  simp [PurchaseStatus.IsSeated]

/-- The statuses that the enrollment-state trigger counts as an active purchase. -/
def PurchaseStatus.IsConflicting (s : PurchaseStatus) : Prop :=
  s ∈ [PurchaseStatus.completed, .pending, .refundPending, .refundRecoveryPending,
    .refundRequested]

instance (s : PurchaseStatus) : Decidable s.IsConflicting :=
  inferInstanceAs (Decidable
    (s ∈ [PurchaseStatus.completed, .pending, .refundPending, .refundRecoveryPending,
      .refundRequested]))

@[simp] theorem PurchaseStatus.isConflicting_iff {s : PurchaseStatus} :
    s.IsConflicting ↔ s = .completed ∨ s = .pending ∨ s = .refundPending
      ∨ s = .refundRecoveryPending ∨ s = .refundRequested := by
  simp [PurchaseStatus.IsConflicting]

theorem PurchaseStatus.IsEntitled.isActive {s : PurchaseStatus} (h : s.IsEntitled) :
    s.IsActive := by
  rcases isEntitled_iff.1 h with h | h <;> simp [h]

/-- `event_attendee.status in ('confirmed', 'invitation-pending',
'registration-questions-pending')`. -/
def AttendeeStatus.IsActive (s : AttendeeStatus) : Prop :=
  s ∈ [AttendeeStatus.confirmed, .invitationPending, .registrationQuestionsPending]

instance (s : AttendeeStatus) : Decidable s.IsActive :=
  inferInstanceAs (Decidable
    (s ∈ [AttendeeStatus.confirmed, .invitationPending, .registrationQuestionsPending]))

@[simp] theorem AttendeeStatus.isActive_iff {s : AttendeeStatus} :
    s.IsActive ↔ s = .confirmed ∨ s = .invitationPending ∨ s = .registrationQuestionsPending := by
  simp [AttendeeStatus.IsActive]

/-! ## Event configuration -/

/-- A registration question; only the number of questions and their acceptance are used. -/
abbrev Question := String

/-- A submitted questionnaire payload. -/
abbrev Answers := String

/-- `"group".payment_recipient`. -/
structure PaymentRecipient where
  provider : Option String
  recipientId : Option String
  sellerDisplayName : Option String
  deriving DecidableEq, Repr

structure Group where
  groupId : Uuid
  communityId : Uuid
  active : Bool
  paymentRecipient : Option PaymentRecipient
  deriving DecidableEq, Repr

structure Event where
  attendeeApprovalRequired : Bool
  canceled : Bool
  deleted : Bool
  endsAt : Option Timestamp
  eventKindId : EventKind
  manualTaxRateIds : List String
  paymentCurrencyCode : Option String
  published : Bool
  registrationEndsAt : Option Timestamp
  registrationQuestions : List Question
  registrationStartsAt : Option Timestamp
  startsAt : Option Timestamp
  taxBehavior : TaxBehavior
  taxCalculationMode : TaxCalculationMode
  venueAddress : Option String
  venueCity : Option String
  venueCountryCode : Option String
  venueName : Option String
  venueZipCode : Option String
  waitlistEnabled : Bool
  deriving DecidableEq, Repr

structure PriceWindow where
  eventTicketPriceWindowId : Uuid
  amountMinor : ℤ
  endsAt : Option Timestamp
  startsAt : Option Timestamp
  deriving DecidableEq, Repr

structure TicketType where
  eventTicketTypeId : Uuid
  active : Bool
  availability : TicketAvailability
  order : ℤ
  priceWindows : List PriceWindow
  seatsTotal : ℕ
  title : String
  deriving DecidableEq, Repr

structure DiscountCode where
  eventDiscountCodeId : Uuid
  active : Bool
  available : Option ℤ
  availableOverrideActive : Bool
  code : String
  endsAt : Option Timestamp
  kind : DiscountKind
  startsAt : Option Timestamp
  totalAvailable : Option ℤ
  deriving DecidableEq, Repr

/-! ## Enrollment rows -/

/-- The first-claim price of an offer, immutable once set. By `admission_offer_snapshot_chk` the two
amounts and the title are null together, and then so are the other columns. -/
structure PriceSnapshot where
  amountMinor : ℤ
  currencyCode : Option String
  discountAmountMinor : ℤ
  discountCode : Option String
  eventDiscountCodeId : Option Uuid
  ticketTitle : String
  deriving DecidableEq, Repr

structure AdmissionOffer where
  admissionOfferId : Uuid
  createdAt : Timestamp
  eventTicketTypeId : Uuid
  expiresAt : Timestamp
  organizerUserId : Option Uuid
  source : OfferSource
  status : OfferStatus
  userId : Uuid
  snapshot : Option PriceSnapshot
  deriving DecidableEq, Repr

/-- The amounts a completed checkout reports: both totals, the tax and the fee follow from it. -/
structure FinancialAmounts where
  finalPlatformFeeAmountMinor : ℤ
  providerTotalMinor : ℤ
  subtotalExcludingTaxMinor : ℤ
  taxAmountMinor : ℤ
  deriving DecidableEq, Repr

structure Purchase where
  eventPurchaseId : Uuid
  admissionOfferId : Option Uuid
  amountMinor : ℤ
  chargeModel : ChargeModel
  connectedSellerId : Option String
  createdAt : Timestamp
  currencyCode : Option String
  discountAmountMinor : ℤ
  discountCode : Option String
  eventDiscountCodeId : Option Uuid
  eventTicketTypeId : Uuid
  financialAmounts : Option FinancialAmounts
  holdExpiresAt : Option Timestamp
  paymentProviderId : Option String
  platformFeeBps : ℤ
  providerApplicationFeeId : Option String
  providerChargeId : Option String
  providerCheckoutSessionId : Option String
  providerCheckoutUrl : Option String
  providerObjectAccountId : Option String
  providerPaymentReference : Option String
  provisionalPlatformFeeAmountMinor : ℤ
  status : PurchaseStatus
  taxBehavior : Option TaxBehavior
  taxCalculationMode : Option TaxCalculationMode
  ticketTitle : String
  userId : Uuid
  deriving DecidableEq, Repr

structure Attendee where
  userId : Uuid
  manuallyInvited : Bool
  registrationAnswers : Option Answers
  status : AttendeeStatus
  deriving DecidableEq, Repr

structure WaitlistEntry where
  userId : Uuid
  createdAt : Timestamp
  eventTicketTypeId : Uuid
  deriving DecidableEq, Repr

structure InvitationRequest where
  userId : Uuid
  eventTicketTypeId : Option Uuid
  registrationAnswers : Option Answers
  status : InvitationRequestStatus
  deriving DecidableEq, Repr

/-- `expires_at > current_timestamp` on an active offer: the offer reserves a seat. -/
def AdmissionOffer.IsReserving (now : Timestamp) (ao : AdmissionOffer) : Prop :=
  ao.status.IsActive ∧ now < ao.expiresAt

instance (now : Timestamp) (ao : AdmissionOffer) : Decidable (ao.IsReserving now) :=
  inferInstanceAs (Decidable (_ ∧ _))

/-- `status = 'pending' and hold_expires_at > current_timestamp`. -/
def Purchase.HasLiveHold (now : Timestamp) (ep : Purchase) : Prop :=
  ep.status = .pending ∧ ∃ hold ∈ ep.holdExpiresAt, now < hold

instance (now : Timestamp) (ep : Purchase) : Decidable (ep.HasLiveHold now) :=
  inferInstanceAs (Decidable (_ ∧ _))

/-! ## Refund rows -/

structure Refund where
  eventPurchaseRefundId : Uuid
  amountMinor : ℤ
  attemptCount : ℕ
  claimId : Option Uuid
  claimedAt : Option Timestamp
  createdAt : Timestamp
  currencyCode : String
  eventPurchaseId : Uuid
  eventRefundRequestId : Option Uuid
  failureMessage : Option String
  finalizedAt : Option Timestamp
  idempotencyKey : String
  initiatedByUserId : Option Uuid
  kind : RefundKind
  nextAttemptAt : Timestamp
  paymentProviderId : String
  providerRefundId : Option String
  providerRefundedAt : Option Timestamp
  recoveryCompletedAt : Option Timestamp
  recoveryCompletedByUserId : Option Uuid
  recoveryNote : Option String
  recoveryReference : Option String
  reviewNote : Option String
  status : RefundStatus
  terminalFailure : Bool
  deriving DecidableEq, Repr

structure RefundRequest where
  eventRefundRequestId : Uuid
  eventPurchaseId : Uuid
  requestedByUserId : Uuid
  requestedReason : Option String
  reviewNote : Option String
  reviewedAt : Option Timestamp
  reviewedByUserId : Option Uuid
  status : RefundRequestStatus
  deriving DecidableEq, Repr

structure User where
  userId : Uuid
  email : String
  emailVerified : Bool
  registered : Bool
  deriving DecidableEq, Repr

/-! ## The partition -/

/-- What the enrollment functions read and write of one event. -/
structure Enrollment where
  event : Event
  group : Group
  ticketTypes : List TicketType
  discountCodes : List DiscountCode
  admissionOffers : List AdmissionOffer
  purchases : List Purchase
  attendees : List Attendee
  waitlist : List WaitlistEntry
  invitationRequests : List InvitationRequest
  nextUuid : Uuid
  deriving DecidableEq, Repr

/-- The whole partition: enrollment, durable refunds and their requests, and the user catalog. -/
structure Database extends Enrollment where
  nextRefundUuid : Uuid
  refunds : List Refund
  refundRequests : List RefundRequest
  users : List User
  deriving DecidableEq, Repr

end Ocg
