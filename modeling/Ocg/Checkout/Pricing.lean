import Ocg.Enrollment.Seats

/-!
# Pricing a checkout

The read-only half of checkout preparation: payment readiness, currency and amount limits, and the
price of a ticket selection with an optional discount code. Nothing here writes a row, so an
exception that the caller turns into a conflict loses no work.
-/

namespace Ocg

open Relational

/-! ## Payment configuration -/

/-- `list_payment_currency_codes`. -/
def listPaymentCurrencyCodes : List String :=
  ["AED", "AFN", "ALL", "AMD", "ANG", "AOA", "ARS", "AUD", "AWG", "AZN",
    "BAM", "BBD", "BDT", "BGN", "BIF", "BMD", "BND", "BOB", "BRL", "BSD",
    "BWP", "BYN", "BZD", "CAD", "CDF", "CHF", "CLP", "CNY", "COP", "CRC",
    "CVE", "CZK", "DJF", "DKK", "DOP", "DZD", "EGP", "ETB", "EUR", "FJD",
    "FKP", "GBP", "GEL", "GIP", "GMD", "GNF", "GTQ", "GYD", "HKD", "HNL",
    "HTG", "HUF", "IDR", "ILS", "INR", "ISK", "JMD", "JPY", "KES", "KGS",
    "KHR", "KMF", "KRW", "KYD", "KZT", "LAK", "LBP", "LKR", "LRD", "LSL",
    "MAD", "MDL", "MGA", "MKD", "MMK", "MNT", "MOP", "MUR", "MVR", "MWK",
    "MXN", "MYR", "MZN", "NAD", "NGN", "NIO", "NOK", "NPR", "NZD", "PAB",
    "PEN", "PGK", "PHP", "PKR", "PLN", "PYG", "QAR", "RON", "RSD", "RUB",
    "RWF", "SAR", "SBD", "SCR", "SEK", "SGD", "SHP", "SLE", "SOS", "SRD",
    "STD", "SZL", "THB", "TJS", "TOP", "TRY", "TTD", "TWD", "TZS", "UAH",
    "UGX", "USD", "UYU", "UZS", "VND", "VUV", "WST", "XAF", "XCD", "XCG",
    "XOF", "XPF", "YER", "ZAR", "ZMW"]

/-- `nullif(upper(btrim(code)), '')`. -/
def normalizeCode (code : Option String) : Option String := (nullIfBlank code).map upper

/-- `validate_payment_currency_code`. -/
def validatePaymentCurrencyCode (code : Option String) : Except DbError Unit := do
  require (normalizeCode code ≠ none) (.raised "payment_currency_code cannot be empty")
  require (∃ c ∈ normalizeCode code, c ∈ listPaymentCurrencyCodes)
    (.raised "payment_currency_code must be a supported currency code")

/-- The minimum charge of a currency, in minor units. -/
def minimumChargeAmountMinor : String → Option ℤ
  | "AED" => some 200
  | "ARS" => some 50
  | "AUD" => some 50
  | "BGN" => some 100
  | "BRL" => some 50
  | "CAD" => some 50
  | "CHF" => some 50
  | "COP" => some 50
  | "CZK" => some 1500
  | "DKK" => some 250
  | "EUR" => some 50
  | "GBP" => some 30
  | "HKD" => some 400
  | "HUF" => some 17500
  | "IDR" => some 50
  | "ILS" => some 50
  | "INR" => some 50
  | "JPY" => some 50
  | "KRW" => some 50
  | "MXN" => some 1000
  | "MYR" => some 200
  | "NOK" => some 300
  | "NZD" => some 50
  | "PHP" => some 50
  | "PLN" => some 200
  | "RON" => some 200
  | "RUB" => some 50
  | "SEK" => some 300
  | "SGD" => some 50
  | "THB" => some 1000
  | "USD" => some 50
  | "ZAR" => some 50
  | _ => none

/-- The maximum charge of a currency, in minor units. -/
def maximumChargeAmountMinor : String → ℤ
  | "COP" => 9999999999999
  | "HUF" => 9999999999999
  | "IDR" => 999999999999
  | "INR" => 999999999
  | "JPY" => 9999999999999
  | "LBP" => 999999999999
  | _ => 99999999

/-- `validate_payment_amount`. -/
def validatePaymentAmount (currencyCode : Option String) (amountMinor : ℤ) :
    Except DbError Unit := do
  validatePaymentCurrencyCode currencyCode
  let code := (normalizeCode currencyCode).getD ""
  require (0 ≤ amountMinor) (.raised "payment amount must be greater than or equal to 0")
  if amountMinor = 0 then .ok () else do
    require (∀ minimum ∈ minimumChargeAmountMinor code, minimum ≤ amountMinor)
      (.raised "payment amount must be zero or at least Stripe minimum charge amount")
    require (amountMinor ≤ maximumChargeAmountMinor code)
      (.raised "payment amount exceeds Stripe maximum charge amount")

/-- The tax path of an event must be consistent on its own. -/
def validateTaxConfiguration (e : Event) : Except DbError Unit :=
  match e.taxCalculationMode with
  | .automatic =>
    require (e.manualTaxRateIds = [])
      (.raised "automatic ticket tax cannot include manual Tax Rates")
  | .manual =>
    require (e.manualTaxRateIds ≠ []
        ∧ (∀ rate ∈ e.manualTaxRateIds, nullIfBlank (some rate) ≠ none ∧ rate = btrim rate)
        ∧ e.manualTaxRateIds.Nodup)
      (.raised "manual ticket tax requires at least one unique Stripe Tax Rate")
  | .noTax =>
    require (e.taxBehavior = .inclusive ∧ e.manualTaxRateIds = [])
      (.raised "events that do not collect tax require inclusive display and no Tax Rates")

/-- `validate_event_ticketing_payment_readiness` for a stored event, as enrollment calls it. -/
def validateEventTicketingPaymentReadiness (configuredProvider : Option String)
    (paidCapable : Bool) (paymentCurrencyCode : Option String)
    (paymentRecipient : Option PaymentRecipient) (e : Event) : Except DbError Unit :=
  if paidCapable = false then .ok () else do
    require (paymentCurrencyCode ≠ none)
      (.raised "paid-capable events require payment_currency_code")
    validatePaymentCurrencyCode paymentCurrencyCode
    require (configuredProvider ≠ none) (.raised "payments are not configured on this server")
    require (paymentRecipient ≠ none)
      (.raised "paid-capable events require a payment recipient")
    require (∃ r ∈ paymentRecipient, some (r.provider.getD "") = configuredProvider)
      (.raised
        "paid-capable events require a payment recipient for the server payments provider")
    require (∃ r ∈ paymentRecipient, nullIfBlank r.recipientId ≠ none)
      (.raised "paid-capable events require a valid payment recipient")
    require (∃ r ∈ paymentRecipient, nullIfBlank r.sellerDisplayName ≠ none)
      (.raised "paid-capable events require a payment recipient seller name")
    require (e.eventKindId ∈ [EventKind.inPerson, .hybrid]
        ∧ nullIfBlank e.venueAddress ≠ none ∧ nullIfBlank e.venueCity ≠ none
        ∧ nullIfBlank e.venueCountryCode ≠ none ∧ nullIfBlank e.venueName ≠ none
        ∧ nullIfBlank e.venueZipCode ≠ none)
      (.raised
        "paid ticketing requires an in-person or hybrid event with a complete physical venue")
    validateTaxConfiguration e

/-! ## The price of a selection -/

/-- `prepare_event_checkout_validate_attendee_state`. -/
def prepareEventCheckoutValidateAttendeeState (user : Uuid) (s : Enrollment) :
    Except DbError Unit := do
  require (¬ ∃ ea ∈ s.attendees, ea.userId = user ∧ ea.status = .confirmed)
    (.raised "user is already attending this event")
  require (¬ ∃ ea ∈ s.attendees, ea.userId = user
      ∧ ea.status ∈ [AttendeeStatus.invitationPending, .invitationRejected])
    (.raised "user has a pending or rejected invitation for this event")
  require (¬ ∃ ew ∈ s.waitlist, ew.userId = user)
    (.raised "user is already on the waiting list for this event")

/-- The redemptions that count against `total_available`. -/
def Purchase.Redeems (now : Timestamp) (code : Uuid) (ep : Purchase) : Prop :=
  ep.eventDiscountCodeId = some code ∧ (ep.status.IsEntitled ∨ ep.HasLiveHold now)

instance (now : Timestamp) (code : Uuid) (ep : Purchase) : Decidable (ep.Redeems now code) :=
  inferInstanceAs (Decidable (_ ∧ _))

/-- `count(*)` of the active redemptions of a code. -/
def redemptionCount (now : Timestamp) (code : Uuid) (s : Enrollment) : ℕ :=
  s.purchases.countP fun ep ↦ ep.Redeems now code

structure ResolvedPrice where
  discountAmountMinor : ℤ
  eventDiscountCodeId : Option Uuid
  finalAmountMinor : ℤ
  ticketTitle : String
  deriving DecidableEq, Repr

/-- The amount that a code takes off a price. -/
def DiscountKind.discount (kind : DiscountKind) (priceMinor : ℤ) : ℤ :=
  match kind with
  | .fixedAmount amount => min amount priceMinor
  | .percentage percent => (priceMinor * percent).tdiv 100

/-- Validates a discount code against the live tier price and returns the discount with the code. -/
def applyDiscountCode (now : Timestamp) (code : String) (priceMinor : ℤ) (s : Enrollment) :
    Except DbError (ℤ × Uuid) := do
  require (priceMinor ≠ 0) (.raised "discount codes cannot be applied to free tickets")
  match s.discountCodes.find? fun edc ↦ upper edc.code = code with
  | none => .error (.raised "discount code not found")
  | some edc => do
    require (edc.active = true ∧ (∀ t ∈ edc.startsAt, t ≤ now) ∧ (∀ t ∈ edc.endsAt, now ≤ t)
        ∧ (edc.availableOverrideActive = true → ∀ available ∈ edc.available, 0 < available))
      (.raised "discount code is not available")
    require (∀ total ∈ edc.totalAvailable,
        (redemptionCount now edc.eventDiscountCodeId s : ℤ) < total)
      (.raised "discount code is no longer available")
    let discount := edc.kind.discount priceMinor
    require (discount ≠ 0) (.raised "discount code does not reduce ticket price")
    .ok (discount, edc.eventDiscountCodeId)

/-- `prepare_event_checkout_validate_and_resolve_pricing`. -/
def prepareEventCheckoutValidateAndResolvePricing (now : Timestamp) (tier user : Uuid)
    (discountCode : Option String) (offer : Option Uuid) (s : Enrollment) :
    Except DbError ResolvedPrice := do
  prepareEventCheckoutValidateAttendeeState user s
  require (∀ id ∈ offer, ∃ ao ∈ s.admissionOffers, ao.admissionOfferId = id
      ∧ ao.eventTicketTypeId = tier ∧ ao.userId = user ∧ ao.IsReserving now)
    (.raised "admission offer is no longer available")
  match s.ticketTypes.find? fun ett ↦ ett.eventTicketTypeId = tier with
  | none => .error (.raised "ticket type not found")
  | some ett => do
    require (ett.active = true) (.raised "ticket type is not active")
    require (offer ≠ none ∨ ett.availability = .publicTier)
      (.raised "ticket type is not available for direct checkout")
    match ett.currentPrice now with
    | none => .error (.raised "ticket type does not have an active price window")
    | some priceMinor => do
      require (offer ≠ none ∨ ¬ ∃ ew ∈ s.waitlist, ew.eventTicketTypeId = tier)
        (.raised "ticket type has queued users")
      require (offer ≠ none ∨ allocatedSeatCount now tier s < ett.seatsTotal)
        (.raised "ticket type is sold out")
      match discountCode with
      | none => .ok ⟨0, none, max priceMinor 0, ett.title⟩
      | some code => do
        let (discount, id) ← applyDiscountCode now code priceMinor s
        .ok ⟨discount, some id, max (priceMinor - discount) 0, ett.title⟩

end Ocg
