import Mathlib
import Ocg.Relational.Table
import Ocg.Relational.Transaction
import Ocg.Schema.Rows

/-!
# Durable provider work

Refunds of the platform's fee and credit notes are rows that a worker claims, takes to the provider
and reports on, until a bounded number of attempts is used up and an operator steps in. Both tables
have the same columns for it and the same functions over them, so the functions are written once,
over what an item orders and the words of its table.

The columns that a status requires are part of the status: an item in processing has its claim, and
a finished one the provider's object.
-/

namespace Ocg

open Relational

/-- The evidence of an operator who finished an item outside the worker. -/
structure WorkRecovery where
  completedAt : Timestamp
  completedByUserId : Uuid
  note : String
  reference : String
  deriving DecidableEq, Repr

inductive WorkStatus
  | pending
  | failed
  | processing (claimId : Uuid) (claimedAt : Timestamp)
  /-- `completed` for a fee adjustment, `issued` for a credit note. -/
  | done (completedAt : Timestamp) (providerObjectId : String) (recovery : Option WorkRecovery)
  deriving DecidableEq, Repr

/-- A row of work; `order` holds the columns that no work function writes. -/
structure WorkItem (δ : Type) where
  id : Uuid
  order : δ
  attemptCount : ℕ
  createdAt : Timestamp
  failureMessage : Option String
  nextAttemptAt : Timestamp
  status : WorkStatus
  deriving DecidableEq, Repr

/-- The words in which a table's functions report. -/
structure WorkTexts where
  name : String
  title : String
  claimIsStale : String
  differentEvidence : String
  differentProviderId : String
  providerIdIsRequired : String

variable {δ : Type}

/-- The row that an insert proposes. -/
def newWorkItem (id : Uuid) (now : Timestamp) (order : δ) : WorkItem δ where
  id := id
  order := order
  attemptCount := 0
  createdAt := now
  failureMessage := none
  nextAttemptAt := now
  status := .pending

/-! ## Claims -/

/-- `status = 'processing' and claimed_at < current_timestamp - interval '15 minutes'`. -/
def WorkStatus.IsStale (now : Timestamp) : WorkStatus → Prop
  | .processing _ claimedAt => claimedAt < now - minutes 15
  | _ => False

instance WorkStatus.decidableIsStale (now : Timestamp) (status : WorkStatus) :
    Decidable (status.IsStale now) := by
  cases status <;> unfold WorkStatus.IsStale <;> infer_instance

/-- The diagnostics of an item whose last automatic attempt nobody reported on. -/
def WorkItem.finalNotice (texts : WorkTexts) (w : WorkItem δ) : String :=
  let notice := texts.title
    ++ " worker claim expired after the final automatic attempt; provider outcome is unknown"
  match w.failureMessage with
  | none => notice
  | some message => message ++ "\n" ++ notice

def WorkItem.surfaceFinal (texts : WorkTexts) (w : WorkItem δ) : WorkItem δ :=
  { w with failureMessage := some (w.finalNotice texts), status := .failed }

/-- Due work, or a claim abandoned by an interrupted worker. -/
def WorkItem.IsClaimable (now : Timestamp) (w : WorkItem δ) : Prop :=
  w.attemptCount < 10
    ∧ ((w.status ∈ [WorkStatus.failed, .pending] ∧ w.nextAttemptAt ≤ now) ∨ w.status.IsStale now)

instance WorkItem.decidableIsClaimable (now : Timestamp) (w : WorkItem δ) :
    Decidable (w.IsClaimable now) :=
  inferInstanceAs (Decidable (_ ∧ _))

/-- `order by next_attempt_at, created_at` and the identifier. -/
def WorkItem.claimedBefore (w w' : WorkItem δ) : Bool :=
  decide (w.nextAttemptAt < w'.nextAttemptAt
    ∨ (w.nextAttemptAt = w'.nextAttemptAt
      ∧ (w.createdAt < w'.createdAt ∨ (w.createdAt = w'.createdAt ∧ w.id < w'.id))))

def WorkItem.claim (now : Timestamp) (claimId : Uuid) (w : WorkItem δ) : WorkItem δ :=
  { w with attemptCount := w.attemptCount + 1, status := .processing claimId now }

/-- Surfaces abandoned final attempts in scope, and claims the next eligible item that no other
transaction has locked. -/
def claimWork (locked : Uuid → Bool) (texts : WorkTexts) (inScope eligible hasContext : δ → Prop)
    [DecidablePred inScope]
    [DecidablePred eligible] [DecidablePred hasContext] (now : Timestamp) (claimId : Uuid)
    (rows : List (WorkItem δ)) :
    Except DbError (Option (WorkItem δ) × List (WorkItem δ)) :=
  let swept := updateWhere
    (fun w ↦ inScope w.order ∧ 10 ≤ w.attemptCount ∧ w.status.IsStale now)
    (WorkItem.surfaceFinal texts) rows
  match firstBy WorkItem.claimedBefore
      (swept.filter fun w ↦ eligible w.order ∧ w.IsClaimable now ∧ locked w.id = false) with
  | none => .ok (none, swept)
  | some w => do
    require (hasContext w.order) (.raised (texts.name ++ " is missing provider context"))
    .ok (some (w.claim now claimId), replaceRow WorkItem.id (w.claim now claimId) swept)

/-! ## Results -/

/-- The provider did what the item orders; the report of it may be repeated. -/
def recordWorkSucceeded (texts : WorkTexts) (now : Timestamp) (item claimId : Uuid)
    (providerObjectId : Option String) (rows : List (WorkItem δ)) :
    Except DbError (List (WorkItem δ)) := do
  require (nullIfBlank providerObjectId ≠ none) (.raised texts.providerIdIsRequired)
  match rows.find? fun w ↦ w.id = item with
  | none => .error (.raised (texts.name ++ " not found"))
  | some w =>
    match w.status with
    | .done _ known _ => do
      require (some known = providerObjectId) (.raised texts.differentProviderId)
      .ok rows
    | .processing current _ => do
      require (current = claimId) (.raised texts.claimIsStale)
      .ok (replaceRow WorkItem.id
        { w with
          failureMessage := none
          status := .done now (providerObjectId.getD "") none } rows)
    | _ => .error (.raised texts.claimIsStale)

/-- `claim_id = p_claim_id and status = 'processing'`. -/
def WorkStatus.IsClaimedBy (claimId : Uuid) : WorkStatus → Prop
  | .processing current _ => current = claimId
  | _ => False

instance WorkStatus.decidableIsClaimedBy (claimId : Uuid) (status : WorkStatus) :
    Decidable (status.IsClaimedBy claimId) := by
  cases status <;> unfold WorkStatus.IsClaimedBy <;> infer_instance

/-- `least(power(2, attempt_count), 60)` minutes. -/
def workBackoff (attemptCount : ℕ) : ℤ := minutes (min (2 ^ attemptCount) 60)

/-- The attempt failed; the item waits for its next one. -/
def recordWorkFailure (texts : WorkTexts) (now : Timestamp) (item claimId : Uuid)
    (failureMessage : Option String) (rows : List (WorkItem δ)) :
    Except DbError (List (WorkItem δ)) :=
  match rows.find? fun w ↦ w.id = item ∧ w.status.IsClaimedBy claimId with
  | none => .error (.raised texts.claimIsStale)
  | some w => .ok (replaceRow WorkItem.id
      { w with
        failureMessage := nullIfBlank failureMessage
        nextAttemptAt := now + workBackoff w.attemptCount
        status := .failed } rows)

/-! ## Requeueing -/

/-- An operator gives exhausted work another cycle of attempts. -/
def requeueWork (texts : WorkTexts) (inGroup : Prop) [Decidable inGroup] (now : Timestamp)
    (item : Uuid) (rows : List (WorkItem δ)) : Except DbError (List (WorkItem δ)) :=
  match rows.find? fun w ↦ inGroup ∧ w.id = item ∧ w.status = .failed ∧ 10 ≤ w.attemptCount with
  | none => .error (.raised ("retryable " ++ texts.name ++ " not found"))
  | some w => .ok (replaceRow WorkItem.id
      { w with attemptCount := 0, failureMessage := none, nextAttemptAt := now, status := .pending }
      rows)

/-- The item after its stale claim is taken back. -/
def WorkItem.releaseStale (texts : WorkTexts) (now : Timestamp) (w : WorkItem δ) : WorkItem δ :=
  { w with
    failureMessage :=
      if 10 ≤ w.attemptCount then some (w.finalNotice texts)
      else some (w.failureMessage.getD (texts.title ++ " worker claim expired"))
    nextAttemptAt := if w.attemptCount < 10 then now else w.nextAttemptAt
    status := .failed }

/-- Releases the claims of interrupted workers, and counts them. -/
def requeueStaleWork (texts : WorkTexts) (now : Timestamp) (rows : List (WorkItem δ)) :
    ℕ × List (WorkItem δ) :=
  (rows.countP fun w ↦ w.status.IsStale now,
    updateWhere (fun w ↦ w.status.IsStale now) (WorkItem.releaseStale texts now) rows)

/-! ## Recovery -/

/-- What an operator gives to finish exhausted work. -/
structure WorkEvidence where
  actor : Option Uuid
  groupId : Option Uuid
  providerObjectId : Option String
  recoveryReference : Option String
  recoveryNote : Option String
  deriving DecidableEq, Repr

/-- The operator finishes exhausted work; the same evidence may be given again. -/
def completeWorkRecovery (texts : WorkTexts) (inGroup mayWrite : Uuid → Prop)
    [DecidablePred inGroup] [DecidablePred mayWrite] (now : Timestamp) (item : Uuid)
    (evidence : WorkEvidence) (rows : List (WorkItem δ)) : Except DbError (List (WorkItem δ)) :=
  match evidence.actor, evidence.groupId with
  | none, _ => .error (.raised "actor user id is required")
  | some _, none => .error (.raised "group id is required")
  | some actor, some groupId => do
    require (nullIfBlank evidence.providerObjectId ≠ none) (.raised texts.providerIdIsRequired)
    require (nullIfBlank evidence.recoveryReference ≠ none)
      (.raised "recovery reference is required")
    require (nullIfBlank evidence.recoveryNote ≠ none) (.raised "recovery note is required")
    let providerObjectId := (nullIfBlank evidence.providerObjectId).getD ""
    let recovery : WorkRecovery := ⟨now, actor, (nullIfBlank evidence.recoveryNote).getD "",
      (nullIfBlank evidence.recoveryReference).getD ""⟩
    match rows.find? fun w ↦ w.id = item ∧ inGroup groupId with
    | none => .error (.raised ("recoverable " ++ texts.name ++ " not found"))
    | some w => do
      require (mayWrite actor) (.raised "events write access is required")
      match w.status with
      | .done _ known (some earlier) => do
        require (earlier.completedByUserId = actor ∧ known = providerObjectId
            ∧ earlier.note = recovery.note ∧ earlier.reference = recovery.reference)
          (.raised texts.differentEvidence)
        .ok rows
      | .failed => do
        require (10 ≤ w.attemptCount) (.raised ("recoverable " ++ texts.name ++ " not found"))
        .ok (replaceRow WorkItem.id
          { w with failureMessage := none, status := .done now providerObjectId (some recovery) }
          rows)
      | _ => .error (.raised ("recoverable " ++ texts.name ++ " not found"))

end Ocg
