import Ocg.History.BadgeJobs

/-!
# The failure budget of badge jobs

A claimed attempt on a badge award job ends in a committed batch, a recorded failure or a recovery
of its stale claim. The ends are kept beside the ledger, the latest first. The budget is the number
of failures since the last batch, and the column that stands for it is counted up by both kinds of
failure and cleared by an operator only. So the two agree in every history whose batches find the
column at zero.
-/

namespace Ocg

open Relational

/-! ## The log of attempts -/

/-- How one claimed attempt ended. -/
structure AttemptEnd where
  badgeAwardJobId : Uuid
  failed : Bool
  deriving DecidableEq, Repr

/-- The ledger with the ends of the attempts, the latest first. -/
structure AttemptLog where
  ledger : AwardLedger
  ends : List AttemptEnd
  deriving DecidableEq, Repr

/-- The rows that a recovery releases. -/
def BadgeDatabase.staleJobs (locked : Uuid → Bool) (processingTimeout : ℤ) (now : Timestamp)
    (db : BadgeDatabase) : List BadgeAwardJob :=
  ((db.jobs.filter fun baj ↦ baj.IsStale processingTimeout now
    ∧ locked baj.badgeAwardJobId = false).insertionSort BadgeAwardJob.claimedBefore).take 100

/-- The attempts that a committed operation ends. -/
def AwardOperation.ends (now : Timestamp) (db : BadgeDatabase) : AwardOperation → List AttemptEnd
  | .process _ job _ _ => [⟨job, false⟩]
  | .fail job _ _ _ => [⟨job, true⟩]
  | .recover locked processingTimeout _ =>
    (db.staleJobs locked processingTimeout now).map fun baj ↦ ⟨baj.badgeAwardJobId, true⟩
  | _ => []

/-- The failure limit that an operation is called with. -/
def AwardOperation.maxFailures : AwardOperation → Option ℤ
  | .fail _ _ _ maxFailures => some maxFailures
  | .recover _ _ maxFailures => some maxFailures
  | _ => none

def AwardOperation.log (rateLimit : ℕ) (now : Timestamp) (op : AwardOperation) (x : AttemptLog) :
    Except DbError AttemptLog := do
  let l ← op.run rateLimit now x.ledger
  .ok ⟨l, op.ends now x.ledger.db ++ x.ends⟩

/-- How the attempts on a job ended, the latest first. -/
def AttemptLog.endsOf (x : AttemptLog) (job : Uuid) : List Bool :=
  (x.ends.filter fun e ↦ e.badgeAwardJobId = job).map (·.failed)

/-- The last attempts on the job, so many of them, all failed. -/
def AttemptLog.LastFailed (x : AttemptLog) (job : Uuid) (n : ℕ) : Prop :=
  (x.endsOf job).take n = List.replicate n true

instance (x : AttemptLog) (job : Uuid) (n : ℕ) : Decidable (x.LastFailed job n) :=
  inferInstanceAs (Decidable (_ = _))

/-- The batch finds no failure counted against its job. -/
def AwardOperation.FindsNoFailure (db : BadgeDatabase) : AwardOperation → Prop
  | .process _ job claimId _ => ∀ baj ∈ db.claimedJob job claimId, baj.failureCount = 0
  | _ => True

instance (db : BadgeDatabase) (op : AwardOperation) : Decidable (op.FindsNoFailure db) := by
  unfold AwardOperation.FindsNoFailure
  split <;> infer_instance

/-- One step with the log, of operations that a condition admits. -/
inductive AttemptStep (rateLimit : ℕ) (admits : AwardOperation → BadgeDatabase → Prop) :
    Timestamp → AttemptLog → AttemptLog → Prop
  | operation {now : Timestamp} {x x' : AttemptLog} (op : AwardOperation)
    (hadmits : admits op x.ledger.db) (h : op.log rateLimit now x = .ok x') :
    AttemptStep rateLimit admits now x x'
  | other {now : Timestamp} {x : AttemptLog} {l : AwardLedger}
    (h : AwardStep rateLimit now x.ledger l)
    (hjobs : l.db.jobs.map BadgeAwardJob.unlinked = x.ledger.db.jobs.map BadgeAwardJob.unlinked) :
    AttemptStep rateLimit admits now x { x with ledger := l }

/-- The histories of the jobs with their logs. -/
def AttemptLog.Reached (rateLimit : ℕ) (admits : AwardOperation → BadgeDatabase → Prop)
    (now : Timestamp) (x : AttemptLog) : Prop :=
  Reachable (AttemptStep rateLimit admits) (fun _ _ ↦ True) (fun x ↦ x.ledger.Fresh ∧ x.ends = [])
    now x

/-! ## What an operation does to a row -/

variable {rateLimit : ℕ} {now : Timestamp} {l l' : AwardLedger} {db db' : BadgeDatabase}

/-- What a committed operation leaves of a job: a row without failures, a row that kept its count,
or the row of an attempt that failed. -/
def AwardOperation.Leaves (now : Timestamp) (db : BadgeDatabase) (op : AwardOperation)
    (row : BadgeAwardJob) : Prop :=
  (row.failureCount = 0 ∧ row.status ≠ .failed)
    ∨ ∃ baj ∈ db.jobs, baj.badgeAwardJobId = row.badgeAwardJobId
      ∧ ((row.failureCount = baj.failureCount ∧ (row.status = .failed → baj.status = .failed)
          ∧ ∀ e ∈ op.ends now db, e.badgeAwardJobId ≠ row.badgeAwardJobId)
        ∨ (row.failureCount = baj.failureCount + 1
          ∧ (∃ e ∈ op.ends now db, e.badgeAwardJobId = row.badgeAwardJobId)
          ∧ (∀ e ∈ op.ends now db, e.failed = true)
          ∧ (row.status = .failed → ∃ n ∈ op.maxFailures, n ≤ row.failureCount)))


section Rows

variable {op : AwardOperation} {baj new row : BadgeAwardJob}

theorem writeAwardJob_jobs (h : writeAwardJob new db = .ok db') :
    db'.jobs = replaceRow BadgeAwardJob.badgeAwardJobId new db.jobs := by
  simp only [writeAwardJob, bind_eq_ok, Except.ok.injEq] at h
  obtain ⟨-, -, rfl⟩ := h
  rfl

theorem AwardOperation.leaves_of_mem (hrow : row ∈ db.jobs)
    (hends : ∀ e ∈ op.ends now db, e.badgeAwardJobId ≠ row.badgeAwardJobId) :
    op.Leaves now db row :=
  .inr ⟨row, hrow, rfl, .inl ⟨rfl, id, hends⟩⟩

theorem AwardOperation.leaves_of_write
    (hends : ∀ e ∈ op.ends now db, e.badgeAwardJobId = new.badgeAwardJobId)
    (hnew : op.Leaves now db new)
    (hrow : row ∈ replaceRow BadgeAwardJob.badgeAwardJobId new db.jobs) :
    op.Leaves now db row := by
  obtain rfl | ⟨hrow, hne⟩ := mem_replaceRow hrow
  · exact hnew
  · exact leaves_of_mem hrow fun e he hid ↦ hne (hid ▸ hends e he)

theorem awardBadge_leaves {checks : AwardChecks} {request : AwardRequest} {counts : ℕ × ℕ}
    (h : awardBadge checks request now db = .ok (counts, db')) (hrow : row ∈ db'.jobs) :
    (AwardOperation.award checks request).Leaves now db row := by
  simp only [awardBadge, bind_eq_ok] at h
  obtain ⟨-, -, -, -, -, -, h⟩ := h
  split at h
  · obtain rfl := congrArg Prod.snd (Except.ok.inj h)
    exact AwardOperation.leaves_of_mem hrow (fun e he ↦ absurd he List.not_mem_nil)
  · simp only [bind_eq_ok, Except.ok.injEq, Prod.mk.injEq] at h
    obtain ⟨-, -, -, rfl⟩ := h
    obtain hrow | hrow := List.mem_append.1 hrow
    · exact AwardOperation.leaves_of_mem hrow (fun e he ↦ absurd he List.not_mem_nil)
    · rw [List.mem_singleton.1 hrow]
      exact .inl ⟨rfl, by simp [AwardRequest.job]⟩

theorem claimBadgeAwardJob_leaves {locked : Uuid → Bool} {claim : Option AwardClaim}
    (h : claimBadgeAwardJob locked now db = .ok (claim, db')) (hrow : row ∈ db'.jobs) :
    (AwardOperation.claim locked).Leaves now db row := by
  unfold claimBadgeAwardJob at h
  split at h
  · obtain rfl := congrArg Prod.snd (Except.ok.inj h)
    exact AwardOperation.leaves_of_mem hrow (fun e he ↦ absurd he List.not_mem_nil)
  · next baj hfind =>
    simp only [bind_eq_ok, Except.ok.injEq, Prod.mk.injEq] at h
    obtain ⟨t, hwrite, -, rfl⟩ := h
    rw [writeAwardJob_jobs hwrite] at hrow
    refine AwardOperation.leaves_of_write (fun e he ↦ absurd he List.not_mem_nil) ?_ hrow
    exact .inr ⟨baj, List.mem_of_mem_filter (firstBy_mem hfind), rfl,
      .inl ⟨rfl, by simp, fun e he ↦ absurd he List.not_mem_nil⟩⟩

theorem BadgeDatabase.mem_of_claimedJob {job claim : Uuid}
    (h : db.claimedJob job claim = some baj) : baj ∈ db.jobs ∧ baj.badgeAwardJobId = job := by
  have hselected := List.find?_some h
  simp only [decide_eq_true_eq] at hselected
  exact ⟨List.mem_of_find?_eq_some h, hselected.1⟩

theorem BadgeAwardJob.fail_leaves {error : String} {next : Timestamp} {n : ℤ}
    (hbaj : baj ∈ db.jobs) (hlimit : n ∈ op.maxFailures)
    (hend : ∃ e ∈ op.ends now db, e.badgeAwardJobId = baj.badgeAwardJobId)
    (hall : ∀ e ∈ op.ends now db, e.failed = true) :
    op.Leaves now db (baj.fail error (n ≤ baj.failureCount + 1) next now) := by
  refine .inr ⟨baj, hbaj, rfl, .inr ⟨rfl, hend, hall, fun hfailed ↦ ⟨n, hlimit, ?_⟩⟩⟩
  by_contra hfew
  have hfew' : ¬ n ≤ baj.failureCount + 1 := hfew
  simp [BadgeAwardJob.fail, hfew'] at hfailed

theorem recordBadgeAwardJobFailure_leaves {job claim : Uuid} {error : Option String}
    {maxFailures : ℤ} {terminal : Bool}
    (h : recordBadgeAwardJobFailure job claim error maxFailures now db = .ok (terminal, db'))
    (hrow : row ∈ db'.jobs) :
    (AwardOperation.fail job claim error maxFailures).Leaves now db row := by
  rw [recordBadgeAwardJobFailure, bind_eq_ok] at h
  obtain ⟨-, -, h⟩ := h
  split at h
  · simp at h
  · next baj hjob =>
    obtain ⟨hbaj, hid⟩ := BadgeDatabase.mem_of_claimedJob hjob
    simp only [bind_eq_ok, Except.ok.injEq, Prod.mk.injEq] at h
    obtain ⟨-, -, t, hwrite, -, rfl⟩ := h
    rw [writeAwardJob_jobs hwrite] at hrow
    refine AwardOperation.leaves_of_write ?_ ?_ hrow
    · intro e he
      rw [List.mem_singleton.1 he]
      exact hid.symm
    · refine BadgeAwardJob.fail_leaves hbaj (Option.mem_some_self _)
        ⟨_, List.mem_singleton_self _, hid.symm⟩ fun e he ↦ ?_
      rw [List.mem_singleton.1 he]

/-- **A recovery** fails each stale row once and leaves the others. -/
theorem recoverStaleBadgeAwardJobs_leaves {locked : Uuid → Bool} {processingTimeout maxFailures : ℤ}
    {n : ℕ}
    (h : recoverStaleBadgeAwardJobs locked processingTimeout maxFailures now db = .ok (n, db'))
    (hrow : row ∈ db'.jobs) :
    (AwardOperation.recover locked processingTimeout maxFailures).Leaves now db row := by
  set op := AwardOperation.recover locked processingTimeout maxFailures
  set stale := db.staleJobs locked processingTimeout now with hstale
  have hends : op.ends now db = stale.map fun baj ↦ ⟨baj.badgeAwardJobId, true⟩ := rfl
  have hall : ∀ e ∈ op.ends now db, e.failed = true := by
    intro e he
    rw [hends] at he
    obtain ⟨baj, -, rfl⟩ := List.mem_map.1 he
    rfl
  simp only [recoverStaleBadgeAwardJobs, bind_eq_ok, Except.ok.injEq, Prod.mk.injEq] at h
  obtain ⟨-, -, -, -, t, hloop, -, rfl⟩ := h
  -- a row of the loop is failed already, or is still the stored one
  have hrows := foldlM_prefix (P := fun done (u : BadgeDatabase) ↦ (∀ baj ∈ done, baj ∈ stale) →
      ∀ row ∈ u.jobs, op.Leaves now db row
        ∨ (row ∈ db.jobs ∧ ∀ baj ∈ done, baj.badgeAwardJobId ≠ row.badgeAwardJobId)) ?_ ?_ hloop
  · obtain hleaves | ⟨hrow, hne⟩ := hrows (fun baj hbaj ↦ hbaj) row hrow
    · exact hleaves
    · refine AwardOperation.leaves_of_mem hrow fun e he ↦ ?_
      rw [hends] at he
      obtain ⟨baj, hbaj, rfl⟩ := List.mem_map.1 he
      exact hne baj hbaj
  · intro done baj u u' ih hwrite hdone row hrow
    rw [writeAwardJob_jobs hwrite] at hrow
    have hbaj : baj ∈ stale := hdone baj (by simp)
    have hmem : baj ∈ db.jobs := List.mem_of_mem_filter
      ((List.perm_insertionSort _ _).mem_iff.1 (List.mem_of_mem_take (hstale ▸ hbaj)))
    obtain rfl | ⟨hrow, hne⟩ := mem_replaceRow hrow
    · exact .inl (BadgeAwardJob.fail_leaves hmem (Option.mem_some_self _)
        ⟨_, hends ▸ List.mem_map_of_mem hbaj, rfl⟩ hall)
    · refine (ih (fun b hb ↦ hdone b (List.mem_append_left _ hb)) row hrow).imp_right ?_
      rintro ⟨hrow, hdone_ne⟩
      refine ⟨hrow, fun b hb ↦ ?_⟩
      obtain hb | hb := List.mem_append.1 hb
      · exact hdone_ne b hb
      · rw [List.mem_singleton.1 hb]
        exact hne.symm
  · exact fun _ row hrow ↦ .inr ⟨hrow, fun b hb ↦ absurd hb List.not_mem_nil⟩

theorem requeueBadgeAwardJob_leaves {job : Uuid}
    (h : requeueBadgeAwardJob job now db = .ok db') (hrow : row ∈ db'.jobs) :
    (AwardOperation.requeue job).Leaves now db row := by
  unfold requeueBadgeAwardJob at h
  split at h
  · simp at h
  · rw [writeAwardJob_jobs h] at hrow
    exact AwardOperation.leaves_of_write (fun e he ↦ absurd he List.not_mem_nil)
      (.inl ⟨rfl, by simp⟩) hrow

theorem cleanupBadgeAwardJobs_leaves {locked : Uuid → Bool} {retention : ℤ} {n : ℕ}
    (h : cleanupBadgeAwardJobs locked retention now db = .ok (n, db')) (hrow : row ∈ db'.jobs) :
    (AwardOperation.cleanup locked retention).Leaves now db row := by
  simp only [cleanupBadgeAwardJobs, bind_eq_ok, Except.ok.injEq, Prod.mk.injEq] at h
  obtain ⟨-, -, -, rfl⟩ := h
  exact AwardOperation.leaves_of_mem (List.mem_of_mem_filter hrow)
    (fun e he ↦ absurd he List.not_mem_nil)

theorem awardRecipient_jobs {random : Uuid → ℕ × ℕ} {st st' : BatchState} {recipient : Option Uuid}
    (h : awardRecipient random now baj st recipient = .ok st') : st'.db.jobs = st.db.jobs :=
  ((awardRecipient_ran ⟨baj.badgeAwardJobId, 0, recipient⟩).of_eq_ok h).jobs

/-- **A committed batch** rewrites the claimed row, which keeps its failures and does not fail. -/
theorem processBadgeAwardJobBatch_jobs {random : Uuid → ℕ × ℕ} {job claim : Uuid}
    {batchSize limit : ℤ} {report : BatchReport}
    (h : processBadgeAwardJobBatch random now job claim batchSize limit db = .ok (report, db')) :
    ∃ baj new, db.claimedJob job claim = some baj ∧ new.badgeAwardJobId = job
      ∧ new.failureCount = baj.failureCount ∧ new.status ≠ .failed
      ∧ db'.jobs = replaceRow BadgeAwardJob.badgeAwardJobId new db.jobs := by
  simp only [processBadgeAwardJobBatch, bind_eq_ok] at h
  obtain ⟨-, -, -, -, h⟩ := h
  split at h
  · simp at h
  · next baj hjob =>
    obtain ⟨-, hid⟩ := BadgeDatabase.mem_of_claimedJob hjob
    refine ⟨baj, ?_⟩
    split at h
    · simp only [bind_eq_ok, Except.ok.injEq, Prod.mk.injEq] at h
      obtain ⟨t, hwrite, -, rfl⟩ := h
      refine ⟨_, hjob, ?_, ?_, ?_, writeAwardJob_jobs hwrite⟩
      · exact hid
      · rfl
      · simp
    · simp only [bind_eq_ok] at h
      obtain ⟨-, -, st, hloop, u, hflush, h⟩ := h
      have hst : st.db.jobs = db.jobs :=
        foldlM_invariant (P := fun st ↦ st.db.jobs = db.jobs)
          (fun _ _ _ _ ht hturn ↦ (awardRecipient_jobs hturn).trans ht) rfl hloop
      have hu : u.jobs = db.jobs := by
        rw [flushCursor_spec.of_eq_ok hflush]
        exact (st.db.withCursor_sameAwards st.cursor).jobs.trans hst
      rw [finishBatch_eq] at h
      simp only [bind_eq_ok, Except.ok.injEq, Prod.mk.injEq] at h
      obtain ⟨t, hwrite, -, rfl⟩ := h
      have hjobs := (writeAwardJob_jobs hwrite).trans
        (congrArg (replaceRow BadgeAwardJob.badgeAwardJobId _) hu)
      refine ⟨_, hjob, ?_, ?_, ?_, hjobs⟩
      · exact hid
      · rfl
      · rw [BadgeAwardJob.advance]
        split_ifs <;> simp

/-- **What an operation leaves of each row**, when a batch finds no failure. -/
theorem AwardOperation.run_leaves (hfinds : op.FindsNoFailure l.db)
    (h : op.run rateLimit now l = .ok l') (hrow : row ∈ l'.db.jobs) :
    op.Leaves now l.db row := by
  cases op with
  | award checks request =>
    simp only [AwardOperation.run, bind_eq_ok, Except.ok.injEq, Prod.exists] at h
    obtain ⟨accepted, skipped, t, ht, rfl⟩ := h
    exact awardBadge_leaves ht hrow
  | claim locked =>
    simp only [AwardOperation.run, bind_eq_ok, Except.ok.injEq, Prod.exists] at h
    obtain ⟨claim, t, ht, rfl⟩ := h
    exact claimBadgeAwardJob_leaves ht hrow
  | process random job claimId batchSize =>
    simp only [AwardOperation.run, bind_eq_ok, Except.ok.injEq, Prod.exists] at h
    obtain ⟨report, t, ht, rfl⟩ := h
    obtain ⟨baj, new, hjob, hid, hcount, hopen, hjobs⟩ := processBadgeAwardJobBatch_jobs ht
    have hrow' : row ∈ replaceRow BadgeAwardJob.badgeAwardJobId new l.db.jobs := hjobs ▸ hrow
    refine AwardOperation.leaves_of_write ?_ (.inl ⟨?_, hopen⟩) hrow'
    · intro e he
      rw [List.mem_singleton.1 he, hid]
    · rw [hcount, hfinds baj hjob]
  | fail job claimId error maxFailures =>
    simp only [AwardOperation.run, bind_eq_ok, Except.ok.injEq, Prod.exists] at h
    obtain ⟨terminal, t, ht, rfl⟩ := h
    exact recordBadgeAwardJobFailure_leaves ht hrow
  | recover locked processingTimeout maxFailures =>
    simp only [AwardOperation.run, bind_eq_ok, Except.ok.injEq, Prod.exists] at h
    obtain ⟨n, t, ht, rfl⟩ := h
    exact recoverStaleBadgeAwardJobs_leaves ht hrow
  | requeue job =>
    simp only [AwardOperation.run, bind_eq_ok, Except.ok.injEq] at h
    obtain ⟨t, ht, rfl⟩ := h
    exact requeueBadgeAwardJob_leaves ht hrow
  | cleanup locked retention =>
    simp only [AwardOperation.run, bind_eq_ok, Except.ok.injEq, Prod.exists] at h
    obtain ⟨n, t, ht, rfl⟩ := h
    exact cleanupBadgeAwardJobs_leaves ht hrow

end Rows

/-! ## The budget -/

variable {x x' : AttemptLog} {op : AwardOperation}

theorem AttemptLog.LastFailed.mono {job : Uuid} {m n : ℕ} (h : x.LastFailed job n) (hle : m ≤ n) :
    x.LastFailed job m := by
  have htake := congrArg (List.take m) h
  rw [List.take_take, List.take_replicate, min_eq_left hle] at htake
  exact htake

theorem AttemptLog.lastFailed_zero (x : AttemptLog) (job : Uuid) : x.LastFailed job 0 := rfl

theorem AttemptLog.endsOf_append (l : AwardLedger) (ends : List AttemptEnd) (job : Uuid) :
    AttemptLog.endsOf ⟨l, ends ++ x.ends⟩ job
      = (ends.filter fun e ↦ e.badgeAwardJobId = job).map (·.failed) ++ x.endsOf job := by
  rw [endsOf, endsOf, List.filter_append, List.map_append]

/-- One more failed attempt extends the row of failures. -/
theorem AttemptLog.LastFailed.cons {ends : List AttemptEnd} {job : Uuid} {n : ℕ}
    (h : x.LastFailed job n) (hend : ∃ e ∈ ends, e.badgeAwardJobId = job)
    (hall : ∀ e ∈ ends, e.failed = true) :
    AttemptLog.LastFailed ⟨l, ends ++ x.ends⟩ job (n + 1) := by
  obtain ⟨e, he, rfl⟩ := hend
  rw [LastFailed, endsOf_append]
  set new := (ends.filter fun e' ↦ e'.badgeAwardJobId = e.badgeAwardJobId).map (·.failed) with hnew
  have hreplicate : new = List.replicate new.length true := by
    rw [List.eq_replicate_iff]
    refine ⟨rfl, fun b hb ↦ ?_⟩
    obtain ⟨e', he', rfl⟩ := List.mem_map.1 hb
    exact hall e' (List.mem_of_mem_filter he')
  have hpos : 1 ≤ new.length := by
    rw [hnew, List.length_map]
    exact List.length_pos_of_mem (List.mem_filter.2 ⟨he, decide_eq_true rfl⟩)
  have hold : (x.endsOf e.badgeAwardJobId).take (n + 1 - new.length)
      = List.replicate (n + 1 - new.length) true := h.mono (by omega)
  rw [List.take_append, hold, hreplicate, List.take_replicate, List.length_replicate,
    List.replicate_append_replicate]
  congr 1
  omega

/-- No row counts more failures than its job had in a row. -/
def AttemptLog.Counted (x : AttemptLog) : Prop :=
  ∀ baj ∈ x.ledger.db.jobs, x.LastFailed baj.badgeAwardJobId baj.failureCount.toNat

theorem AwardOperation.log_eq_ok :
    op.log rateLimit now x = .ok x' ↔ ∃ l, op.run rateLimit now x.ledger = .ok l
      ∧ x' = ⟨l, op.ends now x.ledger.db ++ x.ends⟩ := by
  simp only [AwardOperation.log, bind_eq_ok, Except.ok.injEq, eq_comm (b := x')]

theorem AttemptLog.Counted.after_operation (hx : x.Counted)
    (hfinds : op.FindsNoFailure x.ledger.db) (h : op.log rateLimit now x = .ok x') :
    x'.Counted := by
  obtain ⟨l, hrun, rfl⟩ := AwardOperation.log_eq_ok.1 h
  intro row hrow
  obtain ⟨hzero, -⟩ | ⟨baj, hbaj, hid, ⟨hcount, -, hnone⟩ | ⟨hcount, hend, hall, -⟩⟩ :=
    AwardOperation.run_leaves hfinds hrun hrow
  · rw [hzero]
    exact AttemptLog.lastFailed_zero _ _
  · have hends : (op.ends now x.ledger.db).filter
        (fun e ↦ e.badgeAwardJobId = row.badgeAwardJobId) = [] :=
      List.filter_eq_nil_iff.2 fun e he ↦ by simpa using hnone e he
    rw [AttemptLog.LastFailed, AttemptLog.endsOf_append, hends, List.map_nil, List.nil_append,
      hcount, ← hid]
    exact hx baj hbaj
  · have hlast := (hx baj hbaj).cons (l := l) (hid ▸ hend) hall
    rw [← hid, hcount]
    exact hlast.mono (by omega)

theorem AttemptLog.Reached.counted
    (h : x.Reached rateLimit (fun op db ↦ op.FindsNoFailure db) now) : x.Counted := by
  refine Reachable.stable h ?_ ?_
  · rintro x ⟨⟨hjobs, -⟩, -⟩ baj hbaj
    rw [hjobs] at hbaj
    exact absurd hbaj List.not_mem_nil
  · rintro t x x' hx hstep
    cases hstep with
    | operation op hfinds hlog => exact hx.after_operation hfinds hlog
    | other hstep hjobs =>
      intro row hrow
      obtain ⟨baj, hbaj, hsame⟩ := List.mem_map.1 (hjobs ▸ List.mem_map_of_mem hrow)
      obtain ⟨hid, hcount⟩ : baj.badgeAwardJobId = row.badgeAwardJobId
          ∧ baj.failureCount = row.failureCount :=
        ⟨(BadgeAwardJob.mk.inj hsame).1, (BadgeAwardJob.mk.inj hsame).2.2.2.2.2.1⟩
      rw [← hid, ← hcount]
      exact hx baj hbaj

/-- **The failure budget counts consecutive failures**, in every history whose batches find no
failure counted: a job fails only after as many failed attempts in a row as the limit says, and a
batch leaves the full budget. -/
theorem badge_job_failure_budget
    (h : x.Reached rateLimit (fun op db ↦ op.FindsNoFailure db) now)
    (hfinds : op.FindsNoFailure x.ledger.db) {t : Timestamp}
    (hlog : op.log rateLimit t x = .ok x') :
    (∀ baj ∈ x'.ledger.db.jobs, baj.status = .failed →
        (∃ old ∈ x.ledger.db.jobs, old.badgeAwardJobId = baj.badgeAwardJobId
          ∧ old.status = .failed)
        ∨ ∃ n ∈ op.maxFailures, x'.LastFailed baj.badgeAwardJobId n.toNat)
      ∧ ∀ random job claim batchSize, op = .process random job claim batchSize →
        ∀ baj ∈ x'.ledger.db.jobs, baj.badgeAwardJobId = job → baj.failureCount = 0 := by
  have hcounted := h.counted.after_operation hfinds hlog
  obtain ⟨l, hrun, rfl⟩ := AwardOperation.log_eq_ok.1 hlog
  refine ⟨fun row hrow hfailed ↦ ?_, ?_⟩
  · obtain ⟨-, hopen⟩ | ⟨baj, hbaj, hid, ⟨-, hsame, -⟩ | ⟨-, -, -, hlimit⟩⟩ :=
      AwardOperation.run_leaves hfinds hrun hrow
    · exact absurd hfailed hopen
    · exact .inl ⟨baj, hbaj, hid, hsame hfailed⟩
    · obtain ⟨n, hn, hle⟩ := hlimit hfailed
      exact .inr ⟨n, hn, (hcounted row hrow).mono (Int.toNat_le_toNat hle)⟩
  · rintro random job claim batchSize rfl row hrow rfl
    obtain ⟨hzero, -⟩ | ⟨baj, hbaj, hid, ⟨-, -, hnone⟩ | ⟨-, -, hall, -⟩⟩ :=
      AwardOperation.run_leaves hfinds hrun hrow
    · exact hzero
    · exact absurd rfl (hnone _ (List.mem_singleton_self _))
    · exact absurd (hall _ (List.mem_singleton_self _)) (by simp)

/-! ### Sample histories -/

/-- The log of an operation that a condition admits. -/
def AwardOperation.logWhen (admits : AwardOperation → BadgeDatabase → Prop)
    [∀ op db, Decidable (admits op db)] (rateLimit : ℕ) (now : Timestamp) (op : AwardOperation)
    (x : AttemptLog) : Except DbError AttemptLog := do
  require (admits op x.ledger.db) (.raised "the operation is not admitted")
  op.log rateLimit now x

theorem exists_attemptLog_reached (admits : AwardOperation → BadgeDatabase → Prop)
    [∀ op db, Decidable (admits op db)] (rateLimit : ℕ)
    (script : List (Timestamp × AwardOperation)) (P : AttemptLog → Prop)
    (h : Replays (AwardOperation.logWhen admits rateLimit) script ⟨sampleLedger, []⟩ P) :
    ∃ x : AttemptLog, x.Reached rateLimit admits ((script.map Prod.fst).getLastD 0) ∧ P x := by
  obtain ⟨x, hscript, hP⟩ := exists_of_replays h
  refine ⟨x, reachable_of_replay (fun _ op _ _ hrun ↦ ?_)
    (.start ⟨⟨rfl, rfl, rfl, rfl, rfl⟩, rfl⟩) (List.pairwise_of_forall fun _ _ ↦ trivial) hscript,
    hP⟩
  simp only [AwardOperation.logWhen, bind_eq_ok, require_eq_ok] at hrun
  obtain ⟨-, hadmits, hlog⟩ := hrun
  exact .operation op hadmits hlog

/-- A request for two recipients. -/
def sampleAward : AwardOperation :=
  .award ⟨fun _ ↦ none, fun _ _ ↦ none⟩ ⟨1, "badge", 1, [some 1, some 2], none⟩

/-- A batch of one recipient, then two failures in a row. -/
theorem badge_job_failure_budget_sample :
    ∃ x x' : AttemptLog, x.Reached 500 (fun op db ↦ op.FindsNoFailure db) (hours 5)
      ∧ (AwardOperation.fail 10 15 none 2).log 500 (hours 6) x = .ok x'
      ∧ (∃ baj ∈ x'.ledger.db.jobs, baj.status = .failed) ∧ x'.LastFailed 10 2 := by
  obtain ⟨x, hx, hnext⟩ := exists_attemptLog_reached (fun op db ↦ op.FindsNoFailure db) 500
    [(0, sampleAward), (hours 1, .claim fun _ ↦ false),
      (hours 2, .process (fun _ ↦ (131071, 5)) 10 11 1), (hours 3, .claim fun _ ↦ false),
      (hours 4, .fail 10 14 none 2), (hours 5, .claim fun _ ↦ false)]
    (fun x ↦ Ensures ((AwardOperation.fail 10 15 none 2).log 500 (hours 6) x)
      (fun x' ↦ (∃ baj ∈ x'.ledger.db.jobs, baj.badgeAwardJobId = 10 ∧ baj.status = .failed)
        ∧ ∀ old ∈ x.ledger.db.jobs, old.status ≠ .failed) fun _ ↦ False) (by decide +kernel)
  obtain ⟨x', hlog, ⟨baj, hbaj, hid, hfailed⟩, hopen⟩ := hnext.exists_ok
  refine ⟨x, x', hx, hlog, ⟨baj, hbaj, hfailed⟩, ?_⟩
  obtain ⟨old, hold, -, hstatus⟩ | ⟨n, hn, hlast⟩ :=
    (badge_job_failure_budget hx (by trivial) hlog).1 baj hbaj hfailed
  · exact absurd hstatus (hopen old hold)
  · obtain rfl := Option.some.inj hn
    exact hid ▸ hlast

/-- A failure, a batch and one more failure end a job whose limit is two. -/
theorem not_badge_job_failure_budget :
    ∃ x x' : AttemptLog, x.Reached 500 (fun _ _ ↦ True) (hours 5)
      ∧ (AwardOperation.fail 10 15 none 2).log 500 (hours 6) x = .ok x'
      ∧ (∀ old ∈ x.ledger.db.jobs, old.status ≠ .failed)
      ∧ (∃ baj ∈ x'.ledger.db.jobs, baj.badgeAwardJobId = 10 ∧ baj.status = .failed)
      ∧ ¬ x'.LastFailed 10 2 := by
  obtain ⟨x, hx, hnext⟩ := exists_attemptLog_reached (fun _ _ ↦ True) 500
    [(0, sampleAward), (hours 1, .claim fun _ ↦ false), (hours 2, .fail 10 11 none 2),
      (hours 3, .claim fun _ ↦ false), (hours 4, .process (fun _ ↦ (131071, 5)) 10 12 1),
      (hours 5, .claim fun _ ↦ false)]
    (fun x ↦ Ensures ((AwardOperation.fail 10 15 none 2).log 500 (hours 6) x)
      (fun x' ↦ (∀ old ∈ x.ledger.db.jobs, old.status ≠ .failed)
        ∧ (∃ baj ∈ x'.ledger.db.jobs, baj.badgeAwardJobId = 10 ∧ baj.status = .failed)
        ∧ ¬ x'.LastFailed 10 2) fun _ ↦ False) (by decide +kernel)
  obtain ⟨x', hlog, hopen, hfailed, hlast⟩ := hnext.exists_ok
  exact ⟨x, x', hx, hlog, hopen, hfailed, hlast⟩

end Ocg
