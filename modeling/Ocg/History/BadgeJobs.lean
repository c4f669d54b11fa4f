import Mathlib.Tactic.Linarith
import Ocg.Badge.Jobs
import Ocg.History.Badges
import Ocg.Relational.RateLimit

/-!
# Badge job accounting

The progress of a job is an offset into the positions of its recipients. A batch advances it by the
positions it takes in order, in the transaction that awards or skips each of them, and no other
operation moves it. The rows as they were created and the turns of the recipient loops, in the order
of their commits, are kept beside the tables.

Badges are never deleted and keep the start time of their batch, so the tables hold every award that
the rate limit counts; a batch that starts early and commits late counts the awards of later starts.
-/

namespace Ocg

open Relational

/-! ## The ledger -/

/-- One turn of a recipient loop. -/
structure AwardTurn where
  badgeAwardJobId : Uuid
  position : ℤ
  awarded : Bool
  deriving DecidableEq, Repr

/-- The tables, the jobs as they were created, and the turns of the committed batches. -/
structure AwardLedger where
  db : BadgeDatabase
  created : List BadgeAwardJob
  turns : List AwardTurn
  deriving DecidableEq, Repr

/-- The turns of the recipient loop, each with whether it inserted a badge. -/
def awardTurns (random : Uuid → ℕ × ℕ) (now : Timestamp) (job : BadgeAwardJob) :
    List BadgeAwardJobRecipient → BatchState → List AwardTurn
  | [], _ => []
  | row :: rows, st =>
    match awardRecipient random now job st row.userId with
    | .error _ => []
    | .ok st' => ⟨job.badgeAwardJobId, row.position,
        decide (st.db.userBadges.length < st'.db.userBadges.length)⟩
        :: awardTurns random now job rows st'

/-- The turns of a batch that processed so many recipients. -/
def BadgeDatabase.batchTurns (random : Uuid → ℕ × ℕ) (now : Timestamp) (job claim : Uuid)
    (processed : ℤ) (db : BadgeDatabase) : List AwardTurn :=
  match db.claimedJob job claim with
  | none => []
  | some baj => awardTurns random now baj (batchRows baj processed db) ⟨db, none, 0, 0⟩

inductive AwardOperation
  | award (checks : AwardChecks) (request : AwardRequest)
  | claim (locked : Uuid → Bool)
  | process (random : Uuid → ℕ × ℕ) (job claim : Uuid) (batchSize : ℤ)
  | fail (job claim : Uuid) (error : Option String) (maxFailures : ℤ)
  | recover (locked : Uuid → Bool) (processingTimeout maxFailures : ℤ)
  | requeue (job : Uuid)
  | cleanup (locked : Uuid → Bool) (retention : ℤ)

/-- One transaction on the jobs. -/
def AwardOperation.run (rateLimit : ℕ) (now : Timestamp) (op : AwardOperation) (l : AwardLedger) :
    Except DbError AwardLedger :=
  match op with
  | .award checks request => do
    let (_, db) ← awardBadge checks request now l.db
    .ok { l with db := db, created := l.created ++ db.jobs.drop l.db.jobs.length }
  | .claim locked => do
    let (_, db) ← claimBadgeAwardJob locked now l.db
    .ok { l with db := db }
  | .process random job claimId batchSize => do
    let (report, db) ← processBadgeAwardJobBatch random now job claimId batchSize rateLimit l.db
    .ok { l with
      db := db
      turns := l.turns ++ l.db.batchTurns random now job claimId report.processedCount }
  | .fail job claimId error maxFailures => do
    let (_, db) ← recordBadgeAwardJobFailure job claimId error maxFailures now l.db
    .ok { l with db := db }
  | .recover locked processingTimeout maxFailures => do
    let (_, db) ← recoverStaleBadgeAwardJobs locked processingTimeout maxFailures now l.db
    .ok { l with db := db }
  | .requeue job => do
    let db ← requeueBadgeAwardJob job now l.db
    .ok { l with db := db }
  | .cleanup locked retention => do
    let (_, db) ← cleanupBadgeAwardJobs locked retention now l.db
    .ok { l with db := db }

/-- The job apart from its links, which go when the badge or the event is deleted. -/
def BadgeAwardJob.unlinked (baj : BadgeAwardJob) : BadgeAwardJob :=
  { baj with badgeId := none, eventId := none }

/-- One step of the system. What is not a transaction on the jobs (revocations, listing and order of
badges, badges, events and accounts that come and go) unlinks rows at most. -/
inductive AwardStep (rateLimit : ℕ) : Timestamp → AwardLedger → AwardLedger → Prop
  | operation {now : Timestamp} {l l' : AwardLedger} (op : AwardOperation)
    (h : op.run rateLimit now l = .ok l') : AwardStep rateLimit now l l'
  | other {now : Timestamp} {l : AwardLedger} {db : BadgeDatabase}
    (hjobs : db.jobs.map BadgeAwardJob.unlinked = l.db.jobs.map BadgeAwardJob.unlinked)
    (hrecipients : db.recipients.map (fun bajr ↦ (bajr.badgeAwardJobId, bajr.position))
      = l.db.recipients.map fun bajr ↦ (bajr.badgeAwardJobId, bajr.position))
    (hbadges : db.userBadges.map UserBadge.awardedAt = l.db.userBadges.map UserBadge.awardedAt)
    (hids : l.db.nextUuid ≤ db.nextUuid) : AwardStep rateLimit now l { l with db := db }

/-- Before the first award request. -/
def AwardLedger.Fresh (l : AwardLedger) : Prop :=
  l.db.jobs = [] ∧ l.db.recipients = [] ∧ l.db.userBadges = [] ∧ l.created = [] ∧ l.turns = []

/-- The states of the jobs, in any order of start times. -/
def AwardLedger.Reached (rateLimit : ℕ) (now : Timestamp) (l : AwardLedger) : Prop :=
  Reachable (AwardStep rateLimit) (fun _ _ ↦ True) AwardLedger.Fresh now l

/-- The turns on the recipients of a job. -/
def AwardLedger.turnsOf (l : AwardLedger) (job : Uuid) : List AwardTurn :=
  l.turns.filter fun turn ↦ turn.badgeAwardJobId = job

/-! ## The recipient loop -/

section Loop

variable {random : Uuid → ℕ × ℕ} {now : Timestamp} {groupId : Uuid} {job : BadgeAwardJob}
  {cursor : Option BadgeStatusList} {db : BadgeDatabase} {st : BatchState}

/-- What some turns of the loop do. -/
structure BatchState.Ran (now : Timestamp) (turns : List AwardTurn) (st st' : BatchState) :
    Prop where
  jobs : st'.db.jobs = st.db.jobs
  recipients : st'.db.recipients = st.db.recipients
  nextUuid : st.db.nextUuid ≤ st'.db.nextUuid
  userBadges : ∃ news : List UserBadge, st'.db.userBadges = st.db.userBadges ++ news
    ∧ (∀ ub ∈ news, ub.awardedAt = now) ∧ news.length = turns.countP (·.awarded)
  awarded : st'.awardedCount = st.awardedCount + turns.countP (·.awarded)
  skipped : st'.skippedCount = st.skippedCount + turns.countP (!·.awarded)

theorem awardRecipient_ran (row : BadgeAwardJobRecipient) :
    Ensures (awardRecipient random now job st row.userId)
      (fun st' ↦ st.Ran now [⟨job.badgeAwardJobId, row.position,
        decide (st.db.userBadges.length < st'.db.userBadges.length)⟩] st') DbError.SparesJobs := by
  rw [awardRecipient]
  by_cases hskip : st.db.SkipsRecipient job.badgeId row.userId
  · rw [if_pos hskip]
    exact ⟨rfl, rfl, le_rfl, ⟨[], by simp⟩, by simp, by simp⟩
  rw [if_neg hskip]
  refine (flushFilledList_spec.imp_error fun _ he ↦ he.1).bind ?_
  rintro ⟨cursor, db₁⟩ ⟨hresult, -⟩
  have hflushed : st.db.SameAwards db₁ := by
    rcases hresult with heq | heq <;> obtain ⟨rfl, rfl⟩ := Prod.mk.inj heq
    · exact .refl _
    · exact st.db.withCursor_sameAwards st.cursor
  refine (openStatusList_spec.imp_error fun _ he ↦ he.1).bind ?_
  rintro ⟨bsl, db₂⟩ ⟨hopened, -⟩
  refine ((insertUserBadge_spec _).imp_error fun _ he ↦ he.1).bind ?_
  rintro _ rfl
  have hbadges : db₂.userBadges = st.db.userBadges :=
    hopened.userBadges.trans hflushed.userBadges
  refine ⟨hopened.jobs.trans hflushed.jobs, hopened.recipients.trans hflushed.recipients, ?_, ?_,
    ?_, ?_⟩
  · exact (hflushed.nextUuid.trans hopened.nextUuid).trans (Nat.le_succ _)
  · exact ⟨[_], by rw [hbadges], by simp, by simp [hbadges]⟩
  · simp [hbadges]
  · simp [hbadges]

theorem BatchState.Ran.trans {turns turns' : List AwardTurn} {st' st'' : BatchState}
    (h : st.Ran now turns st') (h' : st'.Ran now turns' st'') :
    st.Ran now (turns ++ turns') st'' := by
  obtain ⟨news, hnews, hnow, hlength⟩ := h.userBadges
  obtain ⟨news', hnews', hnow', hlength'⟩ := h'.userBadges
  refine ⟨h'.jobs.trans h.jobs, h'.recipients.trans h.recipients, h.nextUuid.trans h'.nextUuid,
    ?_, ?_, ?_⟩
  · refine ⟨news ++ news', ?_, ?_, ?_⟩
    · rw [hnews', hnews, List.append_assoc]
    · intro ub hub
      rcases List.mem_append.1 hub with hub | hub
      · exact hnow ub hub
      · exact hnow' ub hub
    · rw [List.length_append, List.countP_append, hlength, hlength']
  · rw [h'.awarded, h.awarded, List.countP_append, Nat.cast_add, add_assoc]
  · rw [h'.skipped, h.skipped, List.countP_append, Nat.cast_add, add_assoc]

/-- **The recipient loop** takes its rows in order, one turn each. -/
theorem awardRecipients_ran (rows : List BadgeAwardJobRecipient) (st : BatchState) :
    Ensures ((rows.map (·.userId)).foldlM (awardRecipient random now job) st)
      (fun st' ↦ st.Ran now (awardTurns random now job rows st) st'
        ∧ (awardTurns random now job rows st).map (·.position) = rows.map (·.position)
        ∧ ∀ turn ∈ awardTurns random now job rows st,
          turn.badgeAwardJobId = job.badgeAwardJobId) DbError.SparesJobs := by
  induction rows generalizing st with
  | nil => exact ⟨⟨rfl, rfl, le_rfl, ⟨[], by simp [awardTurns]⟩, by simp [awardTurns],
      by simp [awardTurns]⟩, rfl, by simp [awardTurns]⟩
  | cons row rows ih =>
    have hturn : Ensures (awardRecipient random now job st row.userId) _ _ := awardRecipient_ran row
    rw [List.map_cons, List.foldlM_cons]
    cases hst : awardRecipient random now job st row.userId with
    | error e => exact hturn.of_eq_error hst
    | ok st' =>
      rw [ok_bind]
      refine (ih st').imp ?_
      rintro st'' ⟨hran, hpositions, hjob⟩
      simp only [awardTurns, hst]
      refine ⟨(hturn.of_eq_ok hst).trans hran, ?_, ?_⟩
      · rw [List.map_cons, List.map_cons, hpositions]
      · intro turn hmem
        rcases List.mem_cons.1 hmem with rfl | hmem
        · rfl
        · exact hjob turn hmem

end Loop

/-! ## Positions -/

/-- `n` consecutive positions from `k` on. -/
def positionsFrom (k n : ℕ) : List ℤ := (List.range' k n).map fun i : ℕ ↦ (i : ℤ)

theorem positionsFrom_append (k m n : ℕ) :
    positionsFrom k m ++ positionsFrom (k + m) n = positionsFrom k (m + n) := by
  rw [positionsFrom, positionsFrom, ← List.map_append, List.range'_append_1, positionsFrom]

theorem take_positionsFrom {k m n : ℕ} (h : m ≤ n) :
    (positionsFrom k n).take m = positionsFrom k m := by
  obtain ⟨d, rfl⟩ := Nat.exists_eq_add_of_le h
  rw [← positionsFrom_append, List.take_left']
  simp [positionsFrom]

theorem pairwise_positionsFrom (k n : ℕ) : (positionsFrom k n).Pairwise (· < ·) := by
  rw [positionsFrom, List.pairwise_map]
  exact (List.pairwise_lt_range' (s := k) (n := n)).imp fun h ↦ Int.ofNat_lt.2 h

theorem filter_positionsFrom {k n : ℕ} (h : k ≤ n) :
    (positionsFrom 0 n).filter (fun p ↦ decide ((k : ℤ) ≤ p)) = positionsFrom k (n - k) := by
  obtain ⟨d, rfl⟩ := Nat.exists_eq_add_of_le h
  rw [← positionsFrom_append, List.filter_append, List.filter_eq_nil_iff.2, List.filter_eq_self.2]
  · simp
  · intro p hp
    obtain ⟨i, hi, rfl⟩ := List.mem_map.1 hp
    have := (List.mem_range'_1.1 hi).1
    simpa using this
  · intro p hp
    obtain ⟨i, hi, rfl⟩ := List.mem_map.1 hp
    have := (List.mem_range'_1.1 hi).2
    simpa using this

/-- The positions of the recipients of a job. -/
def BadgeDatabase.positionsOf (db : BadgeDatabase) (job : Uuid) : List ℤ :=
  (db.recipients.filter fun bajr ↦ bajr.badgeAwardJobId = job).map (·.position)

/-- **A batch takes the next positions**, when the rows of the job hold each position once. -/
theorem batchRows_positions {job : BadgeAwardJob} {db : BadgeDatabase} {k m n : ℕ}
    (hrows : (db.positionsOf job.badgeAwardJobId).Perm (positionsFrom 0 n))
    (hoffset : job.nextRecipientOffset = k) (hle : k + m ≤ n) :
    (batchRows job m db).map (·.position) = positionsFrom k m := by
  set rows := db.recipients.filter fun bajr ↦ bajr.badgeAwardJobId = job.badgeAwardJobId
    ∧ job.nextRecipientOffset ≤ bajr.position with hrows_def
  set sorted := rows.insertionSort fun r r' ↦ r.position ≤ r'.position
  have hperm : (sorted.map (·.position)).Perm (positionsFrom k (n - k)) := by
    have hsorted : (sorted.map (·.position)).Perm (rows.map (·.position)) :=
      (List.perm_insertionSort _ rows).map _
    refine hsorted.trans ?_
    rw [← filter_positionsFrom (by omega)]
    refine (List.Perm.of_eq ?_).trans (hrows.filter _)
    rw [BadgeDatabase.positionsOf, List.filter_map, List.filter_filter, hrows_def]
    congr 1
    refine List.filter_congr fun row _ ↦ ?_
    simp [hoffset, Bool.and_comm]
  have hsorted : (sorted.map (·.position)).Pairwise (· ≤ ·) := by
    rw [List.pairwise_map]
    exact List.pairwise_insertionSort _ rows
  have heq : sorted.map (·.position) = positionsFrom k (n - k) :=
    hperm.eq_of_pairwise' hsorted ((pairwise_positionsFrom _ _).imp le_of_lt)
  rw [batchRows, List.map_take, Int.toNat_natCast, heq]
  exact take_positionsFrom (by omega)

/-! ## The invariant -/

/-- How a job agrees with its created row, the turns on its recipients and the recipients left. -/
structure BadgeAwardJob.Accounted (l : AwardLedger) (baj c : BadgeAwardJob) : Prop where
  id : c.badgeAwardJobId = baj.badgeAwardJobId
  acceptedCount : baj.acceptedCount = c.acceptedCount
  recipientCount : baj.recipientCount = baj.acceptedCount + c.skippedCount
  skippedAtCreation : 0 ≤ c.skippedCount
  positions : (l.turnsOf baj.badgeAwardJobId).map (·.position)
    = positionsFrom 0 baj.nextRecipientOffset.toNat
  awardedCount : baj.awardedCount = (l.turnsOf baj.badgeAwardJobId).countP (·.awarded)
  skippedCount : baj.skippedCount
    = c.skippedCount + (l.turnsOf baj.badgeAwardJobId).countP (!·.awarded)
  finished : baj.status = .completed ↔ baj.nextRecipientOffset = baj.acceptedCount
  valid : baj.Valid
  remaining : baj.status ≠ .completed →
    (l.db.positionsOf baj.badgeAwardJobId).Perm (positionsFrom 0 baj.acceptedCount.toNat)

structure AwardLedger.Accounted (rateLimit : ℕ) (l : AwardLedger) : Prop where
  keys : (l.db.jobs.map BadgeAwardJob.badgeAwardJobId).Nodup
  createdKeys : (l.created.map BadgeAwardJob.badgeAwardJobId).Nodup
  fresh : ∀ baj ∈ l.db.jobs, baj.badgeAwardJobId < l.db.nextUuid
  createdFresh : ∀ c ∈ l.created, c.badgeAwardJobId < l.db.nextUuid
  turnsFresh : ∀ turn ∈ l.turns, turn.badgeAwardJobId < l.db.nextUuid
  recipientsFresh : ∀ bajr ∈ l.db.recipients, bajr.badgeAwardJobId < l.db.nextUuid
  jobs : ∀ baj ∈ l.db.jobs, ∃ c ∈ l.created, baj.Accounted l c
  limited : Limited rateLimit (minutes 1) (l.db.userBadges.map UserBadge.awardedAt)

theorem AwardLedger.Fresh.accounted {rateLimit : ℕ} {l : AwardLedger} (h : l.Fresh) :
    l.Accounted rateLimit := by
  obtain ⟨hjobs, hrecipients, hbadges, hcreated, hturns⟩ := h
  refine ⟨?_, ?_, ?_, ?_, ?_, ?_, ?_, ?_⟩
  rotate_right
  · rw [hbadges]
    exact .nil
  all_goals simp [hjobs, hrecipients, hcreated, hturns]

/-- The columns that only a batch moves. -/
def BadgeAwardJob.progress (baj : BadgeAwardJob) : Uuid × ℤ × ℤ × ℤ × ℤ × ℤ :=
  (baj.badgeAwardJobId, baj.acceptedCount, baj.recipientCount, baj.nextRecipientOffset,
    baj.awardedCount, baj.skippedCount)

section Jobs

variable {l l' : AwardLedger} {c baj new : BadgeAwardJob}

theorem BadgeAwardJob.Accounted.total (h : baj.Accounted l c) :
    baj.awardedCount + baj.skippedCount = c.skippedCount + baj.nextRecipientOffset := by
  -- every turn of a job that has been taken was awarded or skipped
  have hlength := congrArg List.length h.positions
  have hflip : (fun turn : AwardTurn ↦ decide ¬ turn.awarded = true)
      = fun turn ↦ !turn.awarded := by
    funext turn
    simp
  rw [List.length_map, positionsFrom, List.length_map, List.length_range',
    List.length_eq_countP_add_countP (·.awarded), hflip] at hlength
  have hnonneg : 0 ≤ baj.nextRecipientOffset := h.valid.1.2.2.2.1
  rw [h.awardedCount, h.skippedCount]
  omega

theorem BadgeAwardJob.Accounted.congr (h : baj.Accounted l c)
    (hprogress : new.progress = baj.progress)
    (hstatus : new.status = .completed ↔ baj.status = .completed) (hvalid : new.Valid)
    (hturns : l'.turnsOf baj.badgeAwardJobId = l.turnsOf baj.badgeAwardJobId)
    (hpositions : l'.db.positionsOf baj.badgeAwardJobId = l.db.positionsOf baj.badgeAwardJobId) :
    new.Accounted l' c := by
  simp only [progress, Prod.mk.injEq] at hprogress
  obtain ⟨hid, haccepted, hrecipients, hoffset, hawarded, hskipped⟩ := hprogress
  refine ⟨?_, ?_, ?_, h.skippedAtCreation, ?_, ?_, ?_, ?_, hvalid, ?_⟩
  · rw [hid, h.id]
  · rw [haccepted, h.acceptedCount]
  · rw [hrecipients, haccepted, h.recipientCount]
  · rw [hid, hturns, hoffset, h.positions]
  · rw [hid, hturns, hawarded, h.awardedCount]
  · rw [hid, hturns, hskipped, h.skippedCount]
  · rw [hstatus, hoffset, haccepted, h.finished]
  · rw [hid, haccepted, hpositions, Ne, hstatus]
    exact h.remaining

theorem BadgeAwardJob.Valid.of_progress (h : baj.Valid) (hprogress : new.progress = baj.progress)
    (hfailures : 0 ≤ new.failureCount) (hopen : new.status ≠ .completed)
    (hclaim : new.status = .processing ↔ new.claimId ≠ none ∧ new.claimedAt ≠ none)
    (hclaimed : new.claimId = none ↔ new.claimedAt = none)
    (hterminal : new.status = .failed ↔ new.completedAt ≠ none) : new.Valid := by
  simp only [progress, Prod.mk.injEq] at hprogress
  obtain ⟨-, haccepted, hrecipients, hoffset, hawarded, hskipped⟩ := hprogress
  obtain ⟨⟨h₁, h₂, -, h₄, h₅, h₆⟩, -, -, h₇, h₈, h₉, -, -⟩ := h
  refine ⟨⟨haccepted ▸ h₁, hawarded ▸ h₂, hfailures, hoffset ▸ h₄, hrecipients ▸ h₅,
    hskipped ▸ h₆⟩, hclaim, hclaimed, ?_, ?_, ?_, fun hdone ↦ absurd hdone hopen, ?_⟩
  · rwa [hrecipients, haccepted, hskipped]
  · rwa [hrecipients, hawarded, hskipped]
  · rwa [hoffset, haccepted]
  · rw [← hterminal]
    simp [hopen]

end Jobs

/-! ## Each operation -/

section Operations

variable {rateLimit : ℕ} {now : Timestamp} {l l' : AwardLedger} {db' : BadgeDatabase}

theorem AwardLedger.Accounted.after_write (h : l.Accounted rateLimit) {baj new : BadgeAwardJob}
    (hvalid : new.Valid) (hbaj : baj ∈ l.db.jobs) (hprogress : new.progress = baj.progress)
    (hstatus : new.status = .completed ↔ baj.status = .completed) {next : Uuid}
    (hnext : l.db.nextUuid ≤ next) :
    AwardLedger.Accounted rateLimit
      { l with db := { l.db with
        jobs := replaceRow BadgeAwardJob.badgeAwardJobId new l.db.jobs
        nextUuid := next } } := by
  have hid : new.badgeAwardJobId = baj.badgeAwardJobId := congrArg Prod.fst hprogress
  refine ⟨?_, h.createdKeys, ?_, fun c hc ↦ (h.createdFresh c hc).trans_le hnext,
    fun t ht ↦ (h.turnsFresh t ht).trans_le hnext,
    fun r hr ↦ (h.recipientsFresh r hr).trans_le hnext, ?_, h.limited⟩
  · rw [map_key_replaceRow]
    exact h.keys
  · intro r hr
    rcases mem_replaceRow hr with rfl | ⟨hr, -⟩
    · rw [hid]
      exact (h.fresh baj hbaj).trans_le hnext
    · exact (h.fresh r hr).trans_le hnext
  · intro r hr
    rcases mem_replaceRow hr with rfl | ⟨hr, -⟩
    · obtain ⟨c, hc, haccounted⟩ := h.jobs baj hbaj
      exact ⟨c, hc, haccounted.congr hprogress hstatus hvalid rfl rfl⟩
    · obtain ⟨c, hc, haccounted⟩ := h.jobs r hr
      exact ⟨c, hc, haccounted.congr rfl Iff.rfl haccounted.valid rfl rfl⟩

theorem AwardLedger.Accounted.claimedJob (h : l.Accounted rateLimit) {job claim : Uuid}
    {baj : BadgeAwardJob} (hjob : l.db.claimedJob job claim = some baj) :
    baj ∈ l.db.jobs ∧ baj.badgeAwardJobId = job ∧ baj.status = .processing ∧ baj.Valid := by
  have hmem := List.mem_of_find?_eq_some hjob
  have hsome := List.find?_some hjob
  simp only [decide_eq_true_eq] at hsome
  obtain ⟨c, -, haccounted⟩ := h.jobs baj hmem
  exact ⟨hmem, hsome.1, hsome.2.2, haccounted.valid⟩

theorem AwardLedger.Accounted.after_claim (h : l.Accounted rateLimit) (locked : Uuid → Bool) :
    Ensures (claimBadgeAwardJob locked now l.db)
      (fun result ↦ AwardLedger.Accounted rateLimit { l with db := result.2 })
      DbError.SparesJobs := by
  rw [claimBadgeAwardJob]
  split
  · exact h
  · next baj hfirst =>
    obtain ⟨hmem, hselected⟩ := List.mem_filter.1 (firstBy_mem hfirst)
    have hpending : baj.status = .pending := (of_decide_eq_true hselected).1
    obtain ⟨c, -, haccounted⟩ := h.jobs baj hmem
    have hvalid := haccounted.valid
    have hterminal := hvalid.2.2.2.2.2.2.2
    have hnew : BadgeAwardJob.Valid { baj with
        claimId := some l.db.nextUuid
        claimedAt := some now
        status := .processing } := by
      refine hvalid.of_progress rfl hvalid.1.2.2.1 (by simp) (by simp) (by simp) ?_
      simpa [hpending] using hterminal
    rw [writeAwardJob, require_of hnew]
    exact h.after_write hnew hmem rfl (by simp [hpending]) (Nat.le_succ _)

theorem BadgeAwardJob.Valid.fail {baj : BadgeAwardJob} (h : baj.Valid) (error : String)
    (terminal : Bool) (next now : Timestamp) : (baj.fail error terminal next now).Valid := by
  have hfailures : 0 ≤ baj.failureCount + 1 := by linarith [h.1.2.2.1]
  cases terminal
  · exact h.of_progress rfl hfailures (by simp [BadgeAwardJob.fail]) (by simp [BadgeAwardJob.fail])
      (by simp [BadgeAwardJob.fail]) (by simp [BadgeAwardJob.fail])
  · exact h.of_progress rfl hfailures (by simp [BadgeAwardJob.fail]) (by simp [BadgeAwardJob.fail])
      (by simp [BadgeAwardJob.fail]) (by simp [BadgeAwardJob.fail])

theorem AwardLedger.Accounted.after_failure (h : l.Accounted rateLimit) {baj : BadgeAwardJob}
    (hmem : baj ∈ l.db.jobs) (hstatus : baj.status ≠ .completed) (error : String)
    (terminal : Bool) (next : Timestamp) :
    Ensures (writeAwardJob (baj.fail error terminal next now) l.db)
      (fun db ↦ AwardLedger.Accounted rateLimit { l with db := db }) DbError.SparesJobs := by
  obtain ⟨c, -, haccounted⟩ := h.jobs baj hmem
  have hnew := haccounted.valid.fail error terminal next now
  rw [writeAwardJob, require_of hnew]
  refine h.after_write hnew hmem rfl ?_ le_rfl
  cases terminal <;> simp [BadgeAwardJob.fail, hstatus]

theorem AwardLedger.Accounted.after_fail (h : l.Accounted rateLimit) (job claim : Uuid)
    (error : Option String) (maxFailures : ℤ) :
    Ensures (recordBadgeAwardJobFailure job claim error maxFailures now l.db)
      (fun result ↦ AwardLedger.Accounted rateLimit { l with db := result.2 })
      DbError.SparesJobs := by
  rw [recordBadgeAwardJobFailure]
  refine (ensures_require fun _ ↦ sparesJobs_raised _).bind fun _ _ ↦ ?_
  cases hjob : l.db.claimedJob job claim with
  | none => exact sparesJobs_raised _
  | some baj =>
    obtain ⟨hmem, -, hprocessing, -⟩ := h.claimedJob hjob
    refine (ensures_require fun _ ↦ sparesJobs_raised _).bind fun _ _ ↦ ?_
    refine (h.after_failure hmem (by simp [hprocessing]) _ _ _).bind fun db hdb ↦ ?_
    exact hdb

theorem AwardLedger.Accounted.after_requeue (h : l.Accounted rateLimit) (job : Uuid) :
    Ensures (requeueBadgeAwardJob job now l.db)
      (fun db ↦ AwardLedger.Accounted rateLimit { l with db := db }) DbError.SparesJobs := by
  rw [requeueBadgeAwardJob]
  split
  · exact sparesJobs_raised _
  · next baj hfind =>
    have hmem := List.mem_of_find?_eq_some hfind
    have hsome := List.find?_some hfind
    simp only [decide_eq_true_eq] at hsome
    have hfailed : baj.status = .failed := hsome.2
    obtain ⟨c, -, haccounted⟩ := h.jobs baj hmem
    have hvalid := haccounted.valid
    have hclaim := hvalid.2.1
    have hclaimed := hvalid.2.2.1
    have hnew : BadgeAwardJob.Valid { baj with
        completedAt := none
        error := none
        failureCount := 0
        nextAttemptAt := now
        status := .pending } := by
      refine hvalid.of_progress rfl le_rfl (by simp) ?_ hclaimed (by simp)
      simpa [hfailed] using hclaim
    rw [writeAwardJob, require_of hnew]
    exact h.after_write hnew hmem rfl (by simp [hfailed]) le_rfl

/-- The stale rows are released one by one; meanwhile each keeps the progress it was selected
with. -/
theorem AwardLedger.Accounted.after_recover (h : l.Accounted rateLimit) (locked : Uuid → Bool)
    (processingTimeout maxFailures : ℤ) :
    Ensures (recoverStaleBadgeAwardJobs locked processingTimeout maxFailures now l.db)
      (fun result ↦ AwardLedger.Accounted rateLimit { l with db := result.2 })
      DbError.SparesJobs := by
  rw [recoverStaleBadgeAwardJobs]
  refine (ensures_require fun _ ↦ sparesJobs_raised _).bind fun _ _ ↦ ?_
  refine (ensures_require fun _ ↦ sparesJobs_raised _).bind fun _ _ ↦ ?_
  set stale := ((l.db.jobs.filter fun baj ↦ baj.IsStale processingTimeout now
    ∧ locked baj.badgeAwardJobId = false).insertionSort BadgeAwardJob.claimedBefore).take 100
  have hstale : ∀ baj ∈ stale, baj ∈ l.db.jobs ∧ baj.status = .processing := by
    intro baj hbaj
    have hsorted := (List.perm_insertionSort _ _).mem_iff.1 (List.mem_of_mem_take hbaj)
    obtain ⟨hmem, hselected⟩ := List.mem_filter.1 hsorted
    exact ⟨hmem, (of_decide_eq_true hselected).1.1⟩
  refine (ensures_foldlM (P := fun db : BadgeDatabase ↦
    AwardLedger.Accounted rateLimit { l with db := db } ∧ ∀ baj ∈ stale, ∃ row ∈ db.jobs,
      row.progress = baj.progress ∧ row.status ≠ .completed) ?_ ⟨h, ?_⟩).bind fun db hdb ↦ hdb.1
  · rintro db baj hbaj ⟨haccounted, hrows⟩
    obtain ⟨hmem, hprocessing⟩ := hstale baj hbaj
    obtain ⟨c, -, hbaj_accounted⟩ := h.jobs baj hmem
    set new := baj.fail "badge award worker claim expired"
      (maxFailures ≤ baj.failureCount + 1) now now
    have hnew : new.Valid := hbaj_accounted.valid.fail _ _ _ _
    have hopen : new.status ≠ .completed := by
      by_cases hterminal : maxFailures ≤ baj.failureCount + 1 <;>
        simp [new, BadgeAwardJob.fail, hterminal]
    obtain ⟨row, hrow, hprogress, hrow_open⟩ := hrows baj hbaj
    rw [writeAwardJob, require_of hnew]
    refine ⟨haccounted.after_write hnew hrow hprogress.symm (by simp [hopen, hrow_open]) le_rfl, ?_⟩
    intro baj' hbaj'
    obtain ⟨row', hrow', hprogress', hrow'_open⟩ := hrows baj' hbaj'
    by_cases hsame : row'.badgeAwardJobId = new.badgeAwardJobId
    · have hid : row.badgeAwardJobId = new.badgeAwardJobId := congrArg Prod.fst hprogress
      obtain rfl := eq_of_key_eq haccounted.keys hrow' hrow (hsame.trans hid.symm)
      exact ⟨new, new_mem_replaceRow hrow hid, hprogress.symm.trans hprogress', hopen⟩
    · exact ⟨row', mem_replaceRow_of_ne hrow' hsame, hprogress', hrow'_open⟩
  · intro baj hbaj
    obtain ⟨hmem, hprocessing⟩ := hstale baj hbaj
    exact ⟨baj, hmem, rfl, by simp [hprocessing]⟩

theorem AwardLedger.Accounted.after_cleanup (h : l.Accounted rateLimit) (locked : Uuid → Bool)
    (retention : ℤ) :
    Ensures (cleanupBadgeAwardJobs locked retention now l.db)
      (fun result ↦ AwardLedger.Accounted rateLimit { l with db := result.2 })
      DbError.SparesJobs := by
  -- the recipients of a deleted job go, and nobody else's
  rw [cleanupBadgeAwardJobs]
  refine (ensures_require fun _ ↦ sparesJobs_raised _).bind fun _ _ ↦ ?_
  set expired := (((l.db.jobs.filter fun baj ↦ baj.IsExpired retention now
    ∧ locked baj.badgeAwardJobId = false).insertionSort BadgeAwardJob.completedBefore).take
      100).map (·.badgeAwardJobId)
  refine ⟨nodup_keys_filter h.keys _, h.createdKeys, ?_, h.createdFresh, h.turnsFresh, ?_, ?_,
    h.limited⟩
  · exact fun baj hbaj ↦ h.fresh baj (List.mem_of_mem_filter hbaj)
  · exact fun bajr hbajr ↦ h.recipientsFresh bajr (List.mem_of_mem_filter hbajr)
  · intro baj hbaj
    obtain ⟨hbaj, hkept⟩ := List.mem_filter.1 hbaj
    obtain ⟨c, hc, haccounted⟩ := h.jobs baj hbaj
    refine ⟨c, hc, haccounted.congr rfl Iff.rfl haccounted.valid rfl ?_⟩
    rw [BadgeDatabase.positionsOf, BadgeDatabase.positionsOf, List.filter_filter]
    congr 1
    refine List.filter_congr fun bajr _ ↦ ?_
    by_cases hjob : bajr.badgeAwardJobId = baj.badgeAwardJobId
    · simpa [hjob] using hkept
    · simp [hjob]

theorem positionsOf_recipientRows (job : Uuid) (accepted : List Uuid) :
    ((recipientRows job accepted).filter fun bajr ↦ bajr.badgeAwardJobId = job).map (·.position)
      = positionsFrom 0 accepted.length := by
  have hall : (recipientRows job accepted).filter (fun bajr ↦ bajr.badgeAwardJobId = job)
      = recipientRows job accepted := by
    refine List.filter_eq_self.2 fun bajr hbajr ↦ ?_
    obtain ⟨recipient, -, rfl⟩ := List.mem_map.1 hbajr
    simp
  rw [hall, recipientRows, List.map_map, positionsFrom, ← List.zipIdx_map_snd 0 accepted,
    List.map_map]
  rfl

theorem AwardRequest.job_valid (request : AwardRequest) {id : Uuid}
    {recipients accepted : List Uuid} (hpos : 0 < accepted.length)
    (hle : accepted.length ≤ recipients.length) :
    (request.job id recipients accepted now).Valid := by
  refine ⟨⟨?_, ?_, ?_, ?_, ?_, ?_⟩, ?_, ?_, ?_, ?_, ?_, ?_, ?_⟩ <;>
    simp [AwardRequest.job] <;> omega

theorem AwardLedger.Accounted.accounted_job (h : l.Accounted rateLimit) (request : AwardRequest)
    {recipients accepted : List Uuid} (hpos : 0 < accepted.length)
    (hle : accepted.length ≤ recipients.length) (hturns : l'.turns = l.turns)
    (hrecipients : l'.db.recipients
      = l.db.recipients ++ recipientRows l.db.nextUuid accepted) :
    (request.job l.db.nextUuid recipients accepted now).Accounted l'
      (request.job l.db.nextUuid recipients accepted now) := by
  set new := request.job l.db.nextUuid recipients accepted now with hnew
  -- the identifier is new, so no turn and no earlier recipient names it
  have hnone : l'.turnsOf l.db.nextUuid = [] := by
    rw [AwardLedger.turnsOf, hturns]
    refine List.filter_eq_nil_iff.2 fun turn hturn ↦ ?_
    simpa using (h.turnsFresh turn hturn).ne
  have hearlier : l.db.recipients.filter (fun bajr ↦ bajr.badgeAwardJobId = l.db.nextUuid)
      = [] := by
    refine List.filter_eq_nil_iff.2 fun bajr hbajr ↦ ?_
    simpa using (h.recipientsFresh bajr hbajr).ne
  refine ⟨rfl, rfl, ?_, ?_, ?_, ?_, ?_, ?_, request.job_valid hpos hle, fun _ ↦ ?_⟩
  · simp [new, AwardRequest.job]
  · simp [new, AwardRequest.job]
    omega
  · change (l'.turnsOf l.db.nextUuid).map _ = _
    rw [hnone]
    rfl
  · change _ = ((l'.turnsOf l.db.nextUuid).countP _ : ℤ)
    rw [hnone]
    rfl
  · change _ = _ + ((l'.turnsOf l.db.nextUuid).countP _ : ℤ)
    rw [hnone]
    simp
  · simp only [new, AwardRequest.job]
    constructor
    · intro hcompleted
      simp at hcompleted
    · intro hzero
      omega
  · refine List.Perm.of_eq ?_
    change (l'.db.recipients.filter fun bajr ↦ bajr.badgeAwardJobId = l.db.nextUuid).map
      (·.position) = _
    rw [hrecipients, List.filter_append, hearlier, List.nil_append, positionsOf_recipientRows]
    rfl

theorem AwardLedger.Accounted.accounted_of_mem (h : l.Accounted rateLimit) {baj c : BadgeAwardJob}
    {accepted : List Uuid} (hbaj : baj ∈ l.db.jobs) (haccounted : baj.Accounted l c)
    (hturns : l'.turns = l.turns)
    (hrecipients : l'.db.recipients
      = l.db.recipients ++ recipientRows l.db.nextUuid accepted) : baj.Accounted l' c := by
  refine haccounted.congr rfl Iff.rfl haccounted.valid ?_ ?_
  · rw [AwardLedger.turnsOf, AwardLedger.turnsOf, hturns]
  · -- the new rows are those of another job
    have hother : (recipientRows l.db.nextUuid accepted).filter
        (fun bajr ↦ bajr.badgeAwardJobId = baj.badgeAwardJobId) = [] := by
      refine List.filter_eq_nil_iff.2 fun bajr hbajr ↦ ?_
      obtain ⟨recipient, -, rfl⟩ := List.mem_map.1 hbajr
      simpa using (h.fresh baj hbaj).ne'
    rw [BadgeDatabase.positionsOf, hrecipients, List.filter_append, hother, List.append_nil]
    rfl

theorem AwardLedger.Accounted.after_award (h : l.Accounted rateLimit) (checks : AwardChecks)
    (request : AwardRequest) :
    Ensures (awardBadge checks request now l.db)
      (fun result ↦ AwardLedger.Accounted rateLimit
        { l with
          db := result.2
          created := l.created ++ result.2.jobs.drop l.db.jobs.length }) DbError.SparesJobs := by
  -- a new job has all its positions before it
  rw [awardBadge]
  refine (ensures_require fun _ ↦ sparesJobs_raised _).bind fun _ _ ↦ ?_
  refine (ensures_require fun _ ↦ sparesJobs_raised _).bind fun _ _ ↦ ?_
  refine (ensures_require fun _ ↦ sparesJobs_raised _).bind fun _ _ ↦ ?_
  set recipients := distinctInOrder (request.userIds.filterMap id)
  set accepted := recipients.filter fun user ↦ ¬ l.db.Owns request.badgeId user
  by_cases hempty : accepted = []
  · rw [if_pos hempty]
    change AwardLedger.Accounted rateLimit
      { l with created := l.created ++ l.db.jobs.drop l.db.jobs.length }
    rw [List.drop_length, List.append_nil]
    exact h
  rw [if_neg hempty]
  have hpos : 0 < accepted.length := List.length_pos_iff.2 hempty
  have hle : accepted.length ≤ recipients.length := List.length_filter_le _ _
  set new := request.job l.db.nextUuid recipients accepted now
  have hnew : new.Valid := request.job_valid hpos hle
  simp only [require_of hnew]
  have hcreated : (l.db.jobs ++ [new]).drop l.db.jobs.length = [new] := List.drop_left
  change AwardLedger.Accounted rateLimit
    { l with
      db := { l.db with
        jobs := l.db.jobs ++ [new]
        recipients := l.db.recipients ++ recipientRows l.db.nextUuid accepted
        nextUuid := l.db.nextUuid + 1 }
      created := l.created ++ (l.db.jobs ++ [new]).drop l.db.jobs.length }
  rw [hcreated]
  have hsucc := Nat.lt_succ_self l.db.nextUuid
  refine ⟨?_, ?_, ?_, ?_, fun t ht ↦ (h.turnsFresh t ht).trans hsucc, ?_, ?_, h.limited⟩
  · exact nodup_keys_append h.keys fun baj hbaj ↦ (h.fresh baj hbaj).ne
  · exact nodup_keys_append h.createdKeys fun c hc ↦ (h.createdFresh c hc).ne
  · intro baj hbaj
    rcases List.mem_append.1 hbaj with hbaj | hbaj
    · exact (h.fresh baj hbaj).trans hsucc
    · rw [List.mem_singleton.1 hbaj]
      exact hsucc
  · intro c hc
    rcases List.mem_append.1 hc with hc | hc
    · exact (h.createdFresh c hc).trans hsucc
    · rw [List.mem_singleton.1 hc]
      exact hsucc
  · intro bajr hbajr
    rcases List.mem_append.1 hbajr with hbajr | hbajr
    · exact (h.recipientsFresh bajr hbajr).trans hsucc
    · obtain ⟨recipient, -, rfl⟩ := List.mem_map.1 hbajr
      exact hsucc
  · intro baj hbaj
    rcases List.mem_append.1 hbaj with hbaj | hbaj
    · obtain ⟨c, hc, haccounted⟩ := h.jobs baj hbaj
      exact ⟨c, List.mem_append_left _ hc, h.accounted_of_mem hbaj haccounted rfl rfl⟩
    · rw [List.mem_singleton.1 hbaj]
      exact ⟨new, List.mem_append_right _ (List.mem_singleton_self _),
        h.accounted_job request hpos hle rfl rfl⟩

/-! ### Batches -/

/-- The row that a batch writes. -/
def BadgeAwardJob.advance (baj : BadgeAwardJob) (now : Timestamp) (allowed : ℤ) (st : BatchState) :
    BadgeAwardJob :=
  { baj with
    awardedCount := baj.awardedCount + st.awardedCount
    claimId := none
    claimedAt := none
    completedAt := if baj.acceptedCount ≤ baj.nextRecipientOffset + allowed then some now else none
    error := none
    nextAttemptAt := if baj.acceptedCount ≤ baj.nextRecipientOffset + allowed then baj.nextAttemptAt
      else now + 1000000
    nextRecipientOffset := baj.nextRecipientOffset + allowed
    skippedCount := baj.skippedCount + st.skippedCount
    status := if baj.acceptedCount ≤ baj.nextRecipientOffset + allowed then .completed
      else .pending }

variable {baj c : BadgeAwardJob} {turns : List AwardTurn} {st : BatchState} {m : ℕ}

theorem AwardLedger.turnsOf_append (l : AwardLedger) (turns : List AwardTurn) (db : BadgeDatabase)
    (job : Uuid) : AwardLedger.turnsOf { l with db := db, turns := l.turns ++ turns } job
      = l.turnsOf job ++ turns.filter fun turn ↦ turn.badgeAwardJobId = job :=
  List.filter_append ..

theorem BadgeAwardJob.Accounted.advance_valid (h : baj.Accounted l c)
    (hran : (⟨l.db, none, 0, 0⟩ : BatchState).Ran now turns st) (hlength : turns.length = m)
    (hle : baj.nextRecipientOffset + m ≤ baj.acceptedCount) : (baj.advance now m st).Valid := by
  have hawarded := hran.awarded
  have hskipped := hran.skipped
  have htotal := h.total
  have hrecipients := h.recipientCount
  have hgrown := h.skippedCount
  have hflip : (fun turn : AwardTurn ↦ decide ¬ turn.awarded = true)
      = fun turn ↦ !turn.awarded := by
    funext turn
    simp
  rw [List.length_eq_countP_add_countP (·.awarded), hflip] at hlength
  obtain ⟨⟨h₁, h₂, h₃, h₄, h₅, h₆⟩, -⟩ := h.valid
  have hskippedAtCreation := h.skippedAtCreation
  simp only [zero_add] at hawarded hskipped
  have hadvanced : baj.awardedCount + st.awardedCount + (baj.skippedCount + st.skippedCount)
      = c.skippedCount + (baj.nextRecipientOffset + m) := by
    omega
  refine ⟨⟨h₁, ?_, h₃, ?_, h₅, ?_⟩, ?_, ?_, ?_, ?_, ?_, ?_, ?_⟩
  · simp only [BadgeAwardJob.advance]
    omega
  · simp only [BadgeAwardJob.advance]
    omega
  · simp only [BadgeAwardJob.advance]
    omega
  · by_cases hdone : baj.acceptedCount ≤ baj.nextRecipientOffset + m <;>
      simp [BadgeAwardJob.advance, hdone]
  · simp [BadgeAwardJob.advance]
  · simp only [BadgeAwardJob.advance]
    omega
  · simp only [BadgeAwardJob.advance]
    omega
  · exact hle
  · -- the last position has been taken exactly when the job is marked as completed
    intro hcompleted
    by_cases hdone : baj.acceptedCount ≤ baj.nextRecipientOffset + m
    · simp only [BadgeAwardJob.advance]
      omega
    · simp [BadgeAwardJob.advance, hdone] at hcompleted
  · by_cases hdone : baj.acceptedCount ≤ baj.nextRecipientOffset + m <;>
      simp [BadgeAwardJob.advance, hdone]

theorem BadgeAwardJob.Accounted.after_batch (h : baj.Accounted l c)
    (hran : (⟨l.db, none, 0, 0⟩ : BatchState).Ran now turns st)
    (hpositions : turns.map (·.position) = positionsFrom baj.nextRecipientOffset.toNat m)
    (hturns : ∀ turn ∈ turns, turn.badgeAwardJobId = baj.badgeAwardJobId)
    (hle : baj.nextRecipientOffset + m ≤ baj.acceptedCount)
    (hkept : baj.nextRecipientOffset + m < baj.acceptedCount →
      db'.positionsOf baj.badgeAwardJobId = l.db.positionsOf baj.badgeAwardJobId)
    (hopen : baj.status ≠ .completed) :
    (baj.advance now m st).Accounted { l with db := db', turns := l.turns ++ turns } c := by
  have hlength : turns.length = m := by
    rw [← List.length_map (·.position), hpositions, positionsFrom, List.length_map,
      List.length_range']
  have hall : turns.filter (fun turn ↦ turn.badgeAwardJobId = baj.badgeAwardJobId) = turns :=
    List.filter_eq_self.2 fun turn hturn ↦ decide_eq_true (hturns turn hturn)
  have hoffset : 0 ≤ baj.nextRecipientOffset := h.valid.1.2.2.2.1
  refine ⟨h.id, h.acceptedCount, h.recipientCount, h.skippedAtCreation, ?_, ?_, ?_, ?_,
    h.advance_valid hran hlength hle, fun hnext ↦ ?_⟩
  · change (AwardLedger.turnsOf _ baj.badgeAwardJobId).map _
      = positionsFrom 0 (baj.nextRecipientOffset + m).toNat
    rw [AwardLedger.turnsOf_append, hall, List.map_append, h.positions, hpositions,
      Int.toNat_add hoffset (Int.natCast_nonneg m), Int.toNat_natCast, ← positionsFrom_append,
      Nat.zero_add]
  · change baj.awardedCount + st.awardedCount
      = ((AwardLedger.turnsOf _ baj.badgeAwardJobId).countP _ : ℤ)
    rw [AwardLedger.turnsOf_append, hall, List.countP_append, hran.awarded, h.awardedCount]
    push_cast
    rw [zero_add]
  · change baj.skippedCount + st.skippedCount
      = c.skippedCount + ((AwardLedger.turnsOf _ baj.badgeAwardJobId).countP _ : ℤ)
    rw [AwardLedger.turnsOf_append, hall, List.countP_append, hran.skipped, h.skippedCount]
    push_cast
    rw [zero_add, add_assoc]
  · by_cases hdone : baj.acceptedCount ≤ baj.nextRecipientOffset + m
    · simp [BadgeAwardJob.advance, le_antisymm hle hdone]
    · simp only [BadgeAwardJob.advance, if_neg hdone]
      simp
      omega
  · by_cases hdone : baj.acceptedCount ≤ baj.nextRecipientOffset + m
    · simp [BadgeAwardJob.advance, hdone] at hnext
    · exact (hkept (not_le.1 hdone)).symm ▸ h.remaining hopen

theorem finishBatch_eq (allowed : ℤ) :
    finishBatch now baj allowed st db' = (do
      let db ← writeAwardJob (baj.advance now allowed st) { db' with
        recipients := if baj.acceptedCount ≤ baj.nextRecipientOffset + allowed then
            db'.recipients.filter fun bajr ↦ bajr.badgeAwardJobId ≠ baj.badgeAwardJobId
          else db'.recipients }
      .ok (⟨decide (baj.acceptedCount ≤ baj.nextRecipientOffset + allowed), allowed, false⟩,
        db)) := by
  simp only [finishBatch, BadgeAwardJob.advance, decide_eq_true_eq]

/-- **The end of a batch** advances its job, and the budget of the last minute covers its awards. -/
theorem AwardLedger.Accounted.after_finish (h : l.Accounted rateLimit) (hbaj : baj ∈ l.db.jobs)
    (hopen : baj.status ≠ .completed)
    (hran : (⟨l.db, none, 0, 0⟩ : BatchState).Ran now turns st)
    (hpositions : turns.map (·.position) = positionsFrom baj.nextRecipientOffset.toNat m)
    (hturns : ∀ turn ∈ turns, turn.badgeAwardJobId = baj.badgeAwardJobId)
    (hle : baj.nextRecipientOffset + m ≤ baj.acceptedCount)
    (hbudget : (l.db.userBadges.filter fun ub ↦ now - minutes 1 ≤ ub.awardedAt).length + m
      ≤ rateLimit) (hflushed : st.db.SameAwards db') :
    Ensures (finishBatch now baj m st db')
      (fun result ↦ result.1.processedCount = m ∧ AwardLedger.Accounted rateLimit
        { l with db := result.2, turns := l.turns ++ turns }) DbError.SparesJobs := by
  obtain ⟨c, hc, haccounted⟩ := h.jobs baj hbaj
  have hlength : turns.length = m := by
    rw [← List.length_map (·.position), hpositions, positionsFrom, List.length_map,
      List.length_range']
  have hnew := haccounted.advance_valid hran hlength hle
  have hjobs : db'.jobs = l.db.jobs := hflushed.jobs.trans hran.jobs
  have hrecipients : db'.recipients = l.db.recipients := hflushed.recipients.trans hran.recipients
  have hnext : l.db.nextUuid ≤ db'.nextUuid := hran.nextUuid.trans hflushed.nextUuid
  obtain ⟨news, hbadges, hnow, hawarded⟩ := hran.userBadges
  set remaining := if baj.acceptedCount ≤ baj.nextRecipientOffset + m then
    db'.recipients.filter fun bajr ↦ bajr.badgeAwardJobId ≠ baj.badgeAwardJobId
    else db'.recipients with hremaining
  have hremaining_mem : ∀ bajr ∈ remaining, bajr ∈ l.db.recipients := by
    intro bajr hbajr
    rw [hremaining, hrecipients] at hbajr
    split_ifs at hbajr
    · exact List.mem_of_mem_filter hbajr
    · exact hbajr
  rw [finishBatch_eq, writeAwardJob, require_of hnew]
  refine ⟨rfl, ?_⟩
  change AwardLedger.Accounted rateLimit
    { l with
      db := { db' with
        jobs := replaceRow BadgeAwardJob.badgeAwardJobId (baj.advance now m st) db'.jobs
        recipients := remaining }
      turns := l.turns ++ turns }
  refine ⟨?_, h.createdKeys, ?_, fun c hc ↦ (h.createdFresh c hc).trans_le hnext, ?_, ?_, ?_, ?_⟩
  · rw [map_key_replaceRow, hjobs]
    exact h.keys
  · intro r hr
    rw [hjobs] at hr
    rcases mem_replaceRow hr with rfl | ⟨hr, -⟩
    · exact (h.fresh baj hbaj).trans_le hnext
    · exact (h.fresh r hr).trans_le hnext
  · intro turn hturn
    rcases List.mem_append.1 hturn with hturn | hturn
    · exact (h.turnsFresh turn hturn).trans_le hnext
    · rw [hturns turn hturn]
      exact (h.fresh baj hbaj).trans_le hnext
  · exact fun bajr hbajr ↦ (h.recipientsFresh bajr (hremaining_mem bajr hbajr)).trans_le hnext
  · intro r hr
    rw [hjobs] at hr
    rcases mem_replaceRow hr with rfl | ⟨hr, hne⟩
    · refine ⟨c, hc, haccounted.after_batch hran hpositions hturns hle (fun hlt ↦ ?_) hopen⟩
      rw [BadgeDatabase.positionsOf, hremaining, if_neg (not_le.2 hlt), hrecipients]
      rfl
    · obtain ⟨c', hc', hr_accounted⟩ := h.jobs r hr
      change r.badgeAwardJobId ≠ baj.badgeAwardJobId at hne
      refine ⟨c', hc', hr_accounted.congr rfl Iff.rfl hr_accounted.valid ?_ ?_⟩
      · have hnone : turns.filter (fun turn ↦ turn.badgeAwardJobId = r.badgeAwardJobId) = [] := by
          refine List.filter_eq_nil_iff.2 fun turn hturn ↦ ?_
          rw [hturns turn hturn]
          simpa using hne.symm
        rw [AwardLedger.turnsOf_append, hnone, List.append_nil]
      · rw [BadgeDatabase.positionsOf, BadgeDatabase.positionsOf, hremaining, hrecipients]
        split_ifs
        · rw [List.filter_filter]
          congr 1
          refine List.filter_congr fun bajr _ ↦ ?_
          by_cases hjob : bajr.badgeAwardJobId = r.badgeAwardJobId
          · simp [hjob, hne]
          · simp [hjob]
        · rfl
  · change Limited rateLimit (minutes 1) (db'.userBadges.map UserBadge.awardedAt)
    rw [hflushed.userBadges, hbadges, List.map_append]
    refine h.limited.admit_of_count now ?_ fun _ ↦ ?_
    · intro t ht
      obtain ⟨ub, hub, rfl⟩ := List.mem_map.1 ht
      exact hnow ub hub
    · have hcount : turns.countP (·.awarded) ≤ turns.length := List.countP_le_length
      rw [← List.countP_eq_length_filter] at hbudget
      rw [List.countP_map, List.length_map, hawarded]
      exact (Nat.add_le_add_left (hcount.trans_eq hlength) _).trans hbudget

/-- **A batch keeps the accounts.** -/
theorem AwardLedger.Accounted.after_process (h : l.Accounted rateLimit) (random : Uuid → ℕ × ℕ)
    (job claim : Uuid) (batchSize : ℤ) :
    Ensures (processBadgeAwardJobBatch random now job claim batchSize rateLimit l.db)
      (fun result ↦ AwardLedger.Accounted rateLimit
        { l with
          db := result.2
          turns := l.turns ++ l.db.batchTurns random now job claim result.1.processedCount })
      DbError.SparesJobs := by
  rw [processBadgeAwardJobBatch]
  refine (ensures_require fun _ ↦ sparesJobs_raised _).bind fun _ hbatchSize ↦ ?_
  refine (ensures_require fun _ ↦ sparesJobs_raised _).bind fun _ hrateLimit ↦ ?_
  cases hjob : l.db.claimedJob job claim with
  | none => exact sparesJobs_raised _
  | some baj =>
    obtain ⟨hbaj, -, hprocessing, hvalid⟩ := h.claimedJob hjob
    obtain ⟨c, -, haccounted⟩ := h.jobs baj hbaj
    have hopen : baj.status ≠ .completed := by simp [hprocessing]
    have hoffset : 0 ≤ baj.nextRecipientOffset := hvalid.1.2.2.2.1
    have hleft : baj.nextRecipientOffset < baj.acceptedCount :=
      lt_of_le_of_ne hvalid.2.2.2.2.2.1 fun heq ↦ hopen (haccounted.finished.2 heq)
    have hturns_eq : ∀ processed, l.db.batchTurns random now job claim processed
        = awardTurns random now baj (batchRows baj processed l.db) ⟨l.db, none, 0, 0⟩ := by
      intro processed
      rw [BadgeDatabase.batchTurns, hjob]
    dsimp only
    set awardedLastMinute := (l.db.userBadges.filter fun ub ↦ now - minutes 1 ≤ ub.awardedAt).length
    set remaining := baj.acceptedCount - baj.nextRecipientOffset with hremaining
    set allowed := min (min batchSize (max 0 (rateLimit - awardedLastMinute))) remaining
      with hallowed
    by_cases hlimited : allowed = 0 ∧ 0 < remaining
    · rw [if_pos hlimited]
      have hnew : BadgeAwardJob.Valid { baj with
          claimId := none
          claimedAt := none
          nextAttemptAt := now + 5000000
          status := .pending } := by
        refine hvalid.of_progress rfl hvalid.1.2.2.1 (by simp) (by simp) (by simp) ?_
        simpa [hprocessing] using hvalid.2.2.2.2.2.2.2
      rw [writeAwardJob, require_of hnew]
      simp only [ok_bind, hturns_eq]
      have hnone : l.turns ++ awardTurns random now baj (batchRows baj 0 l.db)
          ⟨l.db, none, 0, 0⟩ = l.turns := List.append_nil _
      change AwardLedger.Accounted rateLimit { db := _, created := _, turns := l.turns ++ _ }
      rw [hnone]
      exact h.after_write hnew hbaj rfl (by simp [hprocessing]) le_rfl
    · rw [if_neg hlimited]
      have hpos : 0 < allowed := by omega
      obtain ⟨m, hm⟩ := Int.eq_ofNat_of_zero_le hpos.le
      have hle : baj.nextRecipientOffset + m ≤ baj.acceptedCount := by omega
      have hbudget : awardedLastMinute + m ≤ rateLimit := by omega
      obtain ⟨k, hk⟩ := Int.eq_ofNat_of_zero_le hoffset
      have hpositions : (batchRows baj m l.db).map (·.position)
          = positionsFrom baj.nextRecipientOffset.toNat m := by
        rw [hk, Int.toNat_natCast]
        refine batchRows_positions (haccounted.remaining hopen) hk ?_
        omega
      rw [if_pos hpos, hm]
      refine (ensures_require fun _ ↦ sparesJobs_raised _).bind fun _ _ ↦ ?_
      change Ensures (((batchRows baj m l.db).map (·.userId)).foldlM
        (awardRecipient random now baj) ⟨l.db, none, 0, 0⟩ >>= _) _ _
      refine (awardRecipients_ran _ _).bind ?_
      rintro st ⟨hran, hsame, hown⟩
      refine (flushCursor_spec.imp_error fun _ he ↦ he.1).bind ?_
      rintro _ rfl
      refine (h.after_finish hbaj hopen hran (hsame.trans hpositions) hown hle hbudget
        (st.db.withCursor_sameAwards st.cursor)).imp ?_
      rintro ⟨report, db''⟩ ⟨hprocessed, haccounted'⟩
      dsimp only at hprocessed haccounted' ⊢
      rw [hprocessed, hturns_eq]
      exact haccounted'

/-- **One transaction keeps the accounts**, and no constraint on the jobs aborts it. -/
theorem AwardLedger.Accounted.after_run (h : l.Accounted rateLimit) (op : AwardOperation) :
    Ensures (op.run rateLimit now l) (AwardLedger.Accounted rateLimit) DbError.SparesJobs := by
  cases op with
  | award checks request => exact (h.after_award checks request).bind fun _ hresult ↦ hresult
  | claim locked => exact (h.after_claim locked).bind fun _ hresult ↦ hresult
  | process random job claimId batchSize =>
    exact (h.after_process random job claimId batchSize).bind fun _ hresult ↦ hresult
  | fail job claimId error maxFailures =>
    exact (h.after_fail job claimId error maxFailures).bind fun _ hresult ↦ hresult
  | recover locked processingTimeout maxFailures =>
    exact (h.after_recover locked processingTimeout maxFailures).bind fun _ hresult ↦ hresult
  | requeue job => exact (h.after_requeue job).bind fun _ hresult ↦ hresult
  | cleanup locked retention =>
    exact (h.after_cleanup locked retention).bind fun _ hresult ↦ hresult

theorem BadgeAwardJob.of_unlinked_eq {old : BadgeAwardJob} (h : old.unlinked = baj.unlinked) :
    baj.progress = old.progress ∧ baj.status = old.status ∧ (old.Valid → baj.Valid) := by
  have hprogress := congrArg BadgeAwardJob.progress h
  have hstatus := congrArg BadgeAwardJob.status h
  refine ⟨hprogress.symm, hstatus.symm, fun hvalid ↦ ?_⟩
  change baj.unlinked.Valid
  rw [← h]
  exact hvalid

theorem AwardLedger.Accounted.after_unlink (h : l.Accounted rateLimit)
    (hjobs : db'.jobs.map BadgeAwardJob.unlinked = l.db.jobs.map BadgeAwardJob.unlinked)
    (hrecipients : db'.recipients.map (fun bajr ↦ (bajr.badgeAwardJobId, bajr.position))
      = l.db.recipients.map fun bajr ↦ (bajr.badgeAwardJobId, bajr.position))
    (hbadges : db'.userBadges.map UserBadge.awardedAt = l.db.userBadges.map UserBadge.awardedAt)
    (hids : l.db.nextUuid ≤ db'.nextUuid) :
    AwardLedger.Accounted rateLimit { l with db := db' } := by
  have hrow : ∀ baj ∈ db'.jobs, ∃ old ∈ l.db.jobs, old.unlinked = baj.unlinked := by
    intro baj hbaj
    have hmem : baj.unlinked ∈ l.db.jobs.map BadgeAwardJob.unlinked :=
      hjobs ▸ List.mem_map_of_mem hbaj
    exact List.mem_map.1 hmem
  have hkeys : db'.jobs.map BadgeAwardJob.badgeAwardJobId
      = l.db.jobs.map BadgeAwardJob.badgeAwardJobId := by
    have hmap := congrArg (List.map BadgeAwardJob.badgeAwardJobId) hjobs
    rw [List.map_map, List.map_map] at hmap
    exact hmap
  have hpositions : ∀ job, db'.positionsOf job = l.db.positionsOf job := by
    intro job
    have hmap := congrArg (fun rows : List (Uuid × ℤ) ↦
      (rows.filter fun row ↦ row.1 = job).map Prod.snd) hrecipients
    simp only [List.filter_map, List.map_map] at hmap
    exact hmap
  refine ⟨hkeys ▸ h.keys, h.createdKeys, ?_, fun c hc ↦ (h.createdFresh c hc).trans_le hids,
    fun t ht ↦ (h.turnsFresh t ht).trans_le hids, ?_, ?_, ?_⟩
  · intro baj hbaj
    obtain ⟨old, hold, hsame⟩ := hrow baj hbaj
    have hid : baj.badgeAwardJobId = old.badgeAwardJobId :=
      congrArg Prod.fst (BadgeAwardJob.of_unlinked_eq hsame).1
    rw [hid]
    exact (h.fresh old hold).trans_le hids
  · intro bajr hbajr
    have hmem : (bajr.badgeAwardJobId, bajr.position)
        ∈ l.db.recipients.map fun bajr ↦ (bajr.badgeAwardJobId, bajr.position) :=
      hrecipients ▸ List.mem_map_of_mem hbajr
    obtain ⟨old, hold, hsame⟩ := List.mem_map.1 hmem
    have hid : old.badgeAwardJobId = bajr.badgeAwardJobId := congrArg Prod.fst hsame
    rw [← hid]
    exact (h.recipientsFresh old hold).trans_le hids
  · intro baj hbaj
    obtain ⟨old, hold, hsame⟩ := hrow baj hbaj
    obtain ⟨c, hc, haccounted⟩ := h.jobs old hold
    obtain ⟨hprogress, hstatus, hvalid⟩ := BadgeAwardJob.of_unlinked_eq hsame
    exact ⟨c, hc, haccounted.congr hprogress (by rw [hstatus]) (hvalid haccounted.valid) rfl
      (hpositions _)⟩
  · change Limited rateLimit (minutes 1) (db'.userBadges.map UserBadge.awardedAt)
    rw [hbadges]
    exact h.limited

end Operations

/-! ## Every run -/

variable {rateLimit : ℕ} {now : Timestamp} {l : AwardLedger}

theorem AwardLedger.Reached.accounted (h : l.Reached rateLimit now) : l.Accounted rateLimit := by
  refine h.stable (fun l hl ↦ hl.accounted) ?_
  rintro now l l' hl hstep
  cases hstep with
  | operation op hrun => exact (hl.after_run op).of_eq_ok hrun
  | other hjobs hrecipients hbadges hids =>
    exact hl.after_unlink hjobs hrecipients hbadges hids

/-- **Badge job accounting.** The turns of a job took its first positions in order, once each, and
its counts are those of the turns; a completed job has taken them all. No transaction is aborted by
a constraint on the jobs, and no closed minute holds more awards than the limit. -/
theorem AwardLedger.Reached.accounts (h : l.Reached rateLimit now) :
    (l.created.map BadgeAwardJob.badgeAwardJobId).Nodup
      ∧ (∀ baj ∈ l.db.jobs, ∃ c ∈ l.created, c.badgeAwardJobId = baj.badgeAwardJobId
        ∧ baj.acceptedCount = c.acceptedCount
        ∧ 0 ≤ baj.nextRecipientOffset ∧ baj.nextRecipientOffset ≤ baj.acceptedCount
        ∧ (l.turnsOf baj.badgeAwardJobId).map (·.position)
          = positionsFrom 0 baj.nextRecipientOffset.toNat
        ∧ baj.awardedCount = (l.turnsOf baj.badgeAwardJobId).countP (·.awarded)
        ∧ baj.skippedCount
          = c.skippedCount + (l.turnsOf baj.badgeAwardJobId).countP (!·.awarded)
        ∧ baj.awardedCount + baj.skippedCount = c.skippedCount + baj.nextRecipientOffset
        ∧ (baj.status = .completed → baj.nextRecipientOffset = baj.acceptedCount))
      ∧ (∀ (op : AwardOperation) (now : Timestamp), Ensures (op.run rateLimit now l)
        (fun _ ↦ True) fun e ↦ e ≠ .violated "badge_award_job_counts_chk")
      ∧ ∀ x, (l.db.userBadges.countP fun ub ↦ x ≤ ub.awardedAt ∧ ub.awardedAt ≤ x + minutes 1)
        ≤ rateLimit := by
  have haccounted := h.accounted
  refine ⟨haccounted.createdKeys, ?_, ?_, ?_⟩
  · intro baj hbaj
    obtain ⟨c, hc, hjob⟩ := haccounted.jobs baj hbaj
    exact ⟨c, hc, hjob.id, hjob.acceptedCount, hjob.valid.1.2.2.2.1,
      hjob.valid.2.2.2.2.2.1, hjob.positions, hjob.awardedCount, hjob.skippedCount, hjob.total,
      hjob.finished.1⟩
  · exact fun op now ↦ (haccounted.after_run op).imp fun _ _ ↦ trivial
  · intro x
    have hwindow := haccounted.limited x
    rw [List.countP_map] at hwindow
    exact hwindow

/-- Two users, and no badge yet. -/
def sampleLedger : AwardLedger := ⟨⟨[], [], [], [], [1, 2], 10⟩, [], []⟩

/-- The second user deletes the account. -/
def sampleDeparture (l : AwardLedger) : AwardLedger :=
  { l with db := { l.db with
    recipients := updateWhere (fun bajr ↦ bajr.userId = some 2)
      (fun bajr ↦ { bajr with userId := none }) l.db.recipients
    users := [1] } }

theorem AwardLedger.Reached.accounts_sample :
    ∃ l : AwardLedger, l.Reached 500 2 ∧ l.turns = [⟨10, 0, true⟩, ⟨10, 1, false⟩]
      ∧ (l.db.jobs.map fun baj ↦ (baj.status, baj.awardedCount, baj.skippedCount))
        = [(.completed, 1, 1)]
      ∧ (l.created.map BadgeAwardJob.badgeAwardJobId).Nodup := by
  have hscript : Replays (AwardOperation.run 500)
      [(0, .award ⟨fun _ ↦ none, fun _ _ ↦ none⟩ ⟨1, "badge", 1, [some 1, some 2], none⟩)]
      sampleLedger fun l ↦ Replays (AwardOperation.run 500)
        [(1, .claim fun _ ↦ false), (2, .process (fun _ ↦ (131071, 5)) 10 11 25)]
        (sampleDeparture l) fun l ↦ l.turns = [⟨10, 0, true⟩, ⟨10, 1, false⟩]
          ∧ (l.db.jobs.map fun baj ↦ (baj.status, baj.awardedCount, baj.skippedCount))
            = [(.completed, 1, 1)] := by
    decide +kernel
  obtain ⟨l₁, hfirst, hscript⟩ := exists_of_replays hscript
  obtain ⟨l₂, hsecond, hturns, hjobs⟩ := exists_of_replays hscript
  have hl₁ : l₁.Reached 500 0 :=
    reachable_of_replay (fun _ op _ _ hrun ↦ .operation op hrun)
      (.start ⟨rfl, rfl, rfl, rfl, rfl⟩) (List.pairwise_of_forall fun _ _ ↦ trivial) hfirst (t := 0)
  have hdeparture : AwardStep 500 0 l₁ (sampleDeparture l₁) := by
    refine .other rfl ?_ rfl le_rfl
    apply map_updateWhere
    exact fun _ ↦ rfl
  have hl₂ : l₂.Reached 500 2 :=
    reachable_of_replay (fun _ op _ _ hrun ↦ .operation op hrun) (hl₁.step hdeparture)
      (List.pairwise_of_forall fun _ _ ↦ trivial) hsecond
  exact ⟨l₂, hl₂, hturns, hjobs, (AwardLedger.Reached.accounts hl₂).1⟩

end Ocg
