import Mathlib.Data.Nat.Prime.Basic
import Ocg.Badge.Batch
import Ocg.Relational.Allocator
import Ocg.Relational.Run

/-!
# Every bit is issued once

A status list is a pool of `statusListSize` bits whose stride is odd, hence coprime to the size.
Inside a batch the position of the open list runs ahead of its row, so the allocation that a batch
advances is the one with the cursor written back. Over any sequence of batches the allocation stays
sound, and no batch is aborted by a constraint on the bits.
-/

namespace Ocg

open Relational

/-! ## The allocation of the badge tables -/

/-- The pool of bits of a status list. -/
def BadgeStatusList.pool (bsl : BadgeStatusList) : Pool Uuid Uuid :=
  ⟨bsl.badgeStatusListId, bsl.groupId, bsl.allocationPosition, bsl.allocationOffset,
    bsl.allocationStride⟩

/-- The bit that a badge was issued with. -/
def UserBadge.bit (ub : UserBadge) : Uuid × ℕ := (ub.badgeStatusListId, ub.statusListIndex)

def BadgeDatabase.allocation (db : BadgeDatabase) : Allocation Uuid Uuid :=
  ⟨db.statusLists.map BadgeStatusList.pool, db.userBadges.map UserBadge.bit⟩

/-- The database once the cursor of a batch is written back. -/
def BadgeDatabase.withCursor (cursor : Option BadgeStatusList) (db : BadgeDatabase) :
    BadgeDatabase :=
  match cursor with
  | none => db
  | some bsl =>
    { db with statusLists := replaceRow BadgeStatusList.badgeStatusListId bsl db.statusLists }

/-- What holds between two awards of a batch for a group. -/
structure BadgeDatabase.Coherent (groupId : Uuid) (cursor : Option BadgeStatusList)
    (db : BadgeDatabase) : Prop where
  sound : (db.withCursor cursor).allocation.Sound statusListSize
  valid : ∀ bsl ∈ (db.withCursor cursor).statusLists, bsl.Valid
  fresh : ∀ bsl ∈ db.statusLists, bsl.badgeStatusListId < db.nextUuid
  /-- The cursor is a row of the group, up to its position. -/
  cursorRow : ∀ bsl ∈ cursor, bsl.groupId = groupId ∧ ∃ row ∈ db.statusLists,
    row.badgeStatusListId = bsl.badgeStatusListId ∧ row.groupId = bsl.groupId

/-- The constraints on bits and positions. -/
def allocationConstraints : List String :=
  ["user_badge_status_list_index_key", "user_badge_status_list_index_check",
    "badge_status_list_allocation_position_chk", "user_badge_badge_status_list_id_group_id_fkey"]

/-- The error is not one of the allocation. -/
def DbError.SparesAllocation (e : DbError) : Prop :=
  ∀ name ∈ allocationConstraints, e ≠ .violated name

/-- The error is not a violated constraint of the jobs. -/
def DbError.SparesJobs (e : DbError) : Prop := e ≠ .violated "badge_award_job_counts_chk"

/-- Only status lists change. -/
structure BadgeDatabase.SameAwards (db db' : BadgeDatabase) : Prop where
  jobs : db'.jobs = db.jobs
  recipients : db'.recipients = db.recipients
  userBadges : db'.userBadges = db.userBadges
  nextUuid : db.nextUuid ≤ db'.nextUuid

theorem BadgeDatabase.SameAwards.refl (db : BadgeDatabase) : db.SameAwards db :=
  ⟨rfl, rfl, rfl, le_rfl⟩

theorem BadgeDatabase.withCursor_sameAwards (db : BadgeDatabase) (cursor : Option BadgeStatusList) :
    db.SameAwards (db.withCursor cursor) := by
  cases cursor with
  | none => exact .refl db
  | some bsl => exact ⟨rfl, rfl, rfl, le_rfl⟩

theorem sparesJobs_raised (message : String) : (DbError.raised message).SparesJobs := by
  simp [DbError.SparesJobs]

theorem sparesAllocation_raised (message : String) : (DbError.raised message).SparesAllocation := by
  rintro name - h
  simp at h

theorem sparesAllocation_violated {constraint : String} (h : constraint ∉ allocationConstraints) :
    (DbError.violated constraint).SparesAllocation := by
  intro name hname hname_eq
  obtain rfl := DbError.violated.inj hname_eq
  exact h hname

variable {random : Uuid → ℕ × ℕ} {now : Timestamp} {groupId : Uuid}
  {cursor : Option BadgeStatusList} {db : BadgeDatabase}

theorem BadgeStatusList.Valid.coprime {bsl : BadgeStatusList} (h : bsl.Valid) :
    statusListSize.Coprime bsl.pool.stride := by
  have hodd : Nat.Coprime 2 bsl.allocationStride :=
    Nat.coprime_two_left.2 (Nat.odd_iff.2 h.2.2.2)
  exact hodd.pow_left 17

theorem BadgeDatabase.Coherent.cursor_mem {bsl : BadgeStatusList}
    (h : db.Coherent groupId (some bsl)) : bsl ∈ (db.withCursor (some bsl)).statusLists := by
  obtain ⟨-, row, hrow, hid, -⟩ := h.cursorRow bsl rfl
  exact new_mem_replaceRow hrow hid

theorem BadgeDatabase.Coherent.cursor_valid (h : db.Coherent groupId cursor) :
    ∀ bsl ∈ cursor, bsl.Valid := by
  rintro bsl rfl
  exact h.valid bsl h.cursor_mem

theorem BadgeDatabase.Coherent.flush (h : db.Coherent groupId cursor) (groupId' : Uuid) :
    (db.withCursor cursor).Coherent groupId' none := by
  refine ⟨h.sound, h.valid, ?_, by simp⟩
  cases cursor with
  | none => exact h.fresh
  | some bsl =>
    intro row hrow
    rcases mem_replaceRow hrow with rfl | ⟨hrow, -⟩
    · obtain ⟨-, old, hold, hid, -⟩ := h.cursorRow row rfl
      exact hid ▸ h.fresh old hold
    · exact h.fresh row hrow

theorem BadgeDatabase.Coherent.keys (h : db.Coherent groupId none) :
    (db.statusLists.map BadgeStatusList.badgeStatusListId).Nodup := by
  have hkeys := h.sound.keys
  rwa [allocation, List.map_map] at hkeys

theorem BadgeDatabase.Coherent.open_row (h : db.Coherent groupId none) {bsl : BadgeStatusList}
    (hbsl : bsl ∈ db.statusLists) (hgroup : bsl.groupId = groupId) :
    db.Coherent groupId (some bsl) ∧ db.withCursor (some bsl) = db := by
  -- opening a list whose row is in the table: the cursor starts as a copy of the row
  have hself : db.withCursor (some bsl) = db := by
    rw [withCursor, replaceRow_self h.keys hbsl]
  refine ⟨⟨?_, ?_, h.fresh, ?_⟩, hself⟩
  · rw [hself]
    exact h.sound
  · rw [hself]
    exact h.valid
  · intro row hrow
    obtain rfl := Option.mem_some_iff.1 hrow
    exact ⟨hgroup, bsl, hbsl, rfl, rfl⟩

theorem BadgeDatabase.Coherent.create (h : db.Coherent groupId none) {new : BadgeStatusList}
    (hid : new.badgeStatusListId = db.nextUuid) (hgroup : new.groupId = groupId)
    (hempty : new.allocationPosition = 0) (hvalid : new.Valid)
    (hfull : ∀ bsl ∈ db.statusLists, bsl.groupId = groupId →
      bsl.allocationPosition = statusListSize) :
    AllocStep statusListSize db.allocation
        { db with nextUuid := db.nextUuid + 1, statusLists := db.statusLists ++ [new] }.allocation
      ∧ { db with nextUuid := db.nextUuid + 1, statusLists := db.statusLists ++ [new] }.Coherent
        groupId none := by
  have hnew : ∀ bsl ∈ db.statusLists, bsl.badgeStatusListId ≠ new.badgeStatusListId :=
    fun bsl hbsl ↦ hid ▸ (h.fresh bsl hbsl).ne
  have hstep : AllocStep statusListSize db.allocation
      { db with
        nextUuid := db.nextUuid + 1
        statusLists := db.statusLists ++ [new] }.allocation := by
    rw [allocation, allocation, List.map_append]
    refine .create ?_ hempty hvalid.coprime ?_
    · intro p hp
      obtain ⟨bsl, hbsl, rfl⟩ := List.mem_map.1 hp
      exact hnew bsl hbsl
    · intro p hp howner
      obtain ⟨bsl, hbsl, rfl⟩ := List.mem_map.1 hp
      exact hfull bsl hbsl (howner.trans hgroup)
  refine ⟨hstep, hstep.sound h.sound, ?_, ?_, by simp⟩
  · intro bsl hbsl
    rcases List.mem_append.1 hbsl with hbsl | hbsl
    · exact h.valid bsl hbsl
    · rw [List.mem_singleton.1 hbsl]
      exact hvalid
  · intro bsl hbsl
    rcases List.mem_append.1 hbsl with hbsl | hbsl
    · exact (h.fresh bsl hbsl).trans (Nat.lt_succ_self _)
    · rw [List.mem_singleton.1 hbsl, hid]
      exact Nat.lt_succ_self _

theorem BadgeDatabase.Coherent.issue {bsl : BadgeStatusList} (h : db.Coherent groupId (some bsl))
    (hroom : bsl.allocationPosition < statusListSize) {new : UserBadge}
    (hbit : new.bit = (bsl.badgeStatusListId, bsl.indexAt bsl.allocationPosition))
    {db' : BadgeDatabase} (hlists : db'.statusLists = db.statusLists)
    (hbadges : db'.userBadges = db.userBadges ++ [new]) (hids : db.nextUuid ≤ db'.nextUuid) :
    db'.Coherent groupId (some { bsl with allocationPosition := bsl.allocationPosition + 1 })
      ∧ AllocStep statusListSize (db.withCursor (some bsl)).allocation
        (db'.withCursor
          (some { bsl with allocationPosition := bsl.allocationPosition + 1 })).allocation := by
  set next : BadgeStatusList := { bsl with allocationPosition := bsl.allocationPosition + 1 }
  have hid : bsl.badgeStatusListId = next.badgeStatusListId := rfl
  have hrows : replaceRow BadgeStatusList.badgeStatusListId next db.statusLists
      = replaceRow BadgeStatusList.badgeStatusListId next
        (replaceRow BadgeStatusList.badgeStatusListId bsl db.statusLists) :=
    (replaceRow_replaceRow hid _).symm
  have hpools : ∀ rows, (replaceRow BadgeStatusList.badgeStatusListId next rows).map
      BadgeStatusList.pool = replaceRow Pool.id next.pool (rows.map BadgeStatusList.pool) :=
    map_replaceRow Pool.id (fun _ ↦ rfl) next
  have hstep : AllocStep statusListSize (db.withCursor (some bsl)).allocation
      (db'.withCursor (some next)).allocation := by
    have hpool : bsl.pool ∈ (db.withCursor (some bsl)).allocation.pools :=
      List.mem_map_of_mem h.cursor_mem
    have hafter : (db'.withCursor (some next)).allocation
        = ⟨replaceRow Pool.id bsl.pool.advance (db.withCursor (some bsl)).allocation.pools,
          (db.withCursor (some bsl)).allocation.issued
            ++ [(bsl.pool.id, bsl.pool.slot statusListSize bsl.pool.taken)]⟩ := by
      simp only [allocation, withCursor, hlists, hbadges, List.map_append, List.map_singleton, hbit]
      rw [hrows, hpools]
      rfl
    rw [hafter]
    exact .issue hpool hroom
  refine ⟨⟨hstep.sound h.sound, ?_, ?_, ?_⟩, hstep⟩
  · intro row hrow
    simp only [withCursor, hlists, hrows] at hrow
    rcases mem_replaceRow hrow with rfl | ⟨hrow, -⟩
    · obtain ⟨hoffset, -, hstride⟩ := h.valid bsl h.cursor_mem
      exact ⟨hoffset, hroom, hstride⟩
    · exact h.valid row hrow
  · intro row hrow
    rw [hlists] at hrow
    exact (h.fresh row hrow).trans_le hids
  · intro row hrow
    obtain rfl := Option.mem_some_iff.1 hrow
    rw [hlists]
    exact h.cursorRow bsl rfl

/-! ## Each statement of a batch -/

theorem writeStatusList_spec (bsl : BadgeStatusList) :
    Ensures (writeStatusList bsl db) (fun db' ↦ db' = db.withCursor (some bsl))
      (fun e ↦ e.SparesJobs ∧ ¬ bsl.Valid) := by
  rw [writeStatusList]
  exact (ensures_require fun hinvalid ↦ ⟨by simp [DbError.SparesJobs], hinvalid⟩).bind
    fun _ _ ↦ rfl

/-- A filled list is written back with the position that the allocation counts anyway. -/
theorem flushFilledList_spec :
    Ensures (flushFilledList cursor db)
      (fun result ↦ (result = (cursor, db) ∨ result = (none, db.withCursor cursor))
        ∧ ∀ bsl ∈ result.1, bsl.allocationPosition < statusListSize)
      (fun e ↦ e.SparesJobs ∧ ∃ bsl ∈ cursor, ¬ bsl.Valid) := by
  cases cursor with
  | none => exact ⟨.inl rfl, by simp⟩
  | some bsl =>
    rw [flushFilledList]
    by_cases hfull : statusListSize ≤ bsl.allocationPosition
    · rw [if_pos hfull]
      refine ((writeStatusList_spec bsl).imp_error fun e he ↦ ⟨he.1, bsl, rfl, he.2⟩).bind ?_
      rintro _ rfl
      exact ⟨.inr rfl, by simp⟩
    · rw [if_neg hfull]
      refine ⟨.inl rfl, fun row hrow ↦ ?_⟩
      obtain rfl := Option.mem_some_iff.1 hrow
      omega

/-- The list to allocate from has room, and a new one is created only when every list of the group
is full. -/
theorem openStatusList_spec :
    Ensures (openStatusList random now groupId cursor db)
      (fun result ↦ db.SameAwards result.2
        ∧ (db.Coherent groupId cursor → (∀ bsl ∈ cursor, bsl.allocationPosition < statusListSize) →
          result.2.Coherent groupId (some result.1)
          ∧ result.1.allocationPosition < statusListSize
          ∧ Relation.ReflTransGen (AllocStep statusListSize) (db.withCursor cursor).allocation
            (result.2.withCursor (some result.1)).allocation))
      (fun e ↦ e.SparesJobs ∧ e.SparesAllocation) := by
  cases cursor with
  | some bsl => exact ⟨.refl db, fun h hroom ↦ ⟨h, hroom bsl rfl, .refl⟩⟩
  | none =>
    rw [openStatusList]
    cases hfirst : firstBy BadgeStatusList.newerThan (db.statusLists.filter fun bsl ↦
        bsl.groupId = groupId ∧ bsl.allocationPosition < statusListSize) with
    | some bsl =>
      obtain ⟨hbsl, hselected⟩ := List.mem_filter.1 (firstBy_mem hfirst)
      obtain ⟨hgroup, hposition⟩ := of_decide_eq_true hselected
      refine ⟨.refl db, fun h _ ↦ ?_⟩
      obtain ⟨hopen, hself⟩ := h.open_row hbsl hgroup
      refine ⟨hopen, hposition, ?_⟩
      change Relation.ReflTransGen _ db.allocation (db.withCursor (some bsl)).allocation
      rw [hself]
    | none =>
      refine Ensures.bind (ensures_require fun _ ↦
        ⟨by simp [DbError.SparesJobs], sparesAllocation_violated (by decide)⟩) fun _ hvalid ↦ ?_
      refine ⟨⟨rfl, rfl, rfl, Nat.le_succ _⟩, fun h _ ↦ ?_⟩
      obtain ⟨hstep, hcreated⟩ := h.create rfl rfl rfl hvalid fun bsl hbsl hgroup ↦ by
        -- no list of the group was selected, so each of them is full
        have hfilter := List.filter_eq_nil_iff.1 (firstBy_eq_none.1 hfirst) bsl hbsl
        have hle := (h.valid bsl hbsl).2.1
        simp only [decide_eq_true_eq, hgroup, true_and, not_lt] at hfilter
        omega
      obtain ⟨hopen, hself⟩ :=
        hcreated.open_row (List.mem_append_right _ (List.mem_singleton.2 rfl)) rfl
      refine ⟨hopen, Nat.succ_pos _, .single ?_⟩
      change AllocStep _ db.allocation (BadgeDatabase.withCursor _ _).allocation
      rw [hself]
      exact hstep

/-- A badge on a fresh bit of a list of its group meets the constraints on bits. -/
theorem insertUserBadge_spec (new : UserBadge) :
    Ensures (insertUserBadge new db)
      (fun db' ↦ db' = { db with userBadges := db.userBadges ++ [new] })
      (fun e ↦ e.SparesJobs ∧ (new.statusListIndex < statusListSize →
        (∃ bsl ∈ db.statusLists, bsl.badgeStatusListId = new.badgeStatusListId
          ∧ bsl.groupId = new.groupId) →
        new.bit ∉ db.userBadges.map UserBadge.bit → e.SparesAllocation)) := by
  have hspares : ∀ constraint, constraint ≠ "badge_award_job_counts_chk" →
      (DbError.violated constraint).SparesJobs := fun _ h heq ↦ h (DbError.violated.inj heq)
  rw [insertUserBadge]
  refine Ensures.bind (ensures_require fun hno ↦
    ⟨hspares _ (by decide), fun hindex ↦ absurd hindex hno⟩) fun _ _ ↦ ?_
  refine Ensures.bind (ensures_require fun hno ↦
    ⟨hspares _ (by decide), fun _ hlist ↦ absurd hlist hno⟩) fun _ _ ↦ ?_
  refine Ensures.bind (ensures_require fun hno ↦
    ⟨hspares _ (by decide), fun _ _ hfresh ↦ absurd (fun ub hub hsame ↦ ?_) hno⟩) fun _ _ ↦ ?_
  · refine hfresh (List.mem_map.2 ⟨ub, hub, ?_⟩)
    rw [UserBadge.bit, hsame.1, hsame.2, UserBadge.bit]
  exact Ensures.bind (ensures_require fun _ ↦
    ⟨hspares _ (by decide), fun _ _ _ ↦ sparesAllocation_violated (by decide)⟩) fun _ _ ↦ rfl

theorem awardRecipient_spec {job : BadgeAwardJob} {st : BatchState} {recipient : Option Uuid}
    (h : st.db.Coherent job.groupId st.cursor) :
    Ensures (awardRecipient random now job st recipient)
      (fun st' ↦ st'.db.Coherent job.groupId st'.cursor
        ∧ Relation.ReflTransGen (AllocStep statusListSize) (st.db.withCursor st.cursor).allocation
          (st'.db.withCursor st'.cursor).allocation)
      DbError.SparesAllocation := by
  rw [awardRecipient]
  by_cases hskip : st.db.SkipsRecipient job.badgeId recipient
  · rw [if_pos hskip]
    exact ⟨h, .refl⟩
  rw [if_neg hskip]
  refine (flushFilledList_spec.imp_error fun e ⟨_, bsl, hbsl, hinvalid⟩ ↦
    absurd (h.cursor_valid bsl hbsl) hinvalid).bind ?_
  rintro ⟨cursor, db⟩ ⟨hresult, hroom⟩
  obtain ⟨hflushed, hsame⟩ : db.Coherent job.groupId cursor
      ∧ db.withCursor cursor = st.db.withCursor st.cursor := by
    rcases hresult with heq | heq <;> obtain ⟨rfl, rfl⟩ := Prod.mk.inj heq
    · exact ⟨h, rfl⟩
    · exact ⟨h.flush job.groupId, rfl⟩
  refine (openStatusList_spec.imp_error fun _ he ↦ he.2).bind ?_
  rintro ⟨bsl, db'⟩ ⟨-, hopens⟩
  obtain ⟨hopen, hposition, hrun⟩ := hopens hflushed hroom
  rw [hsame] at hrun
  dsimp only at hopen hposition hrun ⊢
  obtain ⟨hgroup, row, hrow, hrow_id, hrow_group⟩ := hopen.cursorRow bsl rfl
  -- the pool of the cursor in the allocation that the batch advances
  have hpool : bsl.pool ∈ (db'.withCursor (some bsl)).allocation.pools :=
    List.mem_map_of_mem hopen.cursor_mem
  have hfresh := hopen.sound.slot_fresh hpool hposition
  set new : UserBadge := ⟨db'.nextUuid, now, bsl.badgeStatusListId,
    BadgeDatabase.nextDisplayOrder db' recipient, job.groupId, true, job.badgeSnapshot,
    bsl.indexAt bsl.allocationPosition, job.badgeId, job.eventId, none, recipient⟩
  have hinsert : Ensures (insertUserBadge new { db' with nextUuid := db'.nextUuid + 1 })
      (fun db'' ↦ db'' = { db' with
        nextUuid := db'.nextUuid + 1, userBadges := db'.userBadges ++ [new] })
      DbError.SparesAllocation := by
    have hindex : new.statusListIndex < statusListSize := bsl.pool.slot_lt (by decide) _
    have hlist : ∃ row ∈ db'.statusLists, row.badgeStatusListId = new.badgeStatusListId
        ∧ row.groupId = new.groupId := ⟨row, hrow, hrow_id, hrow_group.trans hgroup⟩
    exact (insertUserBadge_spec new).imp_error fun _ he ↦ he.2 hindex hlist hfresh
  refine hinsert.bind ?_
  rintro _ rfl
  have hbit : new.bit = (bsl.badgeStatusListId, bsl.indexAt bsl.allocationPosition) := rfl
  set db'' : BadgeDatabase :=
    { db' with nextUuid := db'.nextUuid + 1, userBadges := db'.userBadges ++ [new] }
  have hlists : db''.statusLists = db'.statusLists := rfl
  have hissued := hopen.issue hposition hbit hlists rfl (Nat.le_succ _)
  exact ⟨hissued.1, hrun.tail hissued.2⟩

/-! ## The batch -/

theorem flushCursor_spec {st : BatchState} :
    Ensures (flushCursor st) (fun db ↦ db = st.db.withCursor st.cursor)
      (fun e ↦ e.SparesJobs ∧ ∃ bsl ∈ st.cursor, ¬ bsl.Valid) := by
  obtain ⟨db, cursor, awarded, skipped⟩ := st
  cases cursor with
  | none => exact rfl
  | some bsl => exact (writeStatusList_spec bsl).imp_error fun e he ↦ ⟨he.1, bsl, rfl, he.2⟩

theorem writeAwardJob_spec {new : BadgeAwardJob} :
    Ensures (writeAwardJob new db)
      (fun db' ↦ db'.statusLists = db.statusLists ∧ db'.userBadges = db.userBadges
        ∧ db'.nextUuid = db.nextUuid)
      DbError.SparesAllocation := by
  rw [writeAwardJob]
  exact (ensures_require fun _ ↦ sparesAllocation_violated (by decide)).bind
    fun _ _ ↦ ⟨rfl, rfl, rfl⟩

theorem finishBatch_spec {job : BadgeAwardJob} {allowed : ℤ} {st : BatchState} :
    Ensures (finishBatch now job allowed st db)
      (fun result ↦ result.2.statusLists = db.statusLists ∧ result.2.userBadges = db.userBadges
        ∧ result.2.nextUuid = db.nextUuid)
      DbError.SparesAllocation := by
  rw [finishBatch]
  exact writeAwardJob_spec.bind fun db' h ↦ h

theorem BadgeDatabase.Coherent.congr (h : db.Coherent groupId none) {db' : BadgeDatabase}
    (hlists : db'.statusLists = db.statusLists)
    (hbits : db'.userBadges.map UserBadge.bit = db.userBadges.map UserBadge.bit)
    (hids : db.nextUuid ≤ db'.nextUuid) (groupId' : Uuid) :
    db'.Coherent groupId' none ∧ db'.allocation = db.allocation := by
  have hsame : db'.allocation = db.allocation := by rw [allocation, allocation, hlists, hbits]
  refine ⟨⟨hsame ▸ h.sound, ?_, ?_, by simp⟩, hsame⟩
  · change ∀ bsl ∈ db'.statusLists, bsl.Valid
    rw [hlists]
    exact h.valid
  · rw [hlists]
    exact fun bsl hbsl ↦ (h.fresh bsl hbsl).trans_le hids

/-- **A batch advances the allocation**, and no constraint on the bits aborts it. -/
theorem processBadgeAwardJobBatch_spec {job claim : Uuid} {batchSize rateLimit : ℤ}
    (h : db.Coherent groupId none) :
    Ensures (processBadgeAwardJobBatch random now job claim batchSize rateLimit db)
      (fun result ↦ result.2.Coherent groupId none
        ∧ Relation.ReflTransGen (AllocStep statusListSize) db.allocation result.2.allocation)
      DbError.SparesAllocation := by
  rw [processBadgeAwardJobBatch]
  refine (ensures_require fun _ ↦ sparesAllocation_raised _).bind fun _ _ ↦ ?_
  refine (ensures_require fun _ ↦ sparesAllocation_raised _).bind fun _ _ ↦ ?_
  cases db.claimedJob job claim with
  | none => exact sparesAllocation_raised _
  | some baj =>
    dsimp only
    split_ifs
    · refine writeAwardJob_spec.bind fun db' hdb' ↦ ?_
      obtain ⟨hcoherent, hsame⟩ :=
        h.congr hdb'.1 (congrArg (List.map UserBadge.bit) hdb'.2.1) hdb'.2.2.ge groupId
      exact ⟨hcoherent, hsame ▸ .refl⟩
    all_goals
      refine (ensures_require fun _ ↦ sparesAllocation_raised _).bind fun _ _ ↦ ?_
      have hstart := h.flush baj.groupId
      refine (ensures_foldlM (P := fun st : BatchState ↦ st.db.Coherent baj.groupId st.cursor
        ∧ Relation.ReflTransGen (AllocStep statusListSize) db.allocation
          (st.db.withCursor st.cursor).allocation) ?_ ⟨hstart, .refl⟩).bind ?_
      · rintro st recipient - ⟨hst, hrun⟩
        exact (awardRecipient_spec hst).imp fun st' hst' ↦ ⟨hst'.1, hrun.trans hst'.2⟩
      · rintro st ⟨hst, hrun⟩
        refine (flushCursor_spec.imp_error fun e ⟨_, bsl, hbsl, hinvalid⟩ ↦
          absurd (hst.cursor_valid bsl hbsl) hinvalid).bind ?_
        rintro _ rfl
        refine finishBatch_spec.imp fun result hresult ↦ ?_
        obtain ⟨hcoherent, hsame⟩ := (hst.flush groupId).congr hresult.1
          (congrArg (List.map UserBadge.bit) hresult.2.1) hresult.2.2.ge groupId
        exact ⟨hcoherent, hsame ▸ hrun⟩

/-! ## Every run -/

/-- One transaction on the badge tables. What is not a batch (new jobs, claims and retries of jobs,
revocations, listing and order of badges, accounts that come and go) writes no list and leaves the
bit of every badge as it is. -/
inductive BadgeStep : Timestamp → BadgeDatabase → BadgeDatabase → Prop
  | batch {random : Uuid → ℕ × ℕ} {now : Timestamp} {job claim : Uuid} {batchSize rateLimit : ℤ}
    {report : BatchReport} {db db' : BadgeDatabase}
    (h : processBadgeAwardJobBatch random now job claim batchSize rateLimit db
      = .ok (report, db')) :
    BadgeStep now db db'
  | other {now : Timestamp} {db db' : BadgeDatabase} (hlists : db'.statusLists = db.statusLists)
    (hbits : db'.userBadges.map UserBadge.bit = db.userBadges.map UserBadge.bit)
    (hids : db.nextUuid ≤ db'.nextUuid) : BadgeStep now db db'

/-- The badge tables before the first award. -/
def BadgeDatabase.Fresh (db : BadgeDatabase) : Prop := db.statusLists = [] ∧ db.userBadges = []

/-- The states of the badge tables, in any order of start times. -/
def BadgeDatabase.Reached (now : Timestamp) (db : BadgeDatabase) : Prop :=
  Reachable BadgeStep (fun _ _ ↦ True) BadgeDatabase.Fresh now db

theorem BadgeDatabase.Fresh.coherent (h : db.Fresh) (groupId : Uuid) :
    db.Coherent groupId none := by
  obtain ⟨hlists, hbadges⟩ := h
  refine ⟨⟨?_, ?_, ?_, ?_, ?_, ?_⟩, ?_, ?_, by simp⟩ <;>
    simp [withCursor, allocation, hlists, hbadges]

theorem BadgeDatabase.Reached.coherent (h : db.Reached now) (groupId : Uuid) :
    db.Coherent groupId none := by
  refine h.stable (fun db hdb ↦ hdb.coherent groupId) ?_
  rintro now db db' hdb hstep
  cases hstep with
  | batch hbatch => exact ((processBadgeAwardJobBatch_spec hdb).of_eq_ok hbatch).1
  | other hlists hbits hids => exact (hdb.congr hlists hbits hids groupId).1

/-- **Badge status-list allocation.** No two badges share a bit, every index is a bit of its list, a
list counts the badges issued from it, and one list of a group has room at most. A batch only takes
next bits and opens a list only for a group whose lists are all full, so a constraint on the bits
aborts none. -/
theorem BadgeDatabase.Reached.allocates (h : db.Reached now) :
    (∀ ub ∈ db.userBadges, ub.statusListIndex < statusListSize)
      ∧ (db.userBadges.map UserBadge.bit).Nodup
      ∧ (∀ bsl ∈ db.statusLists, bsl.allocationPosition ≤ statusListSize
        ∧ (db.userBadges.filter fun ub ↦ ub.badgeStatusListId = bsl.badgeStatusListId).length
          = bsl.allocationPosition)
      ∧ (∀ bsl ∈ db.statusLists, ∀ bsl' ∈ db.statusLists, bsl.groupId = bsl'.groupId →
        bsl ≠ bsl' → bsl.allocationPosition = statusListSize
          ∨ bsl'.allocationPosition = statusListSize)
      ∧ ∀ (random : Uuid → ℕ × ℕ) (now : Timestamp) (job claim : Uuid) (batchSize rateLimit : ℤ),
        Ensures (processBadgeAwardJobBatch random now job claim batchSize rateLimit db)
          (fun result ↦ Relation.ReflTransGen (AllocStep statusListSize) db.allocation
            result.2.allocation)
          DbError.SparesAllocation := by
  obtain ⟨hsound, hvalid, -, -⟩ := h.coherent 0
  have hpool : ∀ bsl ∈ db.statusLists, bsl.pool ∈ db.allocation.pools :=
    fun bsl hbsl ↦ List.mem_map_of_mem hbsl
  refine ⟨?_, hsound.issued_nodup, ?_, ?_, ?_⟩
  · exact fun ub hub ↦ hsound.issued_lt (List.mem_map_of_mem hub)
  · intro bsl hbsl
    refine ⟨(hvalid bsl hbsl).2.1, ?_⟩
    have hcount := hsound.count (hpool bsl hbsl)
    rw [allocation, List.filter_map, List.length_map] at hcount
    exact hcount
  · intro bsl hbsl bsl' hbsl' hgroup hne
    by_contra hroom
    rw [not_or] at hroom
    have hle := (hvalid bsl hbsl).2.1
    have hle' := (hvalid bsl' hbsl').2.1
    have hsame := hsound.room _ (hpool bsl hbsl) _ (hpool bsl' hbsl') hgroup
      (lt_of_le_of_ne hle hroom.1) (lt_of_le_of_ne hle' hroom.2)
    exact hne (eq_of_key_eq (h.coherent 0).keys hbsl hbsl' (congrArg Pool.id hsame))
  · intro random now job claim batchSize rateLimit
    exact (processBadgeAwardJobBatch_spec (h.coherent 0)).imp fun _ hresult ↦ hresult.2

/-- A claimed job for two recipients, before the first award. -/
def sampleAwardJob : BadgeAwardJob where
  badgeAwardJobId := 1
  acceptedCount := 2
  awardedCount := 0
  badgeSnapshot := "badge"
  createdAt := 0
  failureCount := 0
  groupId := 1
  nextAttemptAt := 0
  nextRecipientOffset := 0
  recipientCount := 2
  skippedCount := 0
  status := .processing
  badgeId := some 1
  claimId := some 1
  claimedAt := some 0
  completedAt := none
  error := none
  eventId := none

def sampleBadgeDatabase : BadgeDatabase where
  statusLists := []
  userBadges := []
  jobs := [sampleAwardJob]
  recipients := [⟨1, 0, some 1⟩, ⟨1, 1, some 2⟩]
  users := [1, 2]
  nextUuid := 10

theorem BadgeDatabase.Reached.allocates_sample :
    ∃ db : BadgeDatabase, db.Reached 0 ∧ db.userBadges.length = 2
      ∧ (db.userBadges.map UserBadge.bit).Nodup := by
  have hbatch : Ensures (processBadgeAwardJobBatch (fun _ ↦ (131071, 5)) 0 1 1 25 500
      sampleBadgeDatabase) (fun result ↦ result.2.userBadges.length = 2) (fun _ ↦ False) := by
    decide +kernel
  obtain ⟨⟨report, db⟩, hdb, hlength⟩ := hbatch.exists_ok
  have hreached : db.Reached 0 := (Reachable.start ⟨rfl, rfl⟩).step (.batch hdb)
  exact ⟨db, hreached, hlength, (BadgeDatabase.Reached.allocates hreached).2.1⟩

end Ocg
