import Ocg.Ledger.Work

/-!
# What work functions do to their rows

No work function adds, drops or reorders a row. It rewrites some of them, and what may become of a
row is the same for all: the order stays, a finished row is never touched again, and a claim is only
ever gained under an identifier that has just been issued. `KeepsWork` says so for the whole table.
-/

namespace Ocg

open Relational

variable {δ : Type} {now : Timestamp} {texts : WorkTexts}

namespace WorkStatus

def IsDone : WorkStatus → Prop
  | .done _ _ _ => True
  | _ => False

instance decidableIsDone : (status : WorkStatus) → Decidable status.IsDone
  | .done _ _ _ => isTrue trivial
  | .pending | .failed | .processing _ _ => isFalse id

theorem isDone_iff {status : WorkStatus} :
    status.IsDone ↔ ∃ completedAt object recovery, status = .done completedAt object recovery := by
  cases status <;> simp [IsDone]

theorem isClaimedBy_iff {status : WorkStatus} {claimId : Uuid} :
    status.IsClaimedBy claimId ↔ ∃ claimedAt, status = .processing claimId claimedAt := by
  cases status <;> simp [IsClaimedBy]

theorem isStale_iff {status : WorkStatus} :
    status.IsStale now ↔ ∃ claimId claimedAt, status = .processing claimId claimedAt
      ∧ claimedAt < now - minutes 15 := by
  cases status <;> simp [IsStale]

end WorkStatus

/-- What may become of a row while the identifiers from `first` up to `next` are issued. -/
structure WorkItem.Continues (first next : Uuid) (new old : WorkItem δ) : Prop where
  id : new.id = old.id
  order : new.order = old.order
  attempts : old.attemptCount ≤ 10 → new.attemptCount ≤ 10
  done : old.status.IsDone → new = old
  claim : ∀ claimId, new.status.IsClaimedBy claimId →
    old.status.IsClaimedBy claimId ∨ (first ≤ claimId ∧ claimId < next)

namespace WorkItem.Continues

variable {first mid next : Uuid} {w w' w'' : WorkItem δ}

theorem refl (w : WorkItem δ) : w.Continues first next w :=
  ⟨rfl, rfl, fun hle ↦ hle, fun _ ↦ rfl, fun _ ↦ .inl⟩

theorem trans (hfirst : first ≤ mid) (hnext : mid ≤ next) (h : w'.Continues first mid w)
    (h' : w''.Continues mid next w') : w''.Continues first next w := by
  refine ⟨h'.id.trans h.id, h'.order.trans h.order, fun hle ↦ h'.attempts (h.attempts hle), ?_, ?_⟩
  · intro hdone
    have hsame := h.done hdone
    exact (h'.done (hsame ▸ hdone)).trans hsame
  · intro claimId hclaimed
    obtain hclaimed | ⟨hle, hlt⟩ := h'.claim claimId hclaimed
    · obtain hclaimed | ⟨hle, hlt⟩ := h.claim claimId hclaimed
      · exact .inl hclaimed
      · exact .inr ⟨hle, hlt.trans_le hnext⟩
    · exact .inr ⟨hfirst.trans hle, hlt⟩

/-- A row that takes a status which is neither finished nor claimed. -/
theorem of_idle {new : WorkItem δ} (hid : new.id = w.id) (horder : new.order = w.order)
    (hattempts : w.attemptCount ≤ 10 → new.attemptCount ≤ 10) (hopen : ¬ w.status.IsDone)
    (hidle : ∀ claimId, ¬ new.status.IsClaimedBy claimId) : new.Continues first next w :=
  ⟨hid, horder, hattempts, fun hdone ↦ absurd hdone hopen,
    fun claimId hclaimed ↦ absurd hclaimed (hidle claimId)⟩

end WorkItem.Continues

/-! ## Tables -/

/-- Row by row, in their order, the table continues. -/
def KeepsWork (first next : Uuid) (rows rows' : List (WorkItem δ)) : Prop :=
  ∃ f : WorkItem δ → WorkItem δ, rows' = rows.map f ∧ ∀ w ∈ rows, (f w).Continues first next w

namespace KeepsWork

variable {first mid next : Uuid} {rows rows' rows'' : List (WorkItem δ)}

theorem refl (rows : List (WorkItem δ)) : KeepsWork first next rows rows :=
  ⟨id, (List.map_id rows).symm, fun w _ ↦ .refl w⟩

theorem trans (hfirst : first ≤ mid) (hnext : mid ≤ next) (h : KeepsWork first mid rows rows')
    (h' : KeepsWork mid next rows' rows'') : KeepsWork first next rows rows'' := by
  obtain ⟨f, rfl, hf⟩ := h
  obtain ⟨g, rfl, hg⟩ := h'
  refine ⟨g ∘ f, List.map_map, fun w hw ↦ ?_⟩
  exact (hf w hw).trans hfirst hnext (hg (f w) (List.mem_map_of_mem hw))

theorem map_eq {β : Type} (h : KeepsWork first next rows rows') (col : WorkItem δ → β)
    (hcol : ∀ new old : WorkItem δ, new.Continues first next old → col new = col old) :
    rows'.map col = rows.map col := by
  obtain ⟨f, rfl, hf⟩ := h
  rw [List.map_map]
  exact List.map_congr_left fun w hw ↦ hcol _ _ (hf w hw)

theorem map_id_eq (h : KeepsWork first next rows rows') :
    rows'.map WorkItem.id = rows.map WorkItem.id :=
  h.map_eq WorkItem.id fun _ _ hcontinues ↦ hcontinues.id

theorem exists_of_mem (h : KeepsWork first next rows rows') {new : WorkItem δ}
    (hnew : new ∈ rows') :
    ∃ old ∈ rows, new.Continues first next old := by
  obtain ⟨f, rfl, hf⟩ := h
  obtain ⟨old, hold, rfl⟩ := List.mem_map.1 hnew
  exact ⟨old, hold, hf old hold⟩

theorem stays (h : KeepsWork first next rows rows') {old : WorkItem δ} (hold : old ∈ rows) :
    ∃ new ∈ rows', new.Continues first next old := by
  obtain ⟨f, rfl, hf⟩ := h
  exact ⟨f old, List.mem_map_of_mem hold, hf old hold⟩

theorem replace {w new : WorkItem δ} (hkeys : (rows.map WorkItem.id).Nodup) (hw : w ∈ rows)
    (hnew : new.Continues first next w) :
    KeepsWork first next rows (replaceRow WorkItem.id new rows) := by
  refine ⟨_, rfl, fun row hrow ↦ ?_⟩
  by_cases hid : row.id = new.id
  · rw [if_pos hid, eq_of_key_eq hkeys hrow hw (hid.trans hnew.id)]
    exact hnew
  · rw [if_neg hid]
    exact .refl row

theorem update {selected : WorkItem δ → Prop} [DecidablePred selected]
    {f : WorkItem δ → WorkItem δ}
    (hf : ∀ w ∈ rows, selected w → (f w).Continues first next w) :
    KeepsWork first next rows (updateWhere selected f rows) := by
  refine ⟨_, rfl, fun row hrow ↦ ?_⟩
  by_cases hselected : selected row
  · rw [if_pos hselected]
    exact hf row hrow hselected
  · rw [if_neg hselected]
    exact .refl row

end KeepsWork

/-! ## The functions -/

section Functions

variable {rows rows' : List (WorkItem δ)} {item claimId : Uuid}

theorem WorkItem.not_done_of_stale {w : WorkItem δ} (h : w.status.IsStale now) :
    ¬ w.status.IsDone := by
  obtain ⟨claimId, claimedAt, hstatus, -⟩ := WorkStatus.isStale_iff.1 h
  rw [hstatus]
  exact fun hdone ↦ hdone

theorem WorkItem.surfaceFinal_continues {first next : Uuid} {w : WorkItem δ}
    (h : w.status.IsStale now) : (w.surfaceFinal texts).Continues first next w :=
  .of_idle rfl rfl (fun hle ↦ hle) (not_done_of_stale h) fun _ hclaimed ↦ hclaimed

theorem WorkItem.releaseStale_continues {first next : Uuid} {w : WorkItem δ}
    (h : w.status.IsStale now) : (w.releaseStale texts now).Continues first next w :=
  .of_idle rfl rfl (fun hle ↦ hle) (not_done_of_stale h) fun _ hclaimed ↦ hclaimed

theorem WorkItem.claim_continues {w : WorkItem δ} (h : w.IsClaimable now) :
    (w.claim now claimId).Continues claimId (claimId + 1) w := by
  obtain ⟨hfew, hdue⟩ := h
  refine ⟨rfl, rfl, fun _ ↦ hfew, fun hdone ↦ ?_, fun c hc ↦ ?_⟩
  · obtain ⟨hstatus, -⟩ | hstale := hdue
    · obtain ⟨completedAt, object, recovery, hsame⟩ := WorkStatus.isDone_iff.1 hdone
      simp [hsame] at hstatus
    · exact absurd hdone (not_done_of_stale hstale)
  · have hsame : claimId = c := hc
    exact .inr ⟨hsame.le, hsame ▸ Nat.lt_succ_self claimId⟩

theorem claimWork_keeps {inScope eligible hasContext : δ → Prop} [DecidablePred inScope]
    [DecidablePred eligible] [DecidablePred hasContext] {locked : Uuid → Bool}
    {claimed : Option (WorkItem δ)} (hkeys : (rows.map WorkItem.id).Nodup)
    (h : claimWork locked texts inScope eligible hasContext now claimId rows
      = .ok (claimed, rows')) :
    KeepsWork claimId (claimId + 1) rows rows' := by
  rw [claimWork] at h
  have hswept (first next : Uuid) : KeepsWork first next rows (updateWhere
      (fun w ↦ inScope w.order ∧ 10 ≤ w.attemptCount ∧ w.status.IsStale now)
      (WorkItem.surfaceFinal texts) rows) :=
    .update fun w _ hselected ↦ w.surfaceFinal_continues hselected.2.2
  split at h
  · obtain ⟨-, rfl⟩ := Prod.mk.inj (Except.ok.inj h)
    exact hswept _ _
  · next w hfind =>
    simp only [bind_eq_ok, Except.ok.injEq, Prod.mk.injEq] at h
    obtain ⟨-, -, -, rfl⟩ := h
    obtain ⟨hw, hselected⟩ := List.mem_filter.1 (firstBy_mem hfind)
    simp only [decide_eq_true_eq] at hselected
    refine (hswept _ _).trans le_rfl (Nat.le_succ claimId)
      (.replace ?_ hw (w.claim_continues hselected.2.1))
    rw [(hswept claimId claimId).map_id_eq]
    exact hkeys

/-- A claim fails only on an eligible row without its context. -/
theorem exists_claimWork {inScope eligible hasContext : δ → Prop} [DecidablePred inScope]
    [DecidablePred eligible] [DecidablePred hasContext] {locked : Uuid → Bool}
    (hcontext : ∀ w ∈ rows, eligible w.order → hasContext w.order) :
    ∃ result, claimWork locked texts inScope eligible hasContext now claimId rows = .ok result := by
  rw [claimWork]
  split
  · exact ⟨_, rfl⟩
  · next w hfind =>
    obtain ⟨hw, hselected⟩ := List.mem_filter.1 (firstBy_mem hfind)
    simp only [decide_eq_true_eq] at hselected
    have hhas : hasContext w.order := by
      obtain ⟨row, hrow, -, rfl⟩ | ⟨hrow, -⟩ := mem_updateWhere.1 hw
      · exact hcontext row hrow hselected.1
      · exact hcontext w hrow hselected.1
    rw [require_of hhas]
    exact ⟨_, rfl⟩

theorem recordWorkSucceeded_keeps {providerObjectId : Option String} {first next : Uuid}
    (hkeys : (rows.map WorkItem.id).Nodup)
    (h : recordWorkSucceeded texts now item claimId providerObjectId rows = .ok rows') :
    KeepsWork first next rows rows' := by
  rw [recordWorkSucceeded, bind_eq_ok] at h
  obtain ⟨-, -, h⟩ := h
  split at h
  · cases h
  · next w hfind =>
    split at h
    · simp only [bind_eq_ok, Except.ok.injEq] at h
      obtain ⟨-, -, rfl⟩ := h
      exact .refl rows
    · next current claimedAt hstatus =>
      simp only [bind_eq_ok, Except.ok.injEq] at h
      obtain ⟨-, -, rfl⟩ := h
      refine .replace hkeys (List.mem_of_find?_eq_some hfind) (.of_idle rfl rfl id ?_ fun _ ↦ id)
      rw [hstatus]
      exact id
    · cases h

theorem recordWorkFailure_keeps {failureMessage : Option String} {first next : Uuid}
    (hkeys : (rows.map WorkItem.id).Nodup)
    (h : recordWorkFailure texts now item claimId failureMessage rows = .ok rows') :
    KeepsWork first next rows rows' := by
  rw [recordWorkFailure] at h
  split at h
  · cases h
  · next w hfind =>
    obtain rfl := Except.ok.inj h
    have hselected := List.find?_some hfind
    simp only [decide_eq_true_eq] at hselected
    obtain ⟨claimedAt, hstatus⟩ := WorkStatus.isClaimedBy_iff.1 hselected.2
    refine .replace hkeys (List.mem_of_find?_eq_some hfind) (.of_idle rfl rfl id ?_ fun _ ↦ id)
    rw [hstatus]
    exact id

theorem requeueWork_keeps {inGroup : Prop} [Decidable inGroup] {first next : Uuid}
    (hkeys : (rows.map WorkItem.id).Nodup)
    (h : requeueWork texts inGroup now item rows = .ok rows') :
    KeepsWork first next rows rows' := by
  rw [requeueWork] at h
  split at h
  · cases h
  · next w hfind =>
    obtain rfl := Except.ok.inj h
    have hselected := List.find?_some hfind
    simp only [decide_eq_true_eq] at hselected
    obtain ⟨-, -, hstatus, -⟩ := hselected
    refine .replace hkeys (List.mem_of_find?_eq_some hfind)
      (.of_idle rfl rfl (fun _ ↦ Nat.zero_le 10) ?_ fun _ ↦ id)
    rw [hstatus]
    exact id

theorem requeueStaleWork_keeps {first next : Uuid} :
    KeepsWork first next rows (requeueStaleWork texts now rows).2 :=
  .update fun w _ hselected ↦ w.releaseStale_continues hselected

theorem completeWorkRecovery_keeps {inGroup mayWrite : Uuid → Prop} [DecidablePred inGroup]
    [DecidablePred mayWrite] {evidence : WorkEvidence} {first next : Uuid}
    (hkeys : (rows.map WorkItem.id).Nodup)
    (h : completeWorkRecovery texts inGroup mayWrite now item evidence rows = .ok rows') :
    KeepsWork first next rows rows' := by
  rw [completeWorkRecovery] at h
  split at h
  · cases h
  · cases h
  · simp only [bind_eq_ok] at h
    obtain ⟨-, -, -, -, -, -, h⟩ := h
    split at h
    · cases h
    · next w hfind =>
      rw [bind_eq_ok] at h
      obtain ⟨-, -, h⟩ := h
      split at h
      · simp only [bind_eq_ok, Except.ok.injEq] at h
        obtain ⟨-, -, rfl⟩ := h
        exact .refl rows
      · next hstatus =>
        simp only [bind_eq_ok, Except.ok.injEq] at h
        obtain ⟨-, -, rfl⟩ := h
        refine .replace hkeys (List.mem_of_find?_eq_some hfind) (.of_idle rfl rfl id ?_ fun _ ↦ id)
        rw [hstatus]
        exact id
      · cases h

/-! ## Reports under a claim that is not current -/

/-- A success is accepted on the current claim, or repeats what is already stored. -/
theorem recordWorkSucceeded_of_stale {providerObjectId : Option String}
    (hstale : ∀ w ∈ rows, w.id = item → ¬ w.status.IsClaimedBy claimId)
    (h : recordWorkSucceeded texts now item claimId providerObjectId rows = .ok rows') :
    rows' = rows := by
  rw [recordWorkSucceeded, bind_eq_ok] at h
  obtain ⟨-, -, h⟩ := h
  split at h
  · cases h
  · next w hfind =>
    have hselected := List.find?_some hfind
    simp only [decide_eq_true_eq] at hselected
    split at h
    · simp only [bind_eq_ok, Except.ok.injEq] at h
      obtain ⟨-, -, rfl⟩ := h
      rfl
    · next current claimedAt hstatus =>
      simp only [bind_eq_ok, require_eq_ok] at h
      obtain ⟨-, hcurrent, -⟩ := h
      refine absurd ?_ (hstale w (List.mem_of_find?_eq_some hfind) hselected)
      rw [hstatus]
      exact hcurrent
    · cases h

theorem recordWorkFailure_of_stale {failureMessage : Option String}
    (hstale : ∀ w ∈ rows, w.id = item → ¬ w.status.IsClaimedBy claimId) :
    recordWorkFailure texts now item claimId failureMessage rows
      = .error (.raised texts.claimIsStale) := by
  rw [recordWorkFailure]
  split
  · rfl
  · next w hfind =>
    have hselected := List.find?_some hfind
    simp only [decide_eq_true_eq] at hselected
    exact absurd hselected.2 (hstale w (List.mem_of_find?_eq_some hfind) hselected.1)

end Functions

end Ocg
