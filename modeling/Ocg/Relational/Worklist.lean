import Mathlib
import Ocg.Relational.Table
import Ocg.Relational.Transaction

/-!
# Working off due rows one at a time

A background worker repeats one transaction: pick the first row in key order that is due and that no
other session has locked, work on it, and commit. The rules below say what a sequence of such calls
does when the work, once committed, leaves its row no longer due: no row is served twice, the rows
not served are untouched, and a row that nobody locks waits at most for the due rows before it.

The notion of being due and the work are parameters. A call that raises changes nothing and is not
counted.
-/

namespace Relational

universe u

variable {ρ κ : Type u} {ε : Type*} [LinearOrder κ]

/-! ## The first row in key order -/

theorem firstBy_key_le {key : ρ → κ} {rows : List ρ} {r : ρ}
    (h : firstBy (fun row row' ↦ decide (key row < key row')) rows = some r) :
    ∀ row ∈ rows, key r ≤ key row := by
  induction rows generalizing r with
  | nil => simp
  | cons first rows ih =>
    rw [firstBy] at h
    split at h
    · next hrest =>
      obtain rfl := Option.some.inj h
      obtain rfl := firstBy_eq_none.1 hrest
      simp
    · next best hrest =>
      have hbest := ih hrest
      intro row hrow
      split at h <;> next hlt =>
        simp only [decide_eq_true_eq] at hlt
        obtain rfl := Option.some.inj h
        rcases List.mem_cons.1 hrow with rfl | hrow
        · first | exact hlt.le | exact le_rfl
        · first | exact hbest row hrow | exact (not_lt.1 hlt).trans (hbest row hrow)

/-! ## One call -/

section Worklist

variable (key : ρ → κ) (due : ρ → Prop) [DecidablePred due] (work : ρ → Except ε ρ)

/-- `ORDER BY key FOR UPDATE SKIP LOCKED LIMIT 1`, and the work on the row it finds. The result
names the row that was served, if there was one. -/
def workNext (locked : List κ) (rows : List ρ) : Except ε (Option κ × List ρ) :=
  match firstBy (fun row row' ↦ decide (key row < key row'))
      (rows.filter fun row ↦ key row ∉ locked ∧ due row) with
  | none => .ok (none, rows)
  | some row => do
    let row' ← work row
    .ok (some (key row), replaceRow key row' rows)

/-- The calls of a worker. `results` lists what each committed call returned, and `mayLock` are the
keys that other sessions may hold locked. -/
inductive Worked (mayLock : κ → Prop) (rows : List ρ) : List (Option κ) → List ρ → Prop
  | refl : Worked mayLock rows [] rows
  | call {results : List (Option κ)} {rows' rows'' : List ρ} {locked : List κ} {served : Option κ}
    (h : Worked mayLock rows results rows') (hlocked : ∀ k ∈ locked, mayLock k)
    (hcall : workNext key due work locked rows' = .ok (served, rows'')) :
    Worked mayLock rows (results ++ [served]) rows''
  | abort {results : List (Option κ)} {rows' : List ρ} {locked : List κ} {e : ε}
    (h : Worked mayLock rows results rows') (hlocked : ∀ k ∈ locked, mayLock k)
    (hcall : workNext key due work locked rows' = .error e) : Worked mayLock rows results rows'

variable {key due work} {locked : List κ} {rows rows' : List ρ}

theorem workNext_eq_none (h : workNext key due work locked rows = .ok (none, rows')) :
    rows' = rows ∧ ∀ row ∈ rows, due row → key row ∈ locked := by
  unfold workNext at h
  split at h
  · next hnone =>
    simp only [Except.ok.injEq, Prod.mk.injEq, true_and] at h
    refine ⟨h.symm, fun row hrow hdue ↦ ?_⟩
    have := List.filter_eq_nil_iff.1 (firstBy_eq_none.1 hnone) row hrow
    simpa [hdue] using this
  · simp at h

theorem workNext_eq_some {k : κ} (h : workNext key due work locked rows = .ok (some k, rows')) :
    ∃ row ∈ rows, ∃ row', key row = k ∧ k ∉ locked ∧ due row ∧ work row = .ok row'
      ∧ rows' = replaceRow key row' rows
      ∧ ∀ other ∈ rows, due other → key other ∉ locked → k ≤ key other := by
  unfold workNext at h
  split at h
  · simp at h
  · next row hfirst =>
    simp only [bind_eq_ok, Except.ok.injEq, Prod.mk.injEq, Option.some.injEq] at h
    obtain ⟨row', hwork, rfl, rfl⟩ := h
    have hmem := List.mem_filter.1 (firstBy_mem hfirst)
    have hselected := of_decide_eq_true hmem.2
    refine ⟨row, hmem.1, row', rfl, hselected.1, hselected.2, hwork, rfl,
      fun other hother hdue hfree ↦ ?_⟩
    exact firstBy_key_le hfirst other (List.mem_filter.2 ⟨hother, decide_eq_true ⟨hfree, hdue⟩⟩)

/-! ## A sequence of calls -/

variable {mayLock : κ → Prop} {results : List (Option κ)}

/-- What a sequence of calls has done: every served row was due and is due no more, and the others
are as they were. -/
structure WorkedOff (key : ρ → κ) (due : ρ → Prop) (rows : List ρ) (served : List κ)
    (rows' : List ρ) : Prop where
  once : served.Nodup
  keys : rows'.map key = rows.map key
  wasDue : ∀ k ∈ served, ∃ row ∈ rows, key row = k ∧ due row
  settled : ∀ row ∈ rows', key row ∈ served → ¬ due row
  untouched : ∀ row, key row ∉ served → (row ∈ rows' ↔ row ∈ rows)

omit [DecidablePred due] in
theorem WorkedOff.serve {served : List κ} (h : WorkedOff key due rows served rows') {row row' : ρ}
    (hrow : row ∈ rows') (hdue : due row) (hkey : key row' = key row) (hsettled : ¬ due row') :
    WorkedOff key due rows (served ++ [key row]) (replaceRow key row' rows') := by
  have hnew : key row ∉ served := fun hmem ↦ h.settled row hrow hmem hdue
  refine ⟨?_, ?_, fun k hk ↦ ?_, fun other hother hmem ↦ ?_, fun other hnot ↦ ?_⟩
  · rw [List.nodup_append]
    refine ⟨h.once, by simp, fun k hk k' hk' heq ↦ hnew ?_⟩
    rwa [← List.mem_singleton.1 hk', ← heq]
  · rw [map_key_replaceRow, h.keys]
  · rcases List.mem_append.1 hk with hk | hk
    · exact h.wasDue k hk
    · rw [List.mem_singleton.1 hk]
      exact ⟨row, (h.untouched row hnew).1 hrow, rfl, hdue⟩
  · rcases mem_replaceRow hother with rfl | ⟨hother, hne⟩
    · exact hsettled
    · rcases List.mem_append.1 hmem with hmem | hmem
      · exact h.settled other hother hmem
      · exact absurd ((List.mem_singleton.1 hmem).trans hkey.symm) hne
  · simp only [List.mem_append, List.mem_singleton, not_or] at hnot
    rw [← h.untouched other hnot.1, mem_replaceRow_iff hrow hkey.symm]
    constructor
    · rintro (rfl | ⟨hother, -⟩)
      · exact absurd hkey hnot.2
      · exact hother
    · exact fun hother ↦ .inr ⟨hother, fun heq ↦ hnot.2 (heq.trans hkey)⟩

section Settling

variable (hwork : ∀ row ∈ rows, ∀ row', work row = .ok row' → key row' = key row ∧ ¬ due row')
include hwork

/-- **Each due row is served at most once.** -/
theorem Worked.workedOff (h : Worked key due work mayLock rows results rows') :
    WorkedOff key due rows results.reduceOption rows' := by
  induction h with
  | refl => exact ⟨List.nodup_nil, rfl, by simp, by simp, by simp⟩
  | abort _ _ _ ih => exact ih
  | @call results rows' rows'' locked served _ _ hcall ih =>
    rw [List.reduceOption_append]
    cases served with
    | none =>
      obtain ⟨rfl, -⟩ := workNext_eq_none hcall
      simpa using ih
    | some k =>
      obtain ⟨row, hrow, row', rfl, -, hdue, hrun, rfl, -⟩ := workNext_eq_some hcall
      have hinit : row ∈ rows :=
        (ih.untouched row fun hmem ↦ ih.settled row hrow hmem hdue).1 hrow
      obtain ⟨hkey, hsettled⟩ := hwork row hinit row' hrun
      exact ih.serve hrow hdue hkey hsettled

theorem Worked.before (h : Worked key due work mayLock rows results rows') {row : ρ}
    (hrow : row ∈ rows) (hdue : due row) (hfree : ¬ mayLock (key row))
    (hwaits : some (key row) ∉ results) : ∀ served ∈ results, ∃ k ∈ served, k < key row := by
  induction h with
  | refl => simp
  | abort _ _ _ ih => exact ih hwaits
  | @call results rows' rows'' locked served hrun hlocked hcall ih =>
    simp only [List.mem_append, List.mem_singleton, not_or] at hwaits
    have hmem : row ∈ rows' := by
      refine ((hrun.workedOff hwork).untouched row fun hserved ↦ hwaits.1 ?_).2 hrow
      exact List.reduceOption_mem_iff.1 hserved
    have hunlocked : key row ∉ locked := fun hmem ↦ hfree (hlocked _ hmem)
    intro result hresult
    rcases List.mem_append.1 hresult with hresult | hresult
    · exact ih hwaits.1 result hresult
    · rw [List.mem_singleton.1 hresult]
      cases served with
      | none => exact absurd ((workNext_eq_none hcall).2 row hmem hdue) hunlocked
      | some k =>
        obtain ⟨-, -, -, -, -, -, -, -, hfirst⟩ := workNext_eq_some hcall
        exact ⟨k, rfl, lt_of_le_of_ne (hfirst row hmem hdue hunlocked) fun heq ↦
          hwaits.2 (heq ▸ rfl)⟩

/-- **No due row starves**: one that nobody locks is served before there have been more committed
calls than there are due rows before it. -/
theorem Worked.length_le (h : Worked key due work mayLock rows results rows') {row : ρ}
    (hrow : row ∈ rows) (hdue : due row) (hfree : ¬ mayLock (key row))
    (hwaits : some (key row) ∉ results) :
    results.length ≤ (rows.filter fun other ↦ due other ∧ key other < key row).length := by
  have hbefore := h.before hwork hrow hdue hfree hwaits
  have hall : results.reduceOption.length = results.length :=
    List.reduceOption_length_eq_iff.2 fun served hserved ↦ by
      obtain ⟨k, hk, -⟩ := hbefore served hserved
      exact Option.isSome_of_mem hk
  have hoff := h.workedOff hwork
  rw [← hall, ← List.length_map key]
  refine (List.subperm_of_subset hoff.once fun k hk ↦ ?_).length_le
  obtain ⟨other, hother, hkey, hdue'⟩ := hoff.wasDue k hk
  obtain ⟨k', hk', hlt⟩ := hbefore (some k) (List.reduceOption_mem_iff.1 hk)
  obtain rfl := Option.some.inj hk'
  refine List.mem_map.2 ⟨other, List.mem_filter.2 ⟨hother, decide_eq_true ⟨hdue', ?_⟩⟩, hkey⟩
  rwa [hkey]

end Settling

end Worklist

end Relational
