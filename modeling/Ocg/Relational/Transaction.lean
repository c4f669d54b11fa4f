import Mathlib.Logic.Relation
import Mathlib.Data.List.Basic
import Mathlib.Tactic.Common

/-!
# Statements that may raise

A stored procedure is a function into `Except ε`: an exception aborts the transaction, so the state
before it is kept by whoever called. This module gives the guard that raises unless a condition
holds, the inversion of a sequence of statements that committed, and the induction rules for loops
over rows: what every iteration preserves the loop preserves, and a loop whose remaining work is
described by its remaining rows commits.
-/

namespace Relational

universe u

variable {ε : Type*} {α β σ : Type u}

/-- `if not condition then raise`. -/
def require (condition : Prop) [Decidable condition] (err : ε) : Except ε Unit :=
  if condition then .ok () else .error err

@[simp] theorem require_eq_ok {condition : Prop} [Decidable condition] {err : ε} {u : Unit} :
    require condition err = .ok u ↔ condition := by
  unfold require
  split <;> simp_all

/-- A sequence of two statements commits exactly when both do. -/
@[simp] theorem bind_eq_ok {x : Except ε α} {f : α → Except ε β} {b : β} :
    x >>= f = .ok b ↔ ∃ a, x = .ok a ∧ f a = .ok b := by
  cases x with
  | error e => simp [bind, Except.bind]
  | ok a => simp [bind, Except.bind]

theorem eq_ok_of_mem_toOption {x : Except ε α} {a : α} (h : a ∈ x.toOption) : x = .ok a := by
  cases x with
  | error e => cases h
  | ok b => exact congrArg Except.ok (Option.some.inj h)

@[simp] theorem pure_eq_ok {a b : α} : (pure a : Except ε α) = .ok b ↔ a = b := by
  simp [pure, Except.pure]

@[simp] theorem error_bind {e : ε} {f : α → Except ε β} :
    (Except.error e : Except ε α) >>= f = .error e := rfl

@[simp] theorem ok_bind {a : α} {f : α → Except ε β} :
    (Except.ok a : Except ε α) >>= f = f a := rfl

theorem exists_mapM_eq_ok (f : α → Except ε β) (rows : List α)
    (h : ∀ row ∈ rows, ∃ b, f row = .ok b) :
    ∃ results, rows.mapM f = .ok results ∧ ∀ row ∈ rows, ∀ b, f row = .ok b → b ∈ results := by
  induction rows with
  | nil => exact ⟨[], rfl, by simp⟩
  | cons row rows ih =>
    obtain ⟨b, hb⟩ := h row List.mem_cons_self
    obtain ⟨results, hresults, hmem⟩ := ih fun row' hrow' ↦ h row' (List.mem_cons_of_mem _ hrow')
    refine ⟨b :: results, by rw [List.mapM_cons, hb, ok_bind, hresults, ok_bind]; rfl, ?_⟩
    intro row' hrow' b' hb'
    obtain rfl | hrow' := List.mem_cons.1 hrow'
    · obtain rfl := Except.ok.inj (hb.symm.trans hb')
      exact List.mem_cons_self
    · exact List.mem_cons_of_mem _ (hmem row' hrow' b' hb')

theorem require_of {condition : Prop} [Decidable condition] {err : ε} (h : condition) :
    require condition err = .ok () := if_pos h

theorem forM_eq_ok {ρ : Type*} {f : ρ → Except ε PUnit} {rows : List ρ} :
    forM rows f = .ok ⟨⟩ ↔ ∀ row ∈ rows, f row = .ok ⟨⟩ := by
  induction rows with
  | nil => simp [List.forM_nil, pure, Except.pure]
  | cons row rows ih =>
    rw [List.forM_cons, bind_eq_ok, List.forall_mem_cons, ih]
    constructor
    · rintro ⟨_, hrow, hrest⟩
      exact ⟨hrow, hrest⟩
    · rintro ⟨hrow, hrest⟩
      exact ⟨⟨⟩, hrow, hrest⟩

/-! ## What a transaction promises -/

/-- A transaction that commits establishes `post`; the error of one that aborts is in `raises`. -/
def Ensures (x : Except ε α) (post : α → Prop) (raises : ε → Prop) : Prop :=
  match x with
  | .ok a => post a
  | .error e => raises e

section Ensures

variable {x : Except ε α} {f : α → Except ε β} {post : α → Prop} {post' : β → Prop}
  {raises : ε → Prop}

theorem Ensures.bind (hx : Ensures x post raises) (hf : ∀ a, post a → Ensures (f a) post' raises) :
    Ensures (x >>= f) post' raises := by
  cases x with
  | error e => exact hx
  | ok a => exact hf a hx

theorem Ensures.imp {post₂ : α → Prop} (hx : Ensures x post raises)
    (hpost : ∀ a, post a → post₂ a) : Ensures x post₂ raises := by
  cases x with
  | error e => exact hx
  | ok a => exact hpost a hx

theorem Ensures.imp_error {raises₂ : ε → Prop} (hx : Ensures x post raises)
    (hraises : ∀ e, raises e → raises₂ e) : Ensures x post raises₂ := by
  cases x with
  | error e => exact hraises e hx
  | ok a => exact hx

theorem Ensures.of_eq_ok (hx : Ensures x post raises) {a : α} (h : x = .ok a) : post a := by
  subst h
  exact hx

theorem Ensures.of_eq_error (hx : Ensures x post raises) {e : ε} (h : x = .error e) :
    raises e := by
  subst h
  exact hx

theorem Ensures.exists_ok (hx : Ensures x post fun _ ↦ False) : ∃ a, x = .ok a ∧ post a := by
  cases x with
  | error e => exact hx.elim
  | ok a => exact ⟨a, rfl, hx⟩

instance [DecidablePred post] [DecidablePred raises] : Decidable (Ensures x post raises) :=
  match x with
  | .ok a => inferInstanceAs (Decidable (post a))
  | .error e => inferInstanceAs (Decidable (raises e))

/-- A guard either holds from here on, or its error is raised. -/
theorem ensures_require {condition : Prop} [Decidable condition] {err : ε}
    (herr : ¬ condition → raises err) :
    Ensures (require condition err) (fun _ ↦ condition) raises := by
  unfold require
  by_cases h : condition
  · rw [if_pos h]
    exact h
  · rw [if_neg h]
    exact herr h

/-- **Loop invariant with errors.** -/
theorem ensures_foldlM {f : σ → α → Except ε σ} {P : σ → Prop} {rows : List α}
    (hstep : ∀ s, ∀ a ∈ rows, P s → Ensures (f s a) P raises) {s : σ} (hs : P s) :
    Ensures (rows.foldlM f s) P raises := by
  induction rows generalizing s with
  | nil => exact hs
  | cons row rows ih =>
    rw [List.foldlM_cons]
    refine (hstep s row (by simp) hs).bind fun t ht ↦ ?_
    exact ih (fun u a ha ↦ hstep u a (List.mem_cons_of_mem _ ha)) ht

end Ensures

/-! ## Loops over rows -/

/-- **Loop invariant over the rows still to come.** -/
theorem foldlM_suffix {f : σ → α → Except ε σ} {P : List α → σ → Prop} {rows : List α} {s s' : σ}
    (hstep : ∀ a rest t t', P (a :: rest) t → f t a = .ok t' → P rest t') (hs : P rows s)
    (h : rows.foldlM f s = .ok s') : P [] s' := by
  induction rows generalizing s with
  | nil =>
    simp only [List.foldlM_nil, pure_eq_ok] at h
    exact h ▸ hs
  | cons row rows ih =>
    simp only [List.foldlM_cons, bind_eq_ok] at h
    obtain ⟨t, ht, hrest⟩ := h
    exact ih (hstep row rows s t hs ht) hrest

/-- **Loop invariant over the rows that are done.** -/
theorem foldlM_prefix {f : σ → α → Except ε σ} {P : List α → σ → Prop} {rows : List α} {s s' : σ}
    (hstep : ∀ done a t t', P done t → f t a = .ok t' → P (done ++ [a]) t') (hs : P [] s)
    (h : rows.foldlM f s = .ok s') : P rows s' := by
  have hfinal := foldlM_suffix (P := fun rest t ↦ ∃ done, done ++ rest = rows ∧ P done t) ?_
    ⟨[], rfl, hs⟩ h
  · obtain ⟨done, hdone, hP⟩ := hfinal
    rw [List.append_nil] at hdone
    exact hdone ▸ hP
  · rintro a rest t t' ⟨done, hdone, hP⟩ ht
    exact ⟨done ++ [a], by simpa using hdone, hstep done a t t' hP ht⟩

/-- **Loop invariant.** What every iteration preserves, a loop that commits preserves. -/
theorem foldlM_invariant {f : σ → α → Except ε σ} {P : σ → Prop} {rows : List α} {s s' : σ}
    (hstep : ∀ t a t', a ∈ rows → P t → f t a = .ok t' → P t') (hs : P s)
    (h : rows.foldlM f s = .ok s') : P s' := by
  have hfinal := foldlM_suffix (P := fun rest t ↦ (∀ a ∈ rest, a ∈ rows) ∧ P t) ?_
    ⟨fun _ ha ↦ ha, hs⟩ h
  · exact hfinal.2
  · rintro a rest t t' ⟨hsub, hPt⟩ ht
    exact ⟨fun b hb ↦ hsub b (List.mem_cons_of_mem _ hb), hstep t a t' (hsub a (by simp)) hPt ht⟩

/-- What an iteration that commits says about its row holds for every row of a loop that does. -/
theorem foldlM_forall {f : σ → α → Except ε σ} {P : α → Prop} {rows : List α} {s s' : σ}
    (hstep : ∀ t a t', f t a = .ok t' → P a) (h : rows.foldlM f s = .ok s') :
    ∀ row ∈ rows, P row := by
  refine foldlM_prefix (P := fun done _ ↦ ∀ row ∈ done, P row) ?_ (by simp) h
  intro done a t t' hdone ha row hrow
  obtain hrow | hrow := List.mem_append.1 hrow
  · exact hdone row hrow
  · rw [List.mem_singleton.1 hrow]
    exact hstep t a t' ha

/-- **Loop progress.** When the rows still to come tell what the next iteration needs, the loop
commits. -/
theorem foldlM_ok {f : σ → α → Except ε σ} {P : List α → σ → Prop} {rows : List α} {s : σ}
    (hstep : ∀ a rest t, P (a :: rest) t → ∃ t', f t a = .ok t' ∧ P rest t') (hs : P rows s) :
    ∃ s', rows.foldlM f s = .ok s' ∧ P [] s' := by
  induction rows generalizing s with
  | nil => exact ⟨s, by simp [pure, Except.pure], hs⟩
  | cons row rows ih =>
    obtain ⟨t, ht, hPt⟩ := hstep row rows s hs
    obtain ⟨s', hs', hP⟩ := ih hPt
    exact ⟨s', by simp [List.foldlM_cons, ht, hs'], hP⟩

/-- A loop that keeps the keys it has seen, refuses a key it saw and checks each row by itself. -/
theorem foldlM_keys_eq_ok {κ : Type u} {f : List κ → α → Except ε (List κ)} {k : α → κ}
    {P : α → Prop}
    (hf : ∀ seen row seen', f seen row = .ok seen'
      ↔ k row ∉ seen ∧ P row ∧ seen' = seen ++ [k row]) {rows : List α} {seen : List κ} :
    (∃ seen', rows.foldlM f seen = .ok seen')
      ↔ (rows.map k).Nodup ∧ (∀ row ∈ rows, k row ∉ seen) ∧ ∀ row ∈ rows, P row := by
  induction rows generalizing seen with
  | nil => simp
  | cons row rows ih =>
    rw [List.foldlM_cons, List.map_cons, List.nodup_cons, List.forall_mem_cons,
      List.forall_mem_cons]
    constructor
    · rintro ⟨final, hfinal⟩
      obtain ⟨seen', hrow, hrest⟩ := bind_eq_ok.1 hfinal
      obtain ⟨hnew, hgood, rfl⟩ := (hf _ _ _).1 hrow
      obtain ⟨hnodup, hseen, hall⟩ := ih.1 ⟨final, hrest⟩
      refine ⟨⟨?_, hnodup⟩, ⟨hnew, ?_⟩, hgood, hall⟩
      · intro hmem
        obtain ⟨other, hother, heq⟩ := List.mem_map.1 hmem
        apply hseen other hother
        rw [heq]
        exact List.mem_append_right _ List.mem_cons_self
      · intro other hother hmem
        exact hseen other hother (List.mem_append_left _ hmem)
    · rintro ⟨⟨hfirst, hnodup⟩, ⟨hnew, hseen⟩, hgood, hall⟩
      have hrest : ∀ other ∈ rows, k other ∉ seen ++ [k row] := by
        intro other hother hmem
        obtain hmem | hmem := List.mem_append.1 hmem
        · exact hseen other hother hmem
        · rw [List.mem_singleton] at hmem
          exact hfirst (List.mem_map.2 ⟨other, hother, hmem⟩)
      obtain ⟨final, hfinal⟩ := ih.2 ⟨hnodup, hrest, hall⟩
      exact ⟨final, bind_eq_ok.2 ⟨_, (hf _ _ _).2 ⟨hnew, hgood, rfl⟩, hfinal⟩⟩

end Relational
