import Ocg.Relational.Transaction

/-!
# Runs of transactions

A run is a sequence of committed transactions, each with the time at which it started. The order in
which transactions commit is the order of the run; which start times may follow one another is a
parameter, so that the same rules serve a history in which time only moves on and one in which a
transaction may commit before another that started earlier.

`Reachable.invariant` is the induction over a run. `reachable_of_replay` turns the evaluation of a
concrete script into a run.
-/

namespace Relational

universe u

variable {τ : Type*} {op ε : Type*} {σ : Type u}

/-- The states reached from `init` by steps whose start times follow `next`. Time may also pass
without a step. -/
inductive Reachable (step : τ → σ → σ → Prop) (next : τ → τ → Prop) (init : σ → Prop) :
    τ → σ → Prop
  | start {t : τ} {s : σ} (hinit : init s) : Reachable step next init t s
  | wait {t t' : τ} {s : σ} (h : Reachable step next init t s) (hnext : next t t') :
    Reachable step next init t' s
  | step {t : τ} {s s' : σ} (h : Reachable step next init t s) (hstep : step t s s') :
    Reachable step next init t s'

/-- What a run reaches from `s₀` at the time `t₀` on. -/
inductive Continues (step : τ → σ → σ → Prop) (next : τ → τ → Prop) (t₀ : τ) (s₀ : σ) :
    τ → σ → Prop
  | refl : Continues step next t₀ s₀ t₀ s₀
  | wait {t t' : τ} {s : σ} (h : Continues step next t₀ s₀ t s) (hnext : next t t') :
    Continues step next t₀ s₀ t' s
  | step {t : τ} {s s' : σ} (h : Continues step next t₀ s₀ t s) (hstep : step t s s') :
    Continues step next t₀ s₀ t s'

section Invariants

variable {step step' : τ → σ → σ → Prop} {next next' : τ → τ → Prop} {init : σ → Prop}

/-- **Invariant rule.** -/
theorem Reachable.invariant {P : τ → σ → Prop} {t : τ} {s : σ}
    (h : Reachable step next init t s) (hinit : ∀ t s, init s → P t s)
    (hwait : ∀ t t' s, next t t' → P t s → P t' s)
    (hstep : ∀ t s s', P t s → step t s s' → P t s') : P t s := by
  induction h with
  | start hs => exact hinit _ _ hs
  | wait _ hnext ih => exact hwait _ _ _ hnext ih
  | step _ hs ih => exact hstep _ _ _ ih hs

/-- The invariant rule for what does not depend on the time. -/
theorem Reachable.stable {P : σ → Prop} {t : τ} {s : σ} (h : Reachable step next init t s)
    (hinit : ∀ s, init s → P s) (hstep : ∀ t s s', P s → step t s s' → P s') : P s :=
  h.invariant (P := fun _ ↦ P) (fun _ ↦ hinit) (fun _ _ _ _ hs ↦ hs) hstep

theorem Reachable.mono {t : τ} {s : σ} (h : Reachable step next init t s)
    (hnext : ∀ t t', next t t' → next' t t') (hstep : ∀ t s s', step t s s' → step' t s s') :
    Reachable step' next' init t s :=
  h.invariant (fun _ _ ↦ .start) (fun _ _ _ hle hs ↦ hs.wait (hnext _ _ hle))
    fun _ _ _ hs hs' ↦ hs.step (hstep _ _ _ hs')

theorem Continues.invariant {P : τ → σ → Prop} {t₀ t : τ} {s₀ s : σ}
    (h : Continues step next t₀ s₀ t s) (hs₀ : P t₀ s₀)
    (hwait : ∀ t t' s, next t t' → P t s → P t' s)
    (hstep : ∀ t s s', P t s → step t s s' → P t s') : P t s := by
  induction h with
  | refl => exact hs₀
  | wait _ hnext ih => exact hwait _ _ _ hnext ih
  | step _ hs ih => exact hstep _ _ _ ih hs

theorem preserved_of_reflTransGen {R : σ → σ → Prop} {P : σ → Prop} {s s' : σ}
    (h : Relation.ReflTransGen R s s') (hs : P s) (hstep : ∀ t t', P t → R t t' → P t') : P s' := by
  induction h with
  | refl => exact hs
  | tail _ hR ih => exact hstep _ _ ih hR

end Invariants

/-! ## Scripts -/

/-- Runs a list of operations, each at its start time, one after another. -/
def replay (run : τ → op → σ → Except ε σ) (script : List (τ × op)) (s : σ) : Except ε σ :=
  script.foldlM (fun s entry ↦ run entry.1 entry.2 s) s

/-- **A script that commits is a run**, when its start times follow one another. -/
theorem reachable_of_replay {run : τ → op → σ → Except ε σ} {step : τ → σ → σ → Prop}
    {next : τ → τ → Prop} {init : σ → Prop} {t : τ} {s s' : σ} {script : List (τ × op)}
    (hrun : ∀ t o s s', run t o s = .ok s' → step t s s') (h : Reachable step next init t s)
    (htimes : (t :: script.map Prod.fst).Pairwise next) (hscript : replay run script s = .ok s') :
    Reachable step next init ((script.map Prod.fst).getLastD t) s' := by
  induction script generalizing t s with
  | nil =>
    obtain rfl : s = s' := by simpa [replay] using hscript
    exact h
  | cons entry script ih =>
    unfold replay at hscript
    rw [List.foldlM_cons, bind_eq_ok] at hscript
    obtain ⟨u, hu, hrest⟩ := hscript
    rw [List.map_cons, List.pairwise_cons] at htimes
    have hstep := (h.wait (htimes.1 entry.1 (by simp))).step (hrun _ _ _ _ hu)
    rw [List.map_cons, List.getLastD_cons]
    exact ih hstep htimes.2 hrest

/-- The script commits, in a state with the property. -/
def Replays (run : τ → op → σ → Except ε σ) (script : List (τ × op)) (s : σ) (P : σ → Prop) :
    Prop :=
  match replay run script s with
  | .ok s' => P s'
  | .error _ => False

instance (run : τ → op → σ → Except ε σ) (script : List (τ × op)) (s : σ) (P : σ → Prop)
    [DecidablePred P] : Decidable (Replays run script s P) := by
  unfold Replays
  split <;> infer_instance

theorem exists_of_replays {run : τ → op → σ → Except ε σ} {script : List (τ × op)} {s : σ}
    {P : σ → Prop} (h : Replays run script s P) : ∃ s', replay run script s = .ok s' ∧ P s' := by
  unfold Replays at h
  split at h
  · next s' hs' => exact ⟨s', hs', h⟩
  · exact h.elim

end Relational
