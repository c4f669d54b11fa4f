import Mathlib
import Ocg.Group.Hierarchy

/-!
# The group hierarchy is single-level

A link from a group to its parent is in order when neither is deleted, both belong to the same
community, and the parent has no parent itself. What a transaction sees keeps every link in order,
except the links that a running `delete_group` still has to clear. A link that a transaction has
written is new only if the transaction holds the lock on the parent, so that no other one can delete
the parent, give it a parent, or clear the link; and the lock on the child keeps others from making
it a parent. So the writes of two transactions can be committed one after the other.
-/

namespace Ocg.Groups

open Relational

/-! ## Links in order -/

/-- The link from the child to the parent is in order. -/
structure Group.Fits (child parent : Group) : Prop where
  child_deleted : child.deleted = false
  parent_deleted : parent.deleted = false
  communityId : parent.communityId = child.communityId
  parentGroupId : parent.parentGroupId = none

/-- Two versions of a row, as far as the links from it are concerned. -/
structure Group.Same (g g' : Group) : Prop where
  groupId : g.groupId = g'.groupId
  communityId : g.communityId = g'.communityId
  deleted : g.deleted = g'.deleted

theorem Group.Same.trans {g g' g'' : Group} (h : g.Same g') (h' : g'.Same g'') : g.Same g'' where
  groupId := h.groupId.trans h'.groupId
  communityId := h.communityId.trans h'.communityId
  deleted := h.deleted.trans h'.deleted

theorem Group.Same.fits {g g' parent : Group} (h : g.Same g') (hfits : g.Fits parent) :
    g'.Fits parent where
  child_deleted := by rw [← h.deleted, hfits.child_deleted]
  parent_deleted := hfits.parent_deleted
  communityId := by rw [hfits.communityId, h.communityId]
  parentGroupId := hfits.parentGroupId

/-- The links that a stage still has to clear. -/
def Stage.Excused : Stage → Group → Uuid → Prop
  | .findChildren communityId groupId, child, parent =>
    parent = groupId ∧ child.communityId = communityId ∧ child.deleted = false
  | .unlinkChildren communityId groupId children, child, parent =>
    parent = groupId ∧ child.communityId = communityId ∧ child.deleted = false
      ∧ child.groupId ∈ children
  | _, _, _ => False

theorem Stage.Excused.same {stage : Stage} {g g' : Group} {parent : Uuid} (h : g.Same g')
    (hexcused : stage.Excused g parent) : stage.Excused g' parent := by
  cases stage with
  | findChildren =>
    obtain ⟨hp, hc, hd⟩ := hexcused
    exact ⟨hp, h.communityId ▸ hc, h.deleted ▸ hd⟩
  | unlinkChildren =>
    obtain ⟨hp, hc, hd, hg⟩ := hexcused
    exact ⟨hp, h.communityId ▸ hc, h.deleted ▸ hd, h.groupId ▸ hg⟩
  | _ => exact hexcused.elim

/-- What the trigger knows of the row that it checks: an updated row is locked. -/
def RowKnown (view : Uuid → Option Group) (locked : List Uuid) (new : Group) : Option Group → Prop
  | none => new.deleted = false
  | some old => view new.groupId = some old ∧ old.Same new ∧ old.deleted = false
    ∧ new.groupId ∈ locked

/-- What a stage knows of the rows that its transaction sees. -/
def Stage.Knows (view : Uuid → Option Group) (locked : List Uuid) : Stage → Prop
  | .checkParent old new => RowKnown view locked new old
  | .checkChildren old new => RowKnown view locked new old
    ∧ ∃ p parent, new.parentGroupId = some p ∧ p ≠ new.groupId ∧ p ∈ locked
      ∧ view p = some parent ∧ new.Fits parent
  | _ => True

/-! ## The invariant of a transaction -/

/-- What holds of a transaction with the given locks, next statement and writes. -/
structure Holds (table : Uuid → Option Group) (locked : List Uuid) (stage : Stage)
    (writes : List Group) : Prop where
  locks : ∀ k w, lookup Group.groupId writes k = some w → k ∈ locked
  covered : LinksCovered Group.parentGroupId Group.Same (· ∈ locked)
    (lookup Group.groupId writes) table
  links : LinksHold Group.parentGroupId Group.Fits stage.Excused
    (patch (lookup Group.groupId writes) table)
  knows : stage.Knows (patch (lookup Group.groupId writes) table) locked

/-- An insert can be taken back to the locks from before it. -/
def Stage.Inserts : Stage → Prop
  | .checkParent none _ | .checkChildren none _ => True
  | _ => False

structure Connection.Sound (table : Uuid → Option Group) (conn : Connection) : Prop where
  holds : Holds table conn.locked conn.stage conn.writes
  savepoint : conn.stage.Inserts → Holds table conn.savepoint .ready conn.writes
    ∧ conn.savepoint ⊆ conn.locked

section Holds

variable {table : Uuid → Option Group} {locked locked' : List Uuid} {stage stage' : Stage}
  {writes writes' : List Group}

theorem RowKnown.congr {view view' : Uuid → Option Group} {new : Group} {old : Option Group}
    (hview : ∀ k ∈ locked, view' k = view k) (hsub : locked ⊆ locked')
    (h : RowKnown view locked new old) : RowKnown view' locked' new old := by
  -- the rules for a row depend only on rows that are locked
  cases old with
  | none => exact h
  | some old =>
    obtain ⟨hrow, hsame, hdeleted, hlock⟩ := h
    exact ⟨by rw [hview _ hlock, hrow], hsame, hdeleted, hsub hlock⟩

theorem RowKnown.deleted {view : Uuid → Option Group} {new : Group} {old : Option Group}
    (h : RowKnown view locked new old) : new.deleted = false := by
  cases old with
  | none => exact h
  | some old => rw [← h.2.1.deleted, h.2.2.1]

theorem Stage.Knows.congr {view view' : Uuid → Option Group}
    (hview : ∀ k ∈ locked, view' k = view k) (h : stage.Knows view locked) :
    stage.Knows view' locked := by
  cases stage with
  | checkParent old new => exact RowKnown.congr hview (List.Subset.refl _) h
  | checkChildren old new =>
    obtain ⟨hrow, p, parent, hp, hne, hlock, hparent, hfits⟩ := h
    exact ⟨RowKnown.congr hview (List.Subset.refl _) hrow, p, parent, hp, hne, hlock,
      by rw [hview p hlock, hparent], hfits⟩
  | _ => trivial

/-- **Another transaction commits.** -/
theorem Holds.commit (h : Holds table locked .ready writes)
    (h' : Holds table locked' stage' writes') (hapart : ∀ k ∈ locked, k ∉ locked') :
    Holds (patch (lookup Group.groupId writes) table) locked' stage' writes' := by
  have hnone (k : Uuid) (hk : k ∈ locked') : lookup Group.groupId writes k = none := by
    cases hw : lookup Group.groupId writes k with
    | none => rfl
    | some w => exact absurd hk (hapart k (h.locks k w hw))
  refine ⟨h'.locks, h'.covered.commit h'.locks hnone, ?_, ?_⟩
  · exact LinksHold.merge (fun _ _ _ hsame hfits ↦ hsame.fits hfits)
      (fun _ _ _ hsame hexcused ↦ hexcused.same hsame) h.locks h'.locks hapart h.covered h'.covered
      h.links h'.links
  · apply h'.knows.congr
    intro k hk
    rw [patch, patch, patch, hnone k hk, Option.none_or]

theorem Connection.Sound.commit {conn : Connection} (h : Holds table locked .ready writes)
    (h' : conn.Sound table) (hapart : ∀ k ∈ locked, k ∉ conn.locked) :
    conn.Sound (patch (lookup Group.groupId writes) table) where
  holds := h.commit h'.holds hapart
  savepoint hinserts :=
    have ⟨hsaved, hsub⟩ := h'.savepoint hinserts
    ⟨h.commit hsaved fun k hk hk' ↦ hapart k hk (hsub hk'), hsub⟩

/-! ## Writing a row -/

theorem Holds.advance (h : Holds table locked stage writes) (hsub : locked ⊆ locked')
    (hexcused : ∀ k r p, patch (lookup Group.groupId writes) table k = some r →
      r.parentGroupId = some p → stage.Excused r p → stage'.Excused r p)
    (hknows : stage'.Knows (patch (lookup Group.groupId writes) table) locked') :
    Holds table locked' stage' writes where
  locks k w hw := hsub (h.locks k w hw)
  covered k r p hr hp := (h.covered k r p hr hp).imp_left fun hlock ↦ hsub hlock
  links := h.links.imp hexcused
  knows := hknows

theorem Holds.write {new : Group} (h : Holds table locked stage writes) (hsub : locked ⊆ locked')
    (hlock : new.groupId ∈ locked')
    (hcover : ∀ p, new.parentGroupId = some p → p ∈ locked'
      ∨ ∃ r, patch (lookup Group.groupId writes) table new.groupId = some r
        ∧ r.parentGroupId = some p ∧ r.Same new)
    (hlinks : LinksHold Group.parentGroupId Group.Fits stage'.Excused
      (Function.update (patch (lookup Group.groupId writes) table) new.groupId (some new)))
    (hknows : ∀ view, stage'.Knows view locked') : Holds table locked' stage' (new :: writes) where
  locks k w hw := by
    rw [lookup_cons] at hw
    split_ifs at hw with hk
    · rwa [← hk]
    · exact hsub (h.locks k w hw)
  covered := by
    intro k r p hr hp
    rw [lookup_cons] at hr
    split_ifs at hr with hk
    · obtain rfl := Option.some.inj hr
      subst hk
      obtain hlock | ⟨r, hrow, hrp, hsame⟩ := hcover p hp
      · exact Or.inl hlock
      · -- the row before may be a write of this transaction too
        cases hw : lookup Group.groupId writes new.groupId with
        | none =>
          rw [patch_of_none hw] at hrow
          exact Or.inr ⟨r, hrow, hrp, hsame⟩
        | some w =>
          rw [patch_of_some hw] at hrow
          obtain rfl := Option.some.inj hrow
          obtain hlock | ⟨r₀, hr₀, hp₀, hsame₀⟩ := h.covered _ w p hw hrp
          · exact Or.inl (hsub hlock)
          · exact Or.inr ⟨r₀, hr₀, hp₀, hsame₀.trans hsame⟩
    · exact (h.covered k r p hr hp).imp_left fun hlock ↦ hsub hlock
  links := by
    rw [patch_lookup_cons]
    exact hlinks
  knows := hknows _

theorem Holds.write_kept {old : Group} (h : Holds table locked stage writes) (new : Group)
    (hsub : locked ⊆ locked') (hlock : new.groupId ∈ locked')
    (hkeys : ∀ k r, patch (lookup Group.groupId writes) table k = some r → r.groupId = k)
    (hold : patch (lookup Group.groupId writes) table new.groupId = some old) (hsame : old.Same new)
    (hparent : new.parentGroupId = none
      ∨ new.parentGroupId = old.parentGroupId ∧ ∀ p, ¬ stage.Excused old p)
    (hexcused : ∀ r p, r.groupId ≠ new.groupId → stage.Excused r p → stage'.Excused r p)
    (hknows : ∀ view, stage'.Knows view locked') : Holds table locked' stage' (new :: writes) := by
  -- a row is written whose link is kept or cleared
  have hkept (p : Uuid) (hp : new.parentGroupId = some p) :
      old.parentGroupId = some p ∧ ∀ p, ¬ stage.Excused old p := by
    obtain hnone | ⟨heq, hnot⟩ := hparent
    · rw [hnone] at hp
      exact absurd hp (by simp)
    · exact ⟨heq.symm.trans hp, hnot⟩
  apply h.write hsub hlock
  · exact fun p hp ↦ Or.inr ⟨old, hold, (hkept p hp).1, hsame⟩
  · apply h.links.write
    · exact fun k r p hk hr _ ↦ hexcused r p (by rwa [hkeys k r hr])
    · intro p hp
      obtain ⟨hop, hnot⟩ := hkept p hp
      obtain hexcuse | ⟨q, hq, hfits⟩ := h.links _ old p hold hop
      · exact absurd hexcuse (hnot p)
      · -- a group with a parent is no parent, not of itself either
        have hne : p ≠ new.groupId := by
          rintro rfl
          rw [hold] at hq
          obtain rfl := Option.some.inj hq
          rw [hfits.parentGroupId] at hop
          exact absurd hop (by simp)
        exact Or.inr ⟨q, by rw [Function.update_of_ne hne, hq], hsame.fits hfits⟩
    · intro k r hk hr hp
      obtain hexcuse | ⟨q, hq, hfits⟩ := h.links k r _ hr hp
      · exact Or.inl (hexcused r _ (by rwa [hkeys k r hr]) hexcuse)
      · rw [hold] at hq
        obtain rfl := Option.some.inj hq
        refine Or.inr ⟨hfits.child_deleted, ?_, ?_, ?_⟩
        · rw [← hsame.deleted, hfits.parent_deleted]
        · rw [← hsame.communityId, hfits.communityId]
        · obtain hnone | ⟨heq, -⟩ := hparent
          · exact hnone
          · rw [heq, hfits.parentGroupId]
  · exact hknows

/-- A row is written after the trigger has locked and validated the parent, if it has one, and found
no children. -/
theorem Holds.write_checked {new : Group} (h : Holds table locked stage writes)
    (hsub : locked ⊆ locked') (hlock : new.groupId ∈ locked')
    (hnone : ∀ r p, ¬ stage.Excused r p)
    (hsource : ∀ p, new.parentGroupId = some p → p ≠ new.groupId ∧ p ∈ locked'
      ∧ ∃ parent, patch (lookup Group.groupId writes) table p = some parent ∧ new.Fits parent)
    (htarget : ∀ k r, k ≠ new.groupId → patch (lookup Group.groupId writes) table k = some r →
      r.parentGroupId = some new.groupId → r.deleted ≠ false) :
    Holds table locked' .ready (new :: writes) := by
  apply h.write hsub hlock
  · exact fun p hp ↦ Or.inl (hsource p hp).2.1
  · apply h.links.write
    · exact fun _ r p _ _ _ hexcused ↦ absurd hexcused (hnone r p)
    · intro p hp
      obtain ⟨hne, -, parent, hparent, hfits⟩ := hsource p hp
      exact Or.inr ⟨parent, by rw [Function.update_of_ne hne, hparent], hfits⟩
    · intro k r hk hr hp
      obtain hexcuse | ⟨q, -, hfits⟩ := h.links k r _ hr hp
      · exact absurd hexcuse (hnone r _)
      · exact absurd hfits.child_deleted (htarget k r hk hr hp)
  · exact fun _ ↦ trivial

theorem Holds.write_deleted {old : Group} (h : Holds table locked stage writes) (new : Group)
    (hsub : locked ⊆ locked') (hlock : new.groupId ∈ locked')
    (hnone : ∀ r p, ¬ stage.Excused r p)
    (hold : patch (lookup Group.groupId writes) table new.groupId = some old)
    (hnew : new.parentGroupId = none) :
    Holds table locked' (.findChildren old.communityId new.groupId) (new :: writes) := by
  -- a group is deleted, and the links to it remain to be cleared
  apply h.write hsub hlock
  · intro p hp
    rw [hnew] at hp
    exact absurd hp (by simp)
  · apply h.links.write
    · exact fun _ r p _ _ _ hexcused ↦ absurd hexcused (hnone r p)
    · intro p hp
      rw [hnew] at hp
      exact absurd hp (by simp)
    · intro k r hk hr hp
      obtain hexcuse | ⟨q, hq, hfits⟩ := h.links k r _ hr hp
      · exact absurd hexcuse (hnone r _)
      · rw [hold] at hq
        obtain rfl := Option.some.inj hq
        exact Or.inl ⟨rfl, hfits.communityId.symm, hfits.child_deleted⟩
  · exact fun _ ↦ trivial

end Holds

/-! ## Statements -/

section Statements

variable {τ : Type} {s s' : State τ} {t : τ} {conn : Connection}

def State.table (s : State τ) : Uuid → Option Group := lookup Group.groupId s.groups

theorem State.group?_eq (s : State τ) (t : τ) :
    s.group? t = patch (lookup Group.groupId (s.connection t).writes) s.table := by
  funext k
  rw [State.group?, State.view, lookup_overlay, State.table, patch]

theorem State.groupId_of_group? {k : Uuid} {g : Group} (h : s.group? t k = some g) :
    g.groupId = k :=
  key_of_lookup h

theorem State.current?_eq_some {communityId groupId : Uuid} {g : Group} :
    s.current? t communityId groupId = some g
      ↔ s.group? t groupId = some g ∧ g.communityId = communityId ∧ g.deleted = false := by
  rw [State.current?, Option.filter_eq_some_iff]
  simp only [decide_eq_true_eq]

variable [Fintype τ] [DecidableEq τ]

theorem lockRow_eq_ok {groupId : Uuid} {locked : List Uuid} :
    lockRow s t groupId = .ok locked
      ↔ Grantable (· = ·) s.held t groupId ∧ locked = groupId :: s.held t := by
  simp only [lockRow, bind_eq_ok, require_eq_ok, Except.ok.injEq]
  constructor
  · rintro ⟨-, hgrant, rfl⟩
    exact ⟨hgrant, rfl⟩
  · rintro ⟨hgrant, rfl⟩
    exact ⟨(), hgrant, rfl⟩

theorem validateParent_eq_ok {parent new : Group} {u : Unit} :
    validateParent parent new = .ok u ↔ parent.communityId = new.communityId
      ∧ parent.deleted = false ∧ parent.active = true ∧ parent.parentGroupId = none := by
  simp [validateParent]

theorem parentToValidate_eq_none {old : Option Group} {new : Group}
    (h : parentToValidate old new = .ok none) :
    new.parentGroupId = none ∨ new.parentGroupId = old.bind Group.parentGroupId := by
  rw [parentToValidate] at h
  split at h
  · next hnone => exact Or.inl hnone
  · next p hp =>
    simp only [bind_eq_ok, require_eq_ok] at h
    obtain ⟨-, -, h⟩ := h
    split_ifs at h with hold
    · exact Or.inr (hp.trans hold.symm)
    · exact absurd (Except.ok.inj h) (by simp)

theorem parentToValidate_eq_some {old : Option Group} {new : Group} {p : Uuid}
    (h : parentToValidate old new = .ok (some p)) :
    new.parentGroupId = some p ∧ p ≠ new.groupId := by
  rw [parentToValidate] at h
  split at h
  · simp at h
  · next p' hp =>
    simp only [bind_eq_ok, require_eq_ok] at h
    obtain ⟨-, hne, h⟩ := h
    split_ifs at h with hold
    · exact absurd (Except.ok.inj h) (by simp)
    · obtain rfl := Option.some.inj (Except.ok.inj h)
      exact ⟨hp, hne⟩

theorem writeRow_eq_ok {old : Option Group} {new : Group} (h : writeRow s t old new = .ok conn) :
    ∃ locked, conn = { s.connection t with
        stage := .ready, locked := locked, writes := new :: (s.connection t).writes }
      ∧ (∀ row, old = some row → locked = s.held t)
      ∧ (old = none → lockRow s t new.groupId = .ok locked ∧ s.group? t new.groupId = none) := by
  cases old with
  | some row =>
    obtain rfl := Except.ok.inj h
    exact ⟨_, rfl, fun _ _ ↦ rfl, fun h ↦ absurd h (by simp)⟩
  | none =>
    simp only [writeRow, bind_eq_ok, require_eq_ok, Except.ok.injEq] at h
    obtain ⟨locked, hlock, -, hnew, rfl⟩ := h
    exact ⟨locked, rfl, fun _ h ↦ absurd h (by simp), fun _ ↦ ⟨hlock, hnew⟩⟩

/-! ## Steps -/

theorem Connection.Sound.of_writeRow {old : Option Group} {new : Group}
    (hknown : RowKnown (s.group? t) (s.held t) new old) (hwrite : writeRow s t old new = .ok conn)
    (hholds : ∀ locked, s.held t ⊆ locked → new.groupId ∈ locked →
      (old = none → s.group? t new.groupId = none) →
      Holds s.table locked .ready (new :: (s.connection t).writes)) : conn.Sound s.table := by
  obtain ⟨locked, rfl, hupdate, hinsert⟩ := writeRow_eq_ok hwrite
  refine ⟨?_, fun h ↦ h.elim⟩
  cases old with
  | none =>
    obtain ⟨hlock, hnone⟩ := hinsert rfl
    obtain ⟨-, rfl⟩ := lockRow_eq_ok.1 hlock
    exact hholds _ (List.subset_cons_self _ _) List.mem_cons_self fun _ ↦ hnone
  | some old =>
    obtain rfl := hupdate old rfl
    exact hholds _ (List.Subset.refl _) hknown.2.2.2 fun h ↦ absurd h (by simp)

/-- **A statement keeps the invariant** of its transaction. -/
theorem Connection.Sound.statement (h : (s.connection t).Sound s.table)
    (hstep : statement s t = .ok conn) : conn.Sound s.table := by
  have hholds := h.holds
  have hview := s.group?_eq t
  have hkeys (k : Uuid) (r : Group)
      (hr : patch (lookup Group.groupId (s.connection t).writes) s.table k = some r) :
      r.groupId = k := by
    rw [← hview] at hr
    exact State.groupId_of_group? hr
  rw [Groups.statement] at hstep
  split at hstep
  · simp at hstep
  · -- `update_group` locks the group
    next communityId groupId present parent hstage =>
    rw [hstage] at hholds
    split at hstep
    · obtain rfl := Except.ok.inj hstep
      exact ⟨hholds.advance (List.Subset.refl _) (fun _ _ _ _ _ h ↦ h) trivial, fun h ↦ h.elim⟩
    · simp only [bind_eq_ok, lockRow_eq_ok, Except.ok.injEq] at hstep
      obtain ⟨_, ⟨-, rfl⟩, rfl⟩ := hstep
      exact ⟨hholds.advance (List.subset_cons_self _ _) (fun _ _ _ _ _ h ↦ h) trivial,
        fun h ↦ h.elim⟩
  · -- `update_group` gets to the trigger
    next communityId groupId present parent hstage =>
    rw [hstage] at hholds
    split at hstep
    · simp at hstep
    · next old hcurrent =>
      simp only [bind_eq_ok, lockRow_eq_ok, Except.ok.injEq] at hstep
      obtain ⟨_, ⟨-, rfl⟩, rfl⟩ := hstep
      obtain ⟨hrow, -, hdeleted⟩ := State.current?_eq_some.1 hcurrent
      have hid := State.groupId_of_group? hrow
      rw [hview] at hrow
      refine ⟨hholds.advance (List.subset_cons_self _ _) (fun _ _ _ _ _ h ↦ h) ?_, fun h ↦ h.elim⟩
      exact ⟨by rw [hid, hrow], ⟨rfl, rfl, rfl⟩, hdeleted, by rw [hid]; exact List.mem_cons_self⟩
  · -- the trigger looks at the parent
    next old new hstage =>
    rw [hstage] at hholds
    have hknown : RowKnown (s.group? t) (s.held t) new old := by
      rw [hview]
      exact hholds.knows
    simp only [bind_eq_ok] at hstep
    obtain ⟨target, hvalidate, hstep⟩ := hstep
    cases target with
    | none =>
      apply Connection.Sound.of_writeRow hknown hstep
      intro locked hsub hlock hnone
      have hparent := parentToValidate_eq_none hvalidate
      cases old with
      | some old =>
        obtain ⟨hrow, hsame, -, -⟩ := hholds.knows
        exact hholds.write_kept new hsub hlock hkeys hrow hsame
          (hparent.imp_right fun h ↦ ⟨h, fun _ h ↦ h⟩) (fun _ _ _ h ↦ h) fun _ ↦ trivial
      | none =>
        have hno_parent : new.parentGroupId = none := hparent.elim id id
        apply hholds.write_checked hsub hlock (fun _ _ h ↦ h)
        · intro p hp
          rw [hno_parent] at hp
          exact absurd hp (by simp)
        · -- nothing can link to a group that does not exist yet
          intro k r _ hr hp
          obtain hexcuse | ⟨q, hq, -⟩ := hholds.links k r _ hr hp
          · exact hexcuse.elim
          · rw [← hview, hnone rfl] at hq
            exact absurd hq (by simp)
    | some p =>
      simp only at hstep
      split at hstep
      · simp at hstep
      · next parent hparent =>
        simp only [bind_eq_ok, lockRow_eq_ok, validateParent_eq_ok, Except.ok.injEq] at hstep
        obtain ⟨_, ⟨-, rfl⟩, -, ⟨hcommunity, hdeleted, -, hno_parent⟩, rfl⟩ := hstep
        obtain ⟨hp, hne⟩ := parentToValidate_eq_some hvalidate
        rw [hview] at hparent
        refine ⟨hholds.advance (List.subset_cons_self _ _) (fun _ _ _ _ _ h ↦ h) ?_, ?_⟩
        · refine ⟨RowKnown.congr (fun _ _ ↦ rfl) (List.subset_cons_self _ _) hholds.knows, p,
            parent, hp,
            hne, List.mem_cons_self, hparent, ?_⟩
          exact ⟨hknown.deleted, hdeleted, hcommunity, hno_parent⟩
        · intro hinserts
          have hsaved := h.savepoint (by rw [hstage]; cases old <;> exact hinserts)
          exact ⟨hsaved.1, List.Subset.trans hsaved.2 (List.subset_cons_self _ _)⟩
  · -- the trigger looks for children
    next old new hstage =>
    rw [hstage] at hholds
    obtain ⟨hknown, p, parent, hp, hne, hlock_parent, hparent, hfits⟩ := hholds.knows
    simp only [bind_eq_ok, require_eq_ok] at hstep
    obtain ⟨-, hchildren, hstep⟩ := hstep
    rw [← hview] at hknown
    apply Connection.Sound.of_writeRow hknown hstep
    intro locked hsub hlock hnone
    apply hholds.write_checked hsub hlock (fun _ _ h ↦ h)
    · intro p' hp'
      obtain rfl := Option.some.inj (hp.symm.trans hp')
      exact ⟨hne, hsub hlock_parent, parent, hparent, hfits⟩
    · intro k r hk hr hr_parent hdeleted
      rw [← hview] at hr
      apply hchildren r (mem_of_lookup hr)
      exact ⟨hr_parent, hdeleted, by rwa [State.groupId_of_group? hr]⟩
  · -- `activate_group` and `deactivate_group`
    next communityId groupId active hstage =>
    rw [hstage] at hholds
    split at hstep
    · simp at hstep
    · next old hcurrent =>
      simp only [bind_eq_ok, lockRow_eq_ok, Except.ok.injEq] at hstep
      obtain ⟨_, ⟨-, rfl⟩, rfl⟩ := hstep
      obtain ⟨hrow, -, -⟩ := State.current?_eq_some.1 hcurrent
      have hid := State.groupId_of_group? hrow
      rw [hview, ← hid] at hrow
      refine ⟨?_, fun h ↦ h.elim⟩
      exact hholds.write_kept _ (List.subset_cons_self _ _) (by rw [hid]; exact List.mem_cons_self)
        hkeys hrow ⟨rfl, rfl, rfl⟩ (Or.inr ⟨rfl, fun _ h ↦ h⟩) (fun _ _ _ h ↦ h) fun _ ↦ trivial
  · -- `delete_group` deletes the group
    next communityId groupId hstage =>
    rw [hstage] at hholds
    split at hstep
    · simp [groupNotFound] at hstep
    · next old hcurrent =>
      simp only [bind_eq_ok, lockRow_eq_ok, Except.ok.injEq] at hstep
      obtain ⟨_, ⟨-, rfl⟩, rfl⟩ := hstep
      obtain ⟨hrow, rfl, -⟩ := State.current?_eq_some.1 hcurrent
      obtain rfl := State.groupId_of_group? hrow
      rw [hview] at hrow
      refine ⟨?_, fun h ↦ h.elim⟩
      exact hholds.write_deleted
        { old with active := false, deleted := true, parentGroupId := none }
        (List.subset_cons_self _ _) List.mem_cons_self (fun _ _ h ↦ h) hrow rfl
  · -- `delete_group` finds the children
    next communityId groupId hstage =>
    rw [hstage] at hholds
    obtain rfl := Except.ok.inj hstep
    refine ⟨hholds.advance (List.Subset.refl _) ?_ trivial, fun h ↦ h.elim⟩
    rintro k r p hr hp ⟨rfl, hcommunity, hdeleted⟩
    rw [← hview] at hr
    refine ⟨rfl, hcommunity, hdeleted, List.mem_map.2 ⟨r, ?_, rfl⟩⟩
    rw [List.mem_filter]
    exact ⟨mem_of_lookup hr, by simp [hcommunity, hdeleted, hp]⟩
  · -- `delete_group` has visited all children
    next communityId groupId hstage =>
    rw [hstage] at hholds
    obtain rfl := Except.ok.inj hstep
    refine ⟨hholds.advance (List.Subset.refl _) ?_ trivial, fun h ↦ h.elim⟩
    rintro k r p - - ⟨-, -, -, hmem⟩
    exact absurd hmem List.not_mem_nil
  · -- `delete_group` visits a child
    next communityId groupId child children hstage =>
    rw [hstage] at hholds
    split at hstep
    · next hnone =>
      obtain rfl := Except.ok.inj hstep
      refine ⟨hholds.advance (List.Subset.refl _) ?_ trivial, fun h ↦ h.elim⟩
      rintro k r p hr hp ⟨rfl, hcommunity, hdeleted, hmem⟩
      obtain rfl | hmem := List.mem_cons.1 hmem
      · -- a child that is still linked is not passed over
        have hid := hkeys k r hr
        rw [← hview, ← hid] at hr
        have hcurrent := State.current?_eq_some.2 ⟨hr, hcommunity, hdeleted⟩
        rw [hcurrent] at hnone
        simp [Option.filter, hp] at hnone
      · exact ⟨rfl, hcommunity, hdeleted, hmem⟩
    · next old hfilter =>
      simp only [bind_eq_ok, lockRow_eq_ok, Except.ok.injEq] at hstep
      obtain ⟨_, ⟨-, rfl⟩, rfl⟩ := hstep
      obtain ⟨hcurrent, -⟩ := Option.filter_eq_some_iff.1 hfilter
      obtain ⟨hrow, -, -⟩ := State.current?_eq_some.1 hcurrent
      have hid := State.groupId_of_group? hrow
      rw [hview, ← hid] at hrow
      refine ⟨?_, fun h ↦ h.elim⟩
      apply hholds.write_kept { old with parentGroupId := none } (List.subset_cons_self _ _)
        (by rw [hid]; exact List.mem_cons_self) hkeys hrow ⟨rfl, rfl, rfl⟩ (Or.inl rfl)
      · rintro r p hne ⟨rfl, hcommunity, hdeleted, hmem⟩
        refine ⟨rfl, hcommunity, hdeleted, (List.mem_cons.1 hmem).resolve_left ?_⟩
        rw [← hid]
        exact hne
      · exact fun _ ↦ trivial

theorem lockRow_granted {groupId : Uuid} {locked : List Uuid}
    (h : lockRow s t groupId = .ok locked) :
    ∀ l ∈ locked, l ∈ s.held t ∨ Grantable (· = ·) s.held t l := by
  obtain ⟨hgrant, rfl⟩ := lockRow_eq_ok.1 h
  intro l hl
  obtain rfl | hl := List.mem_cons.1 hl
  · exact Or.inr hgrant
  · exact Or.inl hl

theorem writeRow_granted {old : Option Group} {new : Group}
    (h : writeRow s t old new = .ok conn) :
    ∀ l ∈ conn.locked, l ∈ s.held t ∨ Grantable (· = ·) s.held t l := by
  obtain ⟨locked, rfl, hupdate, hinsert⟩ := writeRow_eq_ok h
  cases old with
  | none => exact lockRow_granted (hinsert rfl).1
  | some row =>
    obtain rfl := hupdate row rfl
    exact fun l hl ↦ Or.inl hl

theorem statement_granted (hstep : statement s t = .ok conn) :
    ∀ l ∈ conn.locked, l ∈ s.held t ∨ Grantable (· = ·) s.held t l := by
  have hkept : ∀ l ∈ s.held t, l ∈ s.held t ∨ Grantable (· = ·) s.held t l :=
    fun l hl ↦ Or.inl hl
  rw [statement] at hstep
  split at hstep
  · simp at hstep
  · split at hstep
    · obtain rfl := Except.ok.inj hstep
      exact hkept
    · obtain ⟨locked, hlock, hstep⟩ := bind_eq_ok.1 hstep
      obtain rfl := Except.ok.inj hstep
      exact lockRow_granted hlock
  · split at hstep
    · simp at hstep
    · obtain ⟨locked, hlock, hstep⟩ := bind_eq_ok.1 hstep
      obtain rfl := Except.ok.inj hstep
      exact lockRow_granted hlock
  · obtain ⟨target, -, hstep⟩ := bind_eq_ok.1 hstep
    split at hstep
    · exact writeRow_granted hstep
    · split at hstep
      · simp at hstep
      · obtain ⟨locked, hlock, hstep⟩ := bind_eq_ok.1 hstep
        obtain ⟨-, -, hstep⟩ := bind_eq_ok.1 hstep
        obtain rfl := Except.ok.inj hstep
        exact lockRow_granted hlock
  · obtain ⟨-, -, hstep⟩ := bind_eq_ok.1 hstep
    exact writeRow_granted hstep
  · split at hstep
    · simp at hstep
    · obtain ⟨locked, hlock, hstep⟩ := bind_eq_ok.1 hstep
      obtain rfl := Except.ok.inj hstep
      exact lockRow_granted hlock
  · split at hstep
    · simp at hstep
    · obtain ⟨locked, hlock, hstep⟩ := bind_eq_ok.1 hstep
      obtain rfl := Except.ok.inj hstep
      exact lockRow_granted hlock
  · obtain rfl := Except.ok.inj hstep
    exact hkept
  · obtain rfl := Except.ok.inj hstep
    exact hkept
  · split at hstep
    · obtain rfl := Except.ok.inj hstep
      exact hkept
    · obtain ⟨locked, hlock, hstep⟩ := bind_eq_ok.1 hstep
      obtain rfl := Except.ok.inj hstep
      exact lockRow_granted hlock

end Statements

/-! ## Runs -/

section Runs

variable {τ : Type} {s s' : State τ} {t : τ} {conn : Connection}

structure State.Sound (s : State τ) : Prop where
  groupId_nodup : (s.groups.map Group.groupId).Nodup
  links : LinksHold Group.parentGroupId Group.Fits (fun _ _ ↦ False) s.table
  compatible : Compatible (· = ·) s.held
  connection : ∀ t, (s.connection t).Sound s.table

theorem Connection.idle_sound {table : Uuid → Option Group}
    (h : LinksHold Group.parentGroupId Group.Fits (fun _ _ ↦ False) table) :
    Connection.idle.Sound table where
  holds :=
    { locks := fun _ _ hw ↦ absurd hw (by simp [Connection.idle, lookup])
      covered := fun _ _ _ hw ↦ absurd hw (by simp [Connection.idle, lookup])
      links := h
      knows := trivial }
  savepoint h := h.elim

theorem State.table_view (s : State τ) (t : τ) :
    lookup Group.groupId (s.view t)
      = patch (lookup Group.groupId (s.connection t).writes) s.table :=
  s.group?_eq t

theorem Init.sound (h : Init s) : s.Sound where
  groupId_nodup := h.groupId_nodup
  links := by
    intro k g p hg hp
    rw [h.no_parents g (mem_of_lookup hg)] at hp
    exact absurd hp (by simp)
  compatible t t' _ l hl := by
    rw [State.held, h.idle] at hl
    exact absurd hl List.not_mem_nil
  connection t := by
    rw [h.idle]
    apply Connection.idle_sound
    intro k g p hg hp
    rw [h.no_parents g (mem_of_lookup hg)] at hp
    exact absurd hp (by simp)

/-- What single-level groups with parents look like. -/
structure Hierarchy (groups : List Group) : Prop where
  single_level : ∀ g ∈ groups, g.deleted = false → g.parentGroupId ≠ none →
    ∀ child ∈ groups, child.deleted = false → child.parentGroupId ≠ some g.groupId
  not_own_parent : ∀ g ∈ groups, g.parentGroupId ≠ some g.groupId
  same_community : ∀ parent ∈ groups, ∀ child ∈ groups,
    child.parentGroupId = some parent.groupId → parent.communityId = child.communityId
  parent_not_deleted : ∀ child ∈ groups, child.deleted = false → ∀ p, child.parentGroupId = some p →
    ∃ parent ∈ groups, parent.groupId = p ∧ parent.deleted = false

theorem State.Sound.hierarchy (h : s.Sound) : Hierarchy s.groups := by
  have hlink (child : Group) (hchild : child ∈ s.groups) (p : Uuid)
      (hp : child.parentGroupId = some p) :
      ∃ parent ∈ s.groups, parent.groupId = p ∧ child.Fits parent := by
    obtain hfalse | ⟨parent, hparent, hfits⟩ :=
      h.links _ child p (lookup_of_mem h.groupId_nodup hchild) hp
    · exact hfalse.elim
    · exact ⟨parent, mem_of_lookup hparent, key_of_lookup hparent, hfits⟩
  have hunique (g g' : Group) (hg : g ∈ s.groups) (hg' : g' ∈ s.groups)
      (hid : g.groupId = g'.groupId) : g = g' :=
    eq_of_key_eq h.groupId_nodup hg hg' hid
  constructor
  · intro g hg _ hparent child hchild _ hp
    obtain ⟨g', hg', hid, hfits⟩ := hlink child hchild _ hp
    obtain rfl := hunique g' g hg' hg hid
    exact hparent hfits.parentGroupId
  · intro g hg hp
    obtain ⟨g', hg', hid, hfits⟩ := hlink g hg _ hp
    obtain rfl := hunique g' g hg' hg hid
    rw [hfits.parentGroupId] at hp
    exact absurd hp (by simp)
  · intro parent hparent child hchild hp
    obtain ⟨g', hg', hid, hfits⟩ := hlink child hchild _ hp
    obtain rfl := hunique g' parent hg' hparent hid
    exact hfits.communityId
  · intro child hchild _ p hp
    obtain ⟨parent, hparent, hid, hfits⟩ := hlink child hchild p hp
    exact ⟨parent, hparent, hid, hfits.parent_deleted⟩

variable [DecidableEq τ]

@[simp] theorem State.table_connect : (s.connect t conn).table = s.table := rfl

@[simp] theorem State.connection_connect_self : (s.connect t conn).connection t = conn :=
  by simp only [State.connect, Function.update_self]

theorem State.connection_connect_of_ne {t' : τ} (h : t' ≠ t) :
    (s.connect t conn).connection t' = s.connection t' :=
  by simp only [State.connect, Function.update_of_ne h]

theorem State.compatible_connect (h : Compatible (· = ·) s.held)
    (hlocks : ∀ l ∈ conn.locked, l ∈ s.held t ∨ Grantable (· = ·) s.held t l) :
    Compatible (· = ·) (s.connect t conn).held := by
  apply h.update (t := t) (fun _ _ hl ↦ hl.symm)
  · intro t' ht'
    rw [State.held, State.held, State.connection_connect_of_ne ht']
  · rwa [State.held, State.connection_connect_self]

theorem State.Sound.connect (h : s.Sound) (hconn : conn.Sound s.table)
    (hlocks : ∀ l ∈ conn.locked, l ∈ s.held t ∨ Grantable (· = ·) s.held t l) :
    (s.connect t conn).Sound where
  groupId_nodup := h.groupId_nodup
  links := h.links
  compatible := State.compatible_connect h.compatible hlocks
  connection t' := by
    rw [State.table_connect]
    by_cases ht' : t' = t
    · subst ht'
      rwa [State.connection_connect_self]
    · rw [State.connection_connect_of_ne ht']
      exact h.connection t'

theorem State.Sound.rollback (h : s.Sound) : (s.connect t .idle).Sound :=
  h.connect (Connection.idle_sound h.links) fun _ hl ↦ absurd hl List.not_mem_nil

theorem State.Sound.commit (h : s.Sound) (hready : (s.connection t).stage = .ready) :
    ({ s with groups := s.view t }.connect t .idle).Sound := by
  have hholds := (h.connection t).holds
  rw [hready] at hholds
  have htable : State.table { s with groups := s.view t }
      = patch (lookup Group.groupId (s.connection t).writes) s.table := s.table_view t
  have hlinks : LinksHold Group.parentGroupId Group.Fits (fun _ _ ↦ False)
      (State.table { s with groups := s.view t }) := by
    rw [htable]
    exact hholds.links
  refine ⟨nodup_keys_overlay _ h.groupId_nodup, hlinks, ?_, fun t' ↦ ?_⟩
  · apply State.compatible_connect (s := { s with groups := s.view t }) h.compatible
    exact fun l hl ↦ absurd hl List.not_mem_nil
  · rw [State.table_connect]
    by_cases ht' : t' = t
    · subst ht'
      rw [State.connection_connect_self]
      exact Connection.idle_sound hlinks
    · rw [State.connection_connect_of_ne ht', htable]
      apply Connection.Sound.commit hholds (h.connection t')
      exact fun k hk hk' ↦ h.compatible t t' (Ne.symm ht') k hk k hk' rfl

variable [Fintype τ]

/-- **One step.** -/
theorem State.Sound.step (h : s.Sound) (hstep : Step s s') : s'.Sound := by
  obtain ⟨t, action, hrun⟩ := hstep
  have hconn := h.connection t
  cases action with
  | call request =>
    simp only [Action.run, bind_eq_ok, require_eq_ok, Except.ok.injEq] at hrun
    obtain ⟨-, hready, rfl⟩ := hrun
    have hholds := hconn.holds
    rw [hready] at hholds
    refine h.connect ⟨hholds.advance (List.Subset.refl _) ?_ ?_, ?_⟩ fun l hl ↦ Or.inl hl
    · cases request <;> exact fun _ _ _ _ _ h ↦ h
    · cases request with
      | addGroup => exact rfl
      | _ => trivial
    · exact fun _ ↦ ⟨hholds, List.Subset.refl _⟩
  | advance =>
    simp only [Action.run] at hrun
    split at hrun
    · next conn hok =>
      obtain rfl := Except.ok.inj hrun
      exact h.connect (hconn.statement hok) (statement_granted hok)
    · obtain rfl := Except.ok.inj hrun
      exact h.rollback
    · simp at hrun
  | retry groupId =>
    have hretry (new : Group) (hnew : new.deleted = false)
        (hinserts : (s.connection t).stage.Inserts) : (s.connect t { s.connection t with
          stage := .checkParent none { new with groupId := groupId }
          locked := (s.connection t).savepoint }).Sound := by
      obtain ⟨hsaved, hsub⟩ := hconn.savepoint hinserts
      refine h.connect ⟨hsaved.advance (List.Subset.refl _) (fun _ _ _ _ _ h ↦ h) hnew, ?_⟩ ?_
      · exact fun _ ↦ ⟨hsaved, List.Subset.refl _⟩
      · exact fun l hl ↦ Or.inl (hsub hl)
    have hknows := hconn.holds.knows
    simp only [Action.run] at hrun
    split at hrun
    · next new hstage =>
      obtain rfl := Except.ok.inj hrun
      rw [hstage] at hknows
      exact hretry new hknows (by rw [hstage]; trivial)
    · next new hstage =>
      obtain rfl := Except.ok.inj hrun
      rw [hstage] at hknows
      exact hretry new hknows.1 (by rw [hstage]; trivial)
    · simp at hrun
  | commit =>
    simp only [Action.run, bind_eq_ok, require_eq_ok, Except.ok.injEq] at hrun
    obtain ⟨-, hready, rfl⟩ := hrun
    exact h.commit hready
  | rollback =>
    obtain rfl := Except.ok.inj hrun
    exact h.rollback

theorem State.Reached.sound (h : s.Reached) : s.Sound :=
  h.stable (fun _ ↦ Init.sound) fun _ _ _ ↦ State.Sound.step

/-- **The group hierarchy stays single-level.** -/
theorem State.Reached.group_hierarchy (h : s.Reached) : Hierarchy s.groups :=
  h.sound.hierarchy

def State.run (_ : Unit) (entry : τ × Action) (s : State τ) : Except Interrupt (State τ) :=
  entry.2.run entry.1 s

theorem State.reached_of_replay {script : List (Unit × τ × Action)} (h : Init s)
    (hscript : replay State.run script s = .ok s') : s'.Reached :=
  reachable_of_replay (fun _ entry _ _ hrun ↦ ⟨entry.1, entry.2, hrun⟩) (.start (t := ()) h)
    (List.pairwise_of_forall fun _ _ ↦ trivial) hscript

/-- Three groups without parents, and two connections. -/
def State.sample : State (Fin 2) where
  groups := [⟨1, true, 1, false, none⟩, ⟨2, true, 1, false, none⟩, ⟨3, true, 1, false, none⟩]
  connection := fun _ ↦ .idle

/-- While one connection makes the second group the parent of the first, the other tries to make the
first group the parent of the third; it is turned down once it gets the lock. -/
def sampleScript : List (Unit × Fin 2 × Action) :=
  let a := (Fin.last 0).castSucc
  let b := Fin.last 1
  [((), a, .call (.updateGroup 1 1 true (some 2))), ((), b, .call (.updateGroup 1 3 true (some 1))),
    ((), a, .advance), ((), b, .advance), ((), a, .advance), ((), b, .advance),
    ((), a, .advance), ((), a, .advance), ((), a, .commit), ((), b, .advance)]

theorem State.Reached.group_hierarchy_sample :
    ∃ s : State (Fin 2), s.Reached ∧ Hierarchy s.groups
      ∧ s.groups.map (fun g ↦ (g.groupId, g.parentGroupId))
        = [(1, some 2), (2, none), (3, none)] := by
  have hreplays : Replays State.run sampleScript State.sample fun s ↦
      s.groups.map (fun g ↦ (g.groupId, g.parentGroupId))
        = [(1, some 2), (2, none), (3, none)] := by
    decide +kernel
  obtain ⟨s, hs, hgroups⟩ := exists_of_replays hreplays
  have hinit : Init State.sample := ⟨by decide, by decide, fun _ ↦ rfl⟩
  have hreached := State.reached_of_replay hinit hs
  exact ⟨s, hreached, hreached.group_hierarchy, hgroups⟩

end Runs

end Ocg.Groups
