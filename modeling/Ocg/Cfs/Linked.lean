import Ocg.Cfs.Submissions

/-!
# Linked submissions and their reviews

Between the check of the trigger and the lock of the foreign key, a session that is being linked to
a submission has no hold on it. A review that commits in this window takes the approval away from a
submission that the other transaction goes on to link. When no review does, every committed link has
an approved submission: a link that a transaction has written is either one that stood before, which
a review sees, or covered by the lock of the foreign key, which a review waits for.
-/

namespace Ocg.Cfs

open Relational

/-! ## The invariant of a transaction -/

/-- A session of the event may be linked to the submission. -/
structure Submission.Admits (q : Submission) (eventId : Uuid) : Prop where
  eventId : q.eventId = eventId
  statusId : q.statusId = .approved

/-- The submission was checked by the trigger, but is not locked by the foreign key yet. -/
def Stage.Window : Stage → Uuid → Prop
  | .writeSession _ _ _ old new, id => newReference old new = some id
  | .checkReference _ _ _ old new, id => newReference old new = some id
  | _, _ => False

instance (id : Uuid) : DecidablePred fun stage : Stage ↦ stage.Window id
  | .writeSession _ _ _ old new => inferInstanceAs (Decidable (newReference old new = some id))
  | .checkReference _ _ _ old new => inferInstanceAs (Decidable (newReference old new = some id))
  | .ready | .saveSessions .. | .deleteSessions .. | .lockSubmission .. | .checkLinks ..
  | .updateSubmission .. | .findSubmission .. | .changeStatus .. =>
    inferInstanceAs (Decidable False)

section Connection

variable (S : Uuid → Option Session) (B : Uuid → Option Submission) (conn : Connection)

def Connection.sessionWrites : Uuid → Option Session := lookup Session.sessionId conn.sessions

def Connection.submissionWrites : Uuid → Option Submission :=
  lookup Submission.cfsSubmissionId conn.submissions

/-- What a stage knows of the rows that its transaction sees. -/
def Stage.Knows (sessions : Uuid → Option Session) (submissions : Uuid → Option Submission)
    (locked : List Lock) : Stage → Prop
  | .writeSession _ _ _ old new => new.live = true
    ∧ (∀ x, old = some x → sessions new.sessionId = some x ∧ x.live = true
      ∧ x.eventId = new.eventId ∧ .session new.sessionId ∈ locked)
    ∧ ∀ id, newReference old new = some id → ∃ q, submissions id = some q ∧ q.Admits new.eventId
  | .checkLinks _ id _ => .submission id .forUpdate ∈ locked
  | .updateSubmission _ id statusId => .submission id .forUpdate ∈ locked
    ∧ (statusId = .approved ∨ ∀ k x, sessions k = some x → x.link ≠ some id)
  | _ => True

/-- What holds of a transaction over the committed sessions and submissions. -/
structure Connection.Holds : Prop where
  session_locked : ∀ k x, conn.sessionWrites k = some x → .session k ∈ conn.locked
  link_locked : ∀ k x id, conn.sessionWrites k = some x → x.link = some id → .link id ∈ conn.locked
  submission_locked : ∀ k q, conn.submissionWrites k = some q →
    ∃ mode, mode ≠ .keyShare ∧ .submission k mode ∈ conn.locked
  /-- An approval is only taken away under the lock of a review. -/
  submission_kept : ∀ k q, conn.submissionWrites k = some q → ∃ q₀, B k = some q₀
    ∧ q₀.eventId = q.eventId
    ∧ (q.statusId = .approved ∨ q₀.statusId ≠ .approved
      ∨ .submission k .forUpdate ∈ conn.locked)
  /-- A written link stood before, is locked, or stands in the window. -/
  reference : ∀ k x id, conn.sessionWrites k = some x → x.link = some id →
    (∃ x₀, S k = some x₀ ∧ x₀.link = some id ∧ x₀.eventId = x.eventId)
      ∨ .submission id .keyShare ∈ conn.locked ∨ conn.stage.Window id
  approved : ∀ k x id, patch conn.sessionWrites S k = some x → x.link = some id →
    ∃ q, patch conn.submissionWrites B id = some q ∧ q.Admits x.eventId
  unique : ∀ k k' x x' id, patch conn.sessionWrites S k = some x →
    patch conn.sessionWrites S k' = some x' → x.link = some id → x'.link = some id → k = k'
  knows : conn.stage.Knows (patch conn.sessionWrites S) (patch conn.submissionWrites B) conn.locked

end Connection

/-! ## Another transaction commits -/

section Commit

variable {S : Uuid → Option Session} {B : Uuid → Option Submission} {conn conn' : Connection}

/-- The two transactions hold no locks in conflict. -/
def Apart (conn conn' : Connection) : Prop :=
  ∀ l ∈ conn.locked, ∀ l' ∈ conn'.locked, ¬ l.Conflicts l'

theorem Apart.session (h : Apart conn conn') {k : Uuid} (hk : .session k ∈ conn.locked)
    (hk' : .session k ∈ conn'.locked) : False :=
  h _ hk _ hk' rfl

theorem Apart.link (h : Apart conn conn') {k : Uuid} (hk : .link k ∈ conn.locked)
    (hk' : .link k ∈ conn'.locked) : False :=
  h _ hk _ hk' rfl

theorem Apart.submission (h : Apart conn conn') {k : Uuid} {mode mode' : LockMode}
    (hk : .submission k mode ∈ conn.locked) (hk' : .submission k mode' ∈ conn'.locked)
    (hmodes : mode.Conflicts mode') : False :=
  h _ hk _ hk' ⟨rfl, hmodes⟩

theorem LockMode.conflicts_of_ne_keyShare {mode mode' : LockMode} (h : mode ≠ .keyShare)
    (h' : mode' ≠ .keyShare) : mode.Conflicts mode' := by
  cases mode with
  | keyShare => exact absurd rfl h
  | forUpdate => exact Or.inl rfl
  | noKeyUpdate =>
    cases mode' with
    | keyShare => exact absurd rfl h'
    | forUpdate => exact Or.inr (Or.inl rfl)
    | noKeyUpdate => exact Or.inr (Or.inr ⟨rfl, rfl⟩)

theorem Connection.Holds.sessionWrites_none (h : conn.Holds S B) (h' : conn'.Holds S B)
    (hapart : Apart conn conn') {k : Uuid} {x : Session} (hx : conn'.sessionWrites k = some x) :
    conn.sessionWrites k = none := by
  cases hw : conn.sessionWrites k with
  | none => rfl
  | some w => exact (hapart.session (h.session_locked k w hw) (h'.session_locked k x hx)).elim

theorem Connection.Holds.submissionWrites_none (h : conn.Holds S B) (h' : conn'.Holds S B)
    (hapart : Apart conn conn') {k : Uuid} {q : Submission}
    (hq : conn'.submissionWrites k = some q) : conn.submissionWrites k = none := by
  cases hv : conn.submissionWrites k with
  | none => rfl
  | some v =>
    obtain ⟨mode, hmode, hlock⟩ := h.submission_locked k v hv
    obtain ⟨mode', hmode', hlock'⟩ := h'.submission_locked k q hq
    exact (hapart.submission hlock hlock'
      (LockMode.conflicts_of_ne_keyShare hmode hmode')).elim

/-- No submission of the writes without approval stands in the window of the other transaction. -/
def Careful (conn conn' : Connection) : Prop :=
  ∀ k q, conn.submissionWrites k = some q → q.statusId ≠ .approved → ¬ conn'.stage.Window k

theorem Connection.Holds.admits_commit (h : conn.Holds S B)
    (hapart : Apart conn conn') (hcareful : Careful conn conn') {id eventId : Uuid} {q : Submission}
    (hq : patch conn'.submissionWrites B id = some q) (hadmits : q.Admits eventId)
    (hhold : (∃ k x, patch conn.sessionWrites S k = some x ∧ x.link = some id)
      ∨ .submission id .keyShare ∈ conn'.locked ∨ conn'.stage.Window id) :
    ∃ q', patch conn'.submissionWrites (patch conn.submissionWrites B) id = some q'
      ∧ q'.Admits eventId := by
  -- a submission that the other transaction may link stays so
  cases hv' : conn'.submissionWrites id with
  | some v' =>
    rw [patch_of_some hv'] at hq
    exact ⟨q, by rw [patch_of_some hv', hq], hadmits⟩
  | none =>
    rw [patch_of_none hv'] at hq ⊢
    cases hv : conn.submissionWrites id with
    | none => exact ⟨q, by rw [patch_of_none hv, hq], hadmits⟩
    | some v =>
      obtain ⟨q₀, hq₀, hevent, hkept⟩ := h.submission_kept id v hv
      obtain rfl := Option.some.inj (hq₀.symm.trans hq)
      refine ⟨v, patch_of_some hv, hevent ▸ hadmits.eventId, ?_⟩
      obtain happroved | hnot | hlock := hkept
      · exact happroved
      · exact absurd hadmits.statusId hnot
      · obtain ⟨k, x, hx, hlink⟩ | hlock' | hwindow := hhold
        · -- the review has seen the link
          obtain ⟨v', hv', hadmits'⟩ := h.approved k x id hx hlink
          rw [patch_of_some hv] at hv'
          obtain rfl := Option.some.inj hv'
          exact hadmits'.statusId
        · exact (hapart.submission hlock hlock' (Or.inl rfl)).elim
        · by_contra hstatus
          exact hcareful id v hv hstatus hwindow

theorem Connection.Holds.approved_commit (h : conn.Holds S B) (h' : conn'.Holds S B)
    (hready : conn.stage = .ready) (hapart : Apart conn conn') {k id : Uuid} {x : Session}
    (hwrite' : conn'.sessionWrites k = none) (hx : patch conn.sessionWrites S k = some x)
    (hlink : x.link = some id) :
    ∃ q, patch conn'.submissionWrites (patch conn.submissionWrites B) id = some q
      ∧ q.Admits x.eventId := by
  -- a link of a row that the other transaction has not written is in order for it, too
  obtain ⟨q, hq, hadmits⟩ := h.approved k x id hx hlink
  cases hv' : conn'.submissionWrites id with
  | none => exact ⟨q, by rw [patch_of_none hv', hq], hadmits⟩
  | some v' =>
    rw [patch_of_none (h.submissionWrites_none h' hapart hv')] at hq
    obtain ⟨q₀, hq₀, hevent, hkept⟩ := h'.submission_kept id v' hv'
    obtain rfl := Option.some.inj (hq₀.symm.trans hq)
    refine ⟨v', patch_of_some hv', hevent ▸ hadmits.eventId, ?_⟩
    -- a row that the other transaction still sees with the link
    have hseen (x₀ : Session) (hx₀ : S k = some x₀) (hlink₀ : x₀.link = some id) :
        v'.statusId = .approved := by
      obtain ⟨q', hq', hadmits'⟩ :=
        h'.approved k x₀ id (by rw [patch_of_none hwrite', hx₀]) hlink₀
      rw [patch_of_some hv'] at hq'
      obtain rfl := Option.some.inj hq'
      exact hadmits'.statusId
    obtain happroved | hnot | hlock' := hkept
    · exact happroved
    · exact absurd hadmits.statusId hnot
    · cases hw : conn.sessionWrites k with
      | none =>
        rw [patch_of_none hw] at hx
        exact hseen x hx hlink
      | some w =>
        rw [patch_of_some hw] at hx
        obtain rfl := Option.some.inj hx
        obtain ⟨x₀, hx₀, hlink₀, -⟩ | hlock | hwindow := h.reference k w id hw hlink
        · exact hseen x₀ hx₀ hlink₀
        · exact (hapart.submission hlock hlock' (Or.inr (Or.inl rfl))).elim
        · rw [hready] at hwindow
          exact hwindow.elim

theorem Connection.Holds.session_commit (h : conn.Holds S B) (hapart : Apart conn conn') {k : Uuid}
    (hk : .session k ∈ conn'.locked) : patch conn.sessionWrites S k = S k := by
  cases hw : conn.sessionWrites k with
  | none => exact patch_of_none hw
  | some w => exact (hapart.session (h.session_locked k w hw) hk).elim

theorem Connection.Holds.knows_commit (h : conn.Holds S B) (h' : conn'.Holds S B)
    (hready : conn.stage = .ready) (hapart : Apart conn conn') (hcareful : Careful conn conn') :
    conn'.stage.Knows (patch conn'.sessionWrites (patch conn.sessionWrites S))
      (patch conn'.submissionWrites (patch conn.submissionWrites B)) conn'.locked := by
  have hknows := h'.knows
  cases hstage : conn'.stage with
  | writeSession eventId sessions processed old new =>
    rw [hstage] at hknows
    obtain ⟨hlive, hold, hchecked⟩ := hknows
    refine ⟨hlive, fun x hx ↦ ?_, fun id hid ↦ ?_⟩
    · obtain ⟨hrow, hx_live, hevent, hlock⟩ := hold x hx
      refine ⟨?_, hx_live, hevent, hlock⟩
      rw [← hrow, patch, h.session_commit hapart hlock]
      rfl
    · obtain ⟨q, hq, hadmits⟩ := hchecked id hid
      exact h.admits_commit hapart hcareful hq hadmits (Or.inr (Or.inr (by rwa [hstage])))
  | checkLinks eventId id statusId =>
    rw [hstage] at hknows
    exact hknows
  | updateSubmission eventId id statusId =>
    rw [hstage] at hknows
    obtain ⟨hlock', hlinks⟩ := hknows
    refine ⟨hlock', hlinks.imp_right fun hlinks k x hx hlink ↦ ?_⟩
    cases hwrite' : conn'.sessionWrites k with
    | some w' =>
      rw [patch_of_some hwrite'] at hx
      exact hlinks k x (by rw [patch_of_some hwrite', hx]) hlink
    | none =>
      rw [patch_of_none hwrite'] at hx
      cases hw : conn.sessionWrites k with
      | none =>
        rw [patch_of_none hw] at hx
        exact hlinks k x (by rw [patch_of_none hwrite', hx]) hlink
      | some w =>
        rw [patch_of_some hw] at hx
        obtain rfl := Option.some.inj hx
        obtain ⟨x₀, hx₀, hlink₀, -⟩ | hlock | hwindow := h.reference k w id hw hlink
        · exact hlinks k x₀ (by rw [patch_of_none hwrite', hx₀]) hlink₀
        · exact hapart.submission hlock hlock' (Or.inr (Or.inl rfl))
        · rw [hready] at hwindow
          exact hwindow
  | _ => trivial

/-- **Another transaction commits**, outside of the window. -/
theorem Connection.Holds.commit (h : conn.Holds S B) (h' : conn'.Holds S B)
    (hready : conn.stage = .ready) (hapart : Apart conn conn') (hcareful : Careful conn conn') :
    conn'.Holds (patch conn.sessionWrites S) (patch conn.submissionWrites B) where
  session_locked := h'.session_locked
  link_locked := h'.link_locked
  submission_locked := h'.submission_locked
  submission_kept k q hq := by
    rw [patch_of_none (h.submissionWrites_none h' hapart hq)]
    exact h'.submission_kept k q hq
  reference k x id hx hlink := by
    rw [patch_of_none (h.sessionWrites_none h' hapart hx)]
    exact h'.reference k x id hx hlink
  approved k x id hx hlink := by
    cases hwrite' : conn'.sessionWrites k with
    | none =>
      rw [patch_of_none hwrite'] at hx
      exact h.approved_commit h' hready hapart hwrite' hx hlink
    | some w' =>
      rw [patch_of_some hwrite'] at hx
      obtain rfl := Option.some.inj hx
      obtain ⟨q, hq, hadmits⟩ := h'.approved k w' id (patch_of_some hwrite') hlink
      apply h.admits_commit hapart hcareful hq hadmits
      obtain ⟨x₀, hx₀, hlink₀, -⟩ | hlock := h'.reference k w' id hwrite' hlink
      · refine Or.inl ⟨k, x₀, ?_, hlink₀⟩
        rw [patch_of_none (h.sessionWrites_none h' hapart hwrite'), hx₀]
      · exact Or.inr hlock
  unique k₁ k₂ x₁ x₂ id hx₁ hx₂ hlink₁ hlink₂ := by
    have hapart_links {k k' : Uuid} {w w' : Session} (hw : conn.sessionWrites k = some w)
        (hw' : conn'.sessionWrites k' = some w') (hlink : w.link = some id)
        (hlink' : w'.link = some id) : False :=
      hapart.link (h.link_locked k w id hw hlink) (h'.link_locked k' w' id hw' hlink')
    have hsource {k : Uuid} {x : Session}
        (hx : patch conn'.sessionWrites (patch conn.sessionWrites S) k = some x) :
        conn'.sessionWrites k = some x
          ∨ patch conn.sessionWrites S k = some x ∧ (conn.sessionWrites k = some x
            ∨ patch conn'.sessionWrites S k = some x) := by
      cases hw' : conn'.sessionWrites k with
      | some w' =>
        rw [patch_of_some hw'] at hx
        exact Or.inl hx
      | none =>
        rw [patch_of_none hw'] at hx
        refine Or.inr ⟨hx, ?_⟩
        cases hw : conn.sessionWrites k with
        | some w =>
          rw [patch_of_some hw] at hx
          exact Or.inl hx
        | none =>
          rw [patch_of_none hw] at hx
          exact Or.inr (by rw [patch_of_none hw', hx])
    obtain hw₁ | ⟨hseen₁, hfrom₁⟩ := hsource hx₁
    · obtain hw₂ | ⟨-, hw₂ | hseen₂⟩ := hsource hx₂
      · exact h'.unique k₁ k₂ x₁ x₂ id (patch_of_some hw₁) (patch_of_some hw₂) hlink₁ hlink₂
      · exact (hapart_links hw₂ hw₁ hlink₂ hlink₁).elim
      · exact h'.unique k₁ k₂ x₁ x₂ id (patch_of_some hw₁) hseen₂ hlink₁ hlink₂
    · obtain hw₂ | ⟨hseen₂, -⟩ := hsource hx₂
      · obtain hw₁ | hseen₁ := hfrom₁
        · exact (hapart_links hw₁ hw₂ hlink₁ hlink₂).elim
        · exact h'.unique k₁ k₂ x₁ x₂ id hseen₁ (patch_of_some hw₂) hlink₁ hlink₂
      · exact h.unique k₁ k₂ x₁ x₂ id hseen₁ hseen₂ hlink₁ hlink₂
  knows := h.knows_commit h' hready hapart hcareful

end Commit

/-! ## Steps of a transaction -/

section Steps

variable {S : Uuid → Option Session} {B : Uuid → Option Submission} {conn : Connection}
  {stage : Stage} {locked : List Lock}

theorem Connection.Holds.advance (h : conn.Holds S B) (hsub : conn.locked ⊆ locked)
    (hwindow : ∀ id, conn.stage.Window id → .submission id .keyShare ∈ locked ∨ stage.Window id)
    (hknows : stage.Knows (patch conn.sessionWrites S) (patch conn.submissionWrites B) locked) :
    Connection.Holds S B { conn with stage := stage, locked := locked } where
  session_locked k x hx := hsub (h.session_locked k x hx)
  link_locked k x id hx hlink := hsub (h.link_locked k x id hx hlink)
  submission_locked k q hq :=
    have ⟨mode, hmode, hlock⟩ := h.submission_locked k q hq
    ⟨mode, hmode, hsub hlock⟩
  submission_kept k q hq :=
    have ⟨q₀, hq₀, hevent, hkept⟩ := h.submission_kept k q hq
    ⟨q₀, hq₀, hevent, hkept.imp_right fun h ↦ h.imp_right fun hlock ↦ hsub hlock⟩
  reference k x id hx hlink := by
    obtain hold | hlock | hopen := h.reference k x id hx hlink
    · exact Or.inl hold
    · exact Or.inr (Or.inl (hsub hlock))
    · exact Or.inr (hwindow id hopen)
  approved := h.approved
  unique := h.unique
  knows := hknows

/-- What is asked of the link of a session that is written. -/
structure LinkReady (S : Uuid → Option Session) (B : Uuid → Option Submission) (conn : Connection)
    (stage : Stage) (locked : List Lock) (new : Session) (id : Uuid) : Prop where
  locked : .link id ∈ locked
  admits : ∃ q, patch conn.submissionWrites B id = some q ∧ q.Admits new.eventId
  unique : ∀ k x, patch conn.sessionWrites S k = some x → x.link = some id → k = new.sessionId
  reference : stage.Window id ∨ ∃ x₀, patch conn.sessionWrites S new.sessionId = some x₀
    ∧ x₀.link = some id ∧ x₀.eventId = new.eventId

theorem Connection.Holds.writeSession (h : conn.Holds S B) (new : Session)
    (hsub : conn.locked ⊆ locked) (hwindow : ∀ id, conn.stage.Window id → stage.Window id)
    (hlock : .session new.sessionId ∈ locked)
    (hlink : ∀ id, new.link = some id → LinkReady S B conn stage locked new id)
    (hknows : ∀ sessions submissions, stage.Knows sessions submissions locked) :
    Connection.Holds S B { conn with
      stage := stage
      locked := locked
      sessions := new :: conn.sessions } := by
  have hwrites (k : Uuid) : lookup Session.sessionId (new :: conn.sessions) k
      = if new.sessionId = k then some new else conn.sessionWrites k :=
    lookup_cons new conn.sessions k
  have hview (k : Uuid) : patch (lookup Session.sessionId (new :: conn.sessions)) S k
      = if new.sessionId = k then some new else patch conn.sessionWrites S k := by
    rw [patch, hwrites]
    split_ifs
    · rfl
    · rfl
  constructor
  · intro k x hx
    rw [Connection.sessionWrites, hwrites] at hx
    split_ifs at hx with hk
    · rwa [← hk]
    · exact hsub (h.session_locked k x hx)
  · intro k x id hx hx_link
    rw [Connection.sessionWrites, hwrites] at hx
    split_ifs at hx with hk
    · obtain rfl := Option.some.inj hx
      exact (hlink id hx_link).locked
    · exact hsub (h.link_locked k x id hx hx_link)
  · intro k q hq
    obtain ⟨mode, hmode, hlock⟩ := h.submission_locked k q hq
    exact ⟨mode, hmode, hsub hlock⟩
  · intro k q hq
    obtain ⟨q₀, hq₀, hevent, hkept⟩ := h.submission_kept k q hq
    exact ⟨q₀, hq₀, hevent, hkept.imp_right fun h ↦ h.imp_right fun hlock ↦ hsub hlock⟩
  · intro k x id hx hx_link
    have hkeep {k : Uuid} {x : Session} (hx : conn.sessionWrites k = some x)
        (hx_link : x.link = some id) :
        (∃ x₀, S k = some x₀ ∧ x₀.link = some id ∧ x₀.eventId = x.eventId)
          ∨ .submission id .keyShare ∈ locked ∨ stage.Window id := by
      obtain hold | hlock | hopen := h.reference k x id hx hx_link
      · exact Or.inl hold
      · exact Or.inr (Or.inl (hsub hlock))
      · exact Or.inr (Or.inr (hwindow id hopen))
    rw [Connection.sessionWrites, hwrites] at hx
    split_ifs at hx with hk
    · obtain rfl := Option.some.inj hx
      obtain hopen | ⟨x₀, hx₀, hlink₀, hevent₀⟩ := (hlink id hx_link).reference
      · exact Or.inr (Or.inr hopen)
      · subst hk
        -- the row before may be a write of this transaction too
        cases hw : conn.sessionWrites new.sessionId with
        | none =>
          rw [patch_of_none hw] at hx₀
          exact Or.inl ⟨x₀, hx₀, hlink₀, hevent₀⟩
        | some w =>
          rw [patch_of_some hw] at hx₀
          obtain rfl := Option.some.inj hx₀
          rw [← hevent₀]
          exact hkeep hw hlink₀
    · exact hkeep hx hx_link
  · intro k x id hx hx_link
    rw [Connection.sessionWrites, hview] at hx
    split_ifs at hx with hk
    · obtain rfl := Option.some.inj hx
      exact (hlink id hx_link).admits
    · exact h.approved k x id hx hx_link
  · intro k k' x x' id hx hx' hx_link hx_link'
    rw [Connection.sessionWrites, hview] at hx hx'
    split_ifs at hx hx' with hk hk'
    · exact hk.symm.trans hk'
    · obtain rfl := Option.some.inj hx
      exact hk.symm.trans ((hlink id hx_link).unique k' x' hx' hx_link').symm
    · next hk' =>
      obtain rfl := Option.some.inj hx'
      exact ((hlink id hx_link').unique k x hx hx_link).trans hk'
    · exact h.unique k k' x x' id hx hx' hx_link hx_link'
  · exact hknows _ _

/-- A submission gets another status, approved or under the lock of a review that has found no
links, or it was not approved before. -/
theorem Connection.Holds.writeSubmission (h : conn.Holds S B) {old : Submission} (new : Submission)
    (hsub : conn.locked ⊆ locked) (hwindow : ∀ id, ¬ conn.stage.Window id)
    (hlock : .submission new.cfsSubmissionId .noKeyUpdate ∈ locked)
    (hold : patch conn.submissionWrites B new.cfsSubmissionId = some old)
    (hevent : old.eventId = new.eventId)
    (hstatus : new.statusId = .approved ∨ old.statusId ≠ .approved
      ∨ .submission new.cfsSubmissionId .forUpdate ∈ locked
        ∧ ∀ k x, patch conn.sessionWrites S k = some x → x.link ≠ some new.cfsSubmissionId) :
    Connection.Holds S B { conn with
      stage := .ready
      locked := locked
      submissions := new :: conn.submissions } := by
  have hwrites (k : Uuid) : lookup Submission.cfsSubmissionId (new :: conn.submissions) k
      = if new.cfsSubmissionId = k then some new else conn.submissionWrites k :=
    lookup_cons new conn.submissions k
  constructor
  · exact fun k x hx ↦ hsub (h.session_locked k x hx)
  · exact fun k x id hx hlink ↦ hsub (h.link_locked k x id hx hlink)
  · intro k q hq
    rw [Connection.submissionWrites, hwrites] at hq
    split_ifs at hq with hk
    · subst hk
      exact ⟨.noKeyUpdate, by decide, hlock⟩
    · obtain ⟨mode, hmode, hlock⟩ := h.submission_locked k q hq
      exact ⟨mode, hmode, hsub hlock⟩
  · intro k q hq
    have hkeep {q : Submission} (hq : conn.submissionWrites k = some q) :
        ∃ q₀, B k = some q₀ ∧ q₀.eventId = q.eventId ∧ (q.statusId = .approved
          ∨ q₀.statusId ≠ .approved ∨ .submission k .forUpdate ∈ locked) := by
      obtain ⟨q₀, hq₀, hevent, hkept⟩ := h.submission_kept k q hq
      exact ⟨q₀, hq₀, hevent, hkept.imp_right fun h ↦ h.imp_right fun hlock ↦ hsub hlock⟩
    rw [Connection.submissionWrites, hwrites] at hq
    split_ifs at hq with hk
    · obtain rfl := Option.some.inj hq
      subst hk
      obtain ⟨q₀, hq₀, hevent₀, hkept⟩ : ∃ q₀, B new.cfsSubmissionId = some q₀
          ∧ q₀.eventId = old.eventId ∧ (old.statusId = .approved ∨ q₀.statusId ≠ .approved
            ∨ .submission new.cfsSubmissionId .forUpdate ∈ locked) := by
        cases hv : conn.submissionWrites new.cfsSubmissionId with
        | none =>
          rw [patch_of_none hv] at hold
          refine ⟨old, hold, rfl, ?_⟩
          exact (em (old.statusId = .approved)).imp_right Or.inl
        | some v =>
          rw [patch_of_some hv] at hold
          obtain rfl := Option.some.inj hold
          exact hkeep hv
      refine ⟨q₀, hq₀, hevent₀.trans hevent, ?_⟩
      obtain happroved | hnot | ⟨hreview, -⟩ := hstatus
      · exact Or.inl happroved
      · exact Or.inr (hkept.resolve_left hnot)
      · exact Or.inr (Or.inr hreview)
    · exact hkeep hq
  · intro k x id hx hlink
    obtain hold | hlock | hopen := h.reference k x id hx hlink
    · exact Or.inl hold
    · exact Or.inr (Or.inl (hsub hlock))
    · exact absurd hopen (hwindow id)
  · intro k x id hx hlink
    obtain ⟨q, hq, hadmits⟩ := h.approved k x id hx hlink
    by_cases hid : new.cfsSubmissionId = id
    · subst hid
      obtain rfl := Option.some.inj (hold.symm.trans hq)
      refine ⟨new, patch_of_some (by rw [Connection.submissionWrites, hwrites, if_pos rfl]),
        hevent ▸ hadmits.eventId, ?_⟩
      obtain happroved | hnot | ⟨-, hnone⟩ := hstatus
      · exact happroved
      · exact absurd hadmits.statusId hnot
      · exact absurd hlink (hnone k x hx)
    · refine ⟨q, ?_, hadmits⟩
      rw [← hq, patch, patch, Connection.submissionWrites, hwrites, if_neg hid]
  · exact h.unique
  · trivial

end Steps

/-! ## Statements -/

section Statements

variable {τ : Type} {s s' : State τ} {t : τ} {conn : Connection}

def State.sessionTable (s : State τ) : Uuid → Option Session := lookup Session.sessionId s.sessions

def State.submissionTable (s : State τ) : Uuid → Option Submission :=
  lookup Submission.cfsSubmissionId s.submissions

theorem State.session?_eq (s : State τ) (t : τ) :
    s.session? t = patch (s.connection t).sessionWrites s.sessionTable := by
  funext k
  exact lookup_overlay _ _ k

theorem State.submission?_eq (s : State τ) (t : τ) :
    s.submission? t = patch (s.connection t).submissionWrites s.submissionTable := by
  funext k
  exact lookup_overlay _ _ k

theorem State.eventSession?_eq_some {eventId sessionId : Uuid} {x : Session} :
    s.eventSession? t eventId sessionId = some x
      ↔ s.session? t sessionId = some x ∧ x.live = true ∧ x.eventId = eventId := by
  rw [State.eventSession?, Option.filter_eq_some_iff]
  simp only [decide_eq_true_eq]

theorem State.reviewed?_eq_some {eventId id : Uuid} {q : Submission} :
    s.reviewed? t eventId id = some q
      ↔ s.submission? t id = some q ∧ q.eventId = eventId ∧ q.statusId ≠ .withdrawn := by
  rw [State.reviewed?, Option.filter_eq_some_iff]
  simp only [decide_eq_true_eq]

theorem State.changed?_eq_some {change : StatusChange} {q : Submission} :
    s.changed? t change = some q
      ↔ s.submission? t change.cfsSubmissionId = some q ∧ q.userId = change.userId
        ∧ q.statusId ∈ change.before := by
  rw [State.changed?, Option.filter_eq_some_iff]
  simp only [decide_eq_true_eq]

theorem State.link_ne_of_not_hasLink {id : Uuid} (h : ¬ s.HasLink t id) (k : Uuid) (x : Session)
    (hx : patch (s.connection t).sessionWrites s.sessionTable k = some x) :
    x.link ≠ some id := by
  rw [← State.session?_eq] at hx
  exact fun hlink ↦ h ⟨x, mem_of_lookup hx, hlink⟩

/-- **What the trigger lets pass.** -/
theorem admits_of_check {new : Session} {u : Unit}
    (h : checkSessionCfsSubmissionApproved s t new = .ok u) {id : Uuid}
    (hid : new.cfsSubmissionId = some id) :
    ∃ q, patch (s.connection t).submissionWrites s.submissionTable id = some q
      ∧ q.Admits new.eventId := by
  rw [checkSessionCfsSubmissionApproved, hid] at h
  simp only at h
  split at h
  · simp at h
  · next q hq =>
    simp only [bind_eq_ok, require_eq_ok] at h
    obtain ⟨-, hevent, hstatus⟩ := h
    rw [State.submission?_eq] at hq
    exact ⟨q, hq, hevent, hstatus⟩

theorem newReference_eq_some {old : Option Session} {new : Session} {id : Uuid}
    (h : newReference old new = some id) : new.cfsSubmissionId = some id := by
  rw [newReference] at h
  split_ifs at h
  exact h

theorem link_eq_some {x : Session} {id : Uuid} :
    x.link = some id ↔ x.live = true ∧ x.cfsSubmissionId = some id := by
  rw [Session.link]
  split_ifs with hlive
  · simp [hlive]
  · simp [hlive]

variable [Fintype τ] [DecidableEq τ]

theorem takeLocks_eq_ok {locks locked : List Lock} :
    takeLocks s t locks = .ok locked
      ↔ (∀ l ∈ locks, Grantable Lock.Conflicts s.held t l) ∧ locked = locks ++ s.held t := by
  simp only [takeLocks, bind_eq_ok, require_eq_ok, Except.ok.injEq]
  constructor
  · rintro ⟨-, hgrant, rfl⟩
    exact ⟨hgrant, rfl⟩
  · rintro ⟨hgrant, rfl⟩
    exact ⟨(), hgrant, rfl⟩

/-- **A statement keeps the invariant** of its transaction. -/
theorem Connection.Holds.statement
    (h : (s.connection t).Holds s.sessionTable s.submissionTable)
    (hstep : statement s t = .ok conn) : conn.Holds s.sessionTable s.submissionTable := by
  have hknows := h.knows
  have hclosed (hstage : ∀ id, ¬ (s.connection t).stage.Window id) {stage : Stage}
      {locked : List Lock} (id : Uuid) (hid : (s.connection t).stage.Window id) :
      .submission id .keyShare ∈ locked ∨ stage.Window id := absurd hid (hstage id)
  rw [Cfs.statement] at hstep
  split at hstep
  · simp at hstep
  · -- the loop over the sessions is done
    next eventId processed hstage =>
    obtain rfl := Except.ok.inj hstep
    exact h.advance (List.Subset.refl _) (hclosed (by simp [hstage, Stage.Window])) trivial
  · next eventId payload sessions processed hstage =>
    split at hstep
    · -- a session is updated
      next sessionId hsessionId =>
      split at hstep
      · simp at hstep
      · next old hold =>
        simp only [bind_eq_ok, takeLocks_eq_ok, Except.ok.injEq] at hstep
        obtain ⟨_, ⟨-, rfl⟩, _, hcheck, rfl⟩ := hstep
        obtain ⟨hrow, hlive, hevent⟩ := State.eventSession?_eq_some.1 hold
        have hid : old.sessionId = sessionId := key_of_lookup hrow
        rw [State.session?_eq] at hrow
        apply h.advance (List.subset_append_right _ _) (hclosed (by simp [hstage, Stage.Window]))
        refine ⟨hlive, ?_, fun id hreference ↦ ?_⟩
        · intro x hx
          obtain rfl := Option.some.inj hx
          exact ⟨by rw [hid, hrow], hlive, rfl, by simp [hid]⟩
        · exact admits_of_check hcheck (newReference_eq_some hreference)
    · -- a session is inserted
      simp only [bind_eq_ok, Except.ok.injEq] at hstep
      obtain ⟨_, hcheck, rfl⟩ := hstep
      apply h.advance (List.Subset.refl _) (hclosed (by simp [hstage, Stage.Window]))
      refine ⟨rfl, fun x hx ↦ absurd hx (by simp), fun id hreference ↦ ?_⟩
      exact admits_of_check hcheck (newReference_eq_some hreference)
  · -- the row is written
    next eventId sessions processed old new hstage =>
    rw [hstage] at hknows
    obtain ⟨hlive, hold, hchecked⟩ := hknows
    simp only [bind_eq_ok, takeLocks_eq_ok, require_eq_ok, Except.ok.injEq] at hstep
    obtain ⟨_, ⟨-, rfl⟩, -, -, -, hunique, rfl⟩ := hstep
    apply h.writeSession new (List.subset_append_right _ _)
    · intro id hid
      rw [hstage] at hid
      exact hid
    · exact List.mem_append_left _ List.mem_cons_self
    · intro id hlink
      obtain ⟨-, hid⟩ := link_eq_some.1 hlink
      -- a link that is not new is that of the row before
      have hsource : newReference old new = some id ∨ ∃ x, old = some x ∧ x.link = some id := by
        by_cases hnew : old.bind Session.cfsSubmissionId = new.cfsSubmissionId
        · rw [hid] at hnew
          obtain ⟨x, hx, hx_id⟩ := Option.bind_eq_some_iff.1 hnew
          exact Or.inr ⟨x, hx, link_eq_some.2 ⟨(hold x hx).2.1, hx_id⟩⟩
        · exact Or.inl (by rw [newReference, if_neg hnew, hid])
      constructor
      · simp [hid]
      · obtain hreference | ⟨x, hx, hx_link⟩ := hsource
        · exact hchecked id hreference
        · obtain ⟨hrow, -, hevent, -⟩ := hold x hx
          rw [← hevent]
          exact h.approved _ x id hrow hx_link
      · intro k x hx hx_link
        rw [← State.session?_eq] at hx
        rw [← hunique id hid x (mem_of_lookup hx) hx_link]
        exact (key_of_lookup hx).symm
      · obtain hreference | ⟨x, hx, hx_link⟩ := hsource
        · exact Or.inl hreference
        · obtain ⟨hrow, -, hevent, -⟩ := hold x hx
          exact Or.inr ⟨x, hrow, hx_link, hevent⟩
    · exact fun _ _ ↦ trivial
  · -- the foreign key is checked
    next eventId sessions processed old new hstage =>
    simp only [bind_eq_ok, takeLocks_eq_ok, Except.ok.injEq] at hstep
    obtain ⟨_, ⟨-, rfl⟩, rfl⟩ := hstep
    refine h.advance (List.subset_append_right _ _) (fun id hid ↦ ?_) trivial
    rw [hstage] at hid
    left
    apply List.mem_append_left
    simp only [Stage.Window] at hid
    simp [hid]
  · -- the deletion is done
    next eventId hstage =>
    obtain rfl := Except.ok.inj hstep
    exact h.advance (List.Subset.refl _) (hclosed (by simp [hstage, Stage.Window])) trivial
  · next eventId sessionId sessionIds hstage =>
    split at hstep
    · obtain rfl := Except.ok.inj hstep
      exact h.advance (List.Subset.refl _) (hclosed (by simp [hstage, Stage.Window])) trivial
    · -- a session is deleted
      next old hold =>
      simp only [bind_eq_ok, takeLocks_eq_ok, Except.ok.injEq] at hstep
      obtain ⟨_, ⟨-, rfl⟩, rfl⟩ := hstep
      have hid : old.sessionId = sessionId := key_of_lookup (State.eventSession?_eq_some.1 hold).1
      apply h.writeSession { old with live := false } (List.subset_append_right _ _)
      · intro id hid
        rw [hstage] at hid
        exact hid.elim
      · simp [hid]
      · intro id hlink
        exact absurd (link_eq_some.1 hlink).1 (by simp)
      · exact fun _ _ ↦ trivial
  · -- a review locks the submission
    next eventId id statusId hstage =>
    simp only [bind_eq_ok, require_eq_ok] at hstep
    obtain ⟨-, -, hstep⟩ := hstep
    split at hstep
    · simp at hstep
    · simp only [bind_eq_ok, takeLocks_eq_ok, Except.ok.injEq] at hstep
      obtain ⟨_, ⟨-, rfl⟩, rfl⟩ := hstep
      apply h.advance (List.subset_append_right _ _) (hclosed (by simp [hstage, Stage.Window]))
      exact List.mem_append_left _ List.mem_cons_self
  · -- a review looks for links
    next eventId id statusId hstage =>
    rw [hstage] at hknows
    simp only [bind_eq_ok, require_eq_ok, Except.ok.injEq] at hstep
    obtain ⟨-, hlinks, rfl⟩ := hstep
    apply h.advance (List.Subset.refl _) (hclosed (by simp [hstage, Stage.Window]))
    exact ⟨hknows, hlinks.imp_right State.link_ne_of_not_hasLink⟩
  · -- a review updates the submission
    next eventId id statusId hstage =>
    rw [hstage] at hknows
    obtain ⟨hlock, hlinks⟩ := hknows
    split at hstep
    · obtain rfl := Except.ok.inj hstep
      exact h.advance (List.Subset.refl _) (hclosed (by simp [hstage, Stage.Window])) trivial
    · next old hold =>
      simp only [bind_eq_ok, takeLocks_eq_ok, Except.ok.injEq] at hstep
      obtain ⟨_, ⟨-, rfl⟩, rfl⟩ := hstep
      obtain ⟨hrow, -⟩ := State.reviewed?_eq_some.1 hold
      obtain rfl : old.cfsSubmissionId = id := key_of_lookup hrow
      rw [State.submission?_eq] at hrow
      apply h.writeSubmission { old with statusId := statusId } (List.subset_append_right _ _)
        (by simp [hstage, Stage.Window]) (List.mem_append_left _ List.mem_cons_self) hrow rfl
      exact hlinks.imp_right fun hnone ↦ Or.inr ⟨List.mem_append_right _ hlock, hnone⟩
  · -- a speaker's change finds the submission
    next change hstage =>
    simp only [bind_eq_ok, require_eq_ok, Except.ok.injEq] at hstep
    obtain ⟨-, -, rfl⟩ := hstep
    exact h.advance (List.Subset.refl _) (hclosed (by simp [hstage, Stage.Window])) trivial
  · -- a speaker's change updates it
    next change hstage =>
    split at hstep
    · simp at hstep
    · next old hold =>
      simp only [bind_eq_ok, takeLocks_eq_ok, Except.ok.injEq] at hstep
      obtain ⟨_, ⟨-, rfl⟩, rfl⟩ := hstep
      obtain ⟨hrow, -, hstatus⟩ := State.changed?_eq_some.1 hold
      have hid : old.cfsSubmissionId = change.cfsSubmissionId := key_of_lookup hrow
      rw [State.submission?_eq, ← hid] at hrow
      apply h.writeSubmission { old with statusId := change.after } (List.subset_append_right _ _)
        (by simp [hstage, Stage.Window]) (by simp [hid]) hrow rfl
      refine Or.inr (Or.inl fun happroved ↦ ?_)
      rw [happroved] at hstatus
      exact change.before_not_approved hstatus

theorem takeLocks_granted {locks locked : List Lock} (h : takeLocks s t locks = .ok locked) :
    ∀ l ∈ locked, l ∈ s.held t ∨ Grantable Lock.Conflicts s.held t l := by
  obtain ⟨hgrant, rfl⟩ := takeLocks_eq_ok.1 h
  intro l hl
  obtain hl | hl := List.mem_append.1 hl
  · exact Or.inr (hgrant l hl)
  · exact Or.inl hl

theorem statement_granted (hstep : statement s t = .ok conn) :
    ∀ l ∈ conn.locked, l ∈ s.held t ∨ Grantable Lock.Conflicts s.held t l := by
  have hkept : ∀ l ∈ s.held t, l ∈ s.held t ∨ Grantable Lock.Conflicts s.held t l :=
    fun l hl ↦ Or.inl hl
  rw [statement] at hstep
  split at hstep
  · simp at hstep
  · obtain rfl := Except.ok.inj hstep
    exact hkept
  · split at hstep
    · split at hstep
      · simp at hstep
      · obtain ⟨locked, hlock, hstep⟩ := bind_eq_ok.1 hstep
        obtain ⟨-, -, hstep⟩ := bind_eq_ok.1 hstep
        obtain rfl := Except.ok.inj hstep
        exact takeLocks_granted hlock
    · obtain ⟨-, -, hstep⟩ := bind_eq_ok.1 hstep
      obtain rfl := Except.ok.inj hstep
      exact hkept
  · obtain ⟨locked, hlock, hstep⟩ := bind_eq_ok.1 hstep
    obtain ⟨-, -, hstep⟩ := bind_eq_ok.1 hstep
    obtain ⟨-, -, hstep⟩ := bind_eq_ok.1 hstep
    obtain rfl := Except.ok.inj hstep
    exact takeLocks_granted hlock
  · obtain ⟨locked, hlock, hstep⟩ := bind_eq_ok.1 hstep
    obtain rfl := Except.ok.inj hstep
    exact takeLocks_granted hlock
  · obtain rfl := Except.ok.inj hstep
    exact hkept
  · split at hstep
    · obtain rfl := Except.ok.inj hstep
      exact hkept
    · obtain ⟨locked, hlock, hstep⟩ := bind_eq_ok.1 hstep
      obtain rfl := Except.ok.inj hstep
      exact takeLocks_granted hlock
  · obtain ⟨-, -, hstep⟩ := bind_eq_ok.1 hstep
    split at hstep
    · simp at hstep
    · obtain ⟨locked, hlock, hstep⟩ := bind_eq_ok.1 hstep
      obtain rfl := Except.ok.inj hstep
      exact takeLocks_granted hlock
  · obtain ⟨-, -, hstep⟩ := bind_eq_ok.1 hstep
    obtain rfl := Except.ok.inj hstep
    exact hkept
  · split at hstep
    · obtain rfl := Except.ok.inj hstep
      exact hkept
    · obtain ⟨locked, hlock, hstep⟩ := bind_eq_ok.1 hstep
      obtain rfl := Except.ok.inj hstep
      exact takeLocks_granted hlock
  · obtain ⟨-, -, hstep⟩ := bind_eq_ok.1 hstep
    obtain rfl := Except.ok.inj hstep
    exact hkept
  · split at hstep
    · simp at hstep
    · obtain ⟨locked, hlock, hstep⟩ := bind_eq_ok.1 hstep
      obtain rfl := Except.ok.inj hstep
      exact takeLocks_granted hlock

end Statements

/-! ## Runs -/

section Runs

variable {τ : Type} {s s' : State τ} {t : τ} {conn : Connection}

structure State.Sound (s : State τ) : Prop where
  sessionId_nodup : (s.sessions.map Session.sessionId).Nodup
  cfsSubmissionId_nodup : (s.submissions.map Submission.cfsSubmissionId).Nodup
  idle : Connection.idle.Holds s.sessionTable s.submissionTable
  compatible : Compatible Lock.Conflicts s.held
  connection : ∀ t, (s.connection t).Holds s.sessionTable s.submissionTable

theorem Lock.Conflicts.symm (l l' : Lock) (h : l.Conflicts l') : l'.Conflicts l := by
  cases l <;> cases l' <;> simp only [Lock.Conflicts, LockMode.Conflicts] at h ⊢ <;> grind

theorem Connection.idle_holds {S : Uuid → Option Session} {B : Uuid → Option Submission}
    (happroved : ∀ k x id, S k = some x → x.link = some id →
      ∃ q, B id = some q ∧ q.Admits x.eventId)
    (hunique : ∀ k k' x x' id, S k = some x → S k' = some x' → x.link = some id →
      x'.link = some id → k = k') : Connection.idle.Holds S B where
  session_locked _ _ hx := absurd hx (by simp [idle, sessionWrites, lookup])
  link_locked _ _ _ hx := absurd hx (by simp [idle, sessionWrites, lookup])
  submission_locked _ _ hq := absurd hq (by simp [idle, submissionWrites, lookup])
  submission_kept _ _ hq := absurd hq (by simp [idle, submissionWrites, lookup])
  reference _ _ _ hx := absurd hx (by simp [idle, sessionWrites, lookup])
  approved := happroved
  unique := hunique
  knows := trivial

theorem State.Sound.linked (h : s.Sound) : Linked s.sessions s.submissions where
  approved x hx id hlink := by
    obtain ⟨q, hq, hadmits⟩ :=
      h.idle.approved _ x id (lookup_of_mem h.sessionId_nodup hx) hlink
    exact ⟨q, mem_of_lookup hq, key_of_lookup hq, hadmits.eventId, hadmits.statusId⟩
  unique x hx x' hx' id hlink hlink' := by
    apply eq_of_key_eq h.sessionId_nodup hx hx'
    exact h.idle.unique _ _ x x' id (lookup_of_mem h.sessionId_nodup hx)
      (lookup_of_mem h.sessionId_nodup hx') hlink hlink'

theorem Init.sound (h : Init s) : s.Sound := by
  have hidle : Connection.idle.Holds s.sessionTable s.submissionTable := by
    apply Connection.idle_holds
    · intro k x id hx hlink
      obtain ⟨q, hq, rfl, hevent, hstatus⟩ := h.linked.approved x (mem_of_lookup hx) id hlink
      exact ⟨q, lookup_of_mem h.cfsSubmissionId_nodup hq, hevent, hstatus⟩
    · intro k k' x x' id hx hx' hlink hlink'
      rw [← key_of_lookup hx, ← key_of_lookup hx',
        h.linked.unique x (mem_of_lookup hx) x' (mem_of_lookup hx') id hlink hlink']
  refine ⟨h.sessionId_nodup, h.cfsSubmissionId_nodup, hidle, ?_, fun t ↦ ?_⟩
  · intro t t' _ l hl
    rw [State.held, h.idle] at hl
    exact absurd hl List.not_mem_nil
  · rw [h.idle]
    exact hidle

variable [DecidableEq τ]

@[simp] theorem State.sessionTable_connect : (s.connect t conn).sessionTable = s.sessionTable := rfl

@[simp] theorem State.submissionTable_connect :
    (s.connect t conn).submissionTable = s.submissionTable := rfl

@[simp] theorem State.connection_connect_self : (s.connect t conn).connection t = conn := by
  simp only [State.connect, Function.update_self]

theorem State.connection_connect_of_ne {t' : τ} (h : t' ≠ t) :
    (s.connect t conn).connection t' = s.connection t' := by
  simp only [State.connect, Function.update_of_ne h]

theorem State.compatible_connect (h : Compatible Lock.Conflicts s.held)
    (hlocks : ∀ l ∈ conn.locked, l ∈ s.held t ∨ Grantable Lock.Conflicts s.held t l) :
    Compatible Lock.Conflicts (s.connect t conn).held := by
  apply h.update (t := t) Lock.Conflicts.symm
  · intro t' ht'
    rw [State.held, State.held, State.connection_connect_of_ne ht']
  · rwa [State.held, State.connection_connect_self]

theorem State.Sound.connect (h : s.Sound) (hconn : conn.Holds s.sessionTable s.submissionTable)
    (hlocks : ∀ l ∈ conn.locked, l ∈ s.held t ∨ Grantable Lock.Conflicts s.held t l) :
    (s.connect t conn).Sound where
  sessionId_nodup := h.sessionId_nodup
  cfsSubmissionId_nodup := h.cfsSubmissionId_nodup
  idle := h.idle
  compatible := State.compatible_connect h.compatible hlocks
  connection t' := by
    rw [State.sessionTable_connect, State.submissionTable_connect]
    by_cases ht' : t' = t
    · subst ht'
      rwa [State.connection_connect_self]
    · rw [State.connection_connect_of_ne ht']
      exact h.connection t'

theorem State.Sound.rollback (h : s.Sound) : (s.connect t .idle).Sound :=
  h.connect h.idle fun _ hl ↦ absurd hl List.not_mem_nil

/-- **What the code does not see to.** The transaction takes an approval away from a submission that
another one has checked, and not yet locked, for a session that it is about to link. -/
def State.Overlooks (s : State τ) (t : τ) : Prop :=
  ∃ q ∈ (s.connection t).submissions, q.statusId ≠ .approved
    ∧ ∃ t', t' ≠ t ∧ (s.connection t').stage.Window q.cfsSubmissionId

theorem State.Sound.commit (h : s.Sound) (hready : (s.connection t).stage = .ready)
    (hcareful : ¬ s.Overlooks t) : (s.commit t).Sound := by
  have hholds := h.connection t
  have hsessions : lookup Session.sessionId (s.sessionView t)
      = patch (s.connection t).sessionWrites s.sessionTable := s.session?_eq t
  have hsubmissions : lookup Submission.cfsSubmissionId (s.submissionView t)
      = patch (s.connection t).submissionWrites s.submissionTable := s.submission?_eq t
  have hidle : Connection.idle.Holds (lookup Session.sessionId (s.sessionView t))
      (lookup Submission.cfsSubmissionId (s.submissionView t)) := by
    rw [hsessions, hsubmissions]
    exact Connection.idle_holds hholds.approved hholds.unique
  refine ⟨nodup_keys_overlay _ h.sessionId_nodup, nodup_keys_overlay _ h.cfsSubmissionId_nodup,
    hidle, ?_, fun t' ↦ ?_⟩
  · apply State.compatible_connect h.compatible
    exact fun l hl ↦ absurd hl List.not_mem_nil
  · rw [State.commit]
    by_cases ht' : t' = t
    · subst ht'
      rw [State.connection_connect_self]
      exact hidle
    · rw [State.connection_connect_of_ne ht']
      change (s.connection t').Holds (lookup Session.sessionId (s.sessionView t))
        (lookup Submission.cfsSubmissionId (s.submissionView t))
      rw [hsessions, hsubmissions]
      apply hholds.commit (h.connection t') hready
      · exact h.compatible t t' (Ne.symm ht')
      · intro k q hq hstatus hwindow
        obtain rfl := key_of_lookup hq
        exact hcareful ⟨q, mem_of_lookup hq, hstatus, t', ht', hwindow⟩

variable [Fintype τ]

instance (s : State τ) (t : τ) : Decidable (s.Overlooks t) :=
  inferInstanceAs (Decidable (∃ q ∈ (s.connection t).submissions, q.statusId ≠ .approved
    ∧ ∃ t', t' ≠ t ∧ (s.connection t').stage.Window q.cfsSubmissionId))

/-- **One step**, which overlooks no check of another transaction if it is a commit. -/
theorem State.Sound.step (h : s.Sound) {action : Action}
    (hcareful : action = .commit → ¬ s.Overlooks t) (hrun : action.run t s = .ok s') :
    s'.Sound := by
  have hconn := h.connection t
  cases action with
  | call request =>
    simp only [Action.run, bind_eq_ok, require_eq_ok, Except.ok.injEq] at hrun
    obtain ⟨-, hready, rfl⟩ := hrun
    refine h.connect (hconn.advance (List.Subset.refl _) (fun id hid ↦ ?_) ?_) fun l hl ↦ Or.inl hl
    · rw [hready] at hid
      exact hid.elim
    · cases request <;> trivial
  | advance =>
    simp only [Action.run] at hrun
    split at hrun
    · next conn hok =>
      obtain rfl := Except.ok.inj hrun
      exact h.connect (hconn.statement hok) (statement_granted hok)
    · obtain rfl := Except.ok.inj hrun
      exact h.rollback
    · simp at hrun
  | commit =>
    simp only [Action.run, bind_eq_ok, require_eq_ok, Except.ok.injEq] at hrun
    obtain ⟨-, hready, rfl⟩ := hrun
    exact h.commit hready (hcareful rfl)
  | rollback =>
    obtain rfl := Except.ok.inj hrun
    exact h.rollback

/-- The states of the runs in which no commit overlooks a check. -/
def State.ReachedCarefully (s : State τ) : Prop :=
  Reachable (fun _ s s' ↦ ∃ t action, (action = .commit → ¬ s.Overlooks t)
    ∧ Action.run t action s = .ok s') (fun _ _ ↦ True) Init () s

/-- **Linked submissions stay approved** in every run in which no review commits while another
transaction stands between the check of the same submission and its lock. -/
theorem State.ReachedCarefully.linked_submissions (h : s.ReachedCarefully) :
    Linked s.sessions s.submissions :=
  (h.stable (fun _ ↦ Init.sound) fun _ _ _ hsound hstep ↦
    have ⟨_, _, hcareful, hrun⟩ := hstep
    hsound.step hcareful hrun).linked

def State.run (_ : Unit) (entry : τ × Action) (s : State τ) : Except Interrupt (State τ) :=
  entry.2.run entry.1 s

/-- The same, without a commit that overlooks a check. -/
def State.runCarefully (_ : Unit) (entry : τ × Action) (s : State τ) :
    Except Interrupt (State τ) := do
  require (entry.2 = .commit → ¬ s.Overlooks entry.1) .waits
  entry.2.run entry.1 s

/-- A session without a link, an approved submission of its event, and two connections. -/
def State.sample : State (Fin 2) where
  sessions := [⟨1, none, 1, true⟩]
  submissions := [⟨7, 1, .approved, 1⟩]
  connection := fun _ ↦ .idle

theorem State.init_sample : Init State.sample where
  sessionId_nodup := by decide
  cfsSubmissionId_nodup := by decide
  linked := ⟨by decide, by decide⟩
  idle _ := rfl

/-- The session is linked to the submission while a review of it waits for the foreign key; the
review is turned down then. -/
def carefulScript : List (Unit × Fin 2 × Action) :=
  [((), 0, .call (.syncEventSessions 1 (some [⟨some 1, 0, some 7⟩]))), ((), 0, .advance),
    ((), 1, .call (.updateCfsSubmission 1 7 .rejected)),
    ((), 0, .advance), ((), 0, .advance), ((), 0, .advance), ((), 0, .advance), ((), 0, .commit),
    ((), 1, .advance), ((), 1, .advance)]

theorem State.ReachedCarefully.linked_submissions_sample :
    ∃ s : State (Fin 2), s.ReachedCarefully ∧ Linked s.sessions s.submissions
      ∧ s.sessions = [⟨1, some 7, 1, true⟩] ∧ s.submissions = [⟨7, 1, .approved, 1⟩] := by
  have hreplays : Replays State.runCarefully carefulScript State.sample fun s ↦
      s.sessions = [⟨1, some 7, 1, true⟩] ∧ s.submissions = [⟨7, 1, .approved, 1⟩] := by
    decide +kernel
  obtain ⟨s, hs, hrows⟩ := exists_of_replays hreplays
  have hrun (u : Unit) (entry : Fin 2 × Action) (s s' : State (Fin 2))
      (h : State.runCarefully u entry s = .ok s') :
      ∃ t action, (action = .commit → ¬ s.Overlooks t) ∧ Action.run t action s = .ok s' := by
    simp only [State.runCarefully, bind_eq_ok, require_eq_ok] at h
    obtain ⟨-, hcareful, hrun⟩ := h
    exact ⟨entry.1, entry.2, hcareful, hrun⟩
  have hreached : s.ReachedCarefully :=
    reachable_of_replay hrun (.start (t := ()) State.init_sample)
      (List.pairwise_of_forall fun _ _ ↦ trivial) hs
  exact ⟨s, hreached, hreached.linked_submissions, hrows⟩

/-- **A review and a session save at the same time.** The trigger has let the link pass; then the
review takes the approval away and commits; then the link is written and committed. -/
def overlookedScript : List (Unit × Fin 2 × Action) :=
  [((), 0, .call (.syncEventSessions 1 (some [⟨some 1, 0, some 7⟩]))), ((), 0, .advance),
    ((), 1, .call (.updateCfsSubmission 1 7 .rejected)), ((), 1, .advance), ((), 1, .advance),
    ((), 1, .advance), ((), 1, .commit),
    ((), 0, .advance), ((), 0, .advance), ((), 0, .advance), ((), 0, .advance), ((), 0, .commit)]

theorem not_linked : ¬ ∀ s : State (Fin 2), s.Reached → Linked s.sessions s.submissions := by
  have hreplays : Replays State.run overlookedScript State.sample fun s ↦
      s.sessions = [⟨1, some 7, 1, true⟩] ∧ s.submissions = [⟨7, 1, .rejected, 1⟩] := by
    decide +kernel
  obtain ⟨s, hs, hsessions, hsubmissions⟩ := exists_of_replays hreplays
  have hreached : s.Reached :=
    reachable_of_replay (fun _ entry _ _ hrun ↦ ⟨entry.1, entry.2, hrun⟩)
      (.start (t := ()) State.init_sample) (List.pairwise_of_forall fun _ _ ↦ trivial) hs
  intro h
  obtain ⟨q, hq, -, -, hstatus⟩ :=
    (h s hreached).approved ⟨1, some 7, 1, true⟩ (by simp [hsessions])
    7 rfl
  rw [hsubmissions, List.mem_singleton] at hq
  subst hq
  exact absurd hstatus (by decide)

end Runs

end Ocg.Cfs
