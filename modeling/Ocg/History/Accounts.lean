import Ocg.Auth.Login

/-!
# Sessions and verified addresses

A session is good for as long as the account has the hash that it stores, and the hash is drawn anew
whenever the password changes. So whoever holds a row of the account, be it an old one, knows the
password that goes with its hash (`AuthDatabase.Knows`): a session that is still accepted was opened
with the password of today, however long its login took, and a session from before a change is never
accepted again. A hash that is gone is one that is known to go with any password.

An address becomes verified in four places, and in each the account still has the address that was
proven: a code stays with the address that it was mailed to, because an account with a code is
unverified and only verified accounts change their address; and a placeholder keeps its address
until it is activated.
-/

namespace Ocg.Auth

open Relational

variable {verifies : String → String → Bool} {now : Timestamp} {db db' : AuthDatabase}
  {s s' : AuthSystem}

/-! ## Evidence -/

/-- The address is the asserted one, up to case and outer spaces. -/
def IsAddress (address asserted : String) : Prop :=
  lower address = lower asserted ∨ lower address = lower (btrim asserted)

/-- Somebody has proven to hold the address of the account: an identity provider has asserted it, or
a code that was mailed there was presented. -/
def AuthSystem.Proven (s : AuthSystem) (u : User) : Prop :=
  (∃ summary ∈ s.asserted, IsAddress u.email summary.email)
    ∨ ∃ code ∈ s.presented, mailTo code u ∈ s.mails

/-- The row is the asserted user's: it has the address, and the linked login if there is one. -/
structure User.Matches (user : User) (summary : UserSummary) : Prop where
  address : IsAddress user.email summary.email
  linked : ∀ provider ∈ summary.provider, ∀ login ∈ provider.linuxfoundation,
    user.provider.bind UserProvider.linuxfoundation = some login

/-- What was presented was good for the row. -/
def Credentials.Opens (verifies : String → String → Bool) (asserted : List UserSummary)
    (user : User) : Credentials → Prop
  | .password username secret => lower user.username = lower username
    ∧ ∃ hash, user.password = some hash ∧ verifies secret hash = true
  | .external summary => summary ∈ asserted ∧ user.Matches summary

/-- The password of the row is the one of its account, as long as the account has its hash. -/
structure AuthDatabase.Knows (db : AuthDatabase) (user : User) : Prop where
  issued : user.authHash < db.nextAuthHash
  password : ∀ u ∈ db.users, u.userId = user.userId → u.authHash = user.authHash →
    u.password = user.password

def User.IsVerified (u : User) : Prop :=
  u.registrationStatus = .registered ∧ u.emailVerified = true

/-- The account waits for its code. -/
def User.AwaitsCode (u : User) : Prop :=
  u.registrationStatus = .registered ∧ u.emailVerified = false

def AuthDatabase.HasVerified (db : AuthDatabase) (userId : Uuid) : Prop :=
  ∃ u ∈ db.users, u.userId = userId ∧ u.IsVerified

/-- The account has the address, unless it is no placeholder any more. -/
def AuthDatabase.Invites (db : AuthDatabase) (userId : Uuid) (email : String) : Prop :=
  ∃ u ∈ db.users, u.userId = userId
    ∧ (u.registrationStatus = .preRegistered → lower u.email = lower email)

/-! ## Logins -/

/-- What a login has loaded, and what it may still do with it. -/
def LoginProcess.Sound (verifies : String → String → Bool) (s : AuthSystem) : LoginProcess → Prop
  | .checkingPassword username _ user => s.db.Knows user ∧ lower user.username = lower username
  | .findingIdentity summary | .findingEmail summary | .signingUp summary => summary ∈ s.asserted
  | .updating summary userId => summary ∈ s.asserted ∧ s.db.HasVerified userId
  | .activating summary userId => summary ∈ s.asserted ∧ s.db.Invites userId summary.email
  | .linking summary _ user => s.db.Knows user ∧ summary ∈ s.asserted ∧ user.Matches summary
  | .opening credentials user => s.db.Knows user ∧ credentials.Opens verifies s.asserted user

/-- What a session was opened with. -/
structure Session.Sound (verifies : String → String → Bool) (s : AuthSystem) (session : Session) :
    Prop where
  userId : session.userId = session.openedAs.userId
  authHash : session.authHash = session.openedAs.authHash
  known : s.db.Knows session.openedAs
  opened : session.credentials.Opens verifies s.asserted session.openedAs

/-- Everything that was learned about accounts stays true. -/
structure AuthDatabase.Keeps (db db' : AuthDatabase) : Prop where
  knows : ∀ user, db.Knows user → db'.Knows user
  verified : ∀ userId, db.HasVerified userId → db'.HasVerified userId
  invites : ∀ userId email, db.Invites userId email → db'.Invites userId email

/-- More is asserted, mailed and presented. -/
structure AuthSystem.Grows (s s' : AuthSystem) : Prop where
  keeps : s.db.Keeps s'.db
  asserted : ∀ summary ∈ s.asserted, summary ∈ s'.asserted
  mails : ∀ mail ∈ s.mails, mail ∈ s'.mails
  presented : ∀ code ∈ s.presented, code ∈ s'.presented

theorem AuthDatabase.Keeps.refl (db : AuthDatabase) : db.Keeps db :=
  ⟨fun _ h ↦ h, fun _ h ↦ h, fun _ _ h ↦ h⟩

theorem AuthSystem.Grows.of_keeps (h : s.db.Keeps db) : s.Grows { s with db := db } :=
  ⟨h, fun _ h ↦ h, fun _ h ↦ h, fun _ h ↦ h⟩

theorem AuthSystem.Grows.proven {u : User} (h : s.Grows s') (hu : s.Proven u) : s'.Proven u := by
  obtain ⟨summary, hsummary, haddress⟩ | ⟨code, hcode, hmail⟩ := hu
  · exact .inl ⟨summary, h.asserted summary hsummary, haddress⟩
  · exact .inr ⟨code, h.presented code hcode, h.mails _ hmail⟩

theorem Credentials.Opens.mono {credentials : Credentials} {user : User}
    (h : credentials.Opens verifies s.asserted user) (hgrows : s.Grows s') :
    credentials.Opens verifies s'.asserted user := by
  cases credentials with
  | password => exact h
  | external summary => exact ⟨hgrows.asserted summary h.1, h.2⟩

theorem LoginProcess.Sound.mono {process : LoginProcess} (h : process.Sound verifies s)
    (hgrows : s.Grows s') : process.Sound verifies s' := by
  cases process with
  | checkingPassword => exact ⟨hgrows.keeps.knows _ h.1, h.2⟩
  | findingIdentity | findingEmail | signingUp => exact hgrows.asserted _ h
  | updating => exact ⟨hgrows.asserted _ h.1, hgrows.keeps.verified _ h.2⟩
  | activating => exact ⟨hgrows.asserted _ h.1, hgrows.keeps.invites _ _ h.2⟩
  | linking => exact ⟨hgrows.keeps.knows _ h.1, hgrows.asserted _ h.2.1, h.2.2⟩
  | opening => exact ⟨hgrows.keeps.knows _ h.1, h.2.mono hgrows⟩

theorem Session.Sound.mono {session : Session} (h : session.Sound verifies s)
    (hgrows : s.Grows s') : session.Sound verifies s' :=
  ⟨h.userId, h.authHash, hgrows.keeps.knows _ h.known, h.opened.mono hgrows⟩

/-! ## Sound installations -/

structure AuthSystem.Sound (verifies : String → String → Bool) (s : AuthSystem) : Prop where
  userKeys : (s.db.users.map User.userId).Nodup
  issued : ∀ u ∈ s.db.users, u.userId < s.db.nextUserId ∧ u.authHash < s.db.nextAuthHash
  codeKeys : (s.db.codes.map EmailVerificationCode.userId).Nodup
  codes : ∀ row ∈ s.db.codes, ∃ u ∈ s.db.users, u.userId = row.userId ∧ u.AwaitsCode
    ∧ mailTo row.emailVerificationCodeId u ∈ s.mails
  verified : ∀ u ∈ s.db.users, u.emailVerified = true → s.Proven u
  processes : ∀ process ∈ s.processes, process.Sound verifies s
  sessions : ∀ session ∈ s.sessions, session.Sound verifies s

/-- What a transaction may make of a row. -/
structure User.Becomes (db : AuthDatabase) (new old : User) : Prop where
  id : new.userId = old.userId
  credential : (new.authHash = old.authHash ∧ new.password = old.password)
    ∨ new.authHash = db.nextAuthHash
  verified : old.IsVerified → new.IsVerified
  placeholder : new.registrationStatus = .preRegistered →
    old.registrationStatus = .preRegistered ∧ new.email = old.email

theorem AuthDatabase.Keeps.write {old new : User} {codes : List EmailVerificationCode}
    {nextAuthHash : ℕ} (hkeys : (db.users.map User.userId).Nodup) (hold : old ∈ db.users)
    (hbecomes : new.Becomes db old) (hnext : db.nextAuthHash ≤ nextAuthHash) :
    db.Keeps ⟨replaceRow User.userId new db.users, codes, db.nextUserId, nextAuthHash⟩ := by
  have hstays {u : User} (hu : u ∈ db.users) : u = old
      ∨ u ∈ replaceRow User.userId new db.users := by
    by_cases hid : u.userId = new.userId
    · exact .inl (eq_of_key_eq hkeys hu hold (hid.trans hbecomes.id))
    · exact .inr (mem_replaceRow_of_ne hu hid)
  have hnew : new ∈ replaceRow User.userId new db.users :=
    new_mem_replaceRow hold hbecomes.id.symm
  refine ⟨fun user huser ↦ ⟨huser.issued.trans_le hnext, fun u hu hid hhash ↦ ?_⟩,
    fun userId hverified ↦ ?_, fun userId email hinvites ↦ ?_⟩
  · obtain rfl | ⟨hu, -⟩ := mem_replaceRow hu
    · obtain ⟨hsame, hpassword⟩ | hfresh := hbecomes.credential
      · rw [hpassword]
        exact huser.password old hold (hbecomes.id.symm.trans hid) (hsame.symm.trans hhash)
      · exact absurd (hhash ▸ hfresh) huser.issued.ne
    · exact huser.password u hu hid hhash
  · obtain ⟨u, hu, hid, hverified⟩ := hverified
    obtain rfl | hu := hstays hu
    · exact ⟨new, hnew, hbecomes.id.trans hid, hbecomes.verified hverified⟩
    · exact ⟨u, hu, hid, hverified⟩
  · obtain ⟨u, hu, hid, hemail⟩ := hinvites
    obtain rfl | hu := hstays hu
    · refine ⟨new, hnew, hbecomes.id.trans hid, fun hplaceholder ↦ ?_⟩
      obtain ⟨hwas, hsame⟩ := hbecomes.placeholder hplaceholder
      rw [hsame]
      exact hemail hwas
    · exact ⟨u, hu, hid, hemail⟩

theorem AuthDatabase.Keeps.insert {new : User} {codes : List EmailVerificationCode}
    (hhash : new.authHash = db.nextAuthHash) :
    db.Keeps ⟨db.users ++ [new], codes, db.nextUserId + 1, db.nextAuthHash + 1⟩ := by
  refine ⟨fun user huser ↦ ⟨huser.issued.trans (Nat.lt_succ_self _), fun u hu hid hsame ↦ ?_⟩,
    fun userId hverified ↦ ?_, fun userId email hinvites ↦ ?_⟩
  · obtain hu | hu := List.mem_append.1 hu
    · exact huser.password u hu hid hsame
    · rw [List.mem_singleton.1 hu, hhash] at hsame
      exact absurd hsame.symm huser.issued.ne
  · obtain ⟨u, hu, hrest⟩ := hverified
    exact ⟨u, List.mem_append_left _ hu, hrest⟩
  · obtain ⟨u, hu, hrest⟩ := hinvites
    exact ⟨u, List.mem_append_left _ hu, hrest⟩

theorem AuthSystem.Sound.learn {mails : List Mail} {presented : List Uuid}
    {asserted : List UserSummary} (h : s.Sound verifies) (hmails : ∀ mail ∈ s.mails, mail ∈ mails)
    (hpresented : ∀ code ∈ s.presented, code ∈ presented)
    (hasserted : ∀ summary ∈ s.asserted, summary ∈ asserted) :
    AuthSystem.Sound verifies
      { s with mails := mails, presented := presented, asserted := asserted } := by
  have hgrows : s.Grows { s with mails := mails, presented := presented, asserted := asserted } :=
    ⟨.refl _, hasserted, hmails, hpresented⟩
  refine ⟨h.userKeys, h.issued, h.codeKeys, fun row hrow ↦ ?_,
    fun u hu hverified ↦ hgrows.proven (h.verified u hu hverified),
    fun process hprocess ↦ (h.processes process hprocess).mono hgrows,
    fun session hsession ↦ (h.sessions session hsession).mono hgrows⟩
  obtain ⟨u, hu, hid, hawaits, hmail⟩ := h.codes row hrow
  exact ⟨u, hu, hid, hawaits, hmails _ hmail⟩

/-- A code row after the row of an account was written: it belongs to another account, or to the
written one, which waits for it. -/
def AuthSystem.AllowsCode (s : AuthSystem) (new : User) (row : EmailVerificationCode) : Prop :=
  (row ∈ s.db.codes ∧ row.userId ≠ new.userId)
    ∨ (row.userId = new.userId ∧ new.AwaitsCode ∧ mailTo row.emailVerificationCodeId new ∈ s.mails)

/-- **A written row keeps an installation sound** when a verified one has proven its address. -/
theorem AuthSystem.Sound.write {old new : User} {codes : List EmailVerificationCode}
    {nextAuthHash : ℕ} (h : s.Sound verifies) (hold : old ∈ s.db.users)
    (hbecomes : new.Becomes s.db old)
    (hnext : s.db.nextAuthHash ≤ nextAuthHash ∧ new.authHash < nextAuthHash)
    (hverified : new.emailVerified = true → s.Proven new)
    (hcodeKeys : (codes.map EmailVerificationCode.userId).Nodup)
    (hcodes : ∀ row ∈ codes, s.AllowsCode new row) :
    AuthSystem.Sound verifies { s with
        db := ⟨replaceRow User.userId new s.db.users, codes, s.db.nextUserId, nextAuthHash⟩ }
      ∧ s.db.Keeps
        ⟨replaceRow User.userId new s.db.users, codes, s.db.nextUserId, nextAuthHash⟩ := by
  have hkeeps : s.db.Keeps
      ⟨replaceRow User.userId new s.db.users, codes, s.db.nextUserId, nextAuthHash⟩ :=
    .write h.userKeys hold hbecomes hnext.1
  have hgrows := AuthSystem.Grows.of_keeps hkeeps
  refine ⟨⟨?_, fun u hu ↦ ?_, hcodeKeys, fun row hrow ↦ ?_, fun u hu hu' ↦ ?_,
    fun process hprocess ↦ (h.processes process hprocess).mono hgrows,
    fun session hsession ↦ (h.sessions session hsession).mono hgrows⟩, hkeeps⟩
  · rw [map_key_replaceRow]
    exact h.userKeys
  · obtain rfl | ⟨hu, -⟩ := mem_replaceRow hu
    · exact ⟨hbecomes.id ▸ (h.issued old hold).1, hnext.2⟩
    · exact ⟨(h.issued u hu).1, (h.issued u hu).2.trans_le hnext.1⟩
  · obtain ⟨hrow, hne⟩ | ⟨hid, hawaits, hmail⟩ := hcodes row hrow
    · obtain ⟨u, hu, hid, hrest⟩ := h.codes row hrow
      exact ⟨u, mem_replaceRow_of_ne hu (hid ▸ hne), hid, hrest⟩
    · exact ⟨new, new_mem_replaceRow hold hbecomes.id.symm, hid.symm, hawaits, hmail⟩
  · obtain rfl | ⟨hu, -⟩ := mem_replaceRow hu
    · exact hgrows.proven (hverified hu')
    · exact hgrows.proven (h.verified u hu hu')

theorem AuthSystem.Sound.codes_of_same {old new : User} (h : s.Sound verifies)
    (hold : old ∈ s.db.users) (hid : new.userId = old.userId) (hemail : new.email = old.email)
    (hstatus : new.registrationStatus = old.registrationStatus)
    (hverified : new.emailVerified = old.emailVerified) :
    ∀ row ∈ s.db.codes, s.AllowsCode new row := by
  intro row hrow
  obtain ⟨u, hu, hu', hawaits, hmail⟩ := h.codes row hrow
  by_cases hrow' : row.userId = new.userId
  · obtain rfl := eq_of_key_eq h.userKeys hu hold (hu'.trans (hrow'.trans hid))
    refine .inr ⟨hrow', ⟨hstatus.trans hawaits.1, hverified.trans hawaits.2⟩, ?_⟩
    rw [mailTo, hid, hemail]
    exact hmail
  · exact .inl ⟨hrow, hrow'⟩

theorem AuthSystem.Sound.codes_of_not_awaits {old new : User} (h : s.Sound verifies)
    (hold : old ∈ s.db.users) (hid : new.userId = old.userId) (hawaits : ¬ old.AwaitsCode) :
    ∀ row ∈ s.db.codes, s.AllowsCode new row := by
  intro row hrow
  obtain ⟨u, hu, hu', hwaits, -⟩ := h.codes row hrow
  refine .inl ⟨hrow, fun hrow' ↦ hawaits ?_⟩
  rwa [← eq_of_key_eq h.userKeys hu hold (hu'.trans (hrow'.trans hid))]

/-- **An inserted row keeps an installation sound.** -/
theorem AuthSystem.Sound.insert {new : User} {codes : List EmailVerificationCode}
    (h : s.Sound verifies) (hid : new.userId = s.db.nextUserId)
    (hhash : new.authHash = s.db.nextAuthHash)
    (hverified : new.emailVerified = true → s.Proven new)
    (hcodeKeys : (codes.map EmailVerificationCode.userId).Nodup)
    (hcodes : ∀ row ∈ codes, s.AllowsCode new row) :
    AuthSystem.Sound verifies { s with
        db := ⟨s.db.users ++ [new], codes, s.db.nextUserId + 1, s.db.nextAuthHash + 1⟩ }
      ∧ s.db.Keeps
        ⟨s.db.users ++ [new], codes, s.db.nextUserId + 1, s.db.nextAuthHash + 1⟩ := by
  have hkeeps : s.db.Keeps
      ⟨s.db.users ++ [new], codes, s.db.nextUserId + 1, s.db.nextAuthHash + 1⟩ := .insert hhash
  have hgrows := AuthSystem.Grows.of_keeps hkeeps
  refine ⟨⟨?_, fun u hu ↦ ?_, hcodeKeys, fun row hrow ↦ ?_, fun u hu hu' ↦ ?_,
    fun process hprocess ↦ (h.processes process hprocess).mono hgrows,
    fun session hsession ↦ (h.sessions session hsession).mono hgrows⟩, hkeeps⟩
  · exact nodup_keys_append h.userKeys fun u hu ↦ hid ▸ (h.issued u hu).1.ne
  · obtain hu | hu := List.mem_append.1 hu
    · obtain ⟨hid', hhash'⟩ := h.issued u hu
      exact ⟨hid'.trans (Nat.lt_succ_self _), hhash'.trans (Nat.lt_succ_self _)⟩
    · rw [List.mem_singleton.1 hu, hid, hhash]
      exact ⟨Nat.lt_succ_self _, Nat.lt_succ_self _⟩
  · obtain ⟨hrow, -⟩ | ⟨hrow', hawaits, hmail⟩ := hcodes row hrow
    · obtain ⟨u, hu, hrest⟩ := h.codes row hrow
      exact ⟨u, List.mem_append_left _ hu, hrest⟩
    · exact ⟨new, List.mem_append_right _ (List.mem_singleton_self new), hrow'.symm, hawaits, hmail⟩
  · obtain hu | hu := List.mem_append.1 hu
    · exact hgrows.proven (h.verified u hu hu')
    · rw [List.mem_singleton.1 hu] at hu' ⊢
      exact hgrows.proven (hverified hu')

theorem AuthSystem.Sound.codes_of_new {new : User} (h : s.Sound verifies)
    (hid : new.userId = s.db.nextUserId) : ∀ row ∈ s.db.codes, s.AllowsCode new row := by
  intro row hrow
  obtain ⟨u, hu, hu', -⟩ := h.codes row hrow
  refine .inl ⟨hrow, fun hrow' ↦ ?_⟩
  exact (h.issued u hu).1.ne (hu'.trans (hrow'.trans hid))

theorem AuthSystem.Sound.codes_store {new : User} {code : Uuid} (h : s.Sound verifies)
    (createdAt : Timestamp) (hawaits : new.AwaitsCode) (hmail : mailTo code new ∈ s.mails) :
    ((⟨code, createdAt, new.userId⟩ :: s.db.codes.filter fun row ↦ row.userId ≠ new.userId
        : List EmailVerificationCode).map EmailVerificationCode.userId).Nodup
      ∧ ∀ row ∈ (⟨code, createdAt, new.userId⟩ :: s.db.codes.filter fun row ↦
        row.userId ≠ new.userId : List EmailVerificationCode), s.AllowsCode new row := by
  have hothers {row : EmailVerificationCode}
      (hrow : row ∈ s.db.codes.filter fun row ↦ row.userId ≠ new.userId) :
      row ∈ s.db.codes ∧ row.userId ≠ new.userId := by
    obtain ⟨hrow, hne⟩ := List.mem_filter.1 hrow
    exact ⟨hrow, of_decide_eq_true hne⟩
  constructor
  · refine List.nodup_cons.2 ⟨fun hmem ↦ ?_, nodup_keys_filter h.codeKeys _⟩
    obtain ⟨row, hrow, hid⟩ := List.mem_map.1 hmem
    exact (hothers hrow).2 hid
  · intro row hrow
    obtain rfl | hrow := List.mem_cons.1 hrow
    · exact .inr ⟨rfl, hawaits, hmail⟩
    · exact .inl (hothers hrow)

theorem AuthSystem.Sound.knows {u : User} (h : s.Sound verifies) (hu : u ∈ s.db.users) :
    s.db.Knows u :=
  ⟨(h.issued u hu).2, fun v hv hid _ ↦ by rw [eq_of_key_eq h.userKeys hv hu hid]⟩

/-! ## Transactions -/

theorem storeCode_eq_ok {code userId : Uuid} {refresh : Bool}
    (h : storeCode now code userId refresh db = .ok db') :
    db' = { db with
      codes := ⟨code, now, userId⟩ :: db.codes.filter fun row ↦ row.userId ≠ userId } := by
  simp only [storeCode, bind_eq_ok, Except.ok.injEq] at h
  obtain ⟨-, -, -, -, rfl⟩ := h
  rfl

/-- `sign_up_user` inserts a registered row with the address in lower case. -/
theorem signUpUser_eq_ok {user : UserSummary} {emailVerified : Bool} {code : Option Uuid}
    {new : User} (h : signUpUser now user emailVerified code db = .ok (new, db')) :
    ∃ username codes, new = ⟨db.nextUserId, db.nextAuthHash, lower user.email, emailVerified,
        some user.name, user.password, user.provider, .registered, username⟩
      ∧ db' = ⟨db.users ++ [new], codes, db.nextUserId + 1, db.nextAuthHash + 1⟩
      ∧ ((emailVerified = true ∧ codes = db.codes) ∨ (emailVerified = false ∧ ∃ c, code = some c
        ∧ codes = ⟨c, now, new.userId⟩ :: db.codes.filter fun row ↦ row.userId ≠ new.userId)) := by
  simp only [signUpUser, bind_eq_ok, require_eq_ok] at h
  obtain ⟨-, hcode, username, -, db₁, hinsert, h⟩ := h
  obtain rfl := insertUser_eq_ok hinsert
  split_ifs at h with hverified
  · obtain ⟨rfl, rfl⟩ := Prod.mk.inj (Except.ok.inj h)
    exact ⟨username, db.codes, rfl, rfl, .inl ⟨hverified, rfl⟩⟩
  · rw [Bool.not_eq_true] at hverified
    split at h
    · exact absurd rfl (hcode hverified)
    next c =>
    simp only [bind_eq_ok, Except.ok.injEq, Prod.mk.injEq] at h
    obtain ⟨db₂, hstore, rfl, rfl⟩ := h
    obtain rfl := storeCode_eq_ok hstore
    exact ⟨username, _, rfl, rfl, .inr ⟨hverified, c, rfl, rfl⟩⟩

theorem AuthSystem.Sound.signUp {user : UserSummary} {code : Uuid} {new : User}
    (h : s.Sound verifies) (hrun : signUpUser now user false (some code) s.db = .ok (new, db)) :
    AuthSystem.Sound verifies { s with db := db, mails := mailTo code new :: s.mails }
      ∧ s.db.Keeps db := by
  obtain ⟨username, codes, hnew, rfl, ⟨htrue, -⟩ | ⟨-, c, hc, rfl⟩⟩ := signUpUser_eq_ok hrun
  · cases htrue
  obtain rfl := Option.some.inj hc
  have hs : AuthSystem.Sound verifies { s with mails := mailTo code new :: s.mails } :=
    h.learn (fun _ hmail ↦ List.mem_cons_of_mem _ hmail) (fun _ hcode ↦ hcode) fun _ hsum ↦ hsum
  have hawaits : new.AwaitsCode := hnew ▸ ⟨rfl, rfl⟩
  obtain ⟨hkeys, hcodes⟩ := hs.codes_store now hawaits List.mem_cons_self
  refine hs.insert (hnew ▸ rfl) (hnew ▸ rfl) (fun hverified ↦ ?_) hkeys hcodes
  exact absurd (hawaits.2.symm.trans hverified) Bool.false_ne_true

theorem AuthSystem.Sound.activate {user : UserSummary} {code : Uuid} {new : User}
    (h : s.Sound verifies)
    (hrun : activatePreRegisteredUserEmailPassword now user code s.db = .ok (some new, db)) :
    AuthSystem.Sound verifies { s with db := db, mails := mailTo code new :: s.mails }
      ∧ s.db.Keeps db := by
  rw [activatePreRegisteredUserEmailPassword] at hrun
  split at hrun
  · cases hrun
  next u hfind =>
  simp only [bind_eq_ok, Except.ok.injEq, Prod.mk.injEq, Option.some.injEq] at hrun
  obtain ⟨username, -, db₁, hwrite, db₂, hstore, hnew, rfl⟩ := hrun
  obtain rfl := writeUser_eq_ok hwrite
  obtain rfl := storeCode_eq_ok hstore
  obtain ⟨hu, -, hplaceholder⟩ := of_find?_eq_some hfind
  have hs : AuthSystem.Sound verifies { s with mails := mailTo code new :: s.mails } :=
    h.learn (fun _ hmail ↦ List.mem_cons_of_mem _ hmail) (fun _ hcode ↦ hcode) fun _ hsum ↦ hsum
  have hawaits : new.AwaitsCode := hnew ▸ ⟨rfl, rfl⟩
  obtain ⟨hkeys, hcodes⟩ := hs.codes_store now hawaits List.mem_cons_self
  subst hnew
  refine hs.write hu ⟨rfl, .inr rfl, fun hverified ↦ ?_, fun hpre ↦ ?_⟩
    ⟨Nat.le_succ _, Nat.lt_succ_self _⟩ (fun hverified ↦ ?_) hkeys hcodes
  · cases hplaceholder.symm.trans hverified.1
  · cases hpre
  · cases hverified

theorem AuthSystem.Sound.preRegister {email username : String} (h : s.Sound verifies)
    (hrun : preRegisterUser email username s.db = .ok db) :
    AuthSystem.Sound verifies { s with db := db } ∧ s.db.Keeps db := by
  obtain rfl := insertUser_eq_ok hrun
  exact h.insert rfl rfl (fun hverified ↦ by cases hverified) h.codeKeys (h.codes_of_new rfl)

theorem AuthSystem.Sound.verifyEmail {code : Uuid} (h : s.Sound verifies)
    (hrun : Auth.verifyEmail now code s.db = .ok db) :
    AuthSystem.Sound verifies { s with db := db, presented := code :: s.presented }
      ∧ s.db.Keeps db := by
  -- a code proves the address that it was mailed to
  rw [Auth.verifyEmail] at hrun
  split at hrun
  · cases hrun
  next row hfind =>
  obtain ⟨hrow, hcode, -⟩ := of_find?_eq_some hfind
  obtain ⟨owner, howner, hid, hawaits, hmail⟩ := h.codes row hrow
  split at hrun
  · next hnone =>
    have hne := List.find?_eq_none.1 hnone owner howner
    exact absurd (decide_eq_true hid) hne
  next u hu =>
  obtain ⟨hmem, hu'⟩ := of_find?_eq_some hu
  obtain rfl := eq_of_key_eq h.userKeys howner hmem (hid.trans hu'.symm)
  obtain rfl := writeUser_eq_ok hrun
  have hs : AuthSystem.Sound verifies { s with presented := code :: s.presented } :=
    h.learn (fun _ hmail ↦ hmail) (fun _ hcode ↦ List.mem_cons_of_mem _ hcode) fun _ hsum ↦ hsum
  refine hs.write howner ⟨rfl, .inl ⟨rfl, rfl⟩, fun hverified ↦ ⟨hverified.1, rfl⟩,
    fun hpre ↦ ⟨hpre, rfl⟩⟩ ⟨le_rfl, (h.issued owner howner).2⟩ (fun _ ↦ .inr ?_)
    (nodup_keys_filter h.codeKeys _) fun other hother ↦ ?_
  · exact ⟨code, List.mem_cons_self, hcode ▸ hmail⟩
  · obtain ⟨hother, hne⟩ := List.mem_filter.1 hother
    refine .inl ⟨hother, fun hsame ↦ of_decide_eq_true hne ?_⟩
    rw [eq_of_key_eq h.codeKeys hother hrow (hsame.trans hid), hcode]

theorem AuthSystem.Sound.updatePassword {userId : Uuid} {password : String} (h : s.Sound verifies)
    (hrun : updateUserPassword userId password s.db = .ok db) :
    AuthSystem.Sound verifies { s with db := db } ∧ s.db.Keeps db := by
  rw [updateUserPassword] at hrun
  split at hrun
  · obtain rfl := Except.ok.inj hrun
    exact ⟨h, .refl _⟩
  next u hfind =>
  obtain ⟨hu, -⟩ := of_find?_eq_some hfind
  obtain rfl := writeUser_eq_ok hrun
  exact h.write hu ⟨rfl, .inr rfl, fun hverified ↦ hverified, fun hpre ↦ ⟨hpre, rfl⟩⟩
    ⟨Nat.le_succ _, Nat.lt_succ_self _⟩ (h.verified u hu) h.codeKeys
    (h.codes_of_same hu rfl rfl rfl rfl)

/-! ## Calls of a login -/

theorem AuthSystem.Sound.update {summary : UserSummary} {userId : Uuid} {new : User}
    (h : s.Sound verifies) (hsummary : summary ∈ s.asserted) (hverified : s.db.HasVerified userId)
    (hrun : updateUserExternalAuth userId summary s.db = .ok (new, db)) :
    (AuthSystem.Sound verifies { s with db := db } ∧ s.db.Keeps db)
      ∧ new ∈ db.users ∧ new.Matches summary := by
  rw [updateUserExternalAuth] at hrun
  split at hrun
  · cases hrun
  next email hemail =>
  simp only [bind_eq_ok] at hrun
  obtain ⟨-, -, -, -, hrun⟩ := hrun
  split at hrun
  · cases hrun
  next u hfind =>
  simp only [bind_eq_ok, Except.ok.injEq, Prod.mk.injEq] at hrun
  obtain ⟨db₁, hwrite, rfl, rfl⟩ := hrun
  obtain rfl := writeUser_eq_ok hwrite
  obtain ⟨hu, hfound⟩ := of_find?_eq_some hfind
  have haddress : email = lower (btrim summary.email) := by
    rw [nullIfBlank, Option.map_some, Option.map_eq_some_iff] at hemail
    obtain ⟨trimmed, htrimmed, rfl⟩ := hemail
    rw [(Option.filter_eq_some_iff.1 htrimmed).1 |> Option.some.inj]
  obtain ⟨v, hv, hid, hregistered⟩ := hverified
  obtain rfl := eq_of_key_eq h.userKeys hv hu (hid.trans hfound.1.symm)
  have hmatches : IsAddress email summary.email := by
    rw [haddress]
    exact .inr (lower_lower _)
  refine ⟨h.write hu ⟨rfl, .inl ⟨rfl, rfl⟩, fun _ ↦ ⟨hfound.2, rfl⟩, fun hpre ↦ ?_⟩
    ⟨le_rfl, (h.issued v hu).2⟩ (fun _ ↦ .inl ⟨summary, hsummary, hmatches⟩) h.codeKeys
    (h.codes_of_not_awaits hu rfl fun hawaits ↦ ?_), new_mem_replaceRow hu rfl, hmatches, ?_⟩
  · cases hfound.2.symm.trans hpre
  · cases hawaits.2.symm.trans hregistered.2
  · rintro provider hprovider login hlogin
    rw [Option.mem_def] at hprovider hlogin
    rw [hprovider, Option.map_some, Option.some_or, Option.bind_some, UserProvider.merge, hlogin,
      Option.some_or]

theorem AuthSystem.Sound.activateExternal {summary : UserSummary} {userId : Uuid} {new : User}
    (h : s.Sound verifies) (hsummary : summary ∈ s.asserted)
    (hinvites : s.db.Invites userId summary.email)
    (hrun : activatePreRegisteredUserExternalProvider userId summary s.db = .ok (new, db)) :
    (AuthSystem.Sound verifies { s with db := db } ∧ s.db.Keeps db)
      ∧ new ∈ db.users ∧ new.Matches summary := by
  rw [activatePreRegisteredUserExternalProvider, bind_eq_ok] at hrun
  obtain ⟨username, -, hrun⟩ := hrun
  split at hrun
  · cases hrun
  next u hfind =>
  simp only [bind_eq_ok, Except.ok.injEq, Prod.mk.injEq] at hrun
  obtain ⟨db₁, hwrite, rfl, rfl⟩ := hrun
  obtain rfl := writeUser_eq_ok hwrite
  obtain ⟨hu, hfound⟩ := of_find?_eq_some hfind
  obtain ⟨v, hv, hid, hemail⟩ := hinvites
  obtain rfl := eq_of_key_eq h.userKeys hv hu (hid.trans hfound.1.symm)
  have haddress : IsAddress v.email summary.email := .inl (hemail hfound.2)
  refine ⟨h.write hu ⟨rfl, .inr rfl, fun hverified ↦ ?_, fun hpre ↦ ?_⟩
    ⟨Nat.le_succ _, Nat.lt_succ_self _⟩ (fun _ ↦ .inl ⟨summary, hsummary, haddress⟩) h.codeKeys
    (h.codes_of_not_awaits hu rfl fun hawaits ↦ ?_), new_mem_replaceRow hu rfl, haddress, ?_⟩
  · cases hfound.2.symm.trans hverified.1
  · cases hpre
  · cases hfound.2.symm.trans hawaits.1
  · rintro provider hprovider login hlogin
    rw [Option.mem_def] at hprovider hlogin
    rw [hprovider, Option.bind_some, hlogin]

theorem AuthSystem.Sound.link {userId : Uuid} {provider : UserProvider} (h : s.Sound verifies)
    (hrun : updateUserProvider userId provider s.db = .ok db) :
    AuthSystem.Sound verifies { s with db := db } ∧ s.db.Keeps db := by
  rw [updateUserProvider] at hrun
  split at hrun
  · obtain rfl := Except.ok.inj hrun
    exact ⟨h, .refl _⟩
  next u hfind =>
  obtain ⟨hu, -⟩ := of_find?_eq_some hfind
  obtain rfl := writeUser_eq_ok hrun
  have hbecomes : User.Becomes s.db { u with provider := some (.merge u.provider provider) } u :=
    ⟨rfl, .inl ⟨rfl, rfl⟩, fun hverified ↦ hverified, fun hpre ↦ ⟨hpre, rfl⟩⟩
  exact h.write hu hbecomes ⟨le_rfl, (h.issued u hu).2⟩ (h.verified u hu) h.codeKeys
    (h.codes_of_same hu rfl rfl rfl rfl)

theorem AuthSystem.Sound.signUpExternal {summary : UserSummary} {new : User} {t : Timestamp}
    (h : s.Sound verifies) (hsummary : summary ∈ s.asserted)
    (hrun : signUpUser t summary true none s.db = .ok (new, db)) :
    (AuthSystem.Sound verifies { s with db := db } ∧ s.db.Keeps db)
      ∧ new ∈ db.users ∧ new.Matches summary := by
  -- nobody has the asserted address, and an account is created for it
  obtain ⟨username, codes, rfl, rfl, ⟨-, rfl⟩ | ⟨hfalse, -⟩⟩ := signUpUser_eq_ok hrun
  · have haddress : IsAddress (lower summary.email) summary.email := .inl (lower_lower _)
    refine ⟨h.insert rfl rfl (fun _ ↦ .inl ⟨summary, hsummary, haddress⟩) h.codeKeys
      (h.codes_of_new rfl), List.mem_append_right _ (List.mem_singleton_self _), haddress, ?_⟩
    rintro provider hprovider login hlogin
    rw [Option.mem_def] at hprovider hlogin
    rw [hprovider, Option.bind_some, hlogin]
  · cases hfalse

theorem AuthSystem.Sound.findEmail {summary : UserSummary} (h : s.Sound verifies)
    (hsummary : summary ∈ s.asserted) :
    ∀ q ∈ afterFindEmail summary (getUserByEmailForExternalAuth summary.email s.db),
      q.Sound verifies s := by
  intro q hq
  rw [Option.mem_def] at hq
  cases hfind : getUserByEmailForExternalAuth summary.email s.db with
  | none =>
    rw [hfind] at hq
    obtain rfl := Option.some.inj hq
    exact hsummary
  | some user =>
    obtain ⟨hu, hfound⟩ := of_find?_eq_some hfind
    rw [hfind, afterFindEmail] at hq
    split_ifs at hq with hpre hconflict
    · obtain rfl := Option.some.inj hq
      exact ⟨hsummary, user, hu, rfl, fun _ ↦ hfound.1⟩
    have hknows := h.knows hu
    split at hq
    · next hnone =>
      obtain rfl := Option.some.inj hq
      refine ⟨hknows, hsummary, .inl hfound.1, fun provider hprovider ↦ ?_⟩
      rw [hnone] at hprovider
      cases hprovider
    next provider hprovider =>
    have hlinked (hmerged : user.provider = some (.merge user.provider provider)) :
        user.Matches summary := by
      refine ⟨.inl hfound.1, fun provider' hprovider' login hlogin ↦ ?_⟩
      obtain rfl := Option.some.inj (hprovider.symm.trans hprovider')
      rw [Option.mem_def] at hlogin
      rw [hmerged, Option.bind_some, UserProvider.merge, hlogin, Option.some_or]
    split_ifs at hq with hmerged
    · obtain rfl := Option.some.inj hq
      refine ⟨⟨hknows.issued, hknows.password⟩, hsummary, .inl hfound.1,
        fun provider' hprovider' login hlogin ↦ ?_⟩
      obtain rfl := Option.some.inj (hprovider.symm.trans hprovider')
      rw [Option.mem_def] at hlogin
      rw [Option.bind_some, UserProvider.merge, hlogin, Option.some_or]
    · obtain rfl := Option.some.inj hq
      exact ⟨hknows, hsummary, hlinked (not_not.1 hmerged)⟩

/-- **A call keeps the installation sound, and leaves its login sound.** -/
theorem LoginProcess.Next.sound {process : LoginProcess} {next : Option LoginProcess}
    (hnext : process.Next verifies s.db db next) (h : s.Sound verifies)
    (hprocess : process.Sound verifies s) :
    (AuthSystem.Sound verifies { s with db := db } ∧ s.db.Keeps db)
      ∧ ∀ q ∈ next, q.Sound verifies { s with db := db } := by
  have hone {q : LoginProcess} {s : AuthSystem} (hq : q.Sound verifies s) :
      ∀ p ∈ some q, p.Sound verifies s := fun p hp ↦ Option.some.inj hp ▸ hq
  generalize hdb : s.db = db₀ at hnext
  induction hnext with
  | stop =>
    subst hdb
    exact ⟨⟨h, .refl _⟩, fun q hq ↦ by cases hq⟩
  | checkPassword hpassword hverified =>
    subst hdb
    exact ⟨⟨h, .refl _⟩, hone ⟨hprocess.1, hprocess.2, _, hpassword, hverified⟩⟩
  | @findIdentity summary issuer subject hidentity =>
    subst hdb
    refine ⟨⟨h, .refl _⟩, hone ?_⟩
    rw [getUserByLinuxfoundationIdentityForExternalAuth]
    split_ifs
    · exact hprocess
    cases hfind : s.db.users.find? _ with
    | none => exact hprocess
    | some user =>
      obtain ⟨hu, -, hregistered⟩ := of_find?_eq_some hfind
      exact ⟨hprocess, user, hu, rfl, hregistered⟩
  | skipIdentity _ =>
    subst hdb
    exact ⟨⟨h, .refl _⟩, hone hprocess⟩
  | findEmail =>
    subst hdb
    exact ⟨⟨h, .refl _⟩, h.findEmail hprocess⟩
  | update hrun =>
    subst hdb
    obtain ⟨hs, hnew, hmatches⟩ := h.update hprocess.1 hprocess.2 hrun
    exact ⟨hs, hone ⟨hs.1.knows hnew, hprocess.1, hmatches⟩⟩
  | activate hrun =>
    subst hdb
    obtain ⟨hs, hnew, hmatches⟩ := h.activateExternal hprocess.1 hprocess.2 hrun
    exact ⟨hs, hone ⟨hs.1.knows hnew, hprocess.1, hmatches⟩⟩
  | link hrun =>
    subst hdb
    have hs := h.link hrun
    exact ⟨hs, hone ⟨hs.2.knows _ hprocess.1, hprocess.2⟩⟩
  | signUp hrun =>
    subst hdb
    obtain ⟨hs, hnew, hmatches⟩ := h.signUpExternal hprocess hrun
    exact ⟨hs, hone ⟨hs.1.knows hnew, hprocess, hmatches⟩⟩
  | unheard _ ih => exact ⟨(ih hprocess).1, fun q hq ↦ by cases hq⟩

/-! ## Runs -/

theorem AuthSystem.Fresh.sound (h : s.Fresh) : s.Sound verifies := by
  constructor
  all_goals simp [h.users, h.codes, h.processes, h.sessions]

theorem AuthSystem.Sound.of_clients {processes : List LoginProcess} {sessions : List Session}
    (h : s.Sound verifies) (hprocesses : ∀ process ∈ processes, process.Sound verifies s)
    (hsessions : ∀ session ∈ sessions, session.Sound verifies s) :
    AuthSystem.Sound verifies { s with processes := processes, sessions := sessions } := by
  have hgrows : s.Grows { s with processes := processes, sessions := sessions } :=
    ⟨.refl _, fun _ h ↦ h, fun _ h ↦ h, fun _ h ↦ h⟩
  exact ⟨h.userKeys, h.issued, h.codeKeys, h.codes, h.verified,
    fun process hprocess ↦ (hprocesses process hprocess).mono hgrows,
    fun session hsession ↦ (hsessions session hsession).mono hgrows⟩

/-- **Every step keeps the installation sound**, and what was learned. -/
theorem AuthStep.sound (hstep : AuthStep verifies now s s') (h : s.Sound verifies) :
    s'.Sound verifies ∧ s.db.Keeps s'.db := by
  cases hstep with
  | signUp hrun => exact h.signUp hrun
  | activate hrun => exact h.activate hrun
  | preRegister hrun => exact h.preRegister hrun
  | verifyEmail hrun => exact h.verifyEmail hrun
  | updatePassword hrun => exact h.updatePassword hrun
  | logIn huser =>
    obtain ⟨hu, hname, -⟩ := of_find?_eq_some huser
    refine ⟨h.of_clients (fun process hprocess ↦ ?_) h.sessions, .refl _⟩
    obtain rfl | hprocess := List.mem_cons.1 hprocess
    · exact ⟨h.knows hu, hname⟩
    · exact h.processes process hprocess
  | assert summary =>
    have hs : AuthSystem.Sound verifies { s with asserted := summary :: s.asserted } :=
      h.learn (fun _ hmail ↦ hmail) (fun _ hcode ↦ hcode) fun _ hsum ↦ List.mem_cons_of_mem _ hsum
    refine ⟨hs.of_clients (fun process hprocess ↦ ?_) hs.sessions, .refl _⟩
    obtain rfl | hprocess := List.mem_cons.1 hprocess
    · exact List.mem_cons_self
    · exact hs.processes process hprocess
  | @process before after process next db hprocess hnext =>
    have hmem : process ∈ s.processes := hprocess ▸ List.mem_append_cons_self
    obtain ⟨⟨hs, hkeeps⟩, hq⟩ := hnext.sound h (h.processes process hmem)
    refine ⟨hs.of_clients (fun q hq' ↦ ?_) hs.sessions, hkeeps⟩
    simp only [List.mem_append, Option.mem_toList] at hq'
    obtain (hq' | rfl) | hq' := hq'
    · exact hs.processes q (hprocess ▸ List.mem_append_left _ hq')
    · exact hq q rfl
    · exact hs.processes q (hprocess ▸ List.mem_append_right _ (List.mem_cons_of_mem _ hq'))
  | @openSession before after credentials user hprocess =>
    have hmem : .opening credentials user ∈ s.processes := hprocess ▸ List.mem_append_cons_self
    refine ⟨h.of_clients (fun q hq ↦ ?_) fun session hsession ↦ ?_, .refl _⟩
    · refine h.processes q (hprocess ▸ ?_)
      obtain hq | hq := List.mem_append.1 hq
      · exact List.mem_append_left _ hq
      · exact List.mem_append_right _ (List.mem_cons_of_mem _ hq)
    · obtain rfl | hsession := List.mem_cons.1 hsession
      · obtain ⟨hknows, hopens⟩ := h.processes _ hmem
        exact ⟨rfl, rfl, hknows, hopens⟩
      · exact h.sessions session hsession
  | endSession hsub =>
    refine ⟨h.of_clients h.processes fun session hsession ↦ ?_, .refl _⟩
    exact h.sessions session (hsub session hsession)

theorem AuthSystem.Reached.sound (h : s.Reached verifies now) : s.Sound verifies :=
  Reachable.stable (P := AuthSystem.Sound verifies) h (fun _ hfresh ↦ hfresh.sound)
    fun _ _ _ hs hstep ↦ (hstep.sound hs).1

/-! ## A login -/

/-- The account of the login. -/
def User.sample (emailVerified : Bool) : User where
  userId := 1
  authHash := 1
  email := "ann@example.org"
  emailVerified := emailVerified
  name := some "Ann"
  password := some "hash of secret"
  provider := none
  registrationStatus := .registered
  username := "ann"

/-- The session that the login opens. -/
def Session.sample : Session := ⟨1, 1, .password "ann" "secret", .sample true⟩

/-- The hash of a secret, for the login. -/
def sampleVerifies (secret hash : String) : Bool := hash = "hash of " ++ secret

/-- Somebody signs up, presents the code from the mail, and logs in. -/
theorem exists_loggedIn : ∃ s : AuthSystem, s.Reached sampleVerifies 0
    ∧ s.db = ⟨[.sample true], [], 2, 2⟩ ∧ Session.sample ∈ s.sessions := by
  have hsignUp : signUpUser 0 ⟨"Ann@example.org", "Ann", "ann", some "hash of secret", none⟩ false
      (some 7) ⟨[], [], 1, 1⟩ = .ok (.sample false, ⟨[.sample false], [⟨7, 0, 1⟩], 2, 2⟩) := by
    decide
  have hverify : verifyEmail 0 7 ⟨[.sample false], [⟨7, 0, 1⟩], 2, 2⟩
      = .ok ⟨[.sample true], [], 2, 2⟩ := by decide
  have huser : getUserByUsername "ann" ⟨[.sample true], [], 2, 2⟩ = some (.sample true) := by decide
  have hpassword : LoginProcess.Next sampleVerifies ⟨[.sample true], [], 2, 2⟩
      (.checkingPassword "ann" "secret" (.sample true)) ⟨[.sample true], [], 2, 2⟩
      (some (.opening (.password "ann" "secret") (.sample true))) :=
    .checkPassword rfl (by decide)
  have hfresh : AuthSystem.Reached sampleVerifies 0 ⟨⟨[], [], 1, 1⟩, [], [], [], [], []⟩ :=
    .start ⟨rfl, rfl, rfl, rfl⟩
  have hverified := (hfresh.step (.signUp hsignUp)).step (.verifyEmail hverify)
  have hopening := (hverified.step (.logIn huser)).step
    (.process (List.nil_append _).symm hpassword)
  exact ⟨_, hopening.step (.openSession (List.nil_append _).symm), rfl, List.mem_cons_self⟩

/-! ## Addresses and sessions -/

/-- **A verified address is a proven one**, in every installation and for every account: an identity
provider has asserted the address that the account has now, or a code was presented that was mailed
to it. -/
theorem AuthSystem.Reached.verified_address (h : s.Reached verifies now) :
    ∀ u ∈ s.db.users, u.emailVerified = true → s.Proven u :=
  h.sound.verified

theorem verified_address_sample : ∃ s : AuthSystem, User.sample true ∈ s.db.users
    ∧ s.Proven (.sample true) := by
  obtain ⟨s, hs, hdb, -⟩ := exists_loggedIn
  have hu : User.sample true ∈ s.db.users := hdb ▸ List.mem_singleton_self _
  exact ⟨s, hu, hs.verified_address _ hu rfl⟩

/-- How a session of the account was opened, as of today. -/
def Session.IsHonest (verifies : String → String → Bool) (asserted : List UserSummary) (u : User)
    (session : Session) : Prop :=
  session.openedAs.userId = u.userId ∧ ((∃ username secret hash,
      session.credentials = .password username secret ∧ u.password = some hash
        ∧ verifies secret hash = true)
    ∨ ∃ summary ∈ asserted, session.credentials = .external summary
        ∧ session.openedAs.Matches summary)

/-- **An accepted session is an honest one.** However a login was interleaved with changes of its
account, a session that is accepted is of a registered account whose address is proven; and it was
opened with what is still the account's password, or for a user that an identity provider has
asserted with the address, and the linked login, that the account had then. -/
theorem AuthSystem.Reached.accepted_session (h : s.Reached verifies now) {session : Session}
    {u : User} (hsession : session ∈ s.sessions) (haccepts : s.db.accepts session = some u) :
    u ∈ s.db.users ∧ u.IsVerified ∧ s.Proven u ∧ session.IsHonest verifies s.asserted u := by
  obtain ⟨hfind, hhash⟩ := Option.filter_eq_some_iff.1 haccepts
  rw [decide_eq_true_eq] at hhash
  obtain ⟨hu, hid, hverified, hregistered⟩ := of_find?_eq_some hfind
  have hsound := h.sound.sessions session hsession
  refine ⟨hu, ⟨hregistered, hverified⟩, h.sound.verified u hu hverified,
    (hid.trans hsound.userId).symm, ?_⟩
  have hopened := hsound.opened
  cases hcredentials : session.credentials with
  | password username secret =>
    rw [hcredentials] at hopened
    obtain ⟨-, hash, hpassword, hverifies⟩ := hopened
    refine .inl ⟨username, secret, hash, rfl, ?_, hverifies⟩
    rw [← hpassword]
    exact hsound.known.password u hu (hid.trans hsound.userId) (hhash.trans hsound.authHash)
  | external summary =>
    rw [hcredentials] at hopened
    exact .inr ⟨summary, hopened.1, rfl, hopened.2⟩

theorem accepted_session_sample : ∃ s : AuthSystem,
    Session.sample ∈ s.sessions ∧ s.db.accepts .sample = some (.sample true)
      ∧ Session.sample.IsHonest sampleVerifies s.asserted (.sample true) := by
  obtain ⟨s, hs, hdb, hsession⟩ := exists_loggedIn
  have haccepts : s.db.accepts .sample = some (.sample true) := by
    rw [hdb]
    decide
  exact ⟨s, hsession, haccepts, (hs.accepted_session hsession haccepts).2.2.2⟩

/-! ## Changed passwords -/

/-- No account has the hash of the row any more: any password may be said to go with it. -/
def AuthDatabase.Retired (db : AuthDatabase) (user : User) : Prop :=
  ∀ password, db.Knows { user with password := password }

theorem AuthDatabase.Retired.mono {user : User} (h : db.Retired user) (hkeeps : db.Keeps db') :
    db'.Retired user :=
  fun password ↦ hkeeps.knows _ (h password)

theorem AuthDatabase.Retired.rejects {session : Session} (h : db.Retired session.openedAs)
    (hid : session.userId = session.openedAs.userId)
    (hhash : session.authHash = session.openedAs.authHash) : db.accepts session = none := by
  rw [Option.eq_none_iff_forall_ne_some]
  intro u haccepts
  obtain ⟨hfind, hsame⟩ := Option.filter_eq_some_iff.1 haccepts
  rw [decide_eq_true_eq] at hsame
  obtain ⟨hu, hfound⟩ := of_find?_eq_some hfind
  have hpassword (password : Option String) : u.password = password :=
    (h password).password u hu (hfound.1.trans hid) (hsame.trans hhash)
  cases (hpassword none).symm.trans (hpassword (some ""))

/-- A changed password comes with a new hash. -/
theorem updateUserPassword_nextAuthHash_le {userId : Uuid} {password : String} {u : User}
    (hrun : updateUserPassword userId password db = .ok db') (hu : u ∈ db'.users)
    (hid : u.userId = userId) : db.nextAuthHash ≤ u.authHash := by
  rw [updateUserPassword] at hrun
  split at hrun
  · next hnone =>
    obtain rfl := Except.ok.inj hrun
    exact absurd (decide_eq_true hid) (List.find?_eq_none.1 hnone u hu)
  next old hfind =>
  obtain ⟨-, hfound⟩ := of_find?_eq_some hfind
  obtain rfl := writeUser_eq_ok hrun
  obtain rfl | ⟨-, hne⟩ := mem_replaceRow hu
  · exact le_rfl
  · exact absurd (hid.trans hfound.symm) hne

/-- The sessions of the account were opened with a hash from before. -/
theorem AuthSystem.Sound.retires {userId : Uuid} {password : String} {session : Session}
    (h : s.Sound verifies) (hrun : updateUserPassword userId password s.db = .ok db)
    (hsession : session ∈ s.sessions) (hid : session.userId = userId) :
    db.Retired session.openedAs := by
  have hs := h.sessions session hsession
  have hkeeps := (h.updatePassword hrun).2
  refine fun _ ↦ ⟨(hkeeps.knows _ hs.known).issued, fun u hu hid' hhash ↦ ?_⟩
  have hle := updateUserPassword_nextAuthHash_le hrun hu (hid'.trans (hs.userId.symm.trans hid))
  exact absurd hhash (hs.known.issued.trans_le hle).ne'

/-- **A changed password ends the sessions of its account for good.** No session that is open when
the password of its account changes is accepted in any state that the installation reaches
afterwards. -/
theorem AuthSystem.Reached.password_revokes {userId : Uuid} {password : String} {t : Timestamp}
    (h : s.Reached verifies now) (hrun : updateUserPassword userId password s.db = .ok db)
    (hlater : Continues (AuthStep verifies) (fun _ _ ↦ True) now { s with db := db } t s') :
    ∀ session ∈ s.sessions, session.userId = userId → s'.db.accepts session = none := by
  intro session hsession hid
  have hs := h.sound.sessions session hsession
  have hlast : s'.Sound verifies ∧ s'.db.Retired session.openedAs := by
    refine hlater.invariant (P := fun _ s ↦ s.Sound verifies ∧ s.db.Retired session.openedAs)
      ⟨(h.sound.updatePassword hrun).1, h.sound.retires hrun hsession hid⟩ ?_ ?_
    · exact fun _ _ _ _ hlast ↦ hlast
    · rintro _ _ _ ⟨hsound, hretired⟩ hstep
      obtain ⟨hsound', hkeeps⟩ := hstep.sound hsound
      exact ⟨hsound', hretired.mono hkeeps⟩
  exact hlast.2.rejects hs.userId hs.authHash

theorem password_revokes_sample : ∃ (s : AuthSystem) (db : AuthDatabase),
    Session.sample ∈ s.sessions ∧ updateUserPassword 1 "hash of another" s.db = .ok db
      ∧ db.accepts .sample = none := by
  obtain ⟨s, hs, hdb, hsession⟩ := exists_loggedIn
  let changed : User := { User.sample true with authHash := 2, password := some "hash of another" }
  have hrun : updateUserPassword 1 "hash of another" s.db = .ok ⟨[changed], [], 2, 3⟩ := by
    rw [hdb]
    decide
  exact ⟨s, _, hsession, hrun, hs.password_revokes hrun .refl _ hsession rfl⟩

end Ocg.Auth
