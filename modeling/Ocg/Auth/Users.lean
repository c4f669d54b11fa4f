import Ocg.Relational.Table
import Ocg.Relational.Transaction
import Ocg.Schema.Rows

/-!
# User accounts

The rows of `"user"` and `email_verification_code`, and the transactions that create accounts,
verify their addresses and change what they log in with. A placeholder for an invited address is
pre-registered: it becomes an account when its address signs up, or when an identity provider
asserts the address.

`auth_hash` is drawn at random; here it is the next of a counter, so that two draws differ.
-/

namespace Ocg.Auth

open Relational

/-! ## Rows -/

structure LinuxFoundationUserProvider where
  username : String
  issuer : Option String
  subject : Option String
  deriving DecidableEq, Repr

/-- `provider`: what identity providers have told about the account. -/
structure UserProvider where
  github : Option String
  linuxfoundation : Option LinuxFoundationUserProvider
  deriving DecidableEq, Repr

/-- `coalesce(provider, '{}') || other`, and `UserProvider::merge`. -/
def UserProvider.merge (provider : Option UserProvider) (other : UserProvider) : UserProvider where
  github := other.github.or (provider.bind UserProvider.github)
  linuxfoundation := other.linuxfoundation.or (provider.bind UserProvider.linuxfoundation)

/-- `linuxfoundation_provider_identity`: the issuer and the subject of the linked login. -/
def UserProvider.identity (provider : UserProvider) : Option (String × String) := do
  let linuxfoundation ← provider.linuxfoundation
  let issuer ← linuxfoundation.issuer
  let subject ← linuxfoundation.subject
  some (issuer, subject)

inductive RegistrationStatus
  | preRegistered
  | registered
  deriving DecidableEq, Repr

structure User where
  userId : Uuid
  authHash : ℕ
  email : String
  emailVerified : Bool
  name : Option String
  password : Option String
  provider : Option UserProvider
  registrationStatus : RegistrationStatus
  username : String
  deriving DecidableEq, Repr

structure EmailVerificationCode where
  emailVerificationCodeId : Uuid
  createdAt : Timestamp
  userId : Uuid
  deriving DecidableEq, Repr

structure AuthDatabase where
  users : List User
  codes : List EmailVerificationCode
  nextUserId : Uuid
  nextAuthHash : ℕ
  deriving DecidableEq, Repr

/-- What a sign-up form or an identity provider tells about a user; the password is hashed. -/
structure UserSummary where
  email : String
  name : String
  username : String
  password : Option String
  provider : Option UserProvider
  deriving DecidableEq, Repr

/-- The identity of a row, as the unique index and the lookups read it. -/
def User.identity (u : User) : Option (String × String) :=
  (u.provider.bind UserProvider.identity).filter fun id ↦ id.1 ≠ "" ∧ id.2 ≠ ""

/-- The columns that two rows may not share. -/
def User.Clashes (new u : User) : Prop :=
  lower u.email = lower new.email ∨ lower u.username = lower new.username
    ∨ (new.identity ≠ none ∧ u.identity = new.identity)

instance (new u : User) : Decidable (new.Clashes u) := inferInstanceAs (Decidable (_ ∨ _ ∨ _))

/-- `CHECK (btrim(...) <> '')` of the columns. -/
def User.Valid (u : User) : Prop :=
  btrim u.email ≠ "" ∧ btrim u.username ≠ "" ∧ ∀ password ∈ u.password, btrim password ≠ ""

instance (u : User) : Decidable u.Valid :=
  inferInstanceAs (Decidable (_ ∧ _ ∧ ∀ password ∈ u.password, btrim password ≠ ""))

/-- The constraints of a written row. -/
def checkUser (new : User) (db : AuthDatabase) : Except DbError Unit := do
  require new.Valid (.violated "user_check")
  require (∀ u ∈ db.users, u.userId ≠ new.userId → ¬ new.Clashes u) (.violated "user_unique_idx")

def writeUser (new : User) (db : AuthDatabase) : Except DbError AuthDatabase := do
  checkUser new db
  .ok { db with users := replaceRow User.userId new db.users }

def insertUser (new : User) (db : AuthDatabase) : Except DbError AuthDatabase := do
  checkUser new db
  .ok { db with
    users := db.users ++ [new]
    nextUserId := db.nextUserId + 1
    nextAuthHash := db.nextAuthHash + 1 }

theorem writeUser_eq_ok {new : User} {db db' : AuthDatabase} (h : writeUser new db = .ok db') :
    db' = { db with users := replaceRow User.userId new db.users } := by
  simp only [writeUser, bind_eq_ok, Except.ok.injEq] at h
  obtain ⟨-, -, rfl⟩ := h
  rfl

theorem insertUser_eq_ok {new : User} {db db' : AuthDatabase} (h : insertUser new db = .ok db') :
    db' = { db with
      users := db.users ++ [new]
      nextUserId := db.nextUserId + 1
      nextAuthHash := db.nextAuthHash + 1 } := by
  simp only [insertUser, bind_eq_ok, Except.ok.injEq] at h
  obtain ⟨-, -, rfl⟩ := h
  rfl

/-! ## Lookups -/

theorem of_find?_eq_some {ρ : Type*} {p : ρ → Prop} [DecidablePred p] {rows : List ρ} {row : ρ}
    (h : rows.find? (fun row ↦ p row) = some row) : row ∈ rows ∧ p row := by
  have hp := List.find?_some h
  rw [decide_eq_true_eq] at hp
  exact ⟨List.mem_of_find?_eq_some h, hp⟩

/-- `get_user_by_id_verified`. -/
def getUserByIdVerified (userId : Uuid) (db : AuthDatabase) : Option User :=
  db.users.find? fun u ↦ u.userId = userId ∧ u.emailVerified = true
    ∧ u.registrationStatus = .registered

/-- `get_user_by_username`. -/
def getUserByUsername (username : String) (db : AuthDatabase) : Option User :=
  db.users.find? fun u ↦ lower u.username = lower username ∧ u.emailVerified = true
    ∧ u.registrationStatus = .registered ∧ u.password ≠ none

/-- `get_user_by_email_for_external_auth`. -/
def getUserByEmailForExternalAuth (email : String) (db : AuthDatabase) : Option User :=
  db.users.find? fun u ↦ lower u.email = lower email
    ∧ ((u.registrationStatus = .registered ∧ u.emailVerified = true)
      ∨ u.registrationStatus = .preRegistered)

/-- `get_user_by_linuxfoundation_identity_for_external_auth`. -/
def getUserByLinuxfoundationIdentityForExternalAuth (issuer subject : String) (db : AuthDatabase) :
    Option User :=
  if issuer = "" ∨ subject = "" then none
  else db.users.find? fun u ↦ u.provider.bind UserProvider.identity = some (issuer, subject)
    ∧ u.registrationStatus = .registered ∧ u.emailVerified = true

/-! ## Creating accounts -/

/-- `resolve_unique_username`: the name itself, or with the first free number from 2 to 99. -/
def resolveUniqueUsername (baseUsername : String) (excludedUserId : Option Uuid)
    (db : AuthDatabase) : Except DbError String :=
  let taken (username : String) : Bool := db.users.any fun u ↦
    lower u.username = lower username ∧ ∀ id ∈ excludedUserId, u.userId ≠ id
  if taken baseUsername = false then .ok baseUsername
  else
    match (List.range' 2 98).find? fun suffix ↦ !taken (baseUsername ++ toString suffix) with
    | some suffix => .ok (baseUsername ++ toString suffix)
    | none => .error (.raised ("unable to generate unique username: all variants from "
        ++ baseUsername ++ " to " ++ baseUsername ++ "99 are taken"))

/-- `insert into email_verification_code`, with `on conflict (user_id) do update` when `refresh`. -/
def storeCode (now : Timestamp) (code userId : Uuid) (refresh : Bool) (db : AuthDatabase) :
    Except DbError AuthDatabase := do
  require (∀ row ∈ db.codes, row.userId = userId → refresh = true)
    (.violated "email_verification_code_user_id_key")
  require (∀ row ∈ db.codes, row.userId ≠ userId → row.emailVerificationCodeId ≠ code)
    (.violated "email_verification_code_pkey")
  .ok { db with
    codes := ⟨code, now, userId⟩ :: db.codes.filter fun row ↦ row.userId ≠ userId }

/-- `sign_up_user`; the verification code comes with its mail's template data. -/
def signUpUser (now : Timestamp) (user : UserSummary) (emailVerified : Bool)
    (verificationCode : Option Uuid) (db : AuthDatabase) :
    Except DbError (User × AuthDatabase) := do
  require (emailVerified = false → verificationCode ≠ none)
    (.raised "verification code is required to send verification email")
  let username ← resolveUniqueUsername user.username none db
  let new : User := ⟨db.nextUserId, db.nextAuthHash, lower user.email, emailVerified,
    some user.name, user.password, user.provider, .registered, username⟩
  let db ← insertUser new db
  if emailVerified = true then .ok (new, db)
  else
    match verificationCode with
    | none => .ok (new, db)
    | some code => do
      let db ← storeCode now code new.userId false db
      .ok (new, db)

/-- The placeholder that `invite_event_attendee` inserts for an address without an account. -/
def preRegisterUser (email username : String) (db : AuthDatabase) : Except DbError AuthDatabase :=
  insertUser ⟨db.nextUserId, db.nextAuthHash, email, false, none, none, none, .preRegistered,
    username⟩ db

/-- `activate_pre_registered_user_email_password`: nothing when the address has no placeholder. -/
def activatePreRegisteredUserEmailPassword (now : Timestamp) (user : UserSummary)
    (verificationCode : Uuid) (db : AuthDatabase) :
    Except DbError (Option User × AuthDatabase) :=
  match db.users.find? fun u ↦ lower u.email = lower user.email
      ∧ u.registrationStatus = .preRegistered with
  | none => .ok (none, db)
  | some u => do
    let username ← resolveUniqueUsername user.username (some u.userId) db
    let new : User := { u with
      authHash := db.nextAuthHash
      emailVerified := false
      name := some user.name
      password := user.password
      provider := user.provider
      registrationStatus := .registered
      username := username }
    let db ← writeUser new { db with nextAuthHash := db.nextAuthHash + 1 }
    let db ← storeCode now verificationCode u.userId true db
    .ok (some new, db)

/-- `activate_pre_registered_user_external_provider`. -/
def activatePreRegisteredUserExternalProvider (userId : Uuid) (user : UserSummary)
    (db : AuthDatabase) : Except DbError (User × AuthDatabase) := do
  let username ← resolveUniqueUsername user.username (some userId) db
  match db.users.find? fun u ↦ u.userId = userId ∧ u.registrationStatus = .preRegistered with
  | none => .error (.raised "pre-registered user not found")
  | some u => do
    let new : User := { u with
      authHash := db.nextAuthHash
      emailVerified := true
      name := some user.name
      provider := user.provider
      registrationStatus := .registered
      username := username }
    let db ← writeUser new { db with nextAuthHash := db.nextAuthHash + 1 }
    .ok (new, db)

/-! ## Verifying and changing accounts -/

/-- `delete from email_verification_code` by the code. -/
def AuthDatabase.deleteCode (code : Uuid) (db : AuthDatabase) : AuthDatabase :=
  { db with codes := db.codes.filter fun row ↦ row.emailVerificationCodeId ≠ code }

/-- `verify_email`: a code is good for a day, and once. -/
def verifyEmail (now : Timestamp) (code : Uuid) (db : AuthDatabase) : Except DbError AuthDatabase :=
  match db.codes.find? fun row ↦ row.emailVerificationCodeId = code
      ∧ now - hours 24 < row.createdAt with
  | none => .error (.raised "email verification failed: invalid code")
  | some row =>
    match db.users.find? fun u ↦ u.userId = row.userId with
    | none => .ok (db.deleteCode code)
    | some u => writeUser { u with emailVerified := true } (db.deleteCode code)

/-- `update_user_external_auth`. -/
def updateUserExternalAuth (userId : Uuid) (user : UserSummary) (db : AuthDatabase) :
    Except DbError (User × AuthDatabase) := do
  match (nullIfBlank (some user.email)).map lower with
  | none => .error (.raised "external auth email is required")
  | some email => do
    require (∀ u ∈ db.users, lower u.email = email → u.userId = userId)
      (.raised "external auth email belongs to another user")
    require (∀ provider ∈ user.provider, ∀ id ∈ provider.identity, id.1 ≠ "" → id.2 ≠ "" →
        ∀ u ∈ db.users, u.provider.bind UserProvider.identity = some id → u.userId = userId)
      (.raised "external auth identity belongs to another user")
    match db.users.find? fun u ↦ u.userId = userId ∧ u.registrationStatus = .registered with
    | none => .error (.raised "registered external-auth user not found")
    | some u => do
      let new : User := { u with
        email := email
        emailVerified := true
        name := (nullIfBlank (some user.name)).or u.name
        provider := (user.provider.map (UserProvider.merge u.provider)).or u.provider }
      let db ← writeUser new db
      .ok (new, db)

/-- `update_user_provider`. -/
def updateUserProvider (userId : Uuid) (provider : UserProvider) (db : AuthDatabase) :
    Except DbError AuthDatabase :=
  match db.users.find? fun u ↦ u.userId = userId with
  | none => .ok db
  | some u => writeUser { u with provider := some (.merge u.provider provider) } db

/-- `update_user_password`. -/
def updateUserPassword (userId : Uuid) (password : String) (db : AuthDatabase) :
    Except DbError AuthDatabase :=
  match db.users.find? fun u ↦ u.userId = userId with
  | none => .ok db
  | some u => writeUser { u with authHash := db.nextAuthHash, password := some password }
      { db with nextAuthHash := db.nextAuthHash + 1 }

end Ocg.Auth
