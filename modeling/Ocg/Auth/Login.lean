import Ocg.Auth.Users
import Ocg.Relational.Run

/-!
# Logging in

A login is a sequence of lookups and transactions with anything else in between: the row that a
password is checked against, or that an identity provider's assertion is matched with, may have
changed by the time the session starts. `LoginProcess` is where a login stands. A session stores the
account and its `auth_hash`, and is accepted for as long as the account has that hash.

The checking of passwords against their hashes is a parameter. `AuthSystem` also keeps what happened
outside of the database: the verification mails, the codes that somebody presented, and the users
that identity providers have asserted.
-/

namespace Ocg.Auth

open Relational

/-- What a client logs in with. -/
inductive Credentials
  | password (username password : String)
  | external (summary : UserSummary)
  deriving DecidableEq, Repr

/-- A stored session, and how it was opened: what was presented, and the row that it was taken
for. -/
structure Session where
  userId : Uuid
  authHash : ℕ
  credentials : Credentials
  openedAs : User
  deriving DecidableEq, Repr

/-- What a login does next. -/
inductive LoginProcess
  | checkingPassword (username password : String) (user : User)
  | findingIdentity (summary : UserSummary)
  | findingEmail (summary : UserSummary)
  | updating (summary : UserSummary) (userId : Uuid)
  | activating (summary : UserSummary) (userId : Uuid)
  | linking (summary : UserSummary) (provider : UserProvider) (user : User)
  | signingUp (summary : UserSummary)
  | opening (credentials : Credentials) (user : User)
  deriving DecidableEq, Repr

/-- The linked identity of an asserted user. -/
def UserSummary.identity (summary : UserSummary) : Option (String × String) :=
  summary.provider.bind UserProvider.identity

/-- `get_or_sign_up_external_user`, after the lookup by identity. -/
def afterFindIdentity (summary : UserSummary) : Option User → LoginProcess
  | some user => .updating summary user.userId
  | none => .findingEmail summary

/-- The row is linked to another identity than the asserted one. -/
def User.ConflictsWith (user : User) (summary : UserSummary) : Prop :=
  ∃ incoming ∈ summary.identity, ∃ existing ∈ user.provider.bind UserProvider.identity,
    existing ≠ incoming

instance (user : User) (summary : UserSummary) : Decidable (user.ConflictsWith summary) :=
  inferInstanceAs (Decidable (∃ incoming ∈ summary.identity, ∃ existing ∈ _, existing ≠ incoming))

/-- `get_or_sign_up_external_user`, after the lookup by address. -/
def afterFindEmail (summary : UserSummary) : Option User → Option LoginProcess
  | none => some (.signingUp summary)
  | some user =>
    if user.registrationStatus = .preRegistered then some (.activating summary user.userId)
    else if user.ConflictsWith summary then none
    else
      match summary.provider with
      | none => some (.opening (.external summary) user)
      | some provider =>
        if user.provider ≠ some (.merge user.provider provider) then
          some (.linking summary provider
            { user with provider := some (.merge user.provider provider) })
        else some (.opening (.external summary) user)

/-- A verification mail: its code, the account, and the address it goes to. -/
structure Mail where
  code : Uuid
  userId : Uuid
  address : String
  deriving DecidableEq, Repr

structure AuthSystem where
  db : AuthDatabase
  processes : List LoginProcess
  sessions : List Session
  mails : List Mail
  presented : List Uuid
  asserted : List UserSummary

/-- The mail that a transaction sends to the account it returns. -/
def mailTo (code : Uuid) (user : User) : Mail := ⟨code, user.userId, user.email⟩

/-- `AuthnBackend::get_user` and the comparison of hashes: the row that a session is accepted
for. -/
def AuthDatabase.accepts (db : AuthDatabase) (session : Session) : Option User :=
  (getUserByIdVerified session.userId db).filter fun u ↦ u.authHash = session.authHash

variable (verifies : String → String → Bool)

/-- One call of a login, and where it stands afterwards; a failed login ends in `none`. -/
inductive LoginProcess.Next (db : AuthDatabase) :
    LoginProcess → AuthDatabase → Option LoginProcess → Prop
  /-- The call fails, or the client goes away. -/
  | stop (process : LoginProcess) : process.Next db db none
  | checkPassword {username password hash : String} {user : User}
      (hpassword : user.password = some hash) (hverified : verifies password hash = true) :
    LoginProcess.Next db (.checkingPassword username password user) db
      (some (.opening (.password username password) user))
  | findIdentity {summary : UserSummary} {issuer subject : String}
      (hidentity : summary.identity = some (issuer, subject)) :
    LoginProcess.Next db (.findingIdentity summary) db
      (some (afterFindIdentity summary
        (getUserByLinuxfoundationIdentityForExternalAuth issuer subject db)))
  | skipIdentity {summary : UserSummary} (hidentity : summary.identity = none) :
    LoginProcess.Next db (.findingIdentity summary) db (some (.findingEmail summary))
  | findEmail {summary : UserSummary} :
    LoginProcess.Next db (.findingEmail summary) db
      (afterFindEmail summary (getUserByEmailForExternalAuth summary.email db))
  | update {summary : UserSummary} {userId : Uuid} {user : User} {db' : AuthDatabase}
      (hrun : updateUserExternalAuth userId summary db = .ok (user, db')) :
    LoginProcess.Next db (.updating summary userId) db' (some (.opening (.external summary) user))
  | activate {summary : UserSummary} {userId : Uuid} {user : User} {db' : AuthDatabase}
      (hrun : activatePreRegisteredUserExternalProvider userId summary db = .ok (user, db')) :
    LoginProcess.Next db (.activating summary userId) db' (some (.opening (.external summary) user))
  | link {summary : UserSummary} {provider : UserProvider} {user : User} {db' : AuthDatabase}
      (hrun : updateUserProvider user.userId provider db = .ok db') :
    LoginProcess.Next db (.linking summary provider user) db'
      (some (.opening (.external summary) user))
  | signUp {summary : UserSummary} {user : User} {now : Timestamp} {db' : AuthDatabase}
      (hrun : signUpUser now summary true none db = .ok (user, db')) :
    LoginProcess.Next db (.signingUp summary) db' (some (.opening (.external summary) user))
  /-- The transaction commits, but the login does not hear of it. -/
  | unheard {process next : LoginProcess} {db' : AuthDatabase}
      (hnext : process.Next db db' (some next)) : process.Next db db' none

/-- One step of the installation. -/
inductive AuthStep (now : Timestamp) (s : AuthSystem) : AuthSystem → Prop
  /-- `sign_up`, for an address without a placeholder. -/
  | signUp {user : UserSummary} {code : Uuid} {new : User} {db : AuthDatabase}
      (hrun : signUpUser now user false (some code) s.db = .ok (new, db)) :
    AuthStep now s { s with db := db, mails := mailTo code new :: s.mails }
  /-- `sign_up`, for a placeholder. -/
  | activate {user : UserSummary} {code : Uuid} {new : User} {db : AuthDatabase}
      (hrun : activatePreRegisteredUserEmailPassword now user code s.db = .ok (some new, db)) :
    AuthStep now s { s with db := db, mails := mailTo code new :: s.mails }
  | preRegister {email username : String} {db : AuthDatabase}
      (hrun : preRegisterUser email username s.db = .ok db) : AuthStep now s { s with db := db }
  | verifyEmail {code : Uuid} {db : AuthDatabase} (hrun : Auth.verifyEmail now code s.db = .ok db) :
    AuthStep now s { s with db := db, presented := code :: s.presented }
  | updatePassword {userId : Uuid} {password : String} {db : AuthDatabase}
      (hrun : updateUserPassword userId password s.db = .ok db) :
    AuthStep now s { s with db := db }
  /-- A client sends a name and a password, and the account of that name is loaded. -/
  | logIn {username password : String} {user : User}
      (huser : getUserByUsername username s.db = some user) :
    AuthStep now s { s with
      processes := .checkingPassword username password user :: s.processes }
  /-- A client comes back from an identity provider, which asserts a user. -/
  | assert (summary : UserSummary) :
    AuthStep now s { s with
      processes := .findingIdentity summary :: s.processes
      asserted := summary :: s.asserted }
  | process {before after : List LoginProcess} {process : LoginProcess}
      {next : Option LoginProcess} {db : AuthDatabase}
      (hprocess : s.processes = before ++ process :: after)
      (hnext : process.Next verifies s.db db next) :
    AuthStep now s { s with db := db, processes := before ++ next.toList ++ after }
  /-- `AuthSession::login`. -/
  | openSession {before after : List LoginProcess} {credentials : Credentials} {user : User}
      (hprocess : s.processes = before ++ .opening credentials user :: after) :
    AuthStep now s { s with
      processes := before ++ after
      sessions := ⟨user.userId, user.authHash, credentials, user⟩ :: s.sessions }
  | endSession {sessions : List Session} (hsub : ∀ session ∈ sessions, session ∈ s.sessions) :
    AuthStep now s { s with sessions := sessions }

/-- An installation without accounts. -/
structure AuthSystem.Fresh (s : AuthSystem) : Prop where
  users : s.db.users = []
  codes : s.db.codes = []
  processes : s.processes = []
  sessions : s.sessions = []

/-- What an installation reaches, in whatever order transactions start and commit. -/
def AuthSystem.Reached (now : Timestamp) (s : AuthSystem) : Prop :=
  Reachable (AuthStep verifies) (fun _ _ ↦ True) AuthSystem.Fresh now s

end Ocg.Auth
