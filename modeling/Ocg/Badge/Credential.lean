import Mathlib.Data.List.DropRight
import Ocg.Json.Value
import Ocg.Relational.Overlay
import Ocg.Relational.Transaction

/-!
# Issuing and verifying badge credentials

`issue_credential` writes an award as a signed document, and `verify_credential` reads one back: it
accepts only documents of the profile that this site issues, and only one form of personal
identifier in them. Identifiers, times, keys and proofs are handled by libraries, which are a
parameter here; a call of them gets what the manager passes and returns what the manager reads.

An object is a list of members, in which a name is looked up first to last.
-/

namespace Ocg.Credentials

open Relational Json

inductive BadgesManagerError
  | invalidContext
  | invalidCredential
  | invalidKey
  | invalidProof
  | invalidStatusList
  | invalidUrl
  | signingFailed
  | unknownVerificationMethod
  deriving DecidableEq, Repr

/-! ## Constants -/

def vcContextUrl : String := "https://www.w3.org/ns/credentials/v2"

def openBadgesContextUrl : String := "https://purl.imsglobal.org/spec/ob/v3p0/context-3.0.3.json"

def statusListEntries : ℕ := 131072

/-! ## Data -/

/-- The public key of a verification method, under the URL that names it. -/
structure Multikey where
  id : String
  publicKey : String
  deriving DecidableEq

structure SigningKey (K : Type) where
  keyId : String
  privateJwk : K

structure BadgesConfig (K : Type) where
  signingKey : SigningKey K
  /-- The identifier and the public key of each retained key. -/
  verificationKeys : List (String × K)

structure KeySet (K : Type) where
  signingKey : SigningKey K
  verificationKeys : List (String × K)

structure BadgesManager (K : Type) where
  baseUrl : String
  keys : KeySet K

structure BadgeSnapshot where
  criteria : String
  description : String
  imageFileName : String
  /-- `issuer.group_name`. -/
  issuerGroupName : String
  name : String

structure UserBadge (U T : Type) where
  awardedAt : T
  badgeStatusListId : U
  groupId : U
  snapshot : BadgeSnapshot
  statusListIndex : ℤ
  userBadgeId : U

structure EmailIdentity where
  hash : String
  salt : String

structure CredentialInput (U T : Type) where
  award : UserBadge U T
  createdAt : T
  emailIdentity : Option EmailIdentity

structure VerifiedEmailIdentity where
  identityHash : String
  salt : String
  deriving DecidableEq

structure VerifiedCredential (U T : Type) where
  description : String
  groupId : U
  issuer : String
  name : String
  statusListId : U
  statusListIndex : ℤ
  userBadgeId : U
  validFrom : T
  emailIdentity : Option VerifiedEmailIdentity
  deriving DecidableEq

/-- What the manager calls outside this repository. -/
structure Libraries (U T K : Type) where
  /-- `Uuid`'s `Display`. -/
  display : U → String
  /-- `Uuid::parse_str`. -/
  parseStr : String → Option U
  /-- `to_rfc3339_opts` with milliseconds. -/
  toRfc3339 : T → String
  parseFromRfc3339 : String → Option T
  /-- `JWK::to_public`. -/
  toPublic : K → K
  /-- The public key encoded as a Multikey that the issuer URL controls. -/
  encodePublicKey : String → K → Except BadgesManagerError String
  /-- `IriBuf::new`. -/
  isIri : String → Bool
  /-- `sign_with`, of a document with the keys, the proof options and the private key. -/
  signWith : Value → List Multikey → Value → K → Except BadgesManagerError Value
  /-- The claims and the proofs of a signed document. -/
  fromValue : Value → Option (Value × List Value)
  /-- `verify`, with the keys that proofs may name. -/
  verify : Value × List Value → List Multikey → Bool

/-- `ok_or`. -/
def okOr {α : Type} (value : Option α) (err : BadgesManagerError) : Except BadgesManagerError α :=
  value.elim (.error err) .ok

/-! ## Identifier claims -/

/-- `required_string`. -/
def requiredString (value : Value) (path : List String) : Except BadgesManagerError String :=
  okOr ((value.pointer path).bind Value.asString) .invalidCredential

/-- `identifier_entry`. -/
def EmailIdentity.identifierEntry (identity : EmailIdentity) : Value :=
  .object [
    ("type", .string "IdentityObject"),
    ("hashed", .bool true),
    ("identityHash", .string ("sha256$" ++ identity.hash)),
    ("identityType", .string "emailAddress"),
    ("salt", .string identity.salt)]

def isAsciiHexdigit (c : Char) : Bool :=
  c ∈ "0123456789abcdefABCDEF".toList

/-- A digest of hex digits is as many bytes as characters. -/
def isDigest (digest : String) : Bool :=
  digest.length = 64 && digest.toList.all isAsciiHexdigit

/-- `is_valid_identity_hash`. -/
def isValidIdentityHash (hash : String) : Bool :=
  (Text.stripPrefix "sha256$" hash).any isDigest

/-- `is_supported_email_identity`. -/
def isSupportedEmailIdentity : Value → Bool
  | .array [.object entry] =>
    entry.length = 5
      && (entry.lookup "type").bind Value.asString = some "IdentityObject"
      && (entry.lookup "hashed").bind Value.asBool = some true
      && (entry.lookup "identityType").bind Value.asString = some "emailAddress"
      && ((entry.lookup "identityHash").bind Value.asString).any isValidIdentityHash
      && ((entry.lookup "salt").bind Value.asString).any fun salt ↦ salt ≠ ""
  | _ => false

/-- `contains_identifier`. -/
def containsIdentifier (value : Value) : Bool := value.containsKey "identifier"

def removeIdentifier : Value → Value
  | .object subject => .object (removeMember "identifier" subject)
  | v => v

/-- The credential without the identifier of its subject. -/
def remainder : Value → Value
  | .object members => .object (modifyMember "credentialSubject" removeIdentifier members)
  | v => v

/-- The identifier at the only supported location. -/
def subjectIdentifier (credential : Value) : Option Value :=
  ((credential.pointer ["credentialSubject"]).bind Value.asObject).bind (List.lookup "identifier")

/-- `contains_unsupported_identifier`. -/
def containsUnsupportedIdentifier (credential : Value) : Bool :=
  (subjectIdentifier credential).any (!isSupportedEmailIdentity ·)
    || containsIdentifier (remainder credential)

/-- `single_proof`. -/
def singleProof (value : Value) : Except BadgesManagerError Value :=
  match (value.get "proof").bind Value.asArray with
  | some [.object proof] => .ok (.object proof)
  | _ => .error .invalidCredential

variable {U T K : Type} (lib : Libraries U T K)

/-! ## Keys -/

/-- The retained keys, and the public part of the signing key among them. -/
def KeySet.new (config : BadgesConfig K) : KeySet K where
  signingKey := config.signingKey
  verificationKeys :=
    upsert Prod.fst (config.signingKey.keyId, lib.toPublic config.signingKey.privateJwk)
      (config.verificationKeys.foldl (fun keys key ↦ upsert Prod.fst key keys) [])

namespace KeySet

variable (keys : KeySet K) (issuerUrl : String)

/-- `public_jwk`. -/
def publicJwk (keyId : String) : Option K :=
  (lookup Prod.fst keys.verificationKeys keyId).map Prod.snd

def multikey (keyId : String) : Except BadgesManagerError Multikey := do
  let jwk ← okOr (keys.publicJwk keyId) .unknownVerificationMethod
  let encoded ← lib.encodePublicKey issuerUrl jwk
  let id := issuerUrl ++ "/keys/" ++ encoded
  require (lib.isIri id) .invalidUrl
  return ⟨id, encoded⟩

/-- Every retained key, in the order of the identifiers. -/
def multikeys : Except BadgesManagerError (List Multikey) :=
  ((keys.verificationKeys.map Prod.fst).mergeSort (· ≤ ·)).mapM (keys.multikey lib issuerUrl)

/-- `resolver`. -/
def resolver : Except BadgesManagerError (List Multikey) := keys.multikeys lib issuerUrl

end KeySet

/-! ## URLs -/

/-- `trim_end_matches('/')`. -/
def trimEndSlashes (text : String) : String :=
  String.ofList (text.toList.rdropWhile (· = '/'))

namespace BadgesManager

def new (baseUrl : String) (config : BadgesConfig K) : BadgesManager K where
  baseUrl := trimEndSlashes baseUrl
  keys := KeySet.new lib config

variable (manager : BadgesManager K)

def credentialUrl (userBadgeId : U) : String :=
  manager.baseUrl ++ "/badges/credentials/" ++ lib.display userBadgeId

def issuerUrl (groupId : U) : String :=
  manager.baseUrl ++ "/badges/issuers/" ++ lib.display groupId

def statusListUrl (badgeStatusListId : U) : String :=
  manager.baseUrl ++ "/badges/status-lists/" ++ lib.display badgeStatusListId

/-- `parse_local_uuid_url`: the identifier in a URL that is the base URL, the path and the
identifier. -/
def parseLocalUuidUrl (value path : String) : Except BadgesManagerError U := do
  let id ← okOr ((Text.stripPrefix (manager.baseUrl ++ path) value).filter fun id ↦
    '/' ∉ id.toList) .invalidUrl
  okOr (lib.parseStr id) .invalidUrl

def parseCredentialUrl (value : String) : Except BadgesManagerError U :=
  manager.parseLocalUuidUrl lib value "/badges/credentials/"

def parseIssuerUrl (value : String) : Except BadgesManagerError U :=
  manager.parseLocalUuidUrl lib value "/badges/issuers/"

def parseStatusListUrl (value : String) : Except BadgesManagerError U :=
  manager.parseLocalUuidUrl lib value "/badges/status-lists/"

/-! ## Issuing -/

def proofOptions (methodUrl : String) (createdAt : T) : Value :=
  .object [
    ("created", .string (lib.toRfc3339 createdAt)),
    ("verificationMethod", .string methodUrl),
    ("proofPurpose", .string "assertionMethod")]

/-- `sign_document`: the proof that the library adds is put into an array. -/
def signDocument (document : Value) (issuerUrl : String) (createdAt : T) :
    Except BadgesManagerError Value := do
  let issuer ← requiredString document ["issuer", "id"]
  require (issuer = issuerUrl) .invalidCredential
  let signingKey := manager.keys.signingKey
  let method ← manager.keys.multikey lib issuerUrl signingKey.keyId
  let signed ← lib.signWith document [method] (proofOptions lib method.id createdAt)
    signingKey.privateJwk
  match signed with
  | .object members =>
    match members.lookup "proof" with
    | some (.object _) => .ok (.object (modifyMember "proof" (fun proof ↦ .array [proof]) members))
    | _ => .error .signingFailed
  | _ => .error .signingFailed

/-- The subject of the credential, with the identity that an export is bound to. -/
def credentialSubject (input : CredentialInput U T) : List (String × Value) :=
  let award := input.award
  let credentialUrl := manager.credentialUrl lib award.userBadgeId
  let imageUrl := manager.baseUrl ++ "/images/badges/" ++ award.snapshot.imageFileName
  let subject := [
    ("id", .string ("urn:uuid:" ++ lib.display award.userBadgeId)),
    ("type", .array [.string "AchievementSubject"]),
    ("achievement", .object [
      ("id", .string (credentialUrl ++ "#achievement")),
      ("type", .array [.string "Achievement"]),
      ("criteria", .object [("narrative", .string award.snapshot.criteria)]),
      ("description", .string award.snapshot.description),
      ("image", .object [("id", .string imageUrl), ("type", .string "Image")]),
      ("name", .string award.snapshot.name)])]
  input.emailIdentity.elim subject fun identity ↦
    insertMember "identifier" (.array [identity.identifierEntry]) subject

/-- The document that `issue_credential` signs. -/
def credentialDocument (input : CredentialInput U T) : List (String × Value) :=
  let award := input.award
  let credentialUrl := manager.credentialUrl lib award.userBadgeId
  [
    ("@context", .array [.string vcContextUrl, .string openBadgesContextUrl]),
    ("id", .string credentialUrl),
    ("type", .array [.string "VerifiableCredential", .string "OpenBadgeCredential"]),
    ("issuer", .object [
      ("id", .string (manager.issuerUrl lib award.groupId)),
      ("type", .array [.string "Profile"]),
      ("name", .string award.snapshot.issuerGroupName)]),
    ("validFrom", .string (lib.toRfc3339 award.awardedAt)),
    ("name", .string award.snapshot.name),
    ("credentialSubject", .object (manager.credentialSubject lib input)),
    ("credentialStatus", .object [
      ("id", .string (credentialUrl ++ "#status")),
      ("type", .string "BitstringStatusListEntry"),
      ("statusPurpose", .string "revocation"),
      ("statusListIndex", .string award.statusListIndex.repr),
      ("statusListCredential", .string (manager.statusListUrl lib award.badgeStatusListId))])]

/-- `issue_credential`. -/
def issueCredential (input : CredentialInput U T) : Except BadgesManagerError Value :=
  manager.signDocument lib (.object (manager.credentialDocument lib input))
    (manager.issuerUrl lib input.award.groupId) input.createdAt

/-! ## Verifying -/

/-- `verify_document`. -/
def verifyDocument (document : Value) (issuerUrl : String) : Except BadgesManagerError Unit := do
  let proof ← singleProof document
  let issuer ← requiredString document ["issuer", "id"]
  require (issuer = issuerUrl) .invalidProof
  let type ← requiredString proof ["type"]
  require (type = "DataIntegrityProof") .invalidProof
  let cryptosuite ← requiredString proof ["cryptosuite"]
  require (cryptosuite = "eddsa-rdfc-2022") .invalidProof
  let proofPurpose ← requiredString proof ["proofPurpose"]
  require (proofPurpose = "assertionMethod") .invalidProof
  let verificationMethod ← requiredString proof ["verificationMethod"]
  let resolver ← manager.keys.resolver lib issuerUrl
  require (∃ method ∈ resolver, method.id = verificationMethod) .unknownVerificationMethod
  let signed ← okOr (lib.fromValue document) .invalidCredential
  require (signed.2.length = 1) .invalidProof
  require (lib.verify signed resolver) .invalidProof

/-- The status-list index of a credential, which refers to its own status entry. -/
def verifyStatus (credential : Value) (credentialId : String) : Except BadgesManagerError ℤ := do
  let statusListIndex ← requiredString credential ["credentialStatus", "statusListIndex"]
  require (statusListIndex ≠ "" ∧ statusListIndex.toList.all Char.isDigit
    ∧ ¬ (1 < statusListIndex.length ∧ statusListIndex.toList.head? = some '0')) .invalidStatusList
  let type ← requiredString credential ["credentialStatus", "type"]
  require (type = "BitstringStatusListEntry") .invalidStatusList
  let id ← requiredString credential ["credentialStatus", "id"]
  require (id = credentialId ++ "#status") .invalidStatusList
  let statusPurpose ← requiredString credential ["credentialStatus", "statusPurpose"]
  require (statusPurpose = "revocation") .invalidStatusList
  let index ← okOr (Text.parseInt (-2 ^ 31) (2 ^ 31 - 1) statusListIndex) .invalidStatusList
  require (0 ≤ index ∧ index < statusListEntries) .invalidStatusList
  return index

/-- The identity that an exported credential is bound to. -/
def exportedIdentity (credential : Value) :
    Except BadgesManagerError (Option VerifiedEmailIdentity) :=
  match credential.pointer ["credentialSubject", "identifier", "0"] with
  | none => .ok none
  | some entry => do
    let hash ← requiredString entry ["identityHash"]
    let identityHash ← okOr (Text.stripPrefix "sha256$" hash) .invalidCredential
    let salt ← requiredString entry ["salt"]
    return some ⟨identityHash, salt⟩

/-- `verify_credential`. -/
def verifyCredential (credential : Value) :
    Except BadgesManagerError (VerifiedCredential U T) := do
  require ((credential.get "@context").bind Value.asStrings
      = some [vcContextUrl, openBadgesContextUrl]
    ∧ (credential.get "type").bind Value.asStrings
      = some ["VerifiableCredential", "OpenBadgeCredential"]
    ∧ containsUnsupportedIdentifier credential = false) .invalidCredential
  let credentialId ← requiredString credential ["id"]
  let userBadgeId ← manager.parseCredentialUrl lib credentialId
  let subjectId ← requiredString credential ["credentialSubject", "id"]
  require (subjectId = "urn:uuid:" ++ lib.display userBadgeId) .invalidCredential
  let issuerProfile ← okOr ((credential.get "issuer").bind Value.asObject) .invalidCredential
  require (issuerProfile.length = 3
    ∧ (issuerProfile.lookup "type").bind Value.asStrings = some ["Profile"]) .invalidCredential
  let issuerName ← requiredString credential ["issuer", "name"]
  require (issuerName ≠ "") .invalidCredential
  let issuer ← requiredString credential ["issuer", "id"]
  let groupId ← manager.parseIssuerUrl lib issuer
  manager.verifyDocument lib credential issuer
  let validFromText ← requiredString credential ["validFrom"]
  let validFrom ← okOr (lib.parseFromRfc3339 validFromText) .invalidCredential
  let statusUrl ← requiredString credential ["credentialStatus", "statusListCredential"]
  let statusListId ← manager.parseStatusListUrl lib statusUrl
  let statusListIndex ← verifyStatus credential credentialId
  let emailIdentity ← exportedIdentity credential
  let description ← requiredString credential ["credentialSubject", "achievement", "description"]
  let name ← requiredString credential ["credentialSubject", "achievement", "name"]
  return {
    description, groupId, issuer, name, statusListId, statusListIndex, userBadgeId, validFrom,
    emailIdentity }

end BadgesManager

end Ocg.Credentials
