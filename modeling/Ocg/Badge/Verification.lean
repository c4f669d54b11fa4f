import Ocg.Badge.Credential

/-!
# Badge credentials are verified as they are issued

The document of an award passes every check of the verifier, which then returns what the award says.
Conversely a document that is accepted names its subject, its status entry and its issuer
consistently, its index is the canonical form of one in range, and the only identifier in it is a
hashed email identity of the subject. That last part needs a scan of the whole document that leaves
out one member: what the scan does not see can only stand in the member that was left out.

The libraries are assumed to read back the identifiers and the time that they print, and to keep the
members of a document that they sign, to add a proof of the fixed profile to them and to accept it.
-/

namespace Ocg.Credentials

open Relational Json

/-! ## Email identities -/

/-- An identity that an export may be bound to. -/
structure EmailIdentity.Valid (identity : EmailIdentity) : Prop where
  hash : isDigest identity.hash = true
  salt : identity.salt ≠ ""

/-- The value is one entry with exactly the members of the identity. -/
def EmailIdentity.IsIdentifier (identity : EmailIdentity) (v : Value) : Prop :=
  ∃ entry members, v = .array [.object entry] ∧ identity.identifierEntry = .object members
    ∧ entry.Perm members

theorem EmailIdentity.isIdentifier_entry (identity : EmailIdentity) :
    identity.IsIdentifier (.array [identity.identifierEntry]) :=
  ⟨_, _, rfl, rfl, List.Perm.refl _⟩

namespace EmailIdentity.IsIdentifier

variable {identity : EmailIdentity} {v : Value}

theorem containsKey (h : identity.IsIdentifier v) : v.containsKey "identifier" = false := by
  obtain ⟨entry, members, rfl, hmembers, hperm⟩ := h
  obtain rfl := Value.object.inj hmembers
  rw [Value.containsKey_array]
  intro w hw
  obtain rfl := List.mem_singleton.1 hw
  rw [Value.containsKey_object]
  intro k w hmem
  replace hmem := hperm.mem_iff.1 hmem
  simp only [List.mem_cons, Prod.mk.injEq, List.not_mem_nil, or_false] at hmem
  rcases hmem with ⟨rfl, rfl⟩ | ⟨rfl, rfl⟩ | ⟨rfl, rfl⟩ | ⟨rfl, rfl⟩ | ⟨rfl, rfl⟩ <;>
    simp [Value.containsKey]

theorem exists_entry (h : identity.IsIdentifier v) :
    ∃ entry, v = .array [.object entry] ∧ entry.length = 5
      ∧ entry.lookup "type" = some (.string "IdentityObject")
      ∧ entry.lookup "hashed" = some (.bool true)
      ∧ entry.lookup "identityType" = some (.string "emailAddress")
      ∧ entry.lookup "identityHash" = some (.string ("sha256$" ++ identity.hash))
      ∧ entry.lookup "salt" = some (.string identity.salt) := by
  obtain ⟨entry, members, rfl, hmembers, hperm⟩ := h
  obtain rfl := Value.object.inj hmembers
  have hnames : (entry.map Prod.fst).Nodup := by
    rw [(hperm.map Prod.fst).nodup_iff]
    simp
  have hlookup (name : String) := lookup_eq_of_perm name hnames hperm
  refine ⟨entry, rfl, hperm.length_eq, ?_, ?_, ?_, ?_, ?_⟩ <;>
    rw [← hlookup] <;> simp [List.lookup_cons]

end EmailIdentity.IsIdentifier

theorem isValidIdentityHash_iff {text : String} :
    isValidIdentityHash text = true ↔ ∃ hash, text = "sha256$" ++ hash ∧ isDigest hash = true := by
  rw [isValidIdentityHash, Option.any_eq_true]
  constructor
  · rintro ⟨hash, hhash, hdigest⟩
    exact ⟨hash, Text.stripPrefix_eq_some.1 hhash, hdigest⟩
  · rintro ⟨hash, rfl, hdigest⟩
    exact ⟨hash, Text.stripPrefix_append _ _, hdigest⟩

theorem isSupportedEmailIdentity_iff {v : Value} :
    isSupportedEmailIdentity v = true
      ↔ ∃ identity : EmailIdentity, identity.Valid ∧ identity.IsIdentifier v := by
  constructor
  · intro h
    rw [isSupportedEmailIdentity.eq_def] at h
    split at h
    · rename_i entry
      simp only [Bool.and_eq_true, decide_eq_true_eq, Option.bind_eq_some_iff, Option.any_eq_true,
        Value.asString_eq_some, Value.asBool_eq_some, exists_eq_right, isValidIdentityHash_iff]
        at h
      obtain ⟨⟨⟨⟨⟨hlength, htype⟩, hhashed⟩, hidentityType⟩, text, hhash, hash, rfl,
        hdigest⟩, salt, hsalt, hne⟩ := h
      refine ⟨⟨hash, salt⟩, ⟨hdigest, hne⟩, entry, _, rfl, rfl, ?_⟩
      -- five members of five names are all the members
      refine (List.Subperm.perm_of_length_le (List.subperm_of_subset ?_ ?_) ?_).symm
      · simp
      · intro m hm
        simp only [List.mem_cons, List.not_mem_nil, or_false] at hm
        rcases hm with rfl | rfl | rfl | rfl | rfl
        · exact mem_of_lookup htype
        · exact mem_of_lookup hhashed
        · exact mem_of_lookup hhash
        · exact mem_of_lookup hidentityType
        · exact mem_of_lookup hsalt
      · exact hlength.le
    · cases h
  · rintro ⟨identity, hvalid, hidentifier⟩
    obtain ⟨entry, rfl, hlength, htype, hhashed, hidentityType, hhash, hsalt⟩ :=
      hidentifier.exists_entry
    have hdigest : isValidIdentityHash ("sha256$" ++ identity.hash) = true :=
      isValidIdentityHash_iff.2 ⟨_, rfl, hvalid.hash⟩
    simp [isSupportedEmailIdentity, hlength, htype, hhashed, hidentityType, hhash, hsalt,
      Value.asString, Value.asBool, hdigest, hvalid.salt]

/-! ## The scan for identifiers -/

section Scan

variable {credential v : Value} {path : List Value.Step}

theorem subjectIdentifier_object {members : List (String × Value)} :
    subjectIdentifier (.object members)
      = ((members.lookup "credentialSubject").bind Value.asObject).bind
        (List.lookup "identifier") := by
  rw [subjectIdentifier, Value.pointer, Value.child]
  congr 2
  cases members.lookup "credentialSubject" with
  | none => rfl
  | some w => rfl

/-- **What the scan leaves.** A path to an identifier leads to that of the subject. -/
theorem at_identifier (h : containsUnsupportedIdentifier credential = false)
    (hat : credential.At (path ++ [.key "identifier"]) v) :
    path = [.key "credentialSubject"] ∧ subjectIdentifier credential = some v := by
  rw [containsUnsupportedIdentifier, Bool.or_eq_false_iff] at h
  obtain ⟨hsupported, hscan⟩ := h
  cases path with
  | nil =>
    cases hat with
    | member hmem _ =>
      rw [remainder, containsIdentifier, Value.containsKey_object] at hscan
      obtain hkept | ⟨hname, -⟩ := mem_modifyMember "credentialSubject" removeIdentifier hmem
      · exact absurd rfl (hscan _ _ hkept).1
      · exact absurd hname (by decide)
  | cons step path =>
    cases hat with
    | element hget hat =>
      have hseen := @Value.containsKey_of_at _ _ _ (.index _ :: path) (.element hget hat)
      change (Value.array _).containsKey "identifier" = false at hscan
      rw [hseen] at hscan
      cases hscan
    | @member name members w _ _ hmem hat =>
      rw [remainder, containsIdentifier, Value.containsKey_object] at hscan
      obtain hkept | ⟨rfl, hlookup⟩ := mem_modifyMember "credentialSubject" removeIdentifier hmem
      · exact absurd (Value.containsKey_of_at hat) (by simp [(hscan _ _ hkept).2])
      · have hrest := (hscan _ _ (mem_modifyMember_self hlookup)).2
        rw [subjectIdentifier_object, hlookup, Option.bind_some] at hsupported ⊢
        cases w with
        | object subject =>
          rw [removeIdentifier, Value.containsKey_object] at hrest
          rw [Value.asObject, Option.bind_some] at hsupported ⊢
          cases path with
          | nil =>
            cases hat with
            | member hmem hat =>
              cases hat
              obtain hkept | ⟨-, hidentifier⟩ := mem_removeMember "identifier" hmem
              · exact absurd rfl (hrest _ _ hkept).1
              · exact ⟨rfl, hidentifier⟩
          | cons step path =>
            cases hat with
            | member hmem hat =>
              have hseen := Value.containsKey_of_at hat
              obtain hkept | ⟨-, hidentifier⟩ := mem_removeMember "identifier" hmem
              · rw [(hrest _ _ hkept).2] at hseen
                cases hseen
              · -- the identifier of the subject has none in it
                rw [hidentifier, Option.any_some, Bool.not_eq_false'] at hsupported
                obtain ⟨identity, -, hidentity⟩ := isSupportedEmailIdentity_iff.1 hsupported
                rw [hidentity.containsKey] at hseen
                cases hseen
        | _ =>
          exact absurd (Value.containsKey_of_at hat) (by simpa [removeIdentifier] using hrest)

end Scan

/-! ## What the libraries do -/

variable {U T K : Type}

/-- A proof of the profile, under the verification method. -/
structure IsProof (methodUrl : String) (proof : List (String × Value)) : Prop where
  type : proof.lookup "type" = some (.string "DataIntegrityProof")
  cryptosuite : proof.lookup "cryptosuite" = some (.string "eddsa-rdfc-2022")
  proofPurpose : proof.lookup "proofPurpose" = some (.string "assertionMethod")
  verificationMethod : proof.lookup "verificationMethod" = some (.string methodUrl)
  identifier : (Value.object proof).containsKey "identifier" = false

namespace Libraries

variable (lib : Libraries U T K)

def Accepts (document : Value) (resolver : List Multikey) : Prop :=
  ∃ claims proof, lib.fromValue document = some (claims, [proof])
    ∧ lib.verify (claims, [proof]) resolver = true

/-- Signing keeps the members of a document and adds a proof of the profile, and what was signed is
accepted under every set of keys with the public part of the signing key. -/
def Lawful : Prop :=
  ∀ document issuerUrl methodUrl encoded createdAt key signed,
    (document.map Prod.fst).Nodup → "proof" ∉ document.map Prod.fst →
    lib.encodePublicKey issuerUrl (lib.toPublic key) = .ok encoded →
    lib.signWith (.object document) [⟨methodUrl, encoded⟩]
      (BadgesManager.proofOptions lib methodUrl createdAt) key = .ok signed →
    ∃ members proof, signed = .object members
      ∧ members.Perm (document ++ [("proof", .object proof)])
      ∧ IsProof methodUrl proof
      ∧ ∀ resolver, ⟨methodUrl, encoded⟩ ∈ resolver →
        lib.Accepts (.object (modifyMember "proof" (fun proof ↦ .array [proof]) members)) resolver

/-- The identifiers and the time of the award are read back from what they print as. -/
structure ReadsBack (award : UserBadge U T) : Prop where
  ids : ∀ id ∈ [award.userBadgeId, award.groupId, award.badgeStatusListId],
    lib.parseStr (lib.display id) = some id ∧ '/' ∉ (lib.display id).toList
  awardedAt : (lib.parseFromRfc3339 (lib.toRfc3339 award.awardedAt)).isSome

/-- The keys of the configuration are keys that an issuer can publish. -/
def Publishes (config : BadgesConfig K) (issuerUrl : String) : Prop :=
  ∀ row ∈ (config.signingKey.keyId, lib.toPublic config.signingKey.privateJwk)
      :: config.verificationKeys,
    ∃ encoded, lib.encodePublicKey issuerUrl row.2 = .ok encoded
      ∧ lib.isIri (issuerUrl ++ "/keys/" ++ encoded) = true

end Libraries

/-! ## Keys -/

section Keys

variable {lib : Libraries U T K} {config : BadgesConfig K} {issuerUrl : String}

theorem mem_foldl_upsert {keys init : List (String × K)} {row : String × K}
    (h : row ∈ keys.foldl (fun keys key ↦ upsert Prod.fst key keys) init) :
    row ∈ keys ∨ row ∈ init := by
  induction keys generalizing init with
  | nil => exact Or.inr h
  | cons key keys ih =>
    obtain hmem | hmem := ih h
    · exact Or.inl (List.mem_cons_of_mem _ hmem)
    · obtain rfl | hmem := List.mem_cons.1 hmem
      · exact Or.inl List.mem_cons_self
      · exact Or.inr (List.mem_of_mem_filter hmem)

theorem KeySet.mem_new {row : String × K} (h : row ∈ (KeySet.new lib config).verificationKeys) :
    row ∈ (config.signingKey.keyId, lib.toPublic config.signingKey.privateJwk)
      :: config.verificationKeys := by
  obtain rfl | hmem := List.mem_cons.1 h
  · exact List.mem_cons_self
  · obtain hmem | hmem := mem_foldl_upsert (List.mem_of_mem_filter hmem)
    · exact List.mem_cons_of_mem _ hmem
    · cases hmem

theorem KeySet.multikey_new (hkeys : lib.Publishes config issuerUrl) {keyId : String}
    (h : keyId ∈ (KeySet.new lib config).verificationKeys.map Prod.fst) :
    ∃ method, (KeySet.new lib config).multikey lib issuerUrl keyId = .ok method := by
  obtain ⟨row, hrow, rfl⟩ := List.mem_map.1 h
  obtain ⟨row', hrow'⟩ : ∃ row', lookup Prod.fst (KeySet.new lib config).verificationKeys row.1
      = some row' :=
    Option.isSome_iff_exists.1 (List.find?_isSome.2 ⟨row, hrow, by simp⟩)
  obtain ⟨encoded, hencoded, hiri⟩ := hkeys row' (KeySet.mem_new (Relational.mem_of_lookup hrow'))
  refine ⟨⟨issuerUrl ++ "/keys/" ++ encoded, encoded⟩, ?_⟩
  rw [KeySet.multikey, KeySet.publicJwk, hrow']
  simp [okOr, hencoded, require_of hiri]

theorem KeySet.multikey_signingKey {encoded : String}
    (hencoded : lib.encodePublicKey issuerUrl (lib.toPublic config.signingKey.privateJwk)
      = .ok encoded)
    (hiri : lib.isIri (issuerUrl ++ "/keys/" ++ encoded) = true) :
    (KeySet.new lib config).multikey lib issuerUrl config.signingKey.keyId
      = .ok ⟨issuerUrl ++ "/keys/" ++ encoded, encoded⟩ := by
  rw [KeySet.multikey, KeySet.publicJwk, KeySet.new, lookup_upsert, if_pos rfl]
  simp [okOr, hencoded, require_of hiri]

/-- Every retained key can be published, and the signing key is among them. -/
theorem KeySet.resolver_new (hkeys : lib.Publishes config issuerUrl) {method : Multikey}
    (hmethod : (KeySet.new lib config).multikey lib issuerUrl config.signingKey.keyId
      = .ok method) :
    ∃ methods, (KeySet.new lib config).resolver lib issuerUrl = .ok methods
      ∧ method ∈ methods := by
  obtain ⟨methods, hmethods, hmem⟩ := exists_mapM_eq_ok
    ((KeySet.new lib config).multikey lib issuerUrl)
    (((KeySet.new lib config).verificationKeys.map Prod.fst).mergeSort (· ≤ ·))
    fun keyId hkeyId ↦ KeySet.multikey_new hkeys (List.mem_mergeSort.1 hkeyId)
  refine ⟨methods, hmethods, hmem config.signingKey.keyId ?_ method hmethod⟩
  rw [List.mem_mergeSort]
  exact List.mem_map.2 ⟨_, List.mem_cons_self, rfl⟩

end Keys

/-! ## Issued documents -/

section Issued

variable {lib : Libraries U T K} {manager : BadgesManager K} {input : CredentialInput U T}
  {members proof : List (String × Value)} {name : String}

namespace BadgesManager

theorem parseLocalUuidUrl_eq_ok {value path : String} {id : U} :
    manager.parseLocalUuidUrl lib value path = .ok id
      ↔ ∃ text, value = manager.baseUrl ++ path ++ text ∧ '/' ∉ text.toList
        ∧ lib.parseStr text = some id := by
  rw [parseLocalUuidUrl, bind_eq_ok]
  constructor
  · rintro ⟨text, htext, hid⟩
    cases hfilter : (Text.stripPrefix (manager.baseUrl ++ path) value).filter fun id ↦
        '/' ∉ id.toList with
    | none =>
      rw [hfilter] at htext
      cases htext
    | some text' =>
      rw [hfilter] at htext
      obtain rfl := Except.ok.inj htext
      rw [Option.filter_eq_some_iff, Text.stripPrefix_eq_some, decide_eq_true_eq] at hfilter
      refine ⟨text', hfilter.1, hfilter.2, ?_⟩
      cases hparse : lib.parseStr text' with
      | none =>
        rw [hparse] at hid
        cases hid
      | some id' =>
        rw [hparse] at hid
        rw [Except.ok.inj hid]
  · rintro ⟨text, rfl, hslash, hid⟩
    refine ⟨text, ?_, by rw [hid]; rfl⟩
    rw [Text.stripPrefix_append, Option.filter_some, if_pos (by simpa using hslash)]
    rfl

theorem parseLocalUuidUrl_display {path : String} {id : U}
    (hid : lib.parseStr (lib.display id) = some id ∧ '/' ∉ (lib.display id).toList) :
    manager.parseLocalUuidUrl lib (manager.baseUrl ++ path ++ lib.display id) path = .ok id :=
  parseLocalUuidUrl_eq_ok.2 ⟨_, rfl, hid.2, hid.1⟩

theorem nodup_names_credentialDocument :
    ((manager.credentialDocument lib input).map Prod.fst).Nodup := by
  simp [credentialDocument]

theorem proof_notMem_names_credentialDocument :
    "proof" ∉ (manager.credentialDocument lib input).map Prod.fst := by
  simp [credentialDocument]

/-- The subject says no more than the award, apart from the identity of an export. -/
theorem credentialSubject_scan {k : String} {v : Value}
    (h : (k, v) ∈ removeMember "identifier" (manager.credentialSubject lib input)) :
    k ≠ "identifier" ∧ v.containsKey "identifier" = false := by
  cases hidentity : input.emailIdentity with
  | none =>
    simp only [credentialSubject, hidentity, Option.elim_none, removeMember, String.reduceEq,
      if_false, List.mem_cons, Prod.mk.injEq, List.not_mem_nil, or_false] at h
    rcases h with ⟨rfl, rfl⟩ | ⟨rfl, rfl⟩ | ⟨rfl, rfl⟩ <;>
      simp [Value.containsKey, Value.membersContainKey, Value.elementsContainKey]
  | some identity =>
    simp [credentialSubject, hidentity, insertMember, removeMember, List.lookup_cons] at h
    rcases h with ⟨rfl, rfl⟩ | ⟨rfl, rfl⟩ | ⟨rfl, rfl⟩ <;>
      simp [Value.containsKey, Value.membersContainKey, Value.elementsContainKey]

theorem credentialDocument_scan {k : String} {v : Value}
    (h : (k, v) ∈ manager.credentialDocument lib input) :
    k ≠ "identifier" ∧ (k ≠ "credentialSubject" → v.containsKey "identifier" = false) := by
  simp only [credentialDocument, List.mem_cons, Prod.mk.injEq, List.not_mem_nil, or_false] at h
  rcases h with ⟨rfl, rfl⟩ | ⟨rfl, rfl⟩ | ⟨rfl, rfl⟩ | ⟨rfl, rfl⟩ | ⟨rfl, rfl⟩ | ⟨rfl, rfl⟩
    | ⟨rfl, rfl⟩ | ⟨rfl, rfl⟩ <;>
    simp [Value.containsKey, Value.membersContainKey, Value.elementsContainKey]

theorem lookup_identifier_credentialSubject :
    (manager.credentialSubject lib input).lookup "identifier"
      = input.emailIdentity.map fun identity ↦ .array [identity.identifierEntry] := by
  cases hidentity : input.emailIdentity with
  | none => simp [credentialSubject, hidentity, List.lookup_cons]
  | some identity => simp [credentialSubject, hidentity, insertMember, List.lookup_cons]

theorem lookup_achievement_credentialSubject (hname : name ≠ "identifier") :
    (manager.credentialSubject lib input).lookup name
      = (manager.credentialSubject lib { input with emailIdentity := none }).lookup name := by
  cases hidentity : input.emailIdentity with
  | none => simp [credentialSubject, hidentity]
  | some identity =>
    simp [credentialSubject, hidentity, insertMember, List.lookup_cons, beq_false_of_ne hname]

end BadgesManager

/-- What comes of signing the document: its members and the proof in an array, in any order. -/
structure IsSigned (manager : BadgesManager K) (lib : Libraries U T K)
    (input : CredentialInput U T) (members proof : List (String × Value)) : Prop where
  perm : members.Perm (manager.credentialDocument lib input ++ [("proof", .object proof)])
  identifier : (Value.object proof).containsKey "identifier" = false

namespace IsSigned

/-- The document with its proof in an array. -/
def credential (members : List (String × Value)) : List (String × Value) :=
  modifyMember "proof" (fun proof ↦ .array [proof]) members

theorem nodup_names (h : IsSigned manager lib input members proof) :
    (members.map Prod.fst).Nodup := by
  rw [(h.perm.map Prod.fst).nodup_iff, List.map_append, List.nodup_append]
  refine ⟨BadgesManager.nodup_names_credentialDocument, by simp, ?_⟩
  intro k hk k' hk' heq
  obtain rfl := List.mem_singleton.1 hk'
  exact BadgesManager.proof_notMem_names_credentialDocument (heq ▸ hk)

theorem lookup_proof (h : IsSigned manager lib input members proof) :
    members.lookup "proof" = some (.object proof) :=
  lookup_eq_some_of_mem h.nodup_names (h.perm.mem_iff.2 (by simp))

theorem lookup_credential (h : IsSigned manager lib input members proof) (hname : name ≠ "proof") :
    (credential members).lookup name = (manager.credentialDocument lib input).lookup name := by
  rw [credential, lookup_modifyMember_of_ne hname, ← lookup_eq_of_perm name h.nodup_names h.perm,
    List.lookup_append, lookup_cons_of_ne hname, List.lookup_nil, Option.or_none]

theorem pointer_credential (h : IsSigned manager lib input members proof) (hname : name ≠ "proof")
    (path : List String) :
    (Value.object (credential members)).pointer (name :: path)
      = (Value.object (manager.credentialDocument lib input)).pointer (name :: path) := by
  rw [Value.pointer, Value.pointer, Value.child, Value.child, h.lookup_credential hname]

/-- **The only identifier of an issued document** is the identity of the export. -/
theorem containsUnsupportedIdentifier (h : IsSigned manager lib input members proof)
    (hidentity : ∀ identity, input.emailIdentity = some identity → identity.Valid) :
    containsUnsupportedIdentifier (.object (credential members)) = false := by
  have hsubject : (credential members).lookup "credentialSubject"
      = some (.object (manager.credentialSubject lib input)) := by
    rw [h.lookup_credential (by decide)]
    simp [BadgesManager.credentialDocument, List.lookup_cons]
  rw [Credentials.containsUnsupportedIdentifier, Bool.or_eq_false_iff]
  constructor
  · rw [subjectIdentifier_object, hsubject]
    change Option.any _ ((manager.credentialSubject lib input).lookup "identifier") = false
    rw [BadgesManager.lookup_identifier_credentialSubject]
    cases hid : input.emailIdentity with
    | none => rfl
    | some identity =>
      rw [Option.map_some, Option.any_some, isSupportedEmailIdentity_iff.2
        ⟨identity, hidentity identity hid, identity.isIdentifier_entry⟩]
      rfl
  · have hnames : ((credential members).map Prod.fst).Nodup := by
      rw [credential, map_fst_modifyMember]
      exact h.nodup_names
    rw [remainder, containsIdentifier, Value.containsKey_object]
    intro k v hmem
    obtain ⟨hk, hmem⟩ | ⟨rfl, w, hw, rfl⟩ := eq_of_mem_modifyMember hnames hmem
    · obtain ⟨hk', hmem⟩ | ⟨rfl, w, hw, rfl⟩ := eq_of_mem_modifyMember h.nodup_names hmem
      · obtain hmem | hmem := List.mem_append.1 (h.perm.mem_iff.1 hmem)
        · exact ⟨(BadgesManager.credentialDocument_scan hmem).1,
            (BadgesManager.credentialDocument_scan hmem).2 hk⟩
        · exact absurd (Prod.mk.inj (List.mem_singleton.1 hmem)).1 hk'
      · refine ⟨by decide, ?_⟩
        obtain rfl := Option.some.inj (h.lookup_proof.symm.trans hw)
        rw [Value.containsKey_array]
        simpa using h.identifier
    · refine ⟨by decide, ?_⟩
      obtain rfl := Option.some.inj (hsubject.symm.trans hw)
      rw [removeIdentifier, Value.containsKey_object]
      exact fun k v ↦ BadgesManager.credentialSubject_scan

end IsSigned

theorem exportedIdentity_credential (h : IsSigned manager lib input members proof) :
    BadgesManager.exportedIdentity (.object (IsSigned.credential members))
      = .ok (input.emailIdentity.map fun identity ↦ ⟨identity.hash, identity.salt⟩) := by
  rw [BadgesManager.exportedIdentity, h.pointer_credential (by decide)]
  have hpointer : (Value.object (manager.credentialDocument lib input)).pointer
      ["credentialSubject", "identifier", "0"]
      = input.emailIdentity.map EmailIdentity.identifierEntry := by
    have hsubject : (manager.credentialDocument lib input).lookup "credentialSubject"
        = some (.object (manager.credentialSubject lib input)) := by
      simp [BadgesManager.credentialDocument, List.lookup_cons]
    rw [Value.pointer, Value.child, hsubject, Option.bind_some, Value.pointer, Value.child,
      BadgesManager.lookup_identifier_credentialSubject]
    cases input.emailIdentity with
    | none => rfl
    | some identity => rfl
  rw [hpointer]
  cases input.emailIdentity with
  | none => rfl
  | some identity =>
    simp [EmailIdentity.identifierEntry, requiredString, Value.pointer, Value.child,
      List.lookup_cons, Value.asString, okOr]

theorem requiredString_credential (h : IsSigned manager lib input members proof)
    (hname : name ≠ "proof") {path : List String} {text : String}
    (htext : (Value.object (manager.credentialDocument lib input)).pointer (name :: path)
      = some (.string text)) :
    requiredString (.object (IsSigned.credential members)) (name :: path) = .ok text := by
  rw [requiredString, h.pointer_credential hname, htext]
  rfl

theorem verifyDocument_credential {config : BadgesConfig K} {method : Multikey}
    (hmanager : manager.keys = KeySet.new lib config)
    (h : IsSigned manager lib input members proof) (hproof : IsProof method.id proof)
    (hkeys : lib.Publishes config (manager.issuerUrl lib input.award.groupId))
    (hmethod : manager.keys.multikey lib (manager.issuerUrl lib input.award.groupId)
      config.signingKey.keyId = .ok method)
    (haccepts : ∀ resolver, method ∈ resolver →
      lib.Accepts (.object (IsSigned.credential members)) resolver) :
    manager.verifyDocument lib (.object (IsSigned.credential members))
      (manager.issuerUrl lib input.award.groupId) = .ok () := by
  have hsingle : singleProof (.object (IsSigned.credential members)) = .ok (.object proof) := by
    rw [singleProof, Value.get, IsSigned.credential, lookup_modifyMember_self, h.lookup_proof]
    rfl
  have hissuer : requiredString (.object (IsSigned.credential members)) ["issuer", "id"]
      = .ok (manager.issuerUrl lib input.award.groupId) := by
    apply requiredString_credential h (by decide)
    simp [BadgesManager.credentialDocument, Value.pointer, Value.child, List.lookup_cons]
  have htext {name text : String} (hlookup : proof.lookup name = some (.string text)) :
      requiredString (.object proof) [name] = .ok text := by
    rw [requiredString, Value.pointer, Value.child, hlookup]
    rfl
  rw [hmanager] at hmethod
  obtain ⟨methods, hmethods, hmem⟩ := KeySet.resolver_new hkeys hmethod
  obtain ⟨claims, claimed, hclaimed, hverify⟩ := haccepts methods hmem
  rw [BadgesManager.verifyDocument, hsingle, ok_bind, hissuer, ok_bind, require_of rfl, ok_bind,
    htext hproof.type, ok_bind, require_of rfl, ok_bind, htext hproof.cryptosuite, ok_bind,
    require_of rfl, ok_bind, htext hproof.proofPurpose, ok_bind, require_of rfl, ok_bind,
    htext hproof.verificationMethod, ok_bind, hmanager, hmethods, ok_bind,
    require_of ⟨method, hmem, rfl⟩, ok_bind, hclaimed]
  exact require_of hverify

theorem verifyStatus_credential (h : IsSigned manager lib input members proof)
    (hlo : 0 ≤ input.award.statusListIndex)
    (hhi : input.award.statusListIndex < statusListEntries) :
    BadgesManager.verifyStatus (.object (IsSigned.credential members))
      (manager.credentialUrl lib input.award.userBadgeId) = .ok input.award.statusListIndex := by
  obtain ⟨n, hn⟩ := Int.eq_ofNat_of_zero_le hlo
  have hcanonical : Text.Canonical n.repr.toList := by
    rw [Nat.toList_repr]
    exact Text.canonical_toDigits n
  have htext {path : List String} {text : String}
      (htext : (Value.object (manager.credentialDocument lib input)).pointer
        ("credentialStatus" :: path) = some (.string text)) :
      requiredString (.object (IsSigned.credential members)) ("credentialStatus" :: path)
        = .ok text :=
    requiredString_credential h (by decide) htext
  have hindex : requiredString (.object (IsSigned.credential members))
      ["credentialStatus", "statusListIndex"] = .ok n.repr := by
    apply htext
    simp [BadgesManager.credentialDocument, Value.pointer, Value.child, List.lookup_cons, hn,
      Int.repr]
  have htype : requiredString (.object (IsSigned.credential members))
      ["credentialStatus", "type"] = .ok "BitstringStatusListEntry" := by
    apply htext
    simp [BadgesManager.credentialDocument, Value.pointer, Value.child, List.lookup_cons]
  have hid : requiredString (.object (IsSigned.credential members)) ["credentialStatus", "id"]
      = .ok (manager.credentialUrl lib input.award.userBadgeId ++ "#status") := by
    apply htext
    simp [BadgesManager.credentialDocument, Value.pointer, Value.child, List.lookup_cons]
  have hpurpose : requiredString (.object (IsSigned.credential members))
      ["credentialStatus", "statusPurpose"] = .ok "revocation" := by
    apply htext
    simp [BadgesManager.credentialDocument, Value.pointer, Value.child, List.lookup_cons]
  have hdigits : n.repr ≠ "" ∧ n.repr.toList.all Char.isDigit
      ∧ ¬ (1 < n.repr.length ∧ n.repr.toList.head? = some '0') := by
    refine ⟨Nat.repr_ne_empty, List.all_eq_true.2 hcanonical.2.1, ?_⟩
    rintro ⟨hlength, hhead⟩
    have hone := hcanonical.2.2 hhead
    rw [String.length_toList] at hone
    omega
  rw [hn, statusListEntries] at hhi
  have hrange : (-2 ^ 31 : ℤ) ≤ n ∧ (n : ℤ) ≤ 2 ^ 31 - 1 := by omega
  rw [BadgesManager.verifyStatus, hindex, ok_bind, require_of hdigits, ok_bind, htype, ok_bind,
    require_of rfl, ok_bind, hid, ok_bind, require_of rfl, ok_bind, hpurpose, ok_bind,
    require_of rfl, ok_bind, Text.parseInt_repr hrange.1 hrange.2, okOr, Option.elim_some, ok_bind,
    require_of ⟨by omega, by rw [statusListEntries]; exact hhi⟩, ok_bind, hn]
  rfl

theorem verifyCredential_credential {baseUrl : String} {config : BadgesConfig K}
    {method : Multikey} {validFrom : T} (hmanager : manager = BadgesManager.new lib baseUrl config)
    (h : IsSigned manager lib input members proof) (hproof : IsProof method.id proof)
    (hreads : lib.ReadsBack input.award)
    (hvalidFrom : lib.parseFromRfc3339 (lib.toRfc3339 input.award.awardedAt) = some validFrom)
    (hkeys : lib.Publishes config (manager.issuerUrl lib input.award.groupId))
    (hmethod : manager.keys.multikey lib (manager.issuerUrl lib input.award.groupId)
      config.signingKey.keyId = .ok method)
    (haccepts : ∀ resolver, method ∈ resolver →
      lib.Accepts (.object (IsSigned.credential members)) resolver)
    (hlo : 0 ≤ input.award.statusListIndex) (hhi : input.award.statusListIndex < statusListEntries)
    (hissuer : input.award.snapshot.issuerGroupName ≠ "")
    (hidentity : ∀ identity, input.emailIdentity = some identity → identity.Valid) :
    manager.verifyCredential lib (.object (IsSigned.credential members)) = .ok {
      description := input.award.snapshot.description
      groupId := input.award.groupId
      issuer := manager.issuerUrl lib input.award.groupId
      name := input.award.snapshot.name
      statusListId := input.award.badgeStatusListId
      statusListIndex := input.award.statusListIndex
      userBadgeId := input.award.userBadgeId
      validFrom
      emailIdentity := input.emailIdentity.map fun identity ↦ ⟨identity.hash, identity.salt⟩ } := by
  have hget {name : String} (hname : name ≠ "proof") :
      (Value.object (IsSigned.credential members)).get name
        = (manager.credentialDocument lib input).lookup name := h.lookup_credential hname
  have htext {name : String} (hname : name ≠ "proof") {path : List String} {text : String}
      (htext : (Value.object (manager.credentialDocument lib input)).pointer (name :: path)
        = some (.string text)) :
      requiredString (.object (IsSigned.credential members)) (name :: path) = .ok text :=
    requiredString_credential h hname htext
  -- the profile, from the top of the document down
  have hprofile : ((Value.object (IsSigned.credential members)).get "@context").bind
        Value.asStrings = some [vcContextUrl, openBadgesContextUrl]
      ∧ ((Value.object (IsSigned.credential members)).get "type").bind Value.asStrings
        = some ["VerifiableCredential", "OpenBadgeCredential"]
      ∧ containsUnsupportedIdentifier (.object (IsSigned.credential members)) = false := by
    rw [hget (by decide), hget (by decide)]
    exact ⟨rfl, rfl, h.containsUnsupportedIdentifier hidentity⟩
  have hid : requiredString (.object (IsSigned.credential members)) ["id"]
      = .ok (manager.credentialUrl lib input.award.userBadgeId) := htext (by decide) rfl
  have huserBadgeId : manager.parseCredentialUrl lib
      (manager.credentialUrl lib input.award.userBadgeId) = .ok input.award.userBadgeId :=
    BadgesManager.parseLocalUuidUrl_display (hreads.ids _ (by simp))
  have hsubject : (manager.credentialDocument lib input).lookup "credentialSubject"
      = some (.object (manager.credentialSubject lib input)) := rfl
  have hsubjectText {name : String} (hname : name ≠ "identifier") {path : List String}
      {text : String} (hpath : (Value.object (manager.credentialSubject lib
        { input with emailIdentity := none })).pointer (name :: path) = some (.string text)) :
      requiredString (.object (IsSigned.credential members)) ("credentialSubject" :: name :: path)
        = .ok text := by
    apply htext (by decide)
    rw [Value.pointer, Value.child, hsubject, Option.bind_some, Value.pointer, Value.child,
      BadgesManager.lookup_achievement_credentialSubject hname]
    exact hpath
  have hsubjectId : requiredString (.object (IsSigned.credential members))
      ["credentialSubject", "id"] = .ok ("urn:uuid:" ++ lib.display input.award.userBadgeId) :=
    hsubjectText (by decide) rfl
  have hissuerProfile : ((Value.object (IsSigned.credential members)).get "issuer").bind
      Value.asObject = some [
        ("id", .string (manager.issuerUrl lib input.award.groupId)),
        ("type", .array [.string "Profile"]),
        ("name", .string input.award.snapshot.issuerGroupName)] := by
    rw [hget (by decide)]
    rfl
  have hissuerName : requiredString (.object (IsSigned.credential members)) ["issuer", "name"]
      = .ok input.award.snapshot.issuerGroupName := htext (by decide) rfl
  have hissuerId : requiredString (.object (IsSigned.credential members)) ["issuer", "id"]
      = .ok (manager.issuerUrl lib input.award.groupId) := htext (by decide) rfl
  have hgroupId : manager.parseIssuerUrl lib (manager.issuerUrl lib input.award.groupId)
      = .ok input.award.groupId :=
    BadgesManager.parseLocalUuidUrl_display (hreads.ids _ (by simp))
  have hverify := verifyDocument_credential (by rw [hmanager]; rfl) h hproof hkeys hmethod haccepts
  have hfrom : requiredString (.object (IsSigned.credential members)) ["validFrom"]
      = .ok (lib.toRfc3339 input.award.awardedAt) := htext (by decide) rfl
  have hstatusUrl : requiredString (.object (IsSigned.credential members))
      ["credentialStatus", "statusListCredential"]
      = .ok (manager.statusListUrl lib input.award.badgeStatusListId) := htext (by decide) rfl
  have hstatusListId : manager.parseStatusListUrl lib
      (manager.statusListUrl lib input.award.badgeStatusListId)
        = .ok input.award.badgeStatusListId :=
    BadgesManager.parseLocalUuidUrl_display (hreads.ids _ (by simp))
  have hdescription : requiredString (.object (IsSigned.credential members))
      ["credentialSubject", "achievement", "description"]
      = .ok input.award.snapshot.description := hsubjectText (by decide) rfl
  have hname : requiredString (.object (IsSigned.credential members))
      ["credentialSubject", "achievement", "name"] = .ok input.award.snapshot.name :=
    hsubjectText (by decide) rfl
  rw [BadgesManager.verifyCredential, require_of hprofile, ok_bind, hid, ok_bind, huserBadgeId,
    ok_bind, hsubjectId, ok_bind, require_of rfl, ok_bind, hissuerProfile, okOr,
    Option.elim_some, ok_bind, require_of ⟨rfl, rfl⟩, ok_bind, hissuerName, ok_bind,
    require_of hissuer, ok_bind, hissuerId, ok_bind, hgroupId, ok_bind, hverify, ok_bind, hfrom,
    ok_bind, hvalidFrom, okOr, Option.elim_some, ok_bind, hstatusUrl, ok_bind, hstatusListId,
    ok_bind, verifyStatus_credential h hlo hhi, ok_bind, exportedIdentity_credential h, ok_bind,
    hdescription, ok_bind, hname, ok_bind]
  rfl

theorem issueCredential_eq_ok {method : Multikey}
    (h : IsSigned manager lib input members proof)
    (hmethod : manager.keys.multikey lib (manager.issuerUrl lib input.award.groupId)
      manager.keys.signingKey.keyId = .ok method)
    (hsign : lib.signWith (.object (manager.credentialDocument lib input)) [method]
      (BadgesManager.proofOptions lib method.id input.createdAt) manager.keys.signingKey.privateJwk
        = .ok (.object members)) :
    manager.issueCredential lib input = .ok (.object (IsSigned.credential members)) := by
  have hissuer : requiredString (.object (manager.credentialDocument lib input)) ["issuer", "id"]
      = .ok (manager.issuerUrl lib input.award.groupId) := rfl
  rw [BadgesManager.issueCredential, BadgesManager.signDocument, hissuer, ok_bind,
    require_of rfl, ok_bind]
  dsimp only
  rw [hmethod, ok_bind, hsign, ok_bind]
  simp only [h.lookup_proof]
  rfl

end Issued

/-! ## Accepted documents -/

/-- What an accepted document says. -/
structure HasProfile (lib : Libraries U T K) (manager : BadgesManager K) (credential : Value)
    (verified : VerifiedCredential U T) : Prop where
  /-- Only the subject has an identifier, and it is the identity that is returned. -/
  identifier : ∀ path v, credential.At (path ++ [.key "identifier"]) v →
    path = [.key "credentialSubject"] ∧ ∃ identity : EmailIdentity, identity.Valid
      ∧ identity.IsIdentifier v ∧ verified.emailIdentity = some ⟨identity.hash, identity.salt⟩
  /-- The document, its subject and its status entry are those of one award. -/
  credentialUrl : ∃ url, credential.pointer ["id"] = some (.string url)
    ∧ manager.parseCredentialUrl lib url = .ok verified.userBadgeId
    ∧ credential.pointer ["credentialSubject", "id"]
      = some (.string ("urn:uuid:" ++ lib.display verified.userBadgeId))
    ∧ credential.pointer ["credentialStatus", "id"] = some (.string (url ++ "#status"))
  /-- The issuer is the one that the proof was checked for. -/
  issuer : credential.pointer ["issuer", "id"] = some (.string verified.issuer)
    ∧ manager.parseIssuerUrl lib verified.issuer = .ok verified.groupId
    ∧ manager.verifyDocument lib credential verified.issuer = .ok ()
  statusList : ∃ url,
    credential.pointer ["credentialStatus", "statusListCredential"] = some (.string url)
      ∧ manager.parseStatusListUrl lib url = .ok verified.statusListId
  /-- The index is printed in its canonical form, and in range. -/
  statusListIndex : ∃ n < statusListEntries, verified.statusListIndex = n
    ∧ credential.pointer ["credentialStatus", "statusListIndex"] = some (.string n.repr)

section Accepted

variable {lib : Libraries U T K} {manager : BadgesManager K} {credential : Value}

theorem okOr_eq_ok {α : Type} {value : Option α} {err : BadgesManagerError} {a : α} :
    okOr value err = .ok a ↔ value = some a := by
  cases value with
  | none => simp [okOr]
  | some b => simp [okOr]

theorem requiredString_eq_ok {value : Value} {path : List String} {text : String} :
    requiredString value path = .ok text ↔ value.pointer path = some (.string text) := by
  rw [requiredString, okOr_eq_ok, Option.bind_eq_some_iff]
  simp

theorem verifyStatus_eq_ok {credentialId : String} {index : ℤ}
    (h : BadgesManager.verifyStatus credential credentialId = .ok index) :
    credential.pointer ["credentialStatus", "id"] = some (.string (credentialId ++ "#status"))
      ∧ ∃ n < statusListEntries, index = n
        ∧ credential.pointer ["credentialStatus", "statusListIndex"] = some (.string n.repr) := by
  simp only [BadgesManager.verifyStatus, bind_eq_ok, require_eq_ok, pure_eq_ok, okOr_eq_ok,
    requiredString_eq_ok] at h
  obtain ⟨text, htext, -, ⟨hne, hdigits, hzero⟩, -, -, -, -, id, hid, -, rfl, -, -, -, -, index',
    hparse, -, ⟨hlo, hhi⟩, rfl⟩ := h
  have hcanonical : Text.Canonical text.toList := by
    refine ⟨fun hnil ↦ hne (String.toList_eq_nil_iff.1 hnil), List.all_eq_true.1 hdigits,
      fun hhead ↦ ?_⟩
    have hpos : text.toList ≠ [] := fun hnil ↦ hne (String.toList_eq_nil_iff.1 hnil)
    have hlength : 0 < text.toList.length := List.length_pos_iff.2 hpos
    rw [String.length_toList] at hlength ⊢
    have hone : ¬ 1 < text.length := fun hlt ↦ hzero ⟨hlt, hhead⟩
    omega
  rw [Text.parseInt_of_canonical hcanonical] at hparse
  split_ifs at hparse
  obtain rfl := Option.some.inj hparse
  refine ⟨hid, Nat.ofDigitChars 10 text.toList 0, by exact_mod_cast hhi, rfl, ?_⟩
  rw [← Text.eq_repr_of_canonical hcanonical, htext]

theorem exportedIdentity_of_isIdentifier {identity : EmailIdentity} {v : Value}
    (hsubject : subjectIdentifier credential = some v) (hidentity : identity.IsIdentifier v) :
    BadgesManager.exportedIdentity credential = .ok (some ⟨identity.hash, identity.salt⟩) := by
  obtain ⟨entry, rfl, -, -, -, -, hhash, hsalt⟩ := hidentity.exists_entry
  rw [subjectIdentifier, Option.bind_eq_some_iff] at hsubject
  obtain ⟨subject, hsubject, hidentifier⟩ := hsubject
  rw [Option.bind_eq_some_iff] at hsubject
  obtain ⟨w, hw, hobject⟩ := hsubject
  obtain rfl := Value.asObject_eq_some.1 hobject
  have hpointer : credential.pointer ["credentialSubject", "identifier", "0"]
      = some (.object entry) := by
    rw [Value.pointer, Option.bind_eq_some_iff] at hw
    obtain ⟨w', hchild, hw'⟩ := hw
    obtain rfl := Option.some.inj hw'
    rw [Value.pointer, hchild, Option.bind_some, Value.pointer, Value.child, hidentifier]
    rfl
  have htext {name text : String} (hlookup : entry.lookup name = some (.string text)) :
      requiredString (.object entry) [name] = .ok text := by
    rw [requiredString, Value.pointer, Value.child, hlookup]
    rfl
  rw [BadgesManager.exportedIdentity, hpointer]
  simp [htext hhash, htext hsalt, okOr]

theorem HasProfile.of_verifyCredential {verified : VerifiedCredential U T}
    (h : manager.verifyCredential lib credential = .ok verified) :
    HasProfile lib manager credential verified := by
  simp only [BadgesManager.verifyCredential, bind_eq_ok, require_eq_ok, pure_eq_ok, okOr_eq_ok,
    requiredString_eq_ok] at h
  obtain ⟨-, ⟨-, -, hscan⟩, credentialId, hid, userBadgeId, huserBadgeId, subjectId, hsubjectId,
    -, rfl, -, -, -, -, -, -, -, -, issuer, hissuer, groupId, hgroupId, _, hverify, -, -,
    validFrom, -, statusUrl, hstatusUrl, statusListId, hstatusListId, statusListIndex, hindex,
    emailIdentity, hidentity, description, -, name, -, rfl⟩ := h
  obtain ⟨hstatusId, hcanonical⟩ := verifyStatus_eq_ok hindex
  refine ⟨?_, ⟨credentialId, hid, huserBadgeId, hsubjectId, hstatusId⟩,
    ⟨hissuer, hgroupId, hverify⟩, ⟨statusUrl, hstatusUrl, hstatusListId⟩, hcanonical⟩
  intro path v hat
  obtain ⟨hpath, hsubject⟩ := at_identifier hscan hat
  rw [containsUnsupportedIdentifier, Bool.or_eq_false_iff, hsubject, Option.any_some,
    Bool.not_eq_false'] at hscan
  obtain ⟨identity, hvalid, hidentifier⟩ := isSupportedEmailIdentity_iff.1 hscan.1
  rw [exportedIdentity_of_isIdentifier hsubject hidentifier] at hidentity
  exact ⟨hpath, identity, hvalid, hidentifier, (Except.ok.inj hidentity).symm⟩

end Accepted

/-! ## The round trip -/

/-- **Issuing and verifying agree.** With libraries that read back what they print and accept what
they signed, every award is issued as a document that the verifier accepts with what the award says;
and whatever is accepted, signed here or not, has the profile. -/
theorem credential_profile (lib : Libraries U T K) (baseUrl : String) (config : BadgesConfig K)
    (manager : BadgesManager K) (hmanager : manager = BadgesManager.new lib baseUrl config) :
    (∀ input : CredentialInput U T, lib.Lawful → lib.ReadsBack input.award →
      lib.Publishes config (manager.issuerUrl lib input.award.groupId) →
      (∀ method, manager.keys.multikey lib (manager.issuerUrl lib input.award.groupId)
          config.signingKey.keyId = .ok method →
        ∃ signed, lib.signWith (.object (manager.credentialDocument lib input)) [method]
          (BadgesManager.proofOptions lib method.id input.createdAt) config.signingKey.privateJwk
            = .ok signed) →
      0 ≤ input.award.statusListIndex → input.award.statusListIndex < statusListEntries →
      input.award.snapshot.issuerGroupName ≠ "" →
      (∀ identity, input.emailIdentity = some identity → identity.Valid) →
      ∃ credential validFrom, manager.issueCredential lib input = .ok credential
        ∧ lib.parseFromRfc3339 (lib.toRfc3339 input.award.awardedAt) = some validFrom
        ∧ manager.verifyCredential lib credential = .ok {
          description := input.award.snapshot.description
          groupId := input.award.groupId
          issuer := manager.issuerUrl lib input.award.groupId
          name := input.award.snapshot.name
          statusListId := input.award.badgeStatusListId
          statusListIndex := input.award.statusListIndex
          userBadgeId := input.award.userBadgeId
          validFrom
          emailIdentity :=
            input.emailIdentity.map fun identity ↦ ⟨identity.hash, identity.salt⟩ })
    ∧ ∀ credential verified, manager.verifyCredential lib credential = .ok verified →
      HasProfile lib manager credential verified := by
  refine ⟨?_, fun credential verified ↦ HasProfile.of_verifyCredential⟩
  intro input hlawful hreads hkeys hsigns hlo hhi hissuer hidentity
  obtain ⟨encoded, hencoded, hiri⟩ := hkeys _ List.mem_cons_self
  have hmethod : manager.keys.multikey lib (manager.issuerUrl lib input.award.groupId)
      config.signingKey.keyId
        = .ok ⟨manager.issuerUrl lib input.award.groupId ++ "/keys/" ++ encoded, encoded⟩ := by
    rw [hmanager] at hencoded hiri ⊢
    exact KeySet.multikey_signingKey hencoded hiri
  obtain ⟨signed, hsigned⟩ := hsigns _ hmethod
  obtain ⟨members, proof, rfl, hperm, hproof, haccepts⟩ := hlawful _ _ _ _ _ _ _
    BadgesManager.nodup_names_credentialDocument
    BadgesManager.proof_notMem_names_credentialDocument hencoded hsigned
  have h : IsSigned manager lib input members proof := ⟨hperm, hproof.identifier⟩
  obtain ⟨validFrom, hvalidFrom⟩ := Option.isSome_iff_exists.1 hreads.awardedAt
  refine ⟨.object (IsSigned.credential members), validFrom, ?_, hvalidFrom,
    verifyCredential_credential hmanager h hproof hreads hvalidFrom hkeys hmethod haccepts hlo hhi
      hissuer hidentity⟩
  have hsigningKey : manager.keys.signingKey = config.signingKey := by
    rw [hmanager]
    rfl
  exact issueCredential_eq_ok h (by rw [hsigningKey, hmethod]) (by rw [hsigningKey, hsigned])

/-- Hex digits of a number, the last ones of it. -/
def hexDigits (width n : ℕ) : List Char :=
  ((List.range width).map fun i ↦ Nat.digitChar (n / 16 ^ i % 16)).reverse

/-- A proof with its key as the signature. -/
def sampleProof (options : List (String × Value)) (key : String) : List (String × Value) :=
  ("type", .string "DataIntegrityProof") :: ("cryptosuite", .string "eddsa-rdfc-2022")
    :: options ++ [("proofValue", .string key)]

/-- Libraries with 128-bit identifiers, one known time and proofs that are checked by their key. -/
def Libraries.sample : Libraries ℕ ℤ String where
  display id := String.ofList <| hexDigits 8 (id / 16 ^ 24) ++ '-' :: hexDigits 4 (id / 16 ^ 20)
    ++ '-' :: hexDigits 4 (id / 16 ^ 16) ++ '-' :: hexDigits 4 (id / 16 ^ 12)
    ++ '-' :: hexDigits 12 id
  parseStr text :=
    let digits := text.toList.filter (· ≠ '-')
    if digits.length = 32 ∧ digits.all isAsciiHexdigit then
      some (digits.foldl (fun n c ↦ 16 * n + ("0123456789abcdef".toList.idxOf c)) 0)
    else none
  toRfc3339 time := if time = 1704164645 then "2024-01-02T03:04:05.000Z" else ""
  parseFromRfc3339 text := if text = "2024-01-02T03:04:05.000Z" then some 1704164645 else none
  toPublic key := key
  encodePublicKey _ key := .ok key
  isIri _ := true
  signWith document _ options key :=
    match document, options with
    | .object members, .object options =>
      .ok (.object (members ++ [("proof", .object (sampleProof options key))]))
    | _, _ => .error .invalidCredential
  fromValue document := ((document.get "proof").bind Value.asArray).map fun proofs ↦
    (document, proofs)
  verify signed resolver := signed.2.all fun proof ↦ resolver.any fun method ↦
    (proof.get "verificationMethod").bind Value.asString = some method.id
      && (proof.get "proofValue").bind Value.asString = some method.publicKey

theorem Libraries.lawful_sample : Libraries.sample.Lawful := by
  intro document issuerUrl methodUrl encoded createdAt key signed hnames hproof hencoded hsigned
  obtain rfl := Except.ok.inj hencoded
  obtain rfl := Except.ok.inj hsigned
  have hlookup : document.lookup "proof" = none := by
    rw [List.lookup_eq_none_iff]
    intro m hm
    exact bne_iff_ne.2 fun heq ↦ hproof (List.mem_map.2 ⟨m, hm, heq.symm⟩)
  refine ⟨_, _, rfl, List.Perm.refl _, ⟨rfl, rfl, rfl, rfl, ?_⟩, ?_⟩
  · simp [sampleProof, Value.containsKey, Value.membersContainKey]
  · intro resolver hmethod
    have hread (proof : Value) :
        (modifyMember "proof" (fun proof ↦ .array [proof]) (document ++ [("proof", proof)])).lookup
          "proof" = some (.array [proof]) := by
      rw [lookup_modifyMember_self, List.lookup_append, hlookup]
      rfl
    refine ⟨_, _, congrArg (Option.map _) (congrArg (Option.bind · Value.asArray) (hread _)), ?_⟩
    refine List.all_eq_true.2 fun proof hproof ↦ List.any_eq_true.2 ⟨_, hmethod, ?_⟩
    obtain rfl := List.mem_singleton.1 hproof
    simp [Value.get, sampleProof, List.lookup_cons, Value.asString, sample]

def BadgesConfig.sample : BadgesConfig String :=
  ⟨⟨"2024", "z6MkActive"⟩, [("2023", "z6MkRetained")]⟩

/-- An export of an award whose texts are not ASCII. -/
def CredentialInput.sample : CredentialInput ℕ ℤ where
  award := {
    awardedAt := 1704164645
    badgeStatusListId := 0x0190a1b2c3d47e5f8a9b0c1d2e3f4a5b
    groupId := 0x11111111222233334444555555555555
    snapshot := {
      criteria := "Teilnahme", description := "Für Köln", imageFileName := "a.png"
      issuerGroupName := "Gruppe Köln", name := "Abzeichen №1" }
    statusListIndex := 131071
    userBadgeId := 0xdeadbeef000040008000000000000001 }
  createdAt := 1704164645
  emailIdentity := some ⟨String.ofList (List.replicate 64 'a'), "0123456789abcdef"⟩

theorem credential_profile_sample :
    let manager := BadgesManager.new Libraries.sample "https://ocg.example.org/" .sample
    ∃ credential, manager.issueCredential Libraries.sample .sample = .ok credential
      ∧ ∃ verified, manager.verifyCredential Libraries.sample credential = .ok verified
        ∧ verified.statusListIndex = 131071 ∧ verified.name = "Abzeichen №1"
        ∧ HasProfile Libraries.sample manager credential verified := by
  intro manager
  obtain ⟨hissue, haccept⟩ := credential_profile Libraries.sample "https://ocg.example.org/"
    .sample manager rfl
  obtain ⟨credential, validFrom, hcredential, -, hverified⟩ := hissue .sample
    Libraries.lawful_sample ⟨by decide +kernel, by decide +kernel⟩
    (fun row _ ↦ ⟨row.2, rfl, rfl⟩) (fun method _ ↦ ⟨_, rfl⟩) (by decide) (by decide) (by decide)
    (by
      intro identity hidentity
      obtain rfl := Option.some.inj hidentity
      exact ⟨by decide +kernel, by decide⟩)
  exact ⟨credential, hcredential, _, hverified, rfl, rfl, haccept _ _ hverified⟩

end Ocg.Credentials
