/-
  Keys, metadata and tokens as a client reads them. A client has a reader of JSON, one of Base64
  for URLs and a check of signatures, and nothing of the provider but its texts: `PublishedKey` is
  what it takes from the list of keys, and `SignedToken` is a token taken apart. What is written
  there is read back, so the description of a key fits the tokens that the key signs.
-/
import OpenIdProvider.Metadata
import OpenIdProvider.Proofs.Number.BigEndian
import OpenIdProvider.Proofs.Token.Compact

namespace OpenIdProvider

open Utf8 (encodeChars)

/-! ## Members of a document -/

namespace Json

/-- The value of a member of the object that a document is. -/
def member? (name : String) (document : List UInt8) : Option Json :=
  match parse document with
  | .ok (.object ms) => Members.get? name ms
  | _ => none

/-- The text of such a member. -/
def textMember? (name : String) (document : List UInt8) : Option String :=
  (member? name document).bind asString?

theorem member?_of_parse {document : List UInt8} {ms : Members}
    (h : parse document = .ok (.object ms)) (name : String) :
    member? name document = ms.get? name := by
  unfold member?
  rw [h]

/-- Members are found in any order that they are written in, and of one name the last. -/
theorem member?_chars {ms : List (String × Json)} (h : Fits Reader.depthLimit (.object ms))
    (name : String) :
    member? name (encodeChars (Json.object ms).chars) =
      Members.get? name (arrangedMembers ms).reverse :=
  (member?_of_parse (parse_arranged h) name).trans (Members.get?_ofList _ name)

theorem textMember?_of_readable {ms : Members} (h : Readable Reader.depthLimit (.object ms))
    {name s : String} (hget : ms.get? name = some (.string s)) :
    textMember? name (encodeChars (Json.object ms).chars) = some s := by
  unfold textMember?
  rw [member?_of_parse (parse_chars h), hget]
  rfl

theorem fits_object_iff {levels : Nat} {ms : List (String × Json)} :
    Fits (levels + 1) (.object ms) ↔ ∀ m ∈ ms, Fits levels m.2 := Iff.rfl

theorem fits_ofStrings (levels : Nat) (ss : List String) : Fits (levels + 1) (ofStrings ss) := by
  intro x hx
  obtain ⟨s, -, rfl⟩ := List.mem_map.1 hx
  exact fits_string levels s

end Json

open Json

/-! ## The list of keys -/

/-- The number of a text: its bytes in Base64 for URLs without padding, the most significant
first. -/
def numberOfText? (text : String) : Option Nat :=
  match Base64.decodeUrl (Utf8.encode text) with
  | .ok bytes => some (BigEndian.value bytes)
  | .error _ => none

/-- A key as its description has it. -/
structure PublishedKey where
  keyId : String
  algorithm : String
  key : Rsa.PublicKey

namespace PublishedKey

/-- The key of a description. -/
def ofMembers? (jwk : Members) : Option PublishedKey := do
  let text (name : String) : Option String := (jwk.get? name).bind asString?
  let keyId ← text "kid"
  let algorithm ← text "alg"
  let modulus ← (text "n").bind numberOfText?
  let exponent ← (text "e").bind numberOfText?
  if text "kty" = some "RSA" then some ⟨keyId, algorithm, ⟨modulus, exponent⟩⟩ else none

/-- The key of a list of keys that has only one. -/
def ofDocument? (document : List UInt8) : Option PublishedKey :=
  match member? "keys" document with
  | some (.array [.object jwk]) => ofMembers? jwk
  | _ => none

/-- What is to be published of a key. -/
def ofKey (key : Rsa.PublicKey) : PublishedKey := ⟨key.keyId, "RS256", key⟩

theorem numberOfText?_bytes (n : Nat) :
    numberOfText? (String.ofList (Base64.encodeUrl (BigEndian.bytes n))) = some n := by
  unfold numberOfText? Utf8.encode
  rw [String.toList_ofList, Base64.decodeUrl_encodeUrl]
  exact congrArg some (BigEndian.value_bytes n)

theorem fits_jwk (levels : Nat) (key : Rsa.PublicKey) : Fits (levels + 1) key.jwk := by
  refine fits_object_iff.2 ?_
  simp only [List.forall_mem_cons]
  exact ⟨fits_string _ _, fits_string _ _, fits_string _ _, fits_string _ _, fits_string _ _,
    fits_string _ _, List.forall_mem_nil _⟩

/-- The description of a key is read as the key. -/
theorem ofMembers?_jwk (key : Rsa.PublicKey) {jwk : List (String × Json)}
    (h : key.jwk = .object jwk) : ofMembers? (Members.ofList jwk) = some (ofKey key) := by
  cases h
  unfold ofMembers?
  simp only [Members.get?_ofList]
  show (some key.keyId).bind (fun keyId => (some "RS256").bind fun algorithm =>
    (numberOfText? _).bind fun modulus => (numberOfText? _).bind fun exponent =>
      if some "RSA" = some "RSA" then some (⟨keyId, algorithm, ⟨modulus, exponent⟩⟩ : PublishedKey)
      else none) = _
  rw [numberOfText?_bytes, numberOfText?_bytes]
  rfl

theorem ofDocument?_publicKeys (key : Rsa.PrivateKey) :
    ofDocument? (encodeChars (KeyAuthority.ofRsa key).publicKeys.chars) =
      some (ofKey key.publicKey) := by
  have hfits : Fits Reader.depthLimit (KeyAuthority.ofRsa key).publicKeys := by
    refine fits_object_iff.2 (List.forall_mem_singleton.2 ?_)
    intro x hx
    obtain rfl := List.mem_singleton.1 hx
    exact fits_jwk _ key.publicKey
  have hkeys : member? "keys" (encodeChars (KeyAuthority.ofRsa key).publicKeys.chars) =
      some (.array [arranged key.publicKey.jwk]) := member?_chars hfits "keys"
  unfold ofDocument?
  rw [hkeys]
  exact ofMembers?_jwk key.publicKey rfl

end PublishedKey

/-! ## The metadata -/

theorem Metadata.fits_toJson (m : Metadata) : Fits Reader.depthLimit m.toJson := by
  refine fits_object_iff.2 ?_
  simp only [List.forall_mem_cons]
  exact ⟨fits_string _ _, fits_string _ _, fits_string _ _, fits_string _ _, fits_string _ _,
    fits_ofStrings _ _, fits_ofStrings _ _, fits_ofStrings _ _, fits_ofStrings _ _,
    fits_ofStrings _ _, fits_ofStrings _ _, fits_ofStrings _ _, List.forall_mem_nil _⟩

theorem Metadata.textMember?_issuer (m : Metadata) :
    textMember? "issuer" (encodeChars m.toJson.chars) = some m.issuer := by
  have hissuer : member? "issuer" (encodeChars m.toJson.chars) = some (.string m.issuer) :=
    member?_chars m.fits_toJson "issuer"
  unfold textMember?
  rw [hissuer]
  rfl

/-! ## Tokens -/

/-- A token taken apart: the documents that its header and its claims are, what is signed of it and
the signature. -/
structure SignedToken where
  header : List UInt8
  claims : List UInt8
  message : List UInt8
  signature : List UInt8

namespace SignedToken

open Token

def ofText? (token : String) : Option SignedToken :=
  match split token with
  | .error _ => none
  | .ok (header, claims, signature, message) =>
    match decodePart header, decodePart claims, decodePart signature with
    | .ok header, .ok claims, .ok signature =>
      some ⟨header, claims, encodeChars message, signature⟩
    | _, _, _ => none

theorem ofText?_parts (header claims : Json) (signature : List UInt8) :
    ofText? (String.ofList (signedPart header claims ++ '.' :: Base64.encodeUrl signature)) =
      some ⟨encodeChars header.chars, encodeChars claims.chars,
        encodeChars (signedPart header claims), signature⟩ := by
  have hpart (v : Json) : decodePart (encodePart v) = .ok (encodeChars v.chars) :=
    decodePart_encodeUrl _
  unfold ofText?
  rw [split_parts]
  simp only [hpart, decodePart_encodeUrl]

end SignedToken

namespace PublishedKey

/-- The signature of a token is of the algorithm of this provider and made with a published key. -/
structure Signed (k : PublishedKey) (t : SignedToken) : Prop where
  algorithm : Token.Header.parse t.header = .ok "RS256"
  signature : k.key.verify t.message t.signature = true

/-- A token that is all that a client expects of it: its header names the algorithm and the
published key, which has made its signature, and its claims name the published issuer and the
client. -/
structure Matches (k : PublishedKey) (issuer audience : String) (t : SignedToken) : Prop where
  algorithm : textMember? "alg" t.header = some "RS256"
  keyId : textMember? "kid" t.header = some k.keyId
  signature : k.key.verify t.message t.signature = true
  issuer : textMember? "iss" t.claims = some issuer
  audience : textMember? "aud" t.claims = some audience

/-- The text of such a token. -/
def Describes (k : PublishedKey) (issuer audience token : String) : Prop :=
  ∃ t, SignedToken.ofText? token = some t ∧ k.Matches issuer audience t

theorem textMember?_own {keyId name s : String} (h : Members.get? name
      [("kid", Json.string keyId), ("alg", .string "RS256"), ("typ", .string "JWT")] =
        some (.string s)) :
    textMember? name (encodeChars (Token.Header.own keyId).chars) = some s := by
  have hfits : Fits Reader.depthLimit (Token.Header.own keyId) := by
    refine fits_object_iff.2 ?_
    simp only [List.forall_mem_cons]
    exact ⟨fits_string _ _, fits_string _ _, fits_string _ _, List.forall_mem_nil _⟩
  have hmember : member? name (encodeChars (Token.Header.own keyId).chars) = some (.string s) :=
    (member?_chars hfits name).trans h
  unfold textMember?
  rw [hmember]
  rfl

/-- What is signed with the header of a provider is taken apart into that header and its claims. -/
theorem ofText?_of_sign {key : Rsa.PrivateKey} {keyId token : String} {claims : Json}
    (h : Token.sign key keyId claims = .ok token) :
    ∃ t, SignedToken.ofText? token = some t ∧ textMember? "alg" t.header = some "RS256" ∧
      textMember? "kid" t.header = some keyId ∧ t.claims = encodeChars claims.chars ∧
      key.sign t.message = .ok t.signature := by
  obtain ⟨signature, hsignature, rfl⟩ := Token.sign_eq_ok_iff.1 h
  exact ⟨_, SignedToken.ofText?_parts _ _ _, textMember?_own rfl, textMember?_own rfl, rfl,
    hsignature⟩

/-- What a key signs for claims that name an issuer and a client is described by the key. -/
theorem describes_of_sign {key : Rsa.PrivateKey} (hkey : key.CanSign) {claims : Members}
    (hlegible : Token.Claims.Legible claims) {token issuer audience : String}
    (hsign : (KeyAuthority.ofRsa key).sign (.object claims) = .ok token)
    (hissuer : claims.get? "iss" = some (.string issuer))
    (haudience : claims.get? "aud" = some (.string audience)) :
    (ofKey key.publicKey).Describes issuer audience token := by
  obtain ⟨t, hparts, halgorithm, hkeyId, hclaims, hsigned⟩ := ofText?_of_sign hsign
  obtain ⟨signature, hsigned', hverify⟩ := hkey t.message
  rw [hsigned] at hsigned'
  cases hsigned'
  refine ⟨t, hparts, halgorithm, hkeyId, hverify, ?_, ?_⟩
  · rw [hclaims]
    exact textMember?_of_readable hlegible.readable hissuer
  · rw [hclaims]
    exact textMember?_of_readable hlegible.readable haudience

theorem eq_ok_of_ofJson {α : Type} {x : Except Json.Error α} {a : α}
    (h : Token.ofJson x = .ok a) : x = .ok a := by
  cases x with
  | error e => cases h
  | ok a' =>
    cases h
    rfl

/-- What a key accepts is signed with it. -/
theorem signed_of_verify {key : Rsa.PrivateKey} {token : String} {v : Json}
    (h : (KeyAuthority.ofRsa key).verify token = .ok v) :
    ∃ t, SignedToken.ofText? token = some t ∧ (ofKey key.publicKey).Signed t := by
  obtain ⟨⟨header, claims, signature, message⟩, hsplit, h⟩ := bind_eq_ok.1 h
  obtain ⟨headerBytes, hheader, h⟩ := bind_eq_ok.1 h
  obtain ⟨algorithm, halgorithm, h⟩ := bind_eq_ok.1 h
  split at h
  · cases h
  rename_i hown
  obtain rfl : algorithm = "RS256" := Decidable.not_not.1 hown
  obtain ⟨signatureBytes, hsignature, h⟩ := bind_eq_ok.1 h
  split at h
  · rename_i hverify
    obtain ⟨claimsBytes, hclaims, h⟩ := bind_eq_ok.1 h
    refine ⟨⟨headerBytes, claimsBytes, encodeChars message, signatureBytes⟩, ?_,
      eq_ok_of_ofJson halgorithm, hverify⟩
    unfold SignedToken.ofText?
    simp only [hsplit, hheader, hclaims, hsignature]
  · cases h

end PublishedKey

end OpenIdProvider
