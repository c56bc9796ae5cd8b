/-
  Tokens read back. A token falls into the parts that it was made of, so whatever key accepts it
  gives the claims it was signed for, and the key that signed it accepts it if it accepts its own
  signatures. Its text is signed for no other claims, by no key.
-/
import OpenIdProvider.Key.Authority
import OpenIdProvider.Proofs.Chain
import OpenIdProvider.Proofs.Codec.Base64
import OpenIdProvider.Proofs.Crypto.Rsa
import OpenIdProvider.Proofs.Text.Split
import OpenIdProvider.Proofs.Token.Parts

namespace OpenIdProvider

namespace Token

open Utf8 (encodeChars)

/-! ## The parts -/

theorem decodePart_encodeUrl (bytes : List UInt8) :
    decodePart (Base64.encodeUrl bytes) = .ok bytes := by
  unfold decodePart
  rw [Base64.decodeUrl_encodeUrl]

theorem dot_not_mem_encodeUrl (bytes : List UInt8) : '.' ∉ Base64.encodeUrl bytes := by
  intro h
  exact absurd (Base64.isUrlSymbol_of_mem bytes h) (by decide)

theorem split_parts (header claims : Json) (signature : List UInt8) :
    split (String.ofList (signedPart header claims ++ '.' :: Base64.encodeUrl signature)) =
      .ok (encodePart header, encodePart claims, Base64.encodeUrl signature,
        signedPart header claims) := by
  have hmessage : Split.splitLast '.' (signedPart header claims) =
      some (encodePart header, encodePart claims) :=
    Split.splitLast_append _ (dot_not_mem_encodeUrl _)
  unfold split
  rw [String.toList_ofList, Split.splitLast_append _ (dot_not_mem_encodeUrl _)]
  simp only [hmessage]

theorem sign_eq_ok_iff {key : Rsa.PrivateKey} {keyId : String} {claims : Json} {token : String} :
    sign key keyId claims = .ok token ↔
      ∃ signature, key.sign (encodeChars (signedPart (Header.own keyId) claims)) = .ok signature ∧
        token = String.ofList (signedPart (Header.own keyId) claims ++
          '.' :: Base64.encodeUrl signature) := by
  unfold sign
  generalize signedPart (Header.own keyId) claims = message
  cases hsign : key.sign (encodeChars message) with
  | error w =>
    simp only [hsign]
    exact ⟨nofun, fun ⟨_, h, _⟩ => nomatch h⟩
  | ok signature =>
    simp only [hsign, Except.ok.injEq, exists_eq_left', eq_comm]

/-- A signed token is never the empty text. -/
theorem ne_empty_of_sign {key : Rsa.PrivateKey} {keyId : String} {claims : Json} {token : String}
    (h : sign key keyId claims = .ok token) : token ≠ "" := by
  obtain ⟨signature, -, rfl⟩ := sign_eq_ok_iff.1 h
  intro hempty
  have hlist := congrArg String.toList hempty
  rw [String.toList_ofList] at hlist
  exact absurd hlist (by simp)

/-- A signed token is written with visible characters. -/
theorem visible_of_sign {key : Rsa.PrivateKey} {keyId : String} {claims : Json} {token : String}
    (h : sign key keyId claims = .ok token) {c : Char} (hc : c ∈ token.toList) :
    0x20 ≤ c.toNat ∧ c.toNat < 0x7F := by
  have hdot : 0x20 ≤ '.'.toNat ∧ '.'.toNat < 0x7F := by decide
  have hpart {bytes : List UInt8} (hc : c ∈ Base64.encodeUrl bytes) :
      0x20 ≤ c.toNat ∧ c.toNat < 0x7F :=
    Base64.visible_of_isUrlSymbol (Base64.isUrlSymbol_of_mem bytes hc)
  obtain ⟨signature, -, rfl⟩ := sign_eq_ok_iff.1 h
  unfold signedPart encodePart at hc
  rw [String.toList_ofList, List.mem_append, List.mem_append, List.mem_cons, List.mem_cons] at hc
  rcases hc with (hc | rfl | hc) | rfl | hc
  · exact hpart hc
  · exact hdot
  · exact hpart hc
  · exact hdot
  · exact hpart hc

/-- How a token with the header of a provider is checked. -/
theorem verify_parts (key : Rsa.PublicKey) (keyId : String) {claims : Members}
    (h : Claims.Legible claims) (signature : List UInt8) :
    verify key (String.ofList (signedPart (Header.own keyId) (.object claims) ++
        '.' :: Base64.encodeUrl signature)) =
      if key.verify (encodeChars (signedPart (Header.own keyId) (.object claims))) signature then
        .ok (.object claims)
      else .error .badSignature := by
  have hheader : decodePart (encodePart (Header.own keyId)) =
      .ok (encodeChars (Header.own keyId).chars) := decodePart_encodeUrl _
  have hclaims : decodePart (encodePart (.object claims)) =
      .ok (encodeChars (Json.object claims).chars) := decodePart_encodeUrl _
  have hbind {α β : Type} (x : α) (f : α → Except Error β) : (Except.ok x >>= f) = f x := rfl
  have hjson {α : Type} (x : α) : ofJson (.ok x) = .ok x := rfl
  unfold verify
  rw [split_parts]
  simp only [hbind, hheader, hclaims, decodePart_encodeUrl, Header.parse_own, Claims.parse_chars h,
    hjson]
  rfl

/-! ## The text -/

/-- A text of three parts with two dots between them: a header, claims and a signature, each in
Base64 for URLs without padding. -/
structure IsCompact (token : String) (header claims signature : List UInt8) : Prop where
  pieces : Split.splitOn '.' token.toList =
    [Base64.encodeUrl header, Base64.encodeUrl claims, Base64.encodeUrl signature]
  symbols : ∀ piece ∈ Split.splitOn '.' token.toList, ∀ c ∈ piece, Base64.isUrlSymbol c = true

/-- The parts of a text are known from it. -/
theorem IsCompact.unique {token : String} {header header' claims claims' signature signature' :
    List UInt8} (h : IsCompact token header claims signature)
    (h' : IsCompact token header' claims' signature') :
    header = header' ∧ claims = claims' ∧ signature = signature' := by
  have hpieces := h.pieces.symm.trans h'.pieces
  simp only [List.cons.injEq, and_true] at hpieces
  obtain ⟨hheader, hclaims, hsignature⟩ := hpieces
  exact ⟨Base64.encodeUrl_injective hheader, Base64.encodeUrl_injective hclaims,
    Base64.encodeUrl_injective hsignature⟩

/-- A signed token is the text of its header, its claims and a signature. -/
theorem exists_isCompact_of_sign {key : Rsa.PrivateKey} {keyId : String} {claims : Json}
    {token : String} (h : sign key keyId claims = .ok token) :
    ∃ signature, IsCompact token (encodeChars (Header.own keyId).chars) (encodeChars claims.chars)
      signature := by
  obtain ⟨signature, -, rfl⟩ := sign_eq_ok_iff.1 h
  have hpieces : Split.splitOn '.' (String.ofList (signedPart (Header.own keyId) claims ++
      '.' :: Base64.encodeUrl signature)).toList =
      [encodePart (Header.own keyId), encodePart claims, Base64.encodeUrl signature] := by
    unfold signedPart encodePart
    rw [String.toList_ofList, List.append_assoc, List.cons_append,
      Split.splitOn_append (dot_not_mem_encodeUrl _),
      Split.splitOn_append (dot_not_mem_encodeUrl _),
      Split.splitOn_of_not_mem (dot_not_mem_encodeUrl _)]
  refine ⟨signature, hpieces, fun piece hpiece c hc => ?_⟩
  rw [hpieces] at hpiece
  simp only [List.mem_cons, List.not_mem_nil, or_false] at hpiece
  rcases hpiece with rfl | rfl | rfl <;> exact Base64.isUrlSymbol_of_mem _ hc

/-- A text is signed for one collection of claims only, whatever the keys are. -/
theorem claims_unique_of_sign {key key' : Rsa.PrivateKey} {keyId keyId' : String}
    {claims claims' : Members} (hclaims : Claims.Legible claims)
    (hclaims' : Claims.Legible claims') {token : String}
    (h : sign key keyId (.object claims) = .ok token)
    (h' : sign key' keyId' (.object claims') = .ok token) : claims = claims' := by
  obtain ⟨signature, hcompact⟩ := exists_isCompact_of_sign h
  obtain ⟨signature', hcompact'⟩ := exists_isCompact_of_sign h'
  obtain ⟨-, htext, -⟩ := hcompact.unique hcompact'
  have hvalues := Json.eq_of_encodeChars_eq hclaims.readable hclaims'.readable htext
  injection hvalues

end Token

namespace KeyAuthority

/-- What an authority accepts of its own tokens is read as the claims that they were signed for. -/
def ReadsBack (keys : KeyAuthority) : Prop :=
  ∀ claims token v, Token.Claims.Legible claims → keys.sign (.object claims) = .ok token →
    keys.verify token = .ok v → v = .object claims

/-- The authority of any key reads back its own tokens. -/
theorem readsBack_ofRsa (key : Rsa.PrivateKey) : (ofRsa key).ReadsBack := by
  intro claims token v hlegible hsign hverify
  obtain ⟨signature, -, rfl⟩ := Token.sign_eq_ok_iff.1 hsign
  have hparts := Token.verify_parts key.publicKey key.publicKey.keyId hlegible signature
  rw [show (ofRsa key).verify = Token.verify key.publicKey from rfl, hparts] at hverify
  split at hverify
  · exact (Except.ok.inj hverify).symm
  · cases hverify

/-- The tokens of a key are written with visible characters. -/
theorem visible_ofRsa {key : Rsa.PrivateKey} {claims : Json} {token : String}
    (h : (ofRsa key).sign claims = .ok token) :
    ∀ c ∈ token.toList, 0x20 ≤ c.toNat ∧ c.toNat < 0x7F :=
  fun _ hc => Token.visible_of_sign h hc

/-- An authority that signs all claims that can be read back, and accepts what it signs. -/
def Faithful (keys : KeyAuthority) : Prop :=
  ∀ claims, Token.Claims.Legible claims → ∃ token, keys.sign (.object claims) = .ok token ∧
    token ≠ "" ∧ keys.verify token = .ok (.object claims)

/-- The authority of a key that can sign is faithful. -/
theorem faithful_ofRsa {key : Rsa.PrivateKey} (h : key.CanSign) : (ofRsa key).Faithful := by
  intro claims hlegible
  obtain ⟨signature, hsign, hverify⟩ := h
    (Utf8.encodeChars (Token.signedPart (Token.Header.own key.publicKey.keyId) (.object claims)))
  have htoken := Token.sign_eq_ok_iff.2 ⟨signature, hsign, rfl⟩
  refine ⟨_, htoken, Token.ne_empty_of_sign htoken, ?_⟩
  exact (Token.verify_parts _ _ hlegible signature).trans (if_pos hverify)

/-- An authority without a secret: a token is the text of its claims, and only such texts
verify. -/
def plain : KeyAuthority where
  sign claims := .ok claims.text
  verify token :=
    match Json.parse (Utf8.encode token) with
    | .ok claims => if claims.text = token then .ok claims else .error .malformed
    | .error e => .error (.json e)
  publicKeys := .null

theorem sign_of_verify_plain {token : String} {claims : Json}
    (h : plain.verify token = .ok claims) : plain.sign claims = .ok token := by
  unfold plain at h ⊢
  simp only at h ⊢
  split at h
  · split at h
    · rename_i htext
      cases h
      rw [htext]
    · cases h
  · cases h

theorem faithful_plain : plain.Faithful := by
  intro claims hlegible
  have hparse : Json.parse (Utf8.encode (Json.object claims).text) = .ok (.object claims) := by
    unfold Utf8.encode Json.text
    rw [String.toList_ofList]
    exact Json.parse_chars hlegible.readable
  refine ⟨(Json.object claims).text, rfl, fun hempty => ?_, ?_⟩
  · rw [hempty] at hparse
    cases hparse
  · unfold plain
    simp only [hparse, if_true]

/-- An authority that accepts what it signs, and signs nothing in two ways, reads back. -/
theorem Faithful.readsBack {keys : KeyAuthority} (h : keys.Faithful) : keys.ReadsBack := by
  intro claims token v hlegible hsign hverify
  obtain ⟨token', hsign', -, hverify'⟩ := h claims hlegible
  rw [hsign] at hsign'
  cases hsign'
  rw [hverify] at hverify'
  exact Except.ok.inj hverify'

end KeyAuthority

end OpenIdProvider
