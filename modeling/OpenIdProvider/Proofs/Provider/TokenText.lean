/-
  The texts of tokens. A session may have any texts in it, quotes, controls and characters beyond
  ASCII among them: the token that is minted for it consists of three parts in Base64 for URLs,
  verifies with exactly the claims that were signed, and is minted for no session of another
  identifier.
-/
import OpenIdProvider.Proofs.Provider.Signing

namespace OpenIdProvider

open Utf8 (encodeChars)

namespace TokenKind

/-- One text is minted for one identifier, whatever the keys and the kinds of the tokens are. -/
theorem id_unique_of_mint {key key' : Rsa.PrivateKey} {kind kind' : TokenKind}
    {session session' : Session} {settings settings' : Settings} {now now' : Instant}
    {token : String}
    (h : kind.mint session settings (.ofRsa key) now = .ok token)
    (h' : kind'.mint session' settings' (.ofRsa key') now' = .ok token) :
    session.id = session'.id := by
  obtain ⟨finish, -, hcarries⟩ := carries_of_mint (KeyAuthority.readsBack_ofRsa key) h
  obtain ⟨finish', -, hcarries'⟩ := carries_of_mint (KeyAuthority.readsBack_ofRsa key') h'
  have hclaims := Token.claims_unique_of_sign (kind.legible_claims session settings now finish)
    (kind'.legible_claims session' settings' now' finish') hcarries.signed hcarries'.signed
  have hid := (kind.claimed session settings now finish).jti
  rw [hclaims, (kind'.claimed session' settings' now' finish').jti] at hid
  exact (Json.string.inj (Option.some.inj hid)).symm

/-- What a token is that was minted for a session and ends at an instant. It verifies with the
claims that it was minted for, its text is that of its header, its claims and a signature, and no
session of another identifier gets it, whatever its kind, the settings, the key and the instant
are. -/
structure RoundTrips (key : Rsa.PrivateKey) (kind : TokenKind) (session : Session)
    (settings : Settings) (now finish : Instant) (token : String) : Prop where
  verified : (KeyAuthority.ofRsa key).verify token =
    .ok (.object (kind.claims session settings now finish))
  compact : ∃ signature, Token.IsCompact token
    (encodeChars (Token.Header.own key.publicKey.keyId).chars)
    (encodeChars (Json.object (kind.claims session settings now finish)).chars) signature
  own : ∀ (key' : Rsa.PrivateKey) (kind' : TokenKind) (session' : Session) (settings' : Settings)
    (now' : Instant), session'.id ≠ session.id →
    kind'.mint session' settings' (.ofRsa key') now' ≠ .ok token

/-- A key that can sign mints a token for every session if the token ends at an instant that can be
represented, and every token that it mints is read back. -/
theorem mint_roundTrips {key : Rsa.PrivateKey} (hkey : key.CanSign) (kind : TokenKind)
    (session : Session) (settings : Settings) (now : Instant) :
    ((∃ token, kind.mint session settings (.ofRsa key) now = .ok token) ↔
      (now.plus? (kind.ttl settings)).isSome = true) ∧
    ∀ token, kind.mint session settings (.ofRsa key) now = .ok token →
      ∃ finish, now.plus? (kind.ttl settings) = some finish ∧
        kind.RoundTrips key session settings now finish token := by
  have hfaithful := KeyAuthority.faithful_ofRsa hkey
  refine ⟨⟨?_, ?_⟩, ?_⟩
  · rintro ⟨token, hmint⟩
    obtain ⟨finish, hfinish, -⟩ := Session.mint_eq_ok_iff.1 hmint
    exact Option.isSome_of_eq_some hfinish
  · intro hfinish
    obtain ⟨finish, hfinish⟩ := Option.isSome_iff_exists.1 hfinish
    exact kind.exists_mint hfaithful session hfinish
  · intro token hmint
    obtain ⟨finish, hfinish, hcarries⟩ := carries_of_mint hfaithful.readsBack hmint
    obtain ⟨-, claims, hverify, -⟩ := verify_of_mint hfaithful hmint
    refine ⟨finish, hfinish, ?_, Token.exists_isCompact_of_sign hcarries.signed, ?_⟩
    · rw [hverify, hcarries.read _ hverify]
    · intro key' kind' session' settings' now' hid hmint'
      exact hid (id_unique_of_mint hmint' hmint)

/-- A session of texts that are escaped in JSON or take several bytes. -/
def escapedSession : Session where
  id := "\"\\\n\x7f"
  scopes := ["openid", "profile", "groups", "\t"]
  nonce := some "\u00e9\u4e2d"
  user := { User.jane with subject := "", address := "\u00fc\u0000", groups := ["\"", "\\"] }
  granted := true

/-- The ID token of that session is read back. -/
theorem mint_roundTrips_escaped :
    Rsa.sampleKey.CanSign ∧ ∃ token finish,
      identity.mint escapedSession Provider.sample.settings (.ofRsa Rsa.sampleKey) 0 =
        .ok token ∧
      identity.RoundTrips Rsa.sampleKey escapedSession Provider.sample.settings 0 finish
        token := by
  obtain ⟨hexists, hread⟩ :=
    mint_roundTrips Rsa.canSign_sampleKey identity escapedSession Provider.sample.settings 0
  obtain ⟨token, hmint⟩ := hexists.2 (by decide)
  obtain ⟨finish, -, hroundTrips⟩ := hread token hmint
  exact ⟨Rsa.canSign_sampleKey, token, finish, hmint, hroundTrips⟩

end TokenKind

end OpenIdProvider
