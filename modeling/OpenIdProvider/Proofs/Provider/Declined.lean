/-
  What a declined exchange leaves behind. A token request that is answered with an error leaves
  every session as it was, with one exception: a code is spent before the tokens are signed, so
  when signing fails the client gets an error and its code is gone. A key that signs has no such
  exception.
-/
import OpenIdProvider.Proofs.Provider.Client

namespace OpenIdProvider.Provider

open Http

/-- A token request that is answered with an error. -/
def Declined (p : Provider) (r : Request) (s : ProviderState) : Prop :=
  Endpoint.ofPath? r.path = some .token ∧
    ∃ e, (p.respond r s).1 = some (finish (some .token) r.method (Reply.error e))

/-- A token request that redeems an open code for a session whose tokens cannot be signed. -/
def SpendsUnsigned (p : Provider) (r : Request) (s : ProviderState) (code : String)
    (e : Token.Error) : Prop :=
  reached? r s = some .token ∧ p.Presents r .authorizationCode code ∧
    ∃ session store, s.store.grant code = .ok (session, store) ∧
      p.issue session .authorizationCode "" s.clock.now = .error (.unsigned e)

theorem respond_of_spendsUnsigned {p : Provider} {r : Request} {s : ProviderState} {code : String}
    {e : Token.Error} (h : p.SpendsUnsigned r s code e) :
    ∃ session store, s.store.grant code = .ok (session, store) ∧
      p.respond r s = (some (Reply.error (.internal e.message)), { s with store := store }) := by
  obtain ⟨hreached, hcode, session, store, hgrant, hissue⟩ := h
  refine ⟨session, store, hgrant, ?_⟩
  rw [respond_of_redeemed hreached hcode hgrant, tokenAnswer, hissue]
  rfl

/-- Tokens that were made are not answered as an error. -/
theorem unsigned_of_tokenAnswer_error {p : Provider} {session : Session} {grant : GrantType}
    {shown : String} {now : Instant} {endpoint : Option Endpoint} {method : Method}
    {e : ProtocolError}
    (h : p.tokenAnswer session grant shown now = some (finish endpoint method (Reply.error e))) :
    ∃ e', p.issue session grant shown now = .error (.unsigned e') := by
  unfold tokenAnswer at h
  cases hissue : p.issue session grant shown now with
  | ok tokens =>
    rw [hissue] at h
    exact absurd (Option.some.inj h).symm (finish_ne_tokens (.inr (.inr ⟨e, rfl⟩)) _ _ _)
  | error mint =>
    cases mint with
    | outOfRange =>
      rw [hissue] at h
      cases h
    | unsigned e' => exact ⟨e', rfl⟩

/-- A declined request has spent a code in vain, or it has changed no session. -/
theorem spendsUnsigned_or_kept {p : Provider} {r : Request} {s : ProviderState}
    (h : p.Declined r s) :
    (∃ code e, p.SpendsUnsigned r s code e) ∨ (p.respond r s).2.store = s.store := by
  obtain ⟨hpath, e, he⟩ := h
  have hanswer := respond_token (p := p) s hpath
  generalize p.respond r s = answer at he hanswer ⊢
  cases hanswer with
  | redeemed reached presents grant =>
    obtain ⟨e', hissue⟩ := unsigned_of_tokenAnswer_error he
    exact .inl ⟨_, e', reached, presents, _, _, grant, hissue⟩
  | resumed reached presents admits => exact .inr rfl
  | refused response_eq => exact .inr rfl

theorem issue_ne_unsigned {p : Provider}
    (hkeys : ∀ claims, ∃ token, p.keys.sign claims = .ok token) (session : Session)
    (grant : GrantType) (shown : String) (now : Instant) (e : Token.Error) :
    p.issue session grant shown now ≠ .error (.unsigned e) := by
  have hmint (ttl : Duration) (claims : Instant → Members) :
      Session.mint p.keys ttl now claims ≠ .error (.unsigned e) := by
    unfold Session.mint
    split
    · nofun
    · rename_i finish _
      obtain ⟨token, htoken⟩ := hkeys (.object (claims finish))
      rw [htoken]
      nofun
  refine bind_ne_error (hmint _ _) fun accessToken => bind_ne_error ?_ fun idToken =>
    bind_ne_error ?_ nofun
  · unfold nextIdToken
    split
    · exact map_ne_error (hmint _ _)
    · nofun
  · cases grant with
    | authorizationCode => exact hmint _ _
    | refreshToken => nofun

/-! ## A key that cannot sign -/

/-- A key that fails its check of strength signs nothing. -/
theorem issue_of_weak {p : Provider} {key : Rsa.PrivateKey} {w : Rsa.Weakness}
    (hkeys : p.keys = .ofRsa key) (hkey : key.checkStrength = .error w) {now finish : Instant}
    (hfinish : Instant.plus? now p.settings.accessTtl = some finish) (session : Session)
    (grant : GrantType) (shown : String) :
    p.issue session grant shown now = .error (.unsigned (.weakKey w)) := by
  have hsign (claims : Json) : p.keys.sign claims = .error (.weakKey w) := by
    rw [hkeys]
    show Token.sign key key.publicKey.keyId claims = _
    simp only [Token.sign, Rsa.PrivateKey.sign, hkey, Except.map]
  have haccess : session.accessToken p.settings p.keys now = .error (.unsigned (.weakKey w)) := by
    simp only [Session.accessToken, Session.mint, hfinish, hsign]
    rfl
  rw [issue, haccess]
  rfl

/-- A consistent key, far too small to sign with. -/
def weakKey : Rsa.PrivateKey := ⟨⟨3233, 17⟩, 2753, 61, 53⟩

/-- The sample provider with that key. -/
def weakSample : Provider := { sample with keys := .ofRsa weakKey }

/-! ## What is left -/

/-- What declined exchanges leave in a state: the sessions as they were, unless a code is spent
that no tokens can be signed for; and then that code is spent and nothing else has changed. -/
structure DeclinedKeeps (p : Provider) (s : ProviderState) : Prop where
  kept_iff : ∀ r, p.Declined r s →
    ((p.respond r s).2.store = s.store ↔ ∀ code e, ¬ p.SpendsUnsigned r s code e)
  stillOpen : ∀ r code, p.Declined r s → (∀ e, ¬ p.SpendsUnsigned r s code e) →
    s.store.Open code → (p.respond r s).2.store.Open code
  spent : ∀ r code e, p.SpendsUnsigned r s code e →
    (p.respond r s).1 = some (Reply.error (.internal e.message)) ∧
      ∃ stored, s.store.get? code = some stored ∧ stored.granted = false ∧
        (p.respond r s).2 = { s with store := s.store.put { stored with granted := true } }
  keptWhileSigning : (∀ claims, ∃ token, p.keys.sign claims = .ok token) →
    ∀ r, p.Declined r s → (p.respond r s).2.store = s.store

/-- A declined exchange leaves the sessions as they were, unless signing fails. -/
theorem declinedKeeps (p : Provider) (s : ProviderState) : DeclinedKeeps p s := by
  have hspent {r : Request} {code : String} {e : Token.Error}
      (h : p.SpendsUnsigned r s code e) (other : String) :
      (p.respond r s).2.store.Open other ↔ code ≠ other ∧ s.store.Open other := by
    obtain ⟨session, store, hgrant, heq⟩ := respond_of_spendsUnsigned h
    rw [heq]
    exact SessionStore.open_grant_iff hgrant other
  refine ⟨fun r h => ⟨?_, ?_⟩, fun r code h hcode hopen => ?_, fun r code e h => ?_,
    fun hkeys r h => ?_⟩
  · intro hstore code e hunsigned
    obtain ⟨session, store, hgrant, -⟩ := respond_of_spendsUnsigned hunsigned
    have hopen := SessionStore.open_of_grant hgrant
    rw [← hstore] at hopen
    exact ((hspent hunsigned code).1 hopen).1 rfl
  · intro hnone
    exact (spendsUnsigned_or_kept h).resolve_left fun ⟨code, e, hunsigned⟩ =>
      hnone code e hunsigned
  · rcases spendsUnsigned_or_kept h with ⟨other, e, hunsigned⟩ | hstore
    · refine (hspent hunsigned code).2 ⟨?_, hopen⟩
      rintro rfl
      exact hcode e hunsigned
    · rw [hstore]
      exact hopen
  · obtain ⟨session, store, hgrant, heq⟩ := respond_of_spendsUnsigned h
    obtain ⟨stored, hstored, hgranted, rfl, rfl⟩ := SessionStore.grant_eq_ok_iff.1 hgrant
    rw [heq]
    exact ⟨rfl, stored, hstored, hgranted, rfl⟩
  · refine (spendsUnsigned_or_kept h).resolve_left ?_
    rintro ⟨code, e, -, -, session, store, -, hissue⟩
    exact issue_ne_unsigned hkeys _ _ _ _ e hissue

/-- The small key is read from its own text, yet an exchange that is declined because it cannot sign
spends the code: another exchange of it would have been granted before, and is not afterwards. -/
theorem declined_spends_code :
    (weakKey.pem?.map fun text => (Rsa.PrivateKey.ofPem text).toOption) = some (some weakKey) ∧
      (weakSample.run (.initial .jane 0) [.queueCode "c", .request weakSample.loginRequest]).2 =
        sampleState false 0 ∧
      weakSample.Declined (weakSample.grantRequest .authorizationCode "c") (sampleState false 0) ∧
      ((sampleState false 0).store.grant "c").toOption.isSome = true ∧
      ((weakSample.respond (weakSample.grantRequest .authorizationCode "c")
        (sampleState false 0)).2.store.grant "c").toOption = none := by
  have hclient : weakSample.HasClient := ⟨by decide, by decide⟩
  have hreached := reached?_grantRequest weakSample .authorizationCode "c"
    (s := sampleState false 0) rfl
  have hgrant : (sampleState false 0).store.grant "c" =
      .ok (sampleSession true, (sampleState true 0).store) := rfl
  have hweak : weakKey.checkStrength = .error .tooSmall := by
    unfold Rsa.PrivateKey.checkStrength
    rw [if_pos (.inl (by decide +kernel))]
  have hfinish : Instant.plus? (sampleState false 0).clock.now weakSample.settings.accessTtl =
      some 60 := by
    decide +kernel
  have hissue := issue_of_weak (p := weakSample) rfl hweak hfinish (sampleSession true)
    .authorizationCode ""
  obtain ⟨session', store', hgrant', hrespond⟩ := respond_of_spendsUnsigned
    ⟨hreached, presents_sample hclient, sampleSession true, _, hgrant, hissue⟩
  have hread : weakKey.pem?.map (fun text => (Rsa.PrivateKey.ofPem text).toOption) =
      some (some weakKey) := by decide +kernel
  refine ⟨hread, run_login hclient 0,
    ⟨rfl, .internal (Token.Error.weakKey .tooSmall).message, ?_⟩, ?_, ?_⟩
  · rw [hrespond]
    exact congrArg some (finish_of_reached hreached _).symm
  · rw [hgrant]
    rfl
  · rw [hrespond, SessionStore.grant_of_granted (SessionStore.grant_get? hgrant' "c")
      (SessionStore.granted_of_grant hgrant')]
    rfl

end OpenIdProvider.Provider
