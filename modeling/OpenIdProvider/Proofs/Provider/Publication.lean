/-
  The published documents describe the tokens. The key and the issuer that a client fetches are the
  same in every state, and every token that is made for a session is what they let the client
  expect. A refresh grant gives back the text that it was shown, and it is granted for any text of
  the key that names a stored session and has not ended, whatever issuer and client the text names.
-/
import OpenIdProvider.Proofs.Key.Published
import OpenIdProvider.Proofs.Provider.Agreement

namespace OpenIdProvider

open Http

/-- Every token that is made is described by its key, its issuer and its client. -/
theorem TokenKind.describes_of_mint {key : Rsa.PrivateKey} (hkey : key.CanSign) {kind : TokenKind}
    {session : Session} {settings : Settings} {now : Instant} {token : String}
    (hmint : kind.mint session settings (.ofRsa key) now = .ok token) :
    (PublishedKey.ofKey key.publicKey).Describes settings.issuer settings.clientId token := by
  obtain ⟨finish, hfinish, hsign⟩ := Session.mint_eq_ok_iff.1 hmint
  have hlegible := kind.legible_claims session settings now finish
  have hclaimed := kind.claimed session settings now finish
  exact PublishedKey.describes_of_sign hkey hlegible hsign hclaimed.iss hclaimed.aud

namespace Provider

/-! ## The documents -/

/-- What a client fetches is the same in every state: a list of keys with one key in it, and
metadata that name an issuer. -/
structure Publishes (p : Provider) (k : PublishedKey) (issuer : String) : Prop where
  keys : ∀ r s, r.method = .get → reached? r s = some .keys → ∃ response,
    (p.respond r s).1 = some response ∧ response.status = 200 ∧
      PublishedKey.ofDocument? response.body = some k
  discovery : ∀ r s, r.method = .get → reached? r s = some .discovery → ∃ response,
    (p.respond r s).1 = some response ∧ response.status = 200 ∧
      Json.textMember? "issuer" response.body = some issuer

theorem publishes_ofRsa {p : Provider} {key : Rsa.PrivateKey} (hkeys : p.keys = .ofRsa key) :
    p.Publishes (.ofKey key.publicKey) p.settings.issuer := by
  refine ⟨fun r s hmethod hreached => ?_, fun r s hmethod hreached => ?_⟩
  · refine ⟨finish (some .keys) .get (Reply.json p.keys.publicKeys), ?_, rfl, ?_⟩
    · rw [respond_of_reached hreached, hmethod]
      rfl
    · rw [hkeys]
      exact PublishedKey.ofDocument?_publicKeys key
  · refine ⟨finish (some .discovery) .get (Reply.json (Metadata.ofSettings p.settings).toJson),
      ?_, rfl, (Metadata.ofSettings p.settings).textMember?_issuer⟩
    rw [respond_of_reached hreached, hmethod]
    rfl

/-! ## The tokens of an answer -/

/-- A text that the provider makes as a token of some session at some time. -/
def Makes (p : Provider) (token : String) : Prop :=
  ∃ (kind : TokenKind) (session : Session) (now : Instant),
    kind.mint session p.settings p.keys now = .ok token

theorem makes_of_signs {p : Provider} {m : Moment} {session : Session} {kind : TokenKind}
    {token : String} (h : m.Signs p session kind token) : p.Makes token :=
  ⟨kind, session, m.reading, h.mint⟩

theorem describes_of_makes {p : Provider} {key : Rsa.PrivateKey} (hkeys : p.keys = .ofRsa key)
    (hkey : key.CanSign) {token : String} (h : p.Makes token) :
    (PublishedKey.ofKey key.publicKey).Describes p.settings.issuer p.settings.clientId token := by
  obtain ⟨kind, session, now, hmint⟩ := h
  rw [hkeys] at hmint
  exact kind.describes_of_mint hkey hmint

/-- The tokens that a request is answered with are described by a key and an issuer. The refresh
token of a refresh grant is the one that was shown: its algorithm and its signature are those of
the key, it names the key if it was signed by the authority, and it is all that the client expects
if it was made as a token. -/
structure TokensDescribed (p : Provider) (k : PublishedKey) (issuer : String) (r : Request)
    (tokens : TokenResponse) : Prop where
  presents : ∃ grant shown, p.Presents r grant shown
  access : k.Describes issuer p.settings.clientId tokens.accessToken
  identity : ∀ token ∈ tokens.idToken, k.Describes issuer p.settings.clientId token
  redeemed : ∀ code, p.Presents r .authorizationCode code →
    k.Describes issuer p.settings.clientId tokens.refreshToken
  resumed : ∀ shown, p.Presents r .refreshToken shown → tokens.refreshToken = shown ∧
    ∃ t, SignedToken.ofText? shown = some t ∧ k.Signed t ∧
      (∀ claims, p.keys.sign claims = .ok shown →
        Json.textMember? "kid" t.header = some k.keyId) ∧
      (p.Makes shown → k.Matches issuer p.settings.clientId t)

/-- What is known of a shown text that got more tokens. -/
theorem described_of_resumed {p : Provider} {key : Rsa.PrivateKey} (hkeys : p.keys = .ofRsa key)
    (hkey : key.CanSign) {m : Moment} {shown : String} {session : Session}
    (h : m.Grants p .refreshToken shown session) :
    ∃ t, SignedToken.ofText? shown = some t ∧ (PublishedKey.ofKey key.publicKey).Signed t ∧
      (∀ claims, p.keys.sign claims = .ok shown →
        Json.textMember? "kid" t.header = some key.publicKey.keyId) ∧
      (p.Makes shown → (PublishedKey.ofKey key.publicKey).Matches p.settings.issuer
        p.settings.clientId t) := by
  obtain ⟨-, claims, hverify, -⟩ := h.shows
  rw [hkeys] at hverify
  obtain ⟨t, hparts, hsigned⟩ := PublishedKey.signed_of_verify hverify
  refine ⟨t, hparts, hsigned, fun claims' hsign => ?_, fun hmakes => ?_⟩
  · rw [hkeys] at hsign
    obtain ⟨t', hparts', -, hkeyId, -⟩ := PublishedKey.ofText?_of_sign hsign
    rw [hparts] at hparts'
    cases hparts'
    exact hkeyId
  · obtain ⟨t', hparts', hmatches⟩ := describes_of_makes hkeys hkey hmakes
    rw [hparts] at hparts'
    cases hparts'
    exact hmatches

/-- What a client fetches describes the tokens of every run. -/
theorem tokensDescribed_of_answers {p : Provider} {key : Rsa.PrivateKey}
    (hkeys : p.keys = .ofRsa key) (hkey : key.CanSign) :
    p.Publishes (.ofKey key.publicKey) p.settings.issuer ∧
      ∀ s steps, ∀ m ∈ p.history s steps, ∀ r tokens, m.Answers r tokens →
        p.TokensDescribed (.ofKey key.publicKey) p.settings.issuer r tokens := by
  have hdescribes {token : String} (h : p.Makes token) := describes_of_makes hkeys hkey h
  refine ⟨publishes_ofRsa hkeys, fun s steps m hm r tokens hanswers => ?_⟩
  rw [eq_moment_of_mem hm] at hanswers
  obtain ⟨grant, shown, session, -, hgrants, hpresents, -⟩ := grants_of_answers hanswers
  have htokens := tokensOf_of_answers hgrants hanswers
  refine ⟨⟨grant, shown, hpresents⟩, hdescribes (makes_of_signs htokens.access),
    fun token htoken => hdescribes (makes_of_signs (htokens.identity token htoken)), ?_, ?_⟩
  · intro code hcode
    obtain ⟨rfl, rfl⟩ := hpresents.unique hcode
    exact hdescribes (makes_of_signs (htokens.redeemed rfl))
  · intro token htoken
    obtain ⟨rfl, rfl⟩ := hpresents.unique htoken
    exact ⟨htokens.resumed rfl, described_of_resumed hkeys hkey hgrants⟩

/-! ## The sample provider -/

/-- A client fetches what an endpoint has for everyone. -/
def documentRequest (e : Endpoint) : Request := ⟨.get, e.path, none, [], []⟩

/-- The documents of the sample provider describe the tokens that its code gets, and those that
the refresh token among them gets. -/
theorem tokensDescribed_sample :
    signingSample.keys = .ofRsa Rsa.sampleKey ∧ Rsa.sampleKey.CanSign ∧
      (∃ response, (signingSample.respond (documentRequest .keys) (sampleState true 0)).1 =
        some response ∧ PublishedKey.ofDocument? response.body =
          some (.ofKey Rsa.sampleKey.publicKey)) ∧
      (∃ response, (signingSample.respond (documentRequest .discovery) (sampleState true 0)).1 =
        some response ∧ Json.textMember? "issuer" response.body =
          some signingSample.settings.issuer) ∧
      ∃ first second : TokenResponse,
        (signingSample.moment (sampleState false 0)
          (.request (signingSample.grantRequest .authorizationCode "c"))).Answers
            (signingSample.grantRequest .authorizationCode "c") first ∧
        signingSample.TokensDescribed (.ofKey Rsa.sampleKey.publicKey)
          signingSample.settings.issuer (signingSample.grantRequest .authorizationCode "c")
          first ∧
        (signingSample.moment (sampleState true 0)
          (.request (signingSample.grantRequest .refreshToken first.refreshToken))).Answers
            (signingSample.grantRequest .refreshToken first.refreshToken) second ∧
        signingSample.TokensDescribed (.ofKey Rsa.sampleKey.publicKey)
          signingSample.settings.issuer
          (signingSample.grantRequest .refreshToken first.refreshToken) second ∧
        signingSample.Makes second.refreshToken := by
  obtain ⟨hpublishes, hdescribed⟩ :=
    @tokensDescribed_of_answers signingSample _ rfl Rsa.canSign_sampleKey
  obtain ⟨keys, hkeys, -, hkey⟩ := hpublishes.keys (documentRequest .keys) (sampleState true 0)
    rfl rfl
  obtain ⟨metadata, hmetadata, -, hissuer⟩ := hpublishes.discovery (documentRequest .discovery)
    (sampleState true 0) rfl rfl
  have hclient := hasClient_signingSample
  obtain ⟨first, hissue⟩ := exists_issue_signingSample
  have hrefresh : TokenKind.refresh.mint (sampleSession true) signingSample.settings
      signingSample.keys 0 = .ok first.refreshToken := (made_of_issue hissue).2.2
  obtain ⟨-, hresumes, -, second, hanswer⟩ :=
    @resumes_sample _ hclient faithful_signingSample .refresh _ _ hrefresh 0 (by decide) (by decide)
  have hfirst : (signingSample.moment (sampleState false 0)
      (.request (signingSample.grantRequest .authorizationCode "c"))).Answers
        (signingSample.grantRequest .authorizationCode "c") first := answers_sample hclient hissue
  have hsecond : (signingSample.moment (sampleState true 0)
      (.request (signingSample.grantRequest .refreshToken first.refreshToken))).Answers
        (signingSample.grantRequest .refreshToken first.refreshToken) second := ⟨rfl, rfl, hanswer⟩
  have hshown := (tokensOf_of_answers hresumes hsecond).resumed rfl
  exact ⟨rfl, Rsa.canSign_sampleKey, ⟨keys, hkeys, hkey⟩, ⟨metadata, hmetadata, hissuer⟩, first,
    second, hfirst, hdescribed _ [_] _ List.mem_cons_self _ _ hfirst, hsecond,
    hdescribed _ [_] _ List.mem_cons_self _ _ hsecond,
    ⟨.refresh, sampleSession true, 0, hshown ▸ hrefresh⟩⟩

/-- A text of the sample key that names another key in its header opens the sample session. -/
theorem exists_foreign :
    ∃ token, Token.sign Rsa.sampleKey "another key" (.object foreignClaims) = .ok token ∧
      signingSample.Admits (sampleState false 0) token (sampleSession false) := by
  obtain ⟨signature, hsign, hverify⟩ := Rsa.canSign_sampleKey (Utf8.encodeChars
    (Token.signedPart (Token.Header.own "another key") (.object foreignClaims)))
  have htoken := Token.sign_eq_ok_iff.2 ⟨signature, hsign, rfl⟩
  have haccepts := (Token.verify_parts Rsa.sampleKey.publicKey "another key" legible_foreignClaims
    signature).trans (if_pos hverify)
  exact ⟨_, htoken, foreignClaims, haccepts, ⟨60, expiry?_foreignClaims, by decide⟩, "c", rfl,
    rfl⟩

/-- The identifier of a key has no blank. -/
theorem keyId_ne {key : Rsa.PublicKey} {s : String} (h : ' ' ∈ s.toList) : key.keyId ≠ s := by
  rintro rfl
  unfold Rsa.PublicKey.keyId at h
  rw [String.toList_ofList] at h
  exact absurd (Base64.isUrlSymbol_of_mem _ h) (by decide)

/-- A text that names another key, another issuer and another client is accepted as refresh token
and given back. -/
theorem not_described_of_foreign :
    ∃ (token : String) (tokens : TokenResponse),
      signingSample.moment (sampleState false 0)
          (.request (signingSample.grantRequest .refreshToken token)) ∈
        signingSample.history (.initial .jane 0) [.queueCode "c",
          .request signingSample.loginRequest,
          .request (signingSample.grantRequest .refreshToken token)] ∧
      (signingSample.moment (sampleState false 0)
        (.request (signingSample.grantRequest .refreshToken token))).Answers
          (signingSample.grantRequest .refreshToken token) tokens ∧
      ∃ t, SignedToken.ofText? tokens.refreshToken = some t ∧
        Json.textMember? "kid" t.header ≠
          some (PublishedKey.ofKey Rsa.sampleKey.publicKey).keyId ∧
        Json.textMember? "iss" t.claims ≠ some signingSample.settings.issuer ∧
        Json.textMember? "aud" t.claims ≠ some signingSample.settings.clientId := by
  have hclient := hasClient_signingSample
  obtain ⟨token, hsign, hadmits⟩ := exists_foreign
  have hne := Token.ne_empty_of_sign hsign
  have hgrants : (signingSample.moment (sampleState false 0)
      (.request (signingSample.grantRequest .refreshToken token))).Grants signingSample
        .refreshToken token (sampleSession false) :=
    .resumes rfl (reached?_grantRequest signingSample .refreshToken token rfl)
      (presents_grantRequest hclient .refreshToken hne) hadmits
  obtain ⟨tokens, hissue⟩ : ∃ tokens, signingSample.issue (sampleSession false) .refreshToken token
      (sampleState false 0).clock.now = .ok tokens :=
    exists_issue faithful_signingSample _ _ _ (by decide) nofun
  have hshown : token = tokens.refreshToken := Except.ok.inj (made_of_issue hissue).2.2
  obtain ⟨t, hparts, -, hkeyId, hclaims, -⟩ := PublishedKey.ofText?_of_sign hsign
  have htext {name s : String} (hget : Members.get? name foreignClaims = some (.string s)) :
      Json.textMember? name t.claims = some s := by
    rw [hclaims]
    exact Json.textMember?_of_readable legible_foreignClaims.readable hget
  refine ⟨token, tokens, ?_, ⟨rfl, rfl, ?_⟩, t, hshown ▸ hparts, ?_, ?_, ?_⟩
  · rw [history_login hclient]
    exact List.mem_cons_of_mem _ (List.mem_cons_of_mem _ List.mem_cons_self)
  · rw [hgrants.answer_eq, tokenAnswer, hissue]
    rfl
  · rw [hkeyId]
    exact fun heq => keyId_ne (by decide) (Option.some.inj heq).symm
  · rw [htext (s := "http://elsewhere.test/oidc") rfl]
    decide
  · rw [htext (s := "another") rfl]
    decide

end Provider

end OpenIdProvider
