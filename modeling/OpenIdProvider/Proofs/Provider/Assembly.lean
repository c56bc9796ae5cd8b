/-
  How the tokens of an answer are put together. All that is made for an answer is made at one
  reading of the clock, of which the tokens tell the second: access token and ID token end after the
  lifetime of access tokens, which the answer tells as well, and the refresh token of a code after
  its own. A refresh grant makes no refresh token. It gives back the one that it was shown, which
  says when it was made itself.
-/
import OpenIdProvider.Proofs.Provider.Agreement

namespace OpenIdProvider

open Http

/-! ## Reading claims -/

/-- The claims of a token as anyone can read them, whoever signed it. -/
def Token.payload (token : String) : Except Token.Error Json := do
  let (_, claims, _, _) ← Token.split token
  Token.ofJson (Token.Claims.parse (← Token.decodePart claims))

/-- Signed claims can be read. -/
theorem Token.payload_of_sign {key : Rsa.PrivateKey} {keyId : String} {claims : Members}
    {token : String} (hlegible : Token.Claims.Legible claims)
    (h : Token.sign key keyId (.object claims) = .ok token) :
    Token.payload token = .ok (.object claims) := by
  obtain ⟨signature, -, rfl⟩ := Token.sign_eq_ok_iff.1 h
  have hbind {α β : Type} (x : α) (f : α → Except Token.Error β) : (Except.ok x >>= f) = f x := rfl
  have hclaims : Token.decodePart (Token.encodePart (.object claims)) =
      .ok (Utf8.encodeChars (Json.object claims).chars) := Token.decodePart_encodeUrl _
  unfold Token.payload
  rw [Token.split_parts]
  simp only [hbind, hclaims, Token.Claims.parse_chars hlegible]
  rfl

theorem TokenKind.payload_of_mint {key : Rsa.PrivateKey} {kind : TokenKind} {session : Session}
    {settings : Settings} {now : Instant} {token : String}
    (h : kind.mint session settings (.ofRsa key) now = .ok token) :
    ∃ finish : Instant, finish.seconds = now.lastSecond (kind.ttl settings) ∧
      Token.payload token = .ok (.object (kind.claims session settings now finish)) := by
  obtain ⟨finish, hfinish, hcarries⟩ := carries_of_mint (KeyAuthority.readsBack_ofRsa key) h
  exact ⟨finish, Instant.seconds_of_plus? hfinish,
    Token.payload_of_sign (kind.legible_claims session settings now finish) hcarries.signed⟩

/-! ## Answers -/

namespace Provider

/-- The claims of a token of a session that is made in a second and holds for some seconds. -/
def tokenClaims (p : Provider) (session : Session) (now ttl : Int) : Members :=
  [("aud", .string p.settings.clientId), ("exp", .ofInt (now + ttl)), ("iat", .ofInt now),
    ("iss", .string (p.settings.baseUrl ++ "/oidc")), ("jti", .string session.id),
    ("nbf", .ofInt now), ("sub", .string session.user.subject)]

/-- An answer to a grant for a session whose tokens fit together, given in a second by a provider
whose lifetimes are numbers of seconds. -/
structure Assembled (p : Provider) (now accessTtl refreshTtl : Int) (grant : GrantType)
    (shown : String) (session : Session) (tokens : TokenResponse) : Prop where
  access : Token.payload tokens.accessToken = .ok (.object (p.tokenClaims session now accessTtl))
  /-- The lifetime is told as the access token has it. -/
  expiresIn : ∀ (claims : Members) (finish start : Int),
    Token.payload tokens.accessToken = .ok (.object claims) →
    claims.get? "exp" = some (.ofInt finish) → claims.get? "iat" = some (.ofInt start) →
    tokens.expiresIn = finish - start
  identity : ∀ token ∈ tokens.idToken, ∃ claims : Members,
    Token.payload token = .ok (.object claims) ∧
      claims.get? "exp" = some (.ofInt (now + accessTtl)) ∧
      claims.get? "iat" = some (.ofInt now)
  /-- A code gets two tokens, the second with a lifetime of its own. -/
  redeemed : grant = .authorizationCode → tokens.accessToken ≠ "" ∧ tokens.refreshToken ≠ "" ∧
    Token.payload tokens.refreshToken = .ok (.object (p.tokenClaims session now refreshTtl))
  resumed : grant = .refreshToken → tokens.refreshToken = shown

/-- The claims of access tokens and refresh tokens are exactly these. -/
theorem payload_of_standard {p : Provider} {key : Rsa.PrivateKey} (hkeys : p.keys = .ofRsa key)
    {accessTtl refreshTtl : Int} (haccess : p.settings.accessTtl = .ofSeconds accessTtl)
    (hrefresh : p.settings.refreshTtl = .ofSeconds refreshTtl) {session : Session} {now : Instant}
    {token : String} :
    (session.accessToken p.settings p.keys now = .ok token →
      Token.payload token = .ok (.object (p.tokenClaims session now.seconds accessTtl))) ∧
    (session.refreshToken p.settings p.keys now = .ok token →
      Token.payload token = .ok (.object (p.tokenClaims session now.seconds refreshTtl))) := by
  have hclaims {ttl : Int} {finish : Instant}
      (hfinish : finish.seconds = now.lastSecond (.ofSeconds ttl)) :
      session.standardClaims p.settings now finish = p.tokenClaims session now.seconds ttl := by
    rw [session.standardClaims_eq, hfinish, Instant.lastSecond_ofSeconds]
    rfl
  rw [hkeys]
  constructor
  · intro h
    obtain ⟨finish, hfinish, hpayload⟩ :=
      @TokenKind.payload_of_mint key .access session p.settings now token h
    rw [TokenKind.ttl, haccess] at hfinish
    rw [hpayload, ← hclaims hfinish]
    rfl
  · intro h
    obtain ⟨finish, hfinish, hpayload⟩ :=
      @TokenKind.payload_of_mint key .refresh session p.settings now token h
    rw [TokenKind.ttl, hrefresh] at hfinish
    rw [hpayload, ← hclaims hfinish]
    rfl

theorem expiresIn_of_issue {p : Provider} {session : Session} {grant : GrantType} {shown : String}
    {now : Instant} {tokens : TokenResponse} (h : p.issue session grant shown now = .ok tokens) :
    tokens.expiresIn = p.settings.accessTtl.seconds := by
  obtain ⟨accessToken, -, h⟩ := bind_eq_ok.1 h
  obtain ⟨idToken, -, h⟩ := bind_eq_ok.1 h
  obtain ⟨refreshToken, -, h⟩ := bind_eq_ok.1 h
  cases h
  rfl

/-- The tokens of a session that are made with a key fit together. -/
theorem assembled_of_issue {p : Provider} {key : Rsa.PrivateKey} (hkeys : p.keys = .ofRsa key)
    {accessTtl refreshTtl : Int} (haccessTtl : p.settings.accessTtl = .ofSeconds accessTtl)
    (hrefreshTtl : p.settings.refreshTtl = .ofSeconds refreshTtl) {session : Session}
    {grant : GrantType} {shown : String} {now : Instant} {tokens : TokenResponse}
    (h : p.issue session grant shown now = .ok tokens) :
    Assembled p now.seconds accessTtl refreshTtl grant shown session tokens := by
  obtain ⟨haccess, hidentity, hrefresh⟩ := made_of_issue h
  have hpayload := (payload_of_standard hkeys haccessTtl hrefreshTtl).1 haccess
  have hne {claims : Json} {token : String} (hsign : p.keys.sign claims = .ok token) :
      token ≠ "" := by
    rw [hkeys] at hsign
    exact Token.ne_empty_of_sign hsign
  refine ⟨hpayload, fun claims finish start hclaims hfinish hstart => ?_, fun token htoken => ?_,
    ?_, ?_⟩
  · rw [hpayload] at hclaims
    cases hclaims
    cases hfinish
    cases hstart
    rw [expiresIn_of_issue h, haccessTtl, Duration.seconds_ofSeconds]
    omega
  · have hmint : TokenKind.identity.mint session p.settings (.ofRsa key) now = .ok token :=
      hkeys ▸ ((idToken_of_next hidentity).2 token htoken).2
    obtain ⟨finish, hfinish, hclaims⟩ := TokenKind.payload_of_mint hmint
    have hend : finish.seconds = now.seconds + accessTtl := by
      rw [hfinish, TokenKind.ttl, haccessTtl, Instant.lastSecond_ofSeconds]
    refine ⟨_, hclaims, hend ▸ session.identityClaims_exp p.settings now finish, ?_⟩
    refine session.get?_identityClaims p.settings now finish (by decide) ?_
    rw [session.standardClaims_eq]
    rfl
  · rintro rfl
    obtain ⟨_, -, hsign⟩ := Session.mint_eq_ok_iff.1 haccess
    obtain ⟨_, -, hsign'⟩ := Session.mint_eq_ok_iff.1 hrefresh
    exact ⟨hne hsign, hne hsign', (payload_of_standard hkeys haccessTtl hrefreshTtl).2 hrefresh⟩
  · rintro rfl
    exact (Except.ok.inj hrefresh).symm

/-- In every state, an answer with tokens is one to a grant for a session, and its tokens fit
together. -/
theorem assembled_of_answers {p : Provider} {key : Rsa.PrivateKey} (hkeys : p.keys = .ofRsa key)
    {accessTtl refreshTtl : Int} (haccess : p.settings.accessTtl = .ofSeconds accessTtl)
    (hrefresh : p.settings.refreshTtl = .ofSeconds refreshTtl) {s : ProviderState} {step : Step}
    {r : Request} {tokens : TokenResponse} (h : (p.moment s step).Answers r tokens) :
    ∃ grant shown session, (p.moment s step).Grants p grant shown session ∧
      p.Presents r grant shown ∧
      Assembled p s.clock.now.seconds accessTtl refreshTtl grant shown session tokens := by
  obtain ⟨grant, shown, session, hgrants, hpresents, hissue⟩ := issue_of_answers h
  exact ⟨grant, shown, session, hgrants, hpresents,
    assembled_of_issue hkeys haccess hrefresh hissue⟩

/-- The tokens that the code of the sample session gets fit together, although they are made
within a second. -/
theorem signingSample_assembled :
    signingSample.keys = .ofRsa Rsa.sampleKey ∧
      signingSample.settings.accessTtl = .ofSeconds 60 ∧
      signingSample.settings.refreshTtl = .ofSeconds 60 ∧ ∃ tokens : TokenResponse,
      (signingSample.moment (sampleState false (.running sampleMade))
        (.request (signingSample.grantRequest .authorizationCode "c"))).Answers
          (signingSample.grantRequest .authorizationCode "c") tokens ∧
      ∃ grant shown session, (signingSample.moment (sampleState false (.running sampleMade))
        (.request (signingSample.grantRequest .authorizationCode "c"))).Grants signingSample grant
          shown session ∧
        signingSample.Presents (signingSample.grantRequest .authorizationCode "c") grant shown ∧
        Assembled signingSample 100 60 60 grant shown session tokens := by
  obtain ⟨tokens, hanswers, -⟩ := exists_tokens_sampleMade
  have hkeys : signingSample.keys = .ofRsa Rsa.sampleKey := rfl
  have haccess : signingSample.settings.accessTtl = .ofSeconds 60 := rfl
  have hrefresh : signingSample.settings.refreshTtl = .ofSeconds 60 := rfl
  exact ⟨hkeys, haccess, hrefresh, tokens, hanswers,
    assembled_of_answers hkeys haccess hrefresh hanswers⟩

/-- The refresh token of an answer may be older than the rest of it: ten seconds after the sample
session was redeemed, its refresh token comes back with an access token that is ten seconds
younger. -/
theorem iat_of_resumed :
    ∃ (first second : TokenResponse) (access refresh : Members),
      (signingSample.run (.initial .jane 0)
        [.queueCode "c", .request signingSample.loginRequest,
          .request (signingSample.grantRequest .authorizationCode "c"), .setClock 10]).2 =
        sampleState true 10 ∧
      (signingSample.moment (sampleState false 0)
        (.request (signingSample.grantRequest .authorizationCode "c"))).Answers
          (signingSample.grantRequest .authorizationCode "c") first ∧
      (signingSample.moment (sampleState true 10)
        (.request (signingSample.grantRequest .refreshToken first.refreshToken))).Answers
          (signingSample.grantRequest .refreshToken first.refreshToken) second ∧
      Token.payload second.accessToken = .ok (.object access) ∧
      Token.payload second.refreshToken = .ok (.object refresh) ∧
      access.get? "iat" = some (.ofInt 10) ∧ refresh.get? "iat" = some (.ofInt 0) := by
  have hclient := hasClient_signingSample
  have hkeys : signingSample.keys = .ofRsa Rsa.sampleKey := rfl
  have haccessTtl : signingSample.settings.accessTtl = .ofSeconds 60 := rfl
  have hrefreshTtl : signingSample.settings.refreshTtl = .ofSeconds 60 := rfl
  have hrun : (signingSample.run (.initial .jane 0)
      [.queueCode "c", .request signingSample.loginRequest,
        .request (signingSample.grantRequest .authorizationCode "c"), .setClock 10]).2 =
      sampleState true 10 := by
    rw [run_of_login hclient, run_cons, (grants_sample hclient 0).2]
    rfl
  obtain ⟨first, hissue⟩ := exists_issue_signingSample
  obtain ⟨-, -, hrefresh⟩ := made_of_issue hissue
  obtain ⟨-, hresumes, -, second, hanswer⟩ :=
    @resumes_sample _ hclient faithful_signingSample .refresh _ _ hrefresh 10 (by decide)
      (by decide)
  have hof := tokensOf_of_answers hresumes ⟨rfl, rfl, hanswer⟩
  have hmade : (sampleSession true).accessToken signingSample.settings signingSample.keys 10 =
      .ok second.accessToken := hof.access.mint
  have haccess := (payload_of_standard hkeys haccessTtl hrefreshTtl).1 hmade
  have hshown := (payload_of_standard hkeys haccessTtl hrefreshTtl).2 hrefresh
  rw [← hof.resumed rfl] at hshown
  exact ⟨first, second, _, _, hrun, answers_sample hclient hissue, ⟨rfl, rfl, hanswer⟩, haccess,
    hshown, rfl, rfl⟩

end Provider

end OpenIdProvider
