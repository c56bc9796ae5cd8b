/-
  Where signed texts come from and where they are shown. A token request that is granted for a
  session signs an access token, perhaps an ID token, and for a code a refresh token. Tokens are
  shown to the token endpoint and to the endpoint that tells of users. What is accepted there
  names a stored session and has not ended; and if it was signed at an earlier moment, that moment
  decides which session it names and when it ends.
-/
import OpenIdProvider.Proofs.Provider.Client
import OpenIdProvider.Proofs.Provider.Persistence
import OpenIdProvider.Proofs.Session.Claims
import OpenIdProvider.Proofs.Token.Compact

namespace OpenIdProvider

open Http Provider

/-! ## Minting -/

theorem Session.mint_eq_ok_iff {keys : KeyAuthority} {ttl : Duration} {now : Instant}
    {claims : Instant → Members} {token : String} :
    Session.mint keys ttl now claims = .ok token ↔
      ∃ finish, now.plus? ttl = some finish ∧ keys.sign (.object (claims finish)) = .ok token := by
  unfold mint
  cases now.plus? ttl with
  | none => exact ⟨nofun, fun ⟨_, h, _⟩ => nomatch h⟩
  | some finish =>
    simp only [Option.some.injEq, exists_eq_left']
    cases keys.sign (.object (claims finish)) with
    | error e => exact ⟨nofun, nofun⟩
    | ok token' => exact ⟨fun h => by cases h; rfl, fun h => by cases h; rfl⟩

/-- The kinds of tokens that a session has. -/
inductive TokenKind
  | access
  | identity
  | refresh
deriving DecidableEq

namespace TokenKind

def ttl (settings : Settings) : TokenKind → Duration
  | access => settings.accessTtl
  | identity => settings.accessTtl
  | refresh => settings.refreshTtl

def claims (session : Session) (settings : Settings) (now : Instant) :
    TokenKind → Instant → Members
  | access => session.standardClaims settings now
  | identity => session.identityClaims settings now
  | refresh => session.standardClaims settings now

/-- The text of a token of a session. -/
def mint (session : Session) (settings : Settings) (keys : KeyAuthority) (now : Instant)
    (kind : TokenKind) : Except Session.MintError String :=
  Session.mint keys (kind.ttl settings) now (kind.claims session settings now)

theorem legible_claims (kind : TokenKind) (session : Session) (settings : Settings)
    (now finish : Instant) : Token.Claims.Legible (kind.claims session settings now finish) := by
  cases kind with
  | access => exact session.legible_standardClaims settings now finish
  | identity => exact session.legible_identityClaims settings now finish
  | refresh => exact session.legible_standardClaims settings now finish

/-- Tokens of all kinds name the session, its user, the issuer and the client. -/
theorem claimed (kind : TokenKind) (session : Session) (settings : Settings)
    (now finish : Instant) :
    session.Claimed settings (kind.claims session settings now finish) := by
  cases kind with
  | access => exact session.claimed_standardClaims settings now finish
  | identity => exact session.claimed_identityClaims settings now finish
  | refresh => exact session.claimed_standardClaims settings now finish

theorem claims_exp (kind : TokenKind) (session : Session) (settings : Settings)
    (now finish : Instant) :
    (kind.claims session settings now finish).get? "exp" = some (.ofInt finish.seconds) := by
  cases kind with
  | access => exact session.standardClaims_exp settings now finish
  | identity => exact session.identityClaims_exp settings now finish
  | refresh => exact session.standardClaims_exp settings now finish

end TokenKind

/-- Claims that name a session and the last second at which they hold. -/
structure Names (claims : Members) (id : String) (finish : Int) : Prop where
  jti : claims.get? "jti" = some (.string id)
  expiry : expiry? claims = some finish

/-- A text that was signed for some claims, and that is read as these where it verifies. -/
structure KeyAuthority.Carries (keys : KeyAuthority) (token : String) (claims : Members) :
    Prop where
  signed : keys.sign (.object claims) = .ok token
  read : ∀ v, keys.verify token = .ok v → v = .object claims

/-- A minted token carries the claims of its kind. -/
theorem TokenKind.carries_of_mint {keys : KeyAuthority} (hkeys : keys.ReadsBack)
    {kind : TokenKind} {session : Session} {settings : Settings} {now : Instant} {token : String}
    (hmint : kind.mint session settings keys now = .ok token) :
    ∃ finish, now.plus? (kind.ttl settings) = some finish ∧
      keys.Carries token (kind.claims session settings now finish) := by
  obtain ⟨finish, hfinish, hsign⟩ := Session.mint_eq_ok_iff.1 hmint
  refine ⟨finish, hfinish, hsign, fun v hverify => ?_⟩
  exact hkeys _ token v (kind.legible_claims session settings now finish) hsign hverify

theorem TokenKind.names_of_claims (kind : TokenKind) (session : Session) {settings : Settings}
    {now finish : Instant} (hfinish : now.plus? (kind.ttl settings) = some finish) :
    Names (kind.claims session settings now finish) session.id
      (now.lastSecond (kind.ttl settings)) := by
  rw [← Instant.seconds_of_plus? hfinish]
  exact ⟨(kind.claimed session settings now finish).jti,
    expiry?_of_exp (kind.claims_exp session settings now finish)⟩

/-- A minted token that verifies names its session and the end of its lifetime. -/
theorem TokenKind.names_of_mint {keys : KeyAuthority} (hkeys : keys.ReadsBack) {kind : TokenKind}
    {session : Session} {settings : Settings} {now : Instant} {token : String}
    (hmint : kind.mint session settings keys now = .ok token) {v : Json}
    (hverify : keys.verify token = .ok v) :
    ∃ claims, v = .object claims ∧
      Names claims session.id (now.lastSecond (kind.ttl settings)) := by
  obtain ⟨finish, hfinish, hcarries⟩ := TokenKind.carries_of_mint hkeys hmint
  exact ⟨_, hcarries.read v hverify, kind.names_of_claims session hfinish⟩

/-- A faithful authority makes every token that ends at an instant that can be represented. -/
theorem TokenKind.exists_mint {keys : KeyAuthority} (hkeys : keys.Faithful) (kind : TokenKind)
    (session : Session) {settings : Settings} {now finish : Instant}
    (hfinish : now.plus? (kind.ttl settings) = some finish) :
    ∃ token, kind.mint session settings keys now = .ok token := by
  obtain ⟨token, hsign, -⟩ := hkeys _ (kind.legible_claims session settings now finish)
  exact ⟨token, Session.mint_eq_ok_iff.2 ⟨finish, hfinish, hsign⟩⟩

/-- A faithful authority accepts every token that it made. -/
theorem TokenKind.verify_of_mint {keys : KeyAuthority} (hkeys : keys.Faithful) {kind : TokenKind}
    {session : Session} {settings : Settings} {now : Instant} {token : String}
    (hmint : kind.mint session settings keys now = .ok token) :
    token ≠ "" ∧ ∃ claims, keys.verify token = .ok (.object claims) ∧
      Names claims session.id (now.lastSecond (kind.ttl settings)) := by
  obtain ⟨finish, hfinish, hsign⟩ := Session.mint_eq_ok_iff.1 hmint
  obtain ⟨token', hsign', hne, hverify⟩ :=
    hkeys _ (kind.legible_claims session settings now finish)
  rw [hsign] at hsign'
  cases hsign'
  exact ⟨hne, _, hverify, kind.names_of_claims session hfinish⟩

/-- While it lasts, a token that was made opens what is stored under its session's identifier. -/
theorem TokenKind.admits_of_mint {p : Provider} (hkeys : p.keys.Faithful) {kind : TokenKind}
    {session stored : Session} {made : Instant} {token : String}
    (hmint : kind.mint session p.settings p.keys made = .ok token) {s : ProviderState}
    (hstored : s.store.get? session.id = some stored)
    (hnow : s.clock.now.seconds ≤ made.lastSecond (kind.ttl p.settings)) :
    p.Admits s token stored := by
  obtain ⟨-, claims, hverify, hnames⟩ := TokenKind.verify_of_mint hkeys hmint
  exact ⟨claims, hverify, ⟨_, hnames.expiry, hnow⟩, _, hnames.jti, hstored⟩

/-! ## Moments at which tokens are made -/

namespace Moment

/-- What the clock reads. -/
def reading (m : Moment) : Instant := m.before.clock.now

/-- A token request with valid credentials that is granted for a session: it redeems the code of
the session, or shows a token that opens the session. -/
inductive Grants (p : Provider) (m : Moment) : GrantType → String → Session → Prop
  | redeems {r : Request} {code : String} {session : Session} (step : m.step = .request r)
      (reached : reached? r m.before = some .token)
      (presents : p.Presents r .authorizationCode code)
      (grant : m.before.store.grant code = .ok (session, m.after.store)) :
      Grants p m .authorizationCode code session
  | resumes {r : Request} {token : String} {session : Session} (step : m.step = .request r)
      (reached : reached? r m.before = some .token) (presents : p.Presents r .refreshToken token)
      (admits : p.Admits m.before token session) : Grants p m .refreshToken token session

/-- The texts that are signed at a moment, each only after those before it were. -/
inductive Signs (p : Provider) (m : Moment) (session : Session) : TokenKind → String → Prop
  | access {grant : GrantType} {shown token : String} (grants : m.Grants p grant shown session)
      (made : session.accessToken p.settings p.keys m.reading = .ok token) :
      Signs p m session .access token
  | identity {grant : GrantType} {shown first token : String}
      (grants : m.Grants p grant shown session)
      (accessMade : session.accessToken p.settings p.keys m.reading = .ok first)
      (wanted : session.wantsIdToken = true)
      (made : session.idToken p.settings p.keys m.reading = .ok token) :
      Signs p m session .identity token
  | refresh {code first token : String} {second : Option String}
      (grants : m.Grants p .authorizationCode code session)
      (accessMade : session.accessToken p.settings p.keys m.reading = .ok first)
      (identityMade : p.nextIdToken session m.reading = .ok second)
      (made : session.refreshToken p.settings p.keys m.reading = .ok token) :
      Signs p m session .refresh token

/-- What is signed is signed for a grant, and an access token is signed first. -/
theorem Signs.grants {p : Provider} {m : Moment} {session : Session} {kind : TokenKind}
    {token : String} (h : m.Signs p session kind token) :
    ∃ grant shown first, m.Grants p grant shown session ∧
      session.accessToken p.settings p.keys m.reading = .ok first := by
  cases h with
  | access grants made => exact ⟨_, _, _, grants, made⟩
  | identity grants accessMade wanted made => exact ⟨_, _, _, grants, accessMade⟩
  | refresh grants accessMade identityMade made => exact ⟨_, _, _, grants, accessMade⟩

theorem Signs.mint {p : Provider} {m : Moment} {session : Session} {kind : TokenKind}
    {token : String} (h : m.Signs p session kind token) :
    kind.mint session p.settings p.keys m.reading = .ok token := by
  cases h with
  | access grants made => exact made
  | identity grants accessMade wanted made => exact made
  | refresh grants accessMade identityMade made => exact made

/-- A refresh token is signed only for a code. -/
theorem Signs.code_of_refresh {p : Provider} {m : Moment} {session : Session} {token : String}
    (h : m.Signs p session .refresh token) :
    ∃ code, m.Grants p .authorizationCode code session := by
  cases h with
  | refresh grants accessMade identityMade made => exact ⟨_, grants⟩

/-- A grant is for the session that is stored under its identifier. -/
theorem Grants.kept {p : Provider} {m : Moment} {grant : GrantType} {shown : String}
    {session : Session} (h : m.Grants p grant shown session) :
    ∃ stored, m.before.store.get? session.id = some stored ∧ stored.Kept session := by
  cases h with
  | redeems step reached presents grant =>
    obtain ⟨stored, hstored, -, rfl, -⟩ := SessionStore.grant_eq_ok_iff.1 grant
    obtain rfl := SessionStore.id_of_get? hstored
    exact ⟨stored, hstored, rfl, fun _ => rfl⟩
  | resumes step reached presents admits =>
    obtain ⟨claims, -, -, id, -, hstored⟩ := admits
    obtain rfl := SessionStore.id_of_get? hstored
    exact ⟨session, hstored, .refl session⟩

/-- A redeemed code is the identifier of its session. -/
theorem Grants.id_of_code {p : Provider} {m : Moment} {code : String} {session : Session}
    (h : m.Grants p .authorizationCode code session) : session.id = code := by
  cases h with
  | redeems step reached presents grant =>
    have hget := SessionStore.grant_get? grant code
    rw [if_pos rfl] at hget
    exact SessionStore.id_of_get? hget

theorem Grants.spends {p : Provider} {m : Moment} {code : String} {session : Session}
    (h : m.Grants p .authorizationCode code session) : m.Spends code := by
  cases h with
  | redeems step reached presents grant => exact ⟨session, grant⟩

/-- A grant is answered with what comes of making the tokens of its session. -/
theorem Grants.answer_eq {p : Provider} {s : ProviderState} {step : Step} {grant : GrantType}
    {shown : String} {session : Session} (h : (p.moment s step).Grants p grant shown session) :
    (p.moment s step).answer = .response (p.tokenAnswer session grant shown s.clock.now) := by
  cases h with
  | redeems hstep reached presents grant =>
    obtain rfl : step = .request _ := hstep
    show StepAnswer.response (p.respond _ s).1 = _
    rw [respond_of_redeemed (s := s) reached presents grant]
    rfl
  | resumes hstep reached presents admits =>
    obtain rfl : step = .request _ := hstep
    show StepAnswer.response (p.respond _ s).1 = _
    rw [respond_of_resumed (s := s) reached presents admits]

/-! ## Moments at which tokens are shown -/

/-- A moment at which a token is shown, as bearer token or as refresh token. -/
inductive Shows (p : Provider) (m : Moment) : String → Prop
  | bearer {r : Request} {token : String} (step : m.step = .request r)
      (reached : reached? r m.before = some .userinfo)
      (shown : bearerToken? r.headers = some token) : Shows p m token
  | refresh {r : Request} {token : String} (step : m.step = .request r)
      (reached : reached? r m.before = some .token)
      (presents : p.Presents r .refreshToken token) : Shows p m token

/-- A moment at which a bearer token is answered with status 200, or a refresh token with
tokens. -/
inductive Accepts (p : Provider) (m : Moment) : String → Prop
  | bearer {r : Request} {token : String} {response : Response} (step : m.step = .request r)
      (reached : reached? r m.before = some .userinfo)
      (shown : bearerToken? r.headers = some token)
      (answer : m.answer = .response (some response)) (status : response.status = 200) :
      Accepts p m token
  | refresh {r : Request} {token : String} {tokens : TokenResponse} (step : m.step = .request r)
      (reached : reached? r m.before = some .token)
      (presents : p.Presents r .refreshToken token)
      (answer : m.answer = .response (some (Reply.json tokens.toJson))) : Accepts p m token

theorem Accepts.shows {p : Provider} {m : Moment} {token : String} (h : m.Accepts p token) :
    m.Shows p token := by
  cases h with
  | bearer step reached shown answer status => exact .bearer step reached shown
  | refresh step reached presents answer => exact .refresh step reached presents

/-- A shown refresh token that opens a session is a grant. -/
theorem Grants.shows {p : Provider} {m : Moment} {token : String} {session : Session}
    (h : m.Grants p .refreshToken token session) :
    m.Shows p token ∧ p.Admits m.before token session := by
  cases h with
  | resumes step reached presents admits => exact ⟨.refresh step reached presents, admits⟩

end Moment

namespace Provider

/-- The tokens that are answered are those that were made. -/
theorem made_of_issue {p : Provider} {session : Session} {grant : GrantType} {shown : String}
    {now : Instant} {tokens : TokenResponse}
    (h : p.issue session grant shown now = .ok tokens) :
    session.accessToken p.settings p.keys now = .ok tokens.accessToken ∧
      p.nextIdToken session now = .ok tokens.idToken ∧
      p.nextRefreshToken session grant shown now = .ok tokens.refreshToken := by
  obtain ⟨accessToken, haccess, h⟩ := bind_eq_ok.1 h
  obtain ⟨idToken, hidentity, h⟩ := bind_eq_ok.1 h
  obtain ⟨refreshToken, hrefresh, h⟩ := bind_eq_ok.1 h
  cases h
  exact ⟨haccess, hidentity, hrefresh⟩

/-- A faithful authority makes tokens for every grant, if they end at instants that can be
represented. -/
theorem exists_issue {p : Provider} (hkeys : p.keys.Faithful) (session : Session)
    (grant : GrantType) (shown : String) {now : Instant}
    (haccess : (now.plus? p.settings.accessTtl).isSome = true)
    (hrefresh : grant = .authorizationCode → (now.plus? p.settings.refreshTtl).isSome = true) :
    ∃ tokens, p.issue session grant shown now = .ok tokens := by
  obtain ⟨finish, hfinish⟩ := Option.isSome_iff_exists.1 haccess
  obtain ⟨accessToken, haccessToken⟩ : ∃ token,
      session.accessToken p.settings p.keys now = .ok token :=
    TokenKind.access.exists_mint hkeys session hfinish
  obtain ⟨idToken, hidToken⟩ : ∃ token, p.nextIdToken session now = .ok token := by
    obtain ⟨token, htoken⟩ := TokenKind.identity.exists_mint hkeys session hfinish
    have htoken' : session.idToken p.settings p.keys now = .ok token := htoken
    unfold nextIdToken
    split
    · exact ⟨some token, by rw [htoken']; rfl⟩
    · exact ⟨none, rfl⟩
  obtain ⟨refreshToken, hrefreshToken⟩ : ∃ token,
      p.nextRefreshToken session grant shown now = .ok token := by
    cases grant with
    | authorizationCode =>
      obtain ⟨finish', hfinish'⟩ := Option.isSome_iff_exists.1 (hrefresh rfl)
      exact TokenKind.refresh.exists_mint hkeys session hfinish'
    | refreshToken => exact ⟨shown, rfl⟩
  exact ⟨⟨accessToken, idToken, refreshToken, TokenResponse.bearer, p.settings.accessTtl.seconds⟩,
    bind_eq_ok.2 ⟨_, haccessToken,
      bind_eq_ok.2 ⟨_, hidToken, bind_eq_ok.2 ⟨_, hrefreshToken, rfl⟩⟩⟩⟩

theorem status_of_checkToken_error {p : Provider} {now : Instant} {token : String}
    {e : ProtocolError} (h : p.checkToken now token = .error e) :
    e.status = 401 ∨ e.status = 500 := by
  unfold checkToken at h
  split at h
  · cases h
    exact .inl rfl
  · split at h
    · cases h
      exact .inr rfl
    · split at h
      · cases h
        exact .inl rfl
      · cases h
  · cases h
    exact .inr rfl

theorem status_of_userinfo_error {p : Provider} {headers : Headers} {s : ProviderState}
    {e : ProtocolError} (h : p.userinfo headers s = .error e) :
    e.status = 401 ∨ e.status = 500 := by
  unfold userinfo checkBearer at h
  split at h
  · rename_i hbearer
    cases h
    split at hbearer
    · exact status_of_checkToken_error hbearer
    · cases hbearer
      exact .inl rfl
  · split at h
    · cases h
      exact .inr rfl
    · cases h

/-- What the endpoint that tells of users answers. -/
theorem respond_userinfo (p : Provider) {r : Request} {s : ProviderState}
    (h : reached? r s = some .userinfo) :
    (p.respond r s).1 =
      some (finish (some .userinfo) r.method
        (match p.userinfo r.headers s with
          | .ok claims => Reply.json (.object claims)
          | .error e => Reply.error e)) := by
  rw [respond_of_reached h]
  simp only [serve]
  cases p.userinfo r.headers s with
  | error e => rfl
  | ok claims => rfl

/-- An accepted token opens a session. -/
theorem admits_of_accepts {p : Provider} {s : ProviderState} {step : Step} {token : String}
    (h : (p.moment s step).Accepts p token) : ∃ session, p.Admits s token session := by
  cases h with
  | @bearer r _ response hstep reached shown answer status =>
    obtain rfl : step = .request r := hstep
    have hanswer : (p.respond r s).1 = some response := by injection answer
    rw [respond_userinfo (s := s) p reached] at hanswer
    obtain rfl := Option.some.inj hanswer
    cases huserinfo : p.userinfo r.headers s with
    | error e =>
      rw [huserinfo] at status
      have hstatus : e.status = 200 := status
      have herror := status_of_userinfo_error huserinfo
      omega
    | ok claims =>
      obtain ⟨token', session, htoken, hadmits, -⟩ := userinfo_eq_ok_iff.1 huserinfo
      rw [shown] at htoken
      cases htoken
      exact ⟨session, hadmits⟩
  | @refresh r _ tokens hstep reached presents answer =>
    obtain rfl : step = .request r := hstep
    have hanswer : (p.respond r s).1 = some (Reply.json tokens.toJson) := by injection answer
    have hcases := respond_token (p := p) s (reached?_eq_some_iff.1 reached).2.1
    generalize p.respond r s = result at hanswer hcases
    cases hcases with
    | redeemed reached' presents' grant => cases (presents.unique presents').1
    | resumed reached' presents' admits =>
      obtain ⟨-, rfl⟩ := presents.unique presents'
      exact ⟨_, admits⟩
    | refused response_eq =>
      exact absurd (Option.some.inj hanswer) (finish_ne_tokens response_eq _ _ _)

/-- Of a token that was signed at a moment the signing decides which session it opens, and how
long. -/
theorem session_of_admits {p : Provider} (hkeys : p.keys.ReadsBack) {n : Moment}
    {made : Session} {kind : TokenKind} {token : String} (hsigns : n.Signs p made kind token)
    {s : ProviderState} {session : Session} (hadmits : p.Admits s token session) :
    session.id = made.id ∧
      s.clock.now.seconds ≤ n.reading.lastSecond (kind.ttl p.settings) := by
  obtain ⟨claims, hverify, ⟨finish, hfinish, hnow⟩, id, hjti, hstored⟩ := hadmits
  obtain ⟨_, heq, hnames⟩ := TokenKind.names_of_mint hkeys hsigns.mint hverify
  cases heq
  rw [hnames.jti] at hjti
  cases hjti
  rw [hnames.expiry] at hfinish
  cases hfinish
  exact ⟨SessionStore.id_of_get? hstored, hnow⟩

/-- While it lasts, a token of a faithful authority gets more tokens for what is stored under the
identifier of its session. -/
theorem resumes_of_mint {p : Provider} (hclient : p.HasClient) (hkeys : p.keys.Faithful)
    {kind : TokenKind} {session stored : Session} {made : Instant} {token : String}
    (hmint : kind.mint session p.settings p.keys made = .ok token) {s : ProviderState}
    (herrors : s.errors.items = []) (hstored : s.store.get? session.id = some stored)
    (hle : s.clock.now.seconds ≤ made.lastSecond (kind.ttl p.settings))
    (haccess : (s.clock.now.plus? p.settings.accessTtl).isSome = true) :
    token ≠ "" ∧
      (p.moment s (.request (p.grantRequest .refreshToken token))).Grants p .refreshToken token
        stored ∧
      (p.moment s (.request (p.grantRequest .refreshToken token))).after = s ∧
      ∃ tokens : TokenResponse,
        (p.moment s (.request (p.grantRequest .refreshToken token))).answer =
          .response (some (Reply.json tokens.toJson)) := by
  obtain ⟨hne, -⟩ := TokenKind.verify_of_mint hkeys hmint
  have hadmits := TokenKind.admits_of_mint hkeys hmint hstored hle
  have hreached := reached?_grantRequest p .refreshToken token herrors
  have hpresents := presents_grantRequest hclient .refreshToken hne
  have hgrants : (p.moment s (.request (p.grantRequest .refreshToken token))).Grants p
      .refreshToken token stored := .resumes rfl hreached hpresents hadmits
  obtain ⟨tokens, hissue⟩ := exists_issue hkeys stored .refreshToken token haccess nofun
  refine ⟨hne, hgrants, ?_, tokens, ?_⟩
  · rw [after_request, respond_of_resumed hreached hpresents hadmits]
  · rw [hgrants.answer_eq, tokenAnswer, hissue]
    rfl

/-! ## The sample session -/

/-- The sample provider with tokens that can be read. -/
def plainSample : Provider := { sample with keys := .plain }

/-- Its code can be redeemed at any time. -/
theorem grants_sample {p : Provider} (hclient : p.HasClient) (clock : Clock) :
    (p.moment (sampleState false clock) (.request (p.grantRequest .authorizationCode "c"))).Grants p
        .authorizationCode "c" (sampleSession true) ∧
      (p.moment (sampleState false clock)
        (.request (p.grantRequest .authorizationCode "c"))).after = sampleState true clock := by
  have hreached := reached?_grantRequest p .authorizationCode "c" (s := sampleState false clock) rfl
  have hgrant : (sampleState false clock).store.grant "c" =
      .ok (sampleSession true, (sampleState true clock).store) := rfl
  have hafter : (p.moment (sampleState false clock)
      (.request (p.grantRequest .authorizationCode "c"))).after = sampleState true clock := by
    rw [after_request, respond_of_redeemed hreached (presents_sample hclient) hgrant]
    rfl
  refine ⟨.redeems rfl hreached (presents_sample hclient) ?_, hafter⟩
  rw [hafter]
  exact hgrant

/-- From then on its tokens get more tokens for as long as they last. -/
theorem resumes_sample {p : Provider} (hclient : p.HasClient) (hkeys : p.keys.Faithful)
    {kind : TokenKind} {made : Instant} {token : String}
    (hmint : kind.mint (sampleSession true) p.settings p.keys made = .ok token) {clock : Clock}
    (hle : clock.now.seconds ≤ made.lastSecond (kind.ttl p.settings))
    (haccess : (clock.now.plus? p.settings.accessTtl).isSome = true) :
    token ≠ "" ∧
      (p.moment (sampleState true clock) (.request (p.grantRequest .refreshToken token))).Grants p
        .refreshToken token (sampleSession true) ∧
      (p.moment (sampleState true clock) (.request (p.grantRequest .refreshToken token))).after =
        sampleState true clock ∧
      ∃ tokens : TokenResponse,
        (p.moment (sampleState true clock) (.request (p.grantRequest .refreshToken token))).answer =
          .response (some (Reply.json tokens.toJson)) :=
  resumes_of_mint hclient hkeys hmint rfl rfl hle haccess

/-- A run in which the session is begun. -/
theorem history_login {p : Provider} (hclient : p.HasClient) (clock : Clock)
    (steps : List Step) :
    p.history (.initial .jane clock) (.queueCode "c" :: .request p.loginRequest :: steps) =
      p.moment (.initial .jane clock) (.queueCode "c") ::
        p.moment ((ProviderState.initial .jane clock).queueCode "c") (.request p.loginRequest) ::
        p.history (sampleState false clock) steps := by
  have hqueued : (p.moment (.initial .jane clock) (.queueCode "c")).after =
      (ProviderState.initial .jane clock).queueCode "c" := rfl
  rw [history_cons, hqueued, history_cons, after_login hclient]

/-- A run in which it is begun and its code is redeemed. -/
theorem history_sample {p : Provider} (hclient : p.HasClient) (clock : Clock)
    (steps : List Step) :
    p.history (.initial .jane clock) (.queueCode "c" :: .request p.loginRequest ::
        .request (p.grantRequest .authorizationCode "c") :: steps) =
      p.moment (.initial .jane clock) (.queueCode "c") ::
        p.moment ((ProviderState.initial .jane clock).queueCode "c") (.request p.loginRequest) ::
        p.moment (sampleState false clock)
          (.request (p.grantRequest .authorizationCode "c")) ::
        p.history (sampleState true clock) steps := by
  rw [history_login hclient, history_cons, (grants_sample hclient clock).2]

end Provider

end OpenIdProvider
