/-
  All answers about one session agree. From the request that begins a session until another one is
  begun under its identifier, the session is what is stored there, but for having been granted. So
  what is signed for it then tells of the user that was bound to the request, and has the scopes
  and the nonce of the request. A refresh grant gives back the text that it was shown, and that need
  not have been signed for the session: whoever has the key can sign a text that names it.
-/
import OpenIdProvider.Proofs.Provider.Lifetime
import OpenIdProvider.Proofs.Provider.Refusal

namespace OpenIdProvider

open Http

/-! ## One session at later moments -/

namespace Moment

/-- A moment at which nothing but the session is stored under its identifier. -/
def Holds (m : Moment) (session : Session) : Prop :=
  ∀ stored, m.before.store.get? session.id = some stored → session.Kept stored

theorem Holds.kept_of_grants {p : Provider} {m : Moment} {session : Session} (h : m.Holds session)
    {grant : GrantType} {shown : String} {granted : Session}
    (hgrants : m.Grants p grant shown granted) (hid : granted.id = session.id) :
    session.Kept granted := by
  obtain ⟨stored, hstored, hkept⟩ := hgrants.kept
  rw [hid] at hstored
  exact (h stored hstored).trans hkept

end Moment

/-- The claims of tokens do not depend on whether the session has been granted. -/
theorem TokenKind.claims_of_kept {old new : Session} (h : old.Kept new) (kind : TokenKind)
    (settings : Settings) (now finish : Instant) :
    kind.claims new settings now finish = kind.claims old settings now finish := by
  rw [h.same]
  cases kind <;> rfl

/-- What is signed for the session carries its claims. -/
theorem Moment.Holds.carries_of_signs {p : Provider} (hkeys : p.keys.ReadsBack) {m : Moment}
    {session : Session} (h : m.Holds session) {made : Session} {kind : TokenKind} {token : String}
    (hsigns : m.Signs p made kind token) (hid : made.id = session.id) :
    ∃ finish, p.keys.Carries token (kind.claims session p.settings m.reading finish) := by
  obtain ⟨grant, shown, -, hgrants, -⟩ := hsigns.grants
  obtain ⟨_, -, hcarries⟩ := TokenKind.carries_of_mint hkeys hsigns.mint
  rw [TokenKind.claims_of_kept (h.kept_of_grants hgrants hid)] at hcarries
  exact ⟨_, hcarries⟩

namespace Provider

/-- Where no other session has been begun under its identifier since, a session is all that is
stored there. -/
theorem holds_later {p : Provider} {s : ProviderState} {steps : List Step}
    {front middle rest : List Moment} {m n : Moment}
    (h : p.history s steps = front ++ m :: (middle ++ n :: rest)) {session : Session}
    (hbegins : m.Begins p session) (hmiddle : ∀ k ∈ middle, ¬ p.BeginsCode session.id k) :
    n.Holds session := by
  intro stored hstored
  obtain ⟨steps', hsteps, hrun⟩ := between h
  have hbegun : m.after.store.get? session.id = some session :=
    (hbegins.get? session.id).trans (if_pos rfl)
  rw [← hsteps] at hmiddle
  obtain ⟨new, hnew, hkept⟩ := kept_run hmiddle hbegun
  rw [hrun, hstored] at hnew
  exact Option.some.inj hnew ▸ hkept

/-- From the moment that begins it until another session is begun under its identifier, a session
is all that is stored there. -/
theorem holds_of_begins {p : Provider} {s : ProviderState} {steps : List Step}
    {front back : List Moment} {m : Moment} (h : p.history s steps = front ++ m :: back)
    {session : Session} (hbegins : m.Begins p session)
    (hlast : ∀ n ∈ back, ¬ p.BeginsCode session.id n) {n : Moment} (hn : n ∈ back) :
    n.Holds session := by
  obtain ⟨middle, rest, rfl⟩ := List.append_of_mem hn
  exact holds_later h hbegins fun k hk => hlast k (List.mem_append_left _ hk)

/-! ## What tokens say -/

/-- A token that was signed for claims that name a session, its user, the issuer and the client. -/
def SpeaksFor (p : Provider) (session : Session) (token : String) : Prop :=
  ∃ claims, p.keys.Carries token claims ∧ session.Claimed p.settings claims

/-- An ID token of a session: it has the nonce of the session, and tells of its user what the
scopes of the session release. -/
def Identifies (p : Provider) (session : Session) (token : String) : Prop :=
  ∃ claims, p.keys.Carries token claims ∧ session.Claimed p.settings claims ∧
    claims.get? "nonce" = session.nonce.map Json.string ∧
    ∀ name, name ∉ Session.frameNames →
      claims.get? name = (session.user.scopedClaims session.scopes).get? name

/-- A text that is read as a token of an identifier, if it verifies. -/
def ReadsAs (p : Provider) (id token : String) : Prop :=
  ∀ claims : Members, p.keys.verify token = .ok (.object claims) →
    claims.get? "jti" = some (.string id)

theorem SpeaksFor.readsAs {p : Provider} {session : Session} {token : String}
    (h : p.SpeaksFor session token) : p.ReadsAs session.id token := by
  obtain ⟨claims, hcarries, hclaimed⟩ := h
  intro claims' hverify
  obtain rfl : claims' = claims := Json.object.inj (hcarries.read _ hverify)
  exact hclaimed.jti

theorem speaksFor_of_signs {p : Provider} (hkeys : p.keys.ReadsBack) {m : Moment}
    {session made : Session} (h : m.Holds session) {kind : TokenKind} {token : String}
    (hsigns : m.Signs p made kind token) (hid : made.id = session.id) :
    p.SpeaksFor session token := by
  obtain ⟨finish, hcarries⟩ := h.carries_of_signs hkeys hsigns hid
  exact ⟨_, hcarries, kind.claimed session p.settings m.reading finish⟩

theorem identifies_of_signs {p : Provider} (hkeys : p.keys.ReadsBack) {m : Moment}
    {session made : Session} (h : m.Holds session) {token : String}
    (hsigns : m.Signs p made .identity token) (hid : made.id = session.id) :
    p.Identifies session token := by
  obtain ⟨finish, hcarries⟩ := h.carries_of_signs hkeys hsigns hid
  refine ⟨_, hcarries, session.claimed_identityClaims p.settings m.reading finish,
    session.identityClaims_nonce p.settings m.reading finish, fun name hname => ?_⟩
  exact session.identityClaims_scoped p.settings m.reading finish hname

end Provider

/-! ## The tokens of an answer -/

/-- The texts of all tokens of an answer. -/
def TokenResponse.texts (tokens : TokenResponse) : List String :=
  tokens.accessToken :: tokens.refreshToken :: tokens.idToken.toList

/-- A moment at which a grant for the session of an identifier is answered with tokens. -/
def Moment.Returns (p : Provider) (m : Moment) (id : String) (grant : GrantType) (shown : String)
    (tokens : TokenResponse) : Prop :=
  ∃ r granted, m.Answers r tokens ∧ m.Grants p grant shown granted ∧ granted.id = id

namespace Provider

/-- There is an ID token exactly when one is wanted. -/
theorem idToken_of_next {p : Provider} {session : Session} {now : Instant}
    {idToken : Option String} (h : p.nextIdToken session now = .ok idToken) :
    idToken.isSome = session.wantsIdToken ∧
      ∀ token ∈ idToken, session.wantsIdToken = true ∧
        session.idToken p.settings p.keys now = .ok token := by
  unfold nextIdToken at h
  split at h
  · rename_i hwanted
    obtain ⟨token, htoken, rfl⟩ := map_eq_ok.1 h
    refine ⟨hwanted.symm, fun other hother => ?_⟩
    obtain rfl := Option.mem_some.1 hother
    exact ⟨hwanted, htoken⟩
  · rename_i hunwanted
    cases h
    exact ⟨(Bool.not_eq_true _ ▸ hunwanted).symm, fun _ hother => nomatch hother⟩

/-- The tokens of the answer to a grant: each was signed for it, but for the refresh token of a
refresh grant, which is the one that was shown. -/
structure TokensOf (p : Provider) (m : Moment) (grant : GrantType) (shown : String)
    (granted : Session) (tokens : TokenResponse) : Prop where
  access : m.Signs p granted .access tokens.accessToken
  wanted : tokens.idToken.isSome = granted.wantsIdToken
  identity : ∀ token ∈ tokens.idToken, m.Signs p granted .identity token
  redeemed : grant = .authorizationCode → m.Signs p granted .refresh tokens.refreshToken
  resumed : grant = .refreshToken → tokens.refreshToken = shown

theorem tokensOf_of_answers {p : Provider} {s : ProviderState} {step : Step} {grant : GrantType}
    {shown : String} {granted : Session} {r : Request} {tokens : TokenResponse}
    (h : (p.moment s step).Grants p grant shown granted)
    (hanswers : (p.moment s step).Answers r tokens) :
    TokensOf p (p.moment s step) grant shown granted tokens := by
  have hanswer := h.answer_eq
  rw [hanswers.answer] at hanswer
  obtain ⟨hmade, hnext, hlast⟩ :=
    made_of_issue (issue_of_tokenAnswer (StepAnswer.response.inj hanswer).symm)
  obtain ⟨hwanted, hidToken⟩ := idToken_of_next hnext
  refine ⟨.access h hmade, hwanted, fun token htoken => ?_, ?_, ?_⟩
  · obtain ⟨hwants, htoken⟩ := hidToken token htoken
    exact .identity h hmade hwants htoken
  · intro hcode
    subst hcode
    exact .refresh h hmade hnext hlast
  · intro htoken
    subst htoken
    exact (Except.ok.inj hlast).symm

theorem tokensOf_of_returns {p : Provider} {s : ProviderState} {step : Step} {id : String}
    {grant : GrantType} {shown : String} {tokens : TokenResponse}
    (h : (p.moment s step).Returns p id grant shown tokens) :
    ∃ granted, granted.id = id ∧ (p.moment s step).Grants p grant shown granted ∧
      TokensOf p (p.moment s step) grant shown granted tokens := by
  obtain ⟨r, granted, hanswers, hgrants, hid⟩ := h
  exact ⟨granted, hid, hgrants, tokensOf_of_answers hgrants hanswers⟩

/-- A token that got more tokens for a session names it. -/
theorem jti_of_resumed {p : Provider} {m : Moment} {shown : String} {granted : Session}
    (h : m.Grants p .refreshToken shown granted) :
    ∃ claims : Members, p.keys.verify shown = .ok (.object claims) ∧
      claims.get? "jti" = some (.string granted.id) := by
  obtain ⟨-, claims, hverify, -, id, hjti, hstored⟩ := h.shows
  rw [← SessionStore.id_of_get? hstored] at hjti
  exact ⟨claims, hverify, hjti⟩

/-- Every token of an answer for a session is read as one of its identifier. -/
theorem readsAs_of_texts {p : Provider} (hkeys : p.keys.ReadsBack) {m : Moment}
    {session : Session} (h : m.Holds session) {grant : GrantType} {shown : String}
    {granted : Session} {tokens : TokenResponse} (hgrants : m.Grants p grant shown granted)
    (hid : granted.id = session.id) (htokens : TokensOf p m grant shown granted tokens)
    {token : String} (htoken : token ∈ tokens.texts) : p.ReadsAs session.id token := by
  rcases List.mem_cons.1 htoken with rfl | htoken
  · exact (speaksFor_of_signs hkeys h htokens.access hid).readsAs
  rcases List.mem_cons.1 htoken with rfl | htoken
  · cases grant with
    | authorizationCode =>
      exact (speaksFor_of_signs hkeys h (htokens.redeemed rfl) hid).readsAs
    | refreshToken =>
      obtain ⟨claims, hverify, hjti⟩ := jti_of_resumed hgrants
      rw [htokens.resumed rfl]
      intro claims' hverify'
      rw [Json.object.inj (Except.ok.inj (hverify'.symm.trans hverify)), ← hid]
      exact hjti
  · have hidToken := htokens.identity token (Option.mem_toList.1 htoken)
    exact (speaksFor_of_signs hkeys h hidToken hid).readsAs

/-! ## What is told of users -/

/-- A bearer token of a session is told of its user what its scopes release. -/
theorem response_of_readsAs {p : Provider} {s : ProviderState} {session : Session} {r : Request}
    (h : (p.moment s (.request r)).Holds session) (hreached : reached? r s = some .userinfo)
    {token : String} (hshown : bearerToken? r.headers = some token)
    (hreads : p.ReadsAs session.id token) {response : Response}
    (hanswer : (p.moment s (.request r)).answer = .response (some response))
    (hstatus : response.status = 200) :
    response = finish (some .userinfo) r.method
      (Reply.json (.object (session.user.scopedClaims session.scopes))) := by
  obtain ⟨stored, hadmits⟩ := admits_of_accepts (.bearer rfl hreached hshown hanswer hstatus)
  have hkept : session.Kept stored := by
    obtain ⟨claims, hverify, -, id, hjti, hstored⟩ := hadmits
    rw [hreads claims hverify] at hjti
    cases hjti
    exact h stored hstored
  have huserinfo := userinfo_eq_ok_iff.2 ⟨token, stored, hshown, hadmits, rfl⟩
  have hrespond : (p.respond r s).1 = some response := StepAnswer.response.inj hanswer
  rw [respond_userinfo p hreached, huserinfo, hkept.same] at hrespond
  exact (Option.some.inj hrespond).symm

/-! ## The answers about a session -/

/-- The parameters of the request that begins a session are what the session is made of. -/
theorem exists_params_of_begins {p : Provider} {s : ProviderState} {step : Step}
    {session : Session} (h : (p.moment s step).Begins p session) :
    ∃ r params, step = .request r ∧ Params.ofRequest r.headers r.query r.body = .ok params ∧
      session =
        (p.beginSession (Scope.parse (params.get "scope")) (params.optional "nonce") s).1 := by
  obtain ⟨r, -, -, hstep, -⟩ := id h
  obtain rfl : step = .request r := hstep
  obtain ⟨hreached, haccepted⟩ := passes_of_begins h
  obtain ⟨⟨params, scopes⟩, haccepted⟩ := Option.isSome_iff_exists.1 haccepted
  obtain ⟨hparams, hscopes⟩ := accepted?_eq_some_iff.1 haccepted
  obtain ⟨-, -, -, -, rfl⟩ := requestedScopes_eq_ok_iff.1 hscopes
  exact ⟨r, params, rfl, hparams, h.unique (begins_of_accepted hreached haccepted).1⟩

/-- What is known of a session from the moment that begins it and those after it. It is made of
the parameters of its request and of the next user. All access tokens of its answers, all their ID
tokens, and the refresh token that is answered to its code say the same of it; there is an ID token
in all answers or in none. A refresh grant gives back the text that it was shown, which names the
session; everything that was signed for the session since it began speaks for it. Whichever of the
tokens of the answers is shown to the endpoint that tells of users, what is told is what the scopes
of the session release of its user. -/
structure AnswersAgree (p : Provider) (m : Moment) (session : Session) (back : List Moment) :
    Prop where
  origin : ∃ r params, m.step = .request r ∧
    Params.ofRequest r.headers r.query r.body = .ok params ∧
    session.user = m.before.users.next.1 ∧
    session.scopes = Scope.parse (params.get "scope") ∧ session.nonce = params.optional "nonce"
  returned : ∀ n ∈ back, ∀ grant shown tokens, n.Returns p session.id grant shown tokens →
    p.SpeaksFor session tokens.accessToken ∧ tokens.idToken.isSome = session.wantsIdToken ∧
      ∀ token ∈ tokens.idToken, p.Identifies session token
  redeemed : ∀ n ∈ back, ∀ code tokens, n.Returns p session.id .authorizationCode code tokens →
    code = session.id ∧ p.SpeaksFor session tokens.refreshToken
  resumed : ∀ n ∈ back, ∀ shown tokens, n.Returns p session.id .refreshToken shown tokens →
    tokens.refreshToken = shown ∧ ∃ claims : Members,
      p.keys.verify shown = .ok (.object claims) ∧ claims.get? "jti" = some (.string session.id)
  signed : ∀ n ∈ back, ∀ made kind token, n.Signs p made kind token → made.id = session.id →
    p.SpeaksFor session token
  told : ∀ n ∈ back, ∀ grant shown tokens, n.Returns p session.id grant shown tokens →
    ∀ token ∈ tokens.texts, ∀ k ∈ back, ∀ r response, k.step = .request r →
    reached? r k.before = some .userinfo → bearerToken? r.headers = some token →
    k.answer = .response (some response) → response.status = 200 →
    response = finish (some .userinfo) r.method
      (Reply.json (.object (session.user.scopedClaims session.scopes)))

/-- In every run, the answers about a session agree up to the end of the run if no other session
is begun under its identifier. -/
theorem answersAgree_of_begins {p : Provider} (hkeys : p.keys.ReadsBack) {s : ProviderState}
    {steps : List Step} {front back : List Moment} {m : Moment}
    (h : p.history s steps = front ++ m :: back) {session : Session} (hbegins : m.Begins p session)
    (hlast : ∀ n ∈ back, ¬ p.BeginsCode session.id n) : AnswersAgree p m session back := by
  -- The run is used up here: what follows is about one later moment at a time, and of two of them
  -- only that both hold the session.
  have hholds : ∀ n ∈ back, n.Holds session := fun n hn => holds_of_begins h hbegins hlast hn
  have hmoment : ∀ n ∈ back, n = p.moment n.before n.step := by
    intro n hn
    have hmem : n ∈ p.history s steps := by
      rw [h]
      exact List.mem_append_right _ (List.mem_cons_of_mem _ hn)
    exact eq_moment_of_mem hmem
  have htokens : ∀ n ∈ back, ∀ grant shown tokens, n.Returns p session.id grant shown tokens →
      ∃ granted, granted.id = session.id ∧ n.Grants p grant shown granted ∧
        TokensOf p n grant shown granted tokens := by
    intro n hn grant shown tokens hreturns
    rw [hmoment n hn] at hreturns ⊢
    exact tokensOf_of_returns hreturns
  refine ⟨?_, ?_, ?_, ?_, ?_, ?_⟩
  · rw [eq_moment h] at hbegins ⊢
    obtain ⟨r, params, hstep, hparams, rfl⟩ := exists_params_of_begins hbegins
    exact ⟨r, params, hstep, hparams, rfl, rfl, rfl⟩
  · intro n hn grant shown tokens hreturns
    obtain ⟨granted, hid, hgrants, hof⟩ := htokens n hn grant shown tokens hreturns
    have hkept := (hholds n hn).kept_of_grants hgrants hid
    refine ⟨speaksFor_of_signs hkeys (hholds n hn) hof.access hid, ?_, fun token htoken => ?_⟩
    · rw [hof.wanted, hkept.same]
      rfl
    · exact identifies_of_signs hkeys (hholds n hn) (hof.identity token htoken) hid
  · intro n hn code tokens hreturns
    obtain ⟨granted, hid, hgrants, hof⟩ := htokens n hn _ code tokens hreturns
    exact ⟨hgrants.id_of_code.symm.trans hid,
      speaksFor_of_signs hkeys (hholds n hn) (hof.redeemed rfl) hid⟩
  · intro n hn shown tokens hreturns
    obtain ⟨granted, hid, hgrants, hof⟩ := htokens n hn _ shown tokens hreturns
    exact ⟨hof.resumed rfl, hid ▸ jti_of_resumed hgrants⟩
  · intro n hn made kind token hsigns hid
    exact speaksFor_of_signs hkeys (hholds n hn) hsigns hid
  · intro n hn grant shown tokens hreturns token htoken k hk r response hstep hreached hshown
      hanswer hstatus
    obtain ⟨granted, hid, hgrants, hof⟩ := htokens n hn grant shown tokens hreturns
    have hreads := readsAs_of_texts hkeys (hholds n hn) hgrants hid hof htoken
    have hsame := hmoment k hk
    rw [hstep] at hsame
    rw [hsame] at hanswer
    exact response_of_readsAs (hsame ▸ hholds k hk) hreached hshown hreads hanswer hstatus

/-- The moment at which the sample session begins. -/
def sampleLogin (p : Provider) : Moment :=
  p.moment ((ProviderState.initial .jane 0).queueCode "c") (.request p.loginRequest)

/-- After it the code is redeemed, a token is shown for more tokens, and one to be told of the
user. -/
def sampleLater (p : Provider) (shown bearer : String) : List Moment :=
  [p.moment (sampleState false 0) (.request (p.grantRequest .authorizationCode "c")),
    p.moment (sampleState true 0) (.request (p.grantRequest .refreshToken shown)),
    p.moment (sampleState true 0) (.request (bearerRequest bearer))]

theorem history_sampleLater {p : Provider} (hclient : p.HasClient) {shown : String}
    (h : (p.moment (sampleState true 0) (.request (p.grantRequest .refreshToken shown))).after =
      sampleState true 0) (bearer : String) :
    p.history (.initial .jane 0)
        [.queueCode "c", .request p.loginRequest, .request (p.grantRequest .authorizationCode "c"),
          .request (p.grantRequest .refreshToken shown), .request (bearerRequest bearer)] =
      [p.moment (.initial .jane 0) (.queueCode "c")] ++
        p.sampleLogin :: p.sampleLater shown bearer := by
  rw [history_sample hclient, history_cons p (sampleState true 0), h]
  rfl

theorem begins_sampleLogin {p : Provider} (hclient : p.HasClient) :
    p.sampleLogin.Begins p (sampleSession false) := by
  refine ⟨p.loginRequest, ["openid"], none, rfl, rfl, ?_⟩
  rw [sampleLogin, after_login hclient]
  rfl

/-- A request to another endpoint begins no session. -/
theorem not_beginsCode_request {p : Provider} {r : Request}
    (h : Endpoint.ofPath? r.path ≠ some .authorization) (s : ProviderState) (id : String) :
    ¬ p.BeginsCode id (p.moment s (.request r)) := by
  rintro ⟨session, hbegins, -⟩
  refine Moment.not_begins_of_path (fun r' hstep => ?_) session hbegins
  cases hstep
  exact h

theorem not_beginsCode_sampleLater (p : Provider) (shown bearer id : String) :
    ∀ n ∈ p.sampleLater shown bearer, ¬ p.BeginsCode id n := by
  have htoken : Endpoint.ofPath? "/oidc/token" ≠ some .authorization := by decide
  have huserinfo : Endpoint.ofPath? "/oidc/userinfo" ≠ some .authorization := by decide
  simp only [sampleLater, List.forall_mem_cons]
  exact ⟨not_beginsCode_request htoken _ id, not_beginsCode_request htoken _ id,
    not_beginsCode_request huserinfo _ id, List.forall_mem_nil _⟩

/-- The refresh token of the sample session gets more tokens, and the new access token is told of
the user. -/
theorem signingSample_answersAgree :
    signingSample.keys.ReadsBack ∧ ∃ first second : TokenResponse,
      signingSample.history (.initial .jane 0)
          [.queueCode "c", .request signingSample.loginRequest,
            .request (signingSample.grantRequest .authorizationCode "c"),
            .request (signingSample.grantRequest .refreshToken first.refreshToken),
            .request (bearerRequest second.accessToken)] =
        [signingSample.moment (.initial .jane 0) (.queueCode "c")] ++ signingSample.sampleLogin ::
          signingSample.sampleLater first.refreshToken second.accessToken ∧
      signingSample.sampleLogin.Begins signingSample (sampleSession false) ∧
      (∀ n ∈ signingSample.sampleLater first.refreshToken second.accessToken,
        ¬ signingSample.BeginsCode "c" n) ∧
      (∃ n ∈ signingSample.sampleLater first.refreshToken second.accessToken,
        n.Returns signingSample "c" .authorizationCode "c" first) ∧
      (∃ n ∈ signingSample.sampleLater first.refreshToken second.accessToken,
        n.Returns signingSample "c" .refreshToken first.refreshToken second) ∧
      AnswersAgree signingSample signingSample.sampleLogin (sampleSession false)
        (signingSample.sampleLater first.refreshToken second.accessToken) ∧
      (signingSample.respond (bearerRequest second.accessToken) (sampleState true 0)).1 =
        some (Reply.json (.object (User.jane.scopedClaims ["openid"]))) := by
  have hclient := hasClient_signingSample
  have hkeys := faithful_signingSample
  obtain ⟨first, hissue⟩ := exists_issue_signingSample
  obtain ⟨-, -, hrefresh⟩ := made_of_issue hissue
  obtain ⟨-, hresumes, hafter, second, hanswer⟩ :=
    @resumes_sample _ hclient hkeys .refresh _ _ hrefresh 0 (by decide) (by decide)
  have hmade := (tokensOf_of_answers hresumes ⟨rfl, rfl, hanswer⟩).access.mint
  have hvisible : ∀ c ∈ second.accessToken.toList, 0x20 ≤ c.toNat ∧ c.toNat < 0x7F := by
    obtain ⟨_, -, hsign⟩ := Session.mint_eq_ok_iff.1 hmade
    exact KeyAuthority.visible_ofRsa hsign
  have hholds : Instant.seconds 0 ≤ Instant.lastSecond 0 60 := by decide
  have htold := (userinfo_of_mint hkeys hmade (s := sampleState true 0) rfl
    (reached?_bearerRequest _ rfl) (bearerToken?_bearerRequest hvisible)).1 hholds
  have hrun := history_sampleLater hclient hafter second.accessToken
  have hbegins := begins_sampleLogin hclient
  have hlast := not_beginsCode_sampleLater signingSample first.refreshToken second.accessToken "c"
  exact ⟨hkeys.readsBack, first, second, hrun, hbegins, hlast,
    ⟨_, List.mem_cons_self, _, _, answers_sample hclient hissue,
      (grants_sample hclient 0).1, rfl⟩,
    ⟨_, List.mem_cons_of_mem _ List.mem_cons_self, _, _, ⟨rfl, rfl, hanswer⟩, hresumes, rfl⟩,
    answersAgree_of_begins hkeys.readsBack hrun hbegins hlast, htold⟩

/-- Claims that name the sample session for another client of another issuer. -/
def foreignClaims : Members :=
  [("aud", .string "another"), ("exp", .ofInt 60), ("iss", .string "http://elsewhere.test/oidc"),
    ("jti", .string "c")]

theorem legible_foreignClaims : Token.Claims.Legible foreignClaims := by
  have hsorted : foreignClaims.Sorted := by
    unfold Members.Sorted foreignClaims
    decide
  refine Token.Claims.legible_of_members hsorted ?_
  simp only [foreignClaims, List.forall_mem_cons]
  exact ⟨Token.Claims.legibleMember_string _ _, Token.Claims.legibleMember_int _ (by decide),
    Token.Claims.legibleMember_string _ _, Token.Claims.legibleMember_string _ _,
    List.forall_mem_nil _⟩

theorem expiry?_foreignClaims : expiry? foreignClaims = some 60 :=
  @expiry?_of_exp _ 60 rfl

/-- A text that is signed elsewhere with the key for these claims gets tokens for the sample
session, whose code has been redeemed, and comes back as their refresh token. -/
theorem returned_of_foreign :
    ∃ (token : String) (m n : Moment) (tokens : TokenResponse),
      signingSample.keys.sign (.object foreignClaims) = .ok token ∧
      signingSample.history (.initial .jane 0)
          [.queueCode "c", .request signingSample.loginRequest,
            .request (signingSample.grantRequest .authorizationCode "c"),
            .request (signingSample.grantRequest .refreshToken token)] =
        [signingSample.moment (.initial .jane 0) (.queueCode "c")] ++
          signingSample.sampleLogin :: [m, n] ∧
      signingSample.sampleLogin.Begins signingSample (sampleSession false) ∧
      (∀ k ∈ [m, n], ¬ signingSample.BeginsCode "c" k) ∧
      n.Returns signingSample "c" .refreshToken token tokens ∧
      signingSample.keys.verify tokens.refreshToken = .ok (.object foreignClaims) ∧
      foreignClaims.get? "sub" ≠ some (.string (sampleSession false).user.subject) ∧
      foreignClaims.get? "iss" ≠ some (.string signingSample.settings.issuer) ∧
      foreignClaims.get? "aud" ≠ some (.string signingSample.settings.clientId) := by
  have hclient := hasClient_signingSample
  obtain ⟨token, hsign, hne, hverify⟩ := faithful_signingSample _ legible_foreignClaims
  have hadmits : signingSample.Admits (sampleState true 0) token (sampleSession true) :=
    ⟨foreignClaims, hverify, ⟨60, expiry?_foreignClaims, by decide⟩, "c", rfl, rfl⟩
  have hgrants : (signingSample.moment (sampleState true 0)
      (.request (signingSample.grantRequest .refreshToken token))).Grants signingSample
        .refreshToken token (sampleSession true) :=
    .resumes rfl (reached?_grantRequest signingSample .refreshToken token rfl)
      (presents_grantRequest hclient .refreshToken hne) hadmits
  obtain ⟨tokens, hissue⟩ : ∃ tokens, signingSample.issue (sampleSession true) .refreshToken token
      (sampleState true 0).clock.now = .ok tokens :=
    exists_issue faithful_signingSample _ _ _ (by decide) fun hcode => absurd hcode (by decide)
  have hshown : token = tokens.refreshToken := Except.ok.inj (made_of_issue hissue).2.2
  have hanswer : (signingSample.moment (sampleState true 0)
      (.request (signingSample.grantRequest .refreshToken token))).Answers
        (signingSample.grantRequest .refreshToken token) tokens := by
    refine ⟨rfl, rfl, hgrants.answer_eq.trans ?_⟩
    rw [tokenAnswer, hissue]
    rfl
  have hrun := history_sample hclient 0
    [.request (signingSample.grantRequest .refreshToken token)]
  have hpath : Endpoint.ofPath? "/oidc/token" ≠ some .authorization := by decide
  have hnone : foreignClaims.get? "sub" = none := rfl
  have hother {a b : String} (h : a ≠ b) : some (Json.string a) ≠ some (.string b) :=
    fun heq => h (Json.string.inj (Option.some.inj heq))
  refine ⟨token, _, _, tokens, hsign, hrun, begins_sampleLogin hclient, ?_,
    ⟨_, _, hanswer, hgrants, rfl⟩, hshown ▸ hverify, hnone.trans_ne (Option.some_ne_none _).symm,
    hother (a := "http://elsewhere.test/oidc") (by decide), hother (a := "another") (by decide)⟩
  simp only [List.forall_mem_cons]
  exact ⟨not_beginsCode_request hpath _ _, not_beginsCode_request hpath _ _,
    List.forall_mem_nil _⟩

end Provider

end OpenIdProvider
