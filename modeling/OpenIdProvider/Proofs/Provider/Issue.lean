/-
  What a token request comes to. It is refused without any change to the store, or it is granted
  for a session, and then answered with what comes of making the tokens of that session.
  `TokenAnswer` lists these cases, and `respond_token` says that they are all.
-/
import OpenIdProvider.Proofs.Provider.Access
import OpenIdProvider.Proofs.Provider.CodeUse

namespace OpenIdProvider

open Http

/-- The parameter that a grant is asked for with. -/
def GrantType.param : GrantType → String
  | authorizationCode => "code"
  | refreshToken => "refresh_token"

namespace Provider

/-- A token request with valid credentials that shows a code or a refresh token. -/
def Presents (p : Provider) (r : Request) (grant : GrantType) (shown : String) : Prop :=
  shown ≠ "" ∧ ∃ params, exchangeParams r = .ok params ∧ p.ValidCredentials params ∧
    params.get "grant_type" = grant.name ∧ params.get grant.param = shown

/-- A request presents no more than one code or token. -/
theorem Presents.unique {p : Provider} {r : Request} {grant grant' : GrantType}
    {shown shown' : String} (h : p.Presents r grant shown) (h' : p.Presents r grant' shown') :
    grant = grant' ∧ shown = shown' := by
  obtain ⟨-, params, hparams, -, hname, rfl⟩ := h
  obtain ⟨-, params', hparams', -, hname', rfl⟩ := h'
  rw [hparams] at hparams'
  cases hparams'
  obtain rfl : grant = grant' := by
    rw [hname] at hname'
    cases grant <;> cases grant' <;> first | rfl | exact absurd hname' (by decide)
  exact ⟨rfl, rfl⟩

/-- The answer that comes of making the tokens of a session. -/
def tokenAnswer (p : Provider) (session : Session) (grant : GrantType) (shown : String)
    (now : Instant) : Option Response :=
  (outcomeOfMint (p.issue session grant shown now)).respond
    (fun tokens => Reply.json tokens.toJson) Reply.error

/-- What a request to the token endpoint comes to: its answer and the state after it. -/
inductive TokenAnswer (p : Provider) (r : Request) (s : ProviderState) :
    Option Response × ProviderState → Prop
  /-- A code is spent. -/
  | redeemed {code : String} {session : Session} {store : SessionStore}
      (reached : reached? r s = some .token) (presents : p.Presents r .authorizationCode code)
      (grant : s.store.grant code = .ok (session, store)) :
      TokenAnswer p r s
        (p.tokenAnswer session .authorizationCode "" s.clock.now, { s with store := store })
  /-- A token opens its session. -/
  | resumed {token : String} {session : Session} (reached : reached? r s = some .token)
      (presents : p.Presents r .refreshToken token) (admits : p.Admits s token session) :
      TokenAnswer p r s (p.tokenAnswer session .refreshToken token s.clock.now, s)
  /-- Nothing is granted. -/
  | refused {response : Response}
      (response_eq : response = notFound ∨ response = methodNotAllowed ∨
        ∃ e, response = Reply.error e) :
      TokenAnswer p r s
        (some (finish (some .token) r.method response), { s with errors := s.errors.pop.2 })

theorem method_of_reached {r : Request} {s : ProviderState} (h : reached? r s = some .token) :
    r.method = .post := by
  have hserves := (reached?_eq_some_iff.1 h).2.2
  cases hmethod : r.method <;> rw [hmethod] at hserves <;> first | rfl | cases hserves

/-- Nothing is added to what the token endpoint answers. -/
theorem finish_of_reached {r : Request} {s : ProviderState} (h : reached? r s = some .token)
    (response : Response) : finish (some .token) r.method response = response := by
  rw [method_of_reached h]
  rfl

theorem respond_of_reached_token {p : Provider} {r : Request} {s : ProviderState} {params : Params}
    (h : reached? r s = some .token) (hparams : exchangeParams r = .ok params) :
    p.respond r s =
      ((p.exchange params s).1.respond (fun tokens => Reply.json tokens.toJson) Reply.error,
        (p.exchange params s).2) := by
  rw [respond_of_reached h]
  simp only [serve, hparams]
  cases (p.exchange params s).1 with
  | answered tokens => exact Prod.ext (congrArg some (finish_of_reached h _)) rfl
  | rejected e => exact Prod.ext (congrArg some (finish_of_reached h _)) rfl
  | aborted => rfl

theorem respond_of_redeemed {p : Provider} {r : Request} {s : ProviderState} {code : String}
    {session : Session} {store : SessionStore} (h : reached? r s = some .token)
    (hcode : p.Presents r .authorizationCode code)
    (hgrant : s.store.grant code = .ok (session, store)) :
    p.respond r s =
      (p.tokenAnswer session .authorizationCode "" s.clock.now, { s with store := store }) := by
  obtain ⟨hne, params, hparams, hvalid, hname, rfl⟩ := hcode
  rw [respond_of_reached_token h hparams, exchange_of_granted hvalid hname hne hgrant]
  rfl

theorem exchange_of_token {p : Provider} {params : Params} (hvalid : p.ValidCredentials params)
    (hname : params.get "grant_type" = "refresh_token") (s : ProviderState) :
    p.exchange params s =
      (match p.resume params s with
        | .error e => .rejected e
        | .ok session =>
          outcomeOfMint (p.issue session .refreshToken (params.get "refresh_token") s.clock.now),
        s) := by
  have hrequested : p.requestedGrant params = .ok .refreshToken :=
    requestedGrant_eq_ok_iff.2 ⟨hvalid, hname⟩
  simp only [exchange, hrequested, grantedSession]
  cases p.resume params s with
  | error e => rfl
  | ok session => rfl

theorem respond_of_resumed {p : Provider} {r : Request} {s : ProviderState} {token : String}
    {session : Session} (h : reached? r s = some .token)
    (htoken : p.Presents r .refreshToken token) (hadmits : p.Admits s token session) :
    p.respond r s = (p.tokenAnswer session .refreshToken token s.clock.now, s) := by
  obtain ⟨hne, params, hparams, hvalid, hname, rfl⟩ := htoken
  have hresume : p.resume params s = .ok session := resume_eq_ok_iff.2 ⟨hne, hname, hadmits⟩
  rw [respond_of_reached_token h hparams, exchange_of_token hvalid hname, hresume]
  rfl

/-- A request for a session that is not granted one is refused. -/
theorem exchange_of_not_granted {p : Provider} {params : Params} {s : ProviderState}
    (hcode : p.ValidCredentials params → params.get "grant_type" = "authorization_code" →
      params.get "code" ≠ "" → ∃ e, s.store.grant (params.get "code") = .error e)
    (htoken : p.ValidCredentials params → params.get "grant_type" = "refresh_token" →
      params.get "refresh_token" ≠ "" →
      ∀ session, ¬ p.Admits s (params.get "refresh_token") session) :
    ∃ e, p.exchange params s = (.rejected e, s) := by
  unfold exchange
  split
  · rename_i e _
    exact ⟨e, rfl⟩
  · rename_i grant hrequested
    obtain ⟨hvalid, hname⟩ := requestedGrant_eq_ok_iff.1 hrequested
    cases grant with
    | authorizationCode =>
      cases hredeem : redeem params s with
      | error e =>
        refine ⟨e, ?_⟩
        simp only [grantedSession, hredeem]
      | ok granted =>
        obtain ⟨hne, -, store, hgrant, -⟩ := redeem_eq_ok_iff.1 hredeem
        obtain ⟨e, he⟩ := hcode hvalid hname hne
        rw [he] at hgrant
        cases hgrant
    | refreshToken =>
      cases hresume : p.resume params s with
      | error e =>
        refine ⟨e, ?_⟩
        simp only [grantedSession, hresume]
        rfl
      | ok session =>
        obtain ⟨hne, -, hadmits⟩ := resume_eq_ok_iff.1 hresume
        exact absurd hadmits (htoken hvalid hname hne session)

/-- A request that reaches the token endpoint and is not granted a session is refused. -/
theorem serve_token_refused {p : Provider} {r : Request} {s : ProviderState}
    (hcode : ∀ code, p.Presents r .authorizationCode code → ∃ e, s.store.grant code = .error e)
    (htoken : ∀ token, p.Presents r .refreshToken token → ∀ session, ¬ p.Admits s token session) :
    ∃ e, p.serve .token r s = (some (Reply.error e), s) := by
  simp only [serve]
  split
  · rename_i e _
    exact ⟨e, rfl⟩
  · rename_i params hparams
    obtain ⟨e, he⟩ := exchange_of_not_granted
      (fun hvalid hname hne => hcode _ ⟨hne, params, hparams, hvalid, hname, rfl⟩)
      (fun hvalid hname hne => htoken _ ⟨hne, params, hparams, hvalid, hname, rfl⟩)
    refine ⟨e, ?_⟩
    simp only [he]
    rfl

/-- A token request is granted for a session or refused. -/
theorem respond_token {p : Provider} {r : Request} (s : ProviderState)
    (hpath : Endpoint.ofPath? r.path = some .token) : TokenAnswer p r s (p.respond r s) := by
  cases hreached : reached? r s with
  | none =>
    obtain ⟨response, hresponse, heq⟩ := respond_of_not_reached (p := p) hreached
    rw [heq, hpath]
    exact .refused hresponse
  | some e =>
    obtain rfl : e = .token :=
      Option.some.inj ((reached?_eq_some_iff.1 hreached).2.1.symm.trans hpath)
    by_cases hcode : ∃ code session store, p.Presents r .authorizationCode code ∧
        s.store.grant code = .ok (session, store)
    · obtain ⟨code, session, store, hpresents, hgrant⟩ := hcode
      rw [respond_of_redeemed hreached hpresents hgrant]
      exact .redeemed hreached hpresents hgrant
    by_cases htoken : ∃ token session, p.Presents r .refreshToken token ∧
        p.Admits s token session
    · obtain ⟨token, session, hpresents, hadmits⟩ := htoken
      rw [respond_of_resumed hreached hpresents hadmits]
      exact .resumed hreached hpresents hadmits
    have hrefused : ∀ code, p.Presents r .authorizationCode code →
        ∃ e, s.store.grant code = .error e := by
      intro code hpresents
      cases hgrant : s.store.grant code with
      | error e => exact ⟨e, rfl⟩
      | ok granted => exact absurd ⟨code, granted.1, granted.2, hpresents, hgrant⟩ hcode
    obtain ⟨e, he⟩ := serve_token_refused hrefused
      fun token hpresents session hadmits => htoken ⟨token, session, hpresents, hadmits⟩
    have hanswer := TokenAnswer.refused (p := p) (r := r) (s := s) (.inr (.inr ⟨e, rfl⟩))
    rw [pop_errors_of_reached hreached] at hanswer
    rw [respond_of_reached hreached, he]
    exact hanswer

end Provider

end OpenIdProvider
