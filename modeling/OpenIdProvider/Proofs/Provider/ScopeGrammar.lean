/-
  What the text of the scope parameter decides. A request that is valid but for its scope begins a
  session exactly when the scope is a sequence of supported names, and is else refused with the
  first piece that is none. Whether the answers to the session have an ID token is settled by the
  first characters of the same text, in requests that come later.
-/
import OpenIdProvider.Proofs.Decision
import OpenIdProvider.Proofs.Provider.Agreement
import OpenIdProvider.Proofs.Scope

namespace OpenIdProvider.Provider

open Http Validation

/-! ## The request -/

/-- The parameters of an authorization request are valid but for what the scope says. -/
structure ValidButScope (p : Provider) (params : Params) : Prop where
  given : ∀ name ∈ ["scope", "state", "client_id", "response_type", "redirect_uri"],
    params.get name ≠ ""
  client : params.get "client_id" = p.settings.clientId
  responseType : params.get "response_type" = "code"

/-- A scope is asked for that is not supported. Up to there all pieces of the text are names. -/
structure BadPiece (scope piece : String) (before after : List String) : Prop where
  joined : " ".intercalate (before ++ piece :: after) = scope
  pieces : ∀ other ∈ before ++ piece :: after, ' ' ∉ other.toList
  names : ∀ name ∈ before, name ∈ ["openid", "email", "groups", "profile"]
  noName : piece ∉ ["openid", "email", "groups", "profile"]

theorem requestedScopes_of_sequence {p : Provider} {params : Params} (h : p.ValidButScope params)
    (hscope : Scope.Sequence (params.get "scope")) :
    p.requestedScopes params = .ok (Scope.parse (params.get "scope")) :=
  requestedScopes_eq_ok_iff.2 ⟨h.given,
    requireSupported_eq_ok_iff.2 (Scope.sequence_iff.1 hscope), h.client, h.responseType, rfl⟩

theorem sequence_of_requestedScopes {p : Provider} {params : Params} {scopes : List String}
    (h : p.requestedScopes params = .ok scopes) : Scope.Sequence (params.get "scope") :=
  Scope.sequence_iff.2 (requireSupported_eq_ok_iff.1 (requestedScopes_eq_ok_iff.1 h).2.1)

/-- A scope that is no sequence is refused for its first piece that is no name. -/
theorem requestedScopes_of_not_sequence {p : Provider} {params : Params}
    (h : p.ValidButScope params) (hscope : ¬ Scope.Sequence (params.get "scope")) :
    ∃ before piece after, BadPiece (params.get "scope") piece before after ∧
      p.requestedScopes params =
        .error ⟨.invalidScope, "Unsupported scope: " ++ piece, 400⟩ := by
  cases hcheck : requireSupported (Scope.parse (params.get "scope")) Scope.supported with
  | ok _ =>
    exact absurd (Scope.sequence_iff.2 (requireSupported_eq_ok_iff.1 hcheck)) hscope
  | error e =>
    obtain ⟨piece, ⟨before, after, hparse, hbefore, hpiece⟩, rfl⟩ :=
      firstUnsupported_of_error hcheck
    refine ⟨before, piece, after, ⟨?_, ?_, hbefore, hpiece⟩, ?_⟩
    · rw [← hparse, Scope.intercalate_parse]
    · rw [← hparse]
      exact fun other => Scope.space_not_mem_of_mem_parse
    · have hall : requireAll params authorizationParams = .ok () :=
        requireAll_eq_ok_iff.2 h.given
      simp only [requestedScopes, hall, hcheck]
      rfl

/-- A request whose parameters are refused is answered with the error and changes nothing. -/
theorem respond_of_requestedScopes_error {p : Provider} {r : Request} {s : ProviderState}
    (hreached : reached? r s = some .authorization) {params : Params}
    (hparams : Params.ofRequest r.headers r.query r.body = .ok params) {e : ProtocolError}
    (h : p.requestedScopes params = .error e) :
    p.respond r s = (some (finish (some .authorization) r.method (Reply.error e)), s) := by
  rw [respond_of_reached hreached]
  simp only [serve, hparams, authorize, h]
  rfl

/-- A session begins for a request that is valid but for its scope if the scope is a sequence. -/
theorem exists_begins_iff {p : Provider} {r : Request} {s : ProviderState}
    (hreached : reached? r s = some .authorization) {params : Params}
    (hparams : Params.ofRequest r.headers r.query r.body = .ok params)
    (hvalid : p.ValidButScope params) :
    (∃ session, (p.moment s (.request r)).Begins p session) ↔
      Scope.Sequence (params.get "scope") := by
  constructor
  · rintro ⟨session, hbegins⟩
    obtain ⟨-, haccepted⟩ := passes_of_begins hbegins
    obtain ⟨⟨params', scopes⟩, haccepted⟩ := Option.isSome_iff_exists.1 haccepted
    obtain ⟨hparams', hscopes⟩ := accepted?_eq_some_iff.1 haccepted
    obtain rfl : params' = params := Except.ok.inj (hparams'.symm.trans hparams)
    exact sequence_of_requestedScopes hscopes
  · intro hscope
    have haccepted := accepted?_eq_some_iff.2
      ⟨hparams, requestedScopes_of_sequence hvalid hscope⟩
    exact ⟨_, (begins_of_accepted hreached haccepted).1⟩

/-! ## The session and its tokens -/

/-- The scopes of a session are the pieces of the scope of its request. -/
theorem scopes_of_begins {p : Provider} {r : Request} {s : ProviderState} {params : Params}
    (hparams : Params.ofRequest r.headers r.query r.body = .ok params) {session : Session}
    (h : (p.moment s (.request r)).Begins p session) :
    session.scopes = Scope.parse (params.get "scope") := by
  obtain ⟨r', params', hstep, hparams', rfl⟩ := exists_params_of_begins h
  cases hstep
  obtain rfl : params' = params := Except.ok.inj (hparams'.symm.trans hparams)
  rfl

/-- There is an ID token in an answer for a session if that is what its scopes ask for. -/
theorem isSome_idToken_iff {p : Provider} {s : ProviderState} {step : Step} {session : Session}
    (hholds : (p.moment s step).Holds session) {grant : GrantType} {shown : String}
    {tokens : TokenResponse} (h : (p.moment s step).Returns p session.id grant shown tokens) :
    tokens.idToken.isSome = true ↔ session.scopes.head? = some Scope.openid := by
  obtain ⟨granted, hid, hgrants, hof⟩ := tokensOf_of_returns h
  rw [hof.wanted, (hholds.kept_of_grants hgrants hid).same]
  exact beq_iff_eq

/-- What the scope of an authorization request decides, when all else of the request is valid:
whether a session begins, what its scopes are, and whether there is an ID token in the answers for
it, which come later, up to the next session of its identifier. -/
structure ScopeDecides (p : Provider) (m : Moment) (r : Request) (scope : String)
    (back : List Moment) : Prop where
  passes_iff : (∃ session, m.Begins p session) ↔ Scope.Sequence scope
  refused : ¬ Scope.Sequence scope → m.after = m.before ∧
    ∃ before piece after, BadPiece scope piece before after ∧
      m.answer = .response (some (finish (some .authorization) r.method
        (Reply.error ⟨.invalidScope, "Unsupported scope: " ++ piece, 400⟩)))
  scopes : ∀ session, m.Begins p session → " ".intercalate session.scopes = scope
  idToken : ∀ session, m.Begins p session → ∀ middle n rest, back = middle ++ n :: rest →
    (∀ k ∈ middle, ¬ p.BeginsCode session.id k) →
    ∀ grant shown tokens, n.Returns p session.id grant shown tokens →
      (tokens.idToken.isSome = true ↔ scope = "openid" ∨ ∃ tail, scope = "openid " ++ tail)

/-- In every run, the scope of a request that is valid but for its scope decides all this. -/
theorem scopeDecides_of_validButScope {p : Provider} {s : ProviderState} {steps : List Step}
    {front back : List Moment} {m : Moment} (h : p.history s steps = front ++ m :: back)
    {r : Request} (hstep : m.step = .request r)
    (hreached : reached? r m.before = some .authorization) {params : Params}
    (hparams : Params.ofRequest r.headers r.query r.body = .ok params)
    (hvalid : p.ValidButScope params) : ScopeDecides p m r (params.get "scope") back := by
  have hm : m = p.moment m.before (.request r) := hstep ▸ eq_moment h
  have hscopes : ∀ session, m.Begins p session →
      session.scopes = Scope.parse (params.get "scope") := by
    intro session hbegins
    rw [hm] at hbegins
    exact scopes_of_begins hparams hbegins
  refine ⟨?_, fun hscope => ?_, fun session hbegins => ?_, ?_⟩
  · rw [hm]
    exact exists_begins_iff hreached hparams hvalid
  · obtain ⟨before, piece, after, hpiece, herror⟩ := requestedScopes_of_not_sequence hvalid hscope
    have hrespond := respond_of_requestedScopes_error hreached hparams herror
    rw [hm]
    refine ⟨?_, before, piece, after, hpiece, ?_⟩
    · rw [after_request, hrespond]
      rfl
    · rw [answer_request, hrespond]
  · rw [hscopes session hbegins, Scope.intercalate_parse]
  · rintro session hbegins middle n rest rfl hmiddle grant shown tokens hreturns
    have hholds := holds_later h hbegins hmiddle
    have hmem : n ∈ p.history s steps := by
      rw [h]
      simp
    rw [eq_moment_of_mem hmem] at hholds hreturns
    rw [isSome_idToken_iff hholds hreturns, hscopes session hbegins,
      Scope.head?_parse_eq_openid_iff]

theorem validButScope_loginForm {p : Provider} (hclient : p.HasClient) :
    p.ValidButScope ⟨p.loginForm⟩ := by
  refine ⟨?_, rfl, rfl⟩
  simp only [List.forall_mem_cons]
  exact ⟨(by decide : "openid" ≠ ""), (by decide : "s" ≠ ""), hclient.clientId,
    (by decide : "code" ≠ ""), (by decide : "/cb" ≠ ""), nofun⟩

/-- The scope of that session is a sequence, and its code is answered with tokens. -/
theorem signingSample_scopeDecides :
    signingSample.history (.initial .jane 0)
        [.queueCode "c", .request signingSample.loginRequest,
          .request (signingSample.grantRequest .authorizationCode "c")] =
      [signingSample.moment (.initial .jane 0) (.queueCode "c")] ++ signingSample.sampleLogin ::
        [signingSample.moment (sampleState false 0)
          (.request (signingSample.grantRequest .authorizationCode "c"))] ∧
    reached? signingSample.loginRequest signingSample.sampleLogin.before = some .authorization ∧
    Params.ofRequest signingSample.loginRequest.headers signingSample.loginRequest.query
      signingSample.loginRequest.body = .ok ⟨signingSample.loginForm⟩ ∧
    signingSample.ValidButScope ⟨signingSample.loginForm⟩ ∧
    signingSample.sampleLogin.Begins signingSample (sampleSession false) ∧
    (∃ tokens, (signingSample.moment (sampleState false 0)
      (.request (signingSample.grantRequest .authorizationCode "c"))).Returns signingSample "c"
        .authorizationCode "c" tokens) ∧
    ScopeDecides signingSample signingSample.sampleLogin signingSample.loginRequest "openid"
      [signingSample.moment (sampleState false 0)
        (.request (signingSample.grantRequest .authorizationCode "c"))] := by
  have hclient := hasClient_signingSample
  have hrun := history_sample hclient 0 []
  have hreached : reached? signingSample.loginRequest signingSample.sampleLogin.before =
      some .authorization := reached?_eq_some_iff.2 ⟨rfl, rfl, rfl⟩
  have hparams := ofRequest_formRequest .get "/oidc/authorize" signingSample.loginForm
  have hvalid := validButScope_loginForm hclient
  have hbegins := begins_sampleLogin hclient
  have hdecides := @scopeDecides_of_validButScope _ _ _ [_] _ signingSample.sampleLogin hrun _ rfl
    hreached _ hparams hvalid
  obtain ⟨tokens, hissue⟩ := exists_issue_signingSample
  have hreturns : (signingSample.moment (sampleState false 0)
      (.request (signingSample.grantRequest .authorizationCode "c"))).Returns signingSample "c"
        .authorizationCode "c" tokens :=
    ⟨_, _, answers_sample hclient hissue, (grants_sample hclient 0).1, rfl⟩
  exact ⟨hrun, hreached, hparams, hvalid, hbegins, ⟨tokens, hreturns⟩, hdecides⟩

end OpenIdProvider.Provider
