/-
  The requests of clients. A client that has a name and a secret can begin a session; a token
  request can carry every code and every token, since form data are read as they were written; and
  a header can carry every token of visible characters.
-/
import OpenIdProvider.Proofs.Params
import OpenIdProvider.Proofs.Provider.Issue

namespace OpenIdProvider

open Http

namespace Provider

/-- A provider whose client has a name and a secret. -/
structure HasClient (p : Provider) : Prop where
  clientId : p.settings.clientId ≠ ""
  clientSecret : p.settings.clientSecret ≠ ""

/-- A request whose query is some form data. -/
def formRequest (method : Method) (path : String) (pairs : List (String × String)) : Request :=
  ⟨method, path, some (Utf8.encodeChars (Form.encode pairs)), [], []⟩

theorem ofRequest_formRequest (method : Method) (path : String) (pairs : List (String × String)) :
    Params.ofRequest (formRequest method path pairs).headers (formRequest method path pairs).query
      (formRequest method path pairs).body = .ok ⟨pairs⟩ :=
  Params.ofRequest_encode [] (some pairs) []

/-! ## Authorization requests -/

/-- What a client of a provider sends for a session with an ID token. -/
def loginForm (p : Provider) : List (String × String) :=
  [("scope", "openid"), ("state", "s"), ("client_id", p.settings.clientId),
    ("response_type", "code"), ("redirect_uri", "/cb")]

def loginRequest (p : Provider) : Request := formRequest .get "/oidc/authorize" p.loginForm

/-- A client begins a session. -/
theorem respond_loginRequest {p : Provider} (hclient : p.HasClient) {s : ProviderState}
    (h : s.errors.items = []) :
    (p.respond p.loginRequest s).2 = (p.beginSession ["openid"] none s).2 := by
  have hreached : reached? p.loginRequest s = some .authorization :=
    reached?_eq_some_iff.2 ⟨h, rfl, rfl⟩
  have hall : Validation.requireAll ⟨p.loginForm⟩ authorizationParams = .ok () := by
    rw [Validation.requireAll_eq_ok_iff]
    simp only [authorizationParams, List.forall_mem_cons]
    exact ⟨(by decide : "openid" ≠ ""), (by decide : "s" ≠ ""), hclient.clientId,
      (by decide : "code" ≠ ""), (by decide : "/cb" ≠ ""), nofun⟩
  have hname : Validation.requireEqual ⟨p.loginForm⟩ "client_id" p.settings.clientId
      .invalidClient "Invalid client id" = .ok () :=
    Validation.requireEqual_eq_ok_iff.2 rfl
  have hresponse : Validation.requireEqual ⟨p.loginForm⟩ "response_type" Metadata.codeResponse
      .unsupportedGrantType "Invalid response type" = .ok () :=
    Validation.requireEqual_eq_ok_iff.2 rfl
  have hscope : Params.get ⟨p.loginForm⟩ "scope" = "openid" := rfl
  have hparse : Scope.parse "openid" = ["openid"] := by decide
  have hscopes : p.requestedScopes ⟨p.loginForm⟩ = .ok ["openid"] := by
    unfold requestedScopes
    rw [hall, hname, hresponse, hscope, hparse]
    rfl
  have haccepted := accepted?_eq_some_iff.2
    ⟨ofRequest_formRequest .get "/oidc/authorize" p.loginForm, hscopes⟩
  rw [respond_of_reached hreached]
  exact serve_authorization_of_accepted haccepted s

/-! ## Token requests -/

/-- What a client of a provider sends for tokens. -/
def grantForm (p : Provider) (grant : GrantType) (shown : String) : List (String × String) :=
  [("client_id", p.settings.clientId), ("client_secret", p.settings.clientSecret),
    ("grant_type", grant.name), (grant.param, shown)]

def grantRequest (p : Provider) (grant : GrantType) (shown : String) : Request :=
  formRequest .post "/oidc/token" (p.grantForm grant shown)

theorem exchangeParams_grantRequest (p : Provider) (grant : GrantType) (shown : String) :
    exchangeParams (p.grantRequest grant shown) = .ok ⟨p.grantForm grant shown⟩ :=
  congrArg (Except.map _) (ofRequest_formRequest .post "/oidc/token" (p.grantForm grant shown))

/-- A client can show every code and every token. -/
theorem presents_grantRequest {p : Provider} (hclient : p.HasClient) (grant : GrantType)
    {shown : String} (hshown : shown ≠ "") :
    p.Presents (p.grantRequest grant shown) grant shown := by
  refine ⟨hshown, _, exchangeParams_grantRequest p grant shown,
    ⟨rfl, rfl, hclient.clientId, hclient.clientSecret⟩, ?_, ?_⟩
  · cases grant <;> rfl
  · cases grant <;> rfl

theorem reached?_grantRequest (p : Provider) (grant : GrantType) (shown : String)
    {s : ProviderState} (h : s.errors.items = []) :
    reached? (p.grantRequest grant shown) s = some .token :=
  reached?_eq_some_iff.2 ⟨h, rfl, rfl⟩

/-! ## Bearer tokens -/

/-- A request that shows a bearer token. -/
def bearerRequest (token : String) : Request where
  method := .get
  path := "/oidc/userinfo"
  query := none
  headers := [⟨"authorization", Utf8.encode ("Bearer " ++ token)⟩]
  body := []

/-- A header can show every token of visible characters. -/
theorem bearerToken?_bearerRequest {token : String}
    (h : ∀ c ∈ token.toList, 0x20 ≤ c.toNat ∧ c.toNat < 0x7F) :
    bearerToken? (bearerRequest token).headers = some token := by
  have hvalue : ("Bearer " ++ token).toList = "Bearer".toList ++ ' ' :: token.toList := by
    rw [String.toList_append]
    rfl
  have htext : (bearerRequest token).headers.text? "authorization" =
      some ("Bearer".toList ++ ' ' :: token.toList) := by
    rw [← hvalue]
    refine Headers.text?_of_visible rfl fun c hc => ?_
    rw [String.toList_append, List.mem_append] at hc
    rcases hc with hc | hc
    · have hall : ∀ d ∈ "Bearer ".toList, 0x20 ≤ d.toNat ∧ d.toNat < 0x7F :=
        List.all_iff_forall_prop.1 (by decide)
      exact hall c hc
    · exact h c hc
  unfold bearerToken?
  rw [htext, Option.getD_some, Split.splitOnce_append (by decide)]
  simp only [if_true, String.ofList_toList]

theorem reached?_bearerRequest (token : String) {s : ProviderState} (h : s.errors.items = []) :
    reached? (bearerRequest token) s = some .userinfo :=
  reached?_eq_some_iff.2 ⟨h, rfl, rfl⟩

/-! ## A session from its beginning -/

/-- A session with an ID token, of the code `c`. -/
def sampleSession (granted : Bool) : Session := ⟨"c", ["openid"], none, .jane, granted⟩

/-- A state with this session and no other. -/
def sampleState (granted : Bool) (clock : Clock) : ProviderState :=
  ⟨⟨[sampleSession granted], .empty, 0⟩, .ofFallback .jane, .empty, clock⟩

/-- The session is begun from nothing. -/
theorem after_login {p : Provider} (hclient : p.HasClient) (clock : Clock) :
    (p.moment ((ProviderState.initial .jane clock).queueCode "c")
      (.request p.loginRequest)).after = sampleState false clock := by
  rw [after_request, respond_loginRequest hclient rfl]
  rfl

theorem run_of_login {p : Provider} (hclient : p.HasClient) (clock : Clock)
    (steps : List Step) :
    (p.run (.initial .jane clock) (.queueCode "c" :: .request p.loginRequest :: steps)).2 =
      (p.run (sampleState false clock) steps).2 := by
  have hqueued : (p.moment (.initial .jane clock) (.queueCode "c")).after =
      (ProviderState.initial .jane clock).queueCode "c" := rfl
  rw [run_cons, hqueued, run_cons, after_login hclient]

theorem run_login {p : Provider} (hclient : p.HasClient) (clock : Clock) :
    (p.run (.initial .jane clock) [.queueCode "c", .request p.loginRequest]).2 =
      sampleState false clock := run_of_login hclient clock []

theorem presents_sample {p : Provider} (hclient : p.HasClient) :
    p.Presents (p.grantRequest .authorizationCode "c") .authorizationCode "c" :=
  presents_grantRequest hclient .authorizationCode (by decide)

end Provider

end OpenIdProvider
