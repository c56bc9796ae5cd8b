/-
  From the redirect to the tokens. A request that is redirected has begun a session, and the client
  finds the identifier of the session in the query of the location, written as form data
  (`exists_issuesCode`). It sends it back as form data in the body of a token request, where the
  provider reads the same text (`exchangeParams_of_codeRequest`). So the code that is issued is the
  code that can be redeemed, unless it is the empty text, which counts as none; and so does an empty
  secret of the client.
-/
import OpenIdProvider.Proofs.Provider.Lifetime
import OpenIdProvider.Proofs.Provider.Refusal
import OpenIdProvider.Proofs.Redirect.Query

namespace OpenIdProvider

open Http

namespace Provider

/-! ## Redirects -/

/-- Only a redirect has a location. -/
theorem location_not_mem_finish {response : Response}
    (h : response = notFound ∨ response = methodNotAllowed ∨ ∃ e, response = Reply.error e)
    (endpoint : Option Endpoint) (method : Method) (location : String) :
    ("location", location) ∉ (finish endpoint method response).headers := by
  have hheaders : ("location", location) ∉ response.headers := by
    rcases h with rfl | rfl | ⟨e, rfl⟩ <;>
      simp [notFound, methodNotAllowed, Reply.error, Reply.jsonBytes, Reply.noCache]
  unfold finish
  simp only
  split
  · split
    · exact hheaders
    · simpa using hheaders
  · exact hheaders

theorem mem_finish_redirect {endpoint : Option Endpoint} {method : Method}
    {location location' : String}
    (h : ("location", location) ∈ (finish endpoint method (Reply.redirect location')).headers) :
    location = location' ∧ (finish endpoint method (Reply.redirect location')).status = 302 := by
  by_cases hvalue : (Utf8.encode location').all Headers.isValueByte = true
  · have hredirect : Reply.redirect location' =
        ⟨302, Reply.noCache ++ [("location", location')], []⟩ := if_pos hvalue
    rw [hredirect] at h ⊢
    refine ⟨?_, rfl⟩
    unfold finish at h
    simp only at h
    split at h
    · split at h <;> simpa [Reply.noCache] using h
    · simpa [Reply.noCache] using h
  · have hredirect : Reply.redirect location' =
        Reply.error (.internal "failed to parse header value") := if_neg hvalue
    rw [hredirect] at h
    exact absurd h (location_not_mem_finish (.inr (.inr ⟨_, rfl⟩)) _ _ _)

/-- A request that is answered with a location was accepted, and the location is that of its
target with the code and the state. -/
theorem location_of_respond {p : Provider} {r : Request} {s : ProviderState} {response : Response}
    {location : String} (hpath : Endpoint.ofPath? r.path = some .authorization)
    (hrespond : (p.respond r s).1 = some response)
    (hlocation : ("location", location) ∈ response.headers) :
    response.status = 302 ∧ ∃ params scopes, reached? r s = some .authorization ∧
      p.accepted? r = some (params, scopes) ∧
      Redirect.location (params.get "redirect_uri") (s.store.nextId p.randomId).1
        (params.get "state") = .ok location := by
  cases hreached : reached? r s with
  | none =>
    obtain ⟨other, hother, heq⟩ := respond_of_not_reached (p := p) hreached
    rw [heq] at hrespond
    cases hrespond
    exact absurd hlocation (location_not_mem_finish hother _ _ _)
  | some e =>
    obtain rfl : e = .authorization :=
      Option.some.inj ((reached?_eq_some_iff.1 hreached).2.1.symm.trans hpath)
    rw [respond_of_reached hreached] at hrespond
    cases haccepted : p.accepted? r with
    | none =>
      obtain ⟨-, e, he⟩ := serve_authorization_of_not_accepted haccepted s
      rw [he] at hrespond
      cases hrespond
      exact absurd hlocation (location_not_mem_finish (.inr (.inr ⟨e, rfl⟩)) _ _ _)
    | some accepted =>
      obtain ⟨params, scopes⟩ := accepted
      rw [answer_authorization_of_accepted haccepted] at hrespond
      cases hresult : Redirect.location (params.get "redirect_uri")
          (s.store.nextId p.randomId).1 (params.get "state") with
      | error e =>
        rw [hresult] at hrespond
        cases hrespond
        exact absurd hlocation (location_not_mem_finish (.inr (.inr ⟨.internal e.message, rfl⟩))
          _ _ _)
      | ok location' =>
        rw [hresult] at hrespond
        cases hrespond
        obtain ⟨rfl, hstatus⟩ := mem_finish_redirect hlocation
        exact ⟨hstatus, params, scopes, rfl, rfl, hresult⟩

/-! ## Requests for a code -/

/-- A client shows its name and its secret: as parameters, or else in a header. -/
def ShowsClient (p : Provider) (r : Request) (params : Params) : Prop :=
  params.get "client_id" = p.settings.clientId ∧
      params.get "client_secret" = p.settings.clientSecret ∨
    params.get "client_id" = "" ∧ params.get "client_secret" = "" ∧
      Credentials.ofHeaders? r.headers = some ⟨p.settings.clientId, p.settings.clientSecret⟩

/-- A token request of the client for a code, with some form data as its body. What else is in the
body and what is in the query does not matter, as long as the escapes of the query are whole. -/
structure CodeRequest (p : Provider) (r : Request) (form : List (String × String))
    (code : String) : Prop where
  path : Endpoint.ofPath? r.path = some .token
  method : r.method = .post
  isForm : Params.declaresForm r.headers = true
  body : r.body = Utf8.encodeChars (Form.encode form)
  query : ∀ query, r.query = some query → Percent.badEscape? query = none
  grant : form.lookup "grant_type" = some "authorization_code"
  code : form.lookup "code" = some code
  client : p.ShowsClient r ⟨form ++ Form.decode (r.query.getD [])⟩

theorem CodeRequest.ofRequest {p : Provider} {r : Request} {form : List (String × String)}
    {code : String} (h : p.CodeRequest r form code) :
    Params.ofRequest r.headers r.query r.body = .ok ⟨form ++ Form.decode (r.query.getD [])⟩ := by
  have hwhole : ∀ text ∈ Params.readTexts r.headers r.query r.body,
      Percent.badEscape? text = none := by
    intro text htext
    rw [Params.readTexts, if_pos h.isForm] at htext
    rcases List.mem_cons.1 htext with rfl | hquery
    · rw [h.body, Form.badEscape?_encode]
    · exact h.query text (Option.mem_toList.1 hquery)
  rw [Params.ofRequest_of_whole hwhole, if_pos h.isForm, Params.ofForms, h.body,
    Form.decode_encode]

/-- The provider reads the code of the form, whatever its text is. -/
theorem exchangeParams_of_codeRequest {p : Provider} {r : Request} {form : List (String × String)}
    {code : String} (h : p.CodeRequest r form code) :
    ∃ params, exchangeParams r = .ok params ∧ params.get "grant_type" = "authorization_code" ∧
      params.get "code" = code ∧
      (p.settings.clientId ≠ "" → p.settings.clientSecret ≠ "" → p.ValidCredentials params) := by
  have hgrant := Params.get_append h.grant (Form.decode (r.query.getD []))
  have hcode := Params.get_append h.code (Form.decode (r.query.getD []))
  have hclient := h.client
  unfold exchangeParams
  rw [h.ofRequest]
  generalize (⟨form ++ Form.decode (r.query.getD [])⟩ : Params) = params at hgrant hcode hclient ⊢
  cases hheader : Credentials.ofHeaders? r.headers with
  | none =>
    refine ⟨params, rfl, hgrant, hcode, fun hid hsecret => ?_⟩
    rcases hclient with ⟨hid', hsecret'⟩ | ⟨-, -, hnone⟩
    · exact ⟨hid', hsecret', hid, hsecret⟩
    · rw [hheader] at hnone
      cases hnone
  | some c =>
    refine ⟨_, rfl, ?_, ?_, fun hid hsecret => ⟨?_, ?_, hid, hsecret⟩⟩
    · simp [Params.get_setDefault, hgrant]
    · simp [Params.get_setDefault, hcode]
    · rcases hclient with ⟨hid', hsecret'⟩ | ⟨hid', hsecret', hsome⟩
      · simp [Params.get_setDefault, hid', hid]
      · rw [hheader] at hsome
        cases hsome
        simp [Params.get_setDefault, hid']
    · rcases hclient with ⟨hid', hsecret'⟩ | ⟨hid', hsecret', hsome⟩
      · simp [Params.get_setDefault, hsecret', hsecret]
      · rw [hheader] at hsome
        cases hsome
        simp [Params.get_setDefault, hsecret']

/-! ## Redeeming -/

/-- A client gets tokens for an open code exactly when neither the code nor its secret is empty. -/
theorem redeems_iff {p : Provider} (hkeys : p.keys.Faithful) {s : ProviderState}
    (herrors : s.errors.items = [])
    (haccess : (s.clock.now.plus? p.settings.accessTtl).isSome = true)
    (hrefresh : (s.clock.now.plus? p.settings.refreshTtl).isSome = true)
    (hclient : p.settings.clientId ≠ "") {code : String} (hopen : s.store.Open code) {r : Request}
    {form : List (String × String)} (h : p.CodeRequest r form code) :
    (∃ tokens : TokenResponse, (p.respond r s).1 = some (Reply.json tokens.toJson)) ↔
      code ≠ "" ∧ p.settings.clientSecret ≠ "" := by
  obtain ⟨params, hparams, hgrant, hcode, hvalid⟩ := exchangeParams_of_codeRequest h
  constructor
  · rintro ⟨tokens, htokens⟩
    have hanswers : (p.moment s (.request r)).Answers r tokens :=
      ⟨rfl, h.path, congrArg StepAnswer.response htokens⟩
    obtain ⟨grant, shown, -, -, -, ⟨hne, params', hparams', hvalid', hname, hshown⟩, -⟩ :=
      grants_of_answers hanswers
    rw [hparams] at hparams'
    cases hparams'
    cases grant with
    | authorizationCode => exact ⟨fun heq => hne (hshown.symm.trans (hcode.trans heq)),
        hvalid'.clientSecret_ne⟩
    | refreshToken => exact absurd (hgrant.symm.trans hname) (by decide)
  · rintro ⟨hne, hsecret⟩
    have hreached : reached? r s = some .token :=
      reached?_eq_some_iff.2 ⟨herrors, h.path, by rw [h.method]; rfl⟩
    have hpresents : p.Presents r .authorizationCode code :=
      ⟨hne, params, hparams, hvalid hclient hsecret, hgrant, hcode⟩
    obtain ⟨stored, hstored, hgranted⟩ := hopen
    have hredeemed := SessionStore.grant_eq_ok_iff.2 ⟨stored, hstored, hgranted, rfl, rfl⟩
    obtain ⟨tokens, htokens⟩ := exists_issue hkeys { stored with granted := true }
      .authorizationCode "" haccess fun _ => hrefresh
    refine ⟨tokens, ?_⟩
    rw [respond_of_redeemed hreached hpresents hredeemed, tokenAnswer, htokens]
    rfl

/-- What a request that was redirected to a location has come to: a session has begun, the client
finds its identifier and the submitted state in the location, and gets tokens for the identifier. -/
structure IssuesCode (p : Provider) (s : ProviderState) (r : Request) (location : String)
    (session : Session) : Prop where
  begins : (p.moment s (.request r)).Begins p session
  code : Redirect.valuesOf "code" (Redirect.clientPairs location) = [session.id]
  state : ∃ params, Params.ofRequest r.headers r.query r.body = .ok params ∧
    Redirect.valuesOf "state" (Redirect.clientPairs location) = [params.get "state"]
  redeems : ∀ r' form, p.CodeRequest r' form session.id →
    ((∃ tokens : TokenResponse,
        (p.respond r' (p.respond r s).2).1 = some (Reply.json tokens.toJson)) ↔
      session.id ≠ "" ∧ p.settings.clientSecret ≠ "")

/-- Every redirect of a provider whose key can sign issues the code of a new session. -/
theorem exists_issuesCode {p : Provider} {key : Rsa.PrivateKey} (hkeys : p.keys = .ofRsa key)
    (hkey : key.CanSign) {s : ProviderState} (herrors : s.errors.items = [])
    (haccess : (s.clock.now.plus? p.settings.accessTtl).isSome = true)
    (hrefresh : (s.clock.now.plus? p.settings.refreshTtl).isSome = true) {r : Request}
    (hpath : Endpoint.ofPath? r.path = some .authorization) {response : Response}
    (hrespond : (p.respond r s).1 = some response) {location : String}
    (hlocation : ("location", location) ∈ response.headers) :
    response.status = 302 ∧ ∃ session, IssuesCode p s r location session := by
  obtain ⟨hstatus, params, scopes, hreached, haccepted, hresult⟩ :=
    location_of_respond hpath hrespond hlocation
  obtain ⟨hbegins, hafter⟩ := begins_of_accepted hreached haccepted
  obtain ⟨hparams, hscopes⟩ := accepted?_eq_some_iff.1 haccepted
  obtain ⟨hcode, hstate⟩ := Redirect.valuesOf_clientPairs hresult
  refine ⟨hstatus, _, hbegins, hcode, ⟨params, hparams, hstate⟩, fun r' form hrequest => ?_⟩
  have hclient : p.settings.clientId ≠ "" := by
    obtain ⟨hall, -, hid, -⟩ := requestedScopes_eq_ok_iff.1 hscopes
    rw [← hid]
    exact hall "client_id" (by decide)
  have hopen : (p.respond r s).2.store.Open
      (p.beginSession scopes (params.optional "nonce") s).1.id :=
    ⟨_, (hbegins.get? _).trans (if_pos rfl), hbegins.not_granted⟩
  have hfaithful : p.keys.Faithful := hkeys ▸ KeyAuthority.faithful_ofRsa hkey
  rw [hafter] at hopen ⊢
  exact redeems_iff (s := (p.beginSession scopes (params.optional "nonce") s).2) hfaithful herrors
    haccess hrefresh hclient hopen hrequest

/-- A token request with some form data as its body. -/
def postedForm (form : List (String × String)) : Request :=
  ⟨.post, "/oidc/token", none, [⟨"content-type", Utf8.encode Form.mediaType⟩],
    Utf8.encodeChars (Form.encode form)⟩

theorem codeRequest_postedForm (p : Provider) (code : String) :
    p.CodeRequest (postedForm (p.grantForm .authorizationCode code))
      (p.grantForm .authorizationCode code) code := by
  have hform : Params.declaresForm [⟨"content-type", Utf8.encode Form.mediaType⟩] = true := by
    decide +kernel
  exact ⟨rfl, rfl, hform, rfl, nofun, rfl, rfl, .inl ⟨rfl, rfl⟩⟩

/-- A request whose target has a code and a fragment of its own, in a state in which a code of
several marks waits. -/
def markedLogin : Request :=
  formRequest .get "/oidc/authorize"
    [("scope", "openid"), ("state", "x&y"), ("client_id", "app"), ("response_type", "code"),
      ("redirect_uri", "/cb?code=old#top")]

def markedState : ProviderState := (ProviderState.initial .jane 0).queueCode "a+b &"

/-- The code comes back as it was queued, and gets tokens. -/
theorem signingSample_issuesCode :
    ∃ response location session, ∃ tokens : TokenResponse,
      (signingSample.respond markedLogin markedState).1 = some response ∧
        ("location", location) ∈ response.headers ∧
        location = "/cb?code=a%2Bb+%26&state=x%26y#top" ∧
        IssuesCode signingSample markedState markedLogin location session ∧
        session.id = "a+b &" ∧
        (signingSample.respond (postedForm (signingSample.grantForm .authorizationCode "a+b &"))
          (signingSample.respond markedLogin markedState).2).1 =
            some (Reply.json tokens.toJson) := by
  have hheaders : (signingSample.respond markedLogin markedState).1.map Response.headers =
      some (Reply.noCache ++ [("location", "/cb?code=a%2Bb+%26&state=x%26y#top")]) := by
    decide +kernel
  obtain ⟨response, hrespond, hfields⟩ := Option.map_eq_some_iff.1 hheaders
  have hlocation : ("location", "/cb?code=a%2Bb+%26&state=x%26y#top") ∈ response.headers := by
    rw [hfields]
    simp
  obtain ⟨-, session, hissues⟩ := exists_issuesCode (p := signingSample) rfl Rsa.canSign_sampleKey
    (s := markedState) rfl (by decide) (by decide) (r := markedLogin) rfl hrespond hlocation
  have hid : session.id = "a+b &" := by
    have hcode := hissues.code
    rw [show Redirect.valuesOf "code" (Redirect.clientPairs "/cb?code=a%2Bb+%26&state=x%26y#top") =
      ["a+b &"] by decide +kernel] at hcode
    exact (List.cons.inj hcode).1.symm
  have hrequest := codeRequest_postedForm signingSample "a+b &"
  rw [← hid] at hrequest
  obtain ⟨tokens, htokens⟩ := (hissues.redeems _ _ hrequest).2 ⟨by rw [hid]; decide, by decide⟩
  rw [hid] at htokens
  exact ⟨response, _, session, tokens, hrespond, hlocation, rfl, hissues, hid, htokens⟩

/-- A provider whose client has an empty secret. -/
def secretless : Provider :=
  { signingSample with settings := { signingSample.settings with clientSecret := "" } }

/-- It issues a code that is not empty, and refuses the token request for it. -/
theorem secretless_refuses_code :
    (secretless.respond secretless.loginRequest
        ((ProviderState.initial .jane 0).queueCode "c")).1.map Response.headers =
      some (Reply.noCache ++ [("location", "/cb?code=c&state=s")]) ∧
    secretless.CodeRequest (postedForm (secretless.grantForm .authorizationCode "c"))
      (secretless.grantForm .authorizationCode "c") "c" ∧
    ¬ ∃ tokens : TokenResponse,
      (secretless.respond (postedForm (secretless.grantForm .authorizationCode "c"))
        (secretless.respond secretless.loginRequest
          ((ProviderState.initial .jane 0).queueCode "c")).2).1 =
        some (Reply.json tokens.toJson) := by
  refine ⟨by decide +kernel, codeRequest_postedForm secretless "c", ?_⟩
  rintro ⟨tokens, htokens⟩
  have hstatus : (secretless.respond (postedForm (secretless.grantForm .authorizationCode "c"))
      (secretless.respond secretless.loginRequest
        ((ProviderState.initial .jane 0).queueCode "c")).2).1.map Response.status = some 400 := by
    decide +kernel
  rw [htokens] at hstatus
  cases hstatus

end Provider

end OpenIdProvider
