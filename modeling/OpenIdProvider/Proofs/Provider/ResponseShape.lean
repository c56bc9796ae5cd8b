/-
  The shape of responses. What an endpoint does with a request ends with something to send, with an
  error, or not at all. All that is sent goes out with the fields that forbid caching, and it is a
  redirect without a body or it has a JSON body; a client that reads the body of an error finds its
  kind and its description there, whatever characters that has, and nothing else.
-/
import OpenIdProvider.Proofs.Params
import OpenIdProvider.Proofs.Provider.Delivery
import OpenIdProvider.Proofs.Provider.QueuedErrors

namespace OpenIdProvider

open Http
open Redirect (valuesOf valuesOf_append)

/-! ## How requests end -/

/-- What a request that is not rejected is answered with. -/
inductive Content
  | location (l : String)
  | document (v : Json)

def Content.reply : Content → Response
  | location l => ⟨302, Reply.noCache ++ [("location", l)], []⟩
  | document v => Reply.json v

/-- What is done with the answer of a request. -/
def Outcome.map {α β : Type} (f : α → β) : Outcome α → Outcome β
  | answered x => answered (f x)
  | rejected e => rejected e
  | aborted => aborted

theorem Outcome.respond_map {α β ρ : Type} (f : α → β) (answer : β → ρ)
    (error : ProtocolError → ρ) (o : Outcome α) :
    (o.map f).respond answer error = o.respond (fun x => answer (f x)) error := by
  cases o <;> rfl

namespace Provider

/-- How an endpoint ends a request. -/
def outcome (p : Provider) (endpoint : Endpoint) (r : Request) (s : ProviderState) :
    Outcome Content :=
  match endpoint with
  | .authorization =>
    match Params.ofRequest r.headers r.query r.body with
    | .error e => .rejected e
    | .ok params => (Outcome.ofExcept (p.authorize params s).1).map .location
  | .token =>
    match exchangeParams r with
    | .error e => .rejected e
    | .ok params => (p.exchange params s).1.map fun tokens => .document tokens.toJson
  | .userinfo =>
    (Outcome.ofExcept (p.userinfo r.headers s)).map fun claims => .document (.object claims)
  | .discovery => .answered (.document (Metadata.ofSettings p.settings).toJson)
  | .keys => .answered (.document p.keys.publicKeys)

/-- How a request ends that takes an error from the queue or reaches an endpoint. -/
def handled? (p : Provider) (r : Request) (s : ProviderState) : Option (Outcome Content) :=
  match s.errors.items with
  | e :: _ => some (.rejected e)
  | [] => (reached? r s).map fun endpoint => p.outcome endpoint r s

theorem isPrintable_of_authorize {p : Provider} {params : Params} {s : ProviderState} {l : String}
    (h : (p.authorize params s).1 = .ok l) : ∀ c ∈ l.toList, Ascii.IsPrintable c := by
  unfold authorize at h
  split at h
  · cases h
  · dsimp only at h
    split at h
    · rename_i hlocation
      cases h
      exact Redirect.isPrintable_location hlocation
    · cases h

/-- An endpoint sends what it ends a request with. -/
theorem serve_fst (p : Provider) (endpoint : Endpoint) (r : Request) (s : ProviderState) :
    (p.serve endpoint r s).1 =
      (p.outcome endpoint r s).respond Content.reply Reply.error := by
  cases endpoint with
  | authorization =>
    unfold serve outcome
    cases Params.ofRequest r.headers r.query r.body with
    | error e => rfl
    | ok params =>
      dsimp only
      rw [Outcome.respond_map]
      cases hlocation : (p.authorize params s).1 with
      | error e => rfl
      | ok l =>
        exact congrArg some (Reply.redirect_of_isPrintable (isPrintable_of_authorize hlocation))
  | token =>
    unfold serve outcome
    cases exchangeParams r with
    | error e => rfl
    | ok params =>
      dsimp only
      rw [Outcome.respond_map]
      rfl
  | userinfo =>
    unfold serve outcome
    dsimp only
    rw [Outcome.respond_map]
    rfl
  | discovery => rfl
  | keys => rfl

theorem respond_of_handled {p : Provider} {r : Request} {s : ProviderState}
    {outcome : Outcome Content} (h : p.handled? r s = some outcome) :
    (p.respond r s).1 = (outcome.respond Content.reply Reply.error).map
      (finish (Endpoint.ofPath? r.path) r.method) := by
  unfold handled? at h
  split at h
  · rename_i hwaiting
    cases h
    rw [respond_of_waiting p r hwaiting]
    rfl
  · obtain ⟨endpoint, hreached, rfl⟩ := Option.map_eq_some_iff.1 h
    rw [respond_of_reached hreached, serve_fst, (reached?_eq_some_iff.1 hreached).2.1]

end Provider

/-! ## Shapes -/

/-- A response forbids caching, once in each way, and is a redirect without a body or has a JSON
body. -/
structure WellShaped (response : Response) : Prop where
  cacheControl : valuesOf "cache-control" response.headers =
    ["no-cache, no-store, must-revalidate, max-age=0"]
  pragma : valuesOf "pragma" response.headers = ["no-cache"]
  content :
    (response.status = 302 ∧ (∃ l, valuesOf "location" response.headers = [l]) ∧
        response.body = []) ∨
      valuesOf "content-type" response.headers = ["application/json"]

/-- A response that shows a content: a redirect to a location, or a successful one with a document,
but for HEAD without it. -/
def Shows (method : Method) (response : Response) : Content → Prop
  | .location l =>
    response.status = 302 ∧ valuesOf "location" response.headers = [l] ∧ response.body = []
  | .document v =>
    response.status = 200 ∧ valuesOf "content-type" response.headers = ["application/json"] ∧
      response.body = if method = .head then [] else Utf8.encodeChars v.chars

/-- A response that fits the end of a request: it is well shaped, and it shows the content or tells
of the error that the request ended with. -/
structure Fits (method : Method) (outcome : Outcome Content) (response : Response) : Prop where
  wellShaped : WellShaped response
  answered : ∀ content, outcome = .answered content → Shows method response content
  rejected : ∀ e, outcome = .rejected e → Tells method e response

namespace Provider

theorem wellShaped_jsonBytes (status : Nat) (body : List UInt8) :
    WellShaped (Reply.jsonBytes status body) :=
  ⟨rfl, rfl, .inr rfl⟩

theorem wellShaped_reply (content : Content) : WellShaped content.reply := by
  cases content with
  | location l => exact ⟨rfl, rfl, .inl ⟨rfl, ⟨l, rfl⟩, rfl⟩⟩
  | document v => exact wellShaped_jsonBytes _ _

/-- Only the allowed methods are added to the fields of a response. -/
theorem valuesOf_finish {name : String} (h : name ≠ "allow") (endpoint : Option Endpoint)
    (method : Method) (response : Response) :
    valuesOf name (finish endpoint method response).headers = valuesOf name response.headers := by
  unfold finish
  cases endpoint with
  | none => rfl
  | some e =>
    dsimp only
    split
    · rfl
    · rw [valuesOf_append]
      have hallow : valuesOf name [("allow", e.allowed)] = [] := by
        rw [Redirect.valuesOf_cons, if_neg (Ne.symm h)]
        rfl
      rw [hallow, List.append_nil]

theorem body_finish (endpoint : Option Endpoint) (method : Method) (response : Response) :
    (finish endpoint method response).body = if method = .head then [] else response.body := rfl

theorem wellShaped_finish {response : Response} (h : WellShaped response)
    (endpoint : Option Endpoint) (method : Method) :
    WellShaped (finish endpoint method response) := by
  refine ⟨?_, ?_, ?_⟩
  · rw [valuesOf_finish (by decide)]
    exact h.cacheControl
  · rw [valuesOf_finish (by decide)]
    exact h.pragma
  · rw [valuesOf_finish (by decide), valuesOf_finish (by decide), body_finish]
    refine h.content.imp_left ?_
    rintro ⟨hstatus, hlocation, hbody⟩
    exact ⟨hstatus, hlocation, by rw [hbody, ite_self]⟩

theorem shows_finish (endpoint : Option Endpoint) (method : Method) (content : Content) :
    Shows method (finish endpoint method content.reply) content := by
  cases content with
  | location l =>
    refine ⟨rfl, ?_, ?_⟩
    · rw [valuesOf_finish (by decide)]
      rfl
    · rw [body_finish]
      exact ite_self _
  | document v =>
    refine ⟨rfl, ?_, rfl⟩
    rw [valuesOf_finish (by decide)]
    rfl

/-- A handled request is answered unless it is aborted, and the response fits its end. -/
theorem handled_fits {p : Provider} {r : Request} {s : ProviderState} {outcome : Outcome Content}
    (h : p.handled? r s = some outcome) :
    ((p.respond r s).1 = none ↔ outcome = .aborted) ∧
      ∀ response, (p.respond r s).1 = some response → Fits r.method outcome response := by
  rw [respond_of_handled h]
  cases outcome with
  | answered content =>
    refine ⟨iff_of_false nofun nofun, ?_⟩
    rintro _ ⟨⟩
    refine ⟨wellShaped_finish (wellShaped_reply content) _ _, ?_, nofun⟩
    rintro _ ⟨⟩
    exact shows_finish _ _ content
  | rejected e =>
    refine ⟨iff_of_false nofun nofun, ?_⟩
    rintro _ ⟨⟩
    refine ⟨wellShaped_finish (wellShaped_jsonBytes _ _) _ _, nofun, ?_⟩
    rintro _ ⟨⟩
    exact tells_finish _ _ e
  | aborted => exact ⟨iff_of_true rfl rfl, nofun⟩

/-- A request whose query has an escape broken by a quote and a backslash. -/
def brokenRequest : Request := ⟨.get, "/oidc/authorize", some (Utf8.encode "a=%\"\\"), [], []⟩

/-- The error of that request, which echoes the escape. -/
def brokenEscape : ProtocolError := .internal "invalid URL escape \"%\"\\\""

/-- The echo is escaped in the body and read back from it. -/
theorem handled_fits_brokenRequest :
    sample.handled? brokenRequest (.initial .jane 0) = some (.rejected brokenEscape) ∧
      ∃ response, (sample.respond brokenRequest (.initial .jane 0)).1 = some response ∧
        response.body = Utf8.encode
          ("\x7b\"error\":\"internal_server_error\"," ++
            "\"error_description\":\"invalid URL escape \\\"%\\\"\\\\\\\"\"\x7d") ∧
        Fits .get (.rejected brokenEscape) response := by
  have hescapes : (Params.readTexts brokenRequest.headers brokenRequest.query
      brokenRequest.body).forM Params.checkEscapes = .error brokenEscape := by decide +kernel
  have hparams : Params.ofRequest brokenRequest.headers brokenRequest.query brokenRequest.body =
      .error brokenEscape := by
    rw [Params.ofRequest_eq, hescapes]
    rfl
  have houtcome : sample.outcome .authorization brokenRequest (.initial .jane 0) =
      .rejected brokenEscape := by
    rw [outcome, hparams]
  have hhandled : sample.handled? brokenRequest (.initial .jane 0) =
      some (.rejected brokenEscape) := congrArg some houtcome
  have hfits := (handled_fits hhandled).2
  refine ⟨hhandled, _, respond_of_handled hhandled, ?_, hfits _ (respond_of_handled hhandled)⟩
  decide +kernel

end Provider

end OpenIdProvider
