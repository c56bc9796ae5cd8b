/-
  Requests over HTTP: which endpoint answers, and with which methods. An error that waits in the
  queue answers the next request, whatever it asks for.
-/
import OpenIdProvider.Http.Reply
import OpenIdProvider.Provider.Authorization
import OpenIdProvider.Provider.Exchange

namespace OpenIdProvider

namespace Endpoint

/-- Whether an endpoint serves a method. What serves GET serves HEAD. -/
def serves : Endpoint → Http.Method → Bool
  | _, .other _ => false
  | .token, .post => true
  | .token, _ => false
  | .discovery, .post => false
  | .keys, .post => false
  | _, _ => true

/-- The methods that an endpoint serves, as a header tells them. -/
def allowed : Endpoint → String
  | .authorization => "GET,HEAD,POST"
  | .token => "POST"
  | .userinfo => "GET,HEAD,POST"
  | .discovery => "GET,HEAD"
  | .keys => "GET,HEAD"

end Endpoint

namespace Provider

open Http

/-- The parameters of a token request; credentials in a header stand in for absent ones. -/
def exchangeParams (r : Request) : Except ProtocolError Params :=
  (Params.ofRequest r.headers r.query r.body).map fun params =>
    match Credentials.ofHeaders? r.headers with
    | none => params
    | some c =>
      (params.setDefault "client_id" c.clientId).setDefault "client_secret" c.clientSecret

/-- What an endpoint answers to a request, with a method that it serves. -/
def serve (p : Provider) (endpoint : Endpoint) (r : Request) (s : ProviderState) :
    Option Response × ProviderState :=
  match endpoint with
  | .authorization =>
    match Params.ofRequest r.headers r.query r.body with
    | .error e => (some (Reply.error e), s)
    | .ok params =>
      let (location, s) := p.authorize params s
      ((Outcome.ofExcept location).respond Reply.redirect Reply.error, s)
  | .token =>
    match exchangeParams r with
    | .error e => (some (Reply.error e), s)
    | .ok params =>
      let (tokens, s) := p.exchange params s
      (tokens.respond (fun tokens => Reply.json tokens.toJson) Reply.error, s)
  | .userinfo =>
    let claims := Outcome.ofExcept (p.userinfo r.headers s)
    (claims.respond (fun claims => Reply.json (.object claims)) Reply.error, s)
  | .discovery => (some (Reply.json (Metadata.ofSettings p.settings).toJson), s)
  | .keys => (some (Reply.json p.keys.publicKeys), s)

def notFound : Response := ⟨404, [], []⟩

def methodNotAllowed : Response := ⟨405, [], []⟩

/-- What is added to every response: the allowed methods, if an endpoint does not serve the one of
the request; and to HEAD nothing is answered but the header. -/
def finish (endpoint : Option Endpoint) (method : Method) (response : Response) : Response :=
  let headers :=
    match endpoint with
    | some e =>
      if e.serves method then response.headers else response.headers ++ [("allow", e.allowed)]
    | none => response.headers
  ⟨response.status, headers, if method = .head then [] else response.body⟩

/-- The response to a request, none if it is aborted. The body of the request is assumed to be
within the limit of the HTTP framework. -/
def respond (p : Provider) (r : Request) (s : ProviderState) :
    Option Response × ProviderState :=
  let endpoint := Endpoint.ofPath? r.path
  let (response, s) :=
    match s.errors.pop with
    | (some e, errors) => (some (Reply.error e), { s with errors := errors })
    | (none, _) =>
      match endpoint with
      | none => (some notFound, s)
      | some e =>
        if e.serves r.method then p.serve e r s else (some methodNotAllowed, s)
  (response.map (finish endpoint r.method), s)

end Provider

end OpenIdProvider
