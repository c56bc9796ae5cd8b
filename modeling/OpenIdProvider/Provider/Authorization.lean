/-
  Authorization: a client asks for scopes, and its user is sent back to it with a code. Nobody is
  asked to log in; every valid request begins a session for the next user.
-/
import OpenIdProvider.Metadata
import OpenIdProvider.Provider.Basic
import OpenIdProvider.Redirect
import OpenIdProvider.Validation

namespace OpenIdProvider.Provider

/-- The parameters that an authorization request must have. -/
def authorizationParams : List String :=
  ["scope", "state", "client_id", "response_type", "redirect_uri"]

/-- The scopes of a valid authorization request. -/
def requestedScopes (p : Provider) (params : Params) : Except ProtocolError (List String) := do
  Validation.requireAll params authorizationParams
  let scopes := Scope.parse (params.get "scope")
  Validation.requireSupported scopes Scope.supported
  Validation.requireEqual params "client_id" p.settings.clientId .invalidClient
    "Invalid client id"
  Validation.requireEqual params "response_type" Metadata.codeResponse .unsupportedGrantType
    "Invalid response type"
  .ok scopes

/-- Begins a session for the next user. -/
def beginSession (p : Provider) (scopes : List String) (nonce : Option String)
    (s : ProviderState) : Session × ProviderState :=
  let (user, users) := s.users.next
  let (session, store) := s.store.create p.randomId scopes nonce user
  (session, { s with users := users, store := store })

/-- Where the user is sent. A target that is no URL is noticed only after the session has begun. -/
def authorize (p : Provider) (params : Params) (s : ProviderState) :
    Except ProtocolError String × ProviderState :=
  match p.requestedScopes params with
  | .error e => (.error e, s)
  | .ok scopes =>
    let (session, s) := p.beginSession scopes (params.optional "nonce") s
    match Redirect.location (params.get "redirect_uri") session.id (params.get "state") with
    | .ok location => (.ok location, s)
    | .error e => (.error (.internal e.message), s)

end OpenIdProvider.Provider
