/-
  Exchange: a client redeems a code, or shows a refresh token, and gets tokens.
-/
import OpenIdProvider.Grant
import OpenIdProvider.Provider.Access
import OpenIdProvider.TokenResponse
import OpenIdProvider.Validation

namespace OpenIdProvider.Provider

/-- The kind of grant that a client with the right credentials asks for. -/
def requestedGrant (p : Provider) (params : Params) : Except ProtocolError GrantType := do
  Validation.requireAll params ["client_id", "client_secret", "grant_type"]
  Validation.requireEqual params "client_id" p.settings.clientId .invalidClient
    "Invalid client id"
  Validation.requireEqual params "client_secret" p.settings.clientSecret .invalidClient
    "Invalid client secret"
  GrantType.ofName (params.get "grant_type")

/-- The kind of grant must be the one whose parameters are looked at. -/
def requireGrant (params : Params) (grant : GrantType) : Except ProtocolError Unit :=
  Validation.requireEqual params "grant_type" grant.name .unsupportedGrantType
    "Invalid grant type"

/-- The session whose code is redeemed; from then on it is granted. -/
def redeem (params : Params) (s : ProviderState) :
    Except ProtocolError (Session × ProviderState) := do
  Validation.requireAll params ["code"]
  requireGrant params .authorizationCode
  match s.store.grant (params.get "code") with
  | .ok (session, store) => .ok (session, { s with store := store })
  | .error _ => .error (.invalidGrant ("Invalid code: " ++ params.get "code"))

/-- The session of a refresh token. -/
def resume (p : Provider) (params : Params) (s : ProviderState) :
    Except ProtocolError Session := do
  Validation.requireAll params ["refresh_token"]
  requireGrant params .refreshToken
  let token ← p.checkToken s.clock.now (params.get "refresh_token")
  match s.store.byClaims token.claims with
  | .ok session => .ok session
  | .error _ => .error (.invalidGrant "Invalid refresh token")

/-- The session that a grant is for. -/
def grantedSession (p : Provider) (grant : GrantType) (params : Params) (s : ProviderState) :
    Except ProtocolError (Session × ProviderState) :=
  match grant with
  | .authorizationCode => redeem params s
  | .refreshToken => (p.resume params s).map fun session => (session, s)

/-- The refresh token of an answer: a new one for a code, else the one that was shown. -/
def nextRefreshToken (p : Provider) (session : Session) (grant : GrantType) (shown : String)
    (now : Instant) : Except Session.MintError String :=
  match grant with
  | .authorizationCode => session.refreshToken p.settings p.keys now
  | .refreshToken => .ok shown

/-- The ID token of an answer, if there is to be one. -/
def nextIdToken (p : Provider) (session : Session) (now : Instant) :
    Except Session.MintError (Option String) :=
  if session.wantsIdToken then (session.idToken p.settings p.keys now).map some else .ok none

/-- The tokens of a session. -/
def issue (p : Provider) (session : Session) (grant : GrantType) (shown : String)
    (now : Instant) : Except Session.MintError TokenResponse := do
  let accessToken ← session.accessToken p.settings p.keys now
  let idToken ← p.nextIdToken session now
  let refreshToken ← p.nextRefreshToken session grant shown now
  .ok ⟨accessToken, idToken, refreshToken, TokenResponse.bearer,
    p.settings.accessTtl.seconds⟩

/-- How the making of tokens ends a request. -/
def outcomeOfMint {α : Type} : Except Session.MintError α → Outcome α
  | .ok x => .answered x
  | .error .outOfRange => .aborted
  | .error (.unsigned e) => .rejected (.internal e.message)

/-- The answer to a client at the token endpoint. A code is spent before the tokens are made. -/
def exchange (p : Provider) (params : Params) (s : ProviderState) :
    Outcome TokenResponse × ProviderState :=
  match p.requestedGrant params with
  | .error e => (.rejected e, s)
  | .ok grant =>
    match p.grantedSession grant params s with
    | .error e => (.rejected e, s)
    | .ok (session, s) =>
      (outcomeOfMint (p.issue session grant (params.get "refresh_token") s.clock.now), s)

end OpenIdProvider.Provider
