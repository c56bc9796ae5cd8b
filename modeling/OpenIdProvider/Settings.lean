/-
  The fixed settings of a provider, and the places of its endpoints.
-/
import OpenIdProvider.Calendar

namespace OpenIdProvider

/-- Where requests go. -/
inductive Endpoint
  | authorization
  | token
  | userinfo
  | discovery
  | keys
deriving DecidableEq, Repr

namespace Endpoint

def all : List Endpoint := [authorization, token, userinfo, discovery, keys]

/-- The path of the issuer, under which all endpoints lie. -/
def issuerPath : String := "/oidc"

def path : Endpoint → String
  | authorization => "/oidc/authorize"
  | token => "/oidc/token"
  | userinfo => "/oidc/userinfo"
  | discovery => "/oidc/.well-known/openid-configuration"
  | keys => "/oidc/.well-known/jwks.json"

/-- The endpoint of a path. -/
def ofPath? (path : String) : Option Endpoint := all.find? fun e => e.path == path

end Endpoint

/-- The settings of a provider with one client. -/
structure Settings where
  /-- What stands before the paths of the endpoints. -/
  baseUrl : String
  clientId : String
  clientSecret : String
  /-- The lifetime of access tokens and ID tokens. -/
  accessTtl : Duration
  /-- The lifetime of refresh tokens. -/
  refreshTtl : Duration
deriving DecidableEq, Repr

namespace Settings

def url (s : Settings) (path : String) : String := s.baseUrl ++ path

/-- The identifier of the issuer. -/
def issuer (s : Settings) : String := s.url Endpoint.issuerPath

end Settings

end OpenIdProvider
