/-
  The description of a provider: where its endpoints are and what it supports.
-/
import OpenIdProvider.Grant
import OpenIdProvider.Json.Record
import OpenIdProvider.Scope
import OpenIdProvider.Settings
import OpenIdProvider.Token.Header

namespace OpenIdProvider

structure Metadata where
  issuer : String
  authorizationEndpoint : String
  tokenEndpoint : String
  keysUri : String
  userinfoEndpoint : String
  grantTypes : List String
  responseTypes : List String
  subjectTypes : List String
  signingAlgorithms : List String
  scopes : List String
  authMethods : List String
  claims : List String
deriving DecidableEq, Repr

namespace Metadata

/-- The claims that tokens and answers may carry. -/
def supportedClaims : List String :=
  ["sub", "email", "email_verified", "preferred_username", "phone_number", "address", "groups",
    "iss", "aud"]

/-- The only response type. -/
def codeResponse : String := "code"

def ofSettings (s : Settings) : Metadata where
  issuer := s.issuer
  authorizationEndpoint := s.url Endpoint.authorization.path
  tokenEndpoint := s.url Endpoint.token.path
  keysUri := s.url Endpoint.keys.path
  userinfoEndpoint := s.url Endpoint.userinfo.path
  grantTypes := [GrantType.authorizationCode.name, GrantType.refreshToken.name]
  responseTypes := [codeResponse]
  subjectTypes := ["public"]
  signingAlgorithms := [Token.Header.ownAlgorithm]
  scopes := Scope.supported
  authMethods := ["client_secret_basic", "client_secret_post"]
  claims := supportedClaims

def toJson (m : Metadata) : Json :=
  .object
    [("issuer", .string m.issuer), ("authorization_endpoint", .string m.authorizationEndpoint),
      ("token_endpoint", .string m.tokenEndpoint), ("jwks_uri", .string m.keysUri),
      ("userinfo_endpoint", .string m.userinfoEndpoint),
      ("grant_types_supported", Json.ofStrings m.grantTypes),
      ("response_types_supported", Json.ofStrings m.responseTypes),
      ("subject_types_supported", Json.ofStrings m.subjectTypes),
      ("id_token_signing_alg_values_supported", Json.ofStrings m.signingAlgorithms),
      ("scopes_supported", Json.ofStrings m.scopes),
      ("token_endpoint_auth_methods_supported", Json.ofStrings m.authMethods),
      ("claims_supported", Json.ofStrings m.claims)]

def textField (name : String) : Json.Field := ⟨name, false, false, fun _ => Json.Reader.text⟩

def textsField (name : String) : Json.Field := ⟨name, false, false, Json.Reader.texts⟩

def shape : Json.Shape where
  name := "struct ProviderMetadata"
  fields :=
    [textField "issuer", textField "authorization_endpoint", textField "token_endpoint",
      textField "jwks_uri", textField "userinfo_endpoint", textsField "grant_types_supported",
      textsField "response_types_supported", textsField "subject_types_supported",
      textsField "id_token_signing_alg_values_supported", textsField "scopes_supported",
      textsField "token_endpoint_auth_methods_supported", textsField "claims_supported"]

def textOf : Option Json → String
  | some (.string s) => s
  | _ => ""

def textsOf : Option Json → List String
  | some (.array items) => items.filterMap Json.asString?
  | _ => []

/-- Reads a description. -/
def parse (bytes : List UInt8) : Except Json.Error Metadata :=
  (shape.parse bytes).map fun slots =>
    let slot (i : Nat) : Option Json := slots.getD i none
    { issuer := textOf (slot 0)
      authorizationEndpoint := textOf (slot 1)
      tokenEndpoint := textOf (slot 2)
      keysUri := textOf (slot 3)
      userinfoEndpoint := textOf (slot 4)
      grantTypes := textsOf (slot 5)
      responseTypes := textsOf (slot 6)
      subjectTypes := textsOf (slot 7)
      signingAlgorithms := textsOf (slot 8)
      scopes := textsOf (slot 9)
      authMethods := textsOf (slot 10)
      claims := textsOf (slot 11) }

end Metadata

end OpenIdProvider
