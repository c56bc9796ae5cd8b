/-
  What a client shows at the token endpoint: the kind of its grant and its own credentials.
-/
import OpenIdProvider.Codec.Base64
import OpenIdProvider.Http.Message
import OpenIdProvider.ProtocolError
import OpenIdProvider.Text.Blank
import OpenIdProvider.Text.Split

namespace OpenIdProvider

inductive GrantType
  | authorizationCode
  | refreshToken
deriving DecidableEq, Repr

namespace GrantType

def name : GrantType → String
  | authorizationCode => "authorization_code"
  | refreshToken => "refresh_token"

/-- The grant of a `grant_type` parameter. -/
def ofName (s : String) : Except ProtocolError GrantType :=
  if s = "authorization_code" then .ok authorizationCode
  else if s = "refresh_token" then .ok refreshToken
  else .error (.invalidRequest ("Invalid grant type: " ++ s))

end GrantType

/-- The name and the secret of a client. -/
structure Credentials where
  clientId : String
  clientSecret : String
deriving DecidableEq, Repr

/-- The credentials of a Basic `Authorization` header: after the scheme, in any case, and a space
the Base64 form of the id, a colon and the secret. -/
def Credentials.ofHeaders? (headers : Http.Headers) : Option Credentials := do
  let value ← headers.text? "authorization"
  let (scheme, encoded) ← Split.splitOnce ' ' value
  if scheme.map Ascii.toLower ≠ "basic".toList then none
  let bytes ← (Base64.decode .standard .canonical (Utf8.encodeChars (Blank.trim encoded))).toOption
  let decoded ← Utf8.decodeChars? bytes
  let (clientId, clientSecret) ← Split.splitOnce ':' decoded
  some ⟨String.ofList clientId, String.ofList clientSecret⟩

end OpenIdProvider
