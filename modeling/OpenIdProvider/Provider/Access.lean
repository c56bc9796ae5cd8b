/-
  Access with a token: the token must verify and must not have ended, and it names the session
  whose user the answer is about.
-/
import OpenIdProvider.Http.Message
import OpenIdProvider.Provider.Basic
import OpenIdProvider.Text.Split

namespace OpenIdProvider.Provider

/-- A token that verifies and has not ended, and its claims. -/
structure UsableToken where
  token : String
  claims : Members

def leastInt64 : Int := -0x8000000000000000

def greatestInt64 : Int := 0x7FFFFFFFFFFFFFFF

/-- The whole seconds of a number, within 64 bits. -/
def wholeSeconds (x : Binary64) : Int := max leastInt64 (min greatestInt64 x.truncate)

/-- The last second at which a token holds. -/
def expiry? (claims : Members) : Option Int :=
  ((claims.get? "exp").bind Json.asBinary64?).map wholeSeconds

/-- Checks a token at an instant, of which the whole seconds count. -/
def checkToken (p : Provider) (now : Instant) (token : String) :
    Except ProtocolError UsableToken :=
  match p.keys.verify token with
  | .error e => .error (.unauthorized ("Invalid token: " ++ e.message))
  | .ok (.object claims) =>
    match expiry? claims with
    | none => .error (.internal "Unable to extract token expiration")
    | some finish =>
      if finish < now.seconds then .error (.unauthorized "The token is expired")
      else .ok ⟨token, claims⟩
  | .ok _ => .error (.internal "Unable to extract token claims")

/-- The token of an `Authorization` header: it follows the word `Bearer` and a space. -/
def bearerToken? (headers : Http.Headers) : Option String :=
  match Split.splitOnce ' ' ((headers.text? "authorization").getD []) with
  | some (scheme, token) => if scheme = "Bearer".toList then some (String.ofList token) else none
  | none => none

/-- Checks the token of a request at an instant. -/
def checkBearer (p : Provider) (now : Instant) (headers : Http.Headers) :
    Except ProtocolError UsableToken :=
  match bearerToken? headers with
  | some token => p.checkToken now token
  | none => .error (.unauthorized "Invalid authorization header")

/-- The claims about a user that a token gives access to. -/
def userinfo (p : Provider) (headers : Http.Headers) (s : ProviderState) :
    Except ProtocolError Members :=
  match p.checkBearer s.clock.now headers with
  | .error e => .error e
  | .ok token =>
    match s.store.byClaims token.claims with
    | .error e => .error (.internal e.message)
    | .ok session => .ok (session.user.scopedClaims session.scopes)

end OpenIdProvider.Provider
