/-
  Sessions: one authorization each. The identifier of a session is the code that its client
  redeems, and stands in every token made for it.
-/
import OpenIdProvider.Key.Authority
import OpenIdProvider.Settings
import OpenIdProvider.User

namespace OpenIdProvider

/-- One authorization. -/
structure Session where
  id : String
  /-- What was asked for, in order. -/
  scopes : List String
  nonce : Option String
  user : User
  /-- Whether the code has been redeemed. -/
  granted : Bool
deriving DecidableEq, Repr

namespace Session

/-- Why a token is not made. -/
inductive MintError
  /-- The token would end outside the representable dates. -/
  | outOfRange
  | unsigned (e : Token.Error)

/-- The claims of every token: about whom, by whom, for whom and from when to when it holds. -/
def standardClaims (s : Session) (settings : Settings) (now finish : Instant) : Members :=
  Members.ofList
    [("aud", .string settings.clientId), ("exp", .ofInt finish.seconds),
      ("jti", .string s.id), ("iat", .ofInt now.seconds), ("iss", .string settings.issuer),
      ("nbf", .ofInt now.seconds),
      ("sub", .string s.user.subject)]

/-- Sets the nonce, if there is one. -/
def insertNonce (s : Session) (claims : Members) : Members :=
  match s.nonce with
  | none => claims
  | some nonce => claims.insert "nonce" (.string nonce)

/-- The claims of an ID token: those that the scopes release, those of every token, and the
nonce. -/
def identityClaims (s : Session) (settings : Settings) (now finish : Instant) : Members :=
  s.insertNonce
    ((s.user.scopedClaims s.scopes).insertAll (s.standardClaims settings now finish))

/-- Signs the claims of a token that holds for a duration. -/
def mint (keys : KeyAuthority) (ttl : Duration) (now : Instant) (claims : Instant → Members) :
    Except MintError String :=
  match Instant.plus? now ttl with
  | none => .error .outOfRange
  | some finish => (keys.sign (.object (claims finish))).mapError .unsigned

def accessToken (s : Session) (settings : Settings) (keys : KeyAuthority) (now : Instant) :
    Except MintError String :=
  mint keys settings.accessTtl now (s.standardClaims settings now)

def refreshToken (s : Session) (settings : Settings) (keys : KeyAuthority) (now : Instant) :
    Except MintError String :=
  mint keys settings.refreshTtl now (s.standardClaims settings now)

def idToken (s : Session) (settings : Settings) (keys : KeyAuthority) (now : Instant) :
    Except MintError String :=
  mint keys settings.accessTtl now (s.identityClaims settings now)

/-- Whether a client gets an ID token: its first scope asks for one. -/
def wantsIdToken (s : Session) : Bool := s.scopes.head? == some Scope.openid

end Session

end OpenIdProvider
