/-
  The sessions of a provider, and where their identifiers come from: codes that were queued, then
  random ones. The random ones are a given sequence, of which the store knows how many it has used.
-/
import OpenIdProvider.Session.Basic

namespace OpenIdProvider

/-- Why a session is not given. -/
inductive SessionError
  | notFound (id : String)
  /-- The token names no session. -/
  | unnamed
  | alreadyGranted (id : String)
deriving DecidableEq, Repr

def SessionError.message : SessionError → String
  | .notFound id => "Session not found: " ++ id
  | .unnamed => "Session not found: token has no jti claim"
  | .alreadyGranted id => "Session already granted: " ++ id

structure SessionStore where
  /-- At most one session of each identifier. -/
  sessions : List Session
  codes : Queue String
  /-- How many random identifiers have been used. -/
  drawn : Nat
deriving DecidableEq, Repr

namespace SessionStore

def empty : SessionStore := ⟨[], .empty, 0⟩

/-- Makes a text the identifier of a later session. -/
def queueCode (s : SessionStore) (code : String) : SessionStore :=
  { s with codes := s.codes.push code }

/-- The session of an identifier. -/
def get? (s : SessionStore) (id : String) : Option Session :=
  s.sessions.find? fun session => session.id == id

/-- Puts a session in the place of the one of its identifier, or behind all others. -/
def putIn (session : Session) : List Session → List Session
  | [] => [session]
  | other :: rest => if other.id = session.id then session :: rest else other :: putIn session rest

def put (s : SessionStore) (session : Session) : SessionStore :=
  { s with sessions := putIn session s.sessions }

/-- The identifier of the next session, and the store without it. -/
def nextId (random : Nat → String) (s : SessionStore) : String × SessionStore :=
  match s.codes.pop with
  | (some code, codes) => (code, { s with codes := codes })
  | (none, _) => (random s.drawn, { s with drawn := s.drawn + 1 })

/-- Begins a session. It takes the place of an earlier one of the same identifier. -/
def create (random : Nat → String) (s : SessionStore) (scopes : List String)
    (nonce : Option String) (user : User) : Session × SessionStore :=
  let (id, s) := s.nextId random
  let session : Session := ⟨id, scopes, nonce, user, false⟩
  (session, s.put session)

def byId (s : SessionStore) (id : String) : Except SessionError Session :=
  match s.get? id with
  | some session => .ok session
  | none => .error (.notFound id)

/-- The session that a token was made for. -/
def byClaims (s : SessionStore) (claims : Members) : Except SessionError Session :=
  match (claims.get? "jti").bind Json.asString? with
  | some id => s.byId id
  | none => .error .unnamed

/-- Redeems the code of a session, once. -/
def grant (s : SessionStore) (id : String) : Except SessionError (Session × SessionStore) :=
  match s.get? id with
  | none => .error (.notFound id)
  | some session =>
    if session.granted then .error (.alreadyGranted id)
    else
      let session := { session with granted := true }
      .ok (session, s.put session)

end SessionStore

end OpenIdProvider
