/-
  The errors that clients are told of: a kind from a closed set, a description and an HTTP status.
-/
import OpenIdProvider.Json.Failure

namespace OpenIdProvider

inductive ErrorKind
  | invalidRequest
  | invalidClient
  | invalidGrant
  | unsupportedGrantType
  | invalidScope
  | internalServerError
deriving DecidableEq, Repr

namespace ErrorKind

def all : List ErrorKind :=
  [invalidRequest, invalidClient, invalidGrant, unsupportedGrantType, invalidScope,
    internalServerError]

/-- The name of a kind in responses. -/
def name : ErrorKind → String
  | invalidRequest => "invalid_request"
  | invalidClient => "invalid_client"
  | invalidGrant => "invalid_grant"
  | unsupportedGrantType => "unsupported_grant_type"
  | invalidScope => "invalid_scope"
  | internalServerError => "internal_server_error"

/-- The kind of a name. -/
def ofName (name : String) : Except Json.Cause ErrorKind :=
  match all.find? fun kind => kind.name == name with
  | some kind => .ok kind
  | none => .error (.unknownVariant name (all.map ErrorKind.name))

end ErrorKind

/-- A rejected request. -/
structure ProtocolError where
  kind : ErrorKind
  description : String
  status : Nat
deriving DecidableEq, Repr

namespace ProtocolError

def invalidRequest (description : String) : ProtocolError :=
  ⟨.invalidRequest, description, 400⟩

/-- For tokens that cannot be used. -/
def unauthorized (description : String) : ProtocolError := ⟨.invalidRequest, description, 401⟩

def invalidGrant (description : String) : ProtocolError := ⟨.invalidGrant, description, 401⟩

def invalidScope (description : String) : ProtocolError := ⟨.invalidScope, description, 400⟩

def internal (description : String) : ProtocolError := ⟨.internalServerError, description, 500⟩

/-- The error as one line of text. -/
def message (e : ProtocolError) : String := e.kind.name ++ ": " ++ e.description

end ProtocolError

end OpenIdProvider
