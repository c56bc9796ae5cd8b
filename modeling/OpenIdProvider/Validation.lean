/-
  Checks on the parameters of a request. Each gives the error that the request is answered with.
-/
import OpenIdProvider.Params

namespace OpenIdProvider.Validation

/-- Every name must have a value that is not empty; the first without one is reported. -/
def requireAll (params : Params) (names : List String) : Except ProtocolError Unit :=
  match names.find? fun name => params.get name == "" with
  | none => .ok ()
  | some name =>
    .error (.invalidRequest ("The request is missing the required parameter: " ++ name))

/-- The value of a name must be the expected one. -/
def requireEqual (params : Params) (name expected : String) (kind : ErrorKind)
    (message : String) : Except ProtocolError Unit :=
  let value := params.get name
  if expected = value then .ok () else .error ⟨kind, message ++ ": " ++ value, 401⟩

/-- Every requested scope must be supported; the first that is not is reported. -/
def requireSupported (requested supported : List String) : Except ProtocolError Unit :=
  match requested.find? fun scope => !supported.contains scope with
  | none => .ok ()
  | some scope => .error (.invalidScope ("Unsupported scope: " ++ scope))

end OpenIdProvider.Validation
