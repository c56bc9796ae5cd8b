/-
  The parameters of a request, merged from a form body and the query. Of several values of a name
  the first counts, and those of the body come before those of the query. A parameter that is
  absent reads as the empty text.
-/
import OpenIdProvider.Codec.Form
import OpenIdProvider.Http.Message
import OpenIdProvider.ProtocolError
import OpenIdProvider.Text.Blank

namespace OpenIdProvider

/-- Named parameters; of several values of a name the first counts. -/
structure Params where
  pairs : List (String × String)

namespace Params

/-- The value of a name, or the empty text. -/
def get (params : Params) (name : String) : String := (params.pairs.lookup name).getD ""

/-- The value of a name if it is not empty. -/
def optional (params : Params) (name : String) : Option String :=
  if params.get name = "" then none else some (params.get name)

/-- Gives a value to a name that has none or the empty one. -/
def setDefault (params : Params) (name value : String) : Params :=
  if params.get name = "" then ⟨(name, value) :: params.pairs⟩ else params

/-- The parameters of a form body and a query. -/
def ofForms (query : Option (List UInt8)) (body : List UInt8) : Params :=
  ⟨Form.decode body ++ Form.decode (query.getD [])⟩

/-- Whether the body of a request is a form: the content type begins with that of forms, after any
white space. -/
def declaresForm (headers : Http.Headers) : Bool :=
  match headers.text? "content-type" with
  | none => false
  | some value => (Split.dropPrefix? Form.mediaType.toList (Blank.trimStart value)).isSome

/-- Refuses a text in which a `%` begins no escape. -/
def checkEscapes (bytes : List UInt8) : Except ProtocolError Unit :=
  match Percent.badEscape? bytes with
  | none => .ok ()
  | some piece =>
    .error (.internal ("invalid URL escape \"" ++ Utf8.decodeLossy piece ++ "\""))

/-- The parameters of a request. The body is read only if it is declared to be a form. -/
def ofRequest (headers : Http.Headers) (query : Option (List UInt8)) (body : List UInt8) :
    Except ProtocolError Params := do
  let body := if declaresForm headers then body else []
  checkEscapes body
  match query with
  | some q => checkEscapes q
  | none => .ok ()
  .ok (ofForms query body)

end Params

end OpenIdProvider
