/-
  HTTP requests and responses as far as the provider looks at them. A header value is a list of
  bytes; it can be read as text only if every byte is visible ASCII, a space or a tab.
-/
import OpenIdProvider.Text.Ascii
import OpenIdProvider.Text.Utf8

namespace OpenIdProvider.Http

/-- A header field; its name is in lower case. -/
structure Header where
  name : String
  value : List UInt8

/-- The header fields of a message in order. -/
abbrev Headers := List Header

namespace Headers

/-- Visible ASCII, space and tab. -/
def isReadable (b : UInt8) : Bool := (0x20 ≤ b && b < 0x7F) || b = 0x09

/-- The bytes that a header value may hold. -/
def isValueByte (b : UInt8) : Bool := (0x20 ≤ b && b ≠ 0x7F) || b = 0x09

/-- The first value of a name. -/
def first? (headers : Headers) (name : String) : Option (List UInt8) :=
  (headers.find? fun h => h.name == name).map Header.value

/-- The first value of a name, if it can be read as text. -/
def text? (headers : Headers) (name : String) : Option (List Char) :=
  match headers.first? name with
  | none => none
  | some value =>
    if value.all isReadable then some (value.map fun b => Char.ofNat b.toNat) else none

def ofPairs (pairs : List (String × String)) : Headers :=
  pairs.map fun (name, value) => ⟨Ascii.lower name, Utf8.encode value⟩

end Headers

inductive Method
  | get
  | head
  | post
  | other (name : String)
deriving DecidableEq

def Method.ofName (name : String) : Method :=
  if name = "GET" then .get
  else if name = "HEAD" then .head
  else if name = "POST" then .post
  else .other name

/-- A request for a path. The query is what follows the first `?` of the target. The body is one
that the HTTP framework hands on: by default it refuses bodies of more than two megabytes with
status 413 before an endpoint sees them, and such requests are left out here. -/
structure Request where
  method : Method
  path : String
  query : Option (List UInt8)
  headers : Headers
  body : List UInt8

/-- A response; its header fields are texts. -/
structure Response where
  status : Nat
  headers : List (String × String)
  body : List UInt8

end OpenIdProvider.Http
