/-
  The responses of the provider. Each forbids caching; it is a redirect without a body or has a
  JSON body.
-/
import OpenIdProvider.Http.Message
import OpenIdProvider.ProtocolError

namespace OpenIdProvider.Http.Reply

/-- The header fields that forbid caching. -/
def noCache : List (String × String) :=
  [("cache-control", "no-cache, no-store, must-revalidate, max-age=0"), ("pragma", "no-cache")]

/-- A response with a body that is JSON text already. -/
def jsonBytes (status : Nat) (body : List UInt8) : Response :=
  ⟨status, noCache ++ [("content-type", "application/json")], body⟩

/-- A successful response with a JSON value. -/
def json (value : Json) : Response := jsonBytes 200 (Utf8.encodeChars value.chars)

/-- The body of an error. -/
def errorBody (e : ProtocolError) : Json :=
  .object [("error", .string e.kind.name), ("error_description", .string e.description)]

/-- The response to a rejected request. -/
def error (e : ProtocolError) : Response :=
  jsonBytes e.status (Utf8.encodeChars (errorBody e).chars)

/-- A redirect; a location that cannot stand in a header is an internal error. -/
def redirect (location : String) : Response :=
  if (Utf8.encode location).all Headers.isValueByte then
    ⟨302, noCache ++ [("location", location)], []⟩
  else error (.internal "failed to parse header value")

end OpenIdProvider.Http.Reply
