/-
  The claims of a token as they are read. The payload may hold any JSON value, but where it has the
  registered claims it is read a second time, as a record of them. That reading keeps none of the
  values, and stops inside a list or an object that stands where a number or a text is wanted: an
  empty one is passed over for a number, every other one is taken for a broken record.
-/
import OpenIdProvider.Json.Record

namespace OpenIdProvider.Token.Claims

open Json Json.Reader

/-- A registered instant. -/
def instant (bs : List UInt8) : Reading Json :=
  match skipSpace bs with
  | 0x5B :: rest => .ok (.null, afterCloseArray rest)
  | 0x7B :: rest => .ok (.null, afterCloseObject rest)
  | rest => value 0 rest

/-- A registered text. -/
def subject (bs : List UInt8) : Reading Json :=
  match skipSpace bs with
  | 0x5B :: rest => .ok (.null, 0x5B :: rest)
  | 0x7B :: rest => .ok (.null, 0x7B :: rest)
  | rest => value 0 rest

/-- The registered claims that are looked at. -/
def shape : Shape where
  name := "struct ClaimsForValidation"
  fields :=
    [⟨"exp", true, true, fun _ => instant⟩, ⟨"nbf", true, true, fun _ => instant⟩,
      ⟨"sub", true, false, fun _ => subject⟩, ⟨"iss", true, false, value⟩,
      ⟨"aud", true, false, value⟩]

/-- The claims of a payload. -/
def parse (payload : List UInt8) : Except Json.Error Json :=
  (Json.parse payload).bind fun claims => (shape.parse payload).map fun _ => claims

end OpenIdProvider.Token.Claims
