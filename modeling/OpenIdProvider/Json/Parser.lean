/-
  Parsing of JSON texts into values. Arrays and objects may be nested 127 deep; of several members
  of one name the last remains, and members are kept in the order of their names.
-/
import OpenIdProvider.Json.Reader

namespace OpenIdProvider.Json

namespace Reader

/-- How deep arrays and objects may be nested. -/
def depthLimit : Nat := 127

/-- The items of an array up to its closing bracket, which is not read. Each item takes at least
one byte, so a fuel above the length suffices. -/
def items {α : Type} (read : List UInt8 → Reading α) :
    Nat → Bool → List UInt8 → Reading (List α)
  | 0, _, bs => .ok ([], bs)
  | fuel + 1, first, bs =>
    (nextItem first bs).bind fun (more, rest) =>
    if more then
      (read rest).bind fun (x, rest) =>
      (items read fuel false rest).map fun (xs, rest) => (x :: xs, rest)
    else .ok ([], rest)

/-- The members of an object up to its closing brace, which is not read. -/
def members (read : List UInt8 → Reading Json) :
    Nat → Bool → List UInt8 → Reading (List (String × Json))
  | 0, _, bs => .ok ([], bs)
  | fuel + 1, first, bs =>
    (nextName first bs).bind fun (name?, rest) =>
    match name? with
    | none => .ok ([], rest)
    | some name =>
      (colon rest).bind fun (_, rest) =>
      (read rest).bind fun (v, rest) =>
      (members read fuel false rest).map fun (ms, rest) => ((name, v) :: ms, rest)

/-- An array read by the reader of its items, from its opening bracket on. -/
def array {α : Type} (read : List UInt8 → Reading α) (bs : List UInt8) : Reading (List α) :=
  within closeArray afterCloseArray (items read (bs.length + 1) true bs)

/-- A value. The number bounds how deep arrays and objects may still be nested. -/
def value : Nat → List UInt8 → Reading Json
  | levels, bs =>
    match skipSpace bs with
    | [] => failNext .endInValue []
    | b :: rest =>
      if b = 0x6E then (word ull rest).map fun (_, rest) => (.null, rest)
      else if b = 0x74 then (word rue rest).map fun (_, rest) => (.bool true, rest)
      else if b = 0x66 then (word alse rest).map fun (_, rest) => (.bool false, rest)
      else if b = 0x2D then (number false rest).map fun (n, rest) => (.number n, rest)
      else if isDigit b then (number true (b :: rest)).map fun (n, rest) => (.number n, rest)
      else if b = 0x22 then (string rest).map fun (s, rest) => (.string s, rest)
      else if b = 0x5B then
        match levels with
        | 0 => failNext .tooDeep (b :: rest)
        | levels + 1 => (array (value levels) rest).map fun (xs, rest) => (.array xs, rest)
      else if b = 0x7B then
        match levels with
        | 0 => failNext .tooDeep (b :: rest)
        | levels + 1 =>
          (within closeObject afterCloseObject
            (members (value levels) (rest.length + 1) true rest)).map fun (ms, rest) =>
            (.object (Members.ofList ms), rest)
      else failNext .expectedValue (b :: rest)

/-- Reads a whole text: only white space may follow the value. -/
def whole {α : Type} (read : List UInt8 → Reading α) (text : List UInt8) : Except Error α :=
  match settle (read text) with
  | .ok (x, rest) =>
    match skipSpace rest with
    | [] => .ok x
    | r => .error (Error.at text .trailingCharacters (r.length - 1))
  | .error (.located cause remaining) => .error (Error.at text cause remaining)
  | .error (.pending cause rest) => .error (Error.at text cause rest.length)

end Reader

/-- The value that a text in UTF-8 stands for. -/
def parse (text : List UInt8) : Except Error Json :=
  Reader.whole (Reader.value Reader.depthLimit) text

end OpenIdProvider.Json
