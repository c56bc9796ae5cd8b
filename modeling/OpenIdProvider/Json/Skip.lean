/-
  Values that nobody asked for: their brackets, words, numbers and strings are checked, their
  depth, the size of their numbers and the text of their strings are not.
-/
import OpenIdProvider.Json.Parser

namespace OpenIdProvider.Json.Skip

open Reader

/-- An opened bracket. -/
inductive Frame
  | array
  | object
deriving DecidableEq

/-- The rest of a string. A control character is not counted as read. -/
def string : List UInt8 → Reading Unit
  | [] => failHere .endInString []
  | 0x22 :: rest => .ok ((), rest)
  | 0x5C :: 0x75 :: a :: b :: c :: d :: rest =>
    match Ascii.hexByte? a, Ascii.hexByte? b, Ascii.hexByte? c, Ascii.hexByte? d with
    | some _, some _, some _, some _ => string rest
    | _, _, _, _ => failHere .invalidEscape rest
  | 0x5C :: 0x75 :: _ => failHere .endInString []
  | 0x5C :: b :: rest =>
    if (shortEscape? b).isSome then string rest else failHere .invalidEscape rest
  | [0x5C] => failHere .endInString []
  | b :: rest => if b < 0x20 then failHere .controlCharacter (b :: rest) else string rest

/-- An exponent after its letter. -/
def exponent (bs : List UInt8) : Reading Unit :=
  let bs :=
    match bs with
    | 0x2B :: rest => rest
    | 0x2D :: rest => rest
    | other => other
  match bs with
  | [] => failHere .invalidNumber []
  | b :: rest =>
    if isDigit b then .ok ((), rest.dropWhile isDigit) else failHere .invalidNumber rest

/-- What may follow the digits of a number: an exponent. -/
def exponentIf (bs : List UInt8) : Reading Unit :=
  match bs with
  | b :: rest => if isExponentMark b then exponent rest else .ok ((), bs)
  | [] => .ok ((), [])

/-- What may follow the digits of an integer. -/
def fractionIf (bs : List UInt8) : Reading Unit :=
  match bs with
  | 0x2E :: rest =>
    match rest with
    | d :: more =>
      if isDigit d then exponentIf (more.dropWhile isDigit)
      else failNext .invalidNumber (d :: more)
    | [] => failNext .invalidNumber []
  | _ => exponentIf bs

/-- A number without its sign. -/
def number : List UInt8 → Reading Unit
  | [] => failHere .invalidNumber []
  | b :: rest =>
    if b = 0x30 then
      match rest with
      | d :: more => if isDigit d then failNext .invalidNumber (d :: more) else fractionIf rest
      | [] => fractionIf []
    else if isDigit b then fractionIf (rest.dropWhile isDigit)
    else failHere .invalidNumber rest

/-- The brackets that close after a value, up to the place of the next value or the end. The frames
are the open brackets, the innermost first; `filled` tells whether a value precedes. -/
def closing : Nat → Bool → List Frame → List UInt8 → Reading (List Frame)
  | 0, _, frames, bs => .ok (frames, bs)
  | _ + 1, _, [], bs => .ok ([], bs)
  | fuel + 1, filled, frame :: frames, bs =>
    match skipSpace bs with
    | [] => failNext (if frame = .array then .endInArray else .endInObject) []
    | b :: rest =>
      if b = 0x2C ∧ filled then .ok (frame :: frames, rest)
      else if (b = 0x5D ∧ frame = .array) ∨ (b = 0x7D ∧ frame = .object) then
        closing fuel true frames rest
      else if filled then
        failNext (if frame = .array then .expectedCommaOrBracket else .expectedCommaOrBrace)
          (b :: rest)
      else .ok (frame :: frames, b :: rest)

/-- The name of a member and its colon. -/
def name (bs : List UInt8) : Reading Unit :=
  match skipSpace bs with
  | [] => failNext .endInObject []
  | 0x22 :: rest => (string rest).bind fun (_, rest) => colon rest
  | rest => failNext .keyNotString rest

/-- A word, a number or a string; none for an opening bracket. -/
def scalar (bs : List UInt8) : Reading (Option Frame) :=
  match skipSpace bs with
  | [] => failNext .endInValue []
  | b :: rest =>
    if b = 0x6E then (word ull rest).map fun (_, rest) => (none, rest)
    else if b = 0x74 then (word rue rest).map fun (_, rest) => (none, rest)
    else if b = 0x66 then (word alse rest).map fun (_, rest) => (none, rest)
    else if b = 0x2D then (number rest).map fun (_, rest) => (none, rest)
    else if isDigit b then (number (b :: rest)).map fun (_, rest) => (none, rest)
    else if b = 0x22 then (string rest).map fun (_, rest) => (none, rest)
    else if b = 0x5B then .ok (some .array, rest)
    else if b = 0x7B then .ok (some .object, rest)
    else failNext .expectedValue (b :: rest)

/-- Values and brackets until the first value is complete. -/
def values : Nat → List Frame → List UInt8 → Reading Unit
  | 0, _, bs => .ok ((), bs)
  | fuel + 1, frames, bs =>
    (scalar bs).bind fun (opened, rest) =>
    let frames' :=
      match opened with
      | some frame => frame :: frames
      | none => frames
    (closing (rest.length + 1) opened.isNone frames' rest).bind fun (left, rest) =>
    match left with
    | [] => .ok ((), rest)
    | .array :: _ => values fuel left rest
    | .object :: _ => (name rest).bind fun (_, rest) => values fuel left rest

/-- A value of any kind. -/
def value (bs : List UInt8) : Reading Unit := values (bs.length + 1) [] bs

end OpenIdProvider.Json.Skip
