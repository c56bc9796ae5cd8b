/-
  Base64 in its standard and its URL-safe alphabet. Reading is strict: symbols of the alphabet
  only, padding as the mode asks, and no bits after the last byte.
-/
import OpenIdProvider.Text.Ascii

namespace OpenIdProvider.Base64

inductive Alphabet
  | standard
  | urlSafe
deriving DecidableEq

/-- Whether a text is filled up with `=` to a multiple of four symbols. -/
inductive Padding
  | canonical
  | none
deriving DecidableEq

/-- The symbols 62 and 63. -/
def Alphabet.last : Alphabet → Char × Char
  | .standard => ('+', '/')
  | .urlSafe => ('-', '_')

/-- The symbol of six bits. -/
def symbol (alphabet : Alphabet) (n : Nat) : Char :=
  if n < 26 then Char.ofNat (65 + n)
  else if n < 52 then Char.ofNat (71 + n)
  else if n < 62 then Char.ofNat (n - 4)
  else if n = 62 then alphabet.last.1
  else alphabet.last.2

/-- The six bits of a symbol. -/
def value? (alphabet : Alphabet) (b : UInt8) : Option Nat :=
  let c := Char.ofNat b.toNat
  if Ascii.isUpper c then some (c.toNat - 65)
  else if Ascii.isLower c then some (c.toNat - 71)
  else if Ascii.isDigit c then some (c.toNat + 4)
  else if c = alphabet.last.1 then some 62
  else if c = alphabet.last.2 then some 63
  else none

/-- The text of some bytes: each three bytes give four symbols. -/
def encode (alphabet : Alphabet) (padding : Padding) : List UInt8 → List Char
  | [] => []
  | [a] =>
    let n := a.toNat * 16
    [symbol alphabet (n / 64), symbol alphabet (n % 64)] ++
      (if padding = .canonical then ['=', '='] else [])
  | [a, b] =>
    let n := (a.toNat * 256 + b.toNat) * 4
    [symbol alphabet (n / 4096), symbol alphabet (n / 64 % 64), symbol alphabet (n % 64)] ++
      (if padding = .canonical then ['='] else [])
  | a :: b :: c :: rest =>
    let n := (a.toNat * 256 + b.toNat) * 256 + c.toNat
    symbol alphabet (n / 262144) :: symbol alphabet (n / 4096 % 64) ::
      symbol alphabet (n / 64 % 64) :: symbol alphabet (n % 64) :: encode alphabet padding rest

/-- Base64 for URLs, without padding. -/
def encodeUrl (bs : List UInt8) : List Char := encode .urlSafe .none bs

inductive Error
  | invalidSymbol (offset : Nat) (symbol : UInt8)
  | invalidLength (length : Nat)
  | invalidLastSymbol (offset : Nat) (symbol : UInt8)
  | invalidPadding
deriving DecidableEq, Repr

def Error.message : Error → String
  | .invalidSymbol offset b =>
    "Invalid symbol " ++ toString b.toNat ++ ", offset " ++ toString offset ++ "."
  | .invalidLength n => "Invalid input length: " ++ toString n
  | .invalidLastSymbol offset b =>
    "Invalid last symbol " ++ toString b.toNat ++ ", offset " ++ toString offset ++ "."
  | .invalidPadding => "Invalid padding"

/-- The byte `=`. -/
def pad : UInt8 := 0x3D

/-- The last group of a text: up to four symbols, of which the last ones may be padding. The
offset counts the symbols before the group. -/
def lastSymbols (alphabet : Alphabet) (offset : Nat) :
    Nat → Nat → List UInt8 → Except Error (List (UInt8 × Nat) × Nat)
  | _, padded, [] => .ok ([], padded)
  | i, padded, b :: rest =>
    if b = pad then
      if i < 2 then .error (.invalidSymbol (offset + i) b)
      else lastSymbols alphabet offset (i + 1) (padded + 1) rest
    else if 0 < padded then .error (.invalidSymbol (offset + i - padded) pad)
    else
      match value? alphabet b with
      | none => .error (.invalidSymbol (offset + i) b)
      | some n =>
        (lastSymbols alphabet offset (i + 1) padded rest).map fun (vs, p) => ((b, n) :: vs, p)

/-- The bytes of the last group. -/
def decodeLast (alphabet : Alphabet) (padding : Padding) (offset : Nat) (group : List UInt8) :
    Except Error (List UInt8) :=
  (lastSymbols alphabet offset 0 0 group).bind fun (symbols, padded) =>
  let n := symbols.length
  if n < 2 then .error (.invalidLength (offset + n))
  else if padding = .canonical ∧ (padded + n) % 4 ≠ 0 then .error .invalidPadding
  else if padding = .none ∧ 0 < padded then .error .invalidPadding
  else
    match symbols with
    | [(_, a), (s, b)] =>
      if b % 16 = 0 then .ok [UInt8.ofNat (a * 4 + b / 16)]
      else .error (.invalidLastSymbol (offset + 1) s)
    | [(_, a), (_, b), (s, c)] =>
      if c % 4 = 0 then
        .ok [UInt8.ofNat (a * 4 + b / 16), UInt8.ofNat (b % 16 * 16 + c / 4)]
      else .error (.invalidLastSymbol (offset + 2) s)
    | [(_, a), (_, b), (_, c), (_, d)] =>
      .ok [UInt8.ofNat (a * 4 + b / 16), UInt8.ofNat (b % 16 * 16 + c / 4),
        UInt8.ofNat (c % 4 * 64 + d)]
    | _ => .ok []

/-- The groups of four symbols before the last group, then the last group. -/
def decodeGroups (alphabet : Alphabet) (padding : Padding) :
    Nat → List UInt8 → Except Error (List UInt8)
  | offset, a :: b :: c :: d :: e :: rest =>
    match value? alphabet a with
    | none => .error (.invalidSymbol offset a)
    | some w =>
      match value? alphabet b with
      | none => .error (.invalidSymbol (offset + 1) b)
      | some x =>
        match value? alphabet c with
        | none => .error (.invalidSymbol (offset + 2) c)
        | some y =>
          match value? alphabet d with
          | none => .error (.invalidSymbol (offset + 3) d)
          | some z =>
            (decodeGroups alphabet padding (offset + 4) (e :: rest)).map fun bytes =>
              UInt8.ofNat (w * 4 + x / 16) :: UInt8.ofNat (x % 16 * 16 + y / 4) ::
                UInt8.ofNat (y % 4 * 64 + z) :: bytes
  | offset, group => decodeLast alphabet padding offset group

/-- The bytes of a text. A byte outside the alphabet that stands alone after the last full group,
such as a line break, is named before all others. -/
def decode (alphabet : Alphabet) (padding : Padding) (text : List UInt8) :
    Except Error (List UInt8) :=
  match text.getLast? with
  | none => .ok []
  | some b =>
    if text.length % 4 = 1 ∧ b ≠ pad ∧ (value? alphabet b).isNone then
      .error (.invalidSymbol (text.length - 1) b)
    else decodeGroups alphabet padding 0 text

/-- Reads Base64 for URLs, without padding. -/
def decodeUrl (text : List UInt8) : Except Error (List UInt8) := decode .urlSafe .none text

end OpenIdProvider.Base64
