/-
  The small readers of JSON texts: white space, words, numbers and strings. A reader takes the
  bytes that are left and gives what it read with the bytes after it. A failure tells how many
  bytes were left where it was noticed; one that comes from the shape of a value, and not from the
  text, is first `pending`: it is placed where its reader stands in the end.
-/
import OpenIdProvider.Json.Failure
import OpenIdProvider.Text.Utf8

namespace OpenIdProvider.Json

inductive Failure
  | located (cause : Cause) (remaining : Nat)
  | pending (cause : Cause) (rest : List UInt8)

/-- What a reader gives: a value with the bytes after it, or a failure. -/
abbrev Reading (α : Type) := Except Failure (α × List UInt8)

namespace Reader

/-- A failure noticed behind the bytes read so far. -/
def failHere {α : Type} (cause : Cause) (rest : List UInt8) : Except Failure α :=
  .error (.located cause rest.length)

/-- A failure noticed at the next byte, which is counted as read if there is one. -/
def failNext {α : Type} (cause : Cause) (rest : List UInt8) : Except Failure α :=
  .error (.located cause (rest.length - 1))

def isSpace (b : UInt8) : Bool := b = 0x20 || b = 0x0A || b = 0x09 || b = 0x0D

def skipSpace (bs : List UInt8) : List UInt8 := bs.dropWhile isSpace

def isDigit (b : UInt8) : Bool := 0x30 ≤ b && b ≤ 0x39

def digitValue (b : UInt8) : Nat := b.toNat - 0x30

/-- The rest of a word whose first letter has been read. -/
def word : List UInt8 → List UInt8 → Reading Unit
  | [], bs => .ok ((), bs)
  | _ :: _, [] => failHere .endInValue []
  | w :: ws, b :: bs => if w = b then word ws bs else failHere .expectedWord bs

def ull : List UInt8 := [0x75, 0x6C, 0x6C]

def rue : List UInt8 := [0x72, 0x75, 0x65]

def alse : List UInt8 := [0x61, 0x6C, 0x73, 0x65]

/-! ## Numbers -/

def maxUInt64 : Nat := 0xFFFFFFFFFFFFFFFF

def maxInt32 : Nat := 0x7FFFFFFF

/-- Scales a number by a power of ten in steps of at most 10³⁰⁸, none if it grows too large. -/
def scaleByTen : Nat → Binary64 → Int → Option Binary64
  | 0, _, _ => some Binary64.zero
  | fuel + 1, x, e =>
    if e.natAbs ≤ 308 then
      match Binary64.powerOfTen? e.natAbs with
      | some p => if 0 ≤ e then x.mul? p else x.div? p
      | none => none
    else if x.isZero then some x
    else if 0 ≤ e then none
    else
      match Binary64.powerOfTen? 308 with
      | some p =>
        match x.div? p with
        | some y => scaleByTen fuel y (e + 308)
        | none => none
      | none => none

/-- The number `significand * 10 ^ exponent`: the significand is rounded first, then scaled. -/
def floatOf (positive : Bool) (significand : Nat) (exponent : Int) (rest : List UInt8) :
    Reading Number :=
  match (Binary64.ofNat? significand).bind fun x => scaleByTen 8 x exponent with
  | some x => .ok (.float (if positive then x else x.neg), rest)
  | none => failHere .numberOutOfRange rest

/-- The digits of an exponent, whose value must stay below `2 ^ 31`; when it does not, the number
is zero or too large. -/
def exponentDigits (positive : Bool) (significand : Nat) (start : Int) (negativeExp : Bool) :
    Nat → List UInt8 → Reading Number
  | e, [] => floatOf positive significand (if negativeExp then start - e else start + e) []
  | e, b :: bs =>
    if isDigit b then
      let next := 10 * e + digitValue b
      if maxInt32 < next then
        if significand ≠ 0 ∧ !negativeExp then failHere .numberOutOfRange bs
        else
          .ok (.float (if positive then Binary64.zero else Binary64.zero.neg),
            bs.dropWhile isDigit)
      else exponentDigits positive significand start negativeExp next bs
    else floatOf positive significand (if negativeExp then start - e else start + e) (b :: bs)

/-- The exponent after its letter. -/
def exponentPart (positive : Bool) (significand : Nat) (start : Int) (bs : List UInt8) :
    Reading Number :=
  let (negativeExp, bs) :=
    match bs with
    | 0x2B :: rest => (false, rest)
    | 0x2D :: rest => (true, rest)
    | _ => (false, bs)
  match bs with
  | [] => failHere .endInValue []
  | b :: rest =>
    if isDigit b then exponentDigits positive significand start negativeExp (digitValue b) rest
    else failHere .invalidNumber rest

def isExponentMark (b : UInt8) : Bool := b = 0x65 || b = 0x45

/-- What follows the digits of a fraction. -/
def afterFraction (positive : Bool) (significand : Nat) (exponent : Int) (bs : List UInt8) :
    Reading Number :=
  match bs with
  | b :: rest =>
    if isExponentMark b then exponentPart positive significand exponent rest
    else floatOf positive significand exponent bs
  | [] => floatOf positive significand exponent bs

/-- The digits after the decimal point. Those that would carry the significand beyond 64 bits are
passed over. -/
def fraction (positive : Bool) (before : Int) : Nat → Nat → List UInt8 → Reading Number
  | significand, after, [] =>
    if after = 0 then failNext .endInValue []
    else afterFraction positive significand (before - after) []
  | significand, after, b :: bs =>
    if isDigit b then
      let next := 10 * significand + digitValue b
      if maxUInt64 < next then
        afterFraction positive significand (before - after) ((b :: bs).dropWhile isDigit)
      else fraction positive before next (after + 1) bs
    else if after = 0 then failNext .invalidNumber (b :: bs)
    else afterFraction positive significand (before - after) (b :: bs)

/-- The digits of an integer that does not fit into 64 bits: each further one scales by ten. -/
def longInteger (positive : Bool) (significand : Nat) : Nat → List UInt8 → Reading Number
  | exponent, [] => floatOf positive significand exponent []
  | exponent, b :: bs =>
    if isDigit b then longInteger positive significand (exponent + 1) bs
    else if b = 0x2E then fraction positive exponent significand 0 bs
    else if isExponentMark b then exponentPart positive significand exponent bs
    else floatOf positive significand exponent (b :: bs)

/-- The value of an integer of at most 64 bits; zero with a sign and integers below `-2 ^ 63` are
not exact integers. -/
def integerValue (positive : Bool) (significand : Nat) : Number :=
  if positive then .int significand
  else if significand = 0 ∨ 0x8000000000000000 < significand then
    .float (Binary64.ofInt significand).neg
  else .int (-significand)

/-- What follows the digits of an integer. -/
def afterInteger (positive : Bool) (significand : Nat) (bs : List UInt8) : Reading Number :=
  match bs with
  | b :: rest =>
    if b = 0x2E then fraction positive 0 significand 0 rest
    else if isExponentMark b then exponentPart positive significand 0 rest
    else .ok (integerValue positive significand, bs)
  | [] => .ok (integerValue positive significand, bs)

/-- The digits of an integer after the first one. -/
def integerDigits (positive : Bool) : Nat → List UInt8 → Reading Number
  | significand, [] => afterInteger positive significand []
  | significand, b :: bs =>
    if isDigit b then
      let next := 10 * significand + digitValue b
      if maxUInt64 < next then longInteger positive significand 1 bs
      else integerDigits positive next bs
    else afterInteger positive significand (b :: bs)

/-- A number without its sign. -/
def number (positive : Bool) : List UInt8 → Reading Number
  | [] => failHere .endInValue []
  | b :: bs =>
    if b = 0x30 then
      match bs with
      | d :: _ => if isDigit d then failNext .invalidNumber bs else afterInteger positive 0 bs
      | [] => afterInteger positive 0 bs
    else if isDigit b then integerDigits positive (digitValue b) bs
    else failHere .invalidNumber bs

/-! ## Strings -/

/-- Four hexadecimal digits. -/
def hex4 (bs : List UInt8) : Reading Nat :=
  match bs with
  | a :: b :: c :: d :: rest =>
    match Ascii.hexByte? a, Ascii.hexByte? b, Ascii.hexByte? c, Ascii.hexByte? d with
    | some w, some x, some y, some z => .ok (((w * 16 + x) * 16 + y) * 16 + z, rest)
    | _, _, _, _ => failHere .invalidEscape rest
  | _ => failHere .endInString []

def isLeading (n : Nat) : Bool := 0xD800 ≤ n && n ≤ 0xDBFF

def isTrailing (n : Nat) : Bool := 0xDC00 ≤ n && n ≤ 0xDFFF

/-- The character of a `\u` escape; one beyond the first plane takes two escapes. -/
def unicodeEscape (bs : List UInt8) : Reading Char :=
  (hex4 bs).bind fun (n, bs) =>
  if isTrailing n then failHere .loneSurrogate bs
  else if isLeading n then
    match bs with
    | [] => failHere .endInString []
    | 0x5C :: bs =>
      match bs with
      | [] => failHere .endInString []
      | 0x75 :: bs =>
        (hex4 bs).bind fun (m, bs) =>
        if isTrailing m then
          .ok (Char.ofNat ((n - 0xD800) * 0x400 + (m - 0xDC00) + 0x10000), bs)
        else failHere .loneSurrogate bs
      | _ :: bs => failHere .brokenSurrogatePair bs
    | _ :: bs => failHere .brokenSurrogatePair bs
  else .ok (Char.ofNat n, bs)

/-- The byte of a short escape. -/
def shortEscape? (b : UInt8) : Option UInt8 :=
  if b = 0x22 ∨ b = 0x5C ∨ b = 0x2F then some b
  else if b = 0x62 then some 0x08
  else if b = 0x66 then some 0x0C
  else if b = 0x6E then some 0x0A
  else if b = 0x72 then some 0x0D
  else if b = 0x74 then some 0x09
  else none

/-- An escape after its backslash, as the bytes it stands for. -/
def escape : List UInt8 → Reading (List UInt8)
  | [] => failHere .endInString []
  | b :: bs =>
    match shortEscape? b with
    | some c => .ok ([c], bs)
    | none =>
      if b = 0x75 then
        (unicodeEscape bs).bind fun (c, bs) => .ok (String.utf8EncodeChar c, bs)
      else failHere .invalidEscape bs

/-- The bytes of a string after its opening quote, kept in reverse, and what follows the closing
quote. Each step reads at least one byte, so a fuel of the length suffices. -/
def stringBytes : Nat → List UInt8 → List UInt8 → Reading (List UInt8)
  | _, _, [] => failHere .endInString []
  | 0, _, bs => failHere .endInString bs
  | fuel + 1, acc, b :: bs =>
    if b = 0x22 then .ok (acc.reverse, bs)
    else if b = 0x5C then
      (escape bs).bind fun (cs, bs) => stringBytes fuel (cs.reverse ++ acc) bs
    else if b < 0x20 then failHere .controlCharacter bs
    else stringBytes fuel (b :: acc) bs

/-- A string after its opening quote. Ill-formed text is noticed at the closing quote. -/
def string (bs : List UInt8) : Reading String :=
  (stringBytes bs.length [] bs).bind fun (raw, rest) =>
  match Utf8.decode? raw with
  | some s => .ok (s, rest)
  | none => .error (.located .illFormedText (rest.length + 1))

/-! ## Brackets -/

/-- The end of an array whose items have been read. -/
def closeArray (bs : List UInt8) : Reading Unit :=
  match skipSpace bs with
  | [] => failNext .endInArray []
  | 0x5D :: rest => .ok ((), rest)
  | 0x2C :: rest =>
    match skipSpace rest with
    | 0x5D :: r => failNext .trailingComma (0x5D :: r)
    | r => failNext .trailingCharacters r
  | rest => failNext .trailingCharacters rest

/-- The end of an object whose members have been read. -/
def closeObject (bs : List UInt8) : Reading Unit :=
  match skipSpace bs with
  | [] => failNext .endInObject []
  | 0x7D :: rest => .ok ((), rest)
  | 0x2C :: rest => failNext .trailingComma (0x2C :: rest)
  | rest => failNext .trailingCharacters rest

/-- Where a reader stands after an attempt to read the end of an array. -/
def afterCloseArray (bs : List UInt8) : List UInt8 :=
  match skipSpace bs with
  | 0x5D :: rest => rest
  | 0x2C :: rest => skipSpace rest
  | rest => rest

/-- Where a reader stands after an attempt to read the end of an object. -/
def afterCloseObject (bs : List UInt8) : List UInt8 :=
  match skipSpace bs with
  | 0x7D :: rest => rest
  | rest => rest

/-- Whether another item follows. Before an item its comma is read; the closing bracket is not. -/
def nextItem (first : Bool) (bs : List UInt8) : Reading Bool :=
  match skipSpace bs with
  | [] => failNext .endInArray []
  | 0x5D :: rest => .ok (false, 0x5D :: rest)
  | b :: rest =>
    if first then .ok (true, b :: rest)
    else if b = 0x2C then
      match skipSpace rest with
      | [] => failNext .endInValue []
      | 0x5D :: r => failNext .trailingComma (0x5D :: r)
      | r => .ok (true, r)
    else failNext .expectedCommaOrBracket (b :: rest)

/-- Whether another member follows: none at the closing brace, which is not read; else its name and
the bytes after it. -/
def nextName (first : Bool) (bs : List UInt8) : Reading (Option String) :=
  match skipSpace bs with
  | [] => failNext .endInObject []
  | 0x7D :: rest => .ok (none, 0x7D :: rest)
  | b :: rest =>
    if first then
      if b = 0x22 then (string rest).map fun (s, rest) => (some s, rest)
      else failNext .keyNotString (b :: rest)
    else if b = 0x2C then
      match skipSpace rest with
      | [] => failNext .endInValue []
      | 0x22 :: r => (string r).map fun (s, rest) => (some s, rest)
      | 0x7D :: r => failNext .trailingComma (0x7D :: r)
      | r => failNext .keyNotString r
    else failNext .expectedCommaOrBrace (b :: rest)

/-- The colon between a name and its value. -/
def colon (bs : List UInt8) : Reading Unit :=
  match skipSpace bs with
  | [] => failNext .endInObject []
  | 0x3A :: rest => .ok ((), rest)
  | rest => failNext .expectedColon rest

/-- Places a pending failure where its reader stands. -/
def settle {α : Type} (r : Reading α) : Reading α :=
  match r with
  | .error (.pending cause rest) => .error (.located cause rest.length)
  | other => other

/-- A value read between brackets, then their end. When the value fails for its shape, the end is
still tried before the failure is placed. -/
def within {α : Type} (close : List UInt8 → Reading Unit) (afterClose : List UInt8 → List UInt8)
    (r : Reading α) : Reading α :=
  match r with
  | .ok (x, rest) => (close rest).map fun (_, rest) => (x, rest)
  | .error (.pending cause rest) => .error (.located cause (afterClose rest).length)
  | .error e => .error e

end Reader

end OpenIdProvider.Json
