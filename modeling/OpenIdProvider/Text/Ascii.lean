/-
  ASCII classes of characters and bytes: digits, hexadecimal digits, letters and their case.
  Everything outside ASCII belongs to none of them and is left unchanged by the case maps.
-/

namespace OpenIdProvider.Ascii

/-- The value of a decimal digit. -/
def digit? (c : Char) : Option Nat :=
  if '0' ≤ c ∧ c ≤ '9' then some (c.toNat - 48) else none

/-- The value of a hexadecimal digit of either case. -/
def hexDigit? (c : Char) : Option Nat :=
  if '0' ≤ c ∧ c ≤ '9' then some (c.toNat - 48)
  else if 'a' ≤ c ∧ c ≤ 'f' then some (c.toNat - 87)
  else if 'A' ≤ c ∧ c ≤ 'F' then some (c.toNat - 55)
  else none

/-- The value of a byte that is a hexadecimal digit of either case. -/
def hexByte? (b : UInt8) : Option Nat := hexDigit? (Char.ofNat b.toNat)

def isDigit (c : Char) : Bool := (digit? c).isSome

def isUpper (c : Char) : Bool := 'A' ≤ c && c ≤ 'Z'

def isLower (c : Char) : Bool := 'a' ≤ c && c ≤ 'z'

def isLetter (c : Char) : Bool := isUpper c || isLower c

def isLetterOrDigit (c : Char) : Bool := isLetter c || isDigit c

/-- Lower case of an ASCII letter. -/
def toLower (c : Char) : Char :=
  if isUpper c then Char.ofNat (c.toNat + 32) else c

/-- A text with its ASCII letters in lower case. -/
def lower (s : String) : String := String.ofList (s.toList.map toLower)

/-- Digits of `n` in base `b`, most significant first, lower-case letters above nine. -/
def digits (b n : Nat) : List Char := Nat.toDigits b n

def upperHexDigit (n : Nat) : Char :=
  if n < 10 then Char.ofNat (48 + n) else Char.ofNat (55 + n)

def lowerHexDigit (n : Nat) : Char :=
  if n < 10 then Char.ofNat (48 + n) else Char.ofNat (87 + n)

/-- A byte as two upper-case hexadecimal digits. -/
def upperHex (b : UInt8) : List Char :=
  [upperHexDigit (b.toNat / 16), upperHexDigit (b.toNat % 16)]

/-- A number as a hexadecimal text of at least `width` lower-case digits. -/
def lowerHexPadded (width n : Nat) : List Char :=
  let ds := digits 16 n
  List.replicate (width - ds.length) '0' ++ ds

/-- Reads a non-empty run of digits of a base, most significant first. -/
def readNat? (base : Nat) (cs : List Char) : Option Nat :=
  match cs with
  | [] => none
  | _ => cs.foldlM (fun n c =>
      match hexDigit? c with
      | some d => if d < base then some (n * base + d) else none
      | none => none) 0

end OpenIdProvider.Ascii
