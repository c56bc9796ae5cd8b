/-
  Names in ASCII for texts of any characters: the ASCII characters first, then, in ascending order,
  where each other character goes in, as numbers of varying base.
-/
import OpenIdProvider.Text.Ascii

namespace OpenIdProvider.Punycode

/-- The base of the digits. -/
def base : Nat := 36

/-- The digit of a number below 36: a letter, then a decimal digit. -/
def digit (n : Nat) : Char := if n < 26 then Char.ofNat (97 + n) else Char.ofNat (22 + n)

/-- The number of a digit of either case. -/
def digit? (c : Char) : Option Nat :=
  if Ascii.isLetter c then some ((Ascii.toLower c).toNat - 97)
  else (Ascii.digit? c).map (· + 26)

/-- The greatest number that ends a sequence of digits, plus one: it grows with the place, which is
counted in steps of 36, and falls with the bias. -/
def threshold (bias place : Nat) : Nat := max 1 (min 26 (place - bias))

/-- How often a number is divided until it is small. -/
def scale (n : Nat) : Nat :=
  if h : 455 < n then
    have : n / 35 < n := Nat.div_lt_self (by omega) (by omega)
    base + scale (n / 35)
  else 0
termination_by n

/-- What is left of a number that has been divided until it is small. -/
def reduced (n : Nat) : Nat :=
  if h : 455 < n then
    have : n / 35 < n := Nat.div_lt_self (by omega) (by omega)
    reduced (n / 35)
  else n
termination_by n

/-- The bias after a number, given how many characters there are. -/
def adapt (delta count : Nat) (isFirst : Bool) : Nat :=
  let delta := if isFirst then delta / 700 else delta / 2
  let delta := delta + delta / count
  scale delta + base * reduced delta / (reduced delta + 38)

/-! ## Encoding -/

/-- The digits of a number from a place on. -/
def numberFrom (bias place n : Nat) : List Char :=
  let t := threshold bias place
  if h : n < t then [digit n]
  else
    have : (n - t) / (base - t) < n := by
      have h1 : 1 ≤ t := Nat.le_max_left ..
      have h2 : t ≤ 26 := Nat.max_le.2 ⟨by omega, Nat.min_le_left ..⟩
      have : (n - t) / (base - t) ≤ n - t := Nat.div_le_self ..
      omega
    digit (t + (n - t) % (base - t)) :: numberFrom bias (place + base) ((n - t) / (base - t))
termination_by n

/-- How far encoding has come. -/
structure Encoding where
  /-- The number since the last one that was written. -/
  delta : Nat
  bias : Nat
  /-- How many characters have been written. -/
  count : Nat
  isFirst : Bool
  output : List Char

/-- Passes over a character, given the one that goes in: smaller ones count. -/
def Encoding.pass (x : Char) (s : Encoding) (c : Char) : Encoding :=
  if c < x then { s with delta := s.delta + 1 }
  else if c = x then
    ⟨0, adapt s.delta (s.count + 1) s.isFirst, s.count + 1, false,
      s.output ++ numberFrom s.bias base s.delta⟩
  else s

/-- Inserts a character into ascending ones, each of which occurs once. -/
def insertAscending (c : Char) : List Char → List Char
  | [] => [c]
  | x :: xs => if c < x then c :: x :: xs else if c = x then x :: xs else x :: insertAscending c xs

/-- Encodes the places of a character, given the code point after the last one that was encoded. -/
def encodeChar (cs : List Char) (s : Encoding × Nat) (x : Char) : Encoding × Nat :=
  let e := s.1
  let start := { e with delta := e.delta + (x.toNat - s.2) * (e.count + 1) }
  let done := cs.foldl (Encoding.pass x) start
  ({ done with delta := done.delta + 1 }, x.toNat + 1)

/-- The ASCII name of a text. -/
def encode (cs : List Char) : List Char :=
  let basic := cs.filter fun c => c.toNat < 0x80
  let others := (cs.filter fun c => 0x80 ≤ c.toNat).foldr insertAscending []
  let front := if basic.isEmpty then [] else basic ++ ['-']
  let start : Encoding := ⟨0, 72, basic.length, true, front⟩
  (others.foldl (encodeChar cs) (start, 0x80)).1.output

/-! ## Decoding -/

/-- How far decoding has come: the text so far, the last character and place, the bias, and the
number that is being read. -/
structure Decoding where
  output : List Char
  char : Nat
  place : Nat
  bias : Nat
  isFirst : Bool
  /-- The number so far, with the weight of its next digit and the place of that. -/
  number : Nat
  weight : Nat
  digitPlace : Nat

/-- Puts in the character of the number that is complete. -/
def Decoding.insert? (s : Decoding) : Option Decoding :=
  let count := s.output.length + 1
  let place := s.place + s.number
  let n := s.char + place / count
  if Nat.isValidChar n then
    let i := place % count
    some ⟨s.output.take i ++ Char.ofNat n :: s.output.drop i, n, i + 1,
      adapt s.number count s.isFirst, false, 0, 1, base⟩
  else none

/-- Reads a digit. -/
def Decoding.push? (s : Decoding) (c : Char) : Option Decoding := do
  let d ← digit? c
  let t := threshold s.bias s.digitPlace
  let s := { s with number := s.number + d * s.weight }
  if d < t then s.insert?
  else some { s with weight := s.weight * (base - t), digitPlace := s.digitPlace + base }

/-- What stands before and after the last hyphen. -/
def splitLast (cs : List Char) : List Char × List Char :=
  let after := (cs.reverse.takeWhile (· != '-')).reverse
  (cs.take (cs.length - after.length - 1), after)

/-- The text of an ASCII name, of which a number must not be left incomplete. A hyphen in front
stands for itself. -/
def decode? (name : List Char) : Option (List Char) := do
  let (basic, digits) := splitLast name
  let digits := if name.head? = some '-' ∧ basic = [] then name else digits
  let start : Decoding := ⟨basic.map Ascii.toLower, 0x80, 0, 72, true, 0, 1, base⟩
  let s ← digits.foldlM Decoding.push? start
  if s.weight = 1 ∧ s.digitPlace = base then some s.output else none

end OpenIdProvider.Punycode
