/-
  The text of a binary64 number: its shortest decimal, laid out positionally or with an exponent
  as a layout decides.
-/
import OpenIdProvider.Number.Shortest

namespace OpenIdProvider.Notation

/-- The decisions of an output format on the text of a number. -/
structure Layout where
  /-- The least power of ten of a leading digit that is written positionally. -/
  leastPositional : Int
  /-- The greatest power of ten of a leading digit that is written positionally. -/
  greatestPositional : Int
  /-- Whether an exponent that is not negative carries a plus sign. -/
  plus : Bool

def zeros (n : Int) : List Char := List.replicate n.toNat '0'

/-- Digits with the decimal point after the first `point` of them; a text without a fraction ends
in `.0`. -/
def positional (digits : List Char) (point : Int) : List Char :=
  let n : Int := digits.length
  if n ≤ point then digits ++ zeros (point - n) ++ ['.', '0']
  else if 0 < point then digits.take point.toNat ++ '.' :: digits.drop point.toNat
  else ['0', '.'] ++ zeros (-point) ++ digits

def exponential (layout : Layout) (digits : List Char) (exponent : Int) : List Char :=
  let significand :=
    match digits with
    | d :: e :: rest => d :: '.' :: e :: rest
    | short => short
  let sign := if exponent < 0 then ['-'] else if layout.plus then ['+'] else []
  significand ++ 'e' :: sign ++ Ascii.digits 10 exponent.natAbs

/-- The text of a number in a layout. -/
def text (layout : Layout) (x : Binary64) : List Char :=
  let sign := if x.negative then ['-'] else []
  if x.isZero then sign ++ ['0', '.', '0']
  else
    let d := Shortest.ofBinary64 x
    let digits := Ascii.digits 10 d.coefficient
    let leading := d.power + digits.length - 1
    if layout.leastPositional ≤ leading ∧ leading ≤ layout.greatestPositional then
      sign ++ positional digits (leading + 1)
    else sign ++ exponential layout digits leading

end OpenIdProvider.Notation
