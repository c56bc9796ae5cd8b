/-
  Finite binary64 numbers: a sign and a magnitude `significand * 2 ^ exponent`. Every operation
  rounds its exact rational result to the nearest such number, a tie to the even significand.
-/

namespace OpenIdProvider

/-- A finite binary64 number. In normal form the significand has 53 binary digits, or fewer with
the least exponent. -/
structure Binary64 where
  negative : Bool
  significand : Nat
  exponent : Int
deriving DecidableEq, Repr

namespace Binary64

def leastExponent : Int := -1074

def greatestExponent : Int := 971

def zero : Binary64 := ⟨false, 0, leastExponent⟩

def isZero (x : Binary64) : Bool := x.significand == 0

def neg (x : Binary64) : Binary64 := { x with negative := !x.negative }

/-- The quotient rounded to the nearest integer, a half to the even one. -/
def divNearest (n d : Nat) : Nat :=
  let q := n / d
  let r := n % d
  if 2 * r < d then q
  else if d < 2 * r then q + 1
  else if q % 2 = 0 then q else q + 1

/-- A fraction multiplied by a power of two, as a fraction. -/
def scale (n d : Nat) (e : Int) : Nat × Nat :=
  if 0 ≤ e then (n * Nat.pow 2 e.toNat, d) else (n, d * Nat.pow 2 (-e).toNat)

/-- The greatest `e` with `2 ^ e ≤ n / d`, for positive `n` and `d`. -/
def log2Quotient (n d : Nat) : Int :=
  let e : Int := (Nat.log2 n : Int) - (Nat.log2 d : Int)
  let (a, b) := scale n d (-e)
  if b ≤ a then e else e - 1

/-- The positive number nearest to `n / d`; none if it lies beyond the finite range. -/
def round? (n d : Nat) : Option Binary64 :=
  if n = 0 then some zero
  else
    let e := max (log2Quotient n d - 52) leastExponent
    let (a, b) := scale n d (-e)
    let m := divNearest a b
    let x : Binary64 :=
      if m = 0x20000000000000 then ⟨false, 0x10000000000000, e + 1⟩ else ⟨false, m, e⟩
    if x.exponent ≤ greatestExponent then some x else none

/-- The magnitude as a fraction. -/
def fraction (x : Binary64) : Nat × Nat := scale x.significand 1 x.exponent

/-- The product of magnitudes. -/
def mul? (x y : Binary64) : Option Binary64 :=
  let (a, b) := x.fraction
  let (c, d) := y.fraction
  round? (a * c) (b * d)

/-- The quotient of magnitudes, for a divisor that is not zero. -/
def div? (x y : Binary64) : Option Binary64 :=
  let (a, b) := x.fraction
  let (c, d) := y.fraction
  round? (a * d) (b * c)

/-- The number nearest to a natural number. -/
def ofNat? (n : Nat) : Option Binary64 := round? n 1

/-- The number nearest to an integer; zero for those beyond the finite range. -/
def ofInt (i : Int) : Binary64 :=
  match ofNat? i.natAbs with
  | some x => if i < 0 then x.neg else x
  | none => zero

/-- The number nearest to a power of ten. -/
def powerOfTen? (k : Nat) : Option Binary64 := ofNat? (Nat.pow 10 k)

/-- The integer part, a fraction being cut off towards zero. -/
def truncate (x : Binary64) : Int :=
  let (a, b) := x.fraction
  let n : Int := (a / b : Nat)
  if x.negative then -n else n

end Binary64

end OpenIdProvider
