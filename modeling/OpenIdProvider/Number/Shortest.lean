/-
  The shortest decimal text of a binary64 number: the fewest significant digits of a decimal that
  rounds to the number, and among those the decimal nearest to it.
-/
import OpenIdProvider.Number.Binary64
import OpenIdProvider.Text.Ascii

namespace OpenIdProvider.Shortest

/-- The decimal `coefficient * 10 ^ power`. -/
structure Decimal where
  coefficient : Nat
  power : Int

/-- A decimal as a fraction. -/
def Decimal.fraction (x : Decimal) : Nat × Nat :=
  if 0 ≤ x.power then (x.coefficient * Nat.pow 10 x.power.toNat, 1)
  else (x.coefficient, Nat.pow 10 (-x.power).toNat)

def fractionLe (x y : Nat × Nat) : Bool := x.1 * y.2 ≤ y.1 * x.2

def fractionLt (x y : Nat × Nat) : Bool := x.1 * y.2 < y.1 * x.2

/-- The ends of the interval of the reals that round to a magnitude. -/
def interval (x : Binary64) : (Nat × Nat) × (Nat × Nat) :=
  let below :=
    if x.significand = 0x10000000000000 ∧ Binary64.leastExponent < x.exponent then
      Binary64.scale (4 * x.significand - 1) 4 x.exponent
    else Binary64.scale (2 * x.significand - 1) 2 x.exponent
  (below, Binary64.scale (2 * x.significand + 1) 2 x.exponent)

/-- A decimal reads back as `x` iff it lies in the interval, whose ends belong to it iff the
significand is even. -/
def readsBack (x : Binary64) (d : Decimal) : Bool :=
  let (low, high) := interval x
  if x.significand % 2 = 0 then fractionLe low d.fraction && fractionLe d.fraction high
  else fractionLt low d.fraction && fractionLt d.fraction high

/-- The least `k` from the given one on with `n / d < 10 ^ (k + 1)`, searched for `fuel` steps. -/
def log10From (n d : Nat) : Nat → Int → Int
  | 0, k => k
  | fuel + 1, k =>
    if fractionLt (n, d) (Decimal.fraction ⟨1, k + 1⟩) then k else log10From n d fuel (k + 1)

/-- The greatest `k` with `10 ^ k ≤ n / d`. The search starts from a power of ten that lies below
the greatest power of two in the quotient, and not far below. -/
def log10 (n d : Nat) : Int :=
  let e := Binary64.log2Quotient n d
  log10From n d 800 (if 0 ≤ e then e / 4 else e * 4 / 13 - 1)

/-- The distance between two fractions compared with that between two others. -/
def nearer (x a b : Nat × Nat) : Bool :=
  let distance (y : Nat × Nat) : Nat × Nat :=
    ((Int.natAbs ((x.1 * y.2 : Nat) - (y.1 * x.2 : Nat) : Int)), x.2 * y.2)
  let da := distance a
  let db := distance b
  fractionLt da db

/-- The better of the two neighbours of `x` with the given unit, if one of them reads back. The
lower neighbour wins a tie iff it is even. -/
def onGrid? (x : Binary64) (power : Int) : Option Decimal :=
  let v := x.fraction
  let unit := Decimal.fraction ⟨1, power⟩
  let low := v.1 * unit.2 / (v.2 * unit.1)
  let below : Decimal := ⟨low, power⟩
  let above : Decimal := ⟨low + 1, power⟩
  match readsBack x below, readsBack x above with
  | true, true =>
    if nearer v below.fraction above.fraction then some below
    else if nearer v above.fraction below.fraction then some above
    else some (if low % 2 = 0 then below else above)
  | true, false => some below
  | false, true => some above
  | false, false => none

/-- The first grid with a decimal that reads back, from the coarsest on. -/
def search (x : Binary64) (top : Int) : Nat → Nat → Decimal
  | 0, n => (onGrid? x (top - n)).getD ⟨0, 0⟩
  | fuel + 1, n =>
    match onGrid? x (top - n) with
    | some d => d
    | none => search x top fuel (n + 1)

/-- A decimal without zeros at its end. -/
def dropZeros : Nat → Decimal → Decimal
  | 0, d => d
  | fuel + 1, d =>
    if d.coefficient % 10 = 0 then dropZeros fuel ⟨d.coefficient / 10, d.power + 1⟩ else d

/-- The shortest decimal of a magnitude that is not zero; at most 17 digits are needed. -/
def ofBinary64 (x : Binary64) : Decimal :=
  let (n, d) := x.fraction
  dropZeros 17 (search x (log10 n d) 17 0)

end OpenIdProvider.Shortest
