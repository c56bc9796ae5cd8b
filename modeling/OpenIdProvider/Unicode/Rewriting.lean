/-
  Tables that replace characters. A run that moves as a whole is written `41-5A>61`, one of every
  second character `100-12E/2>101`; what is replaced one by one is written `BC:31+2044+34,B0`, from
  the first character on.
-/
import OpenIdProvider.Unicode.Spans

namespace OpenIdProvider.Unicode

/-- A run of characters that becomes the run of the same step from another character on. -/
structure Shift where
  first : Nat
  last : Nat
  step : Nat
  target : Nat
deriving DecidableEq, Repr

namespace Shift

def ofText? (cs : List Char) : Option Shift := do
  let (source, target) ← Split.splitOnce '>' cs
  let (run, step) ←
    match Split.splitOnce '/' source with
    | some (run, step) => (Ascii.readNat? 10 step).map fun n => (run, n)
    | none => some (source, 1)
  let (first, last) ← Split.splitOnce '-' run
  some ⟨← Ascii.readNat? 16 first, ← Ascii.readNat? 16 last, step, ← Ascii.readNat? 16 target⟩

def readLines (lines : List String) : Array Shift := readEntries ofText? lines

/-- What a character becomes, if one of the runs goes through it. -/
def find? (table : Array Shift) (c : Char) : Option Char := do
  let n := c.toNat
  let s ← table.find? fun s => s.first ≤ n && n ≤ s.last && (n - s.first) % s.step == 0
  some (Char.ofNat (s.target + (n - s.first)))

end Shift

/-- What successive characters become. -/
structure Row where
  first : Nat
  targets : Array (List Char)
deriving DecidableEq, Repr

namespace Row

def ofText? (cs : List Char) : Option Row := do
  let (first, targets) ← Split.splitOnce ':' cs
  let targets ← (Split.splitOn ',' targets).mapM fun t => (Split.splitOn '+' t).mapM codePoint?
  some ⟨← Ascii.readNat? 16 first, targets.toArray⟩

def readLines (lines : List String) : Array Row := readEntries ofText? lines

/-- What a character becomes, if it is in one of the rows. -/
def find? (table : Array Row) (c : Char) : Option (List Char) := do
  let side (r : Row) : Ordering := Spans.sideOf c.toNat r.first (r.first + r.targets.size - 1)
  let r ← Spans.search side table 0 table.size
  r.targets[c.toNat - r.first]?

end Row

end OpenIdProvider.Unicode
