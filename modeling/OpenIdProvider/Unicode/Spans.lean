/-
  Tables of code points: ascending runs, which may carry a value. They are written as hexadecimal
  numbers, `41-5A` or `300-314=E6`, with spaces between them.
-/
import OpenIdProvider.Text.Ascii
import OpenIdProvider.Text.Split

namespace OpenIdProvider.Unicode

/-- The character of a hexadecimal number. -/
def codePoint? (cs : List Char) : Option Char :=
  (Ascii.readNat? 16 cs).bind fun n => if Nat.isValidChar n then some (Char.ofNat n) else none

/-- Reads the entries of some lines. -/
def readEntries {α : Type} (read : List Char → Option α) (lines : List String) : Array α :=
  (lines.flatMap fun line => (Split.splitOn ' ' line.toList).filterMap read).toArray

/-- A run of code points with a value. -/
structure Span where
  first : Nat
  last : Nat
  value : Nat
deriving DecidableEq, Repr

/-- Reads a run; its value is one if none is written. -/
def Span.ofText? (cs : List Char) : Option Span := do
  let (run, value) ←
    match Split.splitOnce '=' cs with
    | some (run, value) => (Ascii.readNat? 16 value).map fun n => (run, n)
    | none => some (cs, 1)
  match Split.splitOnce '-' run with
  | some (first, last) => some ⟨← Ascii.readNat? 16 first, ← Ascii.readNat? 16 last, value⟩
  | none => (Ascii.readNat? 16 run).map fun n => ⟨n, n, value⟩

/-- Runs in ascending order. -/
abbrev Spans := Array Span

namespace Spans

def ofLines (lines : List String) : Spans := readEntries Span.ofText? lines

/-- Searches the entries between two places of an array in ascending order; `side` tells on which
side of an entry to go on, if it is not the one. -/
def search {α : Type} (side : α → Ordering) (table : Array α) (low high : Nat) : Option α :=
  if low < high then
    let middle := (low + high) / 2
    match table[middle]? with
    | none => none
    | some entry =>
      match side entry with
      | .lt => search side table low middle
      | .gt => search side table (middle + 1) high
      | .eq => some entry
  else none
termination_by high - low

/-- On which side of a run a number lies. -/
def sideOf (n first last : Nat) : Ordering :=
  if n < first then .lt else if last < n then .gt else .eq

/-- The value of the run that a character is in. -/
def value? (table : Spans) (c : Char) : Option Nat :=
  (search (fun s : Span => sideOf c.toNat s.first s.last) table 0 table.size).map Span.value

def contains (table : Spans) (c : Char) : Bool := (table.value? c).isSome

end Spans

end OpenIdProvider.Unicode
