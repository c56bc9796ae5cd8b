/-
  IPv6 addresses: eight pieces of sixteen bits. In text the longest run of at least two zero
  pieces, the first of several, is written `::`; the last two pieces may be read from a dotted
  IPv4 address.
-/
import OpenIdProvider.Net.Ipv4

namespace OpenIdProvider.Net

/-- An IPv6 address as its eight pieces. -/
structure Ipv6 where
  pieces : List Nat
deriving DecidableEq, Repr

namespace Ipv6

/-- A piece of one to four hexadecimal digits. -/
def piece? (cs : List Char) : Option Nat :=
  if 4 < cs.length then none else Ascii.readNat? 16 cs

/-- Pieces between colons; the last may be an IPv4 address where that is allowed. -/
def groups? (allowIpv4 : Bool) : List (List Char) → Option (List Nat)
  | [] => some []
  | [last] =>
    match piece? last with
    | some n => some [n]
    | none =>
      if allowIpv4 then
        (Ipv4.ofText? last).map fun a => [a.address / 65536, a.address % 65536]
      else none
  | p :: ps =>
    match piece? p, groups? allowIpv4 ps with
    | some n, some ns => some (n :: ns)
    | _, _ => none

/-- A text without `::`; the empty text has no pieces. -/
def side? (allowIpv4 : Bool) (cs : List Char) : Option (List Nat) :=
  if cs.isEmpty then some [] else groups? allowIpv4 (Split.splitOn ':' cs)

/-- What stands before and after the first `::`. -/
def splitGap : List Char → Option (List Char × List Char)
  | ':' :: ':' :: rest => some ([], rest)
  | c :: rest => (splitGap rest).map fun (a, b) => (c :: a, b)
  | [] => none

/-- Reads the text of an address. -/
def ofText? (cs : List Char) : Option Ipv6 :=
  match splitGap cs with
  | some (left, right) =>
    match side? false left, side? true right with
    | some a, some b =>
      if a.length + b.length ≤ 7 then
        some ⟨a ++ List.replicate (8 - a.length - b.length) 0 ++ b⟩
      else none
    | _, _ => none
  | none =>
    match side? true cs with
    | some ps => if ps.length = 8 then some ⟨ps⟩ else none
    | none => none

/-- The length of the run of zeros at the front. -/
def zeroRun (ps : List Nat) : Nat := (ps.takeWhile (· = 0)).length

/-- The start and the length of the longest run of zeros, the first of several. -/
def longestRun : Nat → List Nat → Nat × Nat
  | _, [] => (0, 0)
  | i, p :: ps =>
    let here := zeroRun (p :: ps)
    let (start, length) := longestRun (i + 1) ps
    if length ≤ here then (i, here) else (start, length)

def joined (ps : List Nat) : List Char := [':'].intercalate (ps.map (Ascii.digits 16))

/-- The text of an address. -/
def text (a : Ipv6) : List Char :=
  let (start, length) := longestRun 0 a.pieces
  if 2 ≤ length then
    joined (a.pieces.take start) ++ [':', ':'] ++ joined (a.pieces.drop (start + length))
  else joined a.pieces

/-- The IPv4 address that an IPv4-mapped address carries. -/
def mapped? (a : Ipv6) : Option Ipv4 :=
  match a.pieces with
  | [0, 0, 0, 0, 0, 0xFFFF, high, low] => some ⟨high * 65536 + low⟩
  | _ => none

/-- The text of an address in which an IPv4-mapped one shows its IPv4 address. -/
def mixedText (a : Ipv6) : List Char :=
  match a.mapped? with
  | some v4 => [':', ':', 'f', 'f', 'f', 'f', ':'] ++ v4.text
  | none => a.text

end Ipv6

end OpenIdProvider.Net
