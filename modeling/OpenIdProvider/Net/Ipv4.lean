/-
  IPv4 addresses: four numbers below 256. Besides the dotted text there is the lenient text of
  URLs, in which numbers may be octal or hexadecimal and the last one may fill several places.
-/
import OpenIdProvider.Text.Ascii
import OpenIdProvider.Text.Split

namespace OpenIdProvider.Net

/-- An IPv4 address as a number below 2³². -/
structure Ipv4 where
  address : Nat
deriving DecidableEq, Repr

namespace Ipv4

/-- The four numbers of an address. -/
def octets (a : Ipv4) : List Nat :=
  [a.address / 0x1000000 % 256, a.address / 0x10000 % 256, a.address / 0x100 % 256,
    a.address % 256]

/-- The dotted text of an address. -/
def text (a : Ipv4) : List Char :=
  ['.'].intercalate (a.octets.map (Ascii.digits 10))

/-- One number of the dotted text: at most three digits, none of them a leading zero. -/
def octet? (cs : List Char) : Option Nat :=
  match cs with
  | '0' :: _ :: _ => none
  | _ =>
    if 3 < cs.length then none
    else (Ascii.readNat? 10 cs).bind fun n => if n < 256 then some n else none

/-- Reads a dotted text. -/
def ofText? (cs : List Char) : Option Ipv4 :=
  match (Split.splitOn '.' cs).mapM octet? with
  | some [a, b, c, d] => some ⟨((a * 256 + b) * 256 + c) * 256 + d⟩
  | _ => none

/-! ## The lenient text of URLs -/

/-- A number that may be octal after `0` or hexadecimal after `0x`. -/
def number? (cs : List Char) : Option Nat :=
  match cs with
  | [] => none
  | '0' :: 'x' :: rest => if rest.isEmpty then some 0 else Ascii.readNat? 16 rest
  | '0' :: 'X' :: rest => if rest.isEmpty then some 0 else Ascii.readNat? 16 rest
  | '0' :: d :: rest => Ascii.readNat? 8 (d :: rest)
  | _ => Ascii.readNat? 10 cs

/-- The pieces between dots, without an empty last one. -/
def pieces (cs : List Char) : List (List Char) :=
  let ps := Split.splitOn '.' cs
  if ps.getLast? = some [] then ps.dropLast else ps

/-- Whether the last piece of a name is a number, so that the name can only be an address. -/
def endsInNumber (cs : List Char) : Bool :=
  let ps := Split.splitOn '.' cs
  let last :=
    match ps.reverse with
    | [] :: p :: _ => some p
    | [[]] => none
    | p :: _ => some p
    | [] => none
  match last with
  | none => false
  | some p => (!p.isEmpty && p.all Ascii.isDigit) || (number? p).isSome

/-- The value of numbers of which the last fills all the places that are left. -/
def ofNumbers? (ns : List Nat) : Option Ipv4 :=
  match ns.reverse with
  | [] => none
  | last :: front =>
    if 3 < front.length then none
    else if Nat.pow 256 (4 - front.length) ≤ last then none
    else if front.any fun n => 256 ≤ n then none
    else
      let high := front.reverse.foldl (fun acc n => acc * 256 + n) 0
      some ⟨high * Nat.pow 256 (4 - front.length) + last⟩

/-- Reads the lenient text of URLs. -/
def ofLenient? (cs : List Char) : Option Ipv4 := ((pieces cs).mapM number?).bind ofNumbers?

end Ipv4

end OpenIdProvider.Net
