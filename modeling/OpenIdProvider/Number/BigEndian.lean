/-
  Natural numbers as bytes, the most significant first: without leading zeros, or filled up with
  them to a width.
-/

namespace OpenIdProvider.BigEndian

/-- The number of some bytes. -/
def value (bs : List UInt8) : Nat :=
  bs.foldl (fun (n : Nat) (b : UInt8) => n * 256 + b.toNat) 0

/-- The bytes of a number in front of others. -/
def bytesOnto (n : Nat) (tail : List UInt8) : List UInt8 :=
  if n = 0 then tail else bytesOnto (n / 256) (UInt8.ofNat n :: tail)
termination_by n

/-- The fewest bytes of a number; zero has none. -/
def bytes (n : Nat) : List UInt8 := bytesOnto n []

/-- The bytes of a number, filled up with zeros to a width. -/
def padded (width n : Nat) : List UInt8 :=
  let bs := bytes n
  List.replicate (width - bs.length) 0 ++ bs

/-- How many binary digits a number has. -/
def bitLength (n : Nat) : Nat := if n = 0 then 0 else Nat.log2 n + 1

/-- How many bytes a number has. -/
def byteLength (n : Nat) : Nat := (bitLength n + 7) / 8

end OpenIdProvider.BigEndian
