/-
  The distinguished encoding of ASN.1 values: a tag, a length and a content. Each value has one
  encoding only; reading refuses every other.
-/
import OpenIdProvider.Number.BigEndian

namespace OpenIdProvider.Der

def integerTag : UInt8 := 0x02

def octetStringTag : UInt8 := 0x04

def nullTag : UInt8 := 0x05

def identifierTag : UInt8 := 0x06

def sequenceTag : UInt8 := 0x30

/-- A length: below 128 in one byte, else the number of its bytes and these. -/
def length (n : Nat) : List UInt8 :=
  if n < 128 then [UInt8.ofNat n]
  else
    let bs := BigEndian.bytes n
    UInt8.ofNat (128 + bs.length) :: bs

def element (tag : UInt8) (content : List UInt8) : List UInt8 :=
  tag :: length content.length ++ content

/-- The content of a number that is not negative: its fewest bytes, with a zero before a high first
bit. -/
def naturalContent (n : Nat) : List UInt8 :=
  match BigEndian.bytes n with
  | [] => [0]
  | b :: bs => if 0x80 ≤ b then 0 :: b :: bs else b :: bs

def natural (n : Nat) : List UInt8 := element integerTag (naturalContent n)

def sequence (items : List (List UInt8)) : List UInt8 := element sequenceTag items.flatten

/-- The greatest length that a value may have. -/
def greatestLength : Nat := 0x0FFFFFFF

/-- A length in its one encoding, and the bytes after it. -/
def readLength? : List UInt8 → Option (Nat × List UInt8)
  | [] => none
  | b :: rest =>
    if b < 0x80 then some (b.toNat, rest)
    else
      let count := b.toNat - 128
      let n := BigEndian.value (rest.take count)
      if count = 0 ∨ 4 < count ∨ rest.length < count ∨ greatestLength < n then none
      else if length n = b :: rest.take count then some (n, rest.drop count)
      else none

/-- The tag and the content of the value at the front, and the bytes after it. -/
def readElement? : List UInt8 → Option (UInt8 × List UInt8 × List UInt8)
  | [] => none
  | tag :: rest => do
    let (n, rest) ← readLength? rest
    if rest.length < n then none else some (tag, rest.take n, rest.drop n)

/-- The content of a value with a tag. -/
def readTagged? (tag : UInt8) (bs : List UInt8) : Option (List UInt8 × List UInt8) := do
  let (found, content, rest) ← readElement? bs
  if found = tag then some (content, rest) else none

/-- A number that is not negative, in its one encoding. -/
def readNatural? (bs : List UInt8) : Option (Nat × List UInt8) := do
  let (content, rest) ← readTagged? integerTag bs
  let n := BigEndian.value content
  if content = naturalContent n then some (n, rest) else none

/-- The content of a value that is the whole of some bytes, which may not be too many. -/
def readWhole? (tag : UInt8) (bs : List UInt8) : Option (List UInt8) := do
  let (content, rest) ← readTagged? tag bs
  if rest.isEmpty ∧ bs.length ≤ greatestLength then some content else none

end OpenIdProvider.Der
