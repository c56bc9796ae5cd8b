/-
  UTF-8 texts as lists of bytes. `encode` writes a text; `decode?` reads exactly the well-formed
  byte sequences; `decodeLossy` reads any bytes, with one U+FFFD for each maximal ill-formed piece.
-/

namespace OpenIdProvider.Utf8

/-- The bytes of a list of characters. -/
def encodeChars (cs : List Char) : List UInt8 := cs.flatMap String.utf8EncodeChar

/-- The bytes of a text. -/
def encode (s : String) : List UInt8 := encodeChars s.toList

/-- What stands at the front of some bytes after a first byte has been taken off: a scalar value
that takes `extra` more bytes, or an ill-formed piece of `extra` more bytes. -/
inductive Piece
  | scalar (c : Char) (extra : Nat)
  | illFormed (extra : Nat)

/-- A continuation byte carries six bits. -/
def isTail (b : UInt8) : Bool := 0x80 ≤ b && b ≤ 0xBF

/-- The second bytes that may follow a first byte of a three-byte or four-byte sequence: overlong
forms, surrogates and values above U+10FFFF are ruled out here. -/
def isSecond (first second : UInt8) : Bool :=
  if first = 0xE0 then 0xA0 ≤ second && second ≤ 0xBF
  else if first = 0xED then 0x80 ≤ second && second ≤ 0x9F
  else if first = 0xF0 then 0x90 ≤ second && second ≤ 0xBF
  else if first = 0xF4 then 0x80 ≤ second && second ≤ 0x8F
  else isTail second

/-- The piece that byte `first` begins. -/
def piece (first : UInt8) (rest : List UInt8) : Piece :=
  let low (b : UInt8) : Nat := b.toNat % 64
  if first < 0x80 then .scalar (Char.ofNat first.toNat) 0
  else if 0xC2 ≤ first && first ≤ 0xDF then
    match rest with
    | b :: _ =>
      if isTail b then .scalar (Char.ofNat (first.toNat % 32 * 64 + low b)) 1 else .illFormed 0
    | [] => .illFormed 0
  else if 0xE0 ≤ first && first ≤ 0xEF then
    match rest with
    | b :: c :: _ =>
      if isSecond first b then
        if isTail c then
          .scalar (Char.ofNat (first.toNat % 16 * 4096 + low b * 64 + low c)) 2
        else .illFormed 1
      else .illFormed 0
    | [b] => .illFormed (if isSecond first b then 1 else 0)
    | [] => .illFormed 0
  else if 0xF0 ≤ first && first ≤ 0xF4 then
    match rest with
    | b :: c :: d :: _ =>
      if isSecond first b then
        if isTail c then
          if isTail d then
            .scalar (Char.ofNat
              (first.toNat % 8 * 262144 + low b * 4096 + low c * 64 + low d)) 3
          else .illFormed 2
        else .illFormed 1
      else .illFormed 0
    | [b, c] => .illFormed (if isSecond first b then (if isTail c then 2 else 1) else 0)
    | [b] => .illFormed (if isSecond first b then 1 else 0)
    | [] => .illFormed 0
  else .illFormed 0

/-- Every byte sequence read as text, U+FFFD for each ill-formed piece. -/
def decodeCharsLossy : List UInt8 → List Char
  | [] => []
  | b :: rest =>
    match piece b rest with
    | .scalar c extra => c :: decodeCharsLossy (rest.drop extra)
    | .illFormed extra => '\uFFFD' :: decodeCharsLossy (rest.drop extra)
termination_by bs => bs.length
decreasing_by all_goals simp only [List.length_drop, List.length_cons]; omega

/-- The characters of a well-formed byte sequence. -/
def decodeChars? : List UInt8 → Option (List Char)
  | [] => some []
  | b :: rest =>
    match piece b rest with
    | .scalar c extra => (decodeChars? (rest.drop extra)).map (c :: ·)
    | .illFormed _ => none
termination_by bs => bs.length
decreasing_by all_goals simp only [List.length_drop, List.length_cons]; omega

def decodeLossy (bs : List UInt8) : String := String.ofList (decodeCharsLossy bs)

def decode? (bs : List UInt8) : Option String := (decodeChars? bs).map String.ofList

end OpenIdProvider.Utf8
