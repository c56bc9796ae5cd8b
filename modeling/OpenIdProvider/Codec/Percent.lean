/-
  Percent-encoding. `encode` writes each byte outside a set of kept bytes as `%` and two upper-case
  hexadecimal digits; `decode` reads such escapes and keeps every other byte, a `%` that begins no
  escape included. `WellEscaped` texts are those in which every `%` begins an escape.
-/
import OpenIdProvider.Text.Ascii

namespace OpenIdProvider.Percent

/-- `%` and the two hexadecimal digits of a byte. -/
def escape (b : UInt8) : List Char := '%' :: Ascii.upperHex b

/-- Writes the bytes that `keep` holds of as they are and escapes the others. -/
def encode (keep : UInt8 → Bool) (bs : List UInt8) : List Char :=
  bs.flatMap fun b => if keep b then [Char.ofNat b.toNat] else escape b

/-- The byte that two hexadecimal digits stand for. -/
def escaped? (hi lo : UInt8) : Option UInt8 :=
  match Ascii.hexByte? hi, Ascii.hexByte? lo with
  | some h, some l => some (UInt8.ofNat (16 * h + l))
  | _, _ => none

/-- Replaces each escape by its byte. -/
def decode : List UInt8 → List UInt8
  | [] => []
  | 0x25 :: hi :: lo :: rest =>
    match escaped? hi lo with
    | some b => b :: decode rest
    | none => 0x25 :: decode (hi :: lo :: rest)
  | b :: rest => b :: decode rest

/-- The first `%` that does not begin an escape, with at most the two bytes after it. -/
def badEscape? : List UInt8 → Option (List UInt8)
  | [] => none
  | b :: rest =>
    if b = 0x25 then
      match rest with
      | hi :: lo :: _ =>
        if (escaped? hi lo).isSome then badEscape? rest else some [b, hi, lo]
      | _ => some (b :: rest)
    else badEscape? rest

/-- Every `%` is followed by two hexadecimal digits. -/
def WellEscaped : List UInt8 → Prop
  | [] => True
  | 0x25 :: hi :: lo :: rest => (escaped? hi lo).isSome ∧ WellEscaped rest
  | b :: rest => b ≠ 0x25 ∧ WellEscaped rest

end OpenIdProvider.Percent
