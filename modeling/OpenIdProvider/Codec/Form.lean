/-
  The media type `application/x-www-form-urlencoded`: lists of name and value pairs as text.
  Pairs are joined by `&`, a name and its value by `=`; a space is written `+`, and every byte
  but letters, digits and `*-._` is percent-encoded. Reading skips empty pairs and never fails.
-/
import OpenIdProvider.Codec.Percent
import OpenIdProvider.Text.Split
import OpenIdProvider.Text.Utf8

namespace OpenIdProvider.Form

/-- The media type of form data. -/
def mediaType : String := "application/x-www-form-urlencoded"

/-- The bytes that stand for themselves. -/
def isPlain (b : UInt8) : Bool :=
  Ascii.isLetterOrDigit (Char.ofNat b.toNat) || b = 0x2A || b = 0x2D || b = 0x2E || b = 0x5F

/-- One byte of a name or a value. -/
def encodeByte (b : UInt8) : List Char :=
  if b = 0x20 then ['+'] else if isPlain b then [Char.ofNat b.toNat] else Percent.escape b

/-- A name or a value. -/
def encodeText (s : String) : List Char := (Utf8.encode s).flatMap encodeByte

def encodePair (p : String × String) : List Char :=
  encodeText p.1 ++ '=' :: encodeText p.2

/-- The text of some pairs. -/
def encode : List (String × String) → List Char
  | [] => []
  | [p] => encodePair p
  | p :: ps => encodePair p ++ '&' :: encode ps

/-- A name or a value read back: `+` is a space, and ill-formed UTF-8 becomes U+FFFD. -/
def decodeText (bs : List UInt8) : String :=
  Utf8.decodeLossy (Percent.decode (bs.map fun b => if b = 0x2B then 0x20 else b))

/-- A pair without `=` has the empty value. -/
def decodePair (bs : List UInt8) : String × String :=
  match Split.splitOnce 0x3D bs with
  | some (name, value) => (decodeText name, decodeText value)
  | none => (decodeText bs, "")

/-- The pairs of a text, in order. -/
def decode (bs : List UInt8) : List (String × String) :=
  ((Split.splitOn 0x26 bs).filter (fun piece => !piece.isEmpty)).map decodePair

end OpenIdProvider.Form
