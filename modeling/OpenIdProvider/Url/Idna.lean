/-
  Domains in ASCII. The characters of a domain are mapped and composed; then each label that is not
  ASCII is written as an ASCII name behind `xn--`, and one that is written so already is checked.
-/
import OpenIdProvider.Unicode.Composition
import OpenIdProvider.Unicode.Joining
import OpenIdProvider.Url.Idna.Mapping
import OpenIdProvider.Url.Punycode

namespace OpenIdProvider.Idna

/-- ASCII characters that no domain may hold. -/
def isDenied (c : Char) : Bool :=
  c.toNat ≤ 0x20 || c.toNat = 0x7F || "%#/:<>?@[\\]^|".toList.contains c

/-- What stands before an ASCII name. -/
def mark : List Char := "xn--".toList

/-- The greatest number of characters of a label that is encoded. -/
def longestEncoded : Nat := 1000

/-- The greatest length of a name that is decoded. -/
def longestDecoded : Nat := 2000

/-- A label of a domain, in its characters and in ASCII. -/
structure Label where
  text : List Char
  ascii : List Char

/-- Whether a decoded label could have come out of mapping. -/
def isMapped (text : List Char) : Bool :=
  (text.any fun c => 0x80 ≤ c.toNat) && text.all (fun c => mapChar? c == some [c] && c != '.') &&
    Unicode.compose text == text

/-- The label of an ASCII name. -/
def Label.ofName? (name : List Char) : Option Label := do
  let text ← Punycode.decode? name
  if (name.all fun c => c.toNat < 0x80) ∧ name.getLast? ≠ some '-' ∧
      name.length ≤ longestDecoded ∧ isMapped text then
    some ⟨text, mark ++ name⟩
  else none

/-- The label of a mapped text. -/
def Label.ofMapped? (text : List Char) : Option Label :=
  match Split.dropPrefix? mark text with
  | some name => Label.ofName? name
  | none =>
    if text.all fun c => c.toNat < 0x80 then some ⟨text, text⟩
    else if text.length ≤ longestEncoded then some ⟨text, mark ++ Punycode.encode text⟩
    else none

/-- Whether a label may stand in a domain, whatever the others are. -/
def Label.isAllowed (l : Label) : Bool :=
  l.text.all (fun c => !isDenied c) && !(l.text.head?.any Unicode.isMark) &&
    Unicode.joinersFit [] l.text

/-- The ASCII form of a domain. -/
def toAscii? (cs : List Char) : Option (List Char) := do
  let mapped ← cs.mapM mapChar?
  let labels ←
    (Split.splitOn '.' (Unicode.compose mapped.flatten)).mapM Label.ofMapped?
  if labels.all Label.isAllowed && Unicode.Direction.fits (labels.map Label.text) then
    some (['.'].intercalate (labels.map Label.ascii))
  else none

end OpenIdProvider.Idna
