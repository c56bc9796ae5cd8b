/-
  Where the reading of a YAML text stands, and the classes of characters that matter to it. Five
  characters break lines, a carriage return and a line feed together being one break.
-/
import OpenIdProvider.Text.Ascii

namespace OpenIdProvider.Yaml

/-- The characters that a text may hold. -/
def isAllowed (c : Char) : Bool :=
  let n := c.toNat
  n == 9 || n == 10 || n == 13 || (0x20 ≤ n && n ≤ 0x7E) || n == 0x85 ||
    (0xA0 ≤ n && n ≤ 0xFFFD) || 0x10000 ≤ n

def isBreak (c : Char) : Bool :=
  c == '\n' || c == '\r' || c.toNat == 0x85 || c.toNat == 0x2028 || c.toNat == 0x2029

/-- A space or a tab. -/
def isGap (c : Char) : Bool := c == ' ' || c == '\t'

/-- The mark that may begin a line without being part of it. -/
def isByteOrderMark (c : Char) : Bool := c.toNat == 0xFEFF

/-- The characters of names. -/
def isNameChar (c : Char) : Bool := Ascii.isLetterOrDigit c || c == '-' || c == '_'

/-- The text that is left, and how much has been read: characters, lines, and characters of the
line. -/
structure Cursor where
  rest : List Char
  index : Nat
  line : Nat
  column : Nat

namespace Cursor

def ofText (text : List Char) : Cursor := ⟨text, 0, 0, 0⟩

/-- The character a number of places ahead. -/
def ahead (c : Cursor) (n : Nat) : Option Char := c.rest[n]?

def atEnd (c : Cursor) : Bool := c.rest.isEmpty

/-- Whether a character of a class comes a number of places ahead. -/
def sees (c : Cursor) (n : Nat) (p : Char → Bool) : Bool :=
  match c.ahead n with
  | some x => p x
  | none => false

/-- Whether a character comes next. -/
def seesChar (c : Cursor) (x : Char) : Bool := c.sees 0 (· == x)

/-- Whether a gap, a break or the end comes a number of places ahead. -/
def seesSpace (c : Cursor) (n : Nat) : Bool :=
  match c.ahead n with
  | some x => isGap x || isBreak x
  | none => true

/-- Whether a break or the end comes next. -/
def seesLineEnd (c : Cursor) : Bool :=
  match c.ahead 0 with
  | some x => isBreak x
  | none => true

/-- Passes over one character. -/
def skip (c : Cursor) : Cursor :=
  match c.rest with
  | [] => c
  | _ :: rest => ⟨rest, c.index + 1, c.line, c.column + 1⟩

def skipMany (c : Cursor) (n : Nat) : Cursor :=
  ⟨c.rest.drop n, c.index + min n c.rest.length, c.line, c.column + min n c.rest.length⟩

/-- Reads the characters of a class. -/
def takeWhile (c : Cursor) (p : Char → Bool) : List Char × Cursor :=
  let taken := c.rest.takeWhile p
  (taken, c.skipMany taken.length)

/-- Passes over gaps. -/
def skipGaps (c : Cursor) : Cursor := (c.takeWhile isGap).2

/-- Passes over what is left of a line. -/
def skipToLineEnd (c : Cursor) : Cursor := (c.takeWhile fun x => !isBreak x).2

/-- Reads a break. Those of one line are told apart from those of a paragraph or a page. -/
def takeBreak (c : Cursor) : List Char × Cursor :=
  match c.rest with
  | '\r' :: '\n' :: rest => (['\n'], ⟨rest, c.index + 2, c.line + 1, 0⟩)
  | x :: rest =>
    if isBreak x then
      (if x.toNat == 0x2028 || x.toNat == 0x2029 then [x] else ['\n'],
        ⟨rest, c.index + 1, c.line + 1, 0⟩)
    else ([], c)
  | [] => ([], c)

/-- Passes over gaps, a comment and a break; nothing else may be left of the line. -/
def finishLine? (c : Cursor) : Option Cursor :=
  let c := c.skipGaps
  let c := if c.seesChar '#' then c.skipToLineEnd else c
  if c.seesLineEnd then some c.takeBreak.2 else none

/-- Whether a line begins with three times the same character and a gap, a break or the end. -/
def seesMarker (c : Cursor) (x : Char) : Bool :=
  c.column == 0 && c.sees 0 (· == x) && c.sees 1 (· == x) && c.sees 2 (· == x) && c.seesSpace 3

/-- Whether a document begins or ends here. -/
def seesDocument (c : Cursor) : Bool := c.seesMarker '-' || c.seesMarker '.'

end Cursor

end OpenIdProvider.Yaml
