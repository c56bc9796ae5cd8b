/-
  The tokens of a YAML text, and the reading of those that stand alone: names of anchors, tags and
  directives.
-/
import OpenIdProvider.Yaml.Scalar

namespace OpenIdProvider.Yaml

/-- A piece of a YAML text. The ends of block collections show only in the indentation, and so do
the beginnings of most keys; they are tokens all the same. -/
inductive Token
  | version (major minor : Nat)
  /-- What a handle stands for in the tags of a document. -/
  | tagHandle (handle : List Char) (meaning : List UInt8)
  | documentStart
  | documentEnd
  | blockSequenceStart
  | blockMappingStart
  | blockEnd
  | flowSequenceStart
  | flowSequenceEnd
  | flowMappingStart
  | flowMappingEnd
  | blockEntry
  | flowEntry
  | key
  | value
  | alias (name : List Char)
  | anchor (name : List Char)
  | tag (handle : List Char) (suffix : List UInt8)
  | scalar (style : Style) (text : List Char)
deriving DecidableEq, Repr

namespace Cursor

/-! ## Anchors -/

/-- Reads the name of an anchor or of an alias, from its mark on. -/
def anchorName? (c : Cursor) : Option (List Char × Cursor) :=
  let (name, c) := c.skip.takeWhile isNameChar
  if !name.isEmpty && (c.seesSpace 0 || c.sees 0 fun x => "?:,]\x7d%@`".toList.contains x) then
    some (name, c)
  else none

/-! ## Tags -/

/-- The characters of a tag. Commas and square brackets belong to it only where it is delimited. -/
def isTagChar (delimited : Bool) (x : Char) : Bool :=
  isNameChar x || ";/?:@&=+$.%!~*'()".toList.contains x ||
    (delimited && (x == ',' || x == '[' || x == ']'))

/-- Reads an escaped byte. -/
def escapedByte? (c : Cursor) : Option (UInt8 × Cursor) :=
  match c.rest with
  | '%' :: high :: low :: _ => do
    let high ← Ascii.hexDigit? high
    let low ← Ascii.hexDigit? low
    some ((16 * high + low).toUInt8, c.skipMany 3)
  | _ => none

/-- How many bytes follow the first byte of an encoded character. -/
def trailingBytes? (b : UInt8) : Option Nat :=
  if b < 0x80 then some 0
  else if 0xC0 ≤ b && b < 0xE0 then some 1
  else if 0xE0 ≤ b && b < 0xF0 then some 2
  else if 0xF0 ≤ b && b < 0xF8 then some 3
  else none

/-- Reads escaped bytes that go on an encoded character. -/
def escapedTail? : Nat → Cursor → Option (List UInt8 × Cursor)
  | 0, c => some ([], c)
  | n + 1, c => do
    let (b, c) ← c.escapedByte?
    if 0x80 ≤ b && b < 0xC0 then
      let (bs, c) ← escapedTail? n c
      some (b :: bs, c)
    else none

/-- Reads an encoded character, all of whose bytes are escaped. -/
def escapedChar? (c : Cursor) : Option (List UInt8 × Cursor) := do
  let (b, c) ← c.escapedByte?
  let (bs, c) ← escapedTail? (← trailingBytes? b) c
  some (b :: bs, c)

/-- Reads the characters of a tag, as bytes. -/
def tagBytes (delimited : Bool) : Nat → Cursor → Option (List UInt8 × Cursor)
  | 0, c => some ([], c)
  | fuel + 1, c =>
    match c.ahead 0 with
    | none => some ([], c)
    | some x =>
      if !isTagChar delimited x then some ([], c)
      else do
        let (bs, c) ← if x == '%' then c.escapedChar? else some ([x.toNat.toUInt8], c.skip)
        let (more, c) ← tagBytes delimited fuel c
        some (bs ++ more, c)

def tagText (delimited : Bool) (c : Cursor) : Option (List UInt8 × Cursor) :=
  tagBytes delimited (c.rest.length + 1) c

/-- Reads the characters of a tag, of which there must be one. -/
def tagText? (delimited : Bool) (c : Cursor) : Option (List UInt8 × Cursor) := do
  let (text, c) ← c.tagText delimited
  if text.isEmpty then none else some (text, c)

/-- Reads what may be a handle: an exclamation mark, a name, and an exclamation mark. -/
def handle (c : Cursor) : List Char × Cursor :=
  let (name, c) := c.skip.takeWhile isNameChar
  if c.seesChar '!' then ('!' :: name ++ ['!'], c.skip) else ('!' :: name, c)

/-- Whether a handle is closed, and so does not belong to what follows it. -/
def isClosed (handle : List Char) : Bool := handle.length ≥ 2 && handle.getLast? == some '!'

/-- Reads a tag without looking at what follows it. Its handle is empty where it needs none. -/
def openTag? (c : Cursor) : Option (Token × Cursor) :=
  if c.sees 1 (· == '<') then do
    let (text, c) ← (c.skipMany 2).tagText? true
    if c.seesChar '>' then some (.tag [] text, c.skip) else none
  else
    let (handle, after) := c.handle
    if isClosed handle then do
      let (text, c) ← after.tagText? false
      some (.tag handle text, c)
    else do
      let (text, c) ← c.skip.tagText false
      some (if text.isEmpty then .tag [] [0x21] else .tag ['!'] text, c)

/-- Reads a tag. Only a gap, a break or the end may follow it, and in brackets a comma. -/
def tag? (inFlow : Bool) (c : Cursor) : Option (Token × Cursor) := do
  let (tag, c) ← c.openTag?
  if c.seesSpace 0 || (inFlow && c.seesChar ',') then some (tag, c) else none

/-! ## Directives -/

/-- Reads a number of a version, of at most nine digits. -/
def versionNumber? (c : Cursor) : Option (Nat × Cursor) := do
  let (digits, c) := c.takeWhile Ascii.isDigit
  let n ← Ascii.readNat? 10 digits
  if digits.length ≤ 9 then some (n, c) else none

def versionDirective? (c : Cursor) : Option (Token × Cursor) := do
  let (major, c) ← c.skipGaps.versionNumber?
  if c.seesChar '.' then
    let (minor, c) ← c.skip.versionNumber?
    some (.version major minor, c)
  else none

def tagDirective? (c : Cursor) : Option (Token × Cursor) :=
  let c := c.skipGaps
  if c.seesChar '!' then
    let (handle, c) := c.handle
    if (isClosed handle || handle == ['!']) && c.sees 0 isGap then do
      let (meaning, c) ← c.skipGaps.tagText? true
      if c.seesSpace 0 then some (.tagHandle handle meaning, c) else none
    else none
  else none

/-- Reads a directive, from its mark on, and the rest of its line. -/
def directive? (c : Cursor) : Option (Token × Cursor) := do
  let (name, c) := c.skip.takeWhile isNameChar
  let (directive, c) ←
    if !c.seesSpace 0 then none
    else if name == "YAML".toList then c.versionDirective?
    else if name == "TAG".toList then c.tagDirective?
    else none
  some (directive, ← c.finishLine?)

end Cursor

end OpenIdProvider.Yaml
