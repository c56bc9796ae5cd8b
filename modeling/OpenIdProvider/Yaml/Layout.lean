/-
  The tokens of a text, found from left to right. Indentation opens and closes block collections.
  A key is recognised only at the colon after it, so a slot is left in front of whatever may be a
  key, and filled when the colon comes; slots that stay empty disappear at the end.
-/
import OpenIdProvider.Yaml.Token

namespace OpenIdProvider.Yaml

/-- A place at which a key may have begun. -/
structure Candidate where
  slot : Nat
  index : Nat
  line : Nat
  column : Nat
  /-- Whether only a key can stand there. -/
  required : Bool

namespace Candidate

/-- A key ends on the line on which it begins, and has at most 1024 characters. -/
def isOver (k : Candidate) (c : Cursor) : Bool := k.line < c.line || k.index + 1024 < c.index

end Candidate

/-- A token, or a slot for the tokens in front of a key. -/
inductive Item
  | token (t : Token)
  | slot (n : Nat)

/-- How far a text has been read. -/
structure Layout where
  cursor : Cursor
  /-- What has been found, the last first. -/
  items : List Item
  /-- How many slots there are. -/
  slots : Nat
  /-- What the slots were filled with. -/
  filled : List (Nat × List Token)
  /-- The column of the innermost block collection, -1 outside of all. -/
  indent : Int
  outerIndents : List Int
  candidate : Option Candidate
  /-- The candidates outside of the open brackets, the innermost first. -/
  outerCandidates : List (Option Candidate)
  /-- Whether a key may begin here. -/
  keyAllowed : Bool

namespace Layout

def ofText (text : List Char) : Layout := ⟨.ofText text, [], 0, [], -1, [], none, [], true⟩

/-- Whether a bracket is open. -/
def inFlow (l : Layout) : Bool := !l.outerCandidates.isEmpty

def push (l : Layout) (t : Token) : Layout := { l with items := .token t :: l.items }

def allowKey (l : Layout) (allowed : Bool) : Layout := { l with keyAllowed := allowed }

def skip (l : Layout) (n : Nat) : Layout := { l with cursor := l.cursor.skipMany n }

/-! ## Candidates for keys -/

/-- Gives up a candidate, if it is not required. -/
def giveUp? : Option Candidate → Option (Option Candidate)
  | some k => if k.required then none else some none
  | none => some none

/-- Gives up the innermost candidate. -/
def dropKey? (l : Layout) : Option Layout := do
  some { l with candidate := ← giveUp? l.candidate }

/-- Leaves a slot for what may be a key here. In a block that starts in this column it must be
one. -/
def offerKey? (l : Layout) : Option Layout :=
  if l.keyAllowed then do
    let l ← l.dropKey?
    let c := l.cursor
    let required := !l.inFlow && l.indent == c.column
    some { l with
      candidate := some ⟨l.slots, c.index, c.line, c.column, required⟩
      slots := l.slots + 1
      items := .slot l.slots :: l.items }
  else some l

/-- Gives up the candidates that are too long ago. -/
def dropOver? (l : Layout) : Option Layout := do
  let check (k : Option Candidate) : Option (Option Candidate) :=
    if k.any (·.isOver l.cursor) then giveUp? k else some k
  some { l with
    candidate := ← check l.candidate
    outerCandidates := ← l.outerCandidates.mapM check }

/-! ## Indentation -/

/-- Whether a block collection begins in a column. -/
def isDeeper (l : Layout) (column : Nat) : Bool := !l.inFlow && l.indent < column

/-- Enters the block collection that begins in a column, if one does. -/
def indentTo (l : Layout) (column : Nat) : Layout :=
  if l.isDeeper column then
    { l with indent := column, outerIndents := l.indent :: l.outerIndents }
  else l

/-- Opens a block collection in the column of the cursor, if it is deeper than the innermost. -/
def openBlock (l : Layout) (start : Token) : Layout :=
  if l.isDeeper l.cursor.column then (l.indentTo l.cursor.column).push start else l

/-- Closes block collections, given the columns of those around them. -/
def closeBlocks (column : Int) : List Int → Layout → Layout
  | [], l => l
  | outer :: others, l =>
    if l.indent > column then
      closeBlocks column others { l.push .blockEnd with indent := outer, outerIndents := others }
    else l

/-- Closes the block collections that are deeper than a column. Brackets keep them open. -/
def closeTo (l : Layout) (column : Int) : Layout :=
  if l.inFlow then l else closeBlocks column l.outerIndents l

/-! ## Tokens -/

/-- Passes over gaps, comments and breaks. Where a key may begin, tabs are no gaps. -/
def toNextToken : Nat → Layout → Layout
  | 0, l => l
  | fuel + 1, l =>
    let c := l.cursor
    let c := if c.column == 0 && c.sees 0 isByteOrderMark then c.skip else c
    let c := (c.takeWhile fun x => x == ' ' || ((l.inFlow || !l.keyAllowed) && x == '\t')).2
    let c := if c.seesChar '#' then c.skipToLineEnd else c
    if c.sees 0 isBreak then
      toNextToken fuel { l with cursor := c.takeBreak.2, keyAllowed := l.keyAllowed || !l.inFlow }
    else { l with cursor := c }

/-- Takes what a reader finds at the cursor. -/
def take? (l : Layout) (read : Cursor → Option (Token × Cursor)) : Option Layout := do
  let (t, c) ← read l.cursor
  some { l.push t with cursor := c }

/-- A directive stands outside of all documents. -/
def directive? (l : Layout) : Option Layout := do
  (← (l.closeTo (-1)).dropKey?).allowKey false |>.take? Cursor.directive?

/-- The beginning or the end of a document. -/
def documentMark? (l : Layout) (t : Token) : Option Layout := do
  some (((← (l.closeTo (-1)).dropKey?).allowKey false |>.push t).skip 3)

/-- An opening bracket. A key may begin before it and after it. -/
def openFlow? (l : Layout) (t : Token) : Option Layout := do
  let l ← l.offerKey?
  some { (l.push t).skip 1 with
    candidate := none
    outerCandidates := l.candidate :: l.outerCandidates
    keyAllowed := true }

/-- A closing bracket, whether or not one is open. -/
def closeFlow? (l : Layout) (t : Token) : Option Layout := do
  let l ← l.dropKey?
  let l := ((l.push t).skip 1).allowKey false
  match l.outerCandidates with
  | [] => some l
  | k :: outer => some { l with candidate := k, outerCandidates := outer }

/-- A comma. -/
def flowEntry? (l : Layout) : Option Layout := do
  some (((← l.dropKey?).allowKey true |>.push .flowEntry).skip 1)

/-- A dash. -/
def blockEntry? (l : Layout) : Option Layout :=
  if !l.inFlow && !l.keyAllowed then none
  else do
    let l ← (l.openBlock .blockSequenceStart).dropKey?
    some ((l.allowKey true |>.push .blockEntry).skip 1)

/-- A question mark in front of a key. -/
def key? (l : Layout) : Option Layout :=
  if !l.inFlow && !l.keyAllowed then none
  else do
    let l ← (l.openBlock .blockMappingStart).dropKey?
    some ((l.allowKey (!l.inFlow) |>.push .key).skip 1)

/-- A colon. It turns the candidate into a key; else the key is missing or stands behind a question
mark. -/
def value? (l : Layout) : Option Layout :=
  match l.candidate with
  | some k =>
    let start := if l.isDeeper k.column then [Token.blockMappingStart, .key] else [.key]
    let l := { l.indentTo k.column with
      filled := (k.slot, start) :: l.filled
      candidate := none
      keyAllowed := false }
    some ((l.push .value).skip 1)
  | none =>
    if !l.inFlow && !l.keyAllowed then none
    else
      let l := l.openBlock .blockMappingStart
      some ((l.allowKey (!l.inFlow) |>.push .value).skip 1)

/-- What may be a key by itself. -/
def keyLike? (l : Layout) (read : Cursor → Option (Token × Cursor)) : Option Layout := do
  (← l.offerKey?).allowKey false |>.take? read

def quoted? (quote : Char) (c : Cursor) : Option (Token × Cursor) := do
  let (text, c) ← quotedScalar quote c
  some (.scalar .quoted text, c)

/-- A block of lines. A key may begin after it. -/
def block? (l : Layout) (folded : Bool) : Option Layout := do
  let l ← l.dropKey?
  let (text, c) ← blockScalar folded l.indent l.cursor
  some { l.push (.scalar (if folded then .folded else .literal) text) with
    cursor := c
    keyAllowed := true }

/-- A plain scalar. A key may begin after it if a break has been passed over. -/
def plain? (l : Layout) : Option Layout := do
  let l ← l.offerKey?
  let (text, broken, c) ← plainScalar l.inFlow (l.indent + 1).toNat l.cursor
  some { l.push (.scalar .plain text) with cursor := c, keyAllowed := broken }

/-- Whether a plain scalar begins with a character. -/
def beginsPlain (l : Layout) (x : Char) : Bool :=
  !("-?:,[]\x7b\x7d#&*!|>'\"%@`".toList.contains x || isGap x || isBreak x) ||
    (x == '-' && !l.cursor.sees 1 isGap) ||
    (!l.inFlow && (x == '?' || x == ':') && !l.cursor.seesSpace 1)

/-- Reads the token that begins with a character. -/
def next? (l : Layout) (x : Char) : Option Layout :=
  let c := l.cursor
  if c.column == 0 && x == '%' then l.directive?
  else if c.seesMarker '-' then l.documentMark? .documentStart
  else if c.seesMarker '.' then l.documentMark? .documentEnd
  else if x == '[' then l.openFlow? .flowSequenceStart
  else if x == '\x7b' then l.openFlow? .flowMappingStart
  else if x == ']' then l.closeFlow? .flowSequenceEnd
  else if x == '\x7d' then l.closeFlow? .flowMappingEnd
  else if x == ',' then l.flowEntry?
  else if x == '-' && c.seesSpace 1 then l.blockEntry?
  else if x == '?' && (l.inFlow || c.seesSpace 1) then l.key?
  else if x == ':' && (l.inFlow || c.seesSpace 1) then l.value?
  else if x == '*' then l.keyLike? fun c => c.anchorName?.map fun (name, c) => (.alias name, c)
  else if x == '&' then l.keyLike? fun c => c.anchorName?.map fun (name, c) => (.anchor name, c)
  else if x == '!' then l.keyLike? (Cursor.tag? l.inFlow)
  else if (x == '|' || x == '>') && !l.inFlow then l.block? (x == '>')
  else if x == '\'' || x == '"' then l.keyLike? (quoted? x)
  else if l.beginsPlain x then l.plain?
  else none

/-- Closes what indentation has opened, at the end of the text. -/
def finish? (l : Layout) : Option Layout := (l.closeTo (-1)).dropKey?

/-- Reads all tokens. The number bounds what is left of the text. -/
def run? : Nat → Layout → Option Layout
  | 0, _ => none
  | fuel + 1, l => do
    let l ← (toNextToken fuel l).dropOver?
    let l := l.closeTo l.cursor.column
    match l.cursor.ahead 0 with
    | none => l.finish?
    | some x => run? fuel (← l.next? x)

/-- The tokens that have been found, with what the slots were filled with. -/
def tokens (l : Layout) : List Token :=
  l.items.reverse.flatMap fun item =>
    match item with
    | .token t => [t]
    | .slot n => (l.filled.lookup n).getD []

end Layout

/-- A text without a mark in front of it. -/
def dropMark : List Char → List Char
  | x :: rest => if isByteOrderMark x then rest else x :: rest
  | [] => []

/-- The tokens of a text that holds allowed characters only. -/
def tokens? (text : List Char) : Option (List Token) :=
  let text := dropMark text
  if text.all isAllowed then
    (Layout.run? (text.length + 1) (.ofText text)).map Layout.tokens
  else none

end OpenIdProvider.Yaml
