/-
  Scalars: plain ones, ones in quotes and blocks of lines. Where a scalar goes on over several
  lines, one break between them becomes a space and each further one stays.
-/
import OpenIdProvider.Yaml.Cursor

namespace OpenIdProvider.Yaml

/-- How a scalar is written. -/
inductive Style
  | plain
  | quoted
  | literal
  | folded
deriving DecidableEq, Repr

/-- What stands between two pieces of a scalar: gaps of one line, or breaks. -/
structure Between where
  gaps : List Char
  firstBreak : List Char
  moreBreaks : List Char
  broken : Bool

namespace Between

def none : Between := ⟨[], [], [], false⟩

/-- After a break that is not part of the scalar. -/
def escapedBreak : Between := ⟨[], [], [], true⟩

/-- What is written for it. -/
def text (b : Between) : List Char :=
  if b.broken then
    if b.firstBreak == ['\n'] then (if b.moreBreaks.isEmpty then [' '] else b.moreBreaks)
    else b.firstBreak ++ b.moreBreaks
  else b.gaps

end Between

/-- Reads gaps and breaks. In a plain scalar no tab may stand where its indentation is wanted. -/
def between (indent : Nat) : Nat → Between → Cursor → Option (Between × Cursor)
  | 0, b, c => some (b, c)
  | fuel + 1, b, c =>
    match c.ahead 0 with
    | none => some (b, c)
    | some x =>
      if isGap x then
        if b.broken && c.column < indent && x == '\t' then Option.none
        else if b.broken then between indent fuel b c.skip
        else between indent fuel { b with gaps := b.gaps ++ [x] } c.skip
      else if isBreak x then
        let (broken, c) := c.takeBreak
        if b.broken then
          between indent fuel { b with moreBreaks := b.moreBreaks ++ broken } c
        else between indent fuel ⟨[], broken, b.moreBreaks, true⟩ c
      else some (b, c)

/-! ## Plain scalars -/

def isFlowIndicator (x : Char) : Bool :=
  x == ',' || x == '[' || x == ']' || x == '\x7b' || x == '\x7d'

/-- Reads the characters of a plain scalar up to a gap, a break or what ends it. In brackets no
colon may stand before a comma, a question mark or a bracket. -/
def plainPiece (inFlow : Bool) : Nat → List Char → Cursor → Option (List Char × Cursor)
  | 0, piece, c => some (piece.reverse, c)
  | fuel + 1, piece, c =>
    match c.ahead 0 with
    | none => some (piece.reverse, c)
    | some x =>
      if c.seesSpace 0 then some (piece.reverse, c)
      else if x == ':' && inFlow && c.sees 1 (fun y => isFlowIndicator y || y == '?') then
        Option.none
      else if (x == ':' && c.seesSpace 1) || (inFlow && isFlowIndicator x) then
        some (piece.reverse, c)
      else plainPiece inFlow fuel (x :: piece) c.skip

/-- Reads the pieces of a plain scalar, and tells whether a break has been read after its last
character. The number bounds what is left of the text. -/
def plainPieces (inFlow : Bool) (indent : Nat) :
    Nat → Between → Cursor → Option (List Char × Bool × Cursor)
  | 0, b, c => some ([], b.broken, c)
  | fuel + 1, b, c =>
    if c.seesDocument || c.seesChar '#' then some ([], b.broken, c)
    else do
      let (piece, c) ← plainPiece inFlow fuel [] c
      let front := b.text ++ piece
      if piece.isEmpty then some ([], b.broken, c)
      else if c.atEnd || !c.seesSpace 0 then some (front, false, c)
      else
        let (b, c) ← between indent fuel .none c
        if !inFlow && c.column < indent then some (front, b.broken, c)
        else
          let (more, broken, c) ← plainPieces inFlow indent fuel b c
          some (front ++ more, broken, c)

/-- Reads a plain scalar that is indented at least so far. -/
def plainScalar (inFlow : Bool) (indent : Nat) (c : Cursor) :
    Option (List Char × Bool × Cursor) :=
  plainPieces inFlow indent (c.rest.length + 1) .none c

/-! ## Quoted scalars -/

/-- The character of a short escape. -/
def shortEscape? (x : Char) : Option Char :=
  match x with
  | '0' => some (Char.ofNat 0)
  | 'a' => some (Char.ofNat 0x07)
  | 'b' => some (Char.ofNat 0x08)
  | 't' => some '\t'
  | '\t' => some '\t'
  | 'n' => some '\n'
  | 'v' => some (Char.ofNat 0x0B)
  | 'f' => some (Char.ofNat 0x0C)
  | 'r' => some '\r'
  | 'e' => some (Char.ofNat 0x1B)
  | ' ' => some ' '
  | '"' => some '"'
  | '/' => some '/'
  | '\\' => some '\\'
  | 'N' => some (Char.ofNat 0x85)
  | '_' => some (Char.ofNat 0xA0)
  | 'L' => some (Char.ofNat 0x2028)
  | 'P' => some (Char.ofNat 0x2029)
  | _ => none

/-- How many hexadecimal digits follow the letter of an escape. -/
def escapeDigits? (x : Char) : Option Nat :=
  match x with
  | 'x' => some 2
  | 'u' => some 4
  | 'U' => some 8
  | _ => none

/-- Reads an escape, from its backslash on. -/
def escape? (c : Cursor) : Option (Char × Cursor) := do
  let letter ← c.ahead 1
  match shortEscape? letter with
  | some x => some (x, c.skipMany 2)
  | none =>
    let count ← escapeDigits? letter
    let digits := (c.rest.drop 2).take count
    let n ← Ascii.readNat? 16 digits
    if digits.length = count ∧ Nat.isValidChar n then
      some (Char.ofNat n, c.skipMany (2 + count))
    else none

/-- Reads the characters of a quoted scalar up to a gap, a break or the closing quote, and tells
whether it stopped after an escaped break. -/
def quotedPiece (quote : Char) : Nat → List Char → Cursor → Option (List Char × Bool × Cursor)
  | 0, piece, c => some (piece.reverse, false, c)
  | fuel + 1, piece, c =>
    match c.ahead 0 with
    | none => some (piece.reverse, false, c)
    | some x =>
      if c.seesSpace 0 then some (piece.reverse, false, c)
      else if quote == '\'' && x == quote && c.sees 1 (· == quote) then
        quotedPiece quote fuel (quote :: piece) (c.skipMany 2)
      else if x == quote then some (piece.reverse, false, c)
      else if quote == '"' && x == '\\' then
        if c.sees 1 isBreak then some (piece.reverse, true, c.skip.takeBreak.2)
        else
          match escape? c with
          | none => none
          | some (y, c) => quotedPiece quote fuel (y :: piece) c
      else quotedPiece quote fuel (x :: piece) c.skip

/-- Reads the pieces of a quoted scalar and its closing quote. The number bounds what is left of the
text. -/
def quotedPieces (quote : Char) : Nat → Cursor → Option (List Char × Cursor)
  | 0, _ => none
  | fuel + 1, c =>
    if c.seesDocument || c.atEnd then none
    else do
      let (piece, escaped, c) ← quotedPiece quote fuel [] c
      if c.seesChar quote then some (piece, c.skip)
      else
        let start := if escaped then Between.escapedBreak else Between.none
        let (b, c) ← between 0 fuel start c
        let (more, c) ← quotedPieces quote fuel c
        some (piece ++ b.text ++ more, c)

/-- Reads a quoted scalar, from its opening quote on. -/
def quotedScalar (quote : Char) (c : Cursor) : Option (List Char × Cursor) :=
  quotedPieces quote (c.rest.length + 1) c.skip

/-! ## Blocks -/

/-- What is kept of the breaks at the end of a block. -/
inductive Chomping
  | strip
  | clip
  | keep
deriving DecidableEq

def chomping? (c : Cursor) : Option (Chomping × Cursor) :=
  if c.seesChar '+' then some (.keep, c.skip)
  else if c.seesChar '-' then some (.strip, c.skip)
  else none

/-- Reads an indentation from one to nine; zero is refused. -/
def increment? (c : Cursor) : Option (Option (Nat × Cursor)) :=
  match (c.ahead 0).bind Ascii.digit? with
  | none => some none
  | some 0 => none
  | some n => some (some (n, c.skip))

/-- Reads what may follow the indicator of a block: its chomping and its indentation. -/
def blockHeader? (c : Cursor) : Option (Chomping × Option Nat × Cursor) := do
  match chomping? c with
  | some (chomping, c) =>
    match ← increment? c with
    | some (n, c) => some (chomping, some n, c)
    | none => some (chomping, none, c)
  | none =>
    match ← increment? c with
    | none => some (.clip, none, c)
    | some (n, c) =>
      match chomping? c with
      | some (chomping, c) => some (chomping, some n, c)
      | none => some (.clip, some n, c)

/-- Reads the indentation and the empty lines before a line. While the indentation of the block is
not known, the deepest line of spaces is remembered. -/
def blockBreaks (indent : Option Nat) :
    Nat → Nat → Cursor → Option (Nat × List Char × Cursor)
  | 0, deepest, c => some (deepest, [], c)
  | fuel + 1, deepest, c => do
    let spaces := (c.rest.takeWhile (· == ' ')).length
    let c :=
      match indent with
      | none => c.skipMany spaces
      | some n => c.skipMany (min spaces (n - c.column))
    let deepest := max deepest c.column
    let wanted :=
      match indent with
      | none => true
      | some n => c.column < n
    if wanted && c.seesChar '\t' then none
    else if c.sees 0 isBreak then
      let (broken, c) := c.takeBreak
      let (deepest, more, c) ← blockBreaks indent fuel deepest c
      some (deepest, broken ++ more, c)
    else some (deepest, [], c)

/-- What has been read of the lines of a block: the break after the last line, the breaks behind
that one, and whether the line began with a gap. -/
structure LineEnd where
  lastBreak : List Char
  breaks : List Char
  afterGap : Bool

/-- What joins a line to the one before it. In a folded block a single break becomes a space, but
not beside a line that begins with a gap. -/
def LineEnd.joint (e : LineEnd) (folded gap : Bool) : List Char :=
  if folded && e.lastBreak == ['\n'] && !e.afterGap && !gap then
    (if e.breaks.isEmpty then [' '] else e.breaks)
  else e.lastBreak ++ e.breaks

/-- Reads the lines of a block. The first number bounds what is left of the text. -/
def blockLines (folded : Bool) (indent : Nat) :
    Nat → LineEnd → Cursor → Option (List Char × LineEnd × Cursor)
  | 0, e, c => some ([], e, c)
  | fuel + 1, e, c =>
    if c.column = indent ∧ !c.atEnd then do
      let gap := c.sees 0 isGap
      let (line, c) := c.takeWhile fun x => !isBreak x
      let (lastBreak, c) := c.takeBreak
      let (_, breaks, c) ← blockBreaks (some indent) fuel 0 c
      let (more, last, c) ← blockLines folded indent fuel ⟨lastBreak, breaks, gap⟩ c
      some (e.joint folded gap ++ line ++ more, last, c)
    else some ([], e, c)

/-- Reads a block, from its indicator on, in a collection of some indentation; -1 stands for that
of a document. -/
def blockScalar (folded : Bool) (parent : Int) (c : Cursor) : Option (List Char × Cursor) := do
  let (chomping, increment, c) ← blockHeader? c.skip
  let c ← c.finishLine?
  let base := (max parent 0).toNat
  let known := increment.map fun n => base + n
  let fuel := c.rest.length + 1
  let (deepest, breaks, c) ← blockBreaks known fuel 0 c
  let indent := known.getD (max (max deepest (parent + 1).toNat) 1)
  let (text, last, c) ← blockLines folded indent fuel ⟨[], breaks, false⟩ c
  match chomping with
  | .strip => some (text, c)
  | .clip => some (text ++ last.lastBreak, c)
  | .keep => some (text ++ last.lastBreak ++ last.breaks, c)

end OpenIdProvider.Yaml
