/-
  The document of a YAML text as a tree. Aliases are replaced by what they stand for; only one that
  stands inside its own anchor is left, as a cycle. A text holds one document or none.
-/
import OpenIdProvider.Yaml.Layout

namespace OpenIdProvider.Yaml

/-- A value with the names of its parts. -/
inductive Node
  | scalar (style : Style) (tag : Option (List UInt8)) (text : String)
  | sequence (items : List Node)
  | mapping (entries : List (Node × Node))
  | cycle

namespace Node

/-- What stands where a value is left out. -/
def absent : Node := .scalar .plain none ""

end Node

/-- Where a value stands. In brackets no block may begin; behind a key a sequence may go without
indentation of its own. -/
inductive Place
  | flow
  | block
  | entry
deriving DecidableEq

/-- The tokens that are left, and what the ones before have defined. -/
structure Composition where
  tokens : List Token
  /-- What the handles of tags stand for. -/
  handles : List (List Char × List UInt8)
  /-- The number of the node that each anchor is at, the latest first. -/
  anchors : List (List Char × Nat)
  /-- The nodes that are complete, by number. -/
  complete : List (Nat × Node)
  /-- How many nodes have had an anchor. -/
  anchored : Nat

/-- Reads a value at a place. -/
abbrev Composer := Place → Composition → Option (Node × Composition)

namespace Composition

def withTokens (s : Composition) (tokens : List Token) : Composition := { s with tokens := tokens }

/-- The token that comes next. -/
def next (s : Composition) : Option Token := s.tokens.head?

/-- The composition behind the next token. -/
def rest (s : Composition) : Composition := s.withTokens s.tokens.tail

/-- Whether the next token is one of some tokens. -/
def sees (s : Composition) (tokens : List Token) : Bool :=
  match s.next with
  | some t => tokens.contains t
  | none => false

/-- Takes a token that must come next. -/
def expect? (s : Composition) (t : Token) : Option Composition :=
  if s.next = some t then some s.rest else none

/-! ## Anchors and tags -/

/-- The node that an alias stands for. -/
def aliased? (s : Composition) (name : List Char) : Option Node := do
  let n ← s.anchors.lookup name
  some ((s.complete.lookup n).getD .cycle)

/-- Puts an anchor at the node that begins here. -/
def mark (s : Composition) (name : List Char) : Composition :=
  { s with anchors := (name, s.anchored) :: s.anchors, anchored := s.anchored + 1 }

/-- The text of a tag. -/
def resolve? (s : Composition) (handle : List Char) (suffix : List UInt8) :
    Option (List UInt8) :=
  if handle.isEmpty then some suffix
  else (s.handles.lookup handle).map (· ++ suffix)

/-- The anchor and the tag in front of a node, in either order. -/
structure Properties where
  anchor : Option (List Char)
  tag : Option (List Char × List UInt8)

def properties (s : Composition) : Properties × Composition :=
  match s.tokens with
  | .anchor name :: .tag handle suffix :: rest =>
    (⟨some name, some (handle, suffix)⟩, s.withTokens rest)
  | .tag handle suffix :: .anchor name :: rest =>
    (⟨some name, some (handle, suffix)⟩, s.withTokens rest)
  | .anchor name :: rest => (⟨some name, none⟩, s.withTokens rest)
  | .tag handle suffix :: rest => (⟨none, some (handle, suffix)⟩, s.withTokens rest)
  | _ => (⟨none, none⟩, s)

/-! ## Collections -/

/-- Reads a value unless one of some tokens comes next. -/
def valueUnless (compose : Composer) (place : Place) (stops : List Token) (s : Composition) :
    Option (Node × Composition) :=
  if s.sees stops then some (.absent, s) else compose place s

/-- The entries of a sequence whose dashes are indented. -/
def blockItems (compose : Composer) : Nat → Composition → Option (List Node × Composition)
  | 0, _ => none
  | fuel + 1, s =>
    match s.next with
    | some .blockEntry => do
      let (item, s) ← valueUnless compose .block [.blockEntry, .blockEnd] s.rest
      let (items, s) ← blockItems compose fuel s
      some (item :: items, s)
    | some .blockEnd => some ([], s.rest)
    | _ => none

/-- The entries of a sequence whose dashes stand below the key. -/
def entryItems (compose : Composer) : Nat → Composition → Option (List Node × Composition)
  | 0, _ => none
  | fuel + 1, s =>
    match s.next with
    | some .blockEntry => do
      let (item, s) ←
        valueUnless compose .block [.blockEntry, .key, .value, .blockEnd] s.rest
      let (items, s) ← entryItems compose fuel s
      some (item :: items, s)
    | _ => some ([], s)

/-- The value behind a colon, which may be left out with its colon. -/
def valueAfterColon (compose : Composer) (place : Place) (stops : List Token) (s : Composition) :
    Option (Node × Composition) :=
  if s.next = some .value then valueUnless compose place stops s.rest else some (.absent, s)

/-- The entries of a mapping that goes by indentation. -/
def blockEntries (compose : Composer) :
    Nat → Composition → Option (List (Node × Node) × Composition)
  | 0, _ => none
  | fuel + 1, s =>
    let stops : List Token := [.key, .value, .blockEnd]
    let entry (keyed : Option (Node × Composition)) :
        Option (List (Node × Node) × Composition) := do
      let (key, s) ← keyed
      let (value, s) ← valueAfterColon compose .entry stops s
      let (entries, s) ← blockEntries compose fuel s
      some ((key, value) :: entries, s)
    match s.next with
    | some .key => entry (valueUnless compose .entry stops s.rest)
    | some .blockEnd => some ([], s.rest)
    | _ => none

/-- Passes over the comma that all entries in brackets but the first need. -/
def comma? (first : Bool) (s : Composition) : Option Composition :=
  if first then some s else s.expect? .flowEntry

/-- A mapping of one entry in square brackets. Where its key is left out, the token that comes
instead is passed over. -/
def singlePair (compose : Composer) (s : Composition) : Option (Node × Composition) := do
  let (key, s) ←
    if s.sees [.value, .flowEntry, .flowSequenceEnd] then some (.absent, s.rest)
    else compose .flow s
  let (value, s) ← valueAfterColon compose .flow [.flowEntry, .flowSequenceEnd] s
  some (.mapping [(key, value)], s)

/-- The entries of a sequence in brackets. -/
def flowItems (compose : Composer) :
    Bool → Nat → Composition → Option (List Node × Composition)
  | _, 0, _ => none
  | first, fuel + 1, s =>
    let closing : Token := .flowSequenceEnd
    if s.next = some closing then some ([], s.rest)
    else do
      let s ← s.comma? first
      if s.next = some closing then some ([], s.rest)
      else
        let (item, s) ←
          if s.next = some .key then singlePair compose s.rest else compose .flow s
        let (items, s) ← flowItems compose false fuel s
        some (item :: items, s)

/-- The entries of a mapping in brackets. -/
def flowEntries (compose : Composer) :
    Bool → Nat → Composition → Option (List (Node × Node) × Composition)
  | _, 0, _ => none
  | first, fuel + 1, s =>
    let closing : Token := .flowMappingEnd
    if s.next = some closing then some ([], s.rest)
    else do
      let s ← s.comma? first
      if s.next = some closing then some ([], s.rest)
      else
        let (key, value, s) ←
          if s.next = some .key then do
            let (key, s) ← valueUnless compose .flow [.value, .flowEntry, closing] s.rest
            let (value, s) ← valueAfterColon compose .flow [.flowEntry, closing] s
            some (key, value, s)
          else do
            let (key, s) ← compose .flow s
            some (key, .absent, s)
        let (entries, s) ← flowEntries compose false fuel s
        some ((key, value) :: entries, s)

/-! ## Nodes -/

/-- The tag of a scalar. An exclamation mark alone is none, unless the scalar is left out. -/
def scalarTag (tag : Option (List UInt8)) : Option (List UInt8) :=
  if tag = some [0x21] then none else tag

/-- Reads what follows an anchor and a tag. The node may be left out if there is one of them. -/
def content? (compose : Composer) (place : Place) (marked : Bool) (tag : Option (List UInt8))
    (s : Composition) : Option (Node × Composition) :=
  let fuel := s.tokens.length + 1
  let orAbsent := if marked then some (Node.scalar .plain tag "", s) else none
  match s.next with
  | some (.scalar style text) => some (.scalar style (scalarTag tag) (String.ofList text), s.rest)
  | some .flowSequenceStart =>
    (flowItems compose true fuel s.rest).map fun (items, s) => (.sequence items, s)
  | some .flowMappingStart =>
    (flowEntries compose true fuel s.rest).map fun (entries, s) => (.mapping entries, s)
  | some .blockEntry =>
    if place = .entry then
      (entryItems compose fuel s).map fun (items, s) => (.sequence items, s)
    else orAbsent
  | some .blockSequenceStart =>
    if place = .flow then orAbsent
    else (blockItems compose fuel s.rest).map fun (items, s) => (.sequence items, s)
  | some .blockMappingStart =>
    if place = .flow then orAbsent
    else (blockEntries compose fuel s.rest).map fun (entries, s) => (.mapping entries, s)
  | _ => orAbsent

/-- Reads a node; the number bounds its depth. -/
def node? : Nat → Composer
  | 0, _, _ => none
  | depth + 1, place, s =>
    match s.next with
    | some (.alias name) => do some (← s.aliased? name, s.rest)
    | _ => do
      let (marks, s) := s.properties
      let tag ← match marks.tag with
        | some (handle, suffix) => (s.resolve? handle suffix).map some
        | none => some none
      match marks.anchor with
      | none => content? (node? depth) place tag.isSome tag s
      | some name =>
        let number := s.anchored
        let (node, s) ← content? (node? depth) place true tag (s.mark name)
        some (node, { s with complete := (number, node) :: s.complete })

/-! ## Documents -/

/-- Reads the directives of a document. There may be one version, 1.1 or 1.2, and one meaning of
each handle. -/
def directives? : Nat → Bool → Composition → Option Composition
  | 0, _, _ => none
  | fuel + 1, versioned, s =>
    match s.next with
    | some (.version major minor) =>
      if versioned ∨ major ≠ 1 ∨ (minor ≠ 1 ∧ minor ≠ 2) then none
      else directives? fuel true s.rest
    | some (.tagHandle handle meaning) =>
      if (s.handles.lookup handle).isSome then none
      else directives? fuel versioned { s.rest with handles := (handle, meaning) :: s.handles }
    | _ => some s

/-- What handles stand for where nothing else is said. -/
def defaultHandles : List (List Char × List UInt8) :=
  [(['!'], [0x21]), (['!', '!'], "tag:yaml.org,2002:".toUTF8.toList)]

/-- Whether a document begins with what comes next, rather than with its content. -/
def seesHeader (s : Composition) : Bool :=
  match s.next with
  | some (.version ..) | some (.tagHandle ..) | some .documentStart => true
  | _ => false

/-- Whether a document has no content before what comes next. -/
def seesNoContent (s : Composition) : Bool :=
  s.tokens.isEmpty || s.seesHeader || s.sees [.documentEnd]

/-- Reads a document and the marks at its end, and nothing after it. -/
def document? (s : Composition) : Option Node := do
  let depth := 2 * s.tokens.length + 2
  let withDefaults (s : Composition) : Composition :=
    { s with handles := s.handles ++ defaultHandles }
  let (node, s) ←
    if s.tokens.isEmpty then some (.absent, s)
    else if s.seesHeader then do
      let s ← (← directives? (s.tokens.length + 1) false s).expect? .documentStart
      if s.seesNoContent then some (.absent, s) else node? depth .block (withDefaults s)
    else node? depth .block (withDefaults s)
  if s.tokens.all (· == .documentEnd) then some node else none

end Composition

/-- The tree of a text that holds one document or none. -/
def Node.ofText? (text : String) : Option Node := do
  let tokens ← tokens? text.toList
  Composition.document? ⟨tokens, [], [], [], 0⟩

end OpenIdProvider.Yaml
