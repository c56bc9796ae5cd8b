/-
  Values of the program read from YAML trees. A scalar is text first; which other value it is
  depends on what is wanted. A record or a sequence may be left out as a whole.
-/
import OpenIdProvider.Yaml.Node

namespace OpenIdProvider.Yaml.Node

/-- The tag of a name of the core schema. -/
def coreTag (name : String) : List UInt8 := ("tag:yaml.org,2002:" ++ name).toUTF8.toList

/-- The text of a scalar. -/
def text? : Node → Option String
  | .scalar _ _ text => some text
  | _ => none

/-- The text of a scalar that may stand for a value of a core type: a plain one, or a literal block
with the tag of the type. -/
def plainText? (type : String) : Node → Option String
  | .scalar .plain _ text => some text
  | .scalar .literal (some tag) text => if tag = coreTag type then some text else none
  | _ => none

def isNullText (text : String) : Bool := ["null", "Null", "NULL", "~"].contains text

/-- A value, or none where nothing or the word for nothing is written. -/
def optional? {α : Type} (read : Node → Option α) (n : Node) : Option (Option α) :=
  match n with
  | .scalar .plain (some tag) text =>
    if tag = coreTag "null" then (if isNullText text then some none else none)
    else (read n).map some
  | .scalar .plain none text =>
    if text.isEmpty || isNullText text then some none else (read n).map some
  | n => (read n).map some

def bool? (n : Node) : Option Bool := do
  let text ← n.plainText? "bool"
  if ["true", "True", "TRUE"].contains text then some true
  else if ["false", "False", "FALSE"].contains text then some false
  else none

/-- Reads digits in the base that is written in front of them, ten if none is. Decimal digits do
not begin with a zero. -/
def digits? : List Char → Option Nat
  | '0' :: 'x' :: digits => Ascii.readNat? 16 digits
  | '0' :: 'o' :: digits => Ascii.readNat? 8 digits
  | '0' :: 'b' :: digits => Ascii.readNat? 2 digits
  | '0' :: _ :: _ => none
  | digits => Ascii.readNat? 10 digits

/-- A number of 64 bits. -/
def nat64? (n : Node) : Option Nat := do
  let text ← n.plainText? "int"
  let value ← digits? (match text.toList with
    | '+' :: digits => digits
    | digits => digits)
  if value < 0x10000000000000000 then some value else none

/-- The items of a sequence, which may be left out. -/
def items? : Node → Option (List Node)
  | .sequence items => some items
  | .scalar .plain _ text => if text.isEmpty then some [] else none
  | _ => none

/-- A list of values. -/
def list? {α : Type} (read : Node → Option α) (n : Node) : Option (List α) := do
  (← n.items?).mapM read

/-- The entries of a mapping, which may be left out; their keys are scalars. -/
def entries? : Node → Option (List (String × Node))
  | .mapping entries => entries.mapM fun (key, value) => key.text?.map fun name => (name, value)
  | .scalar .plain _ text => if text.isEmpty then some [] else none
  | _ => none

/-- Reads a record: the values of its fields are set one after the other, each at most once.
Unknown fields are ignored. -/
def record? {α : Type} (fields : List (String × (α → Node → Option α))) (start : α)
    (n : Node) : Option (α × List String) := do
  let entries ← n.entries?
  entries.foldlM (fun (a, seen) (name, value) =>
    match fields.lookup name with
    | none => some (a, seen)
    | some set =>
      if seen.contains name then none
      else (set a value).map fun a => (a, name :: seen)) (start, [])

end OpenIdProvider.Yaml.Node
