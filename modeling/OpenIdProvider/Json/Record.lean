/-
  Records: JSON objects with known fields, which may also be written as arrays of the values of
  the fields in their order. Unknown members are skipped; a field must not occur twice.
-/
import OpenIdProvider.Json.Skip

namespace OpenIdProvider.Json

namespace Reader

/-- What stands at the front: scalars are read, opening brackets are not. -/
def foundAt (bs : List UInt8) : Reading Found :=
  match skipSpace bs with
  | [] => failNext .endInValue []
  | b :: rest =>
    if b = 0x6E then (word ull rest).map fun (_, rest) => (.null, rest)
    else if b = 0x74 then (word rue rest).map fun (_, rest) => (.bool true, rest)
    else if b = 0x66 then (word alse rest).map fun (_, rest) => (.bool false, rest)
    else if b = 0x2D then (number false rest).map fun (n, rest) => (.number n, rest)
    else if isDigit b then (number true (b :: rest)).map fun (n, rest) => (.number n, rest)
    else if b = 0x22 then (string rest).map fun (s, rest) => (.string s, rest)
    else if b = 0x5B then .ok (.sequence, b :: rest)
    else if b = 0x7B then .ok (.map, b :: rest)
    else failNext .expectedValue (b :: rest)

/-- Refuses what stands at the front where something else is expected. -/
def mismatch {α : Type} (expected : String) (bs : List UInt8) : Reading α :=
  (foundAt bs).bind fun (found, rest) => failHere (.invalidType found expected) rest

/-- A string. -/
def text (bs : List UInt8) : Reading Json :=
  match skipSpace bs with
  | 0x22 :: rest => (string rest).map fun (s, rest) => (.string s, rest)
  | rest => mismatch "a string" rest

/-- The word `null`, or what another reader reads. -/
def optional (read : List UInt8 → Reading Json) (bs : List UInt8) : Reading Json :=
  match skipSpace bs with
  | 0x6E :: rest => (word ull rest).map fun (_, rest) => (.null, rest)
  | rest => read rest

/-- An integer of 64 bits with a sign. -/
def int64 (bs : List UInt8) : Reading Json :=
  let check : Number × List UInt8 → Reading Json
    | (.int i, rest) =>
      if -0x8000000000000000 ≤ i ∧ i < 0x8000000000000000 then .ok (.ofInt i, rest)
      else failHere (.invalidValue (.number (.int i)) "i64") rest
    | (n, rest) => failHere (.invalidType (.number n) "i64") rest
  match skipSpace bs with
  | b :: rest =>
    if b = 0x2D then (number false rest).bind check
    else if isDigit b then (number true (b :: rest)).bind check
    else mismatch "i64" (b :: rest)
  | [] => mismatch "i64" []

/-- A string that must be one of some names. -/
def name (names : List String) (bs : List UInt8) : Reading Json :=
  match skipSpace bs with
  | 0x22 :: rest =>
    (string rest).bind fun (s, rest) =>
    if names.contains s then .ok (.string s, rest)
    else failHere (.unknownVariant s names) rest
  | rest => mismatch "variant identifier" rest

/-- One of some names, alone or as the only member of an object, with the value `null`. -/
def variant (levels : Nat) (names : List String) (bs : List UInt8) : Reading Json :=
  match skipSpace bs with
  | 0x22 :: rest => name names (0x22 :: rest)
  | 0x7B :: rest =>
    if levels = 0 then failNext .tooDeep (0x7B :: rest)
    else
      (name names rest).bind fun (v, rest) =>
      (colon rest).bind fun (_, rest) =>
      match skipSpace rest with
      | 0x6E :: rest =>
        (word ull rest).bind fun (_, rest) =>
        match skipSpace rest with
        | [] => failNext .endInObject []
        | 0x7D :: rest => .ok (v, rest)
        | rest => failNext .expectedValue rest
      | rest => mismatch "unit" rest
  | [] => failNext .endInValue []
  | rest => failNext .expectedValue rest

/-- An array of strings. -/
def texts (levels : Nat) (bs : List UInt8) : Reading Json :=
  match skipSpace bs with
  | 0x5B :: rest =>
    if levels = 0 then failNext .tooDeep (0x5B :: rest)
    else (array text rest).map fun (xs, rest) => (.array xs, rest)
  | rest => mismatch "a sequence" rest

end Reader

/-- A field of a record. -/
structure Field where
  name : String
  /-- Whether the field may be absent from an object. -/
  optional : Bool
  /-- Whether the field may be absent at the end of an array. -/
  trailing : Bool
  /-- Reads the value; the number bounds its depth. -/
  read : Nat → List UInt8 → Reading Json

/-- The name and the fields of a record. -/
structure Shape where
  name : String
  fields : List Field

/-- The values of the fields that were found, in the order of the fields. -/
abbrev Slots := List (Option Json)

namespace Shape

/-- What is expected of an array. -/
def elements (shape : Shape) : String :=
  shape.name ++ " with " ++ toString shape.fields.length ++
    (if shape.fields.length = 1 then " element" else " elements")

/-- The first field without a value that must have one. -/
def missing? : List Field → Slots → Option String
  | f :: fs, s :: ss => if s.isNone && !f.optional then some f.name else missing? fs ss
  | _, _ => none

open Reader

/-- The members of an object, put into the slots of their fields. -/
def members (shape : Shape) (levels : Nat) :
    Nat → Bool → Slots → List UInt8 → Reading Slots
  | 0, _, slots, bs => .ok (slots, bs)
  | fuel + 1, first, slots, bs =>
    (nextName first bs).bind fun (name?, rest) =>
    match name? with
    | none => .ok (slots, rest)
    | some name =>
      match shape.fields.findIdx? (fun f => f.name == name) with
      | none =>
        (colon rest).bind fun (_, rest) =>
        (Skip.value rest).bind fun (_, rest) => members shape levels fuel false slots rest
      | some i =>
        if (slots[i]?.getD none).isSome then .error (.pending (.duplicateField name) rest)
        else
          match shape.fields[i]? with
          | none => .ok (slots, rest)
          | some f =>
            (colon rest).bind fun (_, rest) =>
            (f.read levels rest).bind fun (v, rest) =>
            members shape levels fuel false (slots.set i (some v)) rest

/-- The values of an array, one for each field. -/
def values (shape : Shape) (levels : Nat) : List Field → Bool → List UInt8 → Reading Slots
  | [], _, bs => .ok ([], bs)
  | f :: fs, first, bs =>
    (nextItem first bs).bind fun (more, rest) =>
    if more then
      (f.read levels rest).bind fun (v, rest) =>
      (values shape levels fs false rest).map fun (slots, rest) => (some v :: slots, rest)
    else if f.trailing then
      (values shape levels fs first rest).map fun (slots, rest) => (none :: slots, rest)
    else
      .error (.pending (.invalidLength (shape.fields.length - fs.length - 1) shape.elements) rest)

/-- Reads a record. -/
def read (shape : Shape) (levels : Nat) (bs : List UInt8) : Reading Slots :=
  match skipSpace bs with
  | 0x5B :: rest =>
    if levels = 0 then failNext .tooDeep (0x5B :: rest)
    else
      within closeArray afterCloseArray (values shape (levels - 1) shape.fields true rest)
  | 0x7B :: rest =>
    if levels = 0 then failNext .tooDeep (0x7B :: rest)
    else
      within closeObject afterCloseObject
        ((members shape (levels - 1) (rest.length + 1) true
          (shape.fields.map fun _ => none) rest).bind fun (slots, rest) =>
          match missing? shape.fields slots with
          | some name => .error (.pending (.missingField name) rest)
          | none => .ok (slots, rest))
  | rest => mismatch shape.name rest

/-- Reads a record from a whole text. -/
def parse (shape : Shape) (bytes : List UInt8) : Except Error Slots :=
  whole (shape.read depthLimit) bytes

end Shape

end OpenIdProvider.Json
