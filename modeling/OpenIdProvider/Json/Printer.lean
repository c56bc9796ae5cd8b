/-
  The compact text of JSON values. Strings are written with the short escapes where JSON has one
  and `\u00xx` for the other control characters; all else stands for itself.
-/
import OpenIdProvider.Json.Basic

namespace OpenIdProvider.Json

/-- Numbers between 10⁻⁵ and 10¹⁶ are written positionally. -/
def numberLayout : Notation.Layout := ⟨-5, 15, true⟩

/-- One character of a string. -/
def escapeChar (c : Char) : List Char :=
  if c = '"' then ['\\', '"']
  else if c = '\\' then ['\\', '\\']
  else if c = '\x08' then ['\\', 'b']
  else if c = '\t' then ['\\', 't']
  else if c = '\n' then ['\\', 'n']
  else if c = '\x0c' then ['\\', 'f']
  else if c = '\r' then ['\\', 'r']
  else if c.toNat < 0x20 then ['\\', 'u'] ++ Ascii.lowerHexPadded 4 c.toNat
  else [c]

def stringChars (s : String) : List Char := '"' :: s.toList.flatMap escapeChar ++ ['"']

/-- An integer in decimal. -/
def intChars (i : Int) : List Char :=
  if i < 0 then '-' :: Ascii.digits 10 i.natAbs else Ascii.digits 10 i.natAbs

def Number.chars : Number → List Char
  | .int i => intChars i
  | .float x => Notation.text numberLayout x

mutual

/-- The text of a value. -/
def chars : Json → List Char
  | .null => ['n', 'u', 'l', 'l']
  | .bool true => ['t', 'r', 'u', 'e']
  | .bool false => ['f', 'a', 'l', 's', 'e']
  | .number n => n.chars
  | .string s => stringChars s
  | .array items => '[' :: itemsChars items
  | .object members => '{' :: membersChars members

/-- The items of an array and its closing bracket. -/
def itemsChars : List Json → List Char
  | [] => [']']
  | [x] => chars x ++ [']']
  | x :: xs => chars x ++ ',' :: itemsChars xs

/-- The members of an object and its closing brace. -/
def membersChars : List (String × Json) → List Char
  | [] => ['}']
  | [(n, v)] => stringChars n ++ ':' :: chars v ++ ['}']
  | (n, v) :: ms => stringChars n ++ ':' :: chars v ++ ',' :: membersChars ms

end

/-- The compact text of a value. -/
def text (v : Json) : String := String.ofList (chars v)

end OpenIdProvider.Json
