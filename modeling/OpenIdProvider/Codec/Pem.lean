/-
  The textual form of keys: bytes in Base64 between lines that name what they are. Lines of Base64
  are 64 symbols wide, the last one excepted. Text before the first line is passed over; after the
  last line nothing but one line break may follow.
-/
import OpenIdProvider.Codec.Base64
import OpenIdProvider.Text.Split
import OpenIdProvider.Text.Utf8

namespace OpenIdProvider.Pem

/-- How many symbols a line has. -/
def width : Nat := 64

def opening : List UInt8 := Utf8.encode "-----BEGIN "

def closing : List UInt8 := Utf8.encode "-----END "

def dashes : List UInt8 := Utf8.encode "-----"

/-- What follows a line break at the front. -/
def dropBreak? : List UInt8 → Option (List UInt8)
  | 0x0D :: 0x0A :: rest => some rest
  | 0x0D :: rest => some rest
  | 0x0A :: rest => some rest
  | _ => none

/-- What precedes a line break at the end. -/
def dropLastBreak? (bs : List UInt8) : Option (List UInt8) :=
  match bs.reverse with
  | 0x0A :: 0x0D :: before => some before.reverse
  | 0x0D :: before => some before.reverse
  | 0x0A :: before => some before.reverse
  | _ => none

/-- What follows the words that open the first line. They stand at the front or after a line feed,
and no zero byte stands before them. -/
def afterOpening? : List UInt8 → Option (List UInt8)
  | [] => none
  | b :: rest =>
    if b = 0 then none
    else if b = 0x0A then
      match Split.dropPrefix? opening rest with
      | some found => some found
      | none => afterOpening? rest
    else afterOpening? rest

/-- The symbols of lines of full width, the last of which may be shorter. -/
def joinLines? : Nat → List UInt8 → Option (List UInt8)
  | 0, _ => none
  | fuel + 1, bs =>
    match bs.drop width with
    | [] => some bs
    | rest => do
      let rest ← dropBreak? rest
      let symbols ← joinLines? fuel rest
      some (bs.take width ++ symbols)

/-- The bytes of a text with a label. -/
def decode? (label : String) (text : List UInt8) : Option (List UInt8) := do
  let label := Utf8.encode label
  let afterWords ←
    match Split.dropPrefix? opening text with
    | some found => some found
    | none => afterOpening? text
  let afterLine ← Split.dropPrefix? (label ++ dashes) afterWords
  let body ← dropBreak? afterLine
  let body := (dropLastBreak? body).getD body
  let body ← Split.dropSuffix? (closing ++ label ++ dashes) body
  let body ← dropLastBreak? body
  let symbols ← joinLines? (body.length + 1) body
  (Base64.decode .standard .canonical symbols).toOption

/-- Cuts symbols into lines. -/
def lines : Nat → List Char → List (List Char)
  | 0, _ => []
  | fuel + 1, symbols =>
    if symbols.isEmpty then [] else symbols.take width :: lines fuel (symbols.drop width)

/-- The text of some bytes with a label. -/
def encode (label : String) (bytes : List UInt8) : String :=
  let symbols := Base64.encode .standard .canonical bytes
  let body := (lines symbols.length symbols).flatMap fun line => line ++ ['\n']
  "-----BEGIN " ++ label ++ "-----\n" ++ String.ofList body ++ "-----END " ++ label ++ "-----\n"

end OpenIdProvider.Pem
