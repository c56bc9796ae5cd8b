/-
  What is found at a path, and why it cannot be read as text.
-/
import OpenIdProvider.Text.Utf8

namespace OpenIdProvider

/-- What is found at a path. -/
inductive File
  | missing
  /-- The path goes on behind a file. -/
  | unreachable
  | directory
  | bytes (content : List UInt8)
deriving DecidableEq, Repr

/-- Why a file is not read. -/
inductive FileError
  | missing
  | unreachable
  | directory
  | notText
deriving DecidableEq, Repr

def FileError.message : FileError → String
  | .missing => "No such file or directory (os error 2)"
  | .unreachable => "Not a directory (os error 20)"
  | .directory => "Is a directory (os error 21)"
  | .notText => "stream did not contain valid UTF-8"

namespace File

/-- Whether there is something at the path. -/
def isPresent : File → Bool
  | missing | unreachable => false
  | directory | bytes _ => true

/-- The text of a file. -/
def text : File → Except FileError String
  | missing => .error .missing
  | unreachable => .error .unreachable
  | directory => .error .directory
  | bytes content =>
    match Utf8.decode? content with
    | some s => .ok s
    | none => .error .notText

end File

end OpenIdProvider
