/-
  Signing keys that are kept in files.
-/
import OpenIdProvider.File
import OpenIdProvider.Key.Authority

namespace OpenIdProvider

/-- Why there is no signing key. -/
inductive KeyFileError
  | unreadable (path : String) (e : FileError)
  | invalid (e : Rsa.KeyError)
deriving DecidableEq, Repr

def KeyFileError.message (e : KeyFileError) : String :=
  "Key authority error: " ++
    match e with
    | .unreadable path e => "Failed to read key file " ++ path ++ ": " ++ e.message
    | .invalid e => e.message

/-- The private key of the file at a path. -/
def Rsa.PrivateKey.ofFile (path : String) (file : File) : Except KeyFileError Rsa.PrivateKey :=
  match file.text with
  | .error e => .error (.unreadable path e)
  | .ok text => (Rsa.PrivateKey.ofPem text).mapError KeyFileError.invalid

end OpenIdProvider
