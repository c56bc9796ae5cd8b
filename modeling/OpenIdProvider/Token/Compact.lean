/-
  Signed tokens in their compact form: the header, the claims and the signature, each in Base64 for
  URLs, joined by dots. The signature is over the first two with the dot between them.
-/
import OpenIdProvider.Codec.Base64
import OpenIdProvider.Crypto.Rsa
import OpenIdProvider.Text.Split
import OpenIdProvider.Token.Claims
import OpenIdProvider.Token.Header

namespace OpenIdProvider.Token

/-- Why a token cannot be made or is refused. -/
inductive Error
  | malformed
  | base64 (e : Base64.Error)
  | json (e : Json.Error)
  | otherAlgorithm
  | badSignature
  | weakKey (w : Rsa.Weakness)

def Error.message : Error → String
  | .malformed => "JWT error: InvalidToken"
  | .base64 e => "JWT error: Base64 error: " ++ e.message
  | .json e => "JWT error: JSON error: " ++ e.message
  | .otherAlgorithm => "JWT error: InvalidAlgorithm"
  | .badSignature => "JWT error: InvalidSignature"
  | .weakKey w => "JWT error: RSA key invalid: " ++ w.message

/-- One part of a token. -/
def encodePart (v : Json) : List Char := Base64.encodeUrl (Utf8.encodeChars v.chars)

/-- What the signature of a token is over. -/
def signedPart (header claims : Json) : List Char := encodePart header ++ '.' :: encodePart claims

/-- The token of some claims. -/
def sign (key : Rsa.PrivateKey) (keyId : String) (claims : Json) : Except Error String :=
  let message := signedPart (Header.own keyId) claims
  match key.sign (Utf8.encodeChars message) with
  | .error w => .error (.weakKey w)
  | .ok signature => .ok (String.ofList (message ++ '.' :: Base64.encodeUrl signature))

def decodePart (part : List Char) : Except Error (List UInt8) :=
  match Base64.decodeUrl (Utf8.encodeChars part) with
  | .ok bytes => .ok bytes
  | .error e => .error (.base64 e)

def ofJson {α : Type} (r : Except Json.Error α) : Except Error α := r.mapError .json

/-- The header, the claims and the signature of a token, and what the signature is over. -/
def split (token : String) : Except Error (List Char × List Char × List Char × List Char) :=
  match Split.splitLast '.' token.toList with
  | none => .error .malformed
  | some (message, signature) =>
    match Split.splitLast '.' message with
    | none => .error .malformed
    | some (header, claims) => .ok (header, claims, signature, message)

/-- The claims of a token whose signature a key has made. Instants are not judged. -/
def verify (key : Rsa.PublicKey) (token : String) : Except Error Json := do
  let (header, claims, signature, message) ← split token
  let algorithm ← ofJson (Header.parse (← decodePart header))
  if algorithm ≠ Header.ownAlgorithm then .error .otherAlgorithm
  else
    let signature ← decodePart signature
    if key.verify (Utf8.encodeChars message) signature then
      ofJson (Claims.parse (← decodePart claims))
    else .error .badSignature

end OpenIdProvider.Token
