/-
  Who signs and checks tokens: an authority that knows one key, and the description of that key for
  others.
-/
import OpenIdProvider.Key.Encoding
import OpenIdProvider.Token.Compact

namespace OpenIdProvider

/-- An authority signs claims, checks tokens and publishes its key. -/
structure KeyAuthority where
  sign : Json → Except Token.Error String
  verify : String → Except Token.Error Json
  publicKeys : Json

namespace Rsa.PublicKey

/-- The identifier of a key: the digest of its encoding. -/
def keyId (key : PublicKey) : String :=
  String.ofList (Base64.encodeUrl (Sha256.digest key.der))

def numberText (n : Nat) : Json := .string (String.ofList (Base64.encodeUrl (BigEndian.bytes n)))

/-- The description of a key. -/
def jwk (key : PublicKey) : Json :=
  .object [("kty", .string "RSA"), ("use", .string "sig"),
    ("alg", .string Token.Header.ownAlgorithm), ("kid", .string key.keyId),
    ("n", numberText key.modulus), ("e", numberText key.exponent)]

end Rsa.PublicKey

/-- The authority of a private key. -/
def KeyAuthority.ofRsa (key : Rsa.PrivateKey) : KeyAuthority where
  sign := Token.sign key key.publicKey.keyId
  verify := Token.verify key.publicKey
  publicKeys := .object [("keys", .array [key.publicKey.jwk])]

end OpenIdProvider
