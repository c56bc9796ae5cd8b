/-
  The header of a signed token: what the token is, the algorithm of its signature, and hints at
  the key. Only the algorithm must be there.
-/
import OpenIdProvider.Json.Record

namespace OpenIdProvider.Token

namespace Header

/-- The algorithms of signatures that have a name. -/
def algorithms : List String :=
  ["HS256", "HS384", "HS512", "ES256", "ES384", "RS256", "RS384", "RS512", "PS256", "PS384",
    "PS512", "EdDSA"]

/-- The algorithm of this provider. -/
def ownAlgorithm : String := "RS256"

/-- The header of a token that a key signs. -/
def own (keyId : String) : Json :=
  .object [("typ", .string "JWT"), ("alg", .string ownAlgorithm), ("kid", .string keyId)]

open Json Json.Reader

/-- The members of an embedded key that are texts, for each type of key. -/
def keyTexts : List (String × List String) :=
  [("EC", ["x", "y"]), ("RSA", ["n", "e"]), ("oct", ["k"]), ("OKP", ["x"])]

def curves : List String := ["P-256", "P-384", "P-521", "Ed25519"]

/-- Whether an embedded key has the members of its type. -/
def hasKeyMembers (key : Members) : Bool :=
  match (key.get? "kty").bind Json.asString? with
  | none => false
  | some type =>
    let isText (name : String) : Bool := ((key.get? name).bind Json.asString?).isSome
    let onCurve : Bool :=
      match (key.get? "crv").bind Json.asString? with
      | some curve => curves.contains curve
      | none => false
    match keyTexts.lookup type with
    | none => false
    | some names => names.all isText && (onCurve || !(type == "EC" || type == "OKP"))

/-- The first of some optional texts of an embedded key that is something else. -/
def badText? (key : Members) (names : List String) : Option Cause :=
  names.findSome? fun name =>
    match key.get? name with
    | none => none
    | some .null => none
    | some (.string _) => none
    | some v => some (.invalidType (Json.found v) "a string")

/-- A public key embedded in the header. It is checked and otherwise ignored. -/
def embeddedKey (levels : Nat) (bs : List UInt8) : Reading Json :=
  match skipSpace bs with
  | 0x7B :: rest =>
    (value levels (0x7B :: rest)).bind fun (v, rest) =>
    match v with
    | .object key =>
      match badText? key ["use", "kid", "x5u", "x5t", "x5t#S256"] with
      | some cause => failHere cause rest
      | none =>
        if hasKeyMembers key then .ok (v, rest)
        else failHere (.noVariant "AlgorithmParameters") rest
    | _ => .ok (v, rest)
  | rest => mismatch "struct Jwk" rest

def textField (name : String) : Field := ⟨name, true, false, fun _ => optional text⟩

/-- The fields of a header. -/
def shape : Shape where
  name := "struct Header"
  fields :=
    [textField "typ",
      ⟨"alg", false, false, fun levels => variant levels algorithms⟩,
      textField "cty", textField "jku",
      ⟨"jwk", true, false, fun levels => optional (embeddedKey levels)⟩,
      textField "kid", textField "x5u",
      ⟨"x5c", true, false, fun levels => optional (texts levels)⟩,
      textField "x5t", textField "x5t#S256"]

/-- The algorithm that a header names. -/
def parse (bytes : List UInt8) : Except Json.Error String :=
  (shape.parse bytes).map fun slots =>
    match slots with
    | _ :: some (.string algorithm) :: _ => algorithm
    | _ => ""

end Header

end OpenIdProvider.Token
