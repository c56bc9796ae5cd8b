/-
  The encodings of RSA keys. A private key is read from its own encoding or from the general one
  for private keys, and is written in its own; both give the same key.
-/
import OpenIdProvider.Codec.Der
import OpenIdProvider.Codec.Pem
import OpenIdProvider.Crypto.Rsa

namespace OpenIdProvider.Rsa

/-- Why a private key cannot be used. -/
inductive KeyError
  /-- The text holds no private key, or one that is not consistent. -/
  | unreadable
  /-- The factors are not coprime. -/
  | notEncodable
  /-- The encoding has more bytes than one may have. -/
  | tooLong
deriving DecidableEq, Repr

def KeyError.message : KeyError → String
  | .unreadable => "Failed to parse RSA key: no consistent private key in PEM"
  | .notEncodable => "Failed to encode RSA key: PKCS#1 cryptographic error"
  | .tooLong => "Failed to encode RSA key: PKCS#1 ASN.1 error: integer overflow"

def PublicKey.der (key : PublicKey) : List UInt8 :=
  Der.sequence [Der.natural key.modulus, Der.natural key.exponent]

/-- The inverse of `a` modulo `m`, if they are coprime: of the last row of the extended division
algorithm, `(r, s)` and `(r', s')` being rows with `r = s * a` modulo `m`. -/
def inverseFrom (m : Nat) (r : Nat) (s : Int) (r' : Nat) (s' : Int) : Option Nat :=
  if h : r' = 0 then (if r = 1 then some (s % (m : Int)).toNat else none)
  else
    have : r % r' < r' := Nat.mod_lt r (Nat.pos_of_ne_zero h)
    inverseFrom m r' s' (r % r') (s - (r / r' : Nat) * s')
termination_by r'

def inverse? (a m : Nat) : Option Nat := inverseFrom m m 0 (a % m) 1

namespace PrivateKey

def label : String := "RSA PRIVATE KEY"

/-- The label of the general encoding. -/
def generalLabel : String := "PRIVATE KEY"

/-- The greatest public exponent. -/
def greatestExponent : Nat := 0x1FFFFFFFF

/-- A key is consistent if its modulus is odd, of at most 4096 bits and the product of its factors,
and its exponents undo each other modulo each factor. -/
def isConsistent (key : PrivateKey) : Bool :=
  let n := key.publicKey.modulus
  let e := key.publicKey.exponent
  BigEndian.bitLength n ≤ 4096 && n % 2 == 1 && e % 2 == 1 && 2 ≤ e && e ≤ greatestExponent &&
    e < n && key.p * key.q == n &&
    key.exponent * e % (key.p - 1) == 1 % (key.p - 1) &&
    key.exponent * e % (key.q - 1) == 1 % (key.q - 1)

/-- The key of its own encoding. The parts that follow from others may have any value. -/
def ofDer? (der : List UInt8) : Option PrivateKey := do
  let content ← Der.readWhole? Der.sequenceTag der
  let (version, rest) ← Der.readNatural? content
  let (n, rest) ← Der.readNatural? rest
  let (e, rest) ← Der.readNatural? rest
  let (d, rest) ← Der.readNatural? rest
  let (p, rest) ← Der.readNatural? rest
  let (q, rest) ← Der.readNatural? rest
  let (_, rest) ← Der.readNatural? rest
  let (_, rest) ← Der.readNatural? rest
  let (_, rest) ← Der.readNatural? rest
  let key : PrivateKey := ⟨⟨n, e⟩, d, p, q⟩
  if version = 0 ∧ rest.isEmpty ∧ key.isConsistent then some key else none

/-- The name of RSA and its empty parameters, as they stand in the general encoding. -/
def algorithm : List UInt8 :=
  Der.element Der.identifierTag [0x2A, 0x86, 0x48, 0x86, 0xF7, 0x0D, 0x01, 0x01, 0x01] ++
    Der.element Der.nullTag []

/-- Whether only tagged extensions follow. A key of version one has its public key among them, one
of version zero has not. -/
def areExtensions (version : Nat) : Nat → List UInt8 → Bool
  | 0, _ => false
  | fuel + 1, bs =>
    if bs.isEmpty then version == 0
    else
      match Der.readElement? bs with
      | none => false
      | some (tag, content, rest) =>
        if tag = 0xA0 ∨ tag = 0x80 then areExtensions version fuel rest
        else version == 1 && tag == 0x81 && !content.isEmpty && rest.isEmpty

/-- The key of the general encoding. -/
def ofGeneralDer? (der : List UInt8) : Option PrivateKey := do
  let content ← Der.readWhole? Der.sequenceTag der
  let (version, rest) ← Der.readNatural? content
  let (name, rest) ← Der.readTagged? Der.sequenceTag rest
  let (inner, rest) ← Der.readTagged? Der.octetStringTag rest
  if name = algorithm ∧ version ≤ 1 ∧ areExtensions version (rest.length + 1) rest then
    ofDer? inner
  else none

/-- The numbers of the encoding of a key. -/
def parts (key : PrivateKey) (coefficient : Nat) : List Nat :=
  [0, key.publicKey.modulus, key.publicKey.exponent, key.exponent, key.p, key.q,
    key.exponent % (key.p - 1), key.exponent % (key.q - 1), coefficient]

/-- The encoding of a key. -/
def der (key : PrivateKey) : Except KeyError (List UInt8) :=
  match inverse? key.q key.p with
  | none => .error .notEncodable
  | some coefficient =>
    let bytes := Der.sequence ((key.parts coefficient).map Der.natural)
    if bytes.length ≤ Der.greatestLength then .ok bytes else .error .tooLong

/-- The text of a key; none if the key has no encoding. -/
def pem? (key : PrivateKey) : Option String := key.der.toOption.map (Pem.encode label)

/-- The key of a text in either encoding. -/
def ofPem (text : String) : Except KeyError PrivateKey :=
  let bytes := Utf8.encode text
  match ((Pem.decode? label bytes).bind ofDer?).or
      ((Pem.decode? generalLabel bytes).bind ofGeneralDer?) with
  | none => .error .unreadable
  | some key => key.der.map fun _ => key

end PrivateKey

end OpenIdProvider.Rsa
