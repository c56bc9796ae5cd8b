/-
  RSA signatures of the scheme RSASSA-PKCS1-v1_5 with SHA-256. A signature is the padded digest of
  a message raised to the private exponent, and is checked with the public one.
-/
import OpenIdProvider.Crypto.Sha256
import OpenIdProvider.Number.BigEndian

namespace OpenIdProvider.Rsa

/-- The power `b ^ e` modulo `m`, by repeated squaring. -/
def powMod (b e m : Nat) : Nat :=
  if e = 0 then 1 % m
  else
    let half := powMod (b * b % m) (e / 2) m
    if e % 2 = 1 then half * b % m else half
termination_by e

theorem powMod_eq (b e m : Nat) : powMod b e m = Nat.pow b e % m := by
  show powMod b e m = b ^ e % m
  induction e using Nat.strongRecOn generalizing b with
  | ind e ih =>
    unfold powMod
    split
    · next h => subst h; simp
    · next h =>
      have hhalf : powMod (b * b % m) (e / 2) m = (b * b) ^ (e / 2) % m := by
        rw [ih (e / 2) (by omega), ← Nat.pow_mod]
      have hsquare : (b * b) ^ (e / 2) = b ^ (2 * (e / 2)) := by rw [Nat.pow_mul, Nat.pow_two]
      simp only [hhalf, hsquare]
      split
      · next hodd =>
        rw [Nat.mod_mul_mod, ← Nat.pow_succ]
        congr 2
        omega
      · next heven =>
        congr 2
        omega

structure PublicKey where
  modulus : Nat
  exponent : Nat
deriving DecidableEq, Repr

/-- A private key of two prime factors. -/
structure PrivateKey where
  publicKey : PublicKey
  exponent : Nat
  p : Nat
  q : Nat
deriving DecidableEq, Repr

/-- Why a key cannot sign, although it is consistent. -/
inductive Weakness
  | tooSmall
  | unevenFactors
  | factorLength
deriving DecidableEq, Repr

def Weakness.message : Weakness → String
  | .tooSmall => "TooSmall"
  | .unevenFactors => "InconsistentComponents"
  | .factorLength => "PrivateModulusLenNotMultipleOf512Bits"

/-- The length of the modulus in bytes, and so of every signature. -/
def PublicKey.size (key : PublicKey) : Nat := BigEndian.byteLength key.modulus

/-- What stands before the digest: the name of SHA-256 in the encoding of the scheme. -/
def digestInfo : List UInt8 :=
  [0x30, 0x31, 0x30, 0x0D, 0x06, 0x09, 0x60, 0x86, 0x48, 0x01, 0x65, 0x03, 0x04, 0x02, 0x01,
    0x05, 0x00, 0x04, 0x20]

/-- The padded digest of a message, as a number of `size` bytes. -/
def paddedDigest (size : Nat) (message : List UInt8) : Nat :=
  let info := digestInfo ++ Sha256.digest message
  BigEndian.value (0 :: 1 :: List.replicate (size - 3 - info.length) 0xFF ++ 0 :: info)

/-- The least exponent that a key may sign under. -/
def leastSigningExponent : Nat := 65537

namespace PrivateKey

/-- A key is good for signing if its modulus has 2048 bits, its exponent is not too small, and its
factors and private exponent have the lengths that these ask for. -/
def checkStrength (key : PrivateKey) : Except Weakness Unit :=
  let bits := BigEndian.bitLength key.publicKey.modulus
  let half := (bits + 1) / 2
  if key.publicKey.size < 256 ∨ key.publicKey.exponent < leastSigningExponent then
    .error .tooSmall
  else if BigEndian.bitLength key.p ≠ half ∨ BigEndian.bitLength key.q ≠ half then
    .error .unevenFactors
  else if half % 512 ≠ 0 then .error .factorLength
  else if BigEndian.bitLength key.exponent ≤ half ∨ key.publicKey.modulus ≤ key.exponent then
    .error .unevenFactors
  else .ok ()

/-- The signature of a message. -/
def sign (key : PrivateKey) (message : List UInt8) : Except Weakness (List UInt8) :=
  key.checkStrength.map fun _ =>
    BigEndian.padded key.publicKey.size
      (powMod (paddedDigest key.publicKey.size message) key.exponent key.publicKey.modulus)

end PrivateKey

/-- Whether a signature belongs to a message. It must be as long as the modulus and stand for a
number below it, and the modulus must have 2048 to 8192 bits. -/
def PublicKey.verify (key : PublicKey) (message signature : List UInt8) : Bool :=
  let s := BigEndian.value signature
  256 ≤ key.size && BigEndian.bitLength key.modulus ≤ 8192 && signature.length == key.size &&
    decide (s < key.modulus) &&
    powMod s key.exponent key.modulus == paddedDigest key.size message

end OpenIdProvider.Rsa
