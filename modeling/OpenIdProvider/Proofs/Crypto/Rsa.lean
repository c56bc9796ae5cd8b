/-
  Signatures that a key makes are accepted by its public key. The padded digest is smaller than the
  modulus, and for two distinct prime factors the exponents undo each other modulo each of them
  and so modulo their product. A key of 2048 bits stands at the end; its factors are shown to be
  prime by a number that generates all others modulo each of them.
-/
import Mathlib.FieldTheory.Finite.Basic
import Mathlib.NumberTheory.LucasPrimality
import OpenIdProvider.Key.Encoding
import OpenIdProvider.Proofs.Chain
import OpenIdProvider.Proofs.Number.BigEndian

namespace OpenIdProvider

theorem Sha256.length_digest (message : List UInt8) : (Sha256.digest message).length = 32 := rfl

namespace Rsa

/-! ## Exponents that undo each other -/

theorem pow_modEq_of_prime {p a : Nat} (hp : p.Prime) (ha : 0 < a) (h : 1 ≡ a [MOD p - 1])
    (m : Nat) : m ^ a ≡ m [MOD p] := by
  have : Fact p.Prime := ⟨hp⟩
  obtain ⟨k, hk⟩ := (Nat.modEq_iff_dvd' ha).1 h
  have hexponent : a = (p - 1) * k + 1 := by omega
  rw [← ZMod.natCast_eq_natCast_iff, Nat.cast_pow, hexponent, pow_succ, pow_mul]
  by_cases hm : (m : ZMod p) = 0
  · rw [hm, mul_zero]
  · rw [ZMod.pow_card_sub_one_eq_one hm, one_pow, one_mul]

/-- Undone modulo two distinct primes, a power is undone modulo their product. -/
theorem pow_modEq_of_primes {p q a : Nat} (hp : p.Prime) (hq : q.Prime) (hne : p ≠ q)
    (ha : 0 < a) (h : 1 ≡ a [MOD p - 1]) (h' : 1 ≡ a [MOD q - 1]) (m : Nat) :
    m ^ a ≡ m [MOD p * q] :=
  (Nat.modEq_and_modEq_iff_modEq_mul ((Nat.coprime_primes hp hq).2 hne)).1
    ⟨pow_modEq_of_prime hp ha h m, pow_modEq_of_prime hq ha h' m⟩

/-! ## Signatures -/

/-- The padding has as many bytes as the modulus, and the first of them is zero. -/
theorem paddedDigest_lt {n : Nat} (h : 256 ≤ BigEndian.byteLength n) (message : List UInt8) :
    paddedDigest (BigEndian.byteLength n) message < n := by
  generalize hsize : BigEndian.byteLength n = size at h ⊢
  have hinfo : (digestInfo ++ Sha256.digest message).length = 51 := by
    rw [List.length_append, Sha256.length_digest]
    rfl
  have hbits : 8 * (size - 1) < BigEndian.bitLength n := by
    unfold BigEndian.byteLength at hsize
    omega
  have hle := BigEndian.two_pow_le_of_bitLength hbits
  have hpow : (2 : Nat) ^ (8 * (size - 1)) = 256 * 256 ^ (size - 2) := by
    rw [Nat.pow_mul, ← Nat.pow_succ']
    congr 1
    omega
  unfold paddedDigest
  generalize digestInfo ++ Sha256.digest message = info at hinfo ⊢
  generalize htail : List.replicate (size - 3 - info.length) (0xFF : UInt8) ++ 0 :: info = tail
  have hlength : tail.length = size - 2 := by
    rw [← htail, List.length_append, List.length_replicate, List.length_cons]
    omega
  have hvalue : BigEndian.value (0 :: 1 :: tail) = 256 ^ (size - 2) + BigEndian.value tail := by
    rw [BigEndian.value_cons, BigEndian.value_cons, hlength]
    show 0 * _ + (1 * _ + _) = _
    rw [Nat.zero_mul, Nat.zero_add, Nat.one_mul]
  have hlt := BigEndian.value_lt tail
  rw [hlength] at hlt
  have hcons : 0 :: 1 :: List.replicate (size - 3 - info.length) (0xFF : UInt8) ++ 0 :: info =
      0 :: 1 :: tail := by
    rw [← htail]
    rfl
  show BigEndian.value (0 :: 1 :: List.replicate (size - 3 - info.length) 0xFF ++ 0 :: info) < n
  rw [hcons, hvalue]
  omega

namespace PrivateKey

/-- A key signs every message, and its public key accepts the signature. -/
def CanSign (key : PrivateKey) : Prop :=
  ∀ message, ∃ signature, key.sign message = .ok signature ∧
    key.publicKey.verify message signature = true

/-- The conditions of consistency that signatures rest on. -/
theorem exponents_of_isConsistent {key : PrivateKey} (h : key.isConsistent = true) :
    BigEndian.bitLength key.publicKey.modulus ≤ 4096 ∧ key.p * key.q = key.publicKey.modulus ∧
      1 ≡ key.exponent * key.publicKey.exponent [MOD key.p - 1] ∧
      1 ≡ key.exponent * key.publicKey.exponent [MOD key.q - 1] := by
  simp only [isConsistent, Bool.and_eq_true, decide_eq_true_eq, beq_iff_eq] at h
  obtain ⟨⟨⟨⟨⟨⟨⟨⟨hbits, -⟩, -⟩, -⟩, -⟩, -⟩, hmodulus⟩, hp⟩, hq⟩ := h
  exact ⟨hbits, hmodulus, hp.symm, hq.symm⟩

theorem bounds_of_checkStrength {key : PrivateKey} (h : key.checkStrength = .ok ()) :
    256 ≤ key.publicKey.size ∧ 0 < key.exponent ∧ 0 < key.publicKey.exponent := by
  unfold checkStrength at h
  simp only at h
  split at h
  · cases h
  · rename_i hsize
    split at h
    · cases h
    · split at h
      · cases h
      · split at h
        · cases h
        · rename_i hexponent
          have hexponent' : key.exponent ≠ 0 := by
            intro hzero
            rw [hzero] at hexponent
            exact hexponent (.inl (Nat.zero_le _))
          unfold leastSigningExponent at hsize
          omega

/-- A strong and consistent key of two distinct primes can sign. -/
theorem canSign_of_primes {key : PrivateKey} (hstrong : key.checkStrength = .ok ())
    (hconsistent : key.isConsistent = true) (hp : key.p.Prime) (hq : key.q.Prime)
    (hne : key.p ≠ key.q) : key.CanSign := by
  intro message
  obtain ⟨hbits, hmodulus, hmodp, hmodq⟩ := exponents_of_isConsistent hconsistent
  obtain ⟨hsize, hd, he⟩ := bounds_of_checkStrength hstrong
  have hdigest := paddedDigest_lt hsize message
  have hpos : 0 < key.publicKey.modulus := Nat.zero_lt_of_lt hdigest
  generalize hm : paddedDigest (BigEndian.byteLength key.publicKey.modulus) message = m at hdigest
  have hm' : paddedDigest key.publicKey.size message = m := hm
  have hs : powMod m key.exponent key.publicKey.modulus < key.publicKey.modulus := by
    rw [powMod_eq]
    exact Nat.mod_lt _ hpos
  have hundone : powMod (powMod m key.exponent key.publicKey.modulus) key.publicKey.exponent
      key.publicKey.modulus = m := by
    have hpow := pow_modEq_of_primes hp hq hne (Nat.mul_pos hd he) hmodp hmodq m
    rw [hmodulus] at hpow
    rw [powMod_eq, powMod_eq]
    show (m ^ key.exponent % key.publicKey.modulus) ^ key.publicKey.exponent %
      key.publicKey.modulus = m
    rw [← Nat.pow_mod, ← Nat.pow_mul]
    exact Eq.trans hpow (Nat.mod_eq_of_lt hdigest)
  have hfits := Nat.lt_trans hs (BigEndian.lt_pow_byteLength key.publicKey.modulus)
  refine ⟨BigEndian.padded key.publicKey.size (powMod m key.exponent key.publicKey.modulus),
    ?_, ?_⟩
  · unfold sign
    rw [hstrong, hm']
    rfl
  · have hlength : (BigEndian.padded key.publicKey.size
        (powMod m key.exponent key.publicKey.modulus)).length = key.publicKey.size :=
      BigEndian.length_padded hfits
    simp only [PublicKey.verify, BigEndian.value_padded, hlength, hm', hundone, hs, hsize,
      beq_self_eq_true, decide_true, Bool.and_true, Bool.true_and, decide_eq_true_eq]
    omega

end PrivateKey

/-! ## A key -/

/-- A number that has the order of all units shows a modulus to be prime. -/
theorem prime_of_powMod {n a : Nat} (hn : 1 < n) (h : powMod a (n - 1) n = 1)
    (h' : ∀ r : Nat, r.Prime → r ∣ n - 1 → powMod a ((n - 1) / r) n ≠ 1) : n.Prime := by
  have hpow (e : Nat) : (a : ZMod n) ^ e = 1 ↔ powMod a e n = 1 := by
    rw [powMod_eq, ← Nat.cast_pow, ← Nat.cast_one, ZMod.natCast_eq_natCast_iff]
    show a ^ e % n = 1 % n ↔ a ^ e % n = 1
    rw [Nat.mod_eq_of_lt hn]
  exact lucas_primality n a ((hpow _).2 h) fun r hr hdvd heq => h' r hr hdvd ((hpow _).1 heq)

/-- The number after a product of powers of two and of another prime. -/
def afterPowers (b i j : Nat) : Nat := 2 ^ i * b ^ j + 1

/-- Only the two primes divide the number before, so the order is known from two powers. -/
theorem prime_afterPowers {b i j a : Nat} (hb : b.Prime)
    (h : powMod a (afterPowers b i j - 1) (afterPowers b i j) = 1)
    (htwo : powMod a ((afterPowers b i j - 1) / 2) (afterPowers b i j) ≠ 1)
    (hother : powMod a ((afterPowers b i j - 1) / b) (afterPowers b i j) ≠ 1) :
    (afterPowers b i j).Prime := by
  have hpos : 0 < 2 ^ i * b ^ j := Nat.mul_pos (Nat.two_pow_pos i) (Nat.pow_pos hb.pos)
  refine prime_of_powMod (Nat.succ_lt_succ hpos) h fun r hr hdvd => ?_
  have hdvd' : r ∣ 2 ^ i * b ^ j := hdvd
  rcases (Nat.Prime.dvd_mul hr).1 hdvd' with hpow | hpow
  · obtain rfl := (Nat.prime_dvd_prime_iff_eq hr Nat.prime_two).1 (hr.dvd_of_dvd_pow hpow)
    exact htwo
  · obtain rfl := (Nat.prime_dvd_prime_iff_eq hr hb).1 (hr.dvd_of_dvd_pow hpow)
    exact hother

/-- A prime of 1024 bits. -/
def samplePrime : Nat := afterPowers 5 508 222

/-- Another one. -/
def samplePrime' : Nat := afterPowers 7 364 235

theorem prime_samplePrime : samplePrime.Prime :=
  prime_afterPowers (a := 3) Nat.prime_five (by decide +kernel) (by decide +kernel)
    (by decide +kernel)

theorem prime_samplePrime' : samplePrime'.Prime :=
  prime_afterPowers (a := 3) Nat.prime_seven (by decide +kernel) (by decide +kernel)
    (by decide +kernel)

/-- A key of 2048 bits. -/
def sampleKey : PrivateKey where
  publicKey := ⟨samplePrime * samplePrime', 65537⟩
  exponent := (61023 * ((samplePrime - 1) * (samplePrime' - 1)) + 1) / 65537
  p := samplePrime
  q := samplePrime'

theorem canSign_sampleKey : sampleKey.CanSign := by
  have hstrong : sampleKey.checkStrength = .ok () := eq_ok_of_toOption (by decide +kernel)
  exact PrivateKey.canSign_of_primes hstrong (by decide +kernel) prime_samplePrime
    prime_samplePrime' (by decide +kernel)

end Rsa

end OpenIdProvider
