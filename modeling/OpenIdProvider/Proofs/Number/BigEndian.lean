/-
  Numbers written as bytes and read back. A number that fits into a width is written as that many
  bytes, and every list of bytes is a number that fits into its length.
-/
import Mathlib.Algebra.Group.Nat.Defs
import OpenIdProvider.Number.BigEndian

namespace OpenIdProvider.BigEndian

theorem value_append (bs cs : List UInt8) :
    value (bs ++ cs) = value bs * 256 ^ cs.length + value cs := by
  have hfold (n : Nat) : ∀ cs : List UInt8,
      cs.foldl (fun (n : Nat) (b : UInt8) => n * 256 + b.toNat) n =
        n * 256 ^ cs.length + value cs := by
    intro cs
    unfold value
    induction cs generalizing n with
    | nil => simp
    | cons c cs ih =>
      rw [List.foldl_cons, List.foldl_cons, ih, ih (0 * 256 + c.toNat), List.length_cons,
        Nat.pow_succ, Nat.add_mul, Nat.zero_mul, Nat.zero_add, Nat.mul_assoc,
        Nat.mul_comm 256, Nat.add_assoc]
  show (bs ++ cs).foldl _ 0 = _
  rw [List.foldl_append, hfold]
  rfl

theorem value_cons (b : UInt8) (bs : List UInt8) :
    value (b :: bs) = b.toNat * 256 ^ bs.length + value bs := by
  have h := value_append [b] bs
  have hone : value [b] = b.toNat := by
    show 0 * 256 + b.toNat = b.toNat
    omega
  rwa [hone] at h

/-- The number of some bytes fits into them. -/
theorem value_lt (bs : List UInt8) : value bs < 256 ^ bs.length := by
  induction bs with
  | nil => exact Nat.one_pos
  | cons b bs ih =>
    have hb : b.toNat + 1 ≤ 256 := b.toNat_lt
    have hmul := Nat.mul_le_mul_right (256 ^ bs.length) hb
    rw [Nat.add_mul, Nat.one_mul] at hmul
    rw [value_cons, List.length_cons, Nat.pow_succ, Nat.mul_comm _ 256]
    omega

theorem value_zeros (k : Nat) (bs : List UInt8) :
    value (List.replicate k 0 ++ bs) = value bs := by
  induction k with
  | zero => rfl
  | succ k ih =>
    rw [List.replicate_succ, List.cons_append, value_cons, ih]
    exact (Nat.add_comm _ _).trans (by simp)

theorem value_bytesOnto (n : Nat) (tail : List UInt8) :
    value (bytesOnto n tail) = n * 256 ^ tail.length + value tail := by
  induction n using Nat.strongRecOn generalizing tail with
  | ind n ih =>
    unfold bytesOnto
    split
    · next h =>
      subst h
      simp
    · next h =>
      have hbyte : (UInt8.ofNat n).toNat = n % 256 := UInt8.toNat_ofNat'
      have hsplit : n / 256 * 256 + n % 256 = n := by omega
      rw [ih (n / 256) (by omega), value_cons, List.length_cons, Nat.pow_succ, hbyte,
        ← Nat.add_assoc, Nat.mul_comm _ 256, ← Nat.mul_assoc, ← Nat.add_mul, hsplit]

/-- A number is read back from its bytes. -/
theorem value_bytes (n : Nat) : value (bytes n) = n := by
  have h := value_bytesOnto n []
  rwa [List.length_nil, Nat.pow_zero, Nat.mul_one] at h

theorem bytes_ne_nil {n : Nat} (h : n ≠ 0) : bytes n ≠ [] := by
  intro hnil
  have hvalue := value_bytes n
  rw [hnil] at hvalue
  exact h hvalue.symm

theorem length_bytesOnto_le {n width : Nat} (h : n < 256 ^ width) (tail : List UInt8) :
    (bytesOnto n tail).length ≤ width + tail.length := by
  induction width generalizing n tail with
  | zero =>
    have hn : n = 0 := Nat.lt_one_iff.1 h
    unfold bytesOnto
    simp only [if_pos hn]
    omega
  | succ width ih =>
    unfold bytesOnto
    split
    · omega
    · rw [Nat.pow_succ] at h
      have hle := ih (Nat.div_lt_of_lt_mul (Nat.mul_comm _ 256 ▸ h)) (UInt8.ofNat n :: tail)
      rw [List.length_cons] at hle
      omega

/-- A number that fits into a width is written as that many bytes. -/
theorem length_padded {n width : Nat} (h : n < 256 ^ width) : (padded width n).length = width := by
  have hle := length_bytesOnto_le h []
  rw [List.length_nil, Nat.add_zero] at hle
  unfold padded bytes
  rw [List.length_append, List.length_replicate]
  omega

theorem value_padded (width n : Nat) : value (padded width n) = n := by
  unfold padded
  rw [value_zeros, value_bytes]

theorem lt_two_pow_bitLength (n : Nat) : n < 2 ^ bitLength n := by
  unfold bitLength
  split
  · next h =>
    subst h
    exact Nat.one_pos
  · exact Nat.lt_log2_self

theorem two_pow_le_of_bitLength {n k : Nat} (h : k < bitLength n) : 2 ^ k ≤ n := by
  unfold bitLength at h
  split at h
  · exact absurd h (Nat.not_lt_zero k)
  · next hn =>
    exact Nat.le_trans (Nat.pow_le_pow_right (by decide) (Nat.le_of_lt_succ h))
      (Nat.log2_self_le hn)

/-- A number fits into its length in bytes. -/
theorem lt_pow_byteLength (n : Nat) : n < 256 ^ byteLength n := by
  have hpow : (256 : Nat) ^ byteLength n = 2 ^ (8 * byteLength n) := by
    rw [Nat.pow_mul]
  have hle : bitLength n ≤ 8 * byteLength n := by
    unfold byteLength
    omega
  rw [hpow]
  exact Nat.lt_of_lt_of_le (lt_two_pow_bitLength n) (Nat.pow_le_pow_right (by decide) hle)

end OpenIdProvider.BigEndian
