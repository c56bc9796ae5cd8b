/-
  Integers as binary64 numbers. One of at most 53 binary digits is represented exactly, so cutting
  off its fraction gives it back. One of more digits is rounded, but not to fewer digits, so it is
  still compared exactly with integers of at most 53. What is cut off in general is said by means
  of the rational number that is represented.
-/
import Mathlib.Algebra.Group.Nat.Defs
import Mathlib.Data.Rat.Floor
import Mathlib.Tactic.Linarith
import OpenIdProvider.Number.Binary64

namespace OpenIdProvider.Binary64

theorem log2Quotient_one {n : Nat} (h : n ≠ 0) : log2Quotient n 1 = Nat.log2 n := by
  have hle : 2 ^ Nat.log2 n ≤ n := Nat.log2_self_le h
  have hone : Nat.log2 1 = 0 := by decide
  have hscale : (scale n 1 (-(Nat.log2 n : Int))).2 ≤ (scale n 1 (-(Nat.log2 n : Int))).1 := by
    unfold scale
    split
    · show 1 ≤ n * 2 ^ (-(Nat.log2 n : Int)).toNat
      exact Nat.mul_pos (Nat.pos_of_ne_zero h) (Nat.two_pow_pos _)
    · show 1 * 2 ^ (- -(Nat.log2 n : Int)).toNat ≤ n
      rw [Nat.one_mul, Int.neg_neg, Int.toNat_natCast]
      exact hle
  simp only [log2Quotient, hone, Int.natCast_zero, Int.sub_zero]
  exact if_pos hscale

/-- An integer is never so small that the least exponent matters. -/
theorem exponent_one {n : Nat} (h : n ≠ 0) :
    max (log2Quotient n 1 - 52) leastExponent = (Nat.log2 n : Int) - 52 := by
  rw [log2Quotient_one h]
  unfold leastExponent
  omega

/-- The significand of an integer fills up 53 binary digits. -/
theorem round?_one {n : Nat} (h : n ≠ 0) (h' : n < 2 ^ 53) :
    round? n 1 = some ⟨false, n * 2 ^ (52 - Nat.log2 n), (Nat.log2 n : Int) - 52⟩ := by
  have hlog : Nat.log2 n < 53 := (Nat.log2_lt h).2 h'
  have hscale : scale n 1 (-((Nat.log2 n : Int) - 52)) = (n * 2 ^ (52 - Nat.log2 n), 1) := by
    have htoNat : (-((Nat.log2 n : Int) - 52)).toNat = 52 - Nat.log2 n := by omega
    unfold scale
    rw [if_pos (by omega), htoNat]
    rfl
  have hnearest (m : Nat) : divNearest m 1 = m := by
    simp only [divNearest, Nat.div_one, Nat.mod_one]
    exact if_pos (by decide)
  have hlt : n * 2 ^ (52 - Nat.log2 n) < 2 ^ 53 := by
    have hpow : 2 ^ (Nat.log2 n + 1) * 2 ^ (52 - Nat.log2 n) = 2 ^ 53 := by
      rw [← Nat.pow_add]
      congr 1
      omega
    rw [← hpow]
    exact Nat.mul_lt_mul_of_pos_right Nat.lt_log2_self (Nat.two_pow_pos _)
  have hne : n * 2 ^ (52 - Nat.log2 n) ≠ 0x20000000000000 := Nat.ne_of_lt hlt
  simp only [round?, if_neg h, exponent_one h, hscale, hnearest]
  rw [if_neg hne, if_pos]
  show (Nat.log2 n : Int) - 52 ≤ greatestExponent
  unfold greatestExponent
  omega

theorem fraction_of_round? {n : Nat} (h : n ≠ 0) (h' : n < 2 ^ 53) :
    let f := fraction ⟨false, n * 2 ^ (52 - Nat.log2 n), (Nat.log2 n : Int) - 52⟩
    f.1 / f.2 = n := by
  have hlog : Nat.log2 n < 53 := (Nat.log2_lt h).2 h'
  simp only [fraction, scale]
  split
  · have hzero : 52 - Nat.log2 n = 0 := by omega
    have hzero' : ((Nat.log2 n : Int) - 52).toNat = 0 := by omega
    rw [hzero, hzero']
    show n * 2 ^ 0 * 2 ^ 0 / 1 = n
    simp
  · have htoNat : (-((Nat.log2 n : Int) - 52)).toNat = 52 - Nat.log2 n := by omega
    rw [htoNat]
    show n * 2 ^ (52 - Nat.log2 n) / (1 * 2 ^ (52 - Nat.log2 n)) = n
    rw [Nat.one_mul]
    exact Nat.mul_div_cancel n (Nat.two_pow_pos _)

/-- An integer of at most 53 binary digits is the integer part of the number nearest to it. -/
theorem truncate_ofInt {i : Int} (h : i.natAbs < 2 ^ 53) : (ofInt i).truncate = i := by
  by_cases hi : i = 0
  · subst hi
    decide +kernel
  · have hne : i.natAbs ≠ 0 := Int.natAbs_ne_zero.2 hi
    have hfraction := fraction_of_round? hne h
    unfold ofInt ofNat?
    simp only [round?_one hne h]
    by_cases hneg : i < 0
    · simp only [if_pos hneg, truncate, neg, Bool.not_false, if_true]
      simp only [fraction] at hfraction ⊢
      rw [hfraction]
      omega
    · simp only [if_neg hneg, truncate, Bool.false_eq_true, if_false]
      simp only [fraction] at hfraction ⊢
      rw [hfraction]
      omega

/-! ## Integers of more digits -/

/-- Rounding to the nearest integer never goes below the one next to it. -/
theorem div_le_divNearest (n d : Nat) : n / d ≤ divNearest n d := by
  simp only [divNearest]
  split
  · exact Nat.le_refl _
  · split
    · exact Nat.le_succ _
    · split
      · exact Nat.le_refl _
      · exact Nat.le_succ _

/-- A significand of 53 binary digits with a positive exponent stands for more digits. -/
theorem le_truncate {x : Binary64} (hsign : x.negative = false)
    (hsignificand : 2 ^ 52 ≤ x.significand) (hexponent : 1 ≤ x.exponent) :
    2 ^ 53 ≤ x.truncate := by
  obtain ⟨k, hk⟩ := Int.eq_ofNat_of_zero_le (by omega : 0 ≤ x.exponent)
  have hle : 2 ^ 52 * 2 ^ 1 ≤ x.significand * 2 ^ k :=
    Nat.mul_le_mul hsignificand (Nat.pow_le_pow_right Nat.two_pos (by omega))
  have htruncate : x.truncate = ((x.significand * 2 ^ k : Nat) : Int) := by
    simp only [truncate, fraction, scale, hsign, hk, Int.toNat_natCast, Int.natCast_nonneg, if_true,
      Bool.false_eq_true, if_false, Nat.div_one, Nat.pow_eq]
  rw [htruncate]
  exact_mod_cast hle

/-- Rounding to 53 binary digits does not make a number of more digits one of fewer. -/
theorem exists_round?_one {n : Nat} (h : 2 ^ 53 ≤ n) (h' : n < 2 ^ 64) :
    ∃ x, round? n 1 = some x ∧ x.negative = false ∧ 2 ^ 53 ≤ x.truncate := by
  have hne : n ≠ 0 := by omega
  have hlow : 53 ≤ Nat.log2 n := (Nat.le_log2 hne).2 h
  have hhigh : Nat.log2 n < 64 := (Nat.log2_lt hne).2 h'
  have hscale : scale n 1 (-((Nat.log2 n : Int) - 52)) = (n, 2 ^ (Nat.log2 n - 52)) := by
    have htoNat : (- -((Nat.log2 n : Int) - 52)).toNat = Nat.log2 n - 52 := by omega
    unfold scale
    rw [if_neg (by omega), htoNat, Nat.one_mul]
    rfl
  have hsignificand : 2 ^ 52 ≤ divNearest n (2 ^ (Nat.log2 n - 52)) := by
    refine Nat.le_trans ?_ (div_le_divNearest _ _)
    rw [Nat.le_div_iff_mul_le (Nat.two_pow_pos _), ← Nat.pow_add]
    have hsum : 52 + (Nat.log2 n - 52) = Nat.log2 n := by omega
    rw [hsum]
    exact Nat.log2_self_le hne
  simp only [round?, if_neg hne, exponent_one hne, hscale]
  generalize divNearest n (2 ^ (Nat.log2 n - 52)) = m at hsignificand ⊢
  by_cases hfull : m = 0x20000000000000
  · -- a significand of 54 digits is halved
    have hgreatest : (Nat.log2 n : Int) - 52 + 1 ≤ greatestExponent := by
      unfold greatestExponent
      omega
    rw [if_pos hfull]
    refine ⟨_, if_pos hgreatest, rfl, le_truncate rfl (Nat.le_refl _) ?_⟩
    show 1 ≤ (Nat.log2 n : Int) - 52 + 1
    omega
  · have hgreatest : (Nat.log2 n : Int) - 52 ≤ greatestExponent := by
      unfold greatestExponent
      omega
    rw [if_neg hfull]
    refine ⟨_, if_pos hgreatest, rfl, le_truncate rfl hsignificand ?_⟩
    show 1 ≤ (Nat.log2 n : Int) - 52
    omega

/-- So an integer is compared exactly with every integer of at most 53 binary digits. -/
theorem truncate_ofInt_lt_iff {i t : Int} (hi : i.natAbs < 2 ^ 64) (ht : t.natAbs < 2 ^ 53) :
    (ofInt i).truncate < t ↔ i < t := by
  by_cases hsmall : i.natAbs < 2 ^ 53
  · rw [truncate_ofInt hsmall]
  · obtain ⟨x, hround, hsign, hlarge⟩ := exists_round?_one (Nat.le_of_not_lt hsmall) hi
    unfold ofInt ofNat?
    simp only [hround]
    by_cases hneg : i < 0
    · have htruncate : x.neg.truncate = -x.truncate := by
        simp only [truncate, neg, fraction, hsign, Bool.not_false, if_true, Bool.false_eq_true,
          if_false]
      rw [if_pos hneg, htruncate]
      omega
    · rw [if_neg hneg]
      omega

/-! ## Cutting off a fraction -/

/-- The absolute value of the rational number that is represented. -/
def magnitude (x : Binary64) : ℚ := x.significand * 2 ^ x.exponent

/-- The rational number that is represented. -/
def value (x : Binary64) : ℚ := if x.negative then -x.magnitude else x.magnitude

theorem magnitude_nonneg (x : Binary64) : 0 ≤ x.magnitude :=
  mul_nonneg (Nat.cast_nonneg _) (zpow_nonneg (by norm_num) _)

/-- The fraction of a number is its magnitude. -/
theorem fraction_div (x : Binary64) : (x.fraction.1 : ℚ) / x.fraction.2 = x.magnitude := by
  unfold fraction scale magnitude
  split
  · rename_i h
    obtain ⟨k, hk⟩ := Int.eq_ofNat_of_zero_le h
    rw [hk, Int.toNat_natCast, zpow_natCast, Nat.cast_one, div_one, Nat.pow_eq]
    push_cast
    rfl
  · rename_i h
    obtain ⟨k, hk⟩ := Int.eq_ofNat_of_zero_le (by omega : 0 ≤ -x.exponent)
    have hexponent : x.exponent = -(k : Int) := by omega
    rw [hexponent, neg_neg, Int.toNat_natCast, zpow_neg, zpow_natCast, Nat.one_mul,
      div_eq_mul_inv, Nat.pow_eq]
    push_cast
    rfl

/-- The integer part of a number is the integer next to it on the side of zero. -/
theorem truncate_eq (x : Binary64) :
    x.truncate = if x.negative then ⌈x.value⌉ else ⌊x.value⌋ := by
  have hfloor : ⌊x.magnitude⌋ = ((x.fraction.1 / x.fraction.2 : Nat) : Int) := by
    rw [← fraction_div, Rat.floor_natCast_div_natCast]
    rfl
  have htruncate : x.truncate = if x.negative then -⌊x.magnitude⌋ else ⌊x.magnitude⌋ := by
    rw [hfloor]
    rfl
  rw [htruncate]
  unfold value
  cases x.negative with
  | true => exact Int.ceil_neg.symm
  | false => rfl

/-- A number is cut to less than an integer if it is less, and a negative number only if it is less
by a whole one. -/
theorem truncate_lt_iff (x : Binary64) (t : Int) :
    x.truncate < t ↔ x.value < t ∧ (0 ≤ x.value ∨ x.value ≤ t - 1) := by
  have hmagnitude := x.magnitude_nonneg
  rw [truncate_eq]
  unfold value
  cases x.negative with
  | true =>
    show ⌈-x.magnitude⌉ < t ↔ -x.magnitude < t ∧ (0 ≤ -x.magnitude ∨ -x.magnitude ≤ t - 1)
    rw [← Int.le_sub_one_iff, Int.ceil_le, Int.cast_sub, Int.cast_one]
    constructor
    · intro h
      exact ⟨by linarith, .inr h⟩
    · rintro ⟨hlt, hzero | h⟩
      · have hlt' : (0 : ℚ) < t := by linarith
        have hone : (1 : ℚ) ≤ t := by exact_mod_cast hlt'
        linarith
      · exact h
  | false =>
    show ⌊x.magnitude⌋ < t ↔ x.magnitude < t ∧ (0 ≤ x.magnitude ∨ x.magnitude ≤ t - 1)
    rw [Int.floor_lt]
    exact ⟨fun h => ⟨h, .inl hmagnitude⟩, And.left⟩

end OpenIdProvider.Binary64
