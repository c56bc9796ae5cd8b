/-
  ASCII classes by code points, and the characters that numbers are written with.
-/
import OpenIdProvider.Text.Ascii

namespace OpenIdProvider.Ascii

/-- What holds of the bytes of all numbers holds of every byte. -/
theorem forall_byte {P : UInt8 → Prop} (h : ∀ n < 256, P (UInt8.ofNat n)) (b : UInt8) : P b := by
  have hb := h b.toNat b.toNat_lt
  rwa [UInt8.ofNat_toNat] at hb

/-- A space or a visible character of ASCII. -/
def IsPrintable (c : Char) : Prop := 0x20 ≤ c.toNat ∧ c.toNat ≤ 0x7E

instance (c : Char) : Decidable (IsPrintable c) := inferInstanceAs (Decidable (_ ∧ _))

theorem isLetter_iff {c : Char} :
    isLetter c = true ↔ 65 ≤ c.toNat ∧ c.toNat ≤ 90 ∨ 97 ≤ c.toNat ∧ c.toNat ≤ 122 := by
  simp only [isLetter, isUpper, isLower, Bool.or_eq_true, Bool.and_eq_true, decide_eq_true_eq]
  rfl

theorem isDigit_iff {c : Char} : isDigit c = true ↔ 48 ≤ c.toNat ∧ c.toNat ≤ 57 := by
  unfold isDigit digit?
  have hle : '0' ≤ c ∧ c ≤ '9' ↔ 48 ≤ c.toNat ∧ c.toNat ≤ 57 := Iff.rfl
  by_cases h : '0' ≤ c ∧ c ≤ '9'
  · rw [if_pos h]
    exact ⟨fun _ => hle.1 h, fun _ => rfl⟩
  · rw [if_neg h]
    exact ⟨nofun, fun h' => absurd (hle.2 h') h⟩

theorem digit?_digitChar {n : Nat} (h : n < 10) : digit? n.digitChar = some n := by
  have hall : ∀ m < 10, digit? m.digitChar = some m := by decide
  exact hall n h

/-- The digits below ten are the decimal ones. -/
theorem hexDigit?_eq_some_iff_of_lt {c : Char} {d : Nat} (h : d < 10) :
    hexDigit? c = some d ↔ c = d.digitChar := by
  constructor
  · intro hdigit
    unfold hexDigit? at hdigit
    split at hdigit
    · rename_i hrange
      have hlow : 48 ≤ c.toNat := hrange.1
      have hall : ∀ n < 10, Char.ofNat (48 + n) = n.digitChar := by decide
      have hd : c.toNat - 48 = d := Option.some.inj hdigit
      rw [← hall d h, ← hd, Nat.add_sub_cancel' hlow, Char.ofNat_toNat]
    · split at hdigit
      · rename_i hrange
        have hlow : 97 ≤ c.toNat := hrange.1
        have hd : c.toNat - 87 = d := Option.some.inj hdigit
        omega
      · split at hdigit
        · rename_i hrange
          have hlow : 65 ≤ c.toNat := hrange.1
          have hd : c.toNat - 55 = d := Option.some.inj hdigit
          omega
        · cases hdigit
  · rintro rfl
    have hall : ∀ n < 10, hexDigit? n.digitChar = some n := by decide
    exact hall d h

theorem mem_of_mem_digits {b n : Nat} (hb : 1 < b) (hb' : b ≤ 16) {c : Char}
    (h : c ∈ digits b n) : c ∈ "0123456789abcdef".toList := by
  have hdigit : ∀ m < 16, m.digitChar ∈ "0123456789abcdef".toList := by decide
  induction n using Nat.strongRecOn with
  | ind n ih =>
    unfold digits at h
    rw [Nat.toDigits_eq_if hb] at h
    split at h
    · rw [List.mem_singleton.1 h]
      exact hdigit n (by omega)
    · rename_i hn
      rcases List.mem_append.1 h with h | h
      · exact ih (n / b) (Nat.div_lt_self (by omega) hb) h
      · rw [List.mem_singleton.1 h]
        have hmod : n % b < b := Nat.mod_lt _ (by omega)
        exact hdigit _ (by omega)

/-! ## Lower case -/

theorem isUpper_iff {c : Char} : isUpper c = true ↔ 65 ≤ c.toNat ∧ c.toNat ≤ 90 := by
  simp only [isUpper, Bool.and_eq_true, decide_eq_true_eq]
  rfl

theorem toNat_toLower {c : Char} (h : isUpper c = true) : (toLower c).toNat = c.toNat + 32 := by
  have hrange := isUpper_iff.1 h
  have hvalid : (c.toNat + 32).isValidChar := .inl (by omega)
  unfold toLower
  rw [if_pos h]
  unfold Char.ofNat
  rw [dif_pos hvalid]
  rfl

theorem toLower_of_not_upper {c : Char} (h : isUpper c = false) : toLower c = c := by
  unfold toLower
  rw [h, if_neg Bool.false_ne_true]

/-- A character is lower case of another if it is the same or its capital. -/
theorem toLower_eq_iff {c d : Char} (h : isUpper c = false) :
    toLower d = c ↔ d = c ∨ d = c.toUpper := by
  have hcapital : ∀ n < 26, (toLower (Char.ofNat (65 + n))).toUpper = Char.ofNat (65 + n) := by
    decide
  have hsmall : ∀ n < 26, toLower (Char.ofNat (97 + n)).toUpper = Char.ofNat (97 + n) := by
    decide
  constructor
  · rintro rfl
    cases hupper : isUpper d with
    | false => exact .inl (toLower_of_not_upper hupper).symm
    | true =>
      obtain ⟨hlow, hhigh⟩ := isUpper_iff.1 hupper
      have hd : Char.ofNat (65 + (d.toNat - 65)) = d := by
        rw [Nat.add_sub_cancel' hlow, Char.ofNat_toNat]
      have hback := hcapital (d.toNat - 65) (by omega)
      rw [hd] at hback
      exact .inr hback.symm
  · rintro (rfl | rfl)
    · exact toLower_of_not_upper h
    · by_cases hletter : 97 ≤ c.toNat ∧ c.toNat ≤ 122
      · obtain ⟨hlow, hhigh⟩ := hletter
        have hc : Char.ofNat (97 + (c.toNat - 97)) = c := by
          rw [Nat.add_sub_cancel' hlow, Char.ofNat_toNat]
        have hback := hsmall (c.toNat - 97) (by omega)
        rwa [hc] at hback
      · have hsame : c.toUpper = c := by
          unfold Char.toUpper
          exact dif_neg fun hrange => hletter hrange
        rw [hsame]
        exact toLower_of_not_upper h

theorem toLower_toLower (c : Char) : toLower (toLower c) = toLower c := by
  cases h : isUpper c with
  | false => rw [toLower_of_not_upper h, toLower_of_not_upper h]
  | true =>
    have hnat := toNat_toLower h
    have hrange := isUpper_iff.1 h
    refine toLower_of_not_upper ?_
    rw [Bool.eq_false_iff]
    intro hupper
    have hrange' := isUpper_iff.1 hupper
    omega

theorem isLetter_toLower (c : Char) : isLetter (toLower c) = isLetter c := by
  cases h : isUpper c with
  | false => rw [toLower_of_not_upper h]
  | true =>
    have hnat := toNat_toLower h
    have hrange := isUpper_iff.1 h
    rw [isLetter_iff.2 (.inr (by omega)), isLetter_iff.2 (.inl hrange)]

end OpenIdProvider.Ascii
