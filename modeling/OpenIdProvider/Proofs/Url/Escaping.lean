/-
  Escaped texts. `escape special` keeps visible ASCII and the space, but for the special
  characters, and what it writes for any other character consists of characters that it keeps. So
  an escaped text is plain, and escaping a plain text again changes nothing.
-/
import Mathlib.Data.Bool.AllAny
import OpenIdProvider.Proofs.Text.Utf8
import OpenIdProvider.Url.Basic

namespace OpenIdProvider.Url

open Utf8 (toNat_toUInt8 ofNat_toUInt8 utf8EncodeChar_of_ascii le_byte_of_not_ascii)

/-- The characters that stand for themselves: visible ASCII and the space, but for the special
ones. -/
def isKept (special : String) (c : Char) : Bool :=
  0x20 ≤ c.toNat && c.toNat ≤ 0x7E && !special.toList.contains c

/-- A text without characters that would be escaped. -/
def Plain (special : String) (cs : List Char) : Prop := ∀ c ∈ cs, isKept special c = true

/-- The special characters are none of those that escapes are written with. -/
def SparesEscapes (special : String) : Prop :=
  ∀ c ∈ "%0123456789ABCDEF".toList, c ∉ special.toList

theorem sparesEscapes_none : SparesEscapes "" :=
  List.all_iff_forall_prop.1 (by decide)

theorem sparesEscapes_fragment : SparesEscapes fragmentSet :=
  List.all_iff_forall_prop.1 (by decide)

theorem sparesEscapes_path : SparesEscapes pathSet :=
  List.all_iff_forall_prop.1 (by decide)

theorem sparesEscapes_userinfo : SparesEscapes userinfoSet :=
  List.all_iff_forall_prop.1 (by decide)

/-! ## Plain characters -/

theorem isKept_eq_true_iff {special : String} {c : Char} :
    isKept special c = true ↔ 0x20 ≤ c.toNat ∧ c.toNat ≤ 0x7E ∧ c ∉ special.toList := by
  simp [isKept, and_assoc]

theorem toNat_ofNat_of_le {n : Nat} (h : n ≤ 0x7E) : (Char.ofNat n).toNat = n := by
  have hvalid : n.isValidChar := .inl (by omega)
  unfold Char.ofNat
  rw [dif_pos hvalid]
  rfl

theorem isPrintable_iff {b : UInt8} : isPrintable b = true ↔ 0x20 ≤ b.toNat ∧ b.toNat ≤ 0x7E := by
  simp [isPrintable, UInt8.le_iff_toNat_le]

theorem escape_of_isKept {special : String} {c : Char} (h : isKept special c = true) :
    escape special c = [c] := by
  obtain ⟨hlow, hhigh, hspecial⟩ := isKept_eq_true_iff.1 h
  have hascii : c.toNat ≤ 0x7F := by omega
  have hprintable : isPrintable c.toNat.toUInt8 = true := by
    rw [isPrintable_iff, toNat_toUInt8 hascii]
    exact ⟨hlow, hhigh⟩
  unfold escape Percent.encode
  have hkeep : (isPrintable c.toNat.toUInt8 &&
      !special.toList.contains (Char.ofNat c.toNat.toUInt8.toNat)) = true := by
    rw [hprintable, ofNat_toUInt8 hascii]
    simpa using hspecial
  rw [utf8EncodeChar_of_ascii hascii, List.flatMap_singleton, if_pos hkeep, ofNat_toUInt8 hascii]

/-- Escaping a plain text changes nothing. -/
theorem escapeAll_of_plain {special : String} {cs : List Char} (h : Plain special cs) :
    escapeAll special cs = cs := by
  induction cs with
  | nil => rfl
  | cons c cs ih =>
    have hc := escape_of_isKept (h c List.mem_cons_self)
    have hcs := ih fun d hd => h d (List.mem_cons_of_mem _ hd)
    unfold escapeAll at hcs ⊢
    rw [List.flatMap_cons, hc, hcs]
    rfl

/-! ## Escaped texts are plain -/

theorem upperHexDigit_mem {n : Nat} (h : n < 16) :
    Ascii.upperHexDigit n ∈ "0123456789ABCDEF".toList := by
  have hall : ∀ m < 16, Ascii.upperHexDigit m ∈ "0123456789ABCDEF".toList := by decide
  exact hall n h

/-- Escapes are written with `%` and hexadecimal digits. -/
theorem mem_of_mem_percentEscape {b : UInt8} {c : Char} (h : c ∈ Percent.escape b) :
    c ∈ "%0123456789ABCDEF".toList := by
  have hb : b.toNat < 256 := b.toNat_lt
  have hhigh := upperHexDigit_mem (n := b.toNat / 16) (by omega)
  have hlow := upperHexDigit_mem (n := b.toNat % 16) (by omega)
  unfold Percent.escape Ascii.upperHex at h
  rcases List.mem_cons.1 h with rfl | h
  · exact List.mem_cons_self
  · rcases List.mem_cons.1 h with rfl | h
    · exact List.mem_cons_of_mem _ hhigh
    · rw [List.mem_singleton.1 h]
      exact List.mem_cons_of_mem _ hlow

theorem isKept_of_mem_escapes {special : String} (hsafe : SparesEscapes special) {c : Char}
    (h : c ∈ "%0123456789ABCDEF".toList) : isKept special c = true := by
  have hrange : ∀ d ∈ "%0123456789ABCDEF".toList, 0x20 ≤ d.toNat ∧ d.toNat ≤ 0x7E :=
    List.all_iff_forall_prop.1 (by decide)
  obtain ⟨hlow, hhigh⟩ := hrange c h
  exact isKept_eq_true_iff.2 ⟨hlow, hhigh, hsafe c h⟩

/-- What a character is written with is the character itself or an escape. -/
theorem mem_escape {special : String} {c d : Char} (h : d ∈ escape special c) :
    d = c ∨ d ∈ "%0123456789ABCDEF".toList := by
  unfold escape Percent.encode at h
  obtain ⟨b, hbyte, hb⟩ := List.mem_flatMap.1 h
  split at hb
  · rename_i hkeep
    rw [Bool.and_eq_true, isPrintable_iff] at hkeep
    obtain ⟨⟨-, hhigh⟩, -⟩ := hkeep
    by_cases hascii : c.toNat ≤ 0x7F
    · rw [utf8EncodeChar_of_ascii hascii, List.mem_singleton] at hbyte
      rw [hbyte, ofNat_toUInt8 hascii, List.mem_singleton] at hb
      exact .inl hb
    · have hle := le_byte_of_not_ascii (by omega) hbyte
      omega
  · exact .inr (mem_of_mem_percentEscape hb)

theorem isKept_of_mem_escape {special : String} (hsafe : SparesEscapes special) {c d : Char}
    (h : d ∈ escape special c) : isKept special d = true := by
  unfold escape Percent.encode at h
  obtain ⟨b, -, hb⟩ := List.mem_flatMap.1 h
  split at hb
  · rename_i hkeep
    obtain rfl := List.mem_singleton.1 hb
    rw [Bool.and_eq_true, isPrintable_iff] at hkeep
    obtain ⟨⟨hlow, hhigh⟩, hspecial⟩ := hkeep
    have hval : (Char.ofNat b.toNat).toNat = b.toNat := toNat_ofNat_of_le hhigh
    refine isKept_eq_true_iff.2 ⟨by omega, by omega, ?_⟩
    simpa using hspecial
  · exact isKept_of_mem_escapes hsafe (mem_of_mem_percentEscape hb)

theorem plain_escapeAll {special : String} (hsafe : SparesEscapes special) (cs : List Char) :
    Plain special (escapeAll special cs) := by
  intro d hd
  obtain ⟨c, -, hc⟩ := List.mem_flatMap.1 hd
  exact isKept_of_mem_escape hsafe hc

theorem escape_ne_nil (special : String) (c : Char) : escape special c ≠ [] := by
  unfold escape Percent.encode
  cases hbytes : String.utf8EncodeChar c with
  | nil => exact absurd hbytes String.utf8EncodeChar_ne_nil
  | cons b bytes =>
    rw [List.flatMap_cons]
    split
    · exact List.cons_ne_nil _ _
    · exact List.cons_ne_nil _ _

theorem Plain.append {special : String} {first second : List Char} (h : Plain special first)
    (h' : Plain special second) : Plain special (first ++ second) := by
  intro c hc
  rcases List.mem_append.1 hc with hc | hc
  · exact h c hc
  · exact h' c hc

end OpenIdProvider.Url
