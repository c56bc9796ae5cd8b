/-
  Strings and integers of JSON read back. The text of a string is read up to its closing quote,
  every escape as the character it was written for; the digits of an integer are read up to what
  follows them, as long as the integer fits into 64 bits.
-/
import OpenIdProvider.Json.Reader
import OpenIdProvider.Proofs.Text.Ascii
import OpenIdProvider.Proofs.Text.Utf8

namespace OpenIdProvider.Json

open Utf8 (encodeChars encodeChars_append encodeChars_cons_of_ascii utf8EncodeChar_of_ascii
  le_byte_of_not_ascii toNat_toUInt8)

namespace Reader

/-! ## Strings -/

/-- A byte that stands for itself in a string. -/
def IsPlain (b : UInt8) : Prop := b ≠ 0x22 ∧ b ≠ 0x5C ∧ ¬ b < 0x20

theorem stringBytes_plain {bytes : List UInt8} (h : ∀ b ∈ bytes, IsPlain b) (acc rest : List UInt8)
    {fuel : Nat} (hfuel : (bytes ++ rest).length ≤ fuel) :
    ∃ fuel', rest.length ≤ fuel' ∧
      stringBytes fuel acc (bytes ++ rest) = stringBytes fuel' (bytes.reverse ++ acc) rest := by
  induction bytes generalizing acc fuel with
  | nil => exact ⟨fuel, hfuel, rfl⟩
  | cons b bytes ih =>
    obtain ⟨hquote, hescape, hcontrol⟩ := h b List.mem_cons_self
    cases fuel with
    | zero => exact absurd hfuel (by simp)
    | succ fuel =>
      simp only [List.cons_append, List.length_cons, Nat.add_le_add_iff_right] at hfuel
      obtain ⟨fuel', hfuel', heq⟩ :=
        ih (fun b' hb' => h b' (List.mem_cons_of_mem _ hb')) (b :: acc) hfuel
      refine ⟨fuel', hfuel', ?_⟩
      rw [List.cons_append, stringBytes, if_neg hquote, if_neg hescape, if_neg hcontrol, heq,
        List.reverse_cons, List.append_assoc]
      rfl

/-- An escape that is read as some bytes. -/
theorem stringBytes_escape {bytes read rest : List UInt8} (acc : List UInt8)
    (h : escape (bytes ++ rest) = .ok (read, rest)) {fuel : Nat}
    (hfuel : (0x5C :: bytes ++ rest).length ≤ fuel) :
    ∃ fuel', rest.length ≤ fuel' ∧
      stringBytes fuel acc (0x5C :: bytes ++ rest) =
        stringBytes fuel' (read.reverse ++ acc) rest := by
  cases fuel with
  | zero => exact absurd hfuel (by simp)
  | succ fuel =>
    simp only [List.cons_append, List.length_cons, List.length_append,
      Nat.add_le_add_iff_right] at hfuel
    refine ⟨fuel, by omega, ?_⟩
    rw [List.cons_append, stringBytes, if_neg (by decide), if_pos rfl, h]
    rfl

theorem hexByte?_lowerHexDigit {n : Nat} (h : n < 16) :
    Ascii.hexByte? (Ascii.lowerHexDigit n).toNat.toUInt8 = some n := by
  have hall : ∀ m < 16, Ascii.hexByte? (Ascii.lowerHexDigit m).toNat.toUInt8 = some m := by decide
  exact hall n h

theorem encodeChars_lowerHexPadded {n : Nat} (h : n < 0x20) :
    encodeChars (Ascii.lowerHexPadded 4 n) =
      [(Ascii.lowerHexDigit 0).toNat.toUInt8, (Ascii.lowerHexDigit 0).toNat.toUInt8,
        (Ascii.lowerHexDigit (n / 16)).toNat.toUInt8,
        (Ascii.lowerHexDigit (n % 16)).toNat.toUInt8] := by
  have hall : ∀ m < 0x20, encodeChars (Ascii.lowerHexPadded 4 m) =
      [(Ascii.lowerHexDigit 0).toNat.toUInt8, (Ascii.lowerHexDigit 0).toNat.toUInt8,
        (Ascii.lowerHexDigit (m / 16)).toNat.toUInt8,
        (Ascii.lowerHexDigit (m % 16)).toNat.toUInt8] := by decide
  exact hall n h

/-- A character of a string is written with a short escape, with a number, or as itself. -/
theorem escapeChar_cases (c : Char) :
    (∃ e b, encodeChars (escapeChar c) = [0x5C, e] ∧ shortEscape? e = some b ∧
        String.utf8EncodeChar c = [b]) ∨
      (c.toNat < 0x20 ∧ encodeChars (escapeChar c) =
        0x5C :: 0x75 :: encodeChars (Ascii.lowerHexPadded 4 c.toNat)) ∨
      (encodeChars (escapeChar c) = String.utf8EncodeChar c ∧
        ∀ b ∈ String.utf8EncodeChar c, IsPlain b) := by
  by_cases hquote : c = '"'
  · exact .inl ⟨0x22, 0x22, by rw [hquote]; exact ⟨rfl, rfl, rfl⟩⟩
  by_cases hback : c = '\\'
  · exact .inl ⟨0x5C, 0x5C, by rw [hback]; exact ⟨rfl, rfl, rfl⟩⟩
  by_cases hb : c = '\x08'
  · exact .inl ⟨0x62, 0x08, by rw [hb]; exact ⟨rfl, rfl, rfl⟩⟩
  by_cases ht : c = '\t'
  · exact .inl ⟨0x74, 0x09, by rw [ht]; exact ⟨rfl, rfl, rfl⟩⟩
  by_cases hn : c = '\n'
  · exact .inl ⟨0x6E, 0x0A, by rw [hn]; exact ⟨rfl, rfl, rfl⟩⟩
  by_cases hf : c = '\x0c'
  · exact .inl ⟨0x66, 0x0C, by rw [hf]; exact ⟨rfl, rfl, rfl⟩⟩
  by_cases hr : c = '\r'
  · exact .inl ⟨0x72, 0x0D, by rw [hr]; exact ⟨rfl, rfl, rfl⟩⟩
  have hescape : escapeChar c =
      if c.toNat < 0x20 then ['\\', 'u'] ++ Ascii.lowerHexPadded 4 c.toNat else [c] := by
    rw [escapeChar, if_neg hquote, if_neg hback, if_neg hb, if_neg ht, if_neg hn, if_neg hf,
      if_neg hr]
  by_cases hcontrol : c.toNat < 0x20
  · refine .inr (.inl ⟨hcontrol, ?_⟩)
    rw [hescape, if_pos hcontrol]
    rfl
  · refine .inr (.inr ⟨?_, fun b hbyte => ?_⟩)
    · rw [hescape, if_neg hcontrol]
      exact List.flatMap_singleton _ _
    by_cases hascii : c.toNat ≤ 0x7F
    · rw [utf8EncodeChar_of_ascii hascii, List.mem_singleton] at hbyte
      have hnat : b.toNat = c.toNat := by rw [hbyte, toNat_toUInt8 hascii]
      have hne (d : Char) (hd : c ≠ d) : b.toNat ≠ d.toNat := by
        rw [hnat]
        exact fun h => hd (Char.toNat_inj.1 h)
      refine ⟨fun h => hne '"' hquote (by rw [h]; rfl),
        fun h => hne '\\' hback (by rw [h]; rfl), ?_⟩
      rw [UInt8.lt_iff_toNat_lt, hnat]
      exact hcontrol
    · have hle := le_byte_of_not_ascii (by omega) hbyte
      refine ⟨?_, ?_, ?_⟩
      · rintro rfl
        exact absurd hle (by decide)
      · rintro rfl
        exact absurd hle (by decide)
      · rw [UInt8.lt_iff_toNat_lt]
        show ¬ b.toNat < 32
        omega

/-- A control character without a short escape is read from its four hexadecimal digits. -/
theorem escape_control {c : Char} (h : c.toNat < 0x20) (rest : List UInt8) :
    escape (0x75 :: encodeChars (Ascii.lowerHexPadded 4 c.toNat) ++ rest) =
      .ok (String.utf8EncodeChar c, rest) := by
  have hchar : Char.ofNat (((0 * 16 + 0) * 16 + c.toNat / 16) * 16 + c.toNat % 16) = c := by
    rw [show ((0 * 16 + 0) * 16 + c.toNat / 16) * 16 + c.toNat % 16 = c.toNat by omega]
    exact Char.ofNat_toNat c
  have hleading : isLeading (((0 * 16 + 0) * 16 + c.toNat / 16) * 16 + c.toNat % 16) = false := by
    simp only [isLeading, Bool.and_eq_false_iff, decide_eq_false_iff_not]
    omega
  have htrailing : isTrailing (((0 * 16 + 0) * 16 + c.toNat / 16) * 16 + c.toNat % 16) = false := by
    simp only [isTrailing, Bool.and_eq_false_iff, decide_eq_false_iff_not]
    omega
  have hhex : hex4 (encodeChars (Ascii.lowerHexPadded 4 c.toNat) ++ rest) =
      .ok (((0 * 16 + 0) * 16 + c.toNat / 16) * 16 + c.toNat % 16, rest) := by
    rw [encodeChars_lowerHexPadded h]
    simp only [List.cons_append, List.nil_append, hex4, hexByte?_lowerHexDigit (n := 0) (by decide),
      hexByte?_lowerHexDigit (n := c.toNat / 16) (by omega),
      hexByte?_lowerHexDigit (n := c.toNat % 16) (by omega)]
  have hunicode : unicodeEscape (encodeChars (Ascii.lowerHexPadded 4 c.toNat) ++ rest) =
      .ok (c, rest) := by
    rw [unicodeEscape, hhex]
    simp only [Except.bind, htrailing, hleading, hchar, Bool.false_eq_true, if_false]
  rw [List.cons_append, escape]
  simp only [hunicode]
  rfl

/-- One character of a string is read as its bytes. -/
theorem stringBytes_escapeChar (c : Char) (acc rest : List UInt8) {fuel : Nat}
    (hfuel : (encodeChars (escapeChar c) ++ rest).length ≤ fuel) :
    ∃ fuel', rest.length ≤ fuel' ∧
      stringBytes fuel acc (encodeChars (escapeChar c) ++ rest) =
        stringBytes fuel' ((String.utf8EncodeChar c).reverse ++ acc) rest := by
  rcases escapeChar_cases c with ⟨e, b, hbytes, hshort, hc⟩ | ⟨hcontrol, hbytes⟩ | ⟨hbytes, hplain⟩
  · have hread : escape ([e] ++ rest) = .ok (String.utf8EncodeChar c, rest) := by
      rw [List.singleton_append, escape, hshort, hc]
    rw [hbytes] at hfuel ⊢
    exact stringBytes_escape acc hread hfuel
  · rw [hbytes] at hfuel ⊢
    exact stringBytes_escape acc (escape_control hcontrol rest) hfuel
  · rw [hbytes] at hfuel ⊢
    exact stringBytes_plain hplain acc rest hfuel

theorem stringBytes_chars (cs : List Char) (acc rest : List UInt8) {fuel : Nat}
    (hfuel : (encodeChars (cs.flatMap escapeChar) ++ 0x22 :: rest).length ≤ fuel) :
    stringBytes fuel acc (encodeChars (cs.flatMap escapeChar) ++ 0x22 :: rest) =
      .ok (acc.reverse ++ encodeChars cs, rest) := by
  induction cs generalizing acc fuel with
  | nil =>
    cases fuel with
    | zero => exact absurd hfuel (by simp)
    | succ fuel =>
      show stringBytes (fuel + 1) acc (0x22 :: rest) = .ok (acc.reverse ++ [], rest)
      rw [stringBytes, if_pos rfl, List.append_nil]
  | cons c cs ih =>
    rw [List.flatMap_cons, encodeChars_append, List.append_assoc] at hfuel ⊢
    obtain ⟨fuel', hfuel', heq⟩ := stringBytes_escapeChar c acc _ hfuel
    rw [heq, ih _ hfuel', List.reverse_append, List.reverse_reverse, List.append_assoc]
    rfl

/-- A string is read up to its closing quote. -/
theorem string_chars (s : String) (rest : List UInt8) :
    string (encodeChars (s.toList.flatMap escapeChar) ++ 0x22 :: rest) = .ok (s, rest) := by
  have hdecode : Utf8.decode? ([].reverse ++ encodeChars s.toList) = some s := Utf8.decode?_encode s
  unfold string
  rw [stringBytes_chars s.toList [] rest (Nat.le_refl _)]
  simp only [Except.bind, hdecode]

theorem encodeChars_stringChars (s : String) :
    encodeChars (stringChars s) =
      0x22 :: (encodeChars (s.toList.flatMap escapeChar) ++ [0x22]) := by
  unfold stringChars
  rw [List.cons_append, encodeChars_cons_of_ascii (by decide), encodeChars_append]
  rfl

/-! ## Integers -/

/-- What may follow an integer: no digit, no decimal point and no exponent. -/
def EndsNumber (rest : List UInt8) : Prop :=
  ∀ b ∈ rest.head?, isDigit b = false ∧ b ≠ 0x2E ∧ isExponentMark b = false

/-- The byte of a digit. -/
def digitByte (d : Nat) : UInt8 := d.digitChar.toNat.toUInt8

theorem isDigit_digitByte {d : Nat} (h : d < 10) : isDigit (digitByte d) = true := by
  have hall : ∀ m < 10, isDigit (digitByte m) = true := by decide
  exact hall d h

theorem digitValue_digitByte {d : Nat} (h : d < 10) : digitValue (digitByte d) = d := by
  have hall : ∀ m < 10, digitValue (digitByte m) = m := by decide
  exact hall d h

theorem encodeChars_digits_of_lt {n : Nat} (h : n < 10) :
    encodeChars (Ascii.digits 10 n) = [digitByte n] := by
  have hascii : n.digitChar.toNat ≤ 0x7F := by
    have hall : ∀ m < 10, m.digitChar.toNat ≤ 0x7F := by decide
    exact hall n h
  unfold Ascii.digits
  rw [Nat.toDigits_of_lt_base h, encodeChars_cons_of_ascii hascii]
  rfl

theorem encodeChars_digits_of_le {n : Nat} (h : 10 ≤ n) :
    encodeChars (Ascii.digits 10 n) =
      encodeChars (Ascii.digits 10 (n / 10)) ++ [digitByte (n % 10)] := by
  have hlast := encodeChars_digits_of_lt (n := n % 10) (by omega)
  unfold Ascii.digits at hlast ⊢
  rw [Nat.toDigits_of_lt_base (by omega)] at hlast
  rw [Nat.toDigits_eq_if (by decide), if_neg (by omega), encodeChars_append, hlast]

/-- The digits of an integer are collected one after the other. -/
theorem integerDigits_digits (positive : Bool) {n : Nat} (h : n ≤ maxUInt64)
    (rest : List UInt8) :
    integerDigits positive 0 (encodeChars (Ascii.digits 10 n) ++ rest) =
      integerDigits positive n rest := by
  induction n using Nat.strongRecOn generalizing rest with
  | ind n ih =>
    by_cases hn : n < 10
    · rw [encodeChars_digits_of_lt hn, List.singleton_append, integerDigits,
        if_pos (isDigit_digitByte hn)]
      simp only [digitValue_digitByte hn]
      rw [if_neg (by unfold maxUInt64; omega)]
      simp
    · have hvalue : 10 * (n / 10) + n % 10 = n := by omega
      rw [encodeChars_digits_of_le (by omega), List.append_assoc, List.singleton_append,
        ih (n / 10) (by omega) (by omega), integerDigits,
        if_pos (isDigit_digitByte (by omega))]
      simp only [digitValue_digitByte (d := n % 10) (by omega), hvalue]
      rw [if_neg (by omega)]

theorem afterInteger_ends (positive : Bool) (n : Nat) {rest : List UInt8} (h : EndsNumber rest) :
    afterInteger positive n rest = .ok (integerValue positive n, rest) := by
  cases rest with
  | nil => rfl
  | cons b rest =>
    obtain ⟨-, hpoint, hmark⟩ := h b rfl
    rw [afterInteger, if_neg hpoint, if_neg (by simp [hmark])]

theorem integerDigits_ends (positive : Bool) (n : Nat) {rest : List UInt8} (h : EndsNumber rest) :
    integerDigits positive n rest = .ok (integerValue positive n, rest) := by
  cases rest with
  | nil => rfl
  | cons b rest =>
    rw [integerDigits, if_neg (by simp [(h b rfl).1])]
    exact afterInteger_ends positive n h

/-- The first digit of an integer is zero only if it is the only one. -/
theorem encodeChars_digits_cons {n : Nat} (h : 0 < n) :
    ∃ d more, 0 < d ∧ d < 10 ∧ encodeChars (Ascii.digits 10 n) = digitByte d :: more := by
  induction n using Nat.strongRecOn with
  | ind n ih =>
    by_cases hn : n < 10
    · exact ⟨n, [], h, hn, encodeChars_digits_of_lt hn⟩
    · obtain ⟨d, more, hpos, hd, heq⟩ := ih (n / 10) (by omega) (by omega)
      refine ⟨d, more ++ [digitByte (n % 10)], hpos, hd, ?_⟩
      rw [encodeChars_digits_of_le (by omega), heq]
      rfl

/-- The digits of an integer are read up to what follows them. -/
theorem number_digits (positive : Bool) {n : Nat} (h : n ≤ maxUInt64) {rest : List UInt8}
    (hrest : EndsNumber rest) :
    number positive (encodeChars (Ascii.digits 10 n) ++ rest) =
      .ok (integerValue positive n, rest) := by
  by_cases hn : n = 0
  · subst hn
    rw [encodeChars_digits_of_lt (by decide), List.singleton_append]
    show number positive (0x30 :: rest) = _
    cases rest with
    | nil => rfl
    | cons b rest =>
      simp only [number, if_true, (hrest b rfl).1, Bool.false_eq_true, if_false]
      exact afterInteger_ends positive 0 hrest
  · have hread := integerDigits_digits positive h rest
    obtain ⟨d, more, hpos, hd, heq⟩ := encodeChars_digits_cons (Nat.pos_of_ne_zero hn)
    have hne : digitByte d ≠ 0x30 := by
      have hall : ∀ m < 10, 0 < m → digitByte m ≠ 0x30 := by decide
      exact hall d hd hpos
    rw [heq, List.cons_append] at hread ⊢
    rw [integerDigits, if_pos (isDigit_digitByte hd)] at hread
    simp only [digitValue_digitByte hd] at hread
    rw [if_neg (by unfold maxUInt64; omega)] at hread
    simp only [number, if_neg hne, isDigit_digitByte hd, if_true, digitValue_digitByte hd]
    rw [Nat.mul_zero, Nat.zero_add] at hread
    rw [hread]
    exact integerDigits_ends positive n hrest

end Reader

end OpenIdProvider.Json
