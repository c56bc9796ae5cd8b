/-
  Skipping a value passes over its text. Skipping keeps a stack of open brackets and not a
  recursion, so what is shown of a value is that the reader goes on behind it with the brackets
  that were open before it.
-/
import OpenIdProvider.Json.Skip
import OpenIdProvider.Proofs.Json.Value

namespace OpenIdProvider.Json.Skip

open Reader
open Utf8 (encodeChars encodeChars_append encodeChars_cons_of_ascii)

/-! ## Scalars -/

theorem string_quote (rest : List UInt8) : string (0x22 :: rest) = .ok ((), rest) := rfl

theorem string_plain {bytes : List UInt8} (h : ∀ b ∈ bytes, IsPlain b) (rest : List UInt8) :
    string (bytes ++ rest) = string rest := by
  induction bytes with
  | nil => rfl
  | cons b bytes ih =>
    obtain ⟨hquote, hescape, hcontrol⟩ := h b List.mem_cons_self
    rw [List.cons_append, string, if_neg hcontrol,
      ih fun b' hb' => h b' (List.mem_cons_of_mem _ hb')]
    all_goals simp_all

theorem string_short {e b : UInt8} (h : shortEscape? e = some b) (rest : List UInt8) :
    string (0x5C :: e :: rest) = string rest := by
  have hne : e ≠ 0x75 := by
    rintro rfl
    have hnone : shortEscape? 0x75 = none := by decide
    rw [hnone] at h
    cases h
  rw [string, h]
  all_goals simp_all

theorem string_control {c : Char} (h : c.toNat < 0x20) (rest : List UInt8) :
    string (0x5C :: 0x75 :: (encodeChars (Ascii.lowerHexPadded 4 c.toNat) ++ rest)) =
      string rest := by
  rw [encodeChars_lowerHexPadded h]
  simp only [List.cons_append, List.nil_append, string,
    hexByte?_lowerHexDigit (n := 0) (by decide),
    hexByte?_lowerHexDigit (n := c.toNat / 16) (by omega),
    hexByte?_lowerHexDigit (n := c.toNat % 16) (by omega)]

theorem string_escapeChar (c : Char) (rest : List UInt8) :
    string (encodeChars (escapeChar c) ++ rest) = string rest := by
  rcases escapeChar_cases c with ⟨e, b, hbytes, hshort, -⟩ | ⟨hcontrol, hbytes⟩ | ⟨hbytes, hplain⟩
  · rw [hbytes]
    exact string_short hshort rest
  · rw [hbytes]
    exact string_control hcontrol rest
  · rw [hbytes]
    exact string_plain hplain rest

/-- A string is skipped up to its closing quote. -/
theorem string_chars (cs : List Char) (rest : List UInt8) :
    string (encodeChars (cs.flatMap escapeChar) ++ 0x22 :: rest) = .ok ((), rest) := by
  induction cs with
  | nil => exact string_quote rest
  | cons c cs ih =>
    rw [List.flatMap_cons, encodeChars_append, List.append_assoc, string_escapeChar, ih]

theorem isDigit_of_mem_digits (n : Nat) {b : UInt8} (h : b ∈ encodeChars (Ascii.digits 10 n)) :
    isDigit b = true := by
  induction n using Nat.strongRecOn with
  | ind n ih =>
    by_cases hn : n < 10
    · rw [encodeChars_digits_of_lt hn, List.mem_singleton] at h
      exact h ▸ isDigit_digitByte hn
    · rw [encodeChars_digits_of_le (by omega)] at h
      rcases List.mem_append.1 h with h | h
      · exact ih (n / 10) (by omega) h
      · exact List.mem_singleton.1 h ▸ isDigit_digitByte (by omega)

theorem fractionIf_ends {rest : List UInt8} (h : EndsNumber rest) :
    fractionIf rest = .ok ((), rest) := by
  cases rest with
  | nil => rfl
  | cons b rest =>
    obtain ⟨-, hpoint, hmark⟩ := h b rfl
    unfold fractionIf
    split
    · rename_i heq
      exact absurd (List.cons.inj heq).1 hpoint
    · simp only [exponentIf, hmark, Bool.false_eq_true, if_false]

/-- An integer is skipped up to what follows it. -/
theorem number_digits (n : Nat) {rest : List UInt8} (hrest : EndsNumber rest) :
    number (encodeChars (Ascii.digits 10 n) ++ rest) = .ok ((), rest) := by
  by_cases hn : n = 0
  · subst hn
    rw [encodeChars_digits_of_lt (by decide), List.singleton_append]
    show number (0x30 :: rest) = _
    cases rest with
    | nil => rfl
    | cons b rest =>
      simp only [number, if_true, (hrest b rfl).1, Bool.false_eq_true, if_false]
      exact fractionIf_ends hrest
  · obtain ⟨d, more, hpos, hd, heq⟩ := encodeChars_digits_cons (Nat.pos_of_ne_zero hn)
    have hne : digitByte d ≠ 0x30 := by
      have hall : ∀ m < 10, 0 < m → digitByte m ≠ 0x30 := by decide
      exact hall d hd hpos
    have hmore : ∀ b ∈ more, isDigit b = true := by
      intro b hb
      exact isDigit_of_mem_digits n (heq ▸ List.mem_cons_of_mem _ hb)
    have hdrop : (more ++ rest).dropWhile isDigit = rest := by
      rw [List.dropWhile_append_of_pos hmore]
      cases rest with
      | nil => rfl
      | cons b rest => exact List.dropWhile_cons_of_neg (by simp [(hrest b rfl).1])
    rw [heq, List.cons_append]
    simp only [number, if_neg hne, isDigit_digitByte hd, if_true, hdrop]
    exact fractionIf_ends hrest

theorem scalar_string (s : String) (rest : List UInt8) :
    scalar (encodeChars (stringChars s) ++ rest) = .ok (none, rest) := by
  have hskip := string_chars s.toList rest
  rw [encodeChars_stringChars, List.cons_append, List.append_assoc, List.singleton_append]
  show (string (encodeChars (s.toList.flatMap escapeChar) ++ 0x22 :: rest)).map
    (fun read => ((none : Option Frame), read.2)) = _
  rw [hskip]
  rfl

theorem scalar_digit {d : Nat} (h : d < 10) (rest : List UInt8) :
    scalar (digitByte d :: rest) =
      (number (digitByte d :: rest)).map fun (_, rest) => (none, rest) := by
  have hall : ∀ m < 10, digitByte m ≠ 0x6E ∧ digitByte m ≠ 0x74 ∧ digitByte m ≠ 0x66 ∧
      digitByte m ≠ 0x2D := by decide
  obtain ⟨hn, ht, hf, hminus⟩ := hall d h
  unfold scalar
  simp only [skipSpace_cons (opening_digitByte h).space, if_neg hn, if_neg ht, if_neg hf,
    if_neg hminus, isDigit_digitByte h, if_true]

theorem scalar_int (i : Int) {rest : List UInt8} (hrest : EndsNumber rest) :
    scalar (encodeChars (intChars i) ++ rest) = .ok (none, rest) := by
  have hskip := number_digits i.natAbs hrest
  by_cases hi : i < 0
  · rw [encodeChars_intChars_neg hi, List.cons_append]
    show (number (encodeChars (Ascii.digits 10 i.natAbs) ++ rest)).map
      (fun (_, rest) => ((none : Option Frame), rest)) = _
    rw [hskip]
    rfl
  · obtain ⟨d, more, hd, heq⟩ := exists_digitByte_cons i.natAbs
    rw [heq, List.cons_append] at hskip
    rw [encodeChars_intChars_nonneg hi, heq, List.cons_append, scalar_digit hd, hskip]
    rfl

/-! ## Brackets -/

/-- What is done behind a value, or behind an opening bracket when none precedes. -/
def resume (fuel : Nat) (filled : Bool) (frames : List Frame) (bs : List UInt8) : Reading Unit :=
  (closing (bs.length + 1) filled frames bs).bind fun (left, rest) =>
  match left with
  | [] => .ok ((), rest)
  | .array :: _ => values fuel left rest
  | .object :: _ => (name rest).bind fun (_, rest) => values fuel left rest

theorem values_of_scalar {bs rest : List UInt8} (h : scalar bs = .ok (none, rest)) (fuel : Nat)
    (frames : List Frame) : values (fuel + 1) frames bs = resume fuel true frames rest := by
  rw [values, h]
  rfl

theorem values_bracket (fuel : Nat) (frames : List Frame) (rest : List UInt8) :
    values (fuel + 1) frames (0x5B :: rest) = resume fuel false (.array :: frames) rest := rfl

theorem values_brace (fuel : Nat) (frames : List Frame) (rest : List UInt8) :
    values (fuel + 1) frames (0x7B :: rest) = resume fuel false (.object :: frames) rest := rfl

theorem resume_nil (fuel : Nat) (bs : List UInt8) : resume fuel true [] bs = .ok ((), bs) := rfl

/-- A closing bracket ends a value of the brackets around it. -/
theorem resume_bracket (fuel : Nat) (filled : Bool) (frames : List Frame) (rest : List UInt8) :
    resume fuel filled (.array :: frames) (0x5D :: rest) = resume fuel true frames rest := by
  cases filled <;> rfl

theorem resume_brace (fuel : Nat) (filled : Bool) (frames : List Frame) (rest : List UInt8) :
    resume fuel filled (.object :: frames) (0x7D :: rest) = resume fuel true frames rest := by
  cases filled <;> rfl

theorem resume_comma_array (fuel : Nat) (frames : List Frame) (rest : List UInt8) :
    resume fuel true (.array :: frames) (0x2C :: rest) =
      values fuel (.array :: frames) rest := rfl

theorem resume_comma_object (fuel : Nat) (frames : List Frame) (rest : List UInt8) :
    resume fuel true (.object :: frames) (0x2C :: rest) =
      (name rest).bind fun (_, rest) => values fuel (.object :: frames) rest := rfl

theorem resume_opening (fuel : Nat) (frames : List Frame) {b : UInt8} (h : Opening b)
    (rest : List UInt8) :
    resume fuel false (.array :: frames) (b :: rest) =
      values fuel (.array :: frames) (b :: rest) := by
  unfold resume closing
  simp only [skipSpace_cons h.space, Bool.false_eq_true, and_false, if_false, h.bracket, h.brace,
    false_and, or_false]
  rfl

theorem resume_quote (fuel : Nat) (frames : List Frame) (rest : List UInt8) :
    resume fuel false (.object :: frames) (0x22 :: rest) =
      (name (0x22 :: rest)).bind fun (_, rest) => values fuel (.object :: frames) rest := rfl

theorem name_chars (s : String) (rest : List UInt8) :
    name (encodeChars (stringChars s) ++ 0x3A :: rest) = .ok ((), rest) := by
  have hskip := string_chars s.toList (0x3A :: rest)
  rw [encodeChars_stringChars, List.cons_append, List.append_assoc, List.singleton_append]
  show (string (encodeChars (s.toList.flatMap escapeChar) ++ 0x22 :: 0x3A :: rest)).bind
    (fun (_, rest) => colon rest) = _
  rw [hskip]
  rfl

/-! ## Values -/

/-- The text of a value is passed over, with enough fuel left for what follows it. -/
def Passes (v : Json) : Prop :=
  (∃ b more, encodeChars v.chars = b :: more ∧ Opening b) ∧
    ∀ rest, EndsNumber rest → ∀ frames fuel, (encodeChars v.chars ++ rest).length ≤ fuel →
      ∃ fuel', rest.length ≤ fuel' ∧
        values fuel frames (encodeChars v.chars ++ rest) = resume fuel' true frames rest

theorem passes_of_scalar {levels : Nat} {v : Json} (h : Readable levels v)
    (hscalar : ∀ rest, EndsNumber rest → scalar (encodeChars v.chars ++ rest) = .ok (none, rest)) :
    Passes v := by
  have hopening := exists_opening h.fits_and_arranged.1
  refine ⟨hopening, fun rest hrest frames fuel hfuel => ?_⟩
  obtain ⟨b, more, hopen, -⟩ := hopening
  rw [hopen] at hfuel
  simp only [List.cons_append, List.length_cons, List.length_append] at hfuel
  obtain ⟨fuel', rfl⟩ := Nat.exists_eq_add_of_le' (Nat.le_of_add_left_le hfuel)
  exact ⟨fuel', by omega, values_of_scalar (hscalar rest hrest) fuel' frames⟩

theorem resume_itemsTail {xs : List Json} (h : ∀ x ∈ xs, Passes x) (rest : List UInt8)
    (frames : List Frame) {fuel : Nat}
    (hfuel : (encodeChars (itemsTail xs) ++ rest).length ≤ fuel) :
    ∃ fuel', rest.length ≤ fuel' ∧
      resume fuel true (.array :: frames) (encodeChars (itemsTail xs) ++ rest) =
        resume fuel' true frames rest := by
  induction xs generalizing fuel with
  | nil =>
    refine ⟨fuel, ?_, resume_bracket fuel true frames rest⟩
    rw [List.length_append] at hfuel
    omega
  | cons x xs ih =>
    have hbytes : encodeChars (itemsTail (x :: xs)) ++ rest =
        0x2C :: (encodeChars x.chars ++ (encodeChars (itemsTail xs) ++ rest)) := by
      show encodeChars (',' :: itemsChars (x :: xs)) ++ rest = _
      rw [encodeChars_cons_of_ascii (by decide), itemsChars_cons, encodeChars_append,
        List.cons_append, List.append_assoc]
      rfl
    rw [hbytes] at hfuel ⊢
    rw [resume_comma_array]
    obtain ⟨fuel', hfuel', heq⟩ := (h x List.mem_cons_self).2 _ (endsNumber_itemsTail xs rest)
      (.array :: frames) fuel (Nat.le_of_succ_le hfuel)
    rw [heq]
    exact ih (fun y hy => h y (List.mem_cons_of_mem _ hy)) hfuel'

theorem passes_array {xs : List Json} (h : ∀ x ∈ xs, Passes x) : Passes (.array xs) := by
  have hbytes (rest : List UInt8) : encodeChars (Json.array xs).chars ++ rest =
      0x5B :: (encodeChars (itemsChars xs) ++ rest) := by
    show encodeChars ('[' :: itemsChars xs) ++ rest = _
    rw [encodeChars_cons_of_ascii (by decide)]
    rfl
  refine ⟨⟨_, _, encodeChars_cons_of_ascii (by decide) _, by constructor <;> decide⟩, ?_⟩
  intro rest hrest frames fuel hfuel
  rw [hbytes] at hfuel ⊢
  obtain ⟨fuel, rfl⟩ := Nat.exists_eq_add_of_le' (Nat.le_of_add_left_le hfuel)
  rw [values_bracket]
  rw [List.length_cons] at hfuel
  cases xs with
  | nil =>
    refine ⟨fuel, ?_, resume_bracket fuel false frames rest⟩
    rw [List.length_append] at hfuel
    omega
  | cons x xs =>
    obtain ⟨⟨b, more, hopen, hopening⟩, hpass⟩ := h x List.mem_cons_self
    rw [itemsChars_cons, encodeChars_append, List.append_assoc] at hfuel ⊢
    obtain ⟨fuel', hfuel', heq⟩ := hpass _ (endsNumber_itemsTail xs rest) (.array :: frames) fuel
      (Nat.le_of_succ_le_succ hfuel)
    rw [hopen, List.cons_append, resume_opening _ _ hopening, ← List.cons_append, ← hopen, heq]
    exact resume_itemsTail (fun y hy => h y (List.mem_cons_of_mem _ hy)) rest frames hfuel'

theorem resume_membersTail {ms : List (String × Json)} (h : ∀ m ∈ ms, Passes m.2)
    (rest : List UInt8) (frames : List Frame) {fuel : Nat}
    (hfuel : (encodeChars (membersTail ms) ++ rest).length ≤ fuel) :
    ∃ fuel', rest.length ≤ fuel' ∧
      resume fuel true (.object :: frames) (encodeChars (membersTail ms) ++ rest) =
        resume fuel' true frames rest := by
  induction ms generalizing fuel with
  | nil =>
    refine ⟨fuel, ?_, resume_brace fuel true frames rest⟩
    rw [List.length_append] at hfuel
    omega
  | cons m ms ih =>
    obtain ⟨s, v⟩ := m
    rw [encodeChars_membersTail_cons] at hfuel ⊢
    rw [resume_comma_object, name_chars]
    simp only [List.length_cons, List.length_append] at hfuel
    obtain ⟨fuel', hfuel', heq⟩ := (h (s, v) List.mem_cons_self).2 _
      (endsNumber_membersTail ms rest) (.object :: frames) fuel
      (by simp only [List.length_append]; omega)
    show ∃ fuel', _ ∧ values fuel _ _ = _
    rw [heq]
    exact ih (fun n hn => h n (List.mem_cons_of_mem _ hn)) hfuel'

theorem passes_object {ms : List (String × Json)} (h : ∀ m ∈ ms, Passes m.2) :
    Passes (.object ms) := by
  have hbytes (rest : List UInt8) : encodeChars (Json.object ms).chars ++ rest =
      0x7B :: (encodeChars (membersChars ms) ++ rest) := by
    show encodeChars ('\x7b' :: membersChars ms) ++ rest = _
    rw [encodeChars_cons_of_ascii (by decide)]
    rfl
  refine ⟨⟨_, _, encodeChars_cons_of_ascii (by decide) _, by constructor <;> decide⟩, ?_⟩
  intro rest hrest frames fuel hfuel
  rw [hbytes] at hfuel ⊢
  obtain ⟨fuel, rfl⟩ := Nat.exists_eq_add_of_le' (Nat.le_of_add_left_le hfuel)
  rw [values_brace]
  rw [List.length_cons] at hfuel
  cases ms with
  | nil =>
    refine ⟨fuel, ?_, resume_brace fuel false frames rest⟩
    rw [List.length_append] at hfuel
    omega
  | cons m ms =>
    obtain ⟨s, v⟩ := m
    obtain ⟨-, hpass⟩ := h (s, v) List.mem_cons_self
    have hname := name_chars s (encodeChars v.chars ++ (encodeChars (membersTail ms) ++ rest))
    rw [encodeChars_membersChars_cons] at hfuel ⊢
    simp only [List.length_cons, List.length_append] at hfuel
    rw [encodeChars_stringChars, List.cons_append] at hname ⊢
    rw [resume_quote, hname]
    obtain ⟨fuel', hfuel', heq⟩ := hpass _ (endsNumber_membersTail ms rest) (.object :: frames) fuel
      (by simp only [List.length_append]; omega)
    show ∃ fuel', _ ∧ values fuel _ _ = _
    rw [heq]
    exact resume_membersTail (fun n hn => h n (List.mem_cons_of_mem _ hn)) rest frames hfuel'

theorem passes_of_readable : ∀ {levels : Nat} {v : Json}, Readable levels v → Passes v
  | _, .null, h => passes_of_scalar h fun _ _ => rfl
  | _, .bool true, h => passes_of_scalar h fun _ _ => rfl
  | _, .bool false, h => passes_of_scalar h fun _ _ => rfl
  | _, .string s, h => passes_of_scalar h fun rest _ => scalar_string s rest
  | _, .number (.int i), h => passes_of_scalar h fun _ hrest => scalar_int i hrest
  | levels, .number (.float _), h => absurd h (not_readable_float levels _)
  | 0, .array _, h => absurd h id
  | _ + 1, .array _, h => passes_array fun x hx => passes_of_readable (h x hx)
  | 0, .object _, h => absurd h id
  | _ + 1, .object _, h => passes_object fun m hm => passes_of_readable (h.2 m hm)

/-- Skipping passes over the text of a value. -/
theorem value_chars {levels : Nat} {v : Json} (h : Readable levels v) {rest : List UInt8}
    (hrest : EndsNumber rest) : value (encodeChars v.chars ++ rest) = .ok ((), rest) := by
  obtain ⟨fuel', -, heq⟩ := (passes_of_readable h).2 rest hrest []
    ((encodeChars v.chars ++ rest).length + 1) (Nat.le_succ _)
  unfold value
  rw [heq, resume_nil]

end OpenIdProvider.Json.Skip
