/-
  Form data. Whatever the pairs are, their text is written with letters, digits and a few marks,
  so that it holds neither spaces nor the mark of a fragment; and it is read as these pairs.
-/
import OpenIdProvider.Codec.Form
import OpenIdProvider.Proofs.Codec.Percent
import OpenIdProvider.Proofs.Text.Ascii
import OpenIdProvider.Proofs.Text.Split
import OpenIdProvider.Proofs.Url.Escaping

namespace OpenIdProvider.Form

open Utf8 (encodeChars encodeChars_append encodeChars_cons_of_ascii)

/-! ## Characters -/

/-- The characters that form data is written with. -/
def isFormChar (c : Char) : Bool := Ascii.isLetterOrDigit c || "*-._+%=&".toList.contains c

theorem isFormChar_encodeByte {b : UInt8} {c : Char} (h : c ∈ encodeByte b) :
    isFormChar c = true := by
  unfold encodeByte at h
  split at h
  · rw [List.mem_singleton.1 h]
    decide
  · split at h
    · rename_i hplain
      rw [List.mem_singleton.1 h]
      simp only [isPlain, Bool.or_eq_true, decide_eq_true_eq] at hplain
      rcases hplain with (((hletter | rfl) | rfl) | rfl) | rfl
      · unfold isFormChar
        rw [hletter]
        rfl
      all_goals decide
    · have hall : ∀ d ∈ "%0123456789ABCDEF".toList, isFormChar d = true :=
        List.all_iff_forall_prop.1 (by decide)
      exact hall c (Url.mem_of_mem_percentEscape h)

theorem isFormChar_encodePair {p : String × String} {c : Char} (h : c ∈ encodePair p) :
    isFormChar c = true := by
  have htext {s : String} (hc : c ∈ encodeText s) : isFormChar c = true := by
    obtain ⟨b, -, hb⟩ := List.mem_flatMap.1 hc
    exact isFormChar_encodeByte hb
  unfold encodePair at h
  rcases List.mem_append.1 h with h | h
  · exact htext h
  · rcases List.mem_cons.1 h with rfl | h
    · decide
    · exact htext h

theorem isFormChar_encode {ps : List (String × String)} {c : Char} (h : c ∈ encode ps) :
    isFormChar c = true := by
  induction ps with
  | nil => cases h
  | cons p ps ih =>
    cases ps with
    | nil => exact isFormChar_encodePair h
    | cons q ps =>
      rw [encode] at h
      · rcases List.mem_append.1 h with h | h
        · exact isFormChar_encodePair h
        · rcases List.mem_cons.1 h with rfl | h
          · decide
          · exact ih h
      · nofun

theorem range_of_isFormChar {c : Char} (h : isFormChar c = true) :
    0x20 < c.toNat ∧ c.toNat ≤ 0x7E := by
  unfold isFormChar Ascii.isLetterOrDigit at h
  rw [Bool.or_eq_true, Bool.or_eq_true, List.contains_iff_mem] at h
  rcases h with (hletter | hdigit) | hmark
  · have hrange := Ascii.isLetter_iff.1 hletter
    omega
  · have hrange := Ascii.isDigit_iff.1 hdigit
    omega
  · have hall : ∀ d ∈ "*-._+%=&".toList, 0x20 < d.toNat ∧ d.toNat ≤ 0x7E :=
      List.all_iff_forall_prop.1 (by decide)
    exact hall c hmark

theorem hash_not_mem_encode (ps : List (String × String)) : '#' ∉ encode ps := by
  intro h
  exact absurd (isFormChar_encode h) (by decide)

/-! ## Reading back -/

/-- The bytes of form data that do not stand for themselves. -/
def marks : List UInt8 := [0x25, 0x26, 0x2B, 0x3D]

/-- How a byte is written: as itself, as `+` if it is a space, or as an escape. -/
def Writes (b : UInt8) : List UInt8 → Prop
  | [c] => c = b ∧ c ∉ marks ∨ c = 0x2B ∧ b = 0x20
  | [mark, hi, lo] => mark = 0x25 ∧ hi ∉ marks ∧ lo ∉ marks ∧ Percent.escaped? hi lo = some b
  | _ => False

instance (b : UInt8) (bytes : List UInt8) : Decidable (Writes b bytes) :=
  match bytes with
  | [_] => inferInstanceAs (Decidable (_ ∨ _))
  | [_, _, _] => inferInstanceAs (Decidable (_ ∧ _))
  | [] => inferInstanceAs (Decidable False)
  | [_, _] => inferInstanceAs (Decidable False)
  | _ :: _ :: _ :: _ :: _ => inferInstanceAs (Decidable False)

theorem writes_encodeByte (b : UInt8) : Writes b (encodeChars (encodeByte b)) := by
  refine Ascii.forall_byte (P := fun b => Writes b (encodeChars (encodeByte b))) ?_ b
  decide +kernel

/-- Bytes that stand between names and values are not written for others. -/
theorem not_mem_encodeText (s : String) {c : UInt8} (h : c = 0x26 ∨ c = 0x3D) :
    c ∉ encodeChars (encodeText s) := by
  have hbyte (b : UInt8) : c ∉ encodeChars (encodeByte b) := by
    have hwrites := writes_encodeByte b
    generalize encodeChars (encodeByte b) = bytes at hwrites
    have hmark : c ∈ marks ∧ c ≠ 0x2B ∧ c ≠ 0x25 := by
      rcases h with rfl | rfl <;> decide
    obtain ⟨hmark, hplus, hpercent⟩ := hmark
    match bytes, hwrites with
    | [d], .inl ⟨_, hd⟩ =>
      rw [List.mem_singleton]
      rintro rfl
      exact hd hmark
    | [d], .inr ⟨hd, _⟩ =>
      rw [List.mem_singleton]
      rintro rfl
      exact hplus hd
    | [d, hi, lo], ⟨hd, hhi, hlo, _⟩ =>
      intro hmem
      simp only [List.mem_cons, List.not_mem_nil, or_false] at hmem
      rcases hmem with rfl | rfl | rfl
      · exact hpercent hd
      · exact hhi hmark
      · exact hlo hmark
  unfold encodeText
  induction Utf8.encode s with
  | nil => nofun
  | cons b bs ih =>
    rw [List.flatMap_cons, encodeChars_append, List.mem_append, not_or]
    exact ⟨hbyte b, ih⟩

/-- One written byte in front of others is read as that byte, and its escapes are whole. -/
theorem read_encodeByte (b : UInt8) (rest : List UInt8) :
    Percent.decode ((encodeChars (encodeByte b)).map (fun c => if c = 0x2B then 0x20 else c) ++
        rest) = b :: Percent.decode rest ∧
      Percent.badEscape? (encodeChars (encodeByte b) ++ rest) = Percent.badEscape? rest := by
  have hwrites := writes_encodeByte b
  generalize encodeChars (encodeByte b) = bytes at hwrites
  have hself {c : UInt8} (h : c ≠ 0x25) (rest : List UInt8) :
      Percent.decode (c :: rest) = c :: Percent.decode rest ∧
        Percent.badEscape? (c :: rest) = Percent.badEscape? rest := by
    refine ⟨?_, Percent.badEscape?_cons_of_ne h rest⟩
    rw [Percent.decode]
    exact fun _ _ _ hmark => absurd hmark h
  have hmarks {c : UInt8} (h : c ∉ marks) : c ≠ 0x25 ∧ (if c = 0x2B then 0x20 else c) = c := by
    simp only [marks, List.mem_cons, List.not_mem_nil, or_false, not_or] at h
    exact ⟨h.1, if_neg h.2.2.1⟩
  match bytes, hwrites with
  | [c], .inl ⟨hc, hmark⟩ =>
    obtain ⟨hne, hplain⟩ := hmarks hmark
    rw [List.map_singleton, hplain, ← hc]
    exact hself hne rest
  | [c], .inr ⟨hc, hb⟩ =>
    rw [List.map_singleton, if_pos hc, hb, hc]
    exact ⟨(hself (by decide) rest).1, (hself (by decide) rest).2⟩
  | [mark, hi, lo], ⟨hmark, hhi, hlo, hescaped⟩ =>
    obtain ⟨hhi', hhi⟩ := hmarks hhi
    obtain ⟨hlo', hlo⟩ := hmarks hlo
    rw [hmark]
    simp only [List.map_cons, List.map_nil, hhi, hlo, List.cons_append, List.nil_append]
    constructor
    · rw [if_neg (by decide), Percent.decode, hescaped]
    · rw [Percent.badEscape?.eq_def]
      simp only [hescaped, Option.isSome_some, if_true]
      rw [(hself hhi' _).2, (hself hlo' _).2]

theorem decodeText_encodeText (s : String) : decodeText (encodeChars (encodeText s)) = s := by
  have hbytes (bs : List UInt8) :
      Percent.decode ((encodeChars (bs.flatMap encodeByte)).map
        (fun c => if c = 0x2B then 0x20 else c)) = bs := by
    induction bs with
    | nil => rfl
    | cons b bs ih =>
      rw [List.flatMap_cons, encodeChars_append, List.map_append, (read_encodeByte b _).1, ih]
  unfold decodeText encodeText
  rw [hbytes, Utf8.decodeLossy_encode]

theorem badEscape?_encodeText (s : String) (rest : List UInt8) :
    Percent.badEscape? (encodeChars (encodeText s) ++ rest) = Percent.badEscape? rest := by
  unfold encodeText
  induction Utf8.encode s with
  | nil => rfl
  | cons b bs ih =>
    rw [List.flatMap_cons, encodeChars_append, List.append_assoc, (read_encodeByte b _).2, ih]

theorem encodeChars_encodePair (p : String × String) :
    encodeChars (encodePair p) =
      encodeChars (encodeText p.1) ++ 0x3D :: encodeChars (encodeText p.2) := by
  unfold encodePair
  rw [encodeChars_append, encodeChars_cons_of_ascii (by decide)]
  rfl

theorem decodePair_encodePair (p : String × String) :
    decodePair (encodeChars (encodePair p)) = p := by
  have hfirst := not_mem_encodeText p.1 (c := 0x3D) (.inr rfl)
  unfold decodePair
  rw [encodeChars_encodePair, Split.splitOnce_append hfirst]
  simp only [decodeText_encodeText]

theorem decode_piece {piece : List UInt8} (h : 0x26 ∉ piece) (hne : piece ≠ []) :
    decode piece = [decodePair piece] ∧
      ∀ rest, decode (piece ++ 0x26 :: rest) = decodePair piece :: decode rest := by
  have hempty : (!piece.isEmpty) = true := by simpa using hne
  unfold decode
  refine ⟨?_, fun rest => ?_⟩
  · simp only [Split.splitOn_of_not_mem h, List.filter_cons, hempty, if_true, List.filter_nil,
      List.map_cons, List.map_nil]
  · simp only [Split.splitOn_append h, List.filter_cons, hempty, if_true, List.map_cons]

/-- Form data are read as the pairs that they were written for. -/
theorem decode_encode (ps : List (String × String)) : decode (encodeChars (encode ps)) = ps := by
  have hpiece (p : String × String) := @decode_piece (encodeChars (encodePair p))
    (by
      rw [encodeChars_encodePair, List.mem_append, List.mem_cons, not_or, not_or]
      exact ⟨not_mem_encodeText p.1 (.inl rfl), by decide, not_mem_encodeText p.2 (.inl rfl)⟩)
    (by
      rw [encodeChars_encodePair]
      exact List.append_ne_nil_of_right_ne_nil _ (List.cons_ne_nil _ _))
  induction ps with
  | nil => rfl
  | cons p ps ih =>
    cases ps with
    | nil => rw [encode, (hpiece p).1, decodePair_encodePair]
    | cons q ps =>
      rw [encode, encodeChars_append, encodeChars_cons_of_ascii (by decide)]
      · exact ((hpiece p).2 _).trans (by rw [decodePair_encodePair, ih])
      · nofun

/-- Every escape of form data is whole. -/
theorem badEscape?_encode (ps : List (String × String)) :
    Percent.badEscape? (encodeChars (encode ps)) = none := by
  have hpair (p : String × String) (rest : List UInt8) :
      Percent.badEscape? (encodeChars (encodePair p) ++ rest) = Percent.badEscape? rest := by
    rw [encodeChars_encodePair, List.append_assoc, badEscape?_encodeText, List.cons_append,
      Percent.badEscape?_cons_of_ne (by decide), badEscape?_encodeText]
  induction ps with
  | nil => rfl
  | cons p ps ih =>
    cases ps with
    | nil =>
      rw [encode, ← List.append_nil (encodeChars _), hpair]
      rfl
    | cons q ps =>
      rw [encode, encodeChars_append, encodeChars_cons_of_ascii (by decide)]
      · exact (hpair p _).trans ((Percent.badEscape?_cons_of_ne (by decide) _).trans ih)
      · nofun

/-! ## Form data put together -/

/-- Pairs before and after a separator are read apart. -/
theorem decode_append (front back : List UInt8) :
    decode (front ++ 0x26 :: back) = decode front ++ decode back := by
  unfold decode
  rw [Split.splitOn_append_cons, List.filter_append, List.map_append]

end OpenIdProvider.Form
