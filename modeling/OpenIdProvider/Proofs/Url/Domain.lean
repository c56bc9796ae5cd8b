/-
  The characters of domains. A label in ASCII is a text whose characters are allowed, or a name in
  which the allowed ASCII characters of such a text stand before letters, digits and hyphens. So no
  domain holds a character that is denied (`not_isDenied_of_toAscii?`), and none is without the
  range of ASCII (`isAscii_of_toAscii?`).
-/
import Mathlib.Data.Bool.AllAny
import OpenIdProvider.Proofs.Text.Ascii
import OpenIdProvider.Proofs.Text.Split
import OpenIdProvider.Url.Idna

namespace OpenIdProvider.Punycode

/-! ## Names of texts -/

theorem threshold_pos (bias place : Nat) : 1 ≤ threshold bias place := Nat.le_max_left ..

theorem threshold_le (bias place : Nat) : threshold bias place ≤ 26 :=
  Nat.max_le.2 ⟨by omega, Nat.min_le_left ..⟩

/-- The characters that numbers are written with. -/
def isNumeral (c : Char) : Bool := (digit? c).isSome

theorem range_of_numeral {c : Char} (h : isNumeral c = true) :
    0x30 ≤ c.toNat ∧ c.toNat ≤ 0x7A := by
  unfold isNumeral digit? at h
  split at h
  · rename_i hletter
    have := Ascii.isLetter_iff.1 hletter
    omega
  · rw [Option.isSome_map] at h
    have := Ascii.isDigit_iff.1 h
    omega

theorem isNumeral_digit {n : Nat} (h : n < 36) : isNumeral (digit n) = true := by
  have hall : ∀ m < 36, isNumeral (digit m) = true := by decide
  exact hall n h

theorem isNumeral_of_mem_numberFrom (bias place n : Nat) :
    ∀ c ∈ numberFrom bias place n, isNumeral c = true := by
  have hpos := threshold_pos bias place
  have hle := threshold_le bias place
  unfold numberFrom
  simp only
  split
  · intro c hc
    rw [List.mem_singleton.1 hc]
    exact isNumeral_digit (by omega)
  · intro c hc
    rcases List.mem_cons.1 hc with rfl | hc
    · have hbase : base = 36 := rfl
      have hmod : (n - threshold bias place) % (base - threshold bias place) <
          base - threshold bias place := Nat.mod_lt _ (by omega)
      exact isNumeral_digit (by omega)
    · exact isNumeral_of_mem_numberFrom bias (place + base) _ c hc
termination_by n
decreasing_by
  have : (n - threshold bias place) / (base - threshold bias place) ≤ n - threshold bias place :=
    Nat.div_le_self ..
  omega

/-- What is in a name: ASCII characters of the text, hyphens and numerals. -/
def IsNamed (text : List Char) (c : Char) : Prop :=
  c ∈ text ∧ c.toNat < 0x80 ∨ c = '-' ∨ isNumeral c = true

theorem IsNamed.isAscii {text : List Char} {c : Char} (h : IsNamed text c) : c.toNat < 0x80 := by
  rcases h with ⟨-, hascii⟩ | rfl | hnumeral
  · exact hascii
  · decide
  · have := range_of_numeral hnumeral
    omega

theorem isNamed_of_mem_pass {text : List Char} {x c : Char} {s : Encoding}
    (h : ∀ d ∈ s.output, IsNamed text d) : ∀ d ∈ (s.pass x c).output, IsNamed text d := by
  unfold Encoding.pass
  split
  · exact h
  · split
    · intro d hd
      rcases List.mem_append.1 hd with hd | hd
      · exact h d hd
      · exact .inr (.inr (isNumeral_of_mem_numberFrom _ _ _ d hd))
    · exact h

theorem isNamed_of_mem_encodeChar {text cs : List Char} {s : Encoding × Nat} {x : Char}
    (h : ∀ d ∈ s.1.output, IsNamed text d) :
    ∀ d ∈ (encodeChar cs s x).1.output, IsNamed text d := by
  have hfold (start : Encoding) (hstart : ∀ d ∈ start.output, IsNamed text d) :
      ∀ d ∈ (cs.foldl (Encoding.pass x) start).output, IsNamed text d := by
    induction cs generalizing start with
    | nil => exact hstart
    | cons c cs ih => exact ih _ (isNamed_of_mem_pass hstart)
  exact hfold _ h

/-- The name of a text is written with its ASCII characters, hyphens and numerals. -/
theorem isNamed_of_mem_encode {text : List Char} {c : Char} (h : c ∈ encode text) :
    IsNamed text c := by
  have hfold (others : List Char) (s : Encoding × Nat) (hs : ∀ d ∈ s.1.output, IsNamed text d) :
      ∀ d ∈ (others.foldl (encodeChar text) s).1.output, IsNamed text d := by
    induction others generalizing s with
    | nil => exact hs
    | cons x others ih => exact ih _ (isNamed_of_mem_encodeChar hs)
  refine hfold _ _ ?_ c h
  intro d hd
  simp only at hd
  split at hd
  · cases hd
  · rcases List.mem_append.1 hd with hd | hd
    · obtain ⟨hmem, hascii⟩ := List.mem_filter.1 hd
      exact .inl ⟨hmem, of_decide_eq_true hascii⟩
    · exact .inr (.inl (List.mem_singleton.1 hd))

/-! ## Texts of names -/

theorem mem_output_of_insert? {s s' : Decoding} (h : s.insert? = some s') {c : Char}
    (hc : c ∈ s.output) : c ∈ s'.output := by
  unfold Decoding.insert? at h
  simp only at h
  split at h
  · cases h
    rw [← List.take_append_drop ((s.place + s.number) % (s.output.length + 1)) s.output] at hc
    rcases List.mem_append.1 hc with hc | hc
    · exact List.mem_append_left _ hc
    · exact List.mem_append_right _ (List.mem_cons_of_mem _ hc)
  · cases h

theorem push?_eq_some {s s' : Decoding} {d : Char} (h : s.push? d = some s') :
    isNumeral d = true ∧ ∀ c ∈ s.output, c ∈ s'.output := by
  unfold Decoding.push? at h
  cases hdigit : digit? d with
  | none =>
    rw [hdigit] at h
    cases h
  | some n =>
    have hnumeral : isNumeral d = true := by
      unfold isNumeral
      rw [hdigit]
      rfl
    refine ⟨hnumeral, fun c hc => ?_⟩
    rw [hdigit] at h
    simp only [Option.bind_eq_bind, Option.bind_some] at h
    split at h
    · exact mem_output_of_insert? h hc
    · cases h
      exact hc

theorem foldlM_push?_eq_some {digits : List Char} {s s' : Decoding}
    (h : digits.foldlM Decoding.push? s = some s') :
    (∀ d ∈ digits, isNumeral d = true) ∧ ∀ c ∈ s.output, c ∈ s'.output := by
  induction digits generalizing s with
  | nil =>
    cases h
    exact ⟨nofun, fun c hc => hc⟩
  | cons d digits ih =>
    rw [List.foldlM_cons, Option.bind_eq_bind, Option.bind_eq_some_iff] at h
    obtain ⟨next, hpush, hrest⟩ := h
    obtain ⟨hnumeral, houtput⟩ := push?_eq_some hpush
    obtain ⟨hnumerals, houtput'⟩ := ih hrest
    refine ⟨fun e he => ?_, fun c hc => houtput' c (houtput c hc)⟩
    rcases List.mem_cons.1 he with rfl | he
    · exact hnumeral
    · exact hnumerals e he

/-- A name is cut at its last hyphen. -/
theorem mem_splitLast {cs : List Char} {c : Char} (h : c ∈ cs) :
    c ∈ (splitLast cs).1 ∨ c = '-' ∨ c ∈ (splitLast cs).2 := by
  unfold splitLast
  simp only
  have hcs : cs = (cs.reverse.dropWhile (· != '-')).reverse ++
      (cs.reverse.takeWhile (· != '-')).reverse := by
    rw [← List.reverse_append, List.takeWhile_append_dropWhile, List.reverse_reverse]
  cases hdrop : cs.reverse.dropWhile (· != '-') with
  | nil =>
    rw [hdrop] at hcs
    rw [hcs] at h
    exact .inr (.inr h)
  | cons d rest =>
    have hd : d = '-' := by
      have hne : cs.reverse.dropWhile (· != '-') ≠ [] := by rw [hdrop]; nofun
      have hhead := List.head_dropWhile_not (· != '-') hne
      simpa [hdrop] using hhead
    rw [hdrop, List.reverse_cons, hd] at hcs
    clear hdrop
    generalize (cs.reverse.takeWhile (· != '-')).reverse = after at hcs ⊢
    subst hcs
    have htake : (rest.reverse ++ ['-'] ++ after).take
        ((rest.reverse ++ ['-'] ++ after).length - after.length - 1) = rest.reverse := by
      rw [List.append_assoc]
      exact List.take_left' (by simp; omega)
    rw [htake]
    simp only [List.mem_append, List.mem_singleton] at h
    rcases h with (h | h) | h
    · exact .inl h
    · exact .inr (.inl h)
    · exact .inr (.inr h)

/-- What a name is written with is in its text, but for the case of letters. -/
theorem isNamed_of_decode? {name text : List Char} (h : decode? name = some text) {c : Char}
    (hc : c ∈ name) : Ascii.toLower c ∈ text ∨ c = '-' ∨ isNumeral c = true := by
  unfold decode? at h
  simp only [Option.bind_eq_bind, Option.bind_eq_some_iff] at h
  obtain ⟨s, hfold, htext⟩ := h
  obtain ⟨hnumerals, houtput⟩ := foldlM_push?_eq_some hfold
  split at htext
  · cases htext
    split at hnumerals
    · exact .inr (.inr (hnumerals c hc))
    · rcases mem_splitLast hc with hbasic | hhyphen | hdigits
      · exact .inl (houtput _ (List.mem_map_of_mem hbasic))
      · exact .inr (.inl hhyphen)
      · exact .inr (.inr (hnumerals c hdigits))
  · cases htext

end OpenIdProvider.Punycode

namespace OpenIdProvider.Idna

/-! ## Characters that are denied -/

theorem isDenied_eq_false_iff {c : Char} :
    isDenied c = false ↔
      0x20 < c.toNat ∧ c.toNat ≠ 0x7F ∧ c ∉ "%#/:<>?@[\\]^|".toList := by
  simp only [isDenied, Bool.or_eq_false_iff, decide_eq_false_iff_not, Nat.not_le,
    List.contains_eq_mem, and_assoc]

theorem not_isDenied_of_numeral {c : Char} (h : Punycode.isNumeral c = true) :
    isDenied c = false := by
  have hset : ∀ d ∈ "%#/:<>?@[\\]^|".toList, Punycode.isNumeral d = false :=
    List.all_iff_forall_prop.1 (by decide)
  have hrange := Punycode.range_of_numeral h
  refine isDenied_eq_false_iff.2 ⟨by omega, by omega, fun hmem => ?_⟩
  rw [hset c hmem] at h
  cases h

theorem not_isDenied_of_toLower {c : Char} (h : isDenied (Ascii.toLower c) = false) :
    isDenied c = false := by
  unfold Ascii.toLower at h
  split at h
  · rename_i hupper
    refine not_isDenied_of_numeral ?_
    unfold Punycode.isNumeral Punycode.digit? Ascii.isLetter
    rw [hupper]
    rfl
  · exact h

/-- The ASCII form of an allowed label holds no character that is denied. -/
theorem Label.not_isDenied {text : List Char} {l : Label} (h : Label.ofMapped? text = some l)
    (hallowed : l.isAllowed = true) : ∀ c ∈ l.ascii, isDenied c = false := by
  have hmark : ∀ c ∈ mark, isDenied c = false :=
    List.all_iff_forall_prop.1 (by decide)
  have htext : ∀ c ∈ l.text, isDenied c = false := by
    unfold Label.isAllowed at hallowed
    simp only [Bool.and_eq_true, List.all_eq_true, Bool.not_eq_true'] at hallowed
    exact hallowed.1.1
  have hnamed (c : Char) (hc : Ascii.toLower c ∈ l.text ∨ c ∈ l.text ∨ c = '-' ∨
      Punycode.isNumeral c = true) : isDenied c = false := by
    rcases hc with hc | hc | rfl | hc
    · exact not_isDenied_of_toLower (htext _ hc)
    · exact htext c hc
    · decide
    · exact not_isDenied_of_numeral hc
  unfold Label.ofMapped? at h
  split at h
  · rename_i name hname
    unfold Label.ofName? at h
    rw [Option.bind_eq_bind, Option.bind_eq_some_iff] at h
    obtain ⟨decoded, hdecode, hlabel⟩ := h
    split at hlabel
    · cases hlabel
      intro c hc
      rcases List.mem_append.1 hc with hc | hc
      · exact hmark c hc
      · rcases Punycode.isNamed_of_decode? hdecode hc with hlower | hrest
        · exact hnamed c (.inl hlower)
        · exact hnamed c (.inr (.inr hrest))
    · cases hlabel
  · split at h
    · cases h
      exact htext
    · split at h
      · cases h
        intro c hc
        rcases List.mem_append.1 hc with hc | hc
        · exact hmark c hc
        · exact hnamed c (.inr ((Punycode.isNamed_of_mem_encode hc).imp_left And.left))
      · cases h

/-- The ASCII form of a label is ASCII. -/
theorem Label.isAscii {text : List Char} {l : Label} (h : Label.ofMapped? text = some l) :
    ∀ c ∈ l.ascii, c.toNat < 0x80 := by
  have hmark {name : List Char} (hname : ∀ c ∈ name, c.toNat < 0x80) :
      ∀ c ∈ mark ++ name, c.toNat < 0x80 := by
    have hall : ∀ c ∈ mark, c.toNat < 0x80 := List.all_iff_forall_prop.1 (by decide)
    exact fun c hc => (List.mem_append.1 hc).elim (hall c) (hname c)
  unfold Label.ofMapped? at h
  split at h
  · unfold Label.ofName? at h
    rw [Option.bind_eq_bind, Option.bind_eq_some_iff] at h
    obtain ⟨decoded, -, hlabel⟩ := h
    split at hlabel
    · rename_i hname
      cases hlabel
      exact hmark (List.all_iff_forall_prop.1 hname.1)
    · cases hlabel
  · split at h
    · rename_i htext
      cases h
      exact List.all_iff_forall_prop.1 htext
    · split at h
      · cases h
        exact hmark fun c hc => (Punycode.isNamed_of_mem_encode hc).isAscii
      · cases h

theorem exists_of_mem_mapM {α β : Type} {f : α → Option β} {xs : List α} {ys : List β}
    (h : xs.mapM f = some ys) {y : β} (hy : y ∈ ys) : ∃ x ∈ xs, f x = some y := by
  induction xs generalizing ys with
  | nil =>
    cases h
    cases hy
  | cons x xs ih =>
    simp only [List.mapM_cons, Option.bind_eq_bind, Option.bind_eq_some_iff] at h
    obtain ⟨z, hz, zs, hzs, hys⟩ := h
    cases hys
    rcases List.mem_cons.1 hy with rfl | hy
    · exact ⟨x, List.mem_cons_self, hz⟩
    · obtain ⟨x', hx', hfx'⟩ := ih hzs hy
      exact ⟨x', List.mem_cons_of_mem _ hx', hfx'⟩

theorem exists_mem_of_mapM {α β : Type} {f : α → Option β} {xs : List α} {ys : List β}
    (h : xs.mapM f = some ys) {x : α} (hx : x ∈ xs) : ∃ y ∈ ys, f x = some y := by
  induction xs generalizing ys with
  | nil => cases hx
  | cons z xs ih =>
    simp only [List.mapM_cons, Option.bind_eq_bind, Option.bind_eq_some_iff] at h
    obtain ⟨y, hy, zs, hzs, hys⟩ := h
    cases hys
    rcases List.mem_cons.1 hx with rfl | hx
    · exact ⟨y, List.mem_cons_self, hy⟩
    · obtain ⟨y', hy', hfx⟩ := ih hzs hx
      exact ⟨y', List.mem_cons_of_mem _ hy', hfx⟩

/-- What is in a domain: dots and the ASCII forms of allowed labels. -/
theorem exists_label_of_toAscii? {cs domain : List Char} (h : toAscii? cs = some domain) {c : Char}
    (hc : c ∈ domain) :
    c = '.' ∨ ∃ text l, Label.ofMapped? text = some l ∧ l.isAllowed = true ∧ c ∈ l.ascii := by
  unfold toAscii? at h
  simp only [Option.bind_eq_bind, Option.bind_eq_some_iff] at h
  obtain ⟨mapped, -, labels, hlabels, hdomain⟩ := h
  split at hdomain
  · rename_i hallowed
    cases hdomain
    rw [Bool.and_eq_true, List.all_eq_true] at hallowed
    rcases Split.mem_intercalate hc with hdot | ⟨ascii, hascii, hc⟩
    · exact .inl (List.mem_singleton.1 hdot)
    · obtain ⟨label, hlabel, rfl⟩ := List.mem_map.1 hascii
      obtain ⟨text, -, htext⟩ := exists_of_mem_mapM hlabels hlabel
      exact .inr ⟨text, label, htext, hallowed.1 label hlabel, hc⟩
  · cases hdomain

/-- No domain holds a character that is denied. -/
theorem not_isDenied_of_toAscii? {cs domain : List Char} (h : toAscii? cs = some domain) :
    ∀ c ∈ domain, isDenied c = false := by
  intro c hc
  rcases exists_label_of_toAscii? h hc with rfl | ⟨text, l, htext, hallowed, hc⟩
  · decide
  · exact Label.not_isDenied htext hallowed c hc

/-- Domains are ASCII. -/
theorem isAscii_of_toAscii? {cs domain : List Char} (h : toAscii? cs = some domain) :
    ∀ c ∈ domain, c.toNat < 0x80 := by
  intro c hc
  rcases exists_label_of_toAscii? h hc with rfl | ⟨text, l, htext, -, hc⟩
  · decide
  · exact Label.isAscii htext c hc

end OpenIdProvider.Idna
