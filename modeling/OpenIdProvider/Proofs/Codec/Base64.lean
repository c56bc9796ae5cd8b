/-
  Base64 read back. Each symbol is a character of ASCII that stands for its six bits, and the bits
  of a group give its bytes again, so reading undoes writing in both alphabets, with and without
  padding.
-/
import OpenIdProvider.Codec.Base64
import OpenIdProvider.Proofs.Text.Ascii
import OpenIdProvider.Proofs.Text.Utf8

namespace OpenIdProvider.Base64

open Utf8 (encodeChars encodeChars_cons_of_ascii)

/-! ## Symbols -/

/-- The byte of a symbol. -/
def symbolByte (alphabet : Alphabet) (n : Nat) : UInt8 := (symbol alphabet n).toNat.toUInt8

theorem symbol_ascii (alphabet : Alphabet) {n : Nat} (h : n < 64) :
    (symbol alphabet n).toNat ≤ 0x7F := by
  have hall : ∀ m < 64, (symbol alphabet m).toNat ≤ 0x7F := by cases alphabet <;> decide
  exact hall n h

theorem value?_symbolByte (alphabet : Alphabet) {n : Nat} (h : n < 64) :
    value? alphabet (symbolByte alphabet n) = some n := by
  have hall : ∀ m < 64, value? alphabet (symbolByte alphabet m) = some m := by
    cases alphabet <;> decide
  exact hall n h

theorem symbolByte_ne_pad (alphabet : Alphabet) {n : Nat} (h : n < 64) :
    symbolByte alphabet n ≠ pad := by
  have hall : ∀ m < 64, symbolByte alphabet m ≠ pad := by cases alphabet <;> decide
  exact hall n h

theorem encodeChars_symbol (alphabet : Alphabet) {n : Nat} (h : n < 64) (cs : List Char) :
    encodeChars (symbol alphabet n :: cs) = symbolByte alphabet n :: encodeChars cs :=
  encodeChars_cons_of_ascii (symbol_ascii alphabet h) cs

/-! ## The text in bytes -/

/-- The bytes that fill up a group of which `k` symbols are wanting. -/
def padBytes (padding : Padding) (k : Nat) : List UInt8 :=
  if padding = .canonical then List.replicate k pad else []

theorem encodeChars_encode_one (alphabet : Alphabet) (padding : Padding) (a : UInt8) :
    encodeChars (encode alphabet padding [a]) =
      symbolByte alphabet (a.toNat * 16 / 64) :: symbolByte alphabet (a.toNat * 16 % 64) ::
        padBytes padding 2 := by
  have ha : a.toNat < 256 := a.toNat_lt
  rw [encode, List.cons_append, encodeChars_symbol alphabet (by omega), List.cons_append,
    encodeChars_symbol alphabet (by omega)]
  cases padding <;> rfl

theorem encodeChars_encode_two (alphabet : Alphabet) (padding : Padding) (a b : UInt8) :
    encodeChars (encode alphabet padding [a, b]) =
      symbolByte alphabet ((a.toNat * 256 + b.toNat) * 4 / 4096) ::
        symbolByte alphabet ((a.toNat * 256 + b.toNat) * 4 / 64 % 64) ::
        symbolByte alphabet ((a.toNat * 256 + b.toNat) * 4 % 64) :: padBytes padding 1 := by
  have ha : a.toNat < 256 := a.toNat_lt
  have hb : b.toNat < 256 := b.toNat_lt
  rw [encode, List.cons_append, encodeChars_symbol alphabet (by omega), List.cons_append,
    encodeChars_symbol alphabet (by omega), List.cons_append,
    encodeChars_symbol alphabet (by omega)]
  cases padding <;> rfl

theorem encodeChars_encode_three (alphabet : Alphabet) (padding : Padding) (a b c : UInt8)
    (rest : List UInt8) :
    encodeChars (encode alphabet padding (a :: b :: c :: rest)) =
      symbolByte alphabet (((a.toNat * 256 + b.toNat) * 256 + c.toNat) / 262144) ::
        symbolByte alphabet (((a.toNat * 256 + b.toNat) * 256 + c.toNat) / 4096 % 64) ::
        symbolByte alphabet (((a.toNat * 256 + b.toNat) * 256 + c.toNat) / 64 % 64) ::
        symbolByte alphabet (((a.toNat * 256 + b.toNat) * 256 + c.toNat) % 64) ::
        encodeChars (encode alphabet padding rest) := by
  have ha : a.toNat < 256 := a.toNat_lt
  have hb : b.toNat < 256 := b.toNat_lt
  have hc : c.toNat < 256 := c.toNat_lt
  rw [encode, encodeChars_symbol alphabet (by omega), encodeChars_symbol alphabet (by omega),
    encodeChars_symbol alphabet (by omega), encodeChars_symbol alphabet (by omega)]

/-! ## Reading -/

theorem lastSymbols_symbolByte (alphabet : Alphabet) (offset i : Nat) {n : Nat} (h : n < 64)
    (rest : List UInt8) :
    lastSymbols alphabet offset i 0 (symbolByte alphabet n :: rest) =
      (lastSymbols alphabet offset (i + 1) 0 rest).map fun (vs, p) =>
        ((symbolByte alphabet n, n) :: vs, p) := by
  rw [lastSymbols, if_neg (symbolByte_ne_pad alphabet h), if_neg (Nat.lt_irrefl 0),
    value?_symbolByte alphabet h]

theorem ofNat_eq_of_toNat {n : Nat} {b : UInt8} (h : n = b.toNat) : UInt8.ofNat n = b := by
  rw [h]
  exact UInt8.ofNat_toNat

theorem lastSymbols_padBytes (alphabet : Alphabet) (offset : Nat) (padding : Padding) {k : Nat}
    (h : k ≤ 2) :
    lastSymbols alphabet offset (4 - k) 0 (padBytes padding k) =
      .ok ([], if padding = .canonical then k else 0) := by
  have hcases : k = 0 ∨ k = 1 ∨ k = 2 := by omega
  cases padding <;> rcases hcases with rfl | rfl | rfl <;> simp [padBytes, lastSymbols]

/-- The last group of a text, of one, two or three bytes. -/
theorem decodeLast_encode (alphabet : Alphabet) (padding : Padding) (offset : Nat)
    (bs : List UInt8) (h : 0 < bs.length) (h' : bs.length ≤ 3) :
    decodeLast alphabet padding offset (encodeChars (encode alphabet padding bs)) = .ok bs := by
  match bs with
  | [a] =>
    have ha : a.toNat < 256 := a.toNat_lt
    generalize hn : a.toNat * 16 = n
    have hbyte : UInt8.ofNat (n / 64 * 4 + n % 64 / 16) = a := ofNat_eq_of_toNat (by omega)
    have hlow : n % 64 % 16 = 0 := by omega
    have hpad := lastSymbols_padBytes alphabet offset padding (k := 2) (by omega)
    rw [encodeChars_encode_one, hn, decodeLast, lastSymbols_symbolByte _ _ _ (by omega),
      lastSymbols_symbolByte _ _ _ (by omega), hpad, ← hbyte]
    cases padding <;> simp [Except.map, Except.bind, hlow]
  | [a, b] =>
    have ha : a.toNat < 256 := a.toNat_lt
    have hb : b.toNat < 256 := b.toNat_lt
    generalize hn : (a.toNat * 256 + b.toNat) * 4 = n
    have hfirst : UInt8.ofNat (n / 4096 * 4 + n / 64 % 64 / 16) = a :=
      ofNat_eq_of_toNat (by omega)
    have hsecond : UInt8.ofNat (n / 64 % 64 % 16 * 16 + n % 64 / 4) = b :=
      ofNat_eq_of_toNat (by omega)
    have hlow : n % 64 % 4 = 0 := by omega
    have hpad := lastSymbols_padBytes alphabet offset padding (k := 1) (by omega)
    rw [encodeChars_encode_two, hn, decodeLast, lastSymbols_symbolByte _ _ _ (by omega),
      lastSymbols_symbolByte _ _ _ (by omega), lastSymbols_symbolByte _ _ _ (by omega), hpad,
      ← hfirst, ← hsecond]
    cases padding <;> simp [Except.map, Except.bind, hlow]
  | [a, b, c] =>
    have ha : a.toNat < 256 := a.toNat_lt
    have hb : b.toNat < 256 := b.toNat_lt
    have hc : c.toNat < 256 := c.toNat_lt
    generalize hn : (a.toNat * 256 + b.toNat) * 256 + c.toNat = n
    have hfirst : UInt8.ofNat (n / 262144 * 4 + n / 4096 % 64 / 16) = a :=
      ofNat_eq_of_toNat (by omega)
    have hsecond : UInt8.ofNat (n / 4096 % 64 % 16 * 16 + n / 64 % 64 / 4) = b :=
      ofNat_eq_of_toNat (by omega)
    have hthird : UInt8.ofNat (n / 64 % 64 % 4 * 64 + n % 64) = c :=
      ofNat_eq_of_toNat (by omega)
    rw [encodeChars_encode_three, hn, decodeLast, lastSymbols_symbolByte _ _ _ (by omega),
      lastSymbols_symbolByte _ _ _ (by omega), lastSymbols_symbolByte _ _ _ (by omega),
      lastSymbols_symbolByte _ _ _ (by omega)]
    rw [← hfirst, ← hsecond, ← hthird]
    cases padding <;> simp [encode, encodeChars, lastSymbols, Except.map, Except.bind]

theorem encodeChars_encode_ne_nil (alphabet : Alphabet) (padding : Padding) {bs : List UInt8}
    (h : bs ≠ []) : encodeChars (encode alphabet padding bs) ≠ [] := by
  match bs with
  | [a] =>
    rw [encodeChars_encode_one]
    exact List.cons_ne_nil _ _
  | [a, b] =>
    rw [encodeChars_encode_two]
    exact List.cons_ne_nil _ _
  | a :: b :: c :: rest =>
    rw [encodeChars_encode_three]
    exact List.cons_ne_nil _ _

/-- Reading goes by groups of three bytes, as writing does; the last group is read apart. -/
theorem decodeGroups_encode (alphabet : Alphabet) (padding : Padding) (offset : Nat)
    (bs : List UInt8) (h : bs ≠ []) :
    decodeGroups alphabet padding offset (encodeChars (encode alphabet padding bs)) = .ok bs := by
  match bs with
  | [a] =>
    have hlast := decodeLast_encode alphabet padding offset [a] (by simp) (by simp)
    rw [encodeChars_encode_one] at hlast ⊢
    cases padding <;> exact hlast
  | [a, b] =>
    have hlast := decodeLast_encode alphabet padding offset [a, b] (by simp) (by simp)
    rw [encodeChars_encode_two] at hlast ⊢
    cases padding <;> exact hlast
  | [a, b, c] =>
    have hlast := decodeLast_encode alphabet padding offset [a, b, c] (by simp) (by simp)
    rw [encodeChars_encode_three] at hlast ⊢
    exact hlast
  | a :: b :: c :: d :: rest =>
    have ha : a.toNat < 256 := a.toNat_lt
    have hb : b.toNat < 256 := b.toNat_lt
    have hc : c.toNat < 256 := c.toNat_lt
    have ih := decodeGroups_encode alphabet padding (offset + 4) (d :: rest)
      (List.cons_ne_nil _ _)
    have hne := encodeChars_encode_ne_nil alphabet padding (List.cons_ne_nil d rest)
    rw [encodeChars_encode_three]
    generalize hn : (a.toNat * 256 + b.toNat) * 256 + c.toNat = n
    generalize encodeChars (encode alphabet padding (d :: rest)) = more at ih hne
    obtain ⟨e, more, rfl⟩ := List.exists_cons_of_ne_nil hne
    rw [decodeGroups, value?_symbolByte alphabet (by omega), value?_symbolByte alphabet (by omega),
      value?_symbolByte alphabet (by omega), value?_symbolByte alphabet (by omega), ih]
    have hfirst : UInt8.ofNat (n / 262144 * 4 + n / 4096 % 64 / 16) = a :=
      ofNat_eq_of_toNat (by omega)
    have hsecond : UInt8.ofNat (n / 4096 % 64 % 16 * 16 + n / 64 % 64 / 4) = b :=
      ofNat_eq_of_toNat (by omega)
    have hthird : UInt8.ofNat (n / 64 % 64 % 4 * 64 + n % 64) = c :=
      ofNat_eq_of_toNat (by omega)
    show Except.ok (UInt8.ofNat _ :: UInt8.ofNat _ :: UInt8.ofNat _ :: d :: rest) = _
    rw [hfirst, hsecond, hthird]

/-- A written text never has a length that leaves a lone symbol. -/
theorem length_encode_mod (alphabet : Alphabet) (padding : Padding) (bs : List UInt8) :
    (encodeChars (encode alphabet padding bs)).length % 4 ≠ 1 := by
  match bs with
  | [] => nofun
  | [a] =>
    rw [encodeChars_encode_one]
    cases padding <;> simp [padBytes]
  | [a, b] =>
    rw [encodeChars_encode_two]
    cases padding <;> simp [padBytes]
  | a :: b :: c :: rest =>
    have ih := length_encode_mod alphabet padding rest
    rw [encodeChars_encode_three]
    simp only [List.length_cons]
    omega

/-- Reading undoes writing. -/
theorem decode_encode (alphabet : Alphabet) (padding : Padding) (bs : List UInt8) :
    decode alphabet padding (encodeChars (encode alphabet padding bs)) = .ok bs := by
  by_cases h : bs = []
  · subst h
    rfl
  · unfold decode
    have hlength := length_encode_mod alphabet padding bs
    cases hlast : (encodeChars (encode alphabet padding bs)).getLast? with
    | none =>
      rw [List.getLast?_eq_none_iff] at hlast
      exact absurd hlast (encodeChars_encode_ne_nil alphabet padding h)
    | some b =>
      simp only
      rw [if_neg (fun h' => hlength h'.1)]
      exact decodeGroups_encode alphabet padding 0 bs h

theorem decodeUrl_encodeUrl (bs : List UInt8) :
    decodeUrl (encodeChars (encodeUrl bs)) = .ok bs :=
  decode_encode .urlSafe .none bs

theorem encodeUrl_injective {bs bs' : List UInt8} (h : encodeUrl bs = encodeUrl bs') :
    bs = bs' := by
  have hread := decodeUrl_encodeUrl bs
  rw [h, decodeUrl_encodeUrl] at hread
  exact (Except.ok.inj hread).symm

/-! ## The characters -/

/-- What holds of all symbols, and of the padding if there is any, holds of all characters. -/
theorem of_mem_encode {P : Char → Prop} {alphabet : Alphabet} {padding : Padding}
    (hsymbol : ∀ n < 64, P (symbol alphabet n)) (hpad : padding = .canonical → P '=')
    {bs : List UInt8} {c : Char} (h : c ∈ encode alphabet padding bs) : P c := by
  have hfill {k : Nat} (h : c ∈ if padding = .canonical then List.replicate k '=' else []) :
      P c := by
    split at h
    · rename_i hpadding
      rw [List.eq_of_mem_replicate h]
      exact hpad hpadding
    · cases h
  match bs with
  | [] => cases h
  | [a] =>
    have ha : a.toNat < 256 := a.toNat_lt
    rcases List.mem_append.1 h with h | h
    · simp only [List.mem_cons, List.not_mem_nil, or_false] at h
      rcases h with rfl | rfl <;> exact hsymbol _ (by omega)
    · exact hfill (k := 2) h
  | [a, b] =>
    have ha : a.toNat < 256 := a.toNat_lt
    have hb : b.toNat < 256 := b.toNat_lt
    rcases List.mem_append.1 h with h | h
    · simp only [List.mem_cons, List.not_mem_nil, or_false] at h
      rcases h with rfl | rfl | rfl <;> exact hsymbol _ (by omega)
    · exact hfill (k := 1) h
  | a :: b :: d :: rest =>
    have ha : a.toNat < 256 := a.toNat_lt
    have hb : b.toNat < 256 := b.toNat_lt
    have hd : d.toNat < 256 := d.toNat_lt
    simp only [encode, List.mem_cons] at h
    rcases h with rfl | rfl | rfl | rfl | h
    · exact hsymbol _ (by omega)
    · exact hsymbol _ (by omega)
    · exact hsymbol _ (by omega)
    · exact hsymbol _ (by omega)
    · exact of_mem_encode hsymbol hpad h

/-- Base64 is written with visible characters. -/
theorem visible_of_mem_encode {alphabet : Alphabet} {padding : Padding} {bs : List UInt8}
    {c : Char} (h : c ∈ encode alphabet padding bs) : 0x20 < c.toNat ∧ c.toNat < 0x7F := by
  refine of_mem_encode (P := fun c => 0x20 < c.toNat ∧ c.toNat < 0x7F) ?_ (fun _ => by decide) h
  cases alphabet <;> decide

/-- Base64 for URLs is written with letters, digits and two marks. -/
def isUrlSymbol (c : Char) : Bool := Ascii.isLetterOrDigit c || c = '-' || c = '_'

theorem isUrlSymbol_symbol {n : Nat} (h : n < 64) : isUrlSymbol (symbol .urlSafe n) = true := by
  have hall : ∀ m < 64, isUrlSymbol (symbol .urlSafe m) = true := by decide
  exact hall n h

theorem isUrlSymbol_of_mem (bs : List UInt8) {c : Char} (h : c ∈ encodeUrl bs) :
    isUrlSymbol c = true := by
  unfold encodeUrl at h
  exact of_mem_encode (P := fun c => isUrlSymbol c = true) (fun _ hn => isUrlSymbol_symbol hn)
    (by nofun) h

theorem visible_of_isUrlSymbol {c : Char} (h : isUrlSymbol c = true) :
    0x20 ≤ c.toNat ∧ c.toNat < 0x7F := by
  unfold isUrlSymbol Ascii.isLetterOrDigit at h
  simp only [Bool.or_eq_true, decide_eq_true_eq] at h
  rcases h with ((hletter | hdigit) | rfl) | rfl
  · have hrange := Ascii.isLetter_iff.1 hletter
    omega
  · have hrange := Ascii.isDigit_iff.1 hdigit
    omega
  · decide
  · decide

end OpenIdProvider.Base64
