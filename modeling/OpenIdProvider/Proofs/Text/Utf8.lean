/-
  UTF-8 read back. The bytes of a character are read as one piece that stands for it, whatever
  follows them, so the bytes of a text are well formed and are read as that text. The order of texts
  is that of their bytes.
-/
import Mathlib.Tactic.SplitIfs
import OpenIdProvider.Text.Utf8

namespace OpenIdProvider.Utf8

/-! ## Bytes as numbers -/

theorem toNat_byte {n : Nat} (h : n < 256) : (UInt8.ofNat n).toNat = n := by
  rw [UInt8.toNat_ofNat']
  omega

theorem isTail_ofNat {n : Nat} (h : n < 64) : isTail (UInt8.ofNat (n + 128)) = true := by
  have hbyte : (UInt8.ofNat (n + 128)).toNat = n + 128 := toNat_byte (by omega)
  simp only [isTail, UInt8.le_iff_toNat_le, Bool.and_eq_true, decide_eq_true_eq, hbyte]
  exact ⟨Nat.le_add_left _ _, by show n + 128 ≤ 191; omega⟩

/-- A second byte as its first byte wants it: the first bytes with a range of their own are those
of the shortest and of the greatest forms, and that of the surrogates. -/
theorem isSecond_ofNat {first n : Nat} (hfirst : first < 256) (h : n < 64)
    (he0 : first = 0xE0 → 32 ≤ n) (hed : first = 0xED → n < 32) (hf0 : first = 0xF0 → 16 ≤ n)
    (hf4 : first = 0xF4 → n < 16) :
    isSecond (UInt8.ofNat first) (UInt8.ofNat (n + 128)) = true := by
  have hbyte : (UInt8.ofNat (n + 128)).toNat = n + 128 := toNat_byte (by omega)
  have hbyte' : (UInt8.ofNat first).toNat = first := toNat_byte hfirst
  simp only [isSecond, ← UInt8.toNat_inj, UInt8.le_iff_toNat_le, hbyte, hbyte',
    UInt8.reduceToNat]
  split
  · rename_i h'
    have := he0 h'
    simp only [Bool.and_eq_true, decide_eq_true_eq]
    omega
  · split
    · rename_i h'
      have := hed h'
      simp only [Bool.and_eq_true, decide_eq_true_eq]
      omega
    · split
      · rename_i h'
        have := hf0 h'
        simp only [Bool.and_eq_true, decide_eq_true_eq]
        omega
      · split
        · rename_i h'
          have := hf4 h'
          simp only [Bool.and_eq_true, decide_eq_true_eq]
          omega
        · exact isTail_ofNat h

/-! ## Characters of ASCII and others -/

theorem toNat_toUInt8 {n : Nat} (h : n ≤ 0x7F) : n.toUInt8.toNat = n := toNat_byte (by omega)

theorem ofNat_toUInt8 {c : Char} (h : c.toNat ≤ 0x7F) : Char.ofNat c.toNat.toUInt8.toNat = c := by
  rw [toNat_toUInt8 h]
  exact Char.ofNat_toNat c

theorem utf8EncodeChar_of_ascii {c : Char} (h : c.toNat ≤ 0x7F) :
    String.utf8EncodeChar c = [c.toNat.toUInt8] := by
  have hsize : c.utf8Size = 1 := by
    rw [Char.utf8Size_eq_one_iff, UInt32.le_iff_toNat_le]
    exact h
  rw [String.utf8EncodeChar_eq_singleton hsize]
  rfl

/-- Every byte of a character outside ASCII is outside ASCII. -/
theorem le_byte_of_not_ascii {c : Char} (h : 0x7F < c.toNat) {b : UInt8}
    (hb : b ∈ String.utf8EncodeChar c) : 0x80 ≤ b.toNat := by
  have hcv : c.val.toNat = c.toNat := rfl
  unfold String.utf8EncodeChar at hb
  simp only [hcv] at hb
  rw [if_neg (by omega)] at hb
  have hbyte (n : Nat) : (UInt8.ofNat n).toNat = n % 256 := rfl
  split at hb
  · simp only [List.mem_cons, List.not_mem_nil, or_false] at hb
    rcases hb with rfl | rfl <;> rw [hbyte] <;> omega
  · split at hb
    · simp only [List.mem_cons, List.not_mem_nil, or_false] at hb
      rcases hb with rfl | rfl | rfl <;> rw [hbyte] <;> omega
    · simp only [List.mem_cons, List.not_mem_nil, or_false] at hb
      rcases hb with rfl | rfl | rfl | rfl <;> rw [hbyte] <;> omega

/-! ## One character -/

theorem toNat_lt (c : Char) : c.toNat < 0xD800 ∨ 0xDFFF < c.toNat ∧ c.toNat < 0x110000 :=
  c.valid

/-- The bytes of a character are one piece in front of any others. -/
theorem piece_utf8EncodeChar (c : Char) (rest : List UInt8) :
    ∃ first more, String.utf8EncodeChar c = first :: more ∧
      piece first (more ++ rest) = .scalar c more.length := by
  have hvalid := toNat_lt c
  have hval : c.val.toNat = c.toNat := rfl
  have hchar : Char.ofNat c.toNat = c := Char.ofNat_toNat c
  unfold String.utf8EncodeChar
  simp only [hval]
  generalize c.toNat = n at hvalid hchar
  have hmod : ∀ {m : Nat}, m < 64 → (UInt8.ofNat (m + 128)).toNat % 64 = m := by
    intro m hm
    rw [toNat_byte (by omega)]
    omega
  split
  · rename_i h
    refine ⟨_, [], rfl, ?_⟩
    have hbyte : (UInt8.ofNat n).toNat = n := toNat_byte (by omega)
    unfold piece
    rw [if_pos (UInt8.lt_iff_toNat_lt.2 (by rw [hbyte]; show n < 128; omega)), hbyte, hchar]
    rfl
  · split
    · rename_i h
      refine ⟨_, [_], rfl, ?_⟩
      have hbyte : (UInt8.ofNat (n / 64 % 32 + 192)).toNat = n / 64 % 32 + 192 :=
        toNat_byte (by omega)
      have htail : isTail (UInt8.ofNat (n % 64 + 128)) = true := isTail_ofNat (by omega)
      have hlow : (UInt8.ofNat (n % 64 + 128)).toNat % 64 = n % 64 := hmod (by omega)
      have hn : (n / 64 % 32 + 192) % 32 * 64 + n % 64 = n := by omega
      simp only [piece, UInt8.lt_iff_toNat_lt, UInt8.le_iff_toNat_le, hbyte, UInt8.reduceToNat,
        List.cons_append, htail, if_true, hlow, hn, hchar, Bool.and_eq_true, decide_eq_true_eq]
      rw [if_neg (by omega), if_pos (by omega)]
      rfl
    · split
      · rename_i h
        refine ⟨_, [_, _], rfl, ?_⟩
        have hbyte : (UInt8.ofNat (n / 4096 % 16 + 224)).toNat = n / 4096 % 16 + 224 :=
          toNat_byte (by omega)
        have hsecond : isSecond (UInt8.ofNat (n / 4096 % 16 + 224))
            (UInt8.ofNat (n / 64 % 64 + 128)) = true :=
          isSecond_ofNat (by omega) (by omega) (by omega) (by omega) (by omega) (by omega)
        have htail : isTail (UInt8.ofNat (n % 64 + 128)) = true := isTail_ofNat (by omega)
        have hlow : (UInt8.ofNat (n / 64 % 64 + 128)).toNat % 64 = n / 64 % 64 :=
          hmod (by omega)
        have hlow' : (UInt8.ofNat (n % 64 + 128)).toNat % 64 = n % 64 := hmod (by omega)
        have hn : (n / 4096 % 16 + 224) % 16 * 4096 + n / 64 % 64 * 64 + n % 64 = n := by omega
        simp only [piece, UInt8.lt_iff_toNat_lt, UInt8.le_iff_toNat_le, hbyte,
          UInt8.reduceToNat, List.cons_append, hsecond, htail, if_true, hlow, hlow', hn, hchar,
          Bool.and_eq_true, decide_eq_true_eq]
        rw [if_neg (by omega), if_neg (by omega), if_pos (by omega)]
        rfl
      · rename_i h1 h2 h
        refine ⟨_, [_, _, _], rfl, ?_⟩
        have hbyte : (UInt8.ofNat (n / 262144 % 8 + 240)).toNat = n / 262144 % 8 + 240 :=
          toNat_byte (by omega)
        have hsecond : isSecond (UInt8.ofNat (n / 262144 % 8 + 240))
            (UInt8.ofNat (n / 4096 % 64 + 128)) = true :=
          isSecond_ofNat (by omega) (by omega) (by omega) (by omega) (by omega) (by omega)
        have htail : isTail (UInt8.ofNat (n / 64 % 64 + 128)) = true := isTail_ofNat (by omega)
        have htail' : isTail (UInt8.ofNat (n % 64 + 128)) = true := isTail_ofNat (by omega)
        have hlow : (UInt8.ofNat (n / 4096 % 64 + 128)).toNat % 64 = n / 4096 % 64 :=
          hmod (by omega)
        have hlow' : (UInt8.ofNat (n / 64 % 64 + 128)).toNat % 64 = n / 64 % 64 :=
          hmod (by omega)
        have hlow'' : (UInt8.ofNat (n % 64 + 128)).toNat % 64 = n % 64 := hmod (by omega)
        have hn : (n / 262144 % 8 + 240) % 8 * 262144 + n / 4096 % 64 * 4096 +
            n / 64 % 64 * 64 + n % 64 = n := by omega
        simp only [piece, UInt8.lt_iff_toNat_lt, UInt8.le_iff_toNat_le, hbyte,
          UInt8.reduceToNat, List.cons_append, hsecond, htail, htail', if_true, hlow, hlow',
          hlow'', hn, hchar, Bool.and_eq_true, decide_eq_true_eq]
        rw [if_neg (by omega), if_neg (by omega), if_neg (by omega), if_pos (by omega)]
        rfl

/-! ## Texts -/

theorem encodeChars_cons_piece (c : Char) (cs : List Char) :
    ∃ first more, encodeChars (c :: cs) = first :: (more ++ encodeChars cs) ∧
      piece first (more ++ encodeChars cs) = .scalar c more.length := by
  obtain ⟨first, more, hbytes, hpiece⟩ := piece_utf8EncodeChar c (encodeChars cs)
  refine ⟨first, more, ?_, hpiece⟩
  unfold encodeChars
  rw [List.flatMap_cons, hbytes]
  rfl

theorem decodeChars?_encodeChars (cs : List Char) : decodeChars? (encodeChars cs) = some cs := by
  induction cs with
  | nil =>
    unfold encodeChars decodeChars?
    rfl
  | cons c cs ih =>
    obtain ⟨first, more, hcons, hpiece⟩ := encodeChars_cons_piece c cs
    rw [hcons, decodeChars?, hpiece]
    simp only [List.drop_left]
    rw [ih]
    rfl

theorem decode?_encode (s : String) : decode? (encode s) = some s := by
  unfold decode? encode
  rw [decodeChars?_encodeChars, Option.map_some, String.ofList_toList]

theorem decodeCharsLossy_encodeChars (cs : List Char) :
    decodeCharsLossy (encodeChars cs) = cs := by
  induction cs with
  | nil =>
    unfold encodeChars decodeCharsLossy
    rfl
  | cons c cs ih =>
    obtain ⟨first, more, hcons, hpiece⟩ := encodeChars_cons_piece c cs
    rw [hcons, decodeCharsLossy, hpiece]
    simp only [List.drop_left]
    rw [ih]

theorem decodeLossy_encode (s : String) : decodeLossy (encode s) = s := by
  unfold decodeLossy encode
  rw [decodeCharsLossy_encodeChars, String.ofList_toList]

theorem encodeChars_append (cs ds : List Char) :
    encodeChars (cs ++ ds) = encodeChars cs ++ encodeChars ds :=
  List.flatMap_append

theorem encodeChars_cons_of_ascii {c : Char} (h : c.toNat ≤ 0x7F) (cs : List Char) :
    encodeChars (c :: cs) = c.toNat.toUInt8 :: encodeChars cs := by
  unfold encodeChars
  rw [List.flatMap_cons, utf8EncodeChar_of_ascii h]
  rfl

/-- Characters of ASCII are one byte each. -/
theorem encodeChars_of_ascii {cs : List Char} (h : ∀ c ∈ cs, c.toNat ≤ 0x7F) :
    encodeChars cs = cs.map fun c => c.toNat.toUInt8 := by
  induction cs with
  | nil => rfl
  | cons c cs ih =>
    rw [List.forall_mem_cons] at h
    rw [encodeChars_cons_of_ascii h.1, ih h.2, List.map_cons]

theorem length_encodeChars_of_ascii {cs : List Char} (h : ∀ c ∈ cs, c.toNat ≤ 0x7F) :
    (encodeChars cs).length = cs.length := by
  rw [encodeChars_of_ascii h, List.length_map]

/-! ## ASCII bytes at the end -/

/-- How many bytes a piece takes after its first. -/
def Piece.extra : Piece → Nat
  | .scalar _ n => n
  | .illFormed n => n

theorem decodeCharsLossy_cons (b : UInt8) (rest : List UInt8) :
    ∃ c, decodeCharsLossy (b :: rest) =
      c :: decodeCharsLossy (rest.drop (piece b rest).extra) := by
  rw [decodeCharsLossy]
  cases piece b rest with
  | scalar c n => exact ⟨c, rfl⟩
  | illFormed n => exact ⟨'\uFFFD', rfl⟩

/-- An ASCII byte continues no piece. -/
theorem extra_piece_le {b : UInt8} (h : b < 0x80) (first : UInt8) (rest : List UInt8) :
    (piece first (rest ++ [b])).extra ≤ rest.length := by
  have htail : isTail b = false := by
    rw [isTail, Bool.and_eq_false_iff, decide_eq_false_iff_not]
    exact .inl (UInt8.not_le.2 h)
  have hsecond : isSecond first b = false := by
    have hle {n : UInt8} (hn : 0x80 ≤ n) : decide (n ≤ b) = false :=
      decide_eq_false (UInt8.not_le.2 (UInt8.lt_of_lt_of_le h hn))
    unfold isSecond
    rw [htail, hle (by decide), hle (by decide), hle (by decide)]
    simp
  unfold piece
  match rest with
  | [] =>
    simp only [List.nil_append, htail, hsecond, Bool.false_eq_true, if_false]
    split_ifs <;> exact Nat.le_refl 0
  | [c] =>
    simp only [List.cons_append, List.nil_append, htail, Bool.false_eq_true, if_false]
    split_ifs <;> simp [Piece.extra]
  | [c, d] =>
    simp only [List.cons_append, List.nil_append, htail, Bool.false_eq_true, if_false]
    split_ifs <;> simp [Piece.extra]
  | c :: d :: e :: rest =>
    simp only [List.cons_append]
    split_ifs <;> simp [Piece.extra]

/-- An ASCII byte at the end is read as the last character. -/
theorem decodeCharsLossy_concat {b : UInt8} (h : b < 0x80) (bs : List UInt8) :
    ∃ cs, decodeCharsLossy (bs ++ [b]) = cs ++ [Char.ofNat b.toNat] := by
  induction hn : bs.length using Nat.strongRecOn generalizing bs with
  | ind n ih =>
    cases bs with
    | nil =>
      refine ⟨[], ?_⟩
      rw [List.nil_append, decodeCharsLossy, piece]
      simp only [h, if_true]
      rw [List.drop_nil, decodeCharsLossy]
      rfl
    | cons first rest =>
      obtain ⟨c, hc⟩ := decodeCharsLossy_cons first (rest ++ [b])
      have hle := extra_piece_le h first rest
      rw [List.drop_append_of_le_length hle] at hc
      have hlt : (rest.drop (piece first (rest ++ [b])).extra).length < n := by
        rw [← hn, List.length_drop, List.length_cons]
        omega
      obtain ⟨cs, hcs⟩ := ih _ hlt _ rfl
      exact ⟨c :: cs, by rw [List.cons_append, hc, hcs]; rfl⟩

/-! ## The order of texts -/

/-- Of two characters the greater has the greater bytes, whatever follows them. -/
theorem utf8EncodeChar_append_lt {c d : Char} (h : c < d) (rest rest' : List UInt8) :
    String.utf8EncodeChar c ++ rest < String.utf8EncodeChar d ++ rest' := by
  have hval : c.val.toNat = c.toNat := rfl
  have hval' : d.val.toNat = d.toNat := rfl
  have hlt : c.toNat < d.toNat := UInt32.lt_iff_toNat_lt.1 (Char.lt_def.1 h)
  have hlimit : d.toNat < 0x110000 := by
    have := toNat_lt d
    omega
  have hbyte {n : Nat} (hn : n < 256) : (UInt8.ofNat n).toNat = n := toNat_byte hn
  unfold String.utf8EncodeChar
  simp only [hval, hval']
  generalize c.toNat = m at hlt
  generalize d.toNat = n at hlt hlimit
  clear hval hval' h
  -- Digits of six bits, from the last to the first.
  have hsecond (k : Nat) : k / 4096 = k / 64 / 64 := by omega
  have hthird (k : Nat) : k / 262144 = k / 64 / 64 / 64 := by omega
  -- More bytes begin with a greater one, and as many bytes are the digits of the scalar value.
  split_ifs
  all_goals
    simp only [List.cons_append, List.nil_append, List.cons_lt_cons_iff, UInt8.lt_iff_toNat_lt,
      ← UInt8.toNat_inj, hsecond, hthird]
    simp (disch := omega) only [hbyte]
    omega

/-- Texts are in the order of their bytes. -/
theorem encodeChars_lt {cs ds : List Char} (h : cs < ds) : encodeChars cs < encodeChars ds := by
  induction cs generalizing ds with
  | nil =>
    cases ds with
    | nil => exact absurd h (List.lt_irrefl [])
    | cons d ds =>
      obtain ⟨first, more, hbytes, -⟩ := piece_utf8EncodeChar d []
      show [] < String.utf8EncodeChar d ++ encodeChars ds
      rw [hbytes]
      exact List.nil_lt_cons _ _
  | cons c cs ih =>
    cases ds with
    | nil => exact absurd h (List.not_lt_nil _)
    | cons d ds =>
      show String.utf8EncodeChar c ++ encodeChars cs < String.utf8EncodeChar d ++ encodeChars ds
      rcases List.cons_lt_cons_iff.1 h with hlt | ⟨rfl, hlt⟩
      · exact utf8EncodeChar_append_lt hlt _ _
      · exact List.append_left_lt (ih hlt)

theorem encode_le_encode {a b : String} (h : a ≤ b) : encode a ≤ encode b := by
  by_cases hba : b ≤ a
  · rw [String.le_antisymm h hba]
    exact List.le_refl _
  · exact List.le_of_lt (encodeChars_lt (String.lt_iff.1 (String.not_le.1 hba)))

end OpenIdProvider.Utf8
