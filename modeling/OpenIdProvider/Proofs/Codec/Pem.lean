/-
  The textual form of keys read back. The symbols of some bytes are broken into lines, and reading
  joins the lines again; a text is read under the label that it was written with and under no label
  that begins otherwise.
-/
import OpenIdProvider.Codec.Pem
import OpenIdProvider.Proofs.Codec.Base64
import OpenIdProvider.Proofs.Text.Split

namespace OpenIdProvider.Pem

open Split (dropPrefix?_append dropSuffix?_append)
open Utf8 (encodeChars encodeChars_append encodeChars_of_ascii length_encodeChars_of_ascii)

/-! ## Line breaks -/

theorem dropLastBreak?_lineFeed {bs : List UInt8} (h : bs.getLast? ≠ some 0x0D) :
    dropLastBreak? (bs ++ [0x0A]) = some bs := by
  unfold dropLastBreak?
  rw [List.reverse_concat]
  rw [← List.head?_reverse] at h
  cases hreverse : bs.reverse with
  | nil =>
    rw [List.reverse_eq_nil_iff.1 hreverse]
    rfl
  | cons b before =>
    have hbs : bs = (b :: before).reverse := by rw [← hreverse, List.reverse_reverse]
    have hb : b ≠ 0x0D := by
      rintro rfl
      rw [hreverse] at h
      exact h rfl
    split
    · rename_i heq
      cases heq
      exact absurd rfl hb
    · rename_i heq
      cases heq
    · rename_i heq
      cases heq
      rw [hbs]
    · rename_i hnone
      exact absurd rfl (hnone _)

/-! ## Lines -/

/-- A text breaks symbols into lines: all lines have the full width but the last one, which is not
longer and has at least one symbol. -/
inductive Wrapped : List UInt8 → List UInt8 → Prop
  | last {line : List UInt8} (hne : line ≠ []) (hwidth : line.length ≤ width) : Wrapped line line
  | more {line text symbols : List UInt8} (hwidth : line.length = width)
      (h : Wrapped text symbols) : Wrapped (line ++ 0x0A :: text) (line ++ symbols)

theorem Wrapped.ne_nil {text symbols : List UInt8} (h : Wrapped text symbols) : symbols ≠ [] := by
  induction h with
  | last hne _ => exact hne
  | more _ _ ih => exact List.append_ne_nil_of_right_ne_nil _ ih

/-- A text ends with the last symbol. -/
theorem Wrapped.getLast?_eq {text symbols : List UInt8} (h : Wrapped text symbols) :
    text.getLast? = symbols.getLast? := by
  induction h with
  | last _ _ => rfl
  | more _ h ih =>
    have hlast := List.getLast?_eq_some_getLast h.ne_nil
    rw [List.getLast?_append, List.getLast?_append, List.getLast?_cons, ih, hlast]
    rfl

/-- Reading joins the lines. -/
theorem joinLines?_of_wrapped {text symbols : List UInt8} (h : Wrapped text symbols) {fuel : Nat}
    (hfuel : text.length < fuel) : joinLines? fuel text = some symbols := by
  induction h generalizing fuel with
  | last _ hwidth =>
    obtain ⟨fuel, rfl⟩ : ∃ k, fuel = k + 1 := ⟨fuel - 1, by omega⟩
    rw [joinLines?, List.drop_of_length_le hwidth]
  | @more line text symbols hwidth _ ih =>
    obtain ⟨fuel, rfl⟩ : ∃ k, fuel = k + 1 := ⟨fuel - 1, by omega⟩
    rw [List.length_append, List.length_cons] at hfuel
    rw [joinLines?, List.drop_left' hwidth, List.take_left' hwidth]
    show (joinLines? fuel text).bind _ = _
    rw [ih (by omega)]
    rfl

theorem lines_nil (fuel : Nat) : lines fuel [] = [] := by
  cases fuel <;> rfl

/-- Symbols of ASCII are written as a text that breaks them into lines, with a last line feed. -/
theorem wrapped_lines {symbols : List Char} (hascii : ∀ c ∈ symbols, c.toNat ≤ 0x7F)
    (hne : symbols ≠ []) {fuel : Nat} (hfuel : symbols.length ≤ fuel) :
    ∃ text, encodeChars ((lines fuel symbols).flatMap fun line => line ++ ['\n']) =
      text ++ [0x0A] ∧ Wrapped text (encodeChars symbols) := by
  have hpos := List.length_pos_iff.2 hne
  have hlength := length_encodeChars_of_ascii hascii
  induction fuel generalizing symbols with
  | zero => omega
  | succ fuel ih =>
    rw [lines, if_neg (by simpa using hne), List.flatMap_cons, encodeChars_append,
      encodeChars_append]
    by_cases hshort : symbols.length ≤ width
    · refine ⟨encodeChars symbols, ?_, .last (List.length_pos_iff.1 ?_) ?_⟩
      · rw [List.take_of_length_le hshort, List.drop_of_length_le hshort, lines_nil]
        exact List.append_nil _
      · omega
      · omega
    · have hline : ∀ c ∈ symbols.take width, c.toNat ≤ 0x7F :=
        fun c hc => hascii c (List.mem_of_mem_take hc)
      have hrest : ∀ c ∈ symbols.drop width, c.toNat ≤ 0x7F :=
        fun c hc => hascii c (List.mem_of_mem_drop hc)
      have hwidth : 0 < width := by decide
      have hdrop : (symbols.drop width).length = symbols.length - width := List.length_drop
      obtain ⟨text, htext, hwrapped⟩ := ih hrest (List.length_pos_iff.1 (by omega)) (by omega)
        (by omega) (length_encodeChars_of_ascii hrest)
      have hsplit : encodeChars symbols =
          encodeChars (symbols.take width) ++ encodeChars (symbols.drop width) := by
        rw [← encodeChars_append, List.take_append_drop]
      refine ⟨encodeChars (symbols.take width) ++ 0x0A :: text, ?_, ?_⟩
      · rw [htext, List.append_assoc, List.append_assoc]
        rfl
      · rw [hsplit]
        refine .more ?_ hwrapped
        rw [length_encodeChars_of_ascii hline, List.length_take]
        omega

/-! ## Texts -/

/-- The bytes of a text with a label. -/
theorem utf8_encode (label : String) (bytes : List UInt8) :
    Utf8.encode (encode label bytes) =
      opening ++ (Utf8.encode label ++ dashes ++ 0x0A ::
        (encodeChars ((lines (Base64.encode .standard .canonical bytes).length
          (Base64.encode .standard .canonical bytes)).flatMap fun line => line ++ ['\n']) ++
        (closing ++ Utf8.encode label ++ dashes ++ [0x0A]))) := by
  have hfirst : "-----\n".toList = "-----".toList ++ ['\n'] := rfl
  have hfeed (cs : List Char) : encodeChars ('\n' :: cs) = 0x0A :: encodeChars cs := rfl
  have hnil : encodeChars [] = [] := rfl
  unfold encode opening closing dashes Utf8.encode
  simp only [String.toList_append, String.toList_ofList, encodeChars_append, hfirst, hfeed, hnil,
    List.append_assoc, List.cons_append, List.nil_append]

/-- What is read under a label is what stands between its two lines. -/
theorem decode?_between (label : String) (body : List UInt8) :
    decode? label (opening ++ (Utf8.encode label ++ dashes ++ 0x0A ::
        (body ++ (closing ++ Utf8.encode label ++ dashes ++ [0x0A])))) =
      (dropLastBreak? body).bind fun body =>
        (joinLines? (body.length + 1) body).bind fun symbols =>
          (Base64.decode .standard .canonical symbols).toOption := by
  have hend : (body ++ (closing ++ Utf8.encode label ++ dashes)).getLast? ≠ some 0x0D := by
    rw [← List.append_assoc, List.getLast?_append]
    exact nofun
  rw [← List.append_assoc body, decode?, dropPrefix?_append]
  show (Split.dropPrefix? _ _).bind _ = _
  rw [dropPrefix?_append]
  show (Split.dropSuffix? _ ((dropLastBreak? _).getD _)).bind _ = _
  rw [dropLastBreak?_lineFeed hend, Option.getD_some, dropSuffix?_append]
  rfl

/-- No symbol is a carriage return. -/
theorem carriageReturn_not_mem (bytes : List UInt8) :
    0x0D ∉ encodeChars (Base64.encode .standard .canonical bytes) := by
  have hvisible (c : Char) (hc : c ∈ Base64.encode .standard .canonical bytes) :=
    Base64.visible_of_mem_encode hc
  rw [encodeChars_of_ascii fun c hc => Nat.le_of_lt (hvisible c hc).2, List.mem_map]
  rintro ⟨c, hc, hbyte⟩
  have hrange := hvisible c hc
  have htoNat := Utf8.toNat_toUInt8 (Nat.le_of_lt hrange.2)
  rw [hbyte] at htoNat
  rw [← htoNat] at hrange
  exact absurd hrange.1 (by decide)

/-- A text is read under its label as the bytes that it was written for. -/
theorem decode?_encode (label : String) {bytes : List UInt8} (h : bytes ≠ []) :
    decode? label (Utf8.encode (encode label bytes)) = some bytes := by
  have hascii : ∀ c ∈ Base64.encode .standard .canonical bytes, c.toNat ≤ 0x7F := fun c hc =>
    Nat.le_of_lt (Base64.visible_of_mem_encode hc).2
  have hne : Base64.encode .standard .canonical bytes ≠ [] := by
    intro hnil
    have hbytes := Base64.encodeChars_encode_ne_nil .standard .canonical h
    rw [hnil] at hbytes
    exact hbytes rfl
  obtain ⟨body, hbody, hwrapped⟩ := wrapped_lines hascii hne (Nat.le_refl _)
  have hend : body.getLast? ≠ some 0x0D := by
    rw [hwrapped.getLast?_eq]
    intro hlast
    exact carriageReturn_not_mem bytes (List.mem_of_getLast? hlast)
  rw [utf8_encode, hbody, decode?_between, dropLastBreak?_lineFeed hend, Option.bind_some,
    joinLines?_of_wrapped hwrapped (Nat.lt_succ_self _), Option.bind_some,
    Base64.decode_encode]
  rfl

/-- A text without lines is not read. -/
theorem decode?_encode_nil (label : String) :
    decode? label (Utf8.encode (encode label [])) = none := by
  rw [utf8_encode]
  exact decode?_between label []

/-- A text is not read under a label that begins otherwise. -/
theorem decode?_encode_of_ne {b b' : UInt8} (h : b ≠ b') {label label' : String}
    {rest rest' : List UInt8} (hlabel : Utf8.encode label = b :: rest)
    (hlabel' : Utf8.encode label' = b' :: rest') (bytes : List UInt8) :
    decode? label (Utf8.encode (encode label' bytes)) = none := by
  rw [utf8_encode, decode?, dropPrefix?_append, hlabel, hlabel']
  show (Split.dropPrefix? _ _).bind _ = _
  rw [List.cons_append, List.cons_append, List.cons_append, Split.dropPrefix?, if_neg h]
  rfl

end OpenIdProvider.Pem
