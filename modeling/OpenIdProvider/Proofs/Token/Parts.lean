/-
  The parts of a token read back. The header of a provider names its algorithm, and the claims of
  a token are read as they were written, where the registered ones among them are texts and
  numbers.
-/
import OpenIdProvider.Proofs.Json.Record
import OpenIdProvider.Token.Claims
import OpenIdProvider.Token.Header

namespace OpenIdProvider.Token

open Json Json.Reader
open Utf8 (encodeChars)

/-! ## The header -/

namespace Header

theorem variant_chars {names : List String} {s : String} (h : names.contains s = true)
    (levels : Nat) (rest : List UInt8) :
    variant levels names (encodeChars (stringChars s) ++ rest) = .ok (.string s, rest) := by
  have hread := string_chars s rest
  rw [encodeChars_stringChars, List.cons_append, List.append_assoc, List.singleton_append]
  show ((string (encodeChars (s.toList.flatMap escapeChar) ++ 0x22 :: rest)).bind
    fun read => if names.contains read.1 then .ok (Json.string read.1, read.2)
      else failHere (.unknownVariant read.1 names) read.2) = _
  rw [hread]
  exact if_pos h

/-- The header of a provider names the algorithm of the provider. -/
theorem parse_own (keyId : String) :
    parse (encodeChars (own keyId).chars) = .ok ownAlgorithm := by
  have htext (name value : String) (i : Nat) (hplace : shape.place? name = some i)
      (hfield : shape.fields[i]? = some (textField name)) :
      shape.Reads (depthLimit - 1) (name, .string value) :=
    Shape.reads_optional_text hplace hfield rfl value
  have halgorithm : shape.Reads (depthLimit - 1) ("alg", .string ownAlgorithm) :=
    Shape.reads_of_place (i := 1) (by decide) rfl fun rest _ =>
      variant_chars (by decide) (depthLimit - 1) rest
  have hreads : ∀ m ∈ [("typ", Json.string "JWT"), ("alg", .string ownAlgorithm),
      ("kid", .string keyId)], shape.Reads (depthLimit - 1) m := by
    intro m hm
    simp only [List.mem_cons, List.not_mem_nil, or_false] at hm
    rcases hm with rfl | rfl | rfl
    · exact htext "typ" "JWT" 0 (by decide) rfl
    · exact halgorithm
    · exact htext "kid" keyId 5 (by decide) rfl
  have hslots : shape.fill shape.empty [("typ", Json.string "JWT"),
      ("alg", .string ownAlgorithm), ("kid", .string keyId)] =
      [some (.string "JWT"), some (.string ownAlgorithm), none, none, none, some (.string keyId),
        none, none, none, none] := rfl
  have hnames : ([("typ", Json.string "JWT"), ("alg", .string ownAlgorithm),
      ("kid", .string keyId)].map Prod.fst).Nodup := by
    show ["typ", "alg", "kid"].Nodup
    decide
  unfold parse own
  rw [Shape.parse_object hnames hreads (by rw [hslots]; rfl), hslots]
  rfl

end Header

/-! ## The claims -/

namespace Claims

/-- Claims that are read back: of those that are looked at a second time, the instants and the
subject are neither lists nor objects. -/
structure Legible (claims : Members) : Prop where
  readable : Json.Readable depthLimit (.object claims)
  scalar : ∀ m ∈ claims, m.1 = "exp" ∨ m.1 = "nbf" ∨ m.1 = "sub" → Json.Readable 0 m.2

/-- The text of a value that is neither a list nor an object does not begin with a bracket. -/
theorem exists_opening_scalar {v : Json} (h : Json.Readable 0 v) :
    ∃ b more, encodeChars v.chars = b :: more ∧ isSpace b = false ∧ b ≠ 0x5B ∧ b ≠ 0x7B := by
  cases v with
  | null => exact ⟨_, _, rfl, by decide⟩
  | bool b => cases b <;> exact ⟨_, _, rfl, by decide⟩
  | string s => exact ⟨_, _, encodeChars_stringChars s, by decide⟩
  | number n =>
    cases n with
    | float x => exact absurd h id
    | int i =>
      show ∃ b more, encodeChars (intChars i) = b :: more ∧ _
      by_cases hi : i < 0
      · exact ⟨_, _, encodeChars_intChars_neg hi, by decide⟩
      · have hall : ∀ m < 10, isSpace (digitByte m) = false ∧ digitByte m ≠ 0x5B ∧
            digitByte m ≠ 0x7B := by decide
        obtain ⟨d, more, hd, heq⟩ := exists_digitByte_cons i.natAbs
        exact ⟨_, _, by rw [encodeChars_intChars_nonneg hi, heq], hall d hd⟩
  | array items => exact absurd h id
  | object ms => exact absurd h id

theorem instant_chars {v : Json} (h : Json.Readable 0 v) {rest : List UInt8}
    (hrest : EndsNumber rest) : instant (encodeChars v.chars ++ rest) = .ok (v, rest) := by
  have hvalue := value_chars h hrest
  obtain ⟨b, more, hopen, hspace, hbracket, hbrace⟩ := exists_opening_scalar h
  rw [hopen, List.cons_append] at hvalue ⊢
  unfold instant
  rw [skipSpace_cons hspace]
  split <;> simp_all

theorem subject_chars {v : Json} (h : Json.Readable 0 v) {rest : List UInt8}
    (hrest : EndsNumber rest) : subject (encodeChars v.chars ++ rest) = .ok (v, rest) := by
  have hvalue := value_chars h hrest
  obtain ⟨b, more, hopen, hspace, hbracket, hbrace⟩ := exists_opening_scalar h
  rw [hopen, List.cons_append] at hvalue ⊢
  unfold subject
  rw [skipSpace_cons hspace]
  split <;> simp_all

/-- Legible claims are read back from their text. -/
theorem parse_chars {claims : Members} (h : Legible claims) :
    parse (encodeChars (Json.object claims).chars) = .ok (.object claims) := by
  obtain ⟨hsorted, hvalues⟩ := h.readable
  have hreads : ∀ m ∈ claims, shape.Reads (depthLimit - 1) m := by
    intro m hm
    refine Shape.reads_of_fields ?_ (hvalues m hm)
    intro f hf hname rest hrest
    simp only [shape, List.mem_cons, List.not_mem_nil, or_false] at hf
    rcases hf with rfl | rfl | rfl | rfl | rfl
    · exact instant_chars (h.scalar m hm (.inl hname.symm)) hrest
    · exact instant_chars (h.scalar m hm (.inr (.inl hname.symm))) hrest
    · exact subject_chars (h.scalar m hm (.inr (.inr hname.symm))) hrest
    · exact value_chars (hvalues m hm) hrest
    · exact value_chars (hvalues m hm) hrest
  have hshape := Shape.parse_object (Members.nodup_names hsorted) hreads
    (Shape.missing?_of_optional (by decide) _)
  unfold parse
  rw [Json.parse_chars h.readable, Except.bind, hshape]
  rfl

end Claims

end OpenIdProvider.Token
