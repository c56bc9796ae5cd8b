/-
  Texts of variables. A flag is one of six words, in letters of either case; a number is written in
  decimal digits, perhaps after a plus sign, and has 64 bits. What is read from a text is the flag
  or the number that it stands for, and nothing is read from any other text.
-/
import Mathlib.Data.Nat.Digits.Defs
import Mathlib.Tactic.Ring
import OpenIdProvider.Config.Overrides
import OpenIdProvider.Proofs.Text.Ascii

namespace OpenIdProvider.Config

/-! ## Flags -/

/-- A text has the characters of a word, each as it is or as a capital. -/
def SpelledAs (word text : String) : Prop :=
  List.Forall₂ (fun c d => d = c ∨ d = c.toUpper) word.toList text.toList

/-- The words for yes and those for no, in letters of either case. -/
inductive IsFlagText : Bool → String → Prop
  | yes {word text : String} (mem : word ∈ ["1", "true", "yes"]) (spelled : SpelledAs word text) :
      IsFlagText true text
  | no {word text : String} (mem : word ∈ ["0", "false", "no"]) (spelled : SpelledAs word text) :
      IsFlagText false text

theorem lower_eq_iff {word text : String} (h : word.toList.all fun c => !Ascii.isUpper c) :
    Ascii.lower text = word ↔ SpelledAs word text := by
  unfold Ascii.lower SpelledAs
  rw [← String.toList_inj, String.toList_ofList]
  generalize word.toList = cs at h ⊢
  generalize text.toList = ds
  induction cs generalizing ds with
  | nil =>
    cases ds with
    | nil => exact iff_of_true rfl .nil
    | cons d ds => exact iff_of_false nofun nofun
  | cons c cs ih =>
    cases ds with
    | nil => exact iff_of_false nofun nofun
    | cons d ds =>
      rw [List.all_cons, Bool.and_eq_true, Bool.not_eq_true'] at h
      rw [List.map_cons, List.cons.injEq, List.forall₂_cons, Ascii.toLower_eq_iff h.1, ih h.2]

/-- A flag is read from the texts that stand for it. -/
theorem flagOfText?_eq_some_iff {text : String} {b : Bool} :
    flagOfText? text = some b ↔ IsFlagText b text := by
  have hyes : ∀ word ∈ ["1", "true", "yes"], Ascii.lower text = word ↔ SpelledAs word text := by
    simp only [List.forall_mem_cons]
    exact ⟨lower_eq_iff (by decide), lower_eq_iff (by decide), lower_eq_iff (by decide), nofun⟩
  have hno : ∀ word ∈ ["0", "false", "no"], Ascii.lower text = word ↔ SpelledAs word text := by
    simp only [List.forall_mem_cons]
    exact ⟨lower_eq_iff (by decide), lower_eq_iff (by decide), lower_eq_iff (by decide), nofun⟩
  have hapart : ∀ word ∈ ["0", "false", "no"], word ∉ ["1", "true", "yes"] := by decide
  unfold flagOfText?
  simp only [List.contains_iff_mem]
  constructor
  · intro hread
    split at hread
    · rename_i hmem
      cases hread
      exact .yes hmem ((hyes _ hmem).1 rfl)
    · split at hread
      · rename_i hmem
        cases hread
        exact .no hmem ((hno _ hmem).1 rfl)
      · cases hread
  · rintro (⟨hmem, hspelled⟩ | ⟨hmem, hspelled⟩)
    · rw [(hyes _ hmem).2 hspelled, if_pos hmem]
    · rw [(hno _ hmem).2 hspelled, if_neg (hapart _ hmem), if_pos hmem]

/-! ## Numbers -/

/-- Decimal digits of a number, the most significant first. Zeros may stand in front. -/
def IsDecimal (cs : List Char) (n : Nat) : Prop :=
  ∃ ds : List (Fin 10), ds ≠ [] ∧ cs = ds.map (fun d => d.val.digitChar) ∧
    n = Nat.ofDigits 10 (ds.map Fin.val).reverse

/-- A number of 64 bits in decimal digits, perhaps after a plus sign. -/
def IsNat64Text (n : Nat) (text : String) : Prop :=
  n < 2 ^ 64 ∧
    ∃ sign ∈ [[], ['+']], ∃ digits, text.toList = sign ++ digits ∧ IsDecimal digits n

/-- Takes a decimal digit behind a number. -/
def appendDigit (n : Nat) (c : Char) : Option Nat :=
  match Ascii.hexDigit? c with
  | some d => if d < 10 then some (n * 10 + d) else none
  | none => none

theorem appendDigit_eq_some_iff {n m : Nat} {c : Char} :
    appendDigit n c = some m ↔ ∃ d : Fin 10, c = d.val.digitChar ∧ m = n * 10 + d := by
  unfold appendDigit
  constructor
  · intro h
    split at h
    · rename_i d hd
      split at h
      · rename_i hlt
        cases h
        exact ⟨⟨d, hlt⟩, (Ascii.hexDigit?_eq_some_iff_of_lt hlt).1 hd, rfl⟩
      · cases h
    · cases h
  · rintro ⟨d, hc, rfl⟩
    simp only [(Ascii.hexDigit?_eq_some_iff_of_lt d.isLt).2 hc, d.isLt, if_true]

/-- Digits are taken behind a number one after the other. -/
theorem foldlM_appendDigit_eq_some_iff {cs : List Char} {n m : Nat} :
    cs.foldlM appendDigit n = some m ↔ ∃ ds : List (Fin 10),
      cs = ds.map (fun d => d.val.digitChar) ∧
        m = n * 10 ^ ds.length + Nat.ofDigits 10 (ds.map Fin.val).reverse := by
  induction cs generalizing n with
  | nil =>
    constructor
    · rintro ⟨⟩
      exact ⟨[], rfl, by simp⟩
    · rintro ⟨ds, hds, rfl⟩
      rw [List.map_eq_nil_iff.1 hds.symm]
      simp
  | cons c cs ih =>
    rw [List.foldlM_cons, Option.bind_eq_bind, Option.bind_eq_some_iff]
    simp only [appendDigit_eq_some_iff, ih]
    constructor
    · rintro ⟨_, ⟨d, rfl, rfl⟩, ds, rfl, rfl⟩
      refine ⟨d :: ds, rfl, ?_⟩
      rw [List.map_cons, Nat.ofDigits_reverse_cons, List.length_map, List.length_cons, pow_succ]
      ring
    · rintro ⟨ds, hds, rfl⟩
      cases ds with
      | nil => cases hds
      | cons d ds =>
        cases hds
        refine ⟨_, ⟨d, rfl, rfl⟩, ds, rfl, ?_⟩
        rw [List.map_cons, Nat.ofDigits_reverse_cons, List.length_map, List.length_cons, pow_succ]
        ring

theorem readNat?_ten_eq_some_iff {cs : List Char} {n : Nat} :
    Ascii.readNat? 10 cs = some n ↔ IsDecimal cs n := by
  cases cs with
  | nil =>
    constructor
    · nofun
    · rintro ⟨ds, hne, hds, -⟩
      exact absurd (List.map_eq_nil_iff.1 hds.symm) hne
  | cons c cs =>
    show (c :: cs).foldlM appendDigit 0 = some n ↔ _
    rw [foldlM_appendDigit_eq_some_iff]
    simp only [Nat.zero_mul, Nat.zero_add]
    constructor
    · rintro ⟨ds, hds, hn⟩
      refine ⟨ds, ?_, hds, hn⟩
      rintro rfl
      cases hds
    · rintro ⟨ds, -, hds, hn⟩
      exact ⟨ds, hds, hn⟩

/-- A number is read from the texts that stand for it. -/
theorem nat64OfText?_eq_some_iff {text : String} {n : Nat} :
    nat64OfText? text = some n ↔ IsNat64Text n text := by
  have hbound {digits : List Char} :
      ((Ascii.readNat? 10 digits).bind fun n =>
        if n < 0x10000000000000000 then some n else none) = some n ↔
          n < 2 ^ 64 ∧ IsDecimal digits n := by
    rw [Option.bind_eq_some_iff]
    constructor
    · rintro ⟨m, hm, hlt⟩
      split at hlt
      · rename_i hbound
        cases hlt
        exact ⟨hbound, readNat?_ten_eq_some_iff.1 hm⟩
      · cases hlt
    · rintro ⟨hlt, hdecimal⟩
      exact ⟨n, readNat?_ten_eq_some_iff.2 hdecimal, if_pos hlt⟩
  have hplus : ∀ d : Fin 10, '+' ≠ d.val.digitChar := by decide
  unfold nat64OfText? IsNat64Text
  rw [hbound]
  refine and_congr_right fun _ => ?_
  constructor
  · intro hdecimal
    split at hdecimal
    · rename_i digits htext
      exact ⟨['+'], by simp, digits, htext, hdecimal⟩
    · exact ⟨[], by simp, _, rfl, hdecimal⟩
  · rintro ⟨sign, hsign, digits, htext, hdecimal⟩
    rw [htext]
    simp only [List.mem_cons, List.not_mem_nil, or_false] at hsign
    rcases hsign with rfl | rfl
    · obtain ⟨ds, hne, rfl, hn⟩ := hdecimal
      cases ds with
      | nil => exact absurd rfl hne
      | cons d ds =>
        split
        · rename_i hd
          exact absurd (List.cons.inj hd).1.symm (hplus d)
        · exact ⟨_, hne, rfl, hn⟩
    · exact hdecimal

end OpenIdProvider.Config
