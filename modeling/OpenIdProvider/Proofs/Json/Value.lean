/-
  Values of JSON read back. `Fits` tells which values can be read from their texts: those of
  integers of 64 bits, strings and words, in arrays and objects that are not nested too deep.
  Reading the text of such a value gives the value with the members of its objects in the order of
  their names, `arranged`, and stops behind it. `Readable` are those whose names are in order, so
  that reading gives the value itself.
-/
import OpenIdProvider.Json.Parser
import OpenIdProvider.Proofs.Json.Members
import OpenIdProvider.Proofs.Json.Scalar

namespace OpenIdProvider.Json

open Utf8 (encodeChars encodeChars_append encodeChars_cons_of_ascii)

mutual

/-- A value as it is read: the members of its objects are put in the order of their names, and of
those of one name the last remains. -/
def arranged : Json → Json
  | .null => .null
  | .bool b => .bool b
  | .number n => .number n
  | .string s => .string s
  | .array items => .array (arrangedItems items)
  | .object ms => .object (Members.ofList (arrangedMembers ms))

def arrangedItems : List Json → List Json
  | [] => []
  | x :: xs => arranged x :: arrangedItems xs

def arrangedMembers : List (String × Json) → List (String × Json)
  | [] => []
  | (name, v) :: ms => (name, arranged v) :: arrangedMembers ms

end

/-- Whether a value can be read from its text when arrays and objects may be nested a number of
levels deep. -/
def Fits : Nat → Json → Prop
  | _, .null => True
  | _, .bool _ => True
  | _, .string _ => True
  | _, .number (.int i) => -0x8000000000000000 ≤ i ∧ i ≤ 0xFFFFFFFFFFFFFFFF
  | _, .number (.float _) => False
  | 0, .array _ => False
  | levels + 1, .array items => ∀ x ∈ items, Fits levels x
  | 0, .object _ => False
  | levels + 1, .object ms => ∀ m ∈ ms, Fits levels m.2

/-- Whether a value is read back from its text when arrays and objects may be nested a number of
levels deep. -/
def Readable : Nat → Json → Prop
  | _, .null => True
  | _, .bool _ => True
  | _, .string _ => True
  | _, .number (.int i) => -0x8000000000000000 ≤ i ∧ i ≤ 0xFFFFFFFFFFFFFFFF
  | _, .number (.float _) => False
  | 0, .array _ => False
  | levels + 1, .array items => ∀ x ∈ items, Readable levels x
  | 0, .object _ => False
  | levels + 1, .object ms => Members.Sorted ms ∧ ∀ m ∈ ms, Readable levels m.2

theorem not_fits_float (levels : Nat) (x : Binary64) : ¬ Fits levels (.number (.float x)) := by
  cases levels <;> exact id

theorem fits_int_iff {levels : Nat} {i : Int} :
    Fits levels (.number (.int i)) ↔ -0x8000000000000000 ≤ i ∧ i ≤ 0xFFFFFFFFFFFFFFFF := by
  cases levels <;> exact Iff.rfl

theorem fits_string (levels : Nat) (s : String) : Fits levels (.string s) := by
  cases levels <;> trivial

theorem arrangedItems_eq_self {xs : List Json} (h : ∀ x ∈ xs, x.arranged = x) :
    arrangedItems xs = xs := by
  induction xs with
  | nil => rfl
  | cons x xs ih =>
    rw [arrangedItems, h x List.mem_cons_self, ih fun y hy => h y (List.mem_cons_of_mem _ hy)]

theorem arrangedMembers_eq_self {ms : List (String × Json)} (h : ∀ m ∈ ms, m.2.arranged = m.2) :
    arrangedMembers ms = ms := by
  induction ms with
  | nil => rfl
  | cons m ms ih =>
    obtain ⟨name, v⟩ := m
    rw [arrangedMembers, h (name, v) List.mem_cons_self,
      ih fun n hn => h n (List.mem_cons_of_mem _ hn)]

theorem not_readable_float (levels : Nat) (x : Binary64) :
    ¬ Readable levels (.number (.float x)) := by
  cases levels <;> exact id

/-- The integers that are read back are those of 64 bits. -/
theorem readable_int_iff {levels : Nat} {i : Int} :
    Readable levels (.number (.int i)) ↔ -0x8000000000000000 ≤ i ∧ i ≤ 0xFFFFFFFFFFFFFFFF := by
  cases levels <;> exact Iff.rfl

theorem readable_string (levels : Nat) (s : String) : Readable levels (.string s) := by
  cases levels <;> trivial

theorem readable_bool (levels : Nat) (b : Bool) : Readable levels (.bool b) := by
  cases levels <;> trivial

/-- What is read back can be read, and its members are in order already. -/
theorem Readable.fits_and_arranged : ∀ {levels : Nat} {v : Json}, Readable levels v →
    Fits levels v ∧ v.arranged = v
  | 0, .null, _ => ⟨trivial, rfl⟩
  | _ + 1, .null, _ => ⟨trivial, rfl⟩
  | 0, .bool _, _ => ⟨trivial, rfl⟩
  | _ + 1, .bool _, _ => ⟨trivial, rfl⟩
  | levels, .string s, _ => ⟨fits_string levels s, rfl⟩
  | _, .number (.int _), h => ⟨fits_int_iff.2 (readable_int_iff.1 h), rfl⟩
  | levels, .number (.float x), h => absurd h (not_readable_float levels x)
  | 0, .array _, h => absurd h id
  | _ + 1, .array _, h =>
    ⟨fun x hx => (h x hx).fits_and_arranged.1,
      congrArg Json.array (arrangedItems_eq_self fun x hx => (h x hx).fits_and_arranged.2)⟩
  | 0, .object _, h => absurd h id
  | _ + 1, .object _, h => by
    have hmembers := arrangedMembers_eq_self fun m hm => (h.2 m hm).fits_and_arranged.2
    refine ⟨fun m hm => (h.2 m hm).fits_and_arranged.1, ?_⟩
    rw [arranged, hmembers, Members.ofList_of_sorted h.1]

/-! ## Texts of arrays and objects -/

/-- What follows an item of an array. -/
def itemsTail : List Json → List Char
  | [] => [']']
  | xs => ',' :: itemsChars xs

/-- What follows a member of an object. -/
def membersTail : List (String × Json) → List Char
  | [] => ['}']
  | ms => ',' :: membersChars ms

theorem itemsChars_cons (x : Json) (xs : List Json) :
    itemsChars (x :: xs) = x.chars ++ itemsTail xs := by
  cases xs <;> rfl

theorem membersChars_cons (name : String) (v : Json) (ms : List (String × Json)) :
    membersChars ((name, v) :: ms) = stringChars name ++ ':' :: (v.chars ++ membersTail ms) := by
  cases ms <;> simp [membersChars, membersTail]

namespace Reader

theorem endsNumber_nil : EndsNumber [] := nofun

theorem endsNumber_itemsTail (xs : List Json) (rest : List UInt8) :
    EndsNumber (encodeChars (itemsTail xs) ++ rest) := by
  cases xs with
  | nil =>
    rintro b h
    cases h
    decide
  | cons x xs =>
    rintro b h
    cases h
    decide

theorem endsNumber_membersTail (ms : List (String × Json)) (rest : List UInt8) :
    EndsNumber (encodeChars (membersTail ms) ++ rest) := by
  cases ms with
  | nil =>
    rintro b h
    cases h
    decide
  | cons m ms =>
    rintro b h
    cases h
    decide

/-! ## The first byte of a value -/

/-- A byte that may begin a value: neither white space nor a mark between values. -/
structure Opening (b : UInt8) : Prop where
  space : isSpace b = false
  bracket : b ≠ 0x5D
  brace : b ≠ 0x7D
  comma : b ≠ 0x2C

theorem skipSpace_cons {b : UInt8} (h : isSpace b = false) (rest : List UInt8) :
    skipSpace (b :: rest) = b :: rest := by
  unfold skipSpace
  exact List.dropWhile_cons_of_neg (by simp [h])

theorem opening_digitByte {d : Nat} (h : d < 10) : Opening (digitByte d) := by
  have hall : ∀ m < 10, isSpace (digitByte m) = false ∧ digitByte m ≠ 0x5D ∧
      digitByte m ≠ 0x7D ∧ digitByte m ≠ 0x2C := by decide
  obtain ⟨hspace, hbracket, hbrace, hcomma⟩ := hall d h
  exact ⟨hspace, hbracket, hbrace, hcomma⟩

theorem exists_digitByte_cons (n : Nat) :
    ∃ d more, d < 10 ∧ encodeChars (Ascii.digits 10 n) = digitByte d :: more := by
  by_cases hn : n = 0
  · exact ⟨0, [], by decide, by rw [hn]; rfl⟩
  · obtain ⟨d, more, -, hd, heq⟩ := encodeChars_digits_cons (Nat.pos_of_ne_zero hn)
    exact ⟨d, more, hd, heq⟩

theorem encodeChars_intChars_neg {i : Int} (h : i < 0) :
    encodeChars (intChars i) = 0x2D :: encodeChars (Ascii.digits 10 i.natAbs) := by
  rw [intChars, if_pos h, encodeChars_cons_of_ascii (by decide)]
  rfl

theorem encodeChars_intChars_nonneg {i : Int} (h : ¬ i < 0) :
    encodeChars (intChars i) = encodeChars (Ascii.digits 10 i.natAbs) := by
  rw [intChars, if_neg h]

theorem exists_opening {levels : Nat} {v : Json} (h : Fits levels v) :
    ∃ b more, encodeChars v.chars = b :: more ∧ Opening b := by
  cases v with
  | null => exact ⟨_, _, rfl, by constructor <;> decide⟩
  | bool b => cases b <;> exact ⟨_, _, rfl, by constructor <;> decide⟩
  | string s => exact ⟨_, _, encodeChars_stringChars s, by constructor <;> decide⟩
  | number n =>
    cases n with
    | float x => exact absurd h (not_fits_float levels x)
    | int i =>
      show ∃ b more, encodeChars (intChars i) = b :: more ∧ Opening b
      by_cases hi : i < 0
      · exact ⟨_, _, encodeChars_intChars_neg hi, by constructor <;> decide⟩
      · obtain ⟨d, more, hd, heq⟩ := exists_digitByte_cons i.natAbs
        exact ⟨_, _, by rw [encodeChars_intChars_nonneg hi, heq], opening_digitByte hd⟩
  | array items =>
    exact ⟨_, _, encodeChars_cons_of_ascii (by decide) _, by constructor <;> decide⟩
  | object ms =>
    exact ⟨_, _, encodeChars_cons_of_ascii (by decide) _, by constructor <;> decide⟩

/-! ## Items -/

theorem nextItem_first {b : UInt8} (h : Opening b) (rest : List UInt8) :
    nextItem true (b :: rest) = .ok (true, b :: rest) := by
  unfold nextItem
  rw [skipSpace_cons h.space]
  have hbracket := h.bracket
  split <;> simp_all

theorem nextItem_comma {b : UInt8} (h : Opening b) (rest : List UInt8) :
    nextItem false (0x2C :: b :: rest) = .ok (true, b :: rest) := by
  have hcomma : isSpace 0x2C = false := by decide
  unfold nextItem
  rw [skipSpace_cons hcomma]
  split
  · rename_i heq
    cases heq
  · rename_i heq
    exact absurd (List.cons.inj heq).1 (by decide)
  · rename_i heq
    cases heq
    rw [if_neg Bool.false_ne_true, if_pos rfl, skipSpace_cons h.space]
    split
    · rename_i heq
      cases heq
    · rename_i heq
      exact absurd (List.cons.inj heq).1 h.bracket
    · rfl

/-- A reader that reads a value from its text, with its members in order. -/
def ReadsItem (read : List UInt8 → Reading Json) (v : Json) : Prop :=
  (∃ b more, encodeChars v.chars = b :: more ∧ Opening b) ∧
    ∀ rest, EndsNumber rest → read (encodeChars v.chars ++ rest) = .ok (v.arranged, rest)

theorem items_tail {read : List UInt8 → Reading Json} {xs : List Json}
    (h : ∀ x ∈ xs, ReadsItem read x) (rest : List UInt8) {fuel : Nat} (hfuel : xs.length < fuel) :
    items read fuel false (encodeChars (itemsTail xs) ++ rest) =
      .ok (arrangedItems xs, 0x5D :: rest) := by
  induction xs generalizing fuel with
  | nil =>
    cases fuel with
    | zero => exact absurd hfuel (by simp)
    | succ fuel => rfl
  | cons x xs ih =>
    cases fuel with
    | zero => exact absurd hfuel (by simp)
    | succ fuel =>
      obtain ⟨⟨b, more, hopen, hopening⟩, hread⟩ := h x List.mem_cons_self
      have htail := ih (fun y hy => h y (List.mem_cons_of_mem _ hy)) (Nat.lt_of_succ_lt_succ hfuel)
      have hitem := hread _ (endsNumber_itemsTail xs rest)
      have hbytes : encodeChars (itemsTail (x :: xs)) ++ rest =
          0x2C :: b :: (more ++ (encodeChars (itemsTail xs) ++ rest)) := by
        show encodeChars (',' :: itemsChars (x :: xs)) ++ rest = _
        rw [encodeChars_cons_of_ascii (by decide), itemsChars_cons, encodeChars_append, hopen]
        simp only [List.cons_append, List.append_assoc]
        rfl
      rw [hopen, List.cons_append] at hitem
      rw [hbytes, items, nextItem_comma hopening]
      simp only [Except.bind, if_true, hitem, htail]
      rfl

theorem items_first {read : List UInt8 → Reading Json} {xs : List Json}
    (h : ∀ x ∈ xs, ReadsItem read x) (rest : List UInt8) {fuel : Nat} (hfuel : xs.length < fuel) :
    items read fuel true (encodeChars (itemsChars xs) ++ rest) =
      .ok (arrangedItems xs, 0x5D :: rest) := by
  cases fuel with
  | zero => exact absurd hfuel (by simp)
  | succ fuel =>
    cases xs with
    | nil => rfl
    | cons x xs =>
      obtain ⟨⟨b, more, hopen, hopening⟩, hread⟩ := h x List.mem_cons_self
      have htail := items_tail (fun y hy => h y (List.mem_cons_of_mem _ hy)) rest
        (Nat.lt_of_succ_lt_succ hfuel)
      have hitem := hread _ (endsNumber_itemsTail xs rest)
      rw [hopen, List.cons_append] at hitem
      rw [itemsChars_cons, encodeChars_append, hopen, List.append_assoc, List.cons_append, items,
        nextItem_first hopening]
      simp only [Except.bind, if_true, hitem, htail]
      rfl

theorem length_lt_itemsChars (xs : List Json) (rest : List UInt8) :
    xs.length < (encodeChars (itemsChars xs) ++ rest).length + 1 := by
  have htail : ∀ ys : List Json, ys.length < (encodeChars (itemsTail ys)).length := by
    intro ys
    induction ys with
    | nil => exact Nat.one_pos
    | cons y ys ih =>
      show _ < (encodeChars (',' :: itemsChars (y :: ys))).length
      rw [itemsChars_cons, encodeChars_cons_of_ascii (by decide), encodeChars_append]
      simp only [List.length_cons, List.length_append]
      omega
  rw [List.length_append]
  cases xs with
  | nil => exact Nat.succ_pos _
  | cons x xs =>
    have h := htail xs
    rw [itemsChars_cons, encodeChars_append]
    simp only [List.length_cons, List.length_append]
    omega

/-- An array is read item by item. -/
theorem array_itemsChars {read : List UInt8 → Reading Json} {xs : List Json}
    (h : ∀ x ∈ xs, ReadsItem read x) (rest : List UInt8) :
    array read (encodeChars (itemsChars xs) ++ rest) = .ok (arrangedItems xs, rest) := by
  unfold array
  rw [items_first h rest (length_lt_itemsChars xs rest)]
  rfl

/-! ## Members -/

theorem nextName_quote (rest : List UInt8) :
    nextName true (0x22 :: rest) = (string rest).map fun (s, rest) => (some s, rest) := rfl

theorem nextName_comma_quote (rest : List UInt8) :
    nextName false (0x2C :: 0x22 :: rest) =
      (string rest).map fun (s, rest) => (some s, rest) := rfl

theorem nextName_first (name : String) (rest : List UInt8) :
    nextName true (encodeChars (stringChars name) ++ rest) = .ok (some name, rest) := by
  rw [encodeChars_stringChars, List.cons_append, List.append_assoc, List.singleton_append,
    nextName_quote, string_chars]
  rfl

theorem nextName_comma (name : String) (rest : List UInt8) :
    nextName false (0x2C :: (encodeChars (stringChars name) ++ rest)) = .ok (some name, rest) := by
  rw [encodeChars_stringChars, List.cons_append, List.append_assoc, List.singleton_append,
    nextName_comma_quote, string_chars]
  rfl

theorem colon_cons (rest : List UInt8) : colon (0x3A :: rest) = .ok ((), rest) := rfl

/-- The bytes of the members of an object, the first of them apart. -/
theorem encodeChars_membersChars_cons (name : String) (v : Json) (ms : List (String × Json))
    (rest : List UInt8) :
    encodeChars (membersChars ((name, v) :: ms)) ++ rest =
      encodeChars (stringChars name) ++
        0x3A :: (encodeChars v.chars ++ (encodeChars (membersTail ms) ++ rest)) := by
  rw [membersChars_cons, encodeChars_append, encodeChars_cons_of_ascii (by decide),
    encodeChars_append, List.append_assoc, List.cons_append, List.append_assoc]
  rfl

theorem encodeChars_membersTail_cons (name : String) (v : Json) (ms : List (String × Json))
    (rest : List UInt8) :
    encodeChars (membersTail ((name, v) :: ms)) ++ rest =
      0x2C :: (encodeChars (stringChars name) ++
        0x3A :: (encodeChars v.chars ++ (encodeChars (membersTail ms) ++ rest))) := by
  rw [← encodeChars_membersChars_cons]
  show encodeChars (',' :: membersChars ((name, v) :: ms)) ++ rest = _
  rw [encodeChars_cons_of_ascii (by decide)]
  rfl

theorem members_tail {read : List UInt8 → Reading Json} {ms : List (String × Json)}
    (h : ∀ m ∈ ms, ReadsItem read m.2) (rest : List UInt8) {fuel : Nat}
    (hfuel : ms.length < fuel) :
    members read fuel false (encodeChars (membersTail ms) ++ rest) =
      .ok (arrangedMembers ms, 0x7D :: rest) := by
  induction ms generalizing fuel with
  | nil =>
    cases fuel with
    | zero => exact absurd hfuel (by simp)
    | succ fuel => rfl
  | cons m ms ih =>
    cases fuel with
    | zero => exact absurd hfuel (by simp)
    | succ fuel =>
      obtain ⟨name, v⟩ := m
      have htail := ih (fun n hn => h n (List.mem_cons_of_mem _ hn)) (Nat.lt_of_succ_lt_succ hfuel)
      have hvalue := (h (name, v) List.mem_cons_self).2 _ (endsNumber_membersTail ms rest)
      rw [encodeChars_membersTail_cons, members, nextName_comma]
      simp only [Except.bind, colon_cons, hvalue, htail]
      rfl

theorem members_first {read : List UInt8 → Reading Json} {ms : List (String × Json)}
    (h : ∀ m ∈ ms, ReadsItem read m.2) (rest : List UInt8) {fuel : Nat}
    (hfuel : ms.length < fuel) :
    members read fuel true (encodeChars (membersChars ms) ++ rest) =
      .ok (arrangedMembers ms, 0x7D :: rest) := by
  cases fuel with
  | zero => exact absurd hfuel (by simp)
  | succ fuel =>
    cases ms with
    | nil => rfl
    | cons m ms =>
      obtain ⟨name, v⟩ := m
      have htail := members_tail (fun n hn => h n (List.mem_cons_of_mem _ hn)) rest
        (Nat.lt_of_succ_lt_succ hfuel)
      have hvalue := (h (name, v) List.mem_cons_self).2 _ (endsNumber_membersTail ms rest)
      rw [encodeChars_membersChars_cons, members, nextName_first]
      simp only [Except.bind, colon_cons, hvalue, htail]
      rfl

theorem length_lt_membersChars (ms : List (String × Json)) (rest : List UInt8) :
    ms.length < (encodeChars (membersChars ms) ++ rest).length + 1 := by
  have htail : ∀ ns : List (String × Json),
      ns.length < (encodeChars (membersTail ns) ++ rest).length := by
    intro ns
    induction ns with
    | nil =>
      show 0 < (0x7D :: rest).length
      exact Nat.succ_pos _
    | cons n ns ih =>
      obtain ⟨name, v⟩ := n
      rw [encodeChars_membersTail_cons]
      simp only [List.length_cons, List.length_append] at ih ⊢
      omega
  cases ms with
  | nil => exact Nat.succ_pos _
  | cons m ms =>
    have h := htail ms
    obtain ⟨name, v⟩ := m
    rw [encodeChars_membersChars_cons]
    simp only [List.length_cons, List.length_append] at h ⊢
    omega

/-! ## Values -/

theorem value_string (levels : Nat) (s : String) (rest : List UInt8) :
    value levels (encodeChars (stringChars s) ++ rest) = .ok (.string s, rest) := by
  have hread := string_chars s rest
  rw [encodeChars_stringChars, List.cons_append, List.append_assoc, List.singleton_append]
  have hvalue : value levels (0x22 :: (encodeChars (s.toList.flatMap escapeChar) ++ 0x22 :: rest)) =
      (string (encodeChars (s.toList.flatMap escapeChar) ++ 0x22 :: rest)).map
        fun (s, rest) => (.string s, rest) := by
    cases levels <;> rfl
  rw [hvalue, hread]
  rfl

theorem value_negative (levels : Nat) (rest : List UInt8) :
    value levels (0x2D :: rest) =
      (number false rest).map fun (n, rest) => (.number n, rest) := by
  cases levels <;> rfl

theorem value_digit (levels : Nat) {d : Nat} (h : d < 10) (rest : List UInt8) :
    value levels (digitByte d :: rest) =
      (number true (digitByte d :: rest)).map fun (n, rest) => (.number n, rest) := by
  have hall : ∀ m < 10, digitByte m ≠ 0x6E ∧ digitByte m ≠ 0x74 ∧ digitByte m ≠ 0x66 ∧
      digitByte m ≠ 0x2D := by decide
  obtain ⟨hn, ht, hf, hminus⟩ := hall d h
  rw [value.eq_def]
  simp only [skipSpace_cons (opening_digitByte h).space, if_neg hn, if_neg ht, if_neg hf,
    if_neg hminus, isDigit_digitByte h, if_true]

theorem value_int (levels : Nat) {i : Int} (hlow : -0x8000000000000000 ≤ i)
    (hhigh : i ≤ 0xFFFFFFFFFFFFFFFF) {rest : List UInt8} (hrest : EndsNumber rest) :
    value levels (encodeChars (intChars i) ++ rest) = .ok (.number (.int i), rest) := by
  have hbound : i.natAbs ≤ maxUInt64 := by
    unfold maxUInt64
    omega
  by_cases hi : i < 0
  · have hneg : -(i.natAbs : Int) = i := by omega
    rw [encodeChars_intChars_neg hi, List.cons_append, value_negative,
      number_digits false hbound hrest]
    simp only [Except.map, integerValue, Bool.false_eq_true, if_false]
    rw [if_neg (by omega), hneg]
  · have hpos : (i.natAbs : Int) = i := by omega
    obtain ⟨d, more, hd, heq⟩ := exists_digitByte_cons i.natAbs
    have hread := number_digits true hbound hrest
    rw [heq, List.cons_append] at hread
    rw [encodeChars_intChars_nonneg hi, heq, List.cons_append, value_digit levels hd, hread]
    simp only [Except.map, integerValue, if_true, hpos]

theorem value_array (levels : Nat) (rest : List UInt8) :
    value (levels + 1) (0x5B :: rest) =
      (array (value levels) rest).map fun (xs, rest) => (.array xs, rest) := rfl

theorem value_object (levels : Nat) (rest : List UInt8) :
    value (levels + 1) (0x7B :: rest) =
      (within closeObject afterCloseObject
        (members (value levels) (rest.length + 1) true rest)).map fun (ms, rest) =>
        (.object (Members.ofList ms), rest) := rfl

theorem value_items {levels : Nat} {xs : List Json} (h : ∀ x ∈ xs, ReadsItem (value levels) x)
    (rest : List UInt8) :
    value (levels + 1) (encodeChars (Json.array xs).chars ++ rest) =
      .ok ((Json.array xs).arranged, rest) := by
  show value (levels + 1) (encodeChars ('[' :: itemsChars xs) ++ rest) = _
  rw [encodeChars_cons_of_ascii (by decide), List.cons_append]
  show value (levels + 1) (0x5B :: (encodeChars (itemsChars xs) ++ rest)) = _
  rw [value_array, array_itemsChars h]
  rfl

theorem value_members {levels : Nat} {ms : List (String × Json)}
    (h : ∀ m ∈ ms, ReadsItem (value levels) m.2) (rest : List UInt8) :
    value (levels + 1) (encodeChars (Json.object ms).chars ++ rest) =
      .ok ((Json.object ms).arranged, rest) := by
  show value (levels + 1) (encodeChars ('\x7b' :: membersChars ms) ++ rest) = _
  rw [encodeChars_cons_of_ascii (by decide), List.cons_append]
  show value (levels + 1) (0x7B :: (encodeChars (membersChars ms) ++ rest)) = _
  rw [value_object, members_first h rest (length_lt_membersChars ms rest)]
  rfl

/-- The text of a value is read as the value with its members in order, up to what follows it. -/
theorem value_arranged : ∀ {levels : Nat} {v : Json}, Fits levels v →
    ∀ {rest : List UInt8}, EndsNumber rest →
      value levels (encodeChars v.chars ++ rest) = .ok (v.arranged, rest)
  | 0, .null, _, _, _ => rfl
  | _ + 1, .null, _, _, _ => rfl
  | 0, .bool b, _, _, _ => by cases b <;> rfl
  | _ + 1, .bool b, _, _, _ => by cases b <;> rfl
  | levels, .string s, _, rest, _ => value_string levels s rest
  | levels, .number (.int _), h, _, hrest =>
    value_int levels (fits_int_iff.1 h).1 (fits_int_iff.1 h).2 hrest
  | levels, .number (.float x), h, _, _ => absurd h (not_fits_float levels x)
  | 0, .array _, h, _, _ => absurd h id
  | _ + 1, .array _, h, rest, _ =>
    value_items (fun x hx => ⟨exists_opening (h x hx), fun _ => value_arranged (h x hx)⟩) rest
  | 0, .object _, h, _, _ => absurd h id
  | _ + 1, .object _, h, rest, _ =>
    value_members (fun m hm => ⟨exists_opening (h m hm), fun _ => value_arranged (h m hm)⟩) rest

/-- The text of a value whose members are in order is read as the value. -/
theorem value_chars {levels : Nat} {v : Json} (h : Readable levels v) {rest : List UInt8}
    (hrest : EndsNumber rest) : value levels (encodeChars v.chars ++ rest) = .ok (v, rest) := by
  obtain ⟨hfits, harranged⟩ := h.fits_and_arranged
  rw [value_arranged hfits hrest, harranged]

theorem stringChars_injective {s t : String} {rest rest' : List UInt8}
    (h : encodeChars (stringChars s) ++ rest = encodeChars (stringChars t) ++ rest') :
    s = t ∧ rest = rest' := by
  have hread := value_string 0 s rest
  rw [h, value_string] at hread
  cases hread
  exact ⟨rfl, rfl⟩

/-- Members that are texts are known from the text of their object, one after the other. -/
theorem membersTail_injective {name name' s t : String} {ms ms' : List (String × Json)}
    (h : encodeChars (membersTail ((name, .string s) :: ms)) =
      encodeChars (membersTail ((name', .string t) :: ms'))) :
    name = name' ∧ s = t ∧ encodeChars (membersTail ms) = encodeChars (membersTail ms') := by
  have hbytes := encodeChars_membersTail_cons name (.string s) ms []
  have hbytes' := encodeChars_membersTail_cons name' (.string t) ms' []
  rw [List.append_nil] at hbytes hbytes'
  rw [hbytes, hbytes'] at h
  obtain ⟨hname, hrest⟩ := stringChars_injective (List.cons.inj h).2
  obtain ⟨hvalue, htail⟩ := stringChars_injective (List.cons.inj hrest).2
  rw [List.append_nil, List.append_nil] at htail
  exact ⟨hname, hvalue, htail⟩

/-- An integer is known from its decimal text. -/
theorem intChars_injective {i j : Int} (h : intChars i = intChars j) : i = j := by
  have hdigits {m n : Nat} (h : Ascii.digits 10 m = Ascii.digits 10 n) : m = n :=
    calc
      m = Nat.ofDigitChars 10 (Ascii.digits 10 m) 0 := Nat.ofDigitChars_ten_toDigits.symm
      _ = Nat.ofDigitChars 10 (Ascii.digits 10 n) 0 := by rw [h]
      _ = n := Nat.ofDigitChars_ten_toDigits
  have hminus (n : Nat) (tail : List Char) : Ascii.digits 10 n ≠ '-' :: tail := by
    intro h
    have hmem : '-' ∈ Nat.toDigits 10 n := by
      show '-' ∈ Ascii.digits 10 n
      rw [h]
      exact List.mem_cons_self
    exact absurd (Nat.isDigit_of_mem_toDigits (by decide) (by decide) hmem) (by decide)
  unfold intChars at h
  split at h
  · split at h
    · have habs := hdigits (List.cons.inj h).2
      omega
    · exact absurd h.symm (hminus _ _)
  · split at h
    · exact absurd h (hminus _ _)
    · have habs := hdigits h
      omega

/-- So is one that is the last member of an object. -/
theorem int_of_membersTail {name : String} {i j : Int}
    (h : encodeChars (membersTail [(name, .ofInt i)]) =
      encodeChars (membersTail [(name, .ofInt j)])) : i = j := by
  have hbytes := encodeChars_membersTail_cons name (.ofInt i) [] []
  have hbytes' := encodeChars_membersTail_cons name (.ofInt j) [] []
  rw [List.append_nil] at hbytes hbytes'
  rw [hbytes, hbytes'] at h
  have hvalue := (List.cons.inj (stringChars_injective (List.cons.inj h).2).2).2
  have hchars := congrArg Utf8.decodeChars? (List.append_cancel_right hvalue)
  rw [Utf8.decodeChars?_encodeChars, Utf8.decodeChars?_encodeChars] at hchars
  exact intChars_injective (Option.some.inj hchars)

end Reader

/-- A value that can be read is read from its text with its members in order. -/
theorem parse_arranged {v : Json} (h : Fits Reader.depthLimit v) :
    parse (encodeChars v.chars) = .ok v.arranged := by
  have hvalue := Reader.value_arranged h Reader.endsNumber_nil
  rw [List.append_nil] at hvalue
  unfold parse Reader.whole
  rw [hvalue]
  rfl

/-- A readable value is read back from its text. -/
theorem parse_chars {v : Json} (h : Readable Reader.depthLimit v) :
    parse (encodeChars v.chars) = .ok v := by
  obtain ⟨hfits, harranged⟩ := h.fits_and_arranged
  rw [parse_arranged hfits, harranged]

/-- Readable values with one text are equal. -/
theorem eq_of_encodeChars_eq {v w : Json} (hv : Readable Reader.depthLimit v)
    (hw : Readable Reader.depthLimit w) (h : encodeChars v.chars = encodeChars w.chars) :
    v = w := by
  have hread := parse_chars hv
  rw [h, parse_chars hw] at hread
  exact (Except.ok.inj hread).symm

end OpenIdProvider.Json
