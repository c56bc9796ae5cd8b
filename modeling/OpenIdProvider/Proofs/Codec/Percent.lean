/-
  Texts whose escapes are whole. They are the words over the bytes other than `%` and the escapes
  of two hexadecimal digits, and the search for a bad escape finds the first `%` that begins none.
  A search by index cuts the bytes after a `%` out of the text. It finds the same, and stays within
  the text whatever that holds.
-/
import OpenIdProvider.Codec.Percent
import OpenIdProvider.Proofs.Text.Ascii

namespace OpenIdProvider.Percent

/-! ## Digits -/

/-- The hexadecimal digits of either case. -/
def IsHexDigit (b : UInt8) : Prop :=
  0x30 ≤ b ∧ b ≤ 0x39 ∨ 0x41 ≤ b ∧ b ≤ 0x46 ∨ 0x61 ≤ b ∧ b ≤ 0x66

instance (b : UInt8) : Decidable (IsHexDigit b) := inferInstanceAs (Decidable (_ ∨ _))

theorem isSome_hexByte?_iff (b : UInt8) : (Ascii.hexByte? b).isSome ↔ IsHexDigit b := by
  refine Ascii.forall_byte (P := fun b => (Ascii.hexByte? b).isSome ↔ IsHexDigit b) ?_ b
  decide +kernel

theorem isSome_escaped?_iff (hi lo : UInt8) :
    (escaped? hi lo).isSome ↔ IsHexDigit hi ∧ IsHexDigit lo := by
  rw [← isSome_hexByte?_iff, ← isSome_hexByte?_iff]
  unfold escaped?
  cases Ascii.hexByte? hi <;> cases Ascii.hexByte? lo <;> simp

theorem IsHexDigit.ne_percent {b : UInt8} (h : IsHexDigit b) : b ≠ 0x25 := by
  rintro rfl
  exact absurd h (by decide)

/-! ## Bad escapes -/

/-- At an index stands a `%` that two hexadecimal digits do not follow. -/
def BadAt (bytes : List UInt8) (i : Nat) : Prop :=
  bytes[i]? = some 0x25 ∧ ¬ ∃ hi lo, bytes[i + 1]? = some hi ∧ bytes[i + 2]? = some lo ∧
    IsHexDigit hi ∧ IsHexDigit lo

/-- The leftmost such index. -/
structure FirstBadAt (bytes : List UInt8) (i : Nat) : Prop where
  bad : BadAt bytes i
  leftmost : ∀ j < i, ¬ BadAt bytes j

theorem FirstBadAt.unique {bytes : List UInt8} {i j : Nat} (h : FirstBadAt bytes i)
    (h' : FirstBadAt bytes j) : i = j := by
  rcases Nat.lt_trichotomy i j with hlt | heq | hlt
  · exact absurd h.bad (h'.leftmost i hlt)
  · exact heq
  · exact absurd h'.bad (h.leftmost j hlt)

theorem not_badAt_nil (i : Nat) : ¬ BadAt [] i := nofun

theorem not_badAt_of_ne {b : UInt8} (h : b ≠ 0x25) (rest : List UInt8) : ¬ BadAt (b :: rest) 0 :=
  fun hbad => h (Option.some.inj hbad.1)

theorem badAt_zero_iff {hi lo : UInt8} {rest : List UInt8} :
    BadAt (0x25 :: hi :: lo :: rest) 0 ↔ ¬ (IsHexDigit hi ∧ IsHexDigit lo) := by
  simp [BadAt]

/-- A `%` with fewer than two bytes after it is bad. -/
theorem badAt_zero_of_short {rest : List UInt8} (h : rest.length < 2) : BadAt (0x25 :: rest) 0 := by
  refine ⟨rfl, ?_⟩
  rintro ⟨hi, lo, -, hlo, -⟩
  obtain ⟨hlt, -⟩ := List.getElem?_eq_some_iff.1 hlo
  rw [List.length_cons] at hlt
  omega

theorem forall_not_badAt_cons {b : UInt8} {rest : List UInt8} :
    (∀ i, ¬ BadAt (b :: rest) i) ↔ ¬ BadAt (b :: rest) 0 ∧ ∀ i, ¬ BadAt rest i := by
  constructor
  · intro h
    exact ⟨h 0, fun i => h (i + 1)⟩
  · rintro ⟨hzero, hrest⟩ (_ | i)
    · exact hzero
    · exact hrest i

theorem firstBadAt_succ_iff {b : UInt8} {rest : List UInt8} (h : ¬ BadAt (b :: rest) 0) {i : Nat} :
    FirstBadAt (b :: rest) (i + 1) ↔ FirstBadAt rest i := by
  constructor
  · rintro ⟨hbad, hleftmost⟩
    exact ⟨hbad, fun j hj => hleftmost (j + 1) (Nat.succ_lt_succ hj)⟩
  · rintro ⟨hbad, hleftmost⟩
    refine ⟨hbad, ?_⟩
    rintro (_ | j) hj
    · exact h
    · exact hleftmost j (Nat.lt_of_succ_lt_succ hj)

/-! ## The search -/

theorem badEscape?_of_badAt {b : UInt8} {rest : List UInt8} (h : BadAt (b :: rest) 0) :
    badEscape? (b :: rest) = some ((b :: rest).take 3) := by
  obtain rfl : b = 0x25 := Option.some.inj h.1
  match rest with
  | [] => rfl
  | [_] => rfl
  | hi :: lo :: rest =>
    rw [badAt_zero_iff, ← isSome_escaped?_iff] at h
    rw [badEscape?]
    exact if_neg h

theorem badEscape?_of_not_badAt {b : UInt8} {rest : List UInt8} (h : ¬ BadAt (b :: rest) 0) :
    badEscape? (b :: rest) = badEscape? rest := by
  by_cases hb : b = 0x25
  · subst hb
    match rest with
    | [] => exact absurd (badAt_zero_of_short (by decide)) h
    | [_] => exact absurd (badAt_zero_of_short (by simp)) h
    | hi :: lo :: rest =>
      rw [badAt_zero_iff, Decidable.not_not, ← isSome_escaped?_iff] at h
      rw [badEscape?]
      exact if_pos h
  · rw [badEscape?.eq_def]
    exact if_neg hb

theorem badEscape?_cons_of_ne {b : UInt8} (h : b ≠ 0x25) (rest : List UInt8) :
    badEscape? (b :: rest) = badEscape? rest :=
  badEscape?_of_not_badAt (not_badAt_of_ne h rest)

/-- After escapes that are whole the first bad one is that of the rest. -/
theorem badEscape?_append {front : List UInt8} (h : badEscape? front = none)
    (rest : List UInt8) : badEscape? (front ++ rest) = badEscape? rest := by
  induction front with
  | nil => rfl
  | cons b front ih =>
    by_cases hb : b = 0x25
    · subst hb
      rw [badEscape?.eq_def] at h
      simp only [if_true] at h
      split at h
      · rename_i hi lo front
        split at h
        · rename_i hescaped
          rw [List.cons_append, List.cons_append, List.cons_append, badEscape?.eq_def]
          simp only [hescaped, if_true]
          exact ih h
        · cases h
      · cases h
    · rw [badEscape?_cons_of_ne hb] at h
      rw [List.cons_append, badEscape?_cons_of_ne hb, ih h]

/-- What is found is the leftmost bad escape, with at most two bytes after its `%`. -/
theorem badEscape?_eq_some_iff {bytes piece : List UInt8} :
    badEscape? bytes = some piece ↔
      ∃ i, FirstBadAt bytes i ∧ piece = (bytes.drop i).take 3 := by
  induction bytes with
  | nil => exact ⟨nofun, fun ⟨i, hfirst, _⟩ => absurd hfirst.bad (not_badAt_nil i)⟩
  | cons b rest ih =>
    by_cases hbad : BadAt (b :: rest) 0
    · rw [badEscape?_of_badAt hbad]
      constructor
      · rintro ⟨⟩
        exact ⟨0, ⟨hbad, nofun⟩, rfl⟩
      · rintro ⟨_ | i, hfirst, rfl⟩
        · rfl
        · exact absurd hbad (hfirst.leftmost 0 (Nat.succ_pos i))
    · rw [badEscape?_of_not_badAt hbad, ih]
      constructor
      · rintro ⟨i, hfirst, rfl⟩
        exact ⟨i + 1, (firstBadAt_succ_iff hbad).2 hfirst, rfl⟩
      · rintro ⟨_ | i, hfirst, rfl⟩
        · exact absurd hfirst.bad hbad
        · exact ⟨i, (firstBadAt_succ_iff hbad).1 hfirst, rfl⟩

/-- Nothing is found where no escape is bad. -/
theorem badEscape?_eq_none_iff {bytes : List UInt8} :
    badEscape? bytes = none ↔ ∀ i, ¬ BadAt bytes i := by
  induction bytes with
  | nil => exact ⟨fun _ => not_badAt_nil, fun _ => rfl⟩
  | cons b rest ih =>
    rw [forall_not_badAt_cons]
    by_cases hbad : BadAt (b :: rest) 0
    · rw [badEscape?_of_badAt hbad]
      exact ⟨nofun, fun h => absurd hbad h.1⟩
    · rw [badEscape?_of_not_badAt hbad, ih]
      exact ⟨fun h => ⟨hbad, h⟩, And.right⟩

/-- The words over bytes other than `%` and escapes are the texts without a bad escape. -/
theorem wellEscaped_iff {bytes : List UInt8} : WellEscaped bytes ↔ ∀ i, ¬ BadAt bytes i := by
  fun_induction WellEscaped bytes with
  | case1 => exact ⟨fun _ => not_badAt_nil, fun _ => trivial⟩
  | case2 hi lo rest ih =>
    rw [isSome_escaped?_iff, ih, forall_not_badAt_cons, badAt_zero_iff, Decidable.not_not]
    refine and_congr_right fun hdigits => ?_
    -- the digits themselves are no `%`
    have hhi := not_badAt_of_ne hdigits.1.ne_percent (lo :: rest)
    have hlo := not_badAt_of_ne hdigits.2.ne_percent rest
    rw [forall_not_badAt_cons, forall_not_badAt_cons]
    exact ⟨fun h => ⟨hhi, hlo, h⟩, fun h => h.2.2⟩
  | case3 b rest hshort ih =>
    rw [forall_not_badAt_cons, ih]
    refine and_congr_left fun _ => ⟨fun hne => not_badAt_of_ne hne rest, ?_⟩
    rintro hbad rfl
    match rest with
    | [] => exact hbad (badAt_zero_of_short (by decide))
    | [_] => exact hbad (badAt_zero_of_short Nat.one_lt_two)
    | hi :: lo :: rest => exact hshort hi lo rest rfl rfl

/-! ## The search by index -/

/-- The bytes from one index up to another, if these are in order and within the text. -/
def slice? (bytes : List UInt8) (start finish : Nat) : Option (List UInt8) :=
  if start ≤ finish ∧ finish ≤ bytes.length then some ((bytes.drop start).take (finish - start))
  else none

/-- The first bad escape from an index on, none if a slice is out of bounds. Of the two bytes that
should follow a `%`, those that are there are looked at; all that follows the `%` is cut out in
any case. -/
def searchFrom (bytes : List UInt8) (i : Nat) : List UInt8 → Option (Option (List UInt8))
  | [] => some none
  | b :: rest =>
    if b = 0x25 then do
      let following ← slice? bytes (i + 1) bytes.length
      let digits := (slice? bytes (i + 1) (i + 3)).getD following
      if digits.length < 2 ∨ digits.all (fun d => IsHexDigit d) = false then
        let piece ← slice? bytes i (min (i + 3) bytes.length)
        some (some piece)
      else searchFrom bytes (i + 1) rest
    else searchFrom bytes (i + 1) rest

/-- The first bad escape of a text. -/
def search (bytes : List UInt8) : Option (Option (List UInt8)) := searchFrom bytes 0 bytes

theorem slice?_append (front : List UInt8) {back : List UInt8} {n : Nat} (h : n ≤ back.length) :
    slice? (front ++ back) front.length (front.length + n) = some (back.take n) := by
  have hwithin : front.length + n ≤ (front ++ back).length := by
    rw [List.length_append]
    omega
  unfold slice?
  rw [if_pos ⟨Nat.le_add_right _ _, hwithin⟩, List.drop_left, Nat.add_sub_cancel_left]

theorem slice?_of_lt {bytes : List UInt8} {finish : Nat} (h : bytes.length < finish)
    (start : Nat) : slice? bytes start finish = none :=
  if_neg fun hwithin => absurd hwithin.2 (Nat.not_le_of_lt h)

/-- The two bytes after a `%`, or those of them that are there. -/
theorem getD_slice?_append (front rest : List UInt8) :
    (slice? (front ++ rest) front.length (front.length + 2)).getD rest = rest.take 2 := by
  by_cases h : 2 ≤ rest.length
  · rw [slice?_append front h]
    rfl
  · rw [slice?_of_lt (by rw [List.length_append]; omega), List.take_of_length_le (by omega)]
    rfl

theorem badAt_zero_iff_take {rest : List UInt8} :
    BadAt (0x25 :: rest) 0 ↔
      (rest.take 2).length < 2 ∨ (rest.take 2).all (fun d => IsHexDigit d) = false := by
  match rest with
  | [] => exact iff_of_true (badAt_zero_of_short (by decide)) (.inl (by decide))
  | [_] => exact iff_of_true (badAt_zero_of_short Nat.one_lt_two) (.inl Nat.one_lt_two)
  | hi :: lo :: rest =>
    rw [badAt_zero_iff]
    simp

theorem searchFrom_eq (front rest : List UInt8) :
    searchFrom (front ++ rest) front.length rest = some (badEscape? rest) := by
  induction rest generalizing front with
  | nil => rfl
  | cons b rest ih =>
    have hnext := ih (front ++ [b])
    rw [List.length_append, List.append_assoc, List.singleton_append] at hnext
    unfold searchFrom
    by_cases hb : b = 0x25
    · subst hb
      have hfollowing : slice? (front ++ 0x25 :: rest) (front.length + 1)
          (front ++ 0x25 :: rest).length = some rest := by
        have h := slice?_append (front ++ [0x25]) (Nat.le_refl rest.length)
        simpa [Nat.add_assoc, Nat.add_comm 1] using h
      have hdigits : (slice? (front ++ 0x25 :: rest) (front.length + 1) (front.length + 3)).getD
          rest = rest.take 2 := by
        have h := getD_slice?_append (front ++ [0x25]) rest
        simpa using h
      have hpiece : slice? (front ++ 0x25 :: rest) front.length
          (min (front.length + 3) (front ++ 0x25 :: rest).length) =
            some ((0x25 :: rest).take 3) := by
        have h := slice?_append front (Nat.min_le_right 3 (0x25 :: rest).length)
        rwa [← Nat.add_min_add_left, ← List.length_append, ← List.take_eq_take_min] at h
      rw [if_pos rfl, hfollowing, Option.bind_eq_bind, Option.bind_some]
      by_cases hbad : BadAt (0x25 :: rest) 0
      · rw [if_pos (hdigits ▸ badAt_zero_iff_take.1 hbad), hpiece, badEscape?_of_badAt hbad]
        rfl
      · rw [if_neg (hdigits ▸ fun h => hbad (badAt_zero_iff_take.2 h)),
          badEscape?_of_not_badAt hbad]
        exact hnext
    · rw [if_neg hb, badEscape?_of_not_badAt (not_badAt_of_ne hb rest)]
      exact hnext

/-- The search by index stays within the text and finds the same. -/
theorem search_eq (bytes : List UInt8) : search bytes = some (badEscape? bytes) :=
  searchFrom_eq [] bytes

end OpenIdProvider.Percent
