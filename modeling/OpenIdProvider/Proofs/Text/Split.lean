/-
  Where lists are cut. A list is cut at a separator that is named with what stands on one side of
  it free of separators, and not at all where there is none.
-/
import OpenIdProvider.Text.Split

namespace OpenIdProvider.Split

variable {α : Type} [DecidableEq α]

/-! ## The last separator -/

theorem splitLast_of_not_mem {sep : α} {xs : List α} (h : sep ∉ xs) :
    splitLast sep xs = none := by
  induction xs with
  | nil => rfl
  | cons x xs ih =>
    rw [List.mem_cons, not_or] at h
    rw [splitLast, ih h.2]
    simp only [if_neg (Ne.symm h.1)]

theorem splitLast_append {sep : α} (front : List α) {back : List α} (h : sep ∉ back) :
    splitLast sep (front ++ sep :: back) = some (front, back) := by
  induction front with
  | nil =>
    rw [List.nil_append, splitLast, splitLast_of_not_mem h]
    simp only [if_true]
  | cons x front ih =>
    rw [List.cons_append, splitLast, ih]

theorem eq_of_splitLast {sep : α} {xs front back : List α}
    (h : splitLast sep xs = some (front, back)) : xs = front ++ sep :: back := by
  induction xs generalizing front with
  | nil => cases h
  | cons x xs ih =>
    rw [splitLast] at h
    split at h
    · rename_i heq
      cases h
      rw [ih heq]
      rfl
    · split at h
      · rename_i hx
        cases h
        rw [hx]
        rfl
      · cases h

/-! ## The first separator -/

theorem splitOnce_of_not_mem {sep : α} {xs : List α} (h : sep ∉ xs) :
    splitOnce sep xs = none := by
  induction xs with
  | nil => rfl
  | cons x xs ih =>
    rw [List.mem_cons, not_or] at h
    rw [splitOnce, if_neg (Ne.symm h.1), ih h.2]
    rfl

theorem splitOnce_append {sep : α} {front : List α} (h : sep ∉ front) (back : List α) :
    splitOnce sep (front ++ sep :: back) = some (front, back) := by
  induction front with
  | nil =>
    rw [List.nil_append, splitOnce, if_pos rfl]
  | cons x front ih =>
    rw [List.mem_cons, not_or] at h
    rw [List.cons_append, splitOnce, if_neg (Ne.symm h.1), ih h.2]
    rfl

/-! ## All separators -/

theorem splitOn_of_not_mem {sep : α} {xs : List α} (h : sep ∉ xs) : splitOn sep xs = [xs] := by
  induction xs with
  | nil => rfl
  | cons x xs ih =>
    rw [List.mem_cons, not_or] at h
    rw [splitOn, if_neg (Ne.symm h.1), ih h.2]

theorem splitOn_ne_nil (sep : α) (xs : List α) : splitOn sep xs ≠ [] := by
  cases xs with
  | nil => exact List.cons_ne_nil _ _
  | cons x xs =>
    unfold splitOn
    split
    · exact List.cons_ne_nil _ _
    · split <;> exact List.cons_ne_nil _ _

/-- What stands before a separator is cut apart from what stands after it. -/
theorem splitOn_append_cons (sep : α) (front back : List α) :
    splitOn sep (front ++ sep :: back) = splitOn sep front ++ splitOn sep back := by
  induction front with
  | nil => exact if_pos rfl
  | cons x front ih =>
    rw [List.cons_append, splitOn, splitOn, ih]
    split
    · rfl
    · cases hfront : splitOn sep front with
      | nil => exact absurd hfront (splitOn_ne_nil sep front)
      | cons piece pieces => rfl

theorem splitOn_append {sep : α} {front : List α} (h : sep ∉ front) (back : List α) :
    splitOn sep (front ++ sep :: back) = front :: splitOn sep back := by
  rw [splitOn_append_cons, splitOn_of_not_mem h, List.singleton_append]

/-- No separator is in any of the pieces. -/
theorem sep_not_mem_of_mem_splitOn {sep : α} {xs piece : List α} (h : piece ∈ splitOn sep xs) :
    sep ∉ piece := by
  induction xs generalizing piece with
  | nil =>
    rw [List.mem_singleton.1 h]
    exact List.not_mem_nil
  | cons x xs ih =>
    rw [splitOn] at h
    split at h
    · rcases List.mem_cons.1 h with rfl | h
      · exact List.not_mem_nil
      · exact ih h
    · rename_i hx
      split at h
      · rename_i hnil
        exact absurd hnil (splitOn_ne_nil sep xs)
      · rename_i first rest hsplit
        rw [hsplit] at ih
        rcases List.mem_cons.1 h with rfl | h
        · rw [List.mem_cons, not_or]
          exact ⟨Ne.symm hx, ih List.mem_cons_self⟩
        · exact ih (List.mem_cons_of_mem _ h)

/-- What is no separator is in one of the pieces. -/
theorem mem_splitOn {sep x : α} (h : x ≠ sep) {xs : List α} (hx : x ∈ xs) :
    ∃ piece ∈ splitOn sep xs, x ∈ piece := by
  induction xs with
  | nil => cases hx
  | cons y ys ih =>
    rw [splitOn]
    split
    · rename_i hy
      rcases List.mem_cons.1 hx with rfl | hx
      · exact absurd hy h
      · obtain ⟨piece, hpiece, hmem⟩ := ih hx
        exact ⟨piece, List.mem_cons_of_mem _ hpiece, hmem⟩
    · split
      · rename_i hnil
        exact absurd hnil (splitOn_ne_nil sep ys)
      · rename_i piece pieces hsplit
        rw [hsplit] at ih
        rcases List.mem_cons.1 hx with rfl | hx
        · exact ⟨_, List.mem_cons_self, List.mem_cons_self⟩
        · obtain ⟨other, hother, hmem⟩ := ih hx
          rcases List.mem_cons.1 hother with rfl | hother
          · exact ⟨_, List.mem_cons_self, List.mem_cons_of_mem _ hmem⟩
          · exact ⟨other, List.mem_cons_of_mem _ hother, hmem⟩

/-! ## Fronts and ends -/

theorem eq_append_of_dropPrefix? {front xs rest : List α}
    (h : dropPrefix? front xs = some rest) : xs = front ++ rest := by
  induction front generalizing xs with
  | nil =>
    rw [dropPrefix?] at h
    exact Option.some.inj h
  | cons c front ih =>
    cases xs with
    | nil => cases h
    | cons d xs =>
      rw [dropPrefix?] at h
      split at h
      · rename_i heq
        rw [heq, ih h]
        rfl
      · cases h

theorem dropPrefix?_append (front rest : List α) :
    dropPrefix? front (front ++ rest) = some rest := by
  induction front with
  | nil => rfl
  | cons c front ih => exact (if_pos rfl).trans ih

theorem isSome_dropPrefix?_iff {front xs : List α} :
    (dropPrefix? front xs).isSome = true ↔ front <+: xs := by
  rw [Option.isSome_iff_exists]
  constructor
  · rintro ⟨rest, h⟩
    exact ⟨rest, (eq_append_of_dropPrefix? h).symm⟩
  · rintro ⟨rest, rfl⟩
    exact ⟨rest, dropPrefix?_append front rest⟩

theorem dropSuffix?_append (front back : List α) :
    dropSuffix? back (front ++ back) = some front := by
  unfold dropSuffix?
  rw [List.reverse_append, dropPrefix?_append, Option.map_some, List.reverse_reverse]

theorem dropSuffix?_concat {x y : α} (h : x ≠ y) (xs : List α) :
    dropSuffix? [x] (xs ++ [y]) = none := by
  unfold dropSuffix?
  rw [List.reverse_concat, List.reverse_singleton, dropPrefix?, if_neg h, Option.map_none]

/-! ## The longest front -/

omit [DecidableEq α] in
/-- The longest front of some elements is told from a rest that begins with none of them. -/
theorem takeWhile_append {p : α → Bool} {front rest : List α} (h : ∀ x ∈ front, p x = true)
    (hrest : ∀ x ∈ rest.head?, p x = false) :
    (front ++ rest).takeWhile p = front ∧ (front ++ rest).dropWhile p = rest := by
  induction front with
  | nil =>
    cases rest with
    | nil => exact ⟨rfl, rfl⟩
    | cons x rest =>
      have hx : p x = false := hrest x rfl
      exact ⟨List.takeWhile_cons_of_neg (by simp [hx]),
        List.dropWhile_cons_of_neg (by simp [hx])⟩
  | cons x front ih =>
    obtain ⟨htake, hdrop⟩ := ih fun y hy => h y (List.mem_cons_of_mem _ hy)
    have hx : p x = true := h x List.mem_cons_self
    rw [List.cons_append, List.takeWhile_cons_of_pos hx, List.dropWhile_cons_of_pos hx, htake,
      hdrop]
    exact ⟨rfl, rfl⟩

/-! ## Joining -/

omit [DecidableEq α] in
/-- What is joined consists of separators and of the parts. -/
theorem mem_intercalate {sep : List α} {parts : List (List α)} {x : α}
    (h : x ∈ sep.intercalate parts) : x ∈ sep ∨ ∃ part ∈ parts, x ∈ part := by
  induction parts with
  | nil => cases h
  | cons part parts ih =>
    cases parts with
    | nil =>
      rw [List.intercalate_singleton] at h
      exact .inr ⟨part, List.mem_cons_self, h⟩
    | cons next parts =>
      rw [List.intercalate_cons_cons, List.mem_append, List.mem_append] at h
      rcases h with (h | h) | h
      · exact .inr ⟨part, List.mem_cons_self, h⟩
      · exact .inl h
      · rcases ih h with hsep | ⟨other, hother, hx⟩
        · exact .inl hsep
        · exact .inr ⟨other, List.mem_cons_of_mem _ hother, hx⟩

/-- Pieces joined with the separator that they were cut at give the list back. -/
theorem intercalate_splitOn (sep : α) (xs : List α) : [sep].intercalate (splitOn sep xs) = xs := by
  induction xs with
  | nil => rfl
  | cons x xs ih =>
    rw [splitOn]
    cases hsplit : splitOn sep xs with
    | nil => exact absurd hsplit (splitOn_ne_nil sep xs)
    | cons piece pieces =>
      rw [hsplit] at ih
      split
      · rename_i hx
        rw [List.intercalate_cons_cons, ih, hx]
        rfl
      · show [sep].intercalate ((x :: piece) :: pieces) = x :: xs
        rw [← ih]
        cases pieces with
        | nil => rfl
        | cons next pieces =>
          rw [List.intercalate_cons_cons, List.intercalate_cons_cons]
          rfl

end OpenIdProvider.Split
