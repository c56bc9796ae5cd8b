/-
  Composed texts. What stands at the end of a text joins nothing after it, and no ASCII character
  joins what stands before it, so an ASCII character at the end is still there when the text is
  composed (`mem_compose_concat`).
-/
import OpenIdProvider.Unicode.Composition

namespace OpenIdProvider.Unicode

/-! ## Marks in order -/

theorem mem_putMark (c : Char) (cs : List Char) : c ∈ putMark c cs := by
  induction cs with
  | nil => exact List.mem_singleton.2 rfl
  | cons d cs ih =>
    rw [putMark]
    split
    · exact List.mem_cons_of_mem d ih
    · exact List.mem_cons_self

/-- What stands at the end stays there, unless it is a mark. -/
theorem orderMarks_concat (cs : List Char) (c : Char) :
    combiningClass c = 0 ∧ orderMarks (cs ++ [c]) = orderMarks cs ++ [c] ∨
      combiningClass c ≠ 0 ∧ c ∈ orderMarks (cs ++ [c]) := by
  unfold orderMarks
  rw [List.foldl_append, List.foldl_cons, List.foldl_nil]
  by_cases hclass : combiningClass c = 0
  · refine .inl ⟨hclass, ?_⟩
    rw [if_pos hclass, List.reverse_cons]
  · refine .inr ⟨hclass, ?_⟩
    rw [if_neg hclass, List.mem_reverse]
    exact mem_putMark c _

/-! ## Putting together -/

namespace Assembly

/-- A character that nothing can join any more. -/
def Settled (a : Assembly) (c : Char) : Prop := c ∈ a.marks ∨ c ∈ a.complete

theorem Settled.mem_close {a : Assembly} {c : Char} (h : a.Settled c) : c ∈ a.close := by
  unfold close
  simp only [List.mem_append]
  exact h.imp .inl id

/-- Nothing below U+0300 joins the character before it. -/
theorem push_of_lt {c : Char} (h : c.toNat < 0x300) (a : Assembly) :
    a.push c = if combiningClass c = 0 then ⟨a.close, some c, []⟩
      else { a with marks := c :: a.marks } := by
  have hnone (b : Char) : whole? b c = none := by rw [whole?, if_pos h]
  unfold push
  simp only [hnone, ite_self]
  cases a.base <;> rfl

theorem Settled.push {a : Assembly} {c : Char} (h : a.Settled c) (d : Char) :
    (a.push d).Settled c := by
  unfold Assembly.push
  simp only
  split
  · exact h
  · split
    · exact .inr h.mem_close
    · exact h.imp_left (List.mem_cons_of_mem d)

theorem Settled.foldl {a : Assembly} {c : Char} (h : a.Settled c) (cs : List Char) :
    (cs.foldl Assembly.push a).Settled c := by
  induction cs generalizing a with
  | nil => exact h
  | cons d cs ih => exact ih (h.push d)

/-- A mark that joins nothing is settled once it is there. -/
theorem settled_of_mem {c : Char} (h : c.toNat < 0x300) (hclass : combiningClass c ≠ 0)
    {cs : List Char} (hmem : c ∈ cs) (a : Assembly) :
    (cs.foldl push a).Settled c := by
  induction cs generalizing a with
  | nil => cases hmem
  | cons d cs ih =>
    rcases List.mem_cons.1 hmem with rfl | hmem
    · refine Settled.foldl (.inl ?_) cs
      rw [push_of_lt h, if_neg hclass]
      exact List.mem_cons_self
    · exact ih hmem (a.push d)

end Assembly

/-! ## Composing -/

theorem takeApart_of_ascii {c : Char} (h : c.toNat < 0x80) : takeApart depth c = [c] := by
  rw [depth, takeApart, if_pos h]

/-- An ASCII character at the end of a text is in its composed form. -/
theorem mem_compose_concat {c : Char} (h : c.toNat < 0x80) (cs : List Char) :
    c ∈ compose (cs ++ [c]) := by
  unfold compose
  rw [List.mem_reverse, List.flatMap_append, List.flatMap_singleton, takeApart_of_ascii h]
  generalize cs.flatMap (takeApart depth) = parts
  rcases orderMarks_concat parts c with ⟨hclass, horder⟩ | ⟨hclass, hmem⟩
  · rw [horder, List.foldl_append, List.foldl_cons, List.foldl_nil,
      Assembly.push_of_lt (by omega), if_pos hclass]
    exact List.mem_append_left _ (List.mem_append_right _ (List.mem_singleton.2 rfl))
  · exact (Assembly.settled_of_mem (by omega) hclass hmem _).mem_close

end OpenIdProvider.Unicode
