/-
  Encoded values read back. A reader takes from the front of some bytes the value that was written
  there and leaves the bytes after it, as long as the content of the value is not too long for any
  reader.
-/
import OpenIdProvider.Codec.Der
import OpenIdProvider.Proofs.Number.BigEndian
import OpenIdProvider.Proofs.Text.Utf8

namespace OpenIdProvider.Der

/-! ## Lengths -/

/-- Every length that a value may have takes at most four bytes. -/
theorem length_bytes_le {n : Nat} (h : n ≤ greatestLength) : (BigEndian.bytes n).length ≤ 4 := by
  have hlt : n < 256 ^ 4 := Nat.lt_of_le_of_lt h (by decide)
  exact BigEndian.length_bytesOnto_le hlt []

theorem readLength?_length {n : Nat} (h : n ≤ greatestLength) (rest : List UInt8) :
    readLength? (length n ++ rest) = some (n, rest) := by
  by_cases hshort : n < 128
  · have hbyte : (UInt8.ofNat n).toNat = n := Utf8.toNat_byte (by omega)
    have hlow : UInt8.ofNat n < 0x80 := by
      rw [UInt8.lt_iff_toNat_lt, hbyte]
      exact hshort
    rw [length, if_pos hshort, List.singleton_append, readLength?, if_pos hlow, hbyte]
  · have hfour := length_bytes_le h
    have hpos : 0 < (BigEndian.bytes n).length :=
      List.length_pos_iff.2 (BigEndian.bytes_ne_nil (by omega))
    have hlength : length n =
        UInt8.ofNat (128 + (BigEndian.bytes n).length) :: BigEndian.bytes n := if_neg hshort
    have hvalue := BigEndian.value_bytes n
    rw [hlength, List.cons_append, readLength?]
    generalize hbytes : BigEndian.bytes n = bs at hfour hpos hlength hvalue
    have hbyte : (UInt8.ofNat (128 + bs.length)).toNat = 128 + bs.length :=
      Utf8.toNat_byte (by omega)
    have hhigh : ¬ UInt8.ofNat (128 + bs.length) < 0x80 := by
      rw [UInt8.lt_iff_toNat_lt, hbyte]
      exact Nat.not_lt.2 (Nat.le_add_right 128 _)
    have hcount : 128 + bs.length - 128 = bs.length := by omega
    rw [if_neg hhigh]
    simp only [hbyte, hcount, List.take_left, List.drop_left, hvalue, List.length_append]
    rw [if_neg (by omega), if_pos hlength]

/-! ## Values -/

theorem length_content_le (tag : UInt8) (content : List UInt8) :
    content.length ≤ (element tag content).length := by
  rw [element, List.cons_append, List.length_cons, List.length_append]
  omega

theorem readElement?_element (tag : UInt8) {content : List UInt8}
    (h : content.length ≤ greatestLength) (rest : List UInt8) :
    readElement? (element tag content ++ rest) = some (tag, content, rest) := by
  rw [element, List.cons_append, List.cons_append, List.append_assoc, readElement?,
    readLength?_length h]
  show (if (content ++ rest).length < content.length then none else some _) = _
  rw [if_neg (by rw [List.length_append]; omega), List.take_left, List.drop_left]

theorem readTagged?_element (tag : UInt8) {content : List UInt8}
    (h : content.length ≤ greatestLength) (rest : List UInt8) :
    readTagged? tag (element tag content ++ rest) = some (content, rest) := by
  rw [readTagged?, readElement?_element tag h]
  exact if_pos rfl

/-- A value that is not too long is read as a whole. -/
theorem readWhole?_element {tag : UInt8} {content : List UInt8}
    (h : (element tag content).length ≤ greatestLength) :
    readWhole? tag (element tag content) = some content := by
  have hread := readTagged?_element tag (Nat.le_trans (length_content_le tag content) h) []
  rw [List.append_nil] at hread
  rw [readWhole?, hread]
  exact if_pos ⟨rfl, h⟩

/-! ## Numbers -/

theorem value_naturalContent (n : Nat) : BigEndian.value (naturalContent n) = n := by
  have hvalue := BigEndian.value_bytes n
  unfold naturalContent
  split
  · rename_i hbytes
    rw [hbytes] at hvalue
    exact hvalue
  · rename_i b bs hbytes
    rw [hbytes] at hvalue
    split
    · exact (BigEndian.value_zeros 1 (b :: bs)).trans hvalue
    · exact hvalue

theorem readNatural?_natural {n : Nat} (h : (natural n).length ≤ greatestLength)
    (rest : List UInt8) : readNatural? (natural n ++ rest) = some (n, rest) := by
  rw [readNatural?, natural,
    readTagged?_element integerTag (Nat.le_trans (length_content_le _ _) h) rest]
  show (if naturalContent n = naturalContent (BigEndian.value (naturalContent n)) then _ else _) = _
  rw [value_naturalContent, if_pos rfl]

/-- Of numbers that stand one after another, the first is read and the others are left. -/
theorem readNatural?_naturals {n : Nat} {ns : List Nat}
    (h : ((n :: ns).map natural).flatten.length ≤ greatestLength) :
    readNatural? ((n :: ns).map natural).flatten = some (n, (ns.map natural).flatten) ∧
      (ns.map natural).flatten.length ≤ greatestLength := by
  rw [List.map_cons, List.flatten_cons] at h ⊢
  rw [List.length_append] at h
  exact ⟨readNatural?_natural (by omega) _, by omega⟩

end OpenIdProvider.Der
