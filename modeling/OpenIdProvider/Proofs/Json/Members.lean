/-
  Maps of claims. Setting a member is seen through `get?`: the value of its name changes and no
  other. Maps keep the order of the names, and a list of members in that order is the map that is
  made of it.
-/
import Mathlib.Data.List.Induction
import Mathlib.Data.List.Nodup
import OpenIdProvider.Json.Basic

namespace OpenIdProvider.Members

/-! ## Looking up -/

theorem get?_insert (name : String) (value : Json) (ms : Members) (other : String) :
    (ms.insert name value).get? other = if other = name then some value else ms.get? other := by
  induction ms with
  | nil => rfl
  | cons m ms ih =>
    obtain ⟨n, v⟩ := m
    by_cases hname : name = n
    · subst hname
      rw [insert, if_pos rfl]
      by_cases hother : other = name <;> simp [get?, hother]
    · rw [insert, if_neg hname]
      by_cases hlt : name < n
      · rw [if_pos hlt]
        rfl
      · rw [if_neg hlt, get?, get?, ih]
        by_cases hother : other = n
        · simp [hother, Ne.symm hname]
        · simp [hother]

/-- The last of several members of a name remains. -/
theorem get?_insertAll (ms : Members) (new : List (String × Json)) (name : String) :
    (ms.insertAll new).get? name = (get? name new.reverse).or (ms.get? name) := by
  induction new using List.reverseRecOn with
  | nil => rfl
  | append_singleton new m ih =>
    obtain ⟨n, v⟩ := m
    unfold insertAll at ih ⊢
    rw [List.foldl_append, List.reverse_append]
    simp only [List.foldl_cons, List.foldl_nil, List.reverse_cons, List.reverse_nil,
      List.nil_append, List.cons_append, get?_insert, get?]
    by_cases hname : name = n
    · simp [hname]
    · simp [hname, ih]

/-- Of a list of members the last of a name is found. -/
theorem get?_ofList (ms : List (String × Json)) (name : String) :
    (ofList ms).get? name = get? name ms.reverse := by
  unfold ofList
  rw [get?_insertAll]
  exact Option.or_none

theorem mem_insert {name : String} {value : Json} {ms : Members} {m : String × Json}
    (h : m ∈ ms.insert name value) : m = (name, value) ∨ m ∈ ms := by
  induction ms with
  | nil => exact .inl (List.mem_singleton.1 h)
  | cons first ms ih =>
    obtain ⟨n, v⟩ := first
    unfold insert at h
    split at h
    · rcases List.mem_cons.1 h with h | h
      · exact .inl h
      · exact .inr (List.mem_cons_of_mem _ h)
    · split at h
      · exact List.mem_cons.1 h
      · rcases List.mem_cons.1 h with rfl | h
        · exact .inr List.mem_cons_self
        · exact (ih h).imp_right (List.mem_cons_of_mem _)

theorem mem_insertAll {ms : Members} {new : List (String × Json)} {m : String × Json}
    (h : m ∈ ms.insertAll new) : m ∈ new ∨ m ∈ ms := by
  unfold insertAll at h
  induction new generalizing ms with
  | nil => exact .inr h
  | cons first new ih =>
    rcases ih h with h | h
    · exact .inl (List.mem_cons_of_mem _ h)
    · rcases mem_insert h with rfl | h
      · exact .inl List.mem_cons_self
      · exact .inr h

/-! ## The order of names -/

/-- The names are in order, and none occurs twice. -/
def Sorted (ms : Members) : Prop := ms.Pairwise fun m n => m.1 < n.1

theorem sorted_nil : Sorted [] := List.Pairwise.nil

theorem sorted_insert {ms : Members} (h : ms.Sorted) (name : String) (value : Json) :
    (ms.insert name value).Sorted := by
  induction ms with
  | nil => exact List.pairwise_singleton _ _
  | cons m ms ih =>
    obtain ⟨n, v⟩ := m
    obtain ⟨hfirst, hrest⟩ := List.pairwise_cons.1 h
    unfold insert
    split
    · rename_i hname
      refine List.pairwise_cons.2 ⟨fun m hm => ?_, hrest⟩
      rw [hname]
      exact hfirst m hm
    · rename_i hname
      split
      · rename_i hlt
        refine List.pairwise_cons.2 ⟨fun m hm => ?_, h⟩
        rcases List.mem_cons.1 hm with rfl | hm
        · exact hlt
        · exact String.lt_trans hlt (hfirst m hm)
      · rename_i hlt
        refine List.pairwise_cons.2 ⟨fun m hm => ?_, ih hrest⟩
        rcases mem_insert hm with rfl | hm
        · by_cases hgt : n < name
          · exact hgt
          · exact absurd (String.le_antisymm (String.not_lt.1 hgt) (String.not_lt.1 hlt)) hname
        · exact hfirst m hm

theorem sorted_insertAll {ms : Members} (h : ms.Sorted) (new : List (String × Json)) :
    (ms.insertAll new).Sorted := by
  unfold insertAll
  induction new generalizing ms with
  | nil => exact h
  | cons m new ih => exact ih (sorted_insert h m.1 m.2)

theorem sorted_ofList (ms : List (String × Json)) : (ofList ms).Sorted :=
  sorted_insertAll sorted_nil ms

/-- A member whose name comes after all others is put at the end. -/
theorem insert_of_lt {ms : Members} {name : String} (h : ∀ m ∈ ms, m.1 < name) (value : Json) :
    ms.insert name value = ms ++ [(name, value)] := by
  induction ms with
  | nil => rfl
  | cons m ms ih =>
    obtain ⟨n, v⟩ := m
    have hlt : n < name := h (n, v) List.mem_cons_self
    rw [insert, if_neg (String.ne_of_lt hlt).symm, if_neg (String.lt_asymm hlt),
      ih fun m hm => h m (List.mem_cons_of_mem _ hm)]
    rfl

/-- Members in order are the map that is made of them. -/
theorem ofList_of_sorted {ms : List (String × Json)} (h : Sorted ms) : ofList ms = ms := by
  induction ms using List.reverseRecOn with
  | nil => rfl
  | append_singleton ms m ih =>
    obtain ⟨hfront, -, hlast⟩ := List.pairwise_append.1 h
    have hfold : ofList (ms ++ [m]) = (ofList ms).insert m.1 m.2 := by
      unfold ofList insertAll
      rw [List.foldl_append]
      rfl
    rw [hfold, ih hfront]
    exact insert_of_lt (fun n hn => hlast n hn m List.mem_cons_self) m.2

theorem nodup_names {ms : Members} (h : ms.Sorted) : (ms.map Prod.fst).Nodup := by
  rw [List.nodup_iff_pairwise_ne, List.pairwise_map]
  exact h.imp String.ne_of_lt

/-! ## The members of distinct names -/

theorem get?_append (ms ns : Members) (name : String) :
    get? name (ms ++ ns) = (get? name ms).or (get? name ns) := by
  induction ms with
  | nil => rfl
  | cons m ms ih =>
    rw [List.cons_append, get?, get?, ih]
    split <;> rfl

theorem get?_eq_none_iff {ms : Members} {name : String} :
    get? name ms = none ↔ name ∉ ms.map Prod.fst := by
  induction ms with
  | nil => exact iff_of_true rfl List.not_mem_nil
  | cons m ms ih =>
    rw [get?, List.map_cons, List.mem_cons, not_or, ← ih]
    split
    · rename_i hname
      exact iff_of_false nofun fun h => h.1 hname
    · rename_i hname
      exact (and_iff_right hname).symm

/-- Where no name is given twice, the members are the values of their names. -/
theorem mem_iff_get? {ms : Members} (h : (ms.map Prod.fst).Nodup) {name : String} {value : Json} :
    (name, value) ∈ ms ↔ get? name ms = some value := by
  induction ms with
  | nil => exact iff_of_false List.not_mem_nil nofun
  | cons m ms ih =>
    obtain ⟨hfirst, hrest⟩ := List.nodup_cons.1 h
    rw [List.mem_cons, get?, ih hrest]
    split
    · rename_i hname
      have hnone : get? name ms = none := get?_eq_none_iff.2 (hname ▸ hfirst)
      rw [hnone]
      constructor
      · rintro (rfl | h)
        · rfl
        · cases h
      · intro h
        obtain rfl := Option.some.inj h
        exact .inl (Prod.ext hname rfl)
    · rename_i hname
      exact or_iff_right fun heq => hname (congrArg Prod.fst heq)

/-- Members with the same values are the same in some order. -/
theorem perm_of_get? {ms ns : Members} (hms : (ms.map Prod.fst).Nodup)
    (hns : (ns.map Prod.fst).Nodup) (h : ∀ name, get? name ms = get? name ns) : ms.Perm ns := by
  refine (List.perm_ext_iff_of_nodup hms.of_map hns.of_map).2 fun m => ?_
  rw [mem_iff_get? hms, mem_iff_get? hns, h]

end OpenIdProvider.Members
