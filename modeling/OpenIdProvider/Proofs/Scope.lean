/-
  The grammar of scopes. `Scope.Sequence` says which texts are names of supported scopes with single
  spaces between them. It is what is left of a text when all its pieces are supported, however
  often the names occur and in whatever order; a space in front, at the end or after another one
  leaves an empty piece, which is not.
-/
import Mathlib.Data.Bool.AllAny
import OpenIdProvider.Proofs.Text.Split
import OpenIdProvider.Scope

namespace OpenIdProvider.Scope

/-- One name or more, with single spaces between them. -/
inductive Sequence : String → Prop
  | one {name : String} (h : name ∈ ["openid", "email", "groups", "profile"]) : Sequence name
  | more {name rest : String} (h : name ∈ ["openid", "email", "groups", "profile"])
      (hrest : Sequence rest) : Sequence (name ++ " " ++ rest)

/-! ## Pieces -/

/-- The requested scopes are the names that the parameter gives, separated by single spaces. -/
theorem intercalate_parse (scope : String) : " ".intercalate (parse scope) = scope := by
  have hspace : " ".toList = [' '] := rfl
  have hchars : String.toList ∘ String.ofList = id := funext fun _ => String.toList_ofList
  rw [← String.toList_inj, String.toList_intercalate, hspace, parse, List.map_map, hchars,
    List.map_id, Split.intercalate_splitOn]

theorem parse_ne_nil (scope : String) : parse scope ≠ [] := by
  unfold parse
  rw [Ne, List.map_eq_nil_iff]
  exact Split.splitOn_ne_nil ' ' scope.toList

/-- A piece holds no space. -/
theorem space_not_mem_of_mem_parse {scope piece : String} (h : piece ∈ parse scope) :
    ' ' ∉ piece.toList := by
  obtain ⟨cs, hcs, rfl⟩ := List.mem_map.1 h
  rw [String.toList_ofList]
  exact Split.sep_not_mem_of_mem_splitOn hcs

theorem parse_of_not_mem {name : String} (h : ' ' ∉ name.toList) : parse name = [name] := by
  unfold parse
  rw [Split.splitOn_of_not_mem h, List.map_singleton, String.ofList_toList]

theorem parse_append {name : String} (h : ' ' ∉ name.toList) (rest : String) :
    parse (name ++ " " ++ rest) = name :: parse rest := by
  have hchars : (name ++ " " ++ rest).toList = name.toList ++ ' ' :: rest.toList := by
    rw [String.toList_append, String.toList_append, List.append_assoc]
    rfl
  unfold parse
  rw [hchars, Split.splitOn_append h, List.map_cons, String.ofList_toList]

/-! ## Names -/

theorem space_not_mem_of_supported {name : String} (h : name ∈ supported) :
    ' ' ∉ name.toList := by
  have hall : ∀ name ∈ supported, ' ' ∉ name.toList := List.all_iff_forall_prop.1 (by decide)
  exact hall name h

theorem Sequence.parse_supported {scope : String} (h : Sequence scope) :
    ∀ piece ∈ parse scope, piece ∈ supported := by
  induction h with
  | one h =>
    rw [parse_of_not_mem (space_not_mem_of_supported h)]
    exact List.forall_mem_singleton.2 h
  | more h hrest ih =>
    rw [parse_append (space_not_mem_of_supported h)]
    exact List.forall_mem_cons.2 ⟨h, ih⟩

theorem sequence_intercalate {pieces : List String} (hne : pieces ≠ [])
    (h : ∀ piece ∈ pieces, piece ∈ supported) : Sequence (" ".intercalate pieces) := by
  induction pieces with
  | nil => exact absurd rfl hne
  | cons piece pieces ih =>
    obtain ⟨hpiece, hpieces⟩ := List.forall_mem_cons.1 h
    cases pieces with
    | nil =>
      rw [String.intercalate_singleton]
      exact .one hpiece
    | cons next pieces =>
      rw [String.intercalate_cons_cons]
      exact .more hpiece (ih (List.cons_ne_nil _ _) hpieces)

/-- A text is a sequence of names exactly when all its pieces are names. -/
theorem sequence_iff {scope : String} :
    Sequence scope ↔ ∀ piece ∈ parse scope, piece ∈ supported := by
  refine ⟨Sequence.parse_supported, fun h => ?_⟩
  rw [← intercalate_parse scope]
  exact sequence_intercalate (parse_ne_nil scope) h

/-- The first piece of a text asks for an ID token. -/
theorem head?_parse_eq_openid_iff {scope : String} :
    (parse scope).head? = some openid ↔
      scope = "openid" ∨ ∃ rest, scope = "openid " ++ rest := by
  have hspace : ' ' ∉ openid.toList := by decide
  constructor
  · intro h
    have hscope := intercalate_parse scope
    cases hparse : parse scope with
    | nil => exact absurd hparse (parse_ne_nil scope)
    | cons first pieces =>
      rw [hparse] at h hscope
      obtain rfl : first = "openid" := Option.some.inj h
      cases pieces with
      | nil =>
        rw [String.intercalate_singleton] at hscope
        exact .inl hscope.symm
      | cons next pieces =>
        rw [String.intercalate_cons_cons] at hscope
        exact .inr ⟨_, hscope.symm⟩
  · rintro (rfl | ⟨rest, rfl⟩)
    · exact congrArg List.head? (parse_of_not_mem hspace)
    · exact congrArg List.head? (parse_append hspace rest)

/-- A space at an end or after another one is no part of a sequence. -/
example : ¬ Sequence "openid  email" := by
  rw [sequence_iff]
  decide

end OpenIdProvider.Scope
