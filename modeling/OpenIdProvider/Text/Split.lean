/-
  Cutting lists at separators. `splitOn` keeps empty pieces, so that joining the pieces with the
  separator gives the list back; `splitOnce` cuts at the first separator, `splitLast` at the last.
-/

namespace OpenIdProvider.Split

variable {α : Type} [DecidableEq α]

/-- The pieces between separators, always at least one. -/
def splitOn (sep : α) : List α → List (List α)
  | [] => [[]]
  | x :: xs =>
    if x = sep then [] :: splitOn sep xs
    else match splitOn sep xs with
      | [] => [[x]]
      | p :: ps => (x :: p) :: ps

/-- What stands before and after the first separator. -/
def splitOnce (sep : α) : List α → Option (List α × List α)
  | [] => none
  | x :: xs =>
    if x = sep then some ([], xs)
    else (splitOnce sep xs).map fun (a, b) => (x :: a, b)

/-- What stands before and after the last separator. -/
def splitLast (sep : α) : List α → Option (List α × List α)
  | [] => none
  | x :: xs =>
    match splitLast sep xs with
    | some (a, b) => some (x :: a, b)
    | none => if x = sep then some ([], xs) else none

/-- The list after `front`, if it starts with it. -/
def dropPrefix? (front : List α) (xs : List α) : Option (List α) :=
  match front, xs with
  | [], xs => some xs
  | _ :: _, [] => none
  | p :: ps, x :: xs => if p = x then dropPrefix? ps xs else none

/-- The list before `back`, if it ends with it. -/
def dropSuffix? (back : List α) (xs : List α) : Option (List α) :=
  (dropPrefix? back.reverse xs.reverse).map List.reverse

end OpenIdProvider.Split
