/-
  JSON values. A number is an exact integer or a binary64 number; an object is the list of its
  members. The maps of claims keep their members in the order of their names, without repetition.
-/
import OpenIdProvider.Number.Notation

namespace OpenIdProvider

inductive Json.Number
  | int (i : Int)
  | float (x : Binary64)
deriving DecidableEq, Repr

inductive Json
  | null
  | bool (b : Bool)
  | number (n : Json.Number)
  | string (s : String)
  | array (items : List Json)
  | object (members : List (String × Json))
deriving Repr, Inhabited, BEq

namespace Json

def ofInt (i : Int) : Json := .number (.int i)

def ofStrings (ss : List String) : Json := .array (ss.map .string)

/-- The text of a string value. -/
def asString? : Json → Option String
  | .string s => some s
  | _ => none

/-- The number nearest to a number value. -/
def asBinary64? : Json → Option Binary64
  | .number (.int i) => some (Binary64.ofInt i)
  | .number (.float x) => some x
  | _ => none

end Json

/-- The members of a map, in the order of their names. -/
abbrev Members := List (String × Json)

namespace Members

/-- Sets the member of a name; a member of that name is replaced. -/
def insert (name : String) (value : Json) : Members → Members
  | [] => [(name, value)]
  | (n, v) :: rest =>
    if name = n then (name, value) :: rest
    else if name < n then (name, value) :: (n, v) :: rest
    else (n, v) :: insert name value rest

/-- The value of a name. -/
def get? (name : String) : Members → Option Json
  | [] => none
  | (n, v) :: rest => if name = n then some v else get? name rest

/-- Sets members one after the other, so that the last of a name remains. -/
def insertAll (ms : Members) (new : List (String × Json)) : Members :=
  new.foldl (fun acc m => acc.insert m.1 m.2) ms

def ofList (ms : List (String × Json)) : Members := insertAll [] ms

end Members

end OpenIdProvider
