/-
  Synthetic users: their data, the claims that scopes release, and the supply of the users that
  authorization requests are bound to.
-/
import OpenIdProvider.Json.Failure
import OpenIdProvider.Queue
import OpenIdProvider.Scope

namespace OpenIdProvider

/-- A synthetic user. -/
structure User where
  subject : String
  email : String
  emailVerified : Bool
  preferredUsername : String
  phone : String
  address : String
  groups : List String
deriving DecidableEq, Repr

namespace User

/-- The user that stands in when none is queued. -/
def jane : User where
  subject := "1234567890"
  email := "jane.doe@example.com"
  emailVerified := true
  preferredUsername := "jane.doe"
  phone := "555-987-6543"
  address := "123 Main Street"
  groups := ["engineering", "design"]

/-- A user of whom only the subject is known. -/
def ofSubject (subject : String) : User := ⟨subject, "", false, "", "", "", []⟩

/-! ## Claims -/

/-- Sets a text claim unless it is empty. -/
def insertText (name value : String) (claims : Members) : Members :=
  if value = "" then claims else claims.insert name (.string value)

/-- Adds the claims that one scope releases. -/
def release (u : User) (claims : Members) (scope : String) : Members :=
  if scope = Scope.profile then
    insertText "address" u.address
      (insertText "phone_number" u.phone
        (insertText "preferred_username" u.preferredUsername claims))
  else if scope = Scope.email then
    (insertText "email" u.email claims).insert "email_verified" (.bool u.emailVerified)
  else if scope = Scope.groups then
    if u.groups = [] then claims else claims.insert "groups" (Json.ofStrings u.groups)
  else claims

/-- The claims that some scopes release. The subject is always among them; empty data is left out,
and unknown scopes release nothing. -/
def scopedClaims (u : User) (scopes : List String) : Members :=
  scopes.foldl u.release (Members.ofList [("sub", .string u.subject)])

/-! ## JSON -/

/-- The data of a user as an object. -/
def toJson (u : User) : Json :=
  .object [("subject", .string u.subject), ("email", .string u.email),
    ("email_verified", .bool u.emailVerified),
    ("preferred_username", .string u.preferredUsername), ("phone", .string u.phone),
    ("address", .string u.address), ("groups", Json.ofStrings u.groups)]

def textOf : Json → Except Json.Cause String
  | .string s => .ok s
  | v => .error (.invalidType (Json.found v) "a string")

def flagOf : Json → Except Json.Cause Bool
  | .bool b => .ok b
  | v => .error (.invalidType (Json.found v) "a boolean")

def textsOf : Json → Except Json.Cause (List String)
  | .array items => items.mapM textOf
  | v => .error (.invalidType (Json.found v) "a sequence")

/-- The names of the data, in the order in which an array gives them. -/
def fieldNames : List String :=
  ["subject", "email", "email_verified", "preferred_username", "phone", "address", "groups"]

/-- Sets the datum of a name; other names change nothing. -/
def setField (u : User) (name : String) (value : Json) : Except Json.Cause User :=
  match name with
  | "subject" => (textOf value).map fun s => { u with subject := s }
  | "email" => (textOf value).map fun s => { u with email := s }
  | "email_verified" => (flagOf value).map fun b => { u with emailVerified := b }
  | "preferred_username" => (textOf value).map fun s => { u with preferredUsername := s }
  | "phone" => (textOf value).map fun s => { u with phone := s }
  | "address" => (textOf value).map fun s => { u with address := s }
  | "groups" => (textsOf value).map fun gs => { u with groups := gs }
  | _ => .ok u

/-- The user of an object, or of an array of its data in order. All but the subject may be absent,
unknown members are ignored. -/
def ofJson (v : Json) : Except Json.Cause User :=
  match v with
  | .object members => do
    let u ← members.foldlM (fun u m => u.setField m.1 m.2) (ofSubject "")
    if members.any fun m => m.1 == "subject" then .ok u else .error (.missingField "subject")
  | .array [] => .error (.invalidLength 0 "struct MockUser with 7 elements")
  | .array items => do
    let u ← (fieldNames.zip items).foldlM (fun u m => u.setField m.1 m.2) (ofSubject "")
    if items.length ≤ fieldNames.length then .ok u
    else .error (.invalidLength items.length "fewer elements in array")
  | v => .error (.invalidType (Json.found v) "struct MockUser")

end User

/-- The users waiting for authorization requests, and the one that stands in when none waits. -/
structure UserSupply where
  queue : Queue User
  fallback : User
deriving DecidableEq, Repr

namespace UserSupply

def ofFallback (u : User) : UserSupply := ⟨.empty, u⟩

def push (s : UserSupply) (u : User) : UserSupply := { s with queue := s.queue.push u }

/-- The user of the next request, and the supply without it. -/
def next (s : UserSupply) : User × UserSupply :=
  let (u, queue) := s.queue.pop
  (u.getD s.fallback, { s with queue := queue })

end UserSupply

end OpenIdProvider
