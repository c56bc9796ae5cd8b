/-
  Users written in YAML.
-/
import OpenIdProvider.User
import OpenIdProvider.Yaml.Decoding

namespace OpenIdProvider.User

open Yaml (Node)

/-- How each datum of a user is read. -/
def nodeFields : List (String × (User → Node → Option User)) :=
  [("subject", fun u n => n.text?.map fun s => { u with subject := s }),
    ("email", fun u n => n.text?.map fun s => { u with email := s }),
    ("email_verified", fun u n => n.bool?.map fun b => { u with emailVerified := b }),
    ("preferred_username", fun u n => n.text?.map fun s => { u with preferredUsername := s }),
    ("phone", fun u n => n.text?.map fun s => { u with phone := s }),
    ("address", fun u n => n.text?.map fun s => { u with address := s }),
    ("groups", fun u n => (n.list? Node.text?).map fun gs => { u with groups := gs })]

/-- The user of a mapping. All but the subject may be absent. -/
def ofNode? (n : Node) : Option User := do
  let (u, seen) ← n.record? nodeFields (ofSubject "")
  if seen.contains "subject" then some u else none

/-- The user of a YAML text. -/
def ofYaml? (text : String) : Option User := (Node.ofText? text).bind ofNode?

end OpenIdProvider.User
