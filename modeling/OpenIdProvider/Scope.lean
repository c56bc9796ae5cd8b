/-
  Scopes: the names of what a client asks for, separated by single spaces.
-/
import OpenIdProvider.Text.Split

namespace OpenIdProvider.Scope

/-- With this scope first, a client gets an ID token. -/
def openid : String := "openid"

/-- Releases the address of electronic mail and whether it is verified. -/
def email : String := "email"

/-- Releases the groups of a user. -/
def groups : String := "groups"

/-- Releases the preferred name, the telephone number and the postal address. -/
def profile : String := "profile"

/-- The scopes that may be requested. -/
def supported : List String := [openid, email, groups, profile]

/-- The names between single spaces. -/
def parse (scope : String) : List String := (Split.splitOn ' ' scope.toList).map String.ofList

end OpenIdProvider.Scope
