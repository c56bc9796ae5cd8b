/-
  A provider: what stays fixed while it runs, what changes, and how a request can end.
-/
import OpenIdProvider.Clock
import OpenIdProvider.ProtocolError
import OpenIdProvider.Session.Store

namespace OpenIdProvider

/-- What stays fixed: the settings, who signs, and the sequence of random identifiers. -/
structure Provider where
  settings : Settings
  keys : KeyAuthority
  randomId : Nat → String

/-- What changes: the sessions, the waiting users and errors, and the clock. -/
structure ProviderState where
  store : SessionStore
  users : UserSupply
  errors : Queue ProtocolError
  clock : Clock

/-- A provider that has answered no request yet. -/
def ProviderState.initial (fallback : User) (clock : Clock) : ProviderState :=
  ⟨.empty, .ofFallback fallback, .empty, clock⟩

/-- How a request ends. It is aborted when an instant leaves the representable dates; what it has
changed until then stays changed. -/
inductive Outcome (α : Type)
  | answered (x : α)
  | rejected (e : ProtocolError)
  | aborted
deriving Repr

namespace Outcome

variable {α : Type}

def ofExcept : Except ProtocolError α → Outcome α
  | .ok x => answered x
  | .error e => rejected e

/-- The response of an outcome, none if it is aborted. -/
def respond {ρ : Type} (answer : α → ρ) (error : ProtocolError → ρ) : Outcome α → Option ρ
  | answered x => some (answer x)
  | rejected e => some (error e)
  | aborted => none

end Outcome

end OpenIdProvider
