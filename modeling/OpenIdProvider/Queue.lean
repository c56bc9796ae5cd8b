/-
  First-in, first-out queues of what the provider uses up: users, codes and errors.
-/

namespace OpenIdProvider

/-- Items in the order in which they leave. -/
structure Queue (α : Type) where
  items : List α
deriving DecidableEq, Repr

namespace Queue

variable {α : Type}

def empty : Queue α := ⟨[]⟩

def push (q : Queue α) (x : α) : Queue α := ⟨q.items ++ [x]⟩

/-- The oldest item, and the queue without it. -/
def pop (q : Queue α) : Option α × Queue α :=
  match q.items with
  | [] => (none, q)
  | x :: rest => (some x, ⟨rest⟩)

@[simp] theorem items_empty : (empty : Queue α).items = [] := rfl

@[simp] theorem items_push (q : Queue α) (x : α) : (q.push x).items = q.items ++ [x] := rfl

@[simp] theorem pop_fst (q : Queue α) : q.pop.1 = q.items.head? := by
  cases q with
  | mk items => cases items <;> rfl

@[simp] theorem pop_snd_items (q : Queue α) : q.pop.2.items = q.items.tail := by
  cases q with
  | mk items => cases items <;> rfl

end Queue

end OpenIdProvider
