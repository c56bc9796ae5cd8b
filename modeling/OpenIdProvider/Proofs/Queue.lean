/-
  A queue over its life. What the pops give, followed by what waits in the end, is what waited at
  first followed by what was pushed: nothing is lost, nothing is given twice, and the order stays.
  So every pop gives the item that comes after all that earlier pops gave.
-/
import Mathlib.Data.List.ReduceOption
import OpenIdProvider.Queue

namespace OpenIdProvider.Queue

variable {α : Type}

/-- What can happen to a queue. -/
inductive Event (α : Type)
  | push (x : α)
  | pop

/-- What the pops among some events give, in order, and the queue after the events. -/
def replay (q : Queue α) : List (Event α) → List (Option α) × Queue α
  | [] => ([], q)
  | .push x :: events => (q.push x).replay events
  | .pop :: events => (q.pop.1 :: (q.pop.2.replay events).1, (q.pop.2.replay events).2)

/-- The items that some events push, in order. -/
def pushed (events : List (Event α)) : List α :=
  events.filterMap fun
    | .push x => some x
    | .pop => none

theorem replay_append (q : Queue α) (first second : List (Event α)) :
    q.replay (first ++ second) =
      ((q.replay first).1 ++ ((q.replay first).2.replay second).1,
        ((q.replay first).2.replay second).2) := by
  induction first generalizing q with
  | nil => rfl
  | cons event first ih =>
    cases event with
    | push x => exact ih (q.push x)
    | pop =>
      rw [List.cons_append, replay, ih]
      rfl

/-- Pushing gives nothing. -/
theorem replay_push_fst (q : Queue α) (x : Option α) :
    (q.replay (x.map .push).toList).1 = [] := by
  cases x <;> rfl

/-- What a pop gives and what it leaves are what was there. -/
theorem pop_items (q : Queue α) : q.pop.1.toList ++ q.pop.2.items = q.items := by
  cases q with
  | mk items => cases items <;> rfl

theorem replay_conserves (q : Queue α) (events : List (Event α)) :
    (q.replay events).1.reduceOption ++ (q.replay events).2.items = q.items ++ pushed events := by
  induction events generalizing q with
  | nil => exact (List.append_nil _).symm
  | cons event events ih =>
    cases event with
    | push x =>
      show ((q.push x).replay events).1.reduceOption ++ ((q.push x).replay events).2.items =
        q.items ++ ([x] ++ pushed events)
      rw [ih, items_push, List.append_assoc]
    | pop =>
      show (q.pop.1 :: (q.pop.2.replay events).1).reduceOption ++
        (q.pop.2.replay events).2.items = q.items ++ pushed events
      rw [← List.singleton_append, List.reduceOption_append, List.append_assoc, ih,
        ← List.append_assoc, ← q.pop_items]
      cases q.pop.1 <;> rfl

/-- The items that the pops give are the first of those that waited or were pushed. -/
theorem reduceOption_replay_prefix (q : Queue α) (events : List (Event α)) :
    (q.replay events).1.reduceOption <+: q.items ++ pushed events :=
  ⟨_, q.replay_conserves events⟩

/-- A pop gives the item that comes after all that earlier pops gave. -/
theorem pop_replay (q : Queue α) (events : List (Event α)) :
    (q.replay events).2.pop.1 =
      (q.items ++ pushed events)[(q.replay events).1.reduceOption.length]? := by
  rw [pop_fst, ← replay_conserves, List.getElem?_append_right (Nat.le_refl _), Nat.sub_self,
    List.head?_eq_getElem?]

end OpenIdProvider.Queue
