/-
  Chains of tests, of which the first that fails gives the error: when they succeed.
-/

namespace OpenIdProvider

/-- A chain of tests succeeds when its first test does and the rest does after it. -/
theorem bind_eq_ok {ε α β : Type} {x : Except ε α} {f : α → Except ε β} {y : β} :
    (x >>= f) = .ok y ↔ ∃ a, x = .ok a ∧ f a = .ok y := by
  cases x with
  | error e => exact ⟨nofun, nofun⟩
  | ok a =>
    constructor
    · intro h
      exact ⟨a, rfl, h⟩
    · rintro ⟨_, h, hy⟩
      cases h
      exact hy

/-- The case of a test that gives nothing but its success. -/
theorem bind_unit_eq_ok {ε β : Type} {x : Except ε Unit} {f : Unit → Except ε β} {y : β} :
    (x >>= f) = .ok y ↔ x = .ok () ∧ f () = .ok y := by
  rw [bind_eq_ok]
  exact ⟨fun ⟨(), h⟩ => h, fun h => ⟨(), h⟩⟩

/-- What is done to the result of a test does not make it succeed. -/
theorem map_eq_ok {ε α β : Type} {x : Except ε α} {f : α → β} {y : β} :
    x.map f = .ok y ↔ ∃ a, x = .ok a ∧ f a = y := by
  cases x with
  | error e => exact ⟨nofun, nofun⟩
  | ok a =>
    constructor
    · intro h
      exact ⟨a, rfl, Except.ok.inj h⟩
    · rintro ⟨_, h, rfl⟩
      cases h
      rfl

/-- Success can be seen from what is left of a test without its error. -/
theorem eq_ok_of_toOption {ε α : Type} {x : Except ε α} {a : α} (h : x.toOption = some a) :
    x = .ok a := by
  cases x with
  | error e => cases h
  | ok a' => exact congrArg Except.ok (Option.some.inj h)

/-- A list of tests succeeds when all of them do. -/
theorem forM_eq_ok {ε α : Type} {f : α → Except ε Unit} {xs : List α} :
    xs.forM f = .ok () ↔ ∀ x ∈ xs, f x = .ok () := by
  induction xs with
  | nil => exact ⟨fun _ => List.forall_mem_nil _, fun _ => rfl⟩
  | cons x xs ih =>
    rw [List.forall_mem_cons, ← ih]
    exact bind_unit_eq_ok

/-- It fails with the error of one of them, after tests that all succeed. -/
theorem forM_eq_error {ε α : Type} {f : α → Except ε Unit} {xs : List α} {e : ε} :
    xs.forM f = .error e ↔
      ∃ before x after, xs = before ++ x :: after ∧ (∀ y ∈ before, f y = .ok ()) ∧
        f x = .error e := by
  induction xs with
  | nil => exact ⟨nofun, fun ⟨_, _, _, h, _⟩ => absurd h (by simp)⟩
  | cons x xs ih =>
    show (f x >>= fun _ => xs.forM f) = .error e ↔ _
    cases hx : f x with
    | error e' =>
      constructor
      · rintro ⟨⟩
        exact ⟨[], x, xs, rfl, List.forall_mem_nil _, hx⟩
      · rintro ⟨_ | ⟨y, before⟩, x', after, h, hbefore, hfails⟩
        · cases h
          rw [hx] at hfails
          exact hfails
        · cases h
          have hpasses := hbefore x List.mem_cons_self
          rw [hx] at hpasses
          cases hpasses
    | ok u =>
      refine Iff.trans ih ⟨?_, ?_⟩
      · rintro ⟨before, x', after, rfl, hbefore, hfails⟩
        exact ⟨x :: before, x', after, rfl, List.forall_mem_cons.2 ⟨hx, hbefore⟩, hfails⟩
      · rintro ⟨_ | ⟨y, before⟩, x', after, h, hbefore, hfails⟩
        · cases h
          rw [hx] at hfails
          cases hfails
        · cases h
          exact ⟨before, x', after, rfl, (List.forall_mem_cons.1 hbefore).2, hfails⟩

/-- A chain of tests gives no error that none of its tests gives. -/
theorem bind_ne_error {ε α β : Type} {x : Except ε α} {f : α → Except ε β} {e : ε}
    (h : x ≠ .error e) (h' : ∀ a, f a ≠ .error e) : (x >>= f) ≠ .error e := by
  cases x with
  | error e' =>
    intro heq
    exact h (congrArg Except.error (Except.error.inj heq))
  | ok a => exact h' a

theorem map_ne_error {ε α β : Type} {x : Except ε α} {f : α → β} {e : ε} (h : x ≠ .error e) :
    x.map f ≠ .error e := by
  cases x with
  | error e' =>
    intro heq
    exact h (congrArg Except.error (Except.error.inj heq))
  | ok a => nofun

end OpenIdProvider
