/-
  What lasts between two moments of a run. A stored session stays stored, and a granted one stays
  granted until a session is begun again under its identifier. So where no session is replaced a
  code is redeemed at one moment only.
-/
import OpenIdProvider.Proofs.Provider.Identity
import OpenIdProvider.Proofs.Provider.Issue

namespace OpenIdProvider.Provider

/-! ## Between two moments -/

/-- A moment of a run is what its step does to its state. -/
theorem eq_moment {p : Provider} {s : ProviderState} {steps : List Step} {front back : List Moment}
    {m : Moment} (h : p.history s steps = front ++ m :: back) : m = p.moment m.before m.step := by
  obtain ⟨first, second, -, -, hsecond⟩ := split_history h
  obtain ⟨step, rest, -, rfl, -⟩ := history_eq_cons hsecond
  rfl

theorem eq_moment_of_mem {p : Provider} {s : ProviderState} {steps : List Step} {m : Moment}
    (h : m ∈ p.history s steps) : m = p.moment m.before m.step := by
  obtain ⟨front, back, hsplit⟩ := List.append_of_mem h
  exact eq_moment hsplit

/-- Steps lead from one moment of a run to a later one. -/
theorem between {p : Provider} {s : ProviderState} {steps : List Step}
    {front middle back : List Moment} {n m : Moment}
    (h : p.history s steps = front ++ n :: (middle ++ m :: back)) :
    ∃ steps, p.history n.after steps = middle ∧ (p.run n.after steps).2 = m.before := by
  obtain ⟨first, second, -, -, hsecond⟩ := split_history h
  obtain ⟨step, rest, -, -, hrest⟩ := history_eq_cons hsecond
  obtain ⟨steps, last, -, hmiddle, hlast⟩ := split_history hrest
  obtain ⟨step', rest', -, hm, -⟩ := history_eq_cons hlast
  exact ⟨steps, hmiddle, by rw [hm]; rfl⟩

/-! ## Stored sessions -/

theorem stored_step {p : Provider} {id : String} (s : ProviderState) (step : Step)
    (h : (s.store.get? id).isSome = true) :
    ((p.step s step).2.store.get? id).isSome = true := by
  show ((p.moment s step).after.store.get? id).isSome = true
  cases change_moment p s step with
  | begins session hbegins =>
    rw [hbegins.get?]
    split
    · rfl
    · exact h
  | spends code session hstep hcode hgrant =>
    rw [SessionStore.isSome_get?_of_grant hgrant]
    exact h
  | queues code hstep hstore =>
    rw [hstore]
    exact h
  | keeps hstep hstore =>
    rw [hstore]
    exact h

/-- A stored session stays stored. -/
theorem stored_run {p : Provider} {s : ProviderState} {id : String}
    (h : (s.store.get? id).isSome = true) (steps : List Step) :
    ((p.run s steps).2.store.get? id).isSome = true :=
  run_induction (P := fun s => (s.store.get? id).isSome = true) stored_step h steps

/-- A granted session is stored under an identifier. -/
def GrantedAt (s : ProviderState) (id : String) : Prop :=
  ∃ stored, s.store.get? id = some stored ∧ stored.granted = true

/-- A granted session stays granted until one is begun again under its identifier. -/
theorem grantedAt_run {p : Provider} {s : ProviderState} {steps : List Step} {id : String}
    (hbegins : ∀ m ∈ p.history s steps, ¬ p.BeginsCode id m) (h : GrantedAt s id) :
    GrantedAt (p.run s steps).2 id := by
  obtain ⟨stored, hstored, hgranted⟩ := h
  obtain ⟨new, hnew, hkept⟩ := kept_run hbegins hstored
  exact ⟨new, hnew, hkept.granted hgranted⟩

theorem grantedAt_of_grant {s s' : ProviderState} {code : String} {session : Session}
    (h : s.store.grant code = .ok (session, s'.store)) : GrantedAt s' code := by
  have hget := SessionStore.grant_get? h code
  rw [if_pos rfl] at hget
  exact ⟨session, hget, SessionStore.granted_of_grant h⟩

/-- Where no session is replaced, a code that was spent is not spent again. -/
theorem not_spends_later {p : Provider} {s : ProviderState} {steps : List Step}
    (hfresh : ∀ m ∈ p.history s steps, m.Fresh p) {front middle back : List Moment} {n m : Moment}
    (h : p.history s steps = front ++ n :: (middle ++ m :: back)) {code : String}
    (hn : n.Spends code) : ¬ m.Spends code := by
  rintro ⟨session, hgrant⟩
  obtain ⟨session', hgrant'⟩ := hn
  obtain ⟨steps', hmiddle, hrun⟩ := between h
  have hfresh' : ∀ k ∈ p.history n.after steps', k.Fresh p := by
    intro k hk
    refine hfresh k ?_
    rw [h, ← hmiddle]
    exact List.mem_append_right _ (List.mem_cons_of_mem _ (List.mem_append_left _ hk))
  obtain ⟨first, hfirst, -⟩ := grantedAt_of_grant hgrant'
  obtain ⟨stored, hstored, hgranted⟩ :=
    grantedAt_run (not_beginsCode_of_fresh hfresh' hfirst) (grantedAt_of_grant hgrant')
  rw [hrun] at hstored
  rw [SessionStore.grant_of_granted hstored hgranted] at hgrant
  cases hgrant

end OpenIdProvider.Provider
