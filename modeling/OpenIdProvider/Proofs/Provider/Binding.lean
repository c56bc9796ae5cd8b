/-
  Which users and codes the sessions of a run are bound to. An authorization request that passes
  all checks of its parameters begins one session and takes one item of each of two queues, that
  of the users and that of the codes; no other request takes any. So the session of an accepted
  request has the oldest queued user that no earlier session of the run is bound to, or the user
  that stands in, and its identifier is the oldest queued code that is not yet one, or a random one.
-/
import OpenIdProvider.Proofs.Provider.Identity
import OpenIdProvider.Proofs.Provider.Refusal
import OpenIdProvider.Proofs.Queue

namespace OpenIdProvider

open Http

instance (p : Provider) (r : Request) (s : ProviderState) : Decidable (p.Passes r s) :=
  inferInstanceAs (Decidable (_ ∧ _))

namespace Moment

/-- An authorization request that passes all checks of its parameters. -/
def accepted (p : Provider) (m : Moment) : Bool :=
  match m.step with
  | .request r => decide (p.Passes r m.before)
  | _ => false

theorem accepted_iff {p : Provider} {m : Moment} :
    m.accepted p = true ↔ ∃ r, m.step = .request r ∧ p.Passes r m.before := by
  unfold accepted
  constructor
  · intro h
    split at h
    · rename_i r hstep
      exact ⟨r, hstep, of_decide_eq_true h⟩
    · cases h
  · rintro ⟨r, hstep, hpasses⟩
    rw [hstep]
    exact decide_eq_true hpasses

theorem Begins.user {p : Provider} {m : Moment} {session : Session} (h : m.Begins p session) :
    session.user = m.before.users.next.1 := by
  obtain ⟨scopes, nonce, hcreate⟩ := h.create
  have hfst := SessionStore.create_fst p.randomId m.before.store scopes nonce
    m.before.users.next.1
  rw [hcreate] at hfst
  exact congrArg Session.user hfst

end Moment

/-! ## What is queued and what is bound -/

/-- The user that a step queues. -/
def Step.user? : Step → Option User
  | .queueUser u => some u
  | _ => none

/-- The code that a step queues. -/
def Step.code? : Step → Option String
  | .queueCode code => some code
  | _ => none

namespace Provider

variable {α : Type} {p : Provider} {queued? : Step → Option α}

/-- The items that are queued in some moments, in order. -/
def queuedIn (queued? : Step → Option α) (moments : List Moment) : List α :=
  moments.filterMap fun m => queued? m.step

/-- What a moment does to a queue that sessions take from. -/
def queueEvent? (p : Provider) (queued? : Step → Option α) (m : Moment) :
    Option (Queue.Event α) :=
  if m.accepted p then some .pop else (queued? m.step).map .push

/-- What the accepted requests among some moments are bound to, in order; nothing, where none of
the queued items was left. -/
def bindings (p : Provider) (queued? : Step → Option α) (moments : List Moment) :
    List (Option α) :=
  (Queue.empty.replay (moments.filterMap (p.queueEvent? queued?))).1

/-- The items that the accepted requests among some moments are bound to. -/
def bound (p : Provider) (queued? : Step → Option α) (moments : List Moment) : List α :=
  (p.bindings queued? moments).reduceOption

/-- The oldest of the items queued in some moments that none of their requests is bound to. -/
def oldest? (p : Provider) (queued? : Step → Option α) (moments : List Moment) : Option α :=
  (queuedIn queued? moments)[(p.bound queued? moments).length]?

/-- Requests queue nothing, so that what the events push is what the steps queue. -/
theorem pushed_queueEvents (hqueued : ∀ r, queued? (.request r) = none) (moments : List Moment) :
    Queue.pushed (moments.filterMap (p.queueEvent? queued?)) = queuedIn queued? moments := by
  unfold Queue.pushed queuedIn
  rw [List.filterMap_filterMap]
  refine List.filterMap_congr fun m _ => ?_
  unfold queueEvent?
  by_cases haccepted : m.accepted p = true
  · obtain ⟨r, hstep, -⟩ := Moment.accepted_iff.1 haccepted
    rw [if_pos haccepted, hstep, hqueued]
    rfl
  · rw [if_neg haccepted]
    cases queued? m.step with
    | none => rfl
    | some x => rfl

/-- An accepted request is bound to the oldest item that is left. -/
theorem bindings_of_accepted (hqueued : ∀ r, queued? (.request r) = none) {m : Moment}
    (h : m.accepted p = true) (front : List Moment) :
    p.bindings queued? (front ++ [m]) =
      p.bindings queued? front ++ [p.oldest? queued? front] := by
  have hevent : [m].filterMap (p.queueEvent? queued?) = [.pop] := by
    rw [List.filterMap_cons, queueEvent?, if_pos h]
    rfl
  have hpop := Queue.empty.pop_replay (front.filterMap (p.queueEvent? queued?))
  rw [pushed_queueEvents hqueued] at hpop
  unfold bindings
  rw [List.filterMap_append, hevent, Queue.replay_append]
  exact congrArg (fun x => _ ++ [x]) hpop

/-- Any other moment binds nothing. -/
theorem bindings_of_not_accepted {m : Moment} (h : m.accepted p = false) (front : List Moment) :
    p.bindings queued? (front ++ [m]) = p.bindings queued? front := by
  have hevent : [m].filterMap (p.queueEvent? queued?) = ((queued? m.step).map .push).toList := by
    rw [List.filterMap_cons, queueEvent?, if_neg (by rw [h]; exact Bool.false_ne_true)]
    cases queued? m.step <;> rfl
  unfold bindings
  rw [List.filterMap_append, Queue.replay_append, hevent]
  cases queued? m.step with
  | none => exact List.append_nil _
  | some x => exact List.append_nil _

theorem bound_prefix (hqueued : ∀ r, queued? (.request r) = none) (moments : List Moment) :
    p.bound queued? moments <+: queuedIn queued? moments := by
  rw [← pushed_queueEvents (p := p) hqueued moments]
  exact Queue.empty.reduceOption_replay_prefix _

/-- How items are bound: every accepted request to the oldest one that is left, no other moment
to any, and thus the items one after the other in the order in which they were queued. -/
structure DrawnInOrder (p : Provider) (queued? : Step → Option α) (moments : List Moment) :
    Prop where
  accepted : ∀ front m back, moments = front ++ m :: back → m.accepted p = true →
    p.bindings queued? (front ++ [m]) = p.bindings queued? front ++ [p.oldest? queued? front]
  other : ∀ front m back, moments = front ++ m :: back → m.accepted p = false →
    p.bindings queued? (front ++ [m]) = p.bindings queued? front
  ordered : p.bound queued? moments <+: queuedIn queued? moments

theorem drawnInOrder (hqueued : ∀ r, queued? (.request r) = none) (moments : List Moment) :
    DrawnInOrder p queued? moments :=
  ⟨fun front _ _ _ h => bindings_of_accepted hqueued h front,
    fun front _ _ _ h => bindings_of_not_accepted h front, bound_prefix hqueued moments⟩

/-! ## The queues of the provider -/

/-- A queue of the provider that steps fill and accepted requests take from. -/
def Line (p : Provider) (queued? : Step → Option α) (queue : ProviderState → Queue α) : Prop :=
  ∀ s step, queue (p.moment s step).after =
    ((queue s).replay (p.queueEvent? queued? (p.moment s step)).toList).2

/-- What accepted requests do, and that other requests do nothing, makes a line. -/
theorem line_of_request {queue : ProviderState → Queue α}
    (hpasses : ∀ r s, p.Passes r s → queue (p.respond r s).2 = (queue s).pop.2)
    (hkeeps : ∀ r s, ¬ p.Passes r s →
      queue (p.respond r s).2 = ((queue s).replay ((queued? (.request r)).map .push).toList).2)
    (hother : ∀ s step, (∀ r, step ≠ .request r) →
      queue (p.step s step).2 = ((queue s).replay ((queued? step).map .push).toList).2) :
    Line p queued? queue := by
  intro s step
  unfold queueEvent?
  by_cases haccepted : (p.moment s step).accepted p = true
  · obtain ⟨r, hstep, h⟩ := Moment.accepted_iff.1 haccepted
    obtain rfl : step = .request r := hstep
    rw [if_pos haccepted]
    exact hpasses r s h
  · rw [if_neg haccepted]
    cases step with
    | request r =>
      exact hkeeps r s fun h => haccepted (Moment.accepted_iff.2 ⟨r, rfl, h⟩)
    | queueUser u => exact hother s _ nofun
    | queueCode code => exact hother s _ nofun
    | queueError e => exact hother s _ nofun
    | advance d => exact hother s _ nofun
    | setClock t => exact hother s _ nofun
    | tick t => exact hother s _ nofun

theorem line_users (p : Provider) : Line p Step.user? fun s => s.users.queue := by
  refine line_of_request (fun r s h => ?_) (fun r s h => ?_) (fun s step h => ?_)
  · obtain ⟨session, -, -, husers⟩ := begins_of_passes h
    rw [husers]
    rfl
  · rw [(respond_queues_of_not_passes h).1]
    rfl
  · cases step with
    | request r => exact absurd rfl (h r)
    | queueUser u => rfl
    | queueCode code => rfl
    | queueError e => rfl
    | advance d => rfl
    | setClock t => rfl
    | tick t => rfl

/-- The next identifier is taken from the queue of codes, and a random one if none waits. -/
theorem nextId_fst (random : Nat → String) (s : SessionStore) :
    (s.nextId random).1 = s.codes.pop.1.getD (random s.drawn) := by
  rw [Queue.pop_fst]
  cases hitems : s.codes.items with
  | nil => rw [SessionStore.nextId_nil random hitems]; rfl
  | cons code codes => rw [SessionStore.nextId_cons random hitems]; rfl

theorem nextId_codes (random : Nat → String) (s : SessionStore) :
    (s.nextId random).2.codes = s.codes.pop.2 := by
  unfold Queue.pop
  cases hitems : s.codes.items with
  | nil => rw [SessionStore.nextId_nil random hitems]
  | cons code codes => rw [SessionStore.nextId_cons random hitems]

theorem line_codes (p : Provider) : Line p Step.code? fun s => s.store.codes := by
  refine line_of_request (fun r s h => ?_) (fun r s h => ?_) (fun s step h => ?_)
  · obtain ⟨session, hbegins, -⟩ := begins_of_passes h
    exact hbegins.nextId.2.1.trans (nextId_codes p.randomId s.store)
  · rw [(respond_queues_of_not_passes h).2]
    rfl
  · cases step with
    | request r => exact absurd rfl (h r)
    | queueUser u => rfl
    | queueCode code => rfl
    | queueError e => rfl
    | advance d => rfl
    | setClock t => rfl
    | tick t => rfl

/-- After some steps a line holds what their moments leave of it. -/
theorem line_run {queue : ProviderState → Queue α} (h : Line p queued? queue)
    (s : ProviderState) (steps : List Step) :
    queue (p.run s steps).2 =
      ((queue s).replay ((p.history s steps).filterMap (p.queueEvent? queued?))).2 := by
  induction steps generalizing s with
  | nil => rfl
  | cons step steps ih =>
    rw [run_cons, history_cons, ih, h s step, List.filterMap_cons]
    cases p.queueEvent? queued? (p.moment s step) with
    | none => rfl
    | some event => cases event <;> rfl

/-- What a pop gives is the oldest item that is left. -/
theorem pop_run {queue : ProviderState → Queue α} (h : Line p queued? queue)
    (hqueued : ∀ r, queued? (.request r) = none) {s : ProviderState} (hs : queue s = .empty)
    (steps : List Step) :
    (queue (p.run s steps).2).pop.1 = p.oldest? queued? (p.history s steps) := by
  rw [line_run h, hs, Queue.pop_replay, pushed_queueEvents hqueued]
  rfl

/-! ## The user that stands in, and random identifiers -/

theorem fallback_step (p : Provider) {fallback : User} (s : ProviderState) (step : Step)
    (h : s.users.fallback = fallback) : (p.step s step).2.users.fallback = fallback := by
  cases step with
  | request r =>
    show (p.respond r s).2.users.fallback = fallback
    by_cases hpasses : p.Passes r s
    · obtain ⟨session, -, -, husers⟩ := begins_of_passes hpasses
      rw [husers]
      exact h
    · rw [(respond_queues_of_not_passes hpasses).1]
      exact h
  | queueUser u => exact h
  | queueCode code => exact h
  | queueError e => exact h
  | advance d => exact h
  | setClock t => exact h
  | tick t => exact h

/-- Only accepted requests begin sessions. -/
theorem accepted_of_begins {p : Provider} {s : ProviderState} {step : Step} {session : Session}
    (h : (p.moment s step).Begins p session) : (p.moment s step).accepted p = true := by
  have hbegins := h
  obtain ⟨r, -, -, hstep, -⟩ := h
  obtain rfl : step = .request r := hstep
  exact Moment.accepted_iff.2 ⟨r, rfl, passes_of_begins hbegins⟩

theorem drawn_of_not_begins {p : Provider} {s : ProviderState} {step : Step}
    (h : ∀ session, ¬ (p.moment s step).Begins p session) :
    (p.moment s step).after.store.drawn = s.store.drawn := by
  cases change_moment p s step with
  | begins session hbegins => exact absurd hbegins (h session)
  | spends code session hstep hcode hgrant => exact (SessionStore.grant_codes hgrant).2
  | queues code hstep hstore => rw [hstore]; rfl
  | keeps hstep hstore => rw [hstore]; rfl

/-- A random identifier is drawn where an accepted request finds no code. -/
theorem drawn_step (p : Provider) (s : ProviderState) (step : Step) :
    (p.moment s step).after.store.drawn = s.store.drawn +
      (s.store.codes.replay
        (p.queueEvent? Step.code? (p.moment s step)).toList).1.countP Option.isNone := by
  unfold queueEvent?
  by_cases haccepted : (p.moment s step).accepted p = true
  · obtain ⟨r, hstep, hpasses⟩ := Moment.accepted_iff.1 haccepted
    obtain rfl : step = .request r := hstep
    obtain ⟨session, hbegins, -⟩ := begins_of_passes hpasses
    have hdrawn : (p.moment s (.request r)).after.store.drawn =
        (s.store.nextId p.randomId).2.drawn := hbegins.nextId.2.2
    have hgiven : (s.store.codes.replay [.pop]).1 = [s.store.codes.items.head?] :=
      congrArg (fun x => [x]) s.store.codes.pop_fst
    rw [if_pos haccepted, hdrawn, Option.toList_some, hgiven]
    cases hitems : s.store.codes.items with
    | nil => rw [SessionStore.nextId_nil p.randomId hitems]; rfl
    | cons code codes => rw [SessionStore.nextId_cons p.randomId hitems]; rfl
  · rw [if_neg haccepted, Queue.replay_push_fst]
    exact drawn_of_not_begins fun session hbegins => haccepted (accepted_of_begins hbegins)

/-- As many random identifiers are drawn in a run as accepted requests found no code. -/
theorem drawn_run (p : Provider) {s : ProviderState} (hs : s.store = .empty) (steps : List Step) :
    (p.run s steps).2.store.drawn =
      (p.bindings Step.code? (p.history s steps)).countP Option.isNone := by
  induction steps using List.reverseRecOn with
  | nil =>
    show s.store.drawn = 0
    rw [hs]
    rfl
  | append_singleton steps step ih =>
    have hline := line_run (line_codes p) s steps
    have hempty : s.store.codes = .empty := by rw [hs]; rfl
    have hmoments : p.history s (steps ++ [step]) =
        p.history s steps ++ [p.moment (p.run s steps).2 step] := history_append p s steps [step]
    rw [run_append]
    show (p.moment (p.run s steps).2 step).after.store.drawn = _
    rw [drawn_step, ih, hline, hempty, hmoments]
    unfold bindings
    rw [List.filterMap_append, Queue.replay_append, List.countP_append]
    rfl

/-! ## Sessions bound in order -/

/-- The moment after some others meets the state to which their steps have led. -/
theorem moment_after {p : Provider} {s : ProviderState} {steps : List Step}
    {front back : List Moment} {m : Moment} (h : p.history s steps = front ++ m :: back) :
    ∃ first, p.history s first = front ∧ m = p.moment (p.run s first).2 m.step := by
  obtain ⟨first, second, -, hfirst, hsecond⟩ := split_history h
  obtain ⟨step, rest, -, rfl, -⟩ := history_eq_cons hsecond
  exact ⟨first, hfirst, rfl⟩

theorem moment_of_mem {p : Provider} {s : ProviderState} {steps : List Step} {m : Moment}
    (h : m ∈ p.history s steps) : ∃ s step, m = p.moment s step := by
  obtain ⟨front, back, hsplit⟩ := List.append_of_mem h
  obtain ⟨first, -, hm⟩ := moment_after hsplit
  exact ⟨_, _, hm⟩

/-- An accepted request begins one session. -/
theorem existsUnique_begins {p : Provider} {s : ProviderState} {step : Step}
    (h : (p.moment s step).accepted p = true) :
    ∃! session, (p.moment s step).Begins p session := by
  obtain ⟨r, hstep, hpasses⟩ := Moment.accepted_iff.1 h
  obtain rfl : step = .request r := hstep
  obtain ⟨session, hbegins, -⟩ := begins_of_passes hpasses
  exact ⟨session, hbegins, fun other hother => hother.unique hbegins⟩

/-- The user of a new session is the oldest one that is left, or the one that stands in. -/
theorem user_of_begins {p : Provider} {s : ProviderState} {fallback : User}
    (hs : s.users = .ofFallback fallback) {steps : List Step} {front back : List Moment}
    {m : Moment} {session : Session} (h : p.history s steps = front ++ m :: back)
    (hbegins : m.Begins p session) :
    session.user = (p.oldest? Step.user? front).getD fallback := by
  obtain ⟨first, rfl, hm⟩ := moment_after h
  have hfallback : m.before.users.fallback = fallback := by
    rw [hm]
    exact run_induction (P := fun s => s.users.fallback = fallback) (fallback_step p)
      (congrArg UserSupply.fallback hs) first
  have hpop : m.before.users.queue.pop.1 = p.oldest? Step.user? (p.history s first) := by
    rw [hm]
    exact pop_run (line_users p) (fun _ => rfl) (congrArg UserSupply.queue hs) first
  rw [hbegins.user, ← hpop, ← hfallback]
  rfl

/-- Its identifier is the oldest code that is left, or the next random one. -/
theorem id_of_begins {p : Provider} {s : ProviderState} (hs : s.store = .empty)
    {steps : List Step} {front back : List Moment} {m : Moment} {session : Session}
    (h : p.history s steps = front ++ m :: back) (hbegins : m.Begins p session) :
    session.id = (p.oldest? Step.code? front).getD
      (p.randomId ((p.bindings Step.code? front).countP Option.isNone)) := by
  obtain ⟨first, rfl, hm⟩ := moment_after h
  have hpop : m.before.store.codes.pop.1 = p.oldest? Step.code? (p.history s first) := by
    rw [hm]
    exact pop_run (line_codes p) (fun _ => rfl) (congrArg SessionStore.codes hs) first
  have hdrawn : m.before.store.drawn =
      (p.bindings Step.code? (p.history s first)).countP Option.isNone := by
    rw [hm]
    exact drawn_run p hs first
  rw [← hbegins.nextId.1, ← hpop, ← hdrawn]
  exact nextId_fst p.randomId m.before.store

/-- How the sessions of a run are bound. An accepted request begins one session, and nothing else
begins any. Its user is the oldest queued one that no earlier request is bound to, or the one that
stands in; its identifier is the oldest queued code that no earlier request is bound to, or the
next random one. Users and codes are bound in the order in which they were queued. -/
structure BoundInOrder (p : Provider) (fallback : User) (moments : List Moment) : Prop where
  begun : ∀ m ∈ moments, m.accepted p = true → ∃! session, m.Begins p session
  accepted : ∀ m ∈ moments, ∀ session, m.Begins p session → m.accepted p = true
  user : ∀ front m back session, moments = front ++ m :: back → m.Begins p session →
    session.user = (p.oldest? Step.user? front).getD fallback
  id : ∀ front m back session, moments = front ++ m :: back → m.Begins p session →
    session.id = (p.oldest? Step.code? front).getD
      (p.randomId ((p.bindings Step.code? front).countP Option.isNone))
  users : DrawnInOrder p Step.user? moments
  codes : DrawnInOrder p Step.code? moments

/-- In every run from a store without sessions and without users or codes that wait, sessions are
bound to users and codes in order. -/
theorem boundInOrder (p : Provider) (fallback : User) (errors : Queue ProtocolError)
    (clock : Clock) (steps : List Step) :
    BoundInOrder p fallback
      (p.history ⟨.empty, .ofFallback fallback, errors, clock⟩ steps) := by
  refine ⟨?_, ?_, ?_, ?_, drawnInOrder (fun _ => rfl) _, drawnInOrder (fun _ => rfl) _⟩
  · intro m hm haccepted
    obtain ⟨s, step, rfl⟩ := moment_of_mem hm
    exact existsUnique_begins haccepted
  · intro m hm session hbegins
    obtain ⟨s, step, rfl⟩ := moment_of_mem hm
    exact accepted_of_begins hbegins
  · intro front m back session h hbegins
    exact user_of_begins rfl h hbegins
  · intro front m back session h hbegins
    exact id_of_begins rfl h hbegins

end Provider

end OpenIdProvider
