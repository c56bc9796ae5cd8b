/-
  Runs seen step by step. A `Moment` is one step with the state that it finds and the one that it
  leaves, and the `history` of a run is the list of its moments; `Moment.Begins` and
  `Moment.Redeems` are what an observer of a moment can say about sessions and codes. `Change`
  lists what a step can do to the store, and `change_moment` finds one of them for every step.
-/
import Mathlib.Logic.Function.Basic
import OpenIdProvider.Proofs.Provider.Effect
import OpenIdProvider.Provider.Run

namespace OpenIdProvider

open Http

/-- A step of a run: the state before it, the step, its answer and the state after it. -/
structure Moment where
  before : ProviderState
  step : Step
  answer : StepAnswer
  after : ProviderState

namespace Moment

/-- An authorization request that begins a session, for the next user. -/
def Begins (p : Provider) (m : Moment) (session : Session) : Prop :=
  ∃ r scopes nonce, m.step = .request r ∧ Endpoint.ofPath? r.path = some .authorization ∧
    m.before.store.create p.randomId scopes nonce m.before.users.next.1 =
      (session, m.after.store)

/-- A token request for a code that is answered with tokens. -/
def Redeems (m : Moment) (code : String) : Prop :=
  ∃ r params, ∃ tokens : TokenResponse, m.step = .request r ∧
    Endpoint.ofPath? r.path = some .token ∧ Provider.exchangeParams r = .ok params ∧
    params.get "grant_type" = "authorization_code" ∧ params.get "code" = code ∧
    m.answer = .response (some (Reply.json tokens.toJson))

end Moment

namespace Provider

/-! ## The moments of a run -/

/-- The step that a state meets next. -/
def moment (p : Provider) (s : ProviderState) (step : Step) : Moment :=
  ⟨s, step, (p.step s step).1, (p.step s step).2⟩

theorem after_request (p : Provider) (s : ProviderState) (r : Request) :
    (p.moment s (.request r)).after = (p.respond r s).2 := rfl

theorem answer_request (p : Provider) (s : ProviderState) (r : Request) :
    (p.moment s (.request r)).answer = .response (p.respond r s).1 := rfl

/-- The moments of a run in order. -/
def history (p : Provider) (s : ProviderState) : List Step → List Moment
  | [] => []
  | step :: steps => p.moment s step :: p.history (p.step s step).2 steps

theorem history_cons (p : Provider) (s : ProviderState) (step : Step) (steps : List Step) :
    p.history s (step :: steps) =
      p.moment s step :: p.history (p.moment s step).after steps := rfl

theorem history_answers (p : Provider) (s : ProviderState) (steps : List Step) :
    (p.history s steps).map Moment.answer = (p.run s steps).1 := by
  induction steps generalizing s with
  | nil => rfl
  | cons step steps ih =>
    rw [history, List.map_cons, ih]
    rfl

theorem history_steps (p : Provider) (s : ProviderState) (steps : List Step) :
    (p.history s steps).map Moment.step = steps := by
  induction steps generalizing s with
  | nil => rfl
  | cons step steps ih =>
    rw [history, List.map_cons, ih]
    rfl

theorem run_cons (p : Provider) (s : ProviderState) (step : Step) (steps : List Step) :
    (p.run s (step :: steps)).2 = (p.run (p.moment s step).after steps).2 := rfl

theorem run_append (p : Provider) (s : ProviderState) (first second : List Step) :
    (p.run s (first ++ second)).2 = (p.run (p.run s first).2 second).2 := by
  induction first generalizing s with
  | nil => rfl
  | cons step steps ih => exact ih (p.step s step).2

theorem history_append (p : Provider) (s : ProviderState) (first second : List Step) :
    p.history s (first ++ second) =
      p.history s first ++ p.history (p.run s first).2 second := by
  induction first generalizing s with
  | nil => rfl
  | cons step steps ih =>
    rw [List.cons_append, history, history, ih]
    rfl

/-- A history that ends in some moments is a run up to them and a run through them. -/
theorem split_history {p : Provider} {s : ProviderState} {steps : List Step}
    {front back : List Moment} (h : p.history s steps = front ++ back) :
    ∃ first second, steps = first ++ second ∧ p.history s first = front ∧
      p.history (p.run s first).2 second = back := by
  induction front generalizing s steps with
  | nil => exact ⟨[], steps, rfl, rfl, h⟩
  | cons m front ih =>
    cases steps with
    | nil => cases h
    | cons step steps =>
      rw [history, List.cons_append] at h
      obtain ⟨hm, hrest⟩ := List.cons.inj h
      obtain ⟨first, second, rfl, hfirst, hsecond⟩ := ih hrest
      refine ⟨step :: first, second, rfl, ?_, hsecond⟩
      rw [history, hm, hfirst]

theorem history_eq_cons {p : Provider} {s : ProviderState} {steps : List Step} {m : Moment}
    {back : List Moment} (h : p.history s steps = m :: back) :
    ∃ step rest, steps = step :: rest ∧ m = p.moment s step ∧ p.history m.after rest = back := by
  cases steps with
  | nil => cases h
  | cons step rest =>
    rw [history] at h
    obtain ⟨rfl, hrest⟩ := List.cons.inj h
    exact ⟨step, rest, rfl, rfl, hrest⟩

/-- What every step preserves, a run preserves. -/
theorem run_induction {P : ProviderState → Prop} {p : Provider}
    (hstep : ∀ s step, P s → P (p.step s step).2) {s : ProviderState} (hs : P s)
    (steps : List Step) : P (p.run s steps).2 := by
  induction steps generalizing s with
  | nil => exact hs
  | cons step steps ih => exact ih (hstep s step hs)

/-! ## What a step does to the store -/

/-- What a moment does to the store. -/
inductive Change (p : Provider) (m : Moment) : Prop
  /-- It begins a session. -/
  | begins (session : Session) (h : m.Begins p session)
  /-- It spends a code. -/
  | spends (code : String) (session : Session) (hstep : ∀ code, m.step ≠ .queueCode code)
      (hcode : code ≠ "")
      (hgrant : m.before.store.grant code = .ok (session, m.after.store))
  /-- It makes a text a later code. -/
  | queues (code : String) (hstep : m.step = .queueCode code)
      (hstore : m.after.store = m.before.store.queueCode code)
  /-- It leaves the store as it is. -/
  | keeps (hstep : ∀ code, m.step ≠ .queueCode code) (hstore : m.after.store = m.before.store)

theorem change_of_effect {p : Provider} {r : Request} {s s' : ProviderState}
    (answer : StepAnswer) (h : Effect p r s s') : Change p ⟨s, .request r, answer, s'⟩ := by
  cases h with
  | begins reached accepted =>
    exact .begins _ ⟨r, _, _, rfl, (reached?_eq_some_iff.1 reached).2.1, rfl⟩
  | spends reached presented grant =>
    exact .spends _ _ nofun (presentedCode?_eq_some_iff.1 presented).1 grant
  | keeps notAccepted notGranted => exact .keeps nofun rfl

theorem change_moment (p : Provider) (s : ProviderState) (step : Step) :
    Change p (p.moment s step) := by
  cases step with
  | request r => exact change_of_effect _ (respond_effect p r s)
  | queueUser u => exact .keeps nofun rfl
  | queueCode code => exact .queues code rfl rfl
  | queueError e => exact .keeps nofun rfl
  | advance d => exact .keeps nofun rfl
  | setClock t => exact .keeps nofun rfl
  | tick t => exact .keeps nofun rfl

end Provider

/-! ## Begun sessions -/

namespace Moment

/-- The session is created for the next user, and nothing else happens to the store. -/
theorem Begins.create {p : Provider} {m : Moment} {session : Session} (h : m.Begins p session) :
    ∃ scopes nonce, m.before.store.create p.randomId scopes nonce m.before.users.next.1 =
      (session, m.after.store) := by
  obtain ⟨_, scopes, nonce, -, -, hcreate⟩ := h
  exact ⟨scopes, nonce, hcreate⟩

/-- Only an authorization request begins a session. -/
theorem not_begins_of_path {p : Provider} {m : Moment}
    (h : ∀ r, m.step = .request r → Endpoint.ofPath? r.path ≠ some .authorization)
    (session : Session) : ¬ m.Begins p session := by
  rintro ⟨r, _, _, hstep, hpath, -⟩
  exact h r hstep hpath

theorem Begins.get? {p : Provider} {m : Moment} {session : Session} (h : m.Begins p session)
    (id : String) :
    m.after.store.get? id = if session.id = id then some session else m.before.store.get? id := by
  obtain ⟨scopes, nonce, hcreate⟩ := h.create
  have hget := SessionStore.create_get? p.randomId m.before.store scopes nonce
    m.before.users.next.1 id
  rwa [hcreate] at hget

theorem Begins.not_granted {p : Provider} {m : Moment} {session : Session}
    (h : m.Begins p session) : session.granted = false := by
  obtain ⟨scopes, nonce, hcreate⟩ := h.create
  have hfst := SessionStore.create_fst p.randomId m.before.store scopes nonce
    m.before.users.next.1
  rw [hcreate] at hfst
  exact congrArg Session.granted hfst

/-- Its identifier is the next one, and what is left of the codes is what the next one leaves. -/
theorem Begins.nextId {p : Provider} {m : Moment} {session : Session} (h : m.Begins p session) :
    (m.before.store.nextId p.randomId).1 = session.id ∧
      m.after.store.codes = (m.before.store.nextId p.randomId).2.codes ∧
      m.after.store.drawn = (m.before.store.nextId p.randomId).2.drawn := by
  obtain ⟨scopes, nonce, hcreate⟩ := h.create
  have hfst := SessionStore.create_fst p.randomId m.before.store scopes nonce
    m.before.users.next.1
  have hsnd := SessionStore.create_snd p.randomId m.before.store scopes nonce
    m.before.users.next.1
  rw [hcreate] at hfst hsnd
  have hstore : m.after.store = (m.before.store.nextId p.randomId).2.put session := hsnd
  rw [hstore]
  exact ⟨(congrArg Session.id hfst).symm, rfl, rfl⟩

end Moment

/-! ## A provider to run -/

namespace Provider

/-- A provider whose random identifiers are distinct runs of one letter. -/
def sample : Provider where
  settings := ⟨"http://localhost", "app", "secret", 60, 60⟩
  keys := ⟨fun _ => .ok "token", fun _ => .error .malformed, .null⟩
  randomId n := String.ofList (List.replicate n 'r')

/-- A request to it for authorization, with all parameters that are required. -/
def sampleRequest (target : String) : Request where
  method := .get
  path := "/oidc/authorize"
  query := some (Utf8.encode
    ("scope=openid&state=s&client_id=app&response_type=code&redirect_uri=" ++ target))
  headers := []
  body := []

theorem sample_randomId_injective : Function.Injective sample.randomId := by
  intro m n h
  have hlist := congrArg (fun s => s.toList.length) h
  simpa [sample] using hlist

end Provider

end OpenIdProvider
