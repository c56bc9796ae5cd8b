/-
  What a request leaves alone. `Entry` lists what can become of the entry of one identifier: a new
  session takes it, its session is granted, or it stays. Everything that a request may change
  follows from this and from `Effect`: sessions are only added, by authorization requests that pass
  all checks of their parameters; these take at most one user and one code; and requests that only
  read, refresh, or reach no endpoint change nothing. A granted session stays granted unless a
  session begins under its identifier, which is what a code that is queued again leads to.
-/
import OpenIdProvider.Proofs.Provider.Agreement
import OpenIdProvider.Proofs.Provider.Binding
import OpenIdProvider.Proofs.Provider.QueuedErrors

namespace OpenIdProvider.Provider

open Http

/-! ## One entry of the store -/

/-- What a request leaves under an identifier. -/
inductive Entry (p : Provider) (r : Request) (s : ProviderState) (id : String) :
    Option Session → Prop
  /-- A new session. -/
  | begun {session : Session} (begins : (p.moment s (.request r)).Begins p session)
      (named : session.id = id) : Entry p r s id (some session)
  /-- The session whose code is redeemed. -/
  | granted {stored : Session} (reached : reached? r s = some .token)
      (presented : p.presentedCode? r = some id) (found : s.store.get? id = some stored)
      (opened : stored.granted = false) : Entry p r s id (some { stored with granted := true })
  /-- What was there. -/
  | kept : Entry p r s id (s.store.get? id)

theorem entry_respond (p : Provider) (r : Request) (s : ProviderState) (id : String) :
    Entry p r s id ((p.respond r s).2.store.get? id) := by
  by_cases hpasses : p.Passes r s
  · obtain ⟨session, hbegins, -⟩ := begins_of_passes hpasses
    have hget := hbegins.get? id
    rw [after_request] at hget
    rw [hget]
    by_cases hid : session.id = id
    · rw [if_pos hid]
      exact .begun hbegins hid
    · rw [if_neg hid]
      exact .kept
  · have heffect := respond_effect p r s
    generalize (p.respond r s).2 = s' at heffect ⊢
    cases heffect with
    | begins reached accepted => exact absurd ⟨reached, by rw [accepted]; rfl⟩ hpasses
    | @spends code session store reached presented grant =>
      obtain ⟨stored, hstored, hgranted, rfl, -⟩ := SessionStore.grant_eq_ok_iff.1 grant
      rw [SessionStore.grant_get? grant]
      by_cases hid : code = id
      · subst hid
        rw [if_pos rfl]
        exact .granted reached presented hstored hgranted
      · rw [if_neg hid]
        exact .kept
    | keeps notAccepted notGranted => exact .kept

/-- No entry is removed. -/
theorem isSome_respond (p : Provider) (r : Request) {s : ProviderState} {id : String}
    (h : (s.store.get? id).isSome = true) :
    ((p.respond r s).2.store.get? id).isSome = true := by
  have hentry := entry_respond p r s id
  generalize (p.respond r s).2.store.get? id = after at hentry ⊢
  cases hentry with
  | begun begins named => rfl
  | granted reached presented found opened => rfl
  | kept => exact h

/-- What a session was begun with changes only where another begins. -/
theorem begun_of_rebound {p : Provider} {r : Request} {s : ProviderState} {id : String}
    {old new : Session} (hold : s.store.get? id = some old)
    (hnew : (p.respond r s).2.store.get? id = some new)
    (hne : new.scopes ≠ old.scopes ∨ new.nonce ≠ old.nonce ∨ new.user ≠ old.user) :
    p.BeginsCode id (p.moment s (.request r)) := by
  by_cases hbegins : p.BeginsCode id (p.moment s (.request r))
  · exact hbegins
  · obtain ⟨kept, hkept, hsame⟩ := kept_step hbegins hold
    obtain rfl : kept = new := Option.some.inj (hkept.symm.trans hnew)
    rw [hsame.same] at hne
    rcases hne with hne | hne | hne <;> exact absurd rfl hne

/-- Without a new session nothing is added. -/
theorem Entry.isSome {p : Provider} {r : Request} {s : ProviderState} {id : String}
    {after : Option Session} (h : Entry p r s id after)
    (hbegins : ¬ p.BeginsCode id (p.moment s (.request r))) :
    after.isSome = (s.store.get? id).isSome := by
  cases h with
  | begun begins named => exact absurd ⟨_, begins, named⟩ hbegins
  | granted reached presented found opened =>
    rw [found]
    rfl
  | kept => rfl

/-! ## Distinct identifiers -/

theorem keyed_step (p : Provider) (s : ProviderState) (step : Step) (h : s.store.Keyed) :
    (p.step s step).2.store.Keyed := by
  show (p.moment s step).after.store.Keyed
  cases change_moment p s step with
  | begins session hbegins =>
    obtain ⟨scopes, nonce, hcreate⟩ := hbegins.create
    have hstore : (s.store.create p.randomId scopes nonce s.users.next.1).2 =
        (p.moment s step).after.store := congrArg Prod.snd hcreate
    rw [← hstore]
    exact SessionStore.keyed_create h p.randomId scopes nonce _
  | spends code session hstep hcode hgrant =>
    obtain ⟨stored, -, -, -, hstore⟩ := SessionStore.grant_eq_ok_iff.1 hgrant
    rw [hstore]
    exact SessionStore.keyed_put h _
  | queues code hstep hstore =>
    rw [hstore]
    exact h
  | keeps hstep hstore =>
    rw [hstore]
    exact h

/-! ## Requests that change nothing -/

/-- Requests that only read, refresh, or reach no endpoint. -/
inductive Idle (r : Request) : Prop
  /-- The endpoint tells of a user, of the provider or of its keys. -/
  | reads {e : Endpoint} (path : Endpoint.ofPath? r.path = some e)
      (endpoint : e = .userinfo ∨ e = .discovery ∨ e = .keys)
  /-- A refresh token is shown, with whatever credentials. -/
  | refreshes {params : Params} (path : Endpoint.ofPath? r.path = some .token)
      (read : exchangeParams r = .ok params)
      (grant : params.get "grant_type" = "refresh_token")
  /-- No endpoint has the path. -/
  | unknown (path : Endpoint.ofPath? r.path = none)
  /-- The endpoint does not serve the method. -/
  | unserved {e : Endpoint} (path : Endpoint.ofPath? r.path = some e)
      (method : e.serves r.method = false)

/-- Without an accepted request and without a code to redeem nothing changes. -/
theorem respond_of_no_effect {p : Provider} {r : Request} {s : ProviderState}
    (herrors : s.errors.items = []) (hpasses : ¬ p.Passes r s)
    (hcode : reached? r s = some .token → p.presentedCode? r = none) : (p.respond r s).2 = s := by
  have heffect := respond_effect p r s
  generalize (p.respond r s).2 = s' at heffect ⊢
  cases heffect with
  | begins reached accepted => exact absurd ⟨reached, by rw [accepted]; rfl⟩ hpasses
  | spends reached presented grant =>
    rw [hcode reached] at presented
    cases presented
  | keeps notAccepted notGranted => rw [pop_of_items_nil herrors]

theorem Idle.reached? {r : Request} (h : Idle r) (s : ProviderState) :
    reached? r s ≠ some .authorization ∧
      (reached? r s = some .token → ∀ p : Provider, p.presentedCode? r = none) := by
  have of_path {e : Endpoint} (hreached : Provider.reached? r s = some e) :
      Endpoint.ofPath? r.path = some e ∧ e.serves r.method = true :=
    (reached?_eq_some_iff.1 hreached).2
  cases h with
  | reads path endpoint =>
    constructor
    · intro hreached
      cases path.symm.trans (of_path hreached).1
      rcases endpoint with h | h | h <;> cases h
    · intro hreached
      cases path.symm.trans (of_path hreached).1
      rcases endpoint with h | h | h <;> cases h
  | refreshes path read grant =>
    refine ⟨fun hreached => ?_, fun _ p => ?_⟩
    · cases path.symm.trans (of_path hreached).1
    · rw [Option.eq_none_iff_forall_not_mem]
      intro code hcode
      obtain ⟨-, params, hparams, -, hname, -⟩ := presentedCode?_eq_some_iff.1 hcode
      cases read.symm.trans hparams
      exact absurd (grant.symm.trans hname) (by decide)
  | unknown path =>
    refine ⟨fun hreached => ?_, fun hreached => ?_⟩
    · cases path.symm.trans (of_path hreached).1
    · cases path.symm.trans (of_path hreached).1
  | unserved path method =>
    refine ⟨fun hreached => ?_, fun hreached => ?_⟩
    · cases path.symm.trans (of_path hreached).1
      cases method.symm.trans (of_path hreached).2
    · cases path.symm.trans (of_path hreached).1
      cases method.symm.trans (of_path hreached).2

theorem respond_of_idle (p : Provider) {r : Request} (h : Idle r) {s : ProviderState}
    (herrors : s.errors.items = []) : (p.respond r s).2 = s :=
  respond_of_no_effect herrors (fun hpasses => (h.reached? s).1 hpasses.1)
    fun hreached => (h.reached? s).2 hreached p

/-! ## Granted sessions -/

/-- A session is stored under the identifier before and after a request, and it is granted at one
of the two times only. -/
def Flips (p : Provider) (r : Request) (s : ProviderState) (id : String) : Prop :=
  ∃ old new, s.store.get? id = some old ∧ (p.respond r s).2.store.get? id = some new ∧
    old.granted ≠ new.granted

/-- Sessions are only ever granted, and only by a token request for their code. -/
def GrantsForward (p : Provider) (r : Request) (s : ProviderState) : Prop :=
  ∀ id old new, s.store.get? id = some old → (p.respond r s).2.store.get? id = some new →
    old.granted ≠ new.granted →
    old.granted = false ∧ new.granted = true ∧
      reached? r s = some .token ∧ p.presentedCode? r = some id

/-- A request begins a session in the place of a granted one. -/
def ReplacesGranted (p : Provider) (r : Request) (s : ProviderState) : Prop :=
  ∃ session stored, (p.moment s (.request r)).Begins p session ∧
    s.store.get? session.id = some stored ∧ stored.granted = true

/-- A granted session ceases to be granted exactly when another takes its place. -/
theorem grantsForward_iff (p : Provider) (r : Request) (s : ProviderState) :
    p.GrantsForward r s ↔ ¬ p.ReplacesGranted r s := by
  constructor
  · rintro h ⟨session, stored, hbegins, hstored, hgranted⟩
    have hget := hbegins.get? session.id
    rw [if_pos rfl] at hget
    have hflips : stored.granted ≠ session.granted := by
      rw [hgranted, hbegins.not_granted]
      decide
    rw [(h _ _ _ hstored hget hflips).1] at hgranted
    cases hgranted
  · intro h id old new hold hnew hflips
    have hentry := entry_respond p r s id
    rw [hnew] at hentry
    generalize hafter : some new = after at hentry
    cases hentry with
    | begun begins named =>
      obtain rfl := Option.some.inj hafter
      subst named
      have hgranted : old.granted = true := by
        rw [begins.not_granted] at hflips
        exact Bool.eq_true_of_not_eq_false hflips
      exact absurd ⟨new, old, begins, hold, hgranted⟩ h
    | granted reached presented found opened =>
      obtain rfl := Option.some.inj (found.symm.trans hold)
      obtain rfl := Option.some.inj hafter
      exact ⟨opened, rfl, reached, presented⟩
    | kept =>
      rw [← hafter] at hold
      obtain rfl := Option.some.inj hold
      exact absurd rfl hflips

/-- What flips is the session that begins or the one whose code is redeemed. -/
theorem Flips.named {p : Provider} {r : Request} {s : ProviderState} {id : String}
    (h : p.Flips r s id) :
    p.BeginsCode id (p.moment s (.request r)) ∨
      (reached? r s = some .token ∧ p.presentedCode? r = some id) := by
  obtain ⟨old, new, hold, hnew, hflips⟩ := h
  have hentry := entry_respond p r s id
  rw [hnew] at hentry
  generalize hafter : some new = after at hentry
  cases hentry with
  | begun begins named => exact .inl ⟨_, begins, named⟩
  | granted reached presented found opened => exact .inr ⟨reached, presented⟩
  | kept =>
    rw [← hafter] at hold
    obtain rfl := Option.some.inj hold
    exact absurd rfl hflips

theorem Flips.unique {p : Provider} {r : Request} {s : ProviderState} {id id' : String}
    (h : p.Flips r s id) (h' : p.Flips r s id') : id = id' := by
  have apart {id : String} (hbegins : p.BeginsCode id (p.moment s (.request r)))
      (hreached : reached? r s = some .token) : False := by
    obtain ⟨session, hbegins, -⟩ := hbegins
    cases hreached.symm.trans (passes_of_begins hbegins).1
  rcases h.named with hbegins | ⟨hreached, hcode⟩ <;>
    rcases h'.named with hbegins' | ⟨hreached', hcode'⟩
  · obtain ⟨session, hbegins, rfl⟩ := hbegins
    obtain ⟨other, hother, rfl⟩ := hbegins'
    exact hbegins.id_unique hother
  · exact (apart hbegins hreached').elim
  · exact (apart hbegins' hreached).elim
  · exact Option.some.inj (hcode.symm.trans hcode')

/-! ## Every request -/

/-- What a request may change. Entries stay, and each is the stored session of its identifier. The
scopes, the nonce and the user under an identifier change only where a session begins under it. At
most one session is granted, by a token request for its code, unless one takes the place of a
granted session. A request that passes begins one session, with at most one user and one code from
the front of their queues; any other adds no session and takes nothing. Idle requests change
nothing at all, and no request moves the clock or queues an error. -/
structure Framed (p : Provider) (r : Request) (s : ProviderState) : Prop where
  stays : ∀ id, (s.store.get? id).isSome = true →
    ((p.respond r s).2.store.get? id).isSome = true
  keyed : ∀ id session, (p.respond r s).2.store.get? id = some session ↔
    session ∈ (p.respond r s).2.store.sessions ∧ session.id = id
  rebound : ∀ id old new, s.store.get? id = some old →
    (p.respond r s).2.store.get? id = some new →
    new.scopes ≠ old.scopes ∨ new.nonce ≠ old.nonce ∨ new.user ≠ old.user →
    p.BeginsCode id (p.moment s (.request r))
  granted : p.GrantsForward r s ↔ ¬ p.ReplacesGranted r s
  grantsOne : ∀ id id', p.Flips r s id → p.Flips r s id' → id = id'
  passed : p.Passes r s → ∃ session, (p.moment s (.request r)).Begins p session ∧
    (∀ other, (p.moment s (.request r)).Begins p other → other = session) ∧
    (∀ id, session.id ≠ id → (p.respond r s).2.store.get? id = s.store.get? id) ∧
    (p.respond r s).2.users.queue.items = s.users.queue.items.tail ∧
    (p.respond r s).2.store.codes.items = s.store.codes.items.tail
  unpassed : ¬ p.Passes r s →
    (∀ id, ((p.respond r s).2.store.get? id).isSome = (s.store.get? id).isSome) ∧
    (p.respond r s).2.users = s.users ∧ (p.respond r s).2.store.codes = s.store.codes
  idle : s.errors.items = [] → Idle r → (p.respond r s).2 = s
  notFound : s.errors.items = [] → Endpoint.ofPath? r.path = none →
    (p.respond r s).1.map Response.status = some 404
  notAllowed : s.errors.items = [] → ∀ e, Endpoint.ofPath? r.path = some e →
    e.serves r.method = false → (p.respond r s).1.map Response.status = some 405
  others : s.errors.items = [] → (p.respond r s).2.errors.items = [] ∧
    (p.respond r s).2.clock = s.clock ∧ (p.respond r s).2.users.fallback = s.users.fallback

/-- What an accepted request takes, and that it leaves all other sessions alone. -/
theorem begins_frame {p : Provider} {r : Request} {s : ProviderState} (h : p.Passes r s) :
    ∃ session, (p.moment s (.request r)).Begins p session ∧
      (∀ other, (p.moment s (.request r)).Begins p other → other = session) ∧
      (∀ id, session.id ≠ id → (p.respond r s).2.store.get? id = s.store.get? id) ∧
      (p.respond r s).2.users.queue.items = s.users.queue.items.tail ∧
      (p.respond r s).2.store.codes.items = s.store.codes.items.tail := by
  obtain ⟨session, hbegins, -, husers⟩ := begins_of_passes h
  refine ⟨session, hbegins, fun other hother => hother.unique hbegins, fun id hid => ?_, ?_, ?_⟩
  · have hget := hbegins.get? id
    rwa [if_neg hid] at hget
  · rw [husers]
    exact Queue.pop_snd_items _
  · have hcodes : (p.respond r s).2.store.codes = s.store.codes.pop.2 :=
      hbegins.nextId.2.1.trans (nextId_codes p.randomId s.store)
    rw [hcodes, Queue.pop_snd_items]

theorem status_of_unknown (p : Provider) {r : Request} {s : ProviderState}
    (herrors : s.errors.items = []) (hpath : Endpoint.ofPath? r.path = none) :
    (p.respond r s).1.map Response.status = some 404 := by
  unfold respond
  rw [pop_of_items_nil herrors, hpath]
  rfl

theorem status_of_unserved (p : Provider) {r : Request} {s : ProviderState} {e : Endpoint}
    (herrors : s.errors.items = []) (hpath : Endpoint.ofPath? r.path = some e)
    (hserves : e.serves r.method = false) :
    (p.respond r s).1.map Response.status = some 405 := by
  unfold respond
  rw [pop_of_items_nil herrors, hpath]
  simp only [hserves, Bool.false_eq_true, if_false]
  rfl

/-- Requests move no clock, and queue no error. -/
theorem respond_others (p : Provider) (r : Request) {s : ProviderState}
    (herrors : s.errors.items = []) :
    (p.respond r s).2.errors.items = [] ∧ (p.respond r s).2.clock = s.clock := by
  refine ⟨?_, ?_⟩
  · rw [errors_of_effect (respond_effect p r s), herrors]
    rfl
  · have heffect := respond_effect p r s
    generalize (p.respond r s).2 = s' at heffect ⊢
    cases heffect with
    | begins reached accepted => rfl
    | spends reached presented grant => rfl
    | keeps notAccepted notGranted => rfl

theorem framed_of_keyed {p : Provider} {s : ProviderState} (h : s.store.Keyed) (r : Request) :
    Framed p r s where
  stays _ := isSome_respond p r
  keyed _ _ := SessionStore.get?_eq_some_iff_of_keyed (keyed_step p s (.request r) h)
  rebound _ _ _ := begun_of_rebound
  granted := grantsForward_iff p r s
  grantsOne _ _ := Flips.unique
  passed := begins_frame
  unpassed hpasses := by
    refine ⟨fun id => (entry_respond p r s id).isSome ?_, respond_queues_of_not_passes hpasses⟩
    rintro ⟨session, hbegins, -⟩
    exact hpasses (passes_of_begins hbegins)
  idle herrors hidle := respond_of_idle p hidle herrors
  notFound := status_of_unknown p
  notAllowed herrors _ := status_of_unserved p herrors
  others herrors :=
    ⟨(respond_others p r herrors).1, (respond_others p r herrors).2,
      fallback_step p s (.request r) rfl⟩

/-- Every request to a provider whose store was empty at the start is framed. -/
theorem framed_run (p : Provider) (users : UserSupply) (errors : Queue ProtocolError)
    (clock : Clock) (steps : List Step) (r : Request) :
    Framed p r (p.run ⟨.empty, users, errors, clock⟩ steps).2 :=
  framed_of_keyed (run_induction (P := fun s => s.store.Keyed) (keyed_step p)
    SessionStore.keyed_empty steps) r

/-- A session that takes the place of the sample session, for another user. -/
def renewedSession : Session := ⟨"c", ["openid"], none, .ofSubject "bob", false⟩

/-- The state in which it is about to begin, with the code queued once more. -/
def renewingState : ProviderState :=
  ((sampleState true 0).queueUser (.ofSubject "bob")).queueCode "c"

theorem begins_renewal {p : Provider} (hclient : p.HasClient) :
    (p.moment renewingState (.request p.loginRequest)).Begins p renewedSession := by
  refine ⟨p.loginRequest, ["openid"], none, rfl, rfl, ?_⟩
  rw [after_request, respond_loginRequest hclient rfl]
  rfl

/-- The code of a redeemed session is queued once more, and a client asks for authorization: the
session that begins takes the place of the granted one, and is not granted. -/
theorem not_grantsForward_of_requeued :
    (plainSample.run (.initial .jane 0)
        [.queueCode "c", .request plainSample.loginRequest,
          .request (plainSample.grantRequest .authorizationCode "c"),
          .queueUser (.ofSubject "bob"), .queueCode "c"]).2 = renewingState ∧
      renewingState.errors.items = [] ∧
      (renewingState.store.get? "c").map Session.granted = some true ∧
      ((plainSample.respond plainSample.loginRequest renewingState).2.store.get? "c").map
        Session.granted = some false ∧
      ¬ plainSample.GrantsForward plainSample.loginRequest renewingState := by
  have hclient : plainSample.HasClient := ⟨by decide, by decide⟩
  have hbegins := begins_renewal hclient
  refine ⟨?_, rfl, rfl, ?_, fun h => ?_⟩
  · rw [run_of_login hclient, run_cons, (grants_sample hclient 0).2]
    rfl
  · have hget := hbegins.get? "c"
    rw [after_request] at hget
    rw [hget]
    rfl
  · exact (grantsForward_iff _ _ _).1 h ⟨renewedSession, sampleSession true, hbegins, rfl, rfl⟩

end OpenIdProvider.Provider
