/-
  What a refused authorization request uses up. The checks of the parameters come before the next
  user and the next identifier are taken, and the redirect target is read after that. So a request
  that a waiting error or one of the checks refuses leaves users, codes and sessions alone, and
  what waited for it is there for the next request that succeeds; a request whose target is
  refused has begun its session.
-/
import OpenIdProvider.Proofs.Provider.History

namespace OpenIdProvider.Provider

open Http

/-- An authorization request that is answered with an error. -/
def Refused (p : Provider) (r : Request) (s : ProviderState) : Prop :=
  Endpoint.ofPath? r.path = some .authorization ∧
    ∃ e, (p.respond r s).1 = some (finish (some .authorization) r.method (Reply.error e))

/-- No error waits, and the request passes all checks but the one of its redirect target. -/
def Passes (p : Provider) (r : Request) (s : ProviderState) : Prop :=
  reached? r s = some .authorization ∧ (p.accepted? r).isSome = true

/-! ## Before and after the checks -/

/-- A request to the authorization endpoint that does not pass changes nothing but the errors. -/
theorem respond_of_not_passes {p : Provider} {r : Request} {s : ProviderState}
    (hpath : Endpoint.ofPath? r.path = some .authorization) (h : ¬ p.Passes r s) :
    (p.respond r s).2 = { s with errors := s.errors.pop.2 } := by
  have heffect := respond_effect p r s
  generalize (p.respond r s).2 = s' at heffect ⊢
  cases heffect with
  | begins reached accepted => exact absurd ⟨reached, by rw [accepted]; rfl⟩ h
  | spends reached presented grant =>
    have htoken := hpath.symm.trans (reached?_eq_some_iff.1 reached).2.1
    cases htoken
  | keeps notAccepted notGranted => rfl

/-- An accepted request begins a session with its scopes and its nonce, whatever it is answered. -/
theorem begins_of_accepted {p : Provider} {r : Request} {s : ProviderState} {params : Params}
    {scopes : List String} (hreached : reached? r s = some .authorization)
    (haccepted : p.accepted? r = some (params, scopes)) :
    (p.moment s (.request r)).Begins p (p.beginSession scopes (params.optional "nonce") s).1 ∧
      (p.respond r s).2 = (p.beginSession scopes (params.optional "nonce") s).2 := by
  have hstate : (p.respond r s).2 = (p.beginSession scopes (params.optional "nonce") s).2 := by
    rw [respond_of_reached hreached]
    exact serve_authorization_of_accepted haccepted s
  refine ⟨⟨r, scopes, params.optional "nonce", rfl, (reached?_eq_some_iff.1 hreached).2.1, ?_⟩,
    hstate⟩
  show _ = (_, (p.respond r s).2.store)
  rw [hstate]
  rfl

/-- A request that passes begins a session for the next user. -/
theorem begins_of_passes {p : Provider} {r : Request} {s : ProviderState} (h : p.Passes r s) :
    ∃ session, (p.moment s (.request r)).Begins p session ∧
      session.user = s.users.next.1 ∧ (p.respond r s).2.users = s.users.next.2 := by
  obtain ⟨hreached, haccepted⟩ := h
  obtain ⟨⟨params, scopes⟩, haccepted⟩ := Option.isSome_iff_exists.1 haccepted
  obtain ⟨hbegins, hstate⟩ := begins_of_accepted hreached haccepted
  refine ⟨_, hbegins, rfl, ?_⟩
  rw [hstate]
  rfl

/-- The headers of a redirect are not those of an error. -/
theorem finish_redirect_ne_error {location : String} {e : Endpoint} {method : Method}
    (hserves : e.serves method = true) (hvalue : (Utf8.encode location).all Headers.isValueByte)
    (error : ProtocolError) :
    finish (some e) method (Reply.redirect location) ≠
      finish (some e) method (Reply.error error) := by
  intro h
  have hheaders := congrArg (fun response => response.headers[2]?) h
  unfold finish Reply.redirect at hheaders
  rw [if_pos hvalue] at hheaders
  simp only [hserves, if_true] at hheaders
  exact absurd hheaders (by simp [Reply.noCache, Reply.error, Reply.jsonBytes])

theorem passes_of_begins {p : Provider} {r : Request} {s : ProviderState} {session : Session}
    (h : (p.moment s (.request r)).Begins p session) : p.Passes r s := by
  obtain ⟨_, scopes, nonce, hstep, hpath, hcreate⟩ := h
  cases hstep
  by_cases hpasses : p.Passes r s
  · exact hpasses
  · have hstore : (p.respond r s).2.store = s.store := by
      rw [respond_of_not_passes hpath hpasses]
    have hcreate' := (congrArg Prod.snd hcreate).trans hstore
    exact absurd hcreate' (SessionStore.create_ne p.randomId s.store scopes nonce s.users.next.1)

/-- A request that begins a session is answered with the redirect to its location. -/
theorem respond_of_begins {p : Provider} {r : Request} {s : ProviderState} {session : Session}
    (h : (p.moment s (.request r)).Begins p session) {params : Params}
    (hparams : Params.ofRequest r.headers r.query r.body = .ok params) {location : String}
    (hlocation : Redirect.location (params.get "redirect_uri") session.id (params.get "state") =
      .ok location) :
    (p.respond r s).1 = some (finish (some .authorization) r.method (Reply.redirect location)) := by
  obtain ⟨hreached, haccepted⟩ := passes_of_begins h
  obtain ⟨⟨params', scopes⟩, haccepted⟩ := Option.isSome_iff_exists.1 haccepted
  obtain ⟨hparams', -⟩ := accepted?_eq_some_iff.1 haccepted
  obtain rfl : params' = params := Except.ok.inj (hparams'.symm.trans hparams)
  have hid : (s.store.nextId p.randomId).1 = session.id := h.nextId.1
  rw [respond_of_reached hreached, answer_authorization_of_accepted haccepted, hid, hlocation]
  rfl

/-- What a request that passes is refused for: its target has no location that a header can
hold. -/
theorem location_of_refused {p : Provider} {r : Request} {s : ProviderState}
    (hpasses : p.Passes r s) (hrefused : p.Refused r s) :
    ∃ params, Params.ofRequest r.headers r.query r.body = .ok params ∧
      ∀ session, (p.moment s (.request r)).Begins p session → ∀ location,
        Redirect.location (params.get "redirect_uri") session.id (params.get "state") =
          .ok location → ¬ (Utf8.encode location).all Headers.isValueByte := by
  obtain ⟨hreached, haccepted⟩ := hpasses
  obtain ⟨⟨params, scopes⟩, haccepted⟩ := Option.isSome_iff_exists.1 haccepted
  have hparams := (accepted?_eq_some_iff.1 haccepted).1
  refine ⟨params, hparams, fun session hbegins location hlocation hvalue => ?_⟩
  obtain ⟨-, e, he⟩ := hrefused
  rw [respond_of_begins hbegins hparams hlocation] at he
  exact finish_redirect_ne_error (reached?_eq_some_iff.1 hreached).2.2 hvalue e
    (Option.some.inj he)

/-- A request that the endpoint serves is refused unless it passes. -/
theorem refused_of_not_passes {p : Provider} {r : Request} {s : ProviderState}
    (hpath : Endpoint.ofPath? r.path = some .authorization)
    (hserves : Endpoint.authorization.serves r.method = true) (h : ¬ p.Passes r s) :
    p.Refused r s := by
  refine ⟨hpath, ?_⟩
  cases hreached : reached? r s with
  | none =>
    cases herrors : s.errors.items with
    | nil =>
      rw [reached?_eq_some_iff.2 ⟨herrors, hpath, hserves⟩] at hreached
      cases hreached
    | cons e errors =>
      refine ⟨e, ?_⟩
      rw [respond_of_waiting p r herrors, hpath]
  | some e =>
    obtain rfl : e = .authorization :=
      Option.some.inj ((reached?_eq_some_iff.1 hreached).2.1.symm.trans hpath)
    have haccepted : p.accepted? r = none := by
      rw [← Option.not_isSome_iff_eq_none]
      exact fun haccepted => h ⟨hreached, haccepted⟩
    obtain ⟨-, e, he⟩ := serve_authorization_of_not_accepted haccepted s
    refine ⟨e, ?_⟩
    rw [respond_of_reached hreached, he]
    rfl

/-- A target without a location is answered as an internal error. -/
theorem refused_of_location_error {p : Provider} {r : Request} {s : ProviderState}
    {target state : String} (hreached : reached? r s = some .authorization)
    (htarget : (p.accepted? r).map (fun accepted =>
      (accepted.1.get "redirect_uri", accepted.1.get "state")) = some (target, state))
    (h : (Redirect.location target (s.store.nextId p.randomId).1 state).toOption = none) :
    p.Refused r s := by
  obtain ⟨⟨params, scopes⟩, haccepted, hpair⟩ := Option.map_eq_some_iff.1 htarget
  obtain ⟨rfl, rfl⟩ := Prod.mk.inj hpair
  cases hlocation : Redirect.location (params.get "redirect_uri")
      (s.store.nextId p.randomId).1 (params.get "state") with
  | ok location =>
    rw [hlocation] at h
    cases h
  | error e =>
    refine ⟨(reached?_eq_some_iff.1 hreached).2.1, .internal e.message, ?_⟩
    rw [respond_of_reached hreached, answer_authorization_of_accepted haccepted, hlocation]
    rfl

/-! ## What waits for the next request -/

/-- A request that does not pass takes no user and no code. -/
theorem respond_queues_of_not_passes {p : Provider} {r : Request} {s : ProviderState}
    (h : ¬ p.Passes r s) :
    (p.respond r s).2.users = s.users ∧ (p.respond r s).2.store.codes = s.store.codes := by
  have heffect := respond_effect p r s
  generalize (p.respond r s).2 = s' at heffect ⊢
  cases heffect with
  | begins reached accepted => exact absurd ⟨reached, by rw [accepted]; rfl⟩ h
  | spends reached presented grant => exact ⟨rfl, (SessionStore.grant_codes grant).1⟩
  | keeps notAccepted notGranted => exact ⟨rfl, rfl⟩

/-- As long as no request passes, users and codes are only queued. -/
theorem waiting_step {p : Provider} {s : ProviderState} (step : Step)
    (h : ∀ r, step = .request r → ¬ p.Passes r s) :
    s.users.queue.items <+: (p.step s step).2.users.queue.items ∧
      s.store.codes.items <+: (p.step s step).2.store.codes.items := by
  cases step with
  | request r =>
    obtain ⟨husers, hcodes⟩ := respond_queues_of_not_passes (h r rfl)
    show s.users.queue.items <+: (p.respond r s).2.users.queue.items ∧
      s.store.codes.items <+: (p.respond r s).2.store.codes.items
    rw [husers, hcodes]
    exact ⟨List.prefix_refl _, List.prefix_refl _⟩
  | queueUser u => exact ⟨List.prefix_append _ _, List.prefix_refl _⟩
  | queueCode code => exact ⟨List.prefix_refl _, List.prefix_append _ _⟩
  | queueError e => exact ⟨List.prefix_refl _, List.prefix_refl _⟩
  | advance d => exact ⟨List.prefix_refl _, List.prefix_refl _⟩
  | setClock t => exact ⟨List.prefix_refl _, List.prefix_refl _⟩
  | tick t => exact ⟨List.prefix_refl _, List.prefix_refl _⟩

theorem waiting_run {p : Provider} {s : ProviderState} {steps : List Step}
    (h : ∀ m ∈ p.history s steps, ∀ r, m.step = .request r → ¬ p.Passes r m.before) :
    s.users.queue.items <+: (p.run s steps).2.users.queue.items ∧
      s.store.codes.items <+: (p.run s steps).2.store.codes.items := by
  induction steps generalizing s with
  | nil => exact ⟨List.prefix_refl _, List.prefix_refl _⟩
  | cons step steps ih =>
    rw [history, List.forall_mem_cons] at h
    obtain ⟨husers, hcodes⟩ := waiting_step step h.1
    obtain ⟨husers', hcodes'⟩ := ih h.2
    exact ⟨husers.trans husers', hcodes.trans hcodes'⟩

theorem next_user_of_waiting {users : UserSupply} {user : User} {rest : List User}
    (h : users.queue.items = user :: rest) : users.next.1 = user := by
  unfold UserSupply.next Queue.pop
  rw [h]
  rfl

/-- What a refused authorization request does: nothing, if an error that waits or a check of its
parameters refuses it; and a session is begun, if only its redirect target is refused. While no
request passes, the user and the code that wait in front stay there, and the next authorization
request that succeeds begins its session with them. -/
structure RefusalsKeep (p : Provider) (s : ProviderState) : Prop where
  intact : ∀ r, p.Refused r s → ¬ p.Passes r s →
    (p.respond r s).2.store = s.store ∧ (p.respond r s).2.users = s.users
  consumed : ∀ r, p.Refused r s → p.Passes r s →
    ∃ session params, (p.moment s (.request r)).Begins p session ∧
      session.user = s.users.next.1 ∧ (p.respond r s).2.users = s.users.next.2 ∧
      Params.ofRequest r.headers r.query r.body = .ok params ∧
      ∀ location, Redirect.location (params.get "redirect_uri") session.id
        (params.get "state") = .ok location → ¬ (Utf8.encode location).all Headers.isValueByte
  next : ∀ steps, (∀ m ∈ p.history s steps, ∀ r, m.step = .request r → ¬ p.Passes r m.before) →
    ∀ r, Endpoint.ofPath? r.path = some .authorization →
    Endpoint.authorization.serves r.method = true → ¬ p.Refused r (p.run s steps).2 →
    ∃ session, (p.moment (p.run s steps).2 (.request r)).Begins p session ∧
      (∀ user users, s.users.queue.items = user :: users → session.user = user) ∧
      ∀ code codes, s.store.codes.items = code :: codes → session.id = code

theorem refusalsKeep (p : Provider) (s : ProviderState) : RefusalsKeep p s := by
  refine ⟨?_, ?_, ?_⟩
  · intro r hrefused hpasses
    rw [respond_of_not_passes hrefused.1 hpasses]
    exact ⟨rfl, rfl⟩
  · intro r hrefused hpasses
    obtain ⟨session, hbegins, huser, husers⟩ := begins_of_passes hpasses
    obtain ⟨params, hparams, hlocation⟩ := location_of_refused hpasses hrefused
    exact ⟨session, params, hbegins, huser, husers, hparams, hlocation session hbegins⟩
  · intro steps hsteps r hpath hserves hrefused
    have hpasses : p.Passes r (p.run s steps).2 := by
      by_cases hpasses : p.Passes r (p.run s steps).2
      · exact hpasses
      · exact absurd (refused_of_not_passes hpath hserves hpasses) hrefused
    obtain ⟨husers, hcodes⟩ := waiting_run hsteps
    obtain ⟨session, hbegins, huser, -⟩ := begins_of_passes hpasses
    refine ⟨session, hbegins, ?_, ?_⟩
    · intro user users h
      obtain ⟨more, hmore⟩ := husers
      rw [h, List.cons_append] at hmore
      rw [huser, next_user_of_waiting hmore.symm]
    · intro code codes h
      obtain ⟨more, hmore⟩ := hcodes
      rw [h, List.cons_append] at hmore
      rw [← hbegins.nextId.1]
      show ((p.run s steps).2.store.nextId p.randomId).1 = code
      rw [SessionStore.nextId_cons p.randomId hmore.symm]

/-- The sample provider with a user and a code that wait. -/
def sampleWaiting : ProviderState :=
  (sample.run (.initial .jane 0) [.queueUser (.ofSubject "bob"), .queueCode "c"]).2

/-- A request with a malformed target is answered with an error, and the user and the code that
waited are gone. -/
theorem refused_target_takes_waiting :
    sample.Refused (sampleRequest "http://[") sampleWaiting ∧
      sampleWaiting.users.queue.items = [.ofSubject "bob"] ∧
      sampleWaiting.store.codes.items = ["c"] ∧ sampleWaiting.store.get? "c" = none ∧
      (sample.respond (sampleRequest "http://[") sampleWaiting).2.users.queue.items = [] ∧
      (sample.respond (sampleRequest "http://[") sampleWaiting).2.store.codes.items = [] ∧
      (sample.respond (sampleRequest "http://[") sampleWaiting).2.store.get? "c" =
        some ⟨"c", ["openid"], none, .ofSubject "bob", false⟩ := by
  refine ⟨?_, by decide +kernel⟩
  exact refused_of_location_error (by decide +kernel)
    (show _ = some ("http://[", "s") by decide +kernel) (by decide +kernel)

end OpenIdProvider.Provider
