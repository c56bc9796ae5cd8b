/-
  What a request does to the state. A request is answered by the endpoint it reaches, or by an
  error that waits in the queue. `Effect` lists the three things that can happen to the state: an
  authorization request that passes all checks of its parameters begins a session, a token request
  spends a code, and every other request leaves sessions and users alone. `respond_effect` says
  that these are all.
-/
import OpenIdProvider.Proofs.Provider.Checks
import OpenIdProvider.Proofs.Session.Store
import OpenIdProvider.Provider.Requests

namespace OpenIdProvider.Provider

open Http

/-! ## Which endpoint answers -/

/-- The endpoint that answers a request: none if an error waits in the queue, if the path is
unknown, or if the endpoint does not serve the method. -/
def reached? (r : Request) (s : ProviderState) : Option Endpoint :=
  if s.errors.items = [] then (Endpoint.ofPath? r.path).filter fun e => e.serves r.method
  else none

theorem reached?_eq_some_iff {r : Request} {s : ProviderState} {e : Endpoint} :
    reached? r s = some e ↔
      s.errors.items = [] ∧ Endpoint.ofPath? r.path = some e ∧ e.serves r.method = true := by
  unfold reached?
  by_cases h : s.errors.items = [] <;> simp [h, Option.filter_eq_some_iff]

theorem pop_of_items_nil {α : Type} {q : Queue α} (h : q.items = []) : q.pop = (none, q) := by
  unfold Queue.pop
  rw [h]

theorem respond_of_reached {p : Provider} {r : Request} {s : ProviderState} {e : Endpoint}
    (h : reached? r s = some e) :
    p.respond r s =
      ((p.serve e r s).1.map (finish (some e) r.method), (p.serve e r s).2) := by
  obtain ⟨herrors, hpath, hserves⟩ := reached?_eq_some_iff.1 h
  unfold respond
  rw [pop_of_items_nil herrors, hpath]
  simp only [hserves, if_true]

/-- An error that waits answers any request. -/
theorem respond_of_waiting (p : Provider) (r : Request) {s : ProviderState} {e : ProtocolError}
    {errors : List ProtocolError} (h : s.errors.items = e :: errors) :
    p.respond r s =
      (some (finish (Endpoint.ofPath? r.path) r.method (Reply.error e)),
        { s with errors := ⟨errors⟩ }) := by
  have hpop : s.errors.pop = (some e, ⟨errors⟩) := by
    unfold Queue.pop
    rw [h]
  unfold respond
  rw [hpop]
  rfl

/-- Where no endpoint answers, the oldest waiting error does, or else that there is no such
endpoint or method; nothing but the queue of errors changes. -/
theorem respond_of_not_reached {p : Provider} {r : Request} {s : ProviderState}
    (h : reached? r s = none) :
    ∃ response,
      (response = notFound ∨ response = methodNotAllowed ∨ ∃ e, response = Reply.error e) ∧
      p.respond r s =
        (some (finish (Endpoint.ofPath? r.path) r.method response),
          { s with errors := s.errors.pop.2 }) := by
  cases herrors : s.errors.items with
  | cons e errors =>
    refine ⟨Reply.error e, .inr (.inr ⟨e, rfl⟩), ?_⟩
    rw [respond_of_waiting p r herrors]
    unfold Queue.pop
    rw [herrors]
  | nil =>
    unfold respond
    rw [pop_of_items_nil herrors]
    cases hpath : Endpoint.ofPath? r.path with
    | none => exact ⟨notFound, .inl rfl, rfl⟩
    | some e =>
      have hserves : ¬ e.serves r.method = true := by
        intro hserves
        rw [reached?_eq_some_iff.2 ⟨herrors, hpath, hserves⟩] at h
        cases h
      refine ⟨methodNotAllowed, .inr (.inl rfl), ?_⟩
      simp only [if_neg hserves]
      rfl

/-! ## What the endpoints change -/

/-- The parameters and the scopes of an authorization request that passes all checks of its
parameters. Its redirect target is not among them. -/
def accepted? (p : Provider) (r : Request) : Option (Params × List String) :=
  match Params.ofRequest r.headers r.query r.body with
  | .error _ => none
  | .ok params =>
    match p.requestedScopes params with
    | .error _ => none
    | .ok scopes => some (params, scopes)

/-- The code that a token request with valid credentials asks to redeem. -/
def presentedCode? (p : Provider) (r : Request) : Option String :=
  match exchangeParams r with
  | .error _ => none
  | .ok params =>
    match p.requestedGrant params with
    | .ok .authorizationCode =>
      if params.get "code" = "" then none else some (params.get "code")
    | _ => none

/-- What a request does to the state. -/
inductive Effect (p : Provider) (r : Request) (s : ProviderState) : ProviderState → Prop
  /-- A session is begun for the next user. -/
  | begins {params : Params} {scopes : List String}
      (reached : reached? r s = some .authorization)
      (accepted : p.accepted? r = some (params, scopes)) :
      Effect p r s (p.beginSession scopes (params.optional "nonce") s).2
  /-- A code is spent. -/
  | spends {code : String} {session : Session} {store : SessionStore}
      (reached : reached? r s = some .token) (presented : p.presentedCode? r = some code)
      (grant : s.store.grant code = .ok (session, store)) :
      Effect p r s { s with store := store }
  /-- Sessions and users stay as they are. -/
  | keeps (notAccepted : reached? r s = some .authorization → p.accepted? r = none)
      (notGranted : reached? r s = some .token → ∀ code, p.presentedCode? r = some code →
        ∃ e, s.store.grant code = .error e) :
      Effect p r s { s with errors := s.errors.pop.2 }

theorem accepted?_eq_some_iff {p : Provider} {r : Request} {params : Params}
    {scopes : List String} :
    p.accepted? r = some (params, scopes) ↔
      Params.ofRequest r.headers r.query r.body = .ok params ∧
        p.requestedScopes params = .ok scopes := by
  unfold accepted?
  constructor
  · intro h
    split at h
    · cases h
    · rename_i hparams
      split at h
      · cases h
      · rename_i hscopes
        cases h
        exact ⟨hparams, hscopes⟩
  · rintro ⟨hparams, hscopes⟩
    simp only [hparams, hscopes]

/-- Whatever becomes of its redirect target, an accepted request has begun its session. -/
theorem serve_authorization_of_accepted {p : Provider} {r : Request} {params : Params}
    {scopes : List String} (h : p.accepted? r = some (params, scopes)) (s : ProviderState) :
    (p.serve .authorization r s).2 = (p.beginSession scopes (params.optional "nonce") s).2 := by
  obtain ⟨hparams, hscopes⟩ := accepted?_eq_some_iff.1 h
  simp only [serve, hparams, authorize, hscopes]
  split <;> rfl

/-- An accepted request is answered with the location for the next code, or with an internal error
if there is none. -/
theorem answer_authorization_of_accepted {p : Provider} {r : Request} {params : Params}
    {scopes : List String} (h : p.accepted? r = some (params, scopes)) (s : ProviderState) :
    (p.serve .authorization r s).1 =
      (Outcome.ofExcept ((Redirect.location (params.get "redirect_uri")
        (s.store.nextId p.randomId).1 (params.get "state")).mapError fun e =>
          ProtocolError.internal e.message)).respond Reply.redirect Reply.error := by
  obtain ⟨hparams, hscopes⟩ := accepted?_eq_some_iff.1 h
  have hid : (p.beginSession scopes (params.optional "nonce") s).1.id =
    (s.store.nextId p.randomId).1 := rfl
  simp only [serve, hparams, authorize, hscopes, hid]
  split <;> rename_i hlocation <;> rw [hlocation] <;> rfl

theorem serve_authorization_of_not_accepted {p : Provider} {r : Request}
    (h : p.accepted? r = none) (s : ProviderState) :
    (p.serve .authorization r s).2 = s ∧
      ∃ e, (p.serve .authorization r s).1 = some (Reply.error e) := by
  unfold accepted? at h
  simp only [serve]
  cases hparams : Params.ofRequest r.headers r.query r.body with
  | error e => exact ⟨rfl, e, rfl⟩
  | ok params =>
    rw [hparams] at h
    cases hscopes : p.requestedScopes params with
    | error e =>
      simp only [authorize, hscopes]
      exact ⟨trivial, e, rfl⟩
    | ok scopes =>
      simp only [hscopes] at h
      cases h

theorem presentedCode?_eq_some_iff {p : Provider} {r : Request} {code : String} :
    p.presentedCode? r = some code ↔
      code ≠ "" ∧ ∃ params, exchangeParams r = .ok params ∧ p.ValidCredentials params ∧
        params.get "grant_type" = "authorization_code" ∧ params.get "code" = code := by
  unfold presentedCode?
  constructor
  · intro h
    split at h
    · cases h
    · rename_i params hparams
      split at h
      · rename_i hgrant
        obtain ⟨hvalid, hname⟩ := requestedGrant_eq_ok_iff.1 hgrant
        by_cases hcode : params.get "code" = ""
        · rw [if_pos hcode] at h
          cases h
        · rw [if_neg hcode] at h
          cases h
          exact ⟨hcode, params, hparams, hvalid, hname, rfl⟩
      · cases h
  · rintro ⟨hcode, params, hparams, hvalid, hname, rfl⟩
    have hgrant : p.requestedGrant params = .ok .authorizationCode :=
      requestedGrant_eq_ok_iff.2 ⟨hvalid, hname⟩
    simp only [hparams, hgrant, if_neg hcode]

/-- A redeemed code is spent, whether or not tokens can be made for it. -/
theorem exchange_of_granted {p : Provider} {params : Params} {s : ProviderState}
    {session : Session} {store : SessionStore} (hvalid : p.ValidCredentials params)
    (hname : params.get "grant_type" = "authorization_code") (hcode : params.get "code" ≠ "")
    (hgrant : s.store.grant (params.get "code") = .ok (session, store)) :
    p.exchange params s =
      (outcomeOfMint
        (p.issue session .authorizationCode (params.get "refresh_token") s.clock.now),
        { s with store := store }) := by
  have hrequested : p.requestedGrant params = .ok .authorizationCode :=
    requestedGrant_eq_ok_iff.2 ⟨hvalid, hname⟩
  have hredeem : redeem params s = .ok (session, { s with store := store }) :=
    redeem_eq_ok_iff.2 ⟨hcode, hname, store, hgrant, rfl⟩
  simp only [exchange, hrequested, grantedSession, hredeem]

theorem exchange_of_grant_error {p : Provider} {params : Params} {s : ProviderState}
    {e : SessionError} (hvalid : p.ValidCredentials params)
    (hname : params.get "grant_type" = "authorization_code") (hcode : params.get "code" ≠ "")
    (hgrant : s.store.grant (params.get "code") = .error e) :
    p.exchange params s =
      (.rejected (.invalidGrant ("Invalid code: " ++ params.get "code")), s) := by
  have hrequested : p.requestedGrant params = .ok .authorizationCode :=
    requestedGrant_eq_ok_iff.2 ⟨hvalid, hname⟩
  simp only [exchange, hrequested, grantedSession, redeem_of_grant_error hcode hname hgrant]

/-- A grant that is not for a code leaves the state alone, and so does every rejected one. -/
theorem exchange_snd_of_not_granted {p : Provider} {params : Params} {s : ProviderState}
    (h : p.requestedGrant params = .ok .authorizationCode → params.get "code" ≠ "" →
      ∃ e, s.store.grant (params.get "code") = .error e) :
    (p.exchange params s).2 = s := by
  unfold exchange
  split
  · rfl
  · rename_i grant hrequested
    cases grant with
    | refreshToken =>
      unfold grantedSession
      cases p.resume params s with
      | error e => rfl
      | ok session => rfl
    | authorizationCode =>
      cases hredeem : redeem params s with
      | error e => simp only [grantedSession, hredeem]
      | ok granted =>
        obtain ⟨hcode, -, store, hgrant, -⟩ := redeem_eq_ok_iff.1 hredeem
        obtain ⟨e, he⟩ := h hrequested hcode
        rw [he] at hgrant
        cases hgrant

theorem serve_token_of_granted {p : Provider} {r : Request} {s : ProviderState} {code : String}
    {session : Session} {store : SessionStore} (hcode : p.presentedCode? r = some code)
    (hgrant : s.store.grant code = .ok (session, store)) :
    (p.serve .token r s).2 = { s with store := store } := by
  obtain ⟨hne, params, hparams, hvalid, hname, rfl⟩ := presentedCode?_eq_some_iff.1 hcode
  simp only [serve, hparams, exchange_of_granted hvalid hname hne hgrant]

theorem serve_token_of_not_granted {p : Provider} {r : Request} {s : ProviderState}
    (h : ∀ code, p.presentedCode? r = some code → ∃ e, s.store.grant code = .error e) :
    (p.serve .token r s).2 = s := by
  simp only [serve]
  split
  · rfl
  · rename_i params hparams
    refine exchange_snd_of_not_granted fun hrequested hcode => ?_
    obtain ⟨hvalid, hname⟩ := requestedGrant_eq_ok_iff.1 hrequested
    exact h _ (presentedCode?_eq_some_iff.2 ⟨hcode, params, hparams, hvalid, hname, rfl⟩)

/-- The endpoints that only tell of the state. -/
theorem serve_of_reading {p : Provider} {e : Endpoint} (hauthorization : e ≠ .authorization)
    (htoken : e ≠ .token) (r : Request) (s : ProviderState) : (p.serve e r s).2 = s := by
  cases e with
  | authorization => exact absurd rfl hauthorization
  | token => exact absurd rfl htoken
  | userinfo => rfl
  | discovery => rfl
  | keys => rfl

/-- Popping an error that does not wait changes nothing. -/
theorem pop_errors_of_reached {r : Request} {s : ProviderState} {e : Endpoint}
    (h : reached? r s = some e) : { s with errors := s.errors.pop.2 } = s := by
  rw [pop_of_items_nil (reached?_eq_some_iff.1 h).1]

/-- The three effects are all that a request can have. -/
theorem respond_effect (p : Provider) (r : Request) (s : ProviderState) :
    Effect p r s (p.respond r s).2 := by
  cases h : reached? r s with
  | none =>
    obtain ⟨response, -, hrespond⟩ := respond_of_not_reached (p := p) h
    rw [hrespond]
    exact .keeps (fun h' => by rw [h] at h'; cases h') (fun h' => by rw [h] at h'; cases h')
  | some e =>
    have keeps (hauthorization : e = .authorization → p.accepted? r = none)
        (htoken : e = .token → ∀ code, p.presentedCode? r = some code →
          ∃ e, s.store.grant code = .error e) : Effect p r s s := by
      have := Effect.keeps (p := p) (r := r) (s := s)
        (fun h' => hauthorization (Option.some.inj (h.symm.trans h')))
        (fun h' => htoken (Option.some.inj (h.symm.trans h')))
      rwa [pop_errors_of_reached h] at this
    rw [respond_of_reached h]
    by_cases hauthorization : e = .authorization
    · subst hauthorization
      cases haccepted : p.accepted? r with
      | none =>
        rw [(serve_authorization_of_not_accepted haccepted s).1]
        exact keeps (fun _ => haccepted) nofun
      | some accepted =>
        rw [serve_authorization_of_accepted haccepted s]
        exact .begins h haccepted
    · by_cases htoken : e = .token
      · subst htoken
        by_cases hgrant : ∃ code session store, p.presentedCode? r = some code ∧
            s.store.grant code = .ok (session, store)
        · obtain ⟨code, session, store, hcode, hgrant⟩ := hgrant
          rw [serve_token_of_granted hcode hgrant]
          exact .spends h hcode hgrant
        · have hrefused : ∀ code, p.presentedCode? r = some code →
              ∃ e, s.store.grant code = .error e := by
            intro code hcode
            cases hstore : s.store.grant code with
            | error e => exact ⟨e, rfl⟩
            | ok granted => exact absurd ⟨code, granted.1, granted.2, hcode, hstore⟩ hgrant
          rw [serve_token_of_not_granted hrefused]
          exact keeps nofun fun _ => hrefused
      · rw [serve_of_reading hauthorization htoken]
        exact keeps (fun h' => absurd h' hauthorization) fun h' => absurd h' htoken

end OpenIdProvider.Provider
