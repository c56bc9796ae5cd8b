/-
  What clients can learn of users. Two runs that differ only in the users that are queued, and in
  the one that stands in, give the same answers if the two users that one authorization request
  begins its sessions for agree on all data that the scopes of the request release. The sessions of
  the two runs are alike at every moment, and alike sessions have the same tokens and claims.
-/
import OpenIdProvider.Proofs.Provider.Binding
import OpenIdProvider.Proofs.Provider.Client
import OpenIdProvider.Proofs.Provider.QueuedErrors
import OpenIdProvider.Proofs.Provider.Signing

namespace OpenIdProvider

open Http

/-! ## Users that agree -/

/-- Two users agree on the subject and on all data that some scopes release. -/
structure User.AgreeOn (scopes : List String) (u u' : User) : Prop where
  subject : u.subject = u'.subject
  email : Scope.email ∈ scopes → u.email = u'.email ∧ u.emailVerified = u'.emailVerified
  profile : Scope.profile ∈ scopes →
    u.preferredUsername = u'.preferredUsername ∧ u.phone = u'.phone ∧ u.address = u'.address
  groups : Scope.groups ∈ scopes → u.groups = u'.groups

namespace User

theorem AgreeOn.refl (scopes : List String) (u : User) : AgreeOn scopes u u :=
  ⟨rfl, fun _ => ⟨rfl, rfl⟩, fun _ => ⟨rfl, rfl, rfl⟩, fun _ => rfl⟩

theorem AgreeOn.release_eq {scopes : List String} {u u' : User} (h : AgreeOn scopes u u')
    {scope : String} (hmem : scope ∈ scopes) (claims : Members) :
    u.release claims scope = u'.release claims scope := by
  unfold release
  by_cases hprofile : scope = Scope.profile
  · obtain ⟨husername, hphone, haddress⟩ := h.profile (hprofile ▸ hmem)
    rw [if_pos hprofile, if_pos hprofile, husername, hphone, haddress]
  · rw [if_neg hprofile, if_neg hprofile]
    by_cases hemail : scope = Scope.email
    · obtain ⟨haddress, hverified⟩ := h.email (hemail ▸ hmem)
      rw [if_pos hemail, if_pos hemail, haddress, hverified]
    · rw [if_neg hemail, if_neg hemail]
      by_cases hgroups : scope = Scope.groups
      · rw [if_pos hgroups, if_pos hgroups, h.groups (hgroups ▸ hmem)]
      · rw [if_neg hgroups, if_neg hgroups]

/-- Scopes release the same claims of two users that agree on them. -/
theorem AgreeOn.scopedClaims_eq {scopes : List String} {u u' : User} (h : AgreeOn scopes u u') :
    u.scopedClaims scopes = u'.scopedClaims scopes := by
  unfold scopedClaims
  rw [h.subject]
  exact List.foldl_ext _ _ _ fun claims _ hmem => h.release_eq hmem claims

end User

/-! ## Sessions that are alike -/

/-- Two sessions that differ in their users only, and these agree on the scopes. -/
structure Session.Alike (session session' : Session) : Prop where
  same : session' = { session with user := session'.user }
  users : session.user.AgreeOn session.scopes session'.user

namespace Session

variable {session session' : Session}

theorem Alike.refl (session : Session) : session.Alike session :=
  ⟨rfl, .refl _ _⟩

theorem Alike.id_eq (h : session.Alike session') : session.id = session'.id :=
  (congrArg Session.id h.same).symm

theorem Alike.scopes_eq (h : session.Alike session') : session.scopes = session'.scopes :=
  (congrArg Session.scopes h.same).symm

theorem Alike.nonce_eq (h : session.Alike session') : session.nonce = session'.nonce :=
  (congrArg Session.nonce h.same).symm

theorem Alike.granted_eq (h : session.Alike session') : session.granted = session'.granted :=
  (congrArg Session.granted h.same).symm

theorem Alike.grant (h : session.Alike session') :
    { session with granted := true }.Alike { session' with granted := true } := by
  refine ⟨?_, h.users⟩
  rw [h.same]

theorem Alike.standardClaims_eq (h : session.Alike session') :
    session.standardClaims = session'.standardClaims := by
  funext settings now finish
  unfold standardClaims
  rw [h.id_eq, h.users.subject]

theorem Alike.scopedClaims_eq (h : session.Alike session') :
    session.user.scopedClaims session.scopes = session'.user.scopedClaims session'.scopes := by
  rw [← h.scopes_eq]
  exact h.users.scopedClaims_eq

theorem Alike.identityClaims_eq (h : session.Alike session') :
    session.identityClaims = session'.identityClaims := by
  funext settings now finish
  unfold identityClaims insertNonce
  rw [h.standardClaims_eq, h.scopedClaims_eq, h.nonce_eq]

/-- The same tokens are made for them. -/
theorem Alike.issue_eq (h : session.Alike session') (p : Provider) (grant : GrantType)
    (shown : String) (now : Instant) :
    p.issue session grant shown now = p.issue session' grant shown now := by
  unfold Provider.issue Provider.nextIdToken Provider.nextRefreshToken wantsIdToken accessToken
    refreshToken idToken
  rw [h.standardClaims_eq, h.identityClaims_eq, h.scopes_eq]

end Session

/-! ## Stores that are alike -/

/-- Two stores whose sessions are alike one by one, with the same codes and as many random
identifiers drawn. -/
structure SessionStore.Alike (s s' : SessionStore) : Prop where
  sessions : List.Forall₂ Session.Alike s.sessions s'.sessions
  codes : s.codes = s'.codes
  drawn : s.drawn = s'.drawn

namespace SessionStore

variable {s s' : SessionStore}

theorem Alike.refl (s : SessionStore) : s.Alike s :=
  ⟨List.forall₂_same.2 fun session _ => .refl session, rfl, rfl⟩

/-- Look-ups find alike sessions, or none in either. -/
theorem Alike.get? (h : s.Alike s') (id : String) :
    Option.Rel Session.Alike (s.get? id) (s'.get? id) := by
  have hsessions := h.sessions
  unfold SessionStore.get?
  generalize s.sessions = sessions at hsessions ⊢
  generalize s'.sessions = sessions' at hsessions ⊢
  induction hsessions with
  | nil => exact .none
  | @cons session session' rest rest' hsession hrest ih =>
    rw [List.find?_cons, List.find?_cons, ← hsession.id_eq]
    cases session.id == id with
    | true => exact .some hsession
    | false => exact ih

theorem Alike.put (h : s.Alike s') {session session' : Session}
    (hsession : session.Alike session') :
    (s.put session).Alike (s'.put session') := by
  have hsessions := h.sessions
  refine ⟨?_, h.codes, h.drawn⟩
  show List.Forall₂ Session.Alike (putIn session s.sessions) (putIn session' s'.sessions)
  generalize s.sessions = sessions at hsessions ⊢
  generalize s'.sessions = sessions' at hsessions ⊢
  induction hsessions with
  | nil => exact .cons hsession .nil
  | @cons other other' rest rest' hother hrest ih =>
    unfold putIn
    rw [← hother.id_eq, ← hsession.id_eq]
    by_cases hid : other.id = session.id
    · rw [if_pos hid, if_pos hid]
      exact .cons hsession hrest
    · rw [if_neg hid, if_neg hid]
      exact .cons hother ih

theorem Alike.nextId (h : s.Alike s') (random : Nat → String) :
    (s.nextId random).1 = (s'.nextId random).1 ∧
      (s.nextId random).2.Alike (s'.nextId random).2 := by
  have hcodes := h.codes
  cases hitems : s.codes.items with
  | nil =>
    rw [nextId_nil random hitems, nextId_nil random (hcodes ▸ hitems)]
    exact ⟨congrArg random h.drawn, h.sessions, hcodes, congrArg (· + 1) h.drawn⟩
  | cons code codes =>
    rw [nextId_cons random hitems, nextId_cons random (hcodes ▸ hitems)]
    exact ⟨rfl, h.sessions, rfl, h.drawn⟩

/-- Sessions begun for two users that agree are alike, and so are the stores. -/
theorem Alike.create (h : s.Alike s') (random : Nat → String) {scopes : List String}
    (nonce : Option String) {u u' : User} (husers : u.AgreeOn scopes u') :
    (s.create random scopes nonce u).1.Alike (s'.create random scopes nonce u').1 ∧
      (s.create random scopes nonce u).2.Alike (s'.create random scopes nonce u').2 := by
  obtain ⟨hid, hstore⟩ := h.nextId random
  have hsession : (s.create random scopes nonce u).1.Alike
      (s'.create random scopes nonce u').1 := by
    rw [create_fst, create_fst, hid]
    exact ⟨rfl, husers⟩
  refine ⟨hsession, ?_⟩
  rw [create_snd, create_snd]
  exact hstore.put hsession

theorem Alike.byClaims (h : s.Alike s') (claims : Members) :
    (∃ e, s.byClaims claims = .error e ∧ s'.byClaims claims = .error e) ∨
      ∃ session session', s.byClaims claims = .ok session ∧ s'.byClaims claims = .ok session' ∧
        session.Alike session' := by
  unfold SessionStore.byClaims byId
  cases (claims.get? "jti").bind Json.asString? with
  | none => exact .inl ⟨_, rfl, rfl⟩
  | some id =>
    have hget := h.get? id
    dsimp only
    generalize s.get? id = found at hget ⊢
    generalize s'.get? id = found' at hget ⊢
    cases hget with
    | none => exact .inl ⟨_, rfl, rfl⟩
    | some hsession => exact .inr ⟨_, _, rfl, rfl, hsession⟩

theorem Alike.grant (h : s.Alike s') (id : String) :
    (∃ e, s.grant id = .error e ∧ s'.grant id = .error e) ∨
      ∃ session session' store store', s.grant id = .ok (session, store) ∧
        s'.grant id = .ok (session', store') ∧ session.Alike session' ∧ store.Alike store' := by
  unfold SessionStore.grant
  have hget := h.get? id
  generalize s.get? id = found at hget ⊢
  generalize s'.get? id = found' at hget ⊢
  cases hget with
  | none => exact .inl ⟨_, rfl, rfl⟩
  | @some session session' hsession =>
    simp only [← hsession.granted_eq]
    by_cases hgranted : session.granted = true
    · rw [if_pos hgranted, if_pos hgranted]
      exact .inl ⟨_, rfl, rfl⟩
    · rw [if_neg hgranted, if_neg hgranted]
      exact .inr ⟨_, _, _, _, rfl, rfl, hsession.grant, h.put hsession.grant⟩

end SessionStore

/-! ## Requests in alike states -/

/-- Two states that differ in their users and in the users of their sessions only. -/
structure ProviderState.Alike (s s' : ProviderState) : Prop where
  store : s.store.Alike s'.store
  errors : s.errors = s'.errors
  clock : s.clock = s'.clock

/-- The same is given back, and the states are alike from then on. -/
def SameAnswer {β : Type} (first second : β × ProviderState) : Prop :=
  first.1 = second.1 ∧ first.2.Alike second.2

namespace Provider

variable {p : Provider} {s s' : ProviderState}

theorem resume_alike (h : s.Alike s') (params : Params) :
    (∃ e, p.resume params s = .error e ∧ p.resume params s' = .error e) ∨
      ∃ session session', p.resume params s = .ok session ∧
        p.resume params s' = .ok session' ∧ session.Alike session' := by
  have hbind {α β : Type} (x : α) (f : α → Except ProtocolError β) : (Except.ok x >>= f) = f x :=
    rfl
  unfold resume
  rw [h.clock]
  cases Validation.requireAll params ["refresh_token"] with
  | error e => exact .inl ⟨e, rfl, rfl⟩
  | ok _ =>
    cases requireGrant params .refreshToken with
    | error e => exact .inl ⟨e, rfl, rfl⟩
    | ok _ =>
      cases p.checkToken s'.clock.now (params.get "refresh_token") with
      | error e => exact .inl ⟨e, rfl, rfl⟩
      | ok token =>
        simp only [hbind]
        rcases h.store.byClaims token.claims with
          ⟨e, he, he'⟩ | ⟨session, session', hs, hs', hsame⟩
        · rw [he, he']
          exact .inl ⟨_, rfl, rfl⟩
        · rw [hs, hs']
          exact .inr ⟨session, session', rfl, rfl, hsame⟩

theorem redeem_alike (h : s.Alike s') (params : Params) :
    (∃ e, redeem params s = .error e ∧ redeem params s' = .error e) ∨
      ∃ session session' t t', redeem params s = .ok (session, t) ∧
        redeem params s' = .ok (session', t') ∧ session.Alike session' ∧ t.Alike t' := by
  unfold redeem
  cases Validation.requireAll params ["code"] with
  | error e => exact .inl ⟨e, rfl, rfl⟩
  | ok _ =>
    cases requireGrant params .authorizationCode with
    | error e => exact .inl ⟨e, rfl, rfl⟩
    | ok _ =>
      rcases h.store.grant (params.get "code") with
        ⟨e, he, he'⟩ | ⟨session, session', store, store', hs, hs', hsame, hstore⟩
      · rw [he, he']
        exact .inl ⟨_, rfl, rfl⟩
      · rw [hs, hs']
        exact .inr ⟨session, session', _, _, rfl, rfl, hsame, hstore, h.errors, h.clock⟩

theorem grantedSession_alike (h : s.Alike s') (grant : GrantType) (params : Params) :
    (∃ e, p.grantedSession grant params s = .error e ∧
        p.grantedSession grant params s' = .error e) ∨
      ∃ session session' t t', p.grantedSession grant params s = .ok (session, t) ∧
        p.grantedSession grant params s' = .ok (session', t') ∧ session.Alike session' ∧
        t.Alike t' := by
  cases grant with
  | authorizationCode => exact redeem_alike h params
  | refreshToken =>
    unfold grantedSession
    rcases resume_alike (p := p) h params with ⟨e, he, he'⟩ | ⟨session, session', hs, hs', hsame⟩
    · rw [he, he']
      exact .inl ⟨e, rfl, rfl⟩
    · rw [hs, hs']
      exact .inr ⟨session, session', s, s', rfl, rfl, hsame, h⟩

theorem exchange_alike (h : s.Alike s') (params : Params) :
    SameAnswer (p.exchange params s) (p.exchange params s') := by
  unfold exchange
  cases p.requestedGrant params with
  | error e => exact ⟨rfl, h⟩
  | ok grant =>
    rcases grantedSession_alike (p := p) h grant params with
      ⟨e, he, he'⟩ | ⟨session, session', t, t', hs, hs', hsame, ht⟩
    · simp only [he, he']
      exact ⟨rfl, h⟩
    · simp only [hs, hs', hsame.issue_eq, ht.clock]
      exact ⟨rfl, ht⟩

theorem userinfo_alike (h : s.Alike s') (headers : Headers) :
    p.userinfo headers s = p.userinfo headers s' := by
  unfold userinfo
  rw [h.clock]
  cases p.checkBearer s'.clock.now headers with
  | error e => rfl
  | ok token =>
    rcases h.store.byClaims token.claims with ⟨e, he, he'⟩ | ⟨session, session', hs, hs', hsame⟩
    · simp only [he, he']
    · simp only [hs, hs', hsame.scopedClaims_eq]

theorem beginSession_alike (h : s.Alike s') {scopes : List String} (nonce : Option String)
    (husers : s.users.next.1.AgreeOn scopes s'.users.next.1) :
    (p.beginSession scopes nonce s).1.id = (p.beginSession scopes nonce s').1.id ∧
      (p.beginSession scopes nonce s).2.Alike (p.beginSession scopes nonce s').2 := by
  obtain ⟨hsession, hstore⟩ := h.store.create p.randomId nonce husers
  exact ⟨hsession.id_eq, hstore, h.errors, h.clock⟩

theorem authorize_alike (h : s.Alike s') {params : Params}
    (husers : ∀ scopes, p.requestedScopes params = .ok scopes →
      s.users.next.1.AgreeOn scopes s'.users.next.1) :
    SameAnswer (p.authorize params s) (p.authorize params s') := by
  unfold authorize
  cases hscopes : p.requestedScopes params with
  | error e => exact ⟨rfl, h⟩
  | ok scopes =>
    obtain ⟨hid, hstate⟩ := beginSession_alike (p := p) h (params.optional "nonce")
      (husers scopes hscopes)
    simp only [hid]
    cases Redirect.location (params.get "redirect_uri")
        (p.beginSession scopes (params.optional "nonce") s').1.id (params.get "state") with
    | error e => exact ⟨rfl, hstate⟩
    | ok location => exact ⟨rfl, hstate⟩

theorem serve_alike (h : s.Alike s') (e : Endpoint) (r : Request)
    (husers : e = .authorization → ∀ params scopes, p.accepted? r = some (params, scopes) →
      s.users.next.1.AgreeOn scopes s'.users.next.1) :
    SameAnswer (p.serve e r s) (p.serve e r s') := by
  cases e with
  | authorization =>
    simp only [serve]
    cases hparams : Params.ofRequest r.headers r.query r.body with
    | error e => exact ⟨rfl, h⟩
    | ok params =>
      obtain ⟨hanswer, hstate⟩ := authorize_alike h fun scopes hscopes =>
        husers rfl params scopes (accepted?_eq_some_iff.2 ⟨hparams, hscopes⟩)
      simp only [hanswer]
      exact ⟨rfl, hstate⟩
  | token =>
    simp only [serve]
    cases exchangeParams r with
    | error e => exact ⟨rfl, h⟩
    | ok params =>
      obtain ⟨hanswer, hstate⟩ := exchange_alike (p := p) h params
      simp only [hanswer]
      exact ⟨rfl, hstate⟩
  | userinfo =>
    simp only [serve, userinfo_alike h]
    exact ⟨rfl, h⟩
  | discovery => exact ⟨rfl, h⟩
  | keys => exact ⟨rfl, h⟩

theorem respond_alike (h : s.Alike s') (r : Request)
    (husers : reached? r s = some .authorization → ∀ params scopes,
      p.accepted? r = some (params, scopes) → s.users.next.1.AgreeOn scopes s'.users.next.1) :
    SameAnswer (p.respond r s) (p.respond r s') := by
  cases herrors : s.errors.items with
  | cons e errors =>
    rw [respond_of_waiting p r herrors, respond_of_waiting p r (h.errors ▸ herrors)]
    exact ⟨rfl, h.store, rfl, h.clock⟩
  | nil =>
    unfold respond
    rw [← h.errors, pop_of_items_nil herrors]
    cases hpath : Endpoint.ofPath? r.path with
    | none => exact ⟨rfl, h⟩
    | some e =>
      by_cases hserves : e.serves r.method = true
      · obtain ⟨hanswer, hstate⟩ := serve_alike (p := p) h e r fun he =>
          husers (reached?_eq_some_iff.2 ⟨herrors, he ▸ hpath, he ▸ hserves⟩)
        simp only [hserves, if_true, hanswer]
        exact ⟨rfl, hstate⟩
      · simp only [hserves, Bool.false_eq_true, if_false]
        exact ⟨rfl, h⟩

end Provider

/-! ## Runs -/

/-- One step of two runs: the same step, or users that are queued in both. -/
inductive Step.Twin : Step → Step → Prop
  | same (step : Step) : Twin step step
  | users (u u' : User) : Twin (.queueUser u) (.queueUser u')

/-- The users for whom two moments begin sessions agree on what the scopes release. -/
def Moment.BindsAlike (p : Provider) (m m' : Moment) : Prop :=
  ∀ session session', m.Begins p session → m'.Begins p session' →
    session.user.AgreeOn session.scopes session'.user

namespace Provider

variable {p : Provider} {s s' : ProviderState}

/-- The user for whom an accepted request begins its session. -/
theorem agreeOn_of_bindsAlike {r : Request}
    (h : (p.moment s (.request r)).BindsAlike p (p.moment s' (.request r)))
    (hreached : reached? r s = some .authorization)
    (hreached' : reached? r s' = some .authorization) {params : Params} {scopes : List String}
    (haccepted : p.accepted? r = some (params, scopes)) :
    s.users.next.1.AgreeOn scopes s'.users.next.1 :=
  h _ _ (begins_of_accepted hreached haccepted).1 (begins_of_accepted hreached' haccepted).1

theorem step_alike (h : s.Alike s') {step step' : Step} (htwin : step.Twin step')
    (hbinds : (p.moment s step).BindsAlike p (p.moment s' step')) :
    SameAnswer (p.step s step) (p.step s' step') := by
  cases htwin with
  | users u u' => exact ⟨rfl, h.store, h.errors, h.clock⟩
  | same step =>
    cases step with
    | request r =>
      obtain ⟨hanswer, hstate⟩ := respond_alike h r fun hreached params scopes haccepted =>
        agreeOn_of_bindsAlike hbinds hreached
          (by unfold reached? at hreached ⊢; rwa [← h.errors]) haccepted
      exact ⟨congrArg StepAnswer.response hanswer, hstate⟩
    | queueUser u => exact ⟨rfl, h.store, h.errors, h.clock⟩
    | queueCode code =>
      exact ⟨rfl, ⟨h.store.sessions, congrArg (Queue.push · code) h.store.codes, h.store.drawn⟩,
        h.errors, h.clock⟩
    | queueError e => exact ⟨rfl, h.store, congrArg (Queue.push · e) h.errors, h.clock⟩
    | advance d =>
      have hclock : s.clock.advance d = s'.clock.advance d := by rw [h.clock]
      exact ⟨congrArg (fun c : Clock => StepAnswer.time c.now) hclock, h.store, h.errors, hclock⟩
    | setClock t =>
      have hclock : s.clock.set t = s'.clock.set t := by rw [h.clock]
      exact ⟨congrArg (fun c : Clock => StepAnswer.time c.now) hclock, h.store, h.errors, hclock⟩
    | tick t => exact ⟨rfl, h.store, h.errors, congrArg (Clock.tick t) h.clock⟩

theorem run_alike (h : s.Alike s') {steps steps' : List Step}
    (htwins : List.Forall₂ Step.Twin steps steps')
    (hbinds : List.Forall₂ (Moment.BindsAlike p) (p.history s steps) (p.history s' steps')) :
    SameAnswer (p.run s steps) (p.run s' steps') := by
  induction htwins generalizing s s' with
  | nil => exact ⟨rfl, h⟩
  | @cons step step' steps steps' htwin htwins ih =>
    rw [history_cons, history_cons, List.forall₂_cons] at hbinds
    obtain ⟨hanswer, hstate⟩ := step_alike h htwin hbinds.1
    obtain ⟨hanswers, hfinal⟩ := ih hstate hbinds.2
    rw [run_eq_cons, run_eq_cons, hanswer, hanswers]
    exact ⟨rfl, hfinal⟩

/-- Users that are queued, or that stand in, show in no answer but for what the scopes of the
requests release: two runs that differ in them only give the same answers, if the users for whom
one request begins its sessions agree on the subject and on the data that its scopes release. -/
theorem answers_eq_of_bindsAlike (p : Provider) (s : ProviderState) (users : UserSupply)
    {steps steps' : List Step} (htwins : List.Forall₂ Step.Twin steps steps')
    (hbinds : List.Forall₂ (Moment.BindsAlike p) (p.history s steps)
      (p.history { s with users := users } steps')) :
    (p.run s steps).1 = (p.run { s with users := users } steps').1 := by
  have hstates : s.Alike { s with users := users } := ⟨.refl s.store, rfl, rfl⟩
  exact (run_alike hstates htwins hbinds).1

/-! ## Users that differ in their e-mail addresses -/

theorem bindsAlike_of_path {step step' : Step}
    (h : ∀ r, step = .request r → Endpoint.ofPath? r.path ≠ some .authorization) :
    (p.moment s step).BindsAlike p (p.moment s' step') :=
  fun session _ hbegins => absurd hbegins (Moment.not_begins_of_path h session)

/-- A client begins sessions for two users that have one subject. -/
theorem bindsAlike_loginRequest (hclient : p.HasClient) (h : s.errors.items = [])
    (h' : s'.errors.items = []) (husers : s.users.next.1.subject = s'.users.next.1.subject) :
    (p.moment s (.request p.loginRequest)).BindsAlike p
      (p.moment s' (.request p.loginRequest)) := by
  have begins {s : ProviderState} (h : s.errors.items = []) :
      (p.moment s (.request p.loginRequest)).Begins p (p.beginSession ["openid"] none s).1 := by
    refine ⟨p.loginRequest, ["openid"], none, rfl, rfl, ?_⟩
    rw [after_request, respond_loginRequest hclient h]
    rfl
  intro session session' hbegins hbegins'
  rw [hbegins.unique (begins h), hbegins'.unique (begins h')]
  show s.users.next.1.AgreeOn ["openid"] s'.users.next.1
  exact ⟨husers, fun hmem => absurd hmem (by decide), fun hmem => absurd hmem (by decide),
    fun hmem => absurd hmem (by decide)⟩

/-- A user is queued, begins a session without asking for the address, and redeems its code. -/
def hiddenAddress (address : String) : List Step :=
  [.queueUser { User.jane with email := address }, .queueCode "c",
    .request plainSample.loginRequest,
    .request (plainSample.grantRequest .authorizationCode "c")]

/-- Nothing that is answered tells which address the user has, or who stands in. -/
theorem answers_hiddenAddress :
    List.Forall₂ Step.Twin (hiddenAddress "jane@one.example") (hiddenAddress "jane@two.example") ∧
      List.Forall₂ (Moment.BindsAlike plainSample)
        (plainSample.history (.initial .jane 0) (hiddenAddress "jane@one.example"))
        (plainSample.history (.initial (.ofSubject "bob") 0) (hiddenAddress "jane@two.example")) ∧
      (plainSample.run (.initial .jane 0) (hiddenAddress "jane@one.example")).1 =
        (plainSample.run (.initial (.ofSubject "bob") 0) (hiddenAddress "jane@two.example")).1 := by
  have hclient : plainSample.HasClient := ⟨by decide, by decide⟩
  have htwins : List.Forall₂ Step.Twin (hiddenAddress "jane@one.example")
      (hiddenAddress "jane@two.example") :=
    .cons (.users _ _) (.cons (.same _) (.cons (.same _) (.cons (.same _) .nil)))
  have hbinds : List.Forall₂ (Moment.BindsAlike plainSample)
      (plainSample.history (.initial .jane 0) (hiddenAddress "jane@one.example"))
      (plainSample.history (.initial (.ofSubject "bob") 0) (hiddenAddress "jane@two.example")) := by
    refine .cons (bindsAlike_of_path nofun) (.cons (bindsAlike_of_path nofun)
      (.cons (bindsAlike_loginRequest hclient rfl rfl rfl)
        (.cons (bindsAlike_of_path ?_) .nil)))
    rintro r hstep
    cases hstep
    decide
  exact ⟨htwins, hbinds, answers_eq_of_bindsAlike plainSample (.initial .jane 0)
    (.ofFallback (.ofSubject "bob")) htwins hbinds⟩

end Provider

end OpenIdProvider
