/-
  How authorization requests are decided. `authorizationRules` lists the rules by which the
  authorization endpoint answers. Only a request that passes all rules for its parameters begins a
  session, and `Redirected` says what has changed when its user is sent back.
-/
import OpenIdProvider.Proofs.Decision
import OpenIdProvider.Proofs.Provider.Checks
import OpenIdProvider.Proofs.Scope
import OpenIdProvider.Proofs.Session.Store

namespace OpenIdProvider

theorem Params.optional_eq_some_iff {params : Params} {name value : String} :
    params.optional name = some value ↔ params.get name = value ∧ value ≠ "" := by
  unfold optional
  split
  · rename_i hempty
    refine ⟨nofun, ?_⟩
    rintro ⟨rfl, hne⟩
    exact absurd hempty hne
  · rename_i hne
    constructor
    · intro h
      obtain rfl := Option.some.inj h
      exact ⟨rfl, hne⟩
    · rintro ⟨rfl, -⟩
      rfl

namespace Redirect

/-- A target that is refused, whatever the code and the state are. -/
def RefusedTarget (target : String) (e : Url.Error) : Prop :=
  ∀ code state, location target code state = .error e

/-- Whether there is a location depends only on its target. -/
theorem refusedTarget_of_error {target code state : String} {e : Url.Error}
    (h : location target code state = .error e) : RefusedTarget target e := by
  intro code' state'
  unfold location at h ⊢
  split at h
  · cases h
  · cases hresolve : Url.resolve standIn target with
    | ok u =>
      rw [hresolve] at h
      cases h
    | error e' =>
      rw [hresolve] at h
      cases h
      rfl
  · exact h

end Redirect

namespace Provider

open Validation

/-- The rules for the parameters. A request that is refused by one of them changes nothing. -/
def parameterRules (p : Provider) (params : Params) (s : ProviderState) :
    List (Rule (Except ProtocolError String × ProviderState)) :=
  ["scope", "state", "client_id", "response_type", "redirect_uri"].map
      (missing params fun e => (.error e, s)) ++
    [unsupported (Scope.parse (params.get "scope")) ["openid", "email", "groups", "profile"]
        fun e => (.error e, s),
      mismatch params (fun e => (.error e, s)) "client_id" p.settings.clientId .invalidClient
        "Invalid client id",
      mismatch params (fun e => (.error e, s)) "response_type" "code" .unsupportedGrantType
        "Invalid response type"]

theorem refuses_requestedScopes (p : Provider) (params : Params) (s : ProviderState) :
    Refuses (fun e => (.error e, s)) (p.parameterRules params s) (p.requestedScopes params) := by
  refine (refuses_requireAll params _ _).bind fun _ _ =>
    (refuses_requireSupported _ _ _).bind fun _ _ =>
      (refuses_requireEqual params _ _ _ _ _).bind fun _ _ => ?_
  exact (refuses_requireEqual params _ _ _ _ _).bind fun _ _ => refuses_ok _ _

/-- A session is begun for a request, and its user is sent to a location with the code. -/
structure Redirected (params : Params) (s s' : ProviderState) (location : String)
    (session : Session) : Prop where
  location_eq : Redirect.location (params.get "redirect_uri") session.id (params.get "state") =
    .ok location
  ungranted : session.granted = false
  scopes : " ".intercalate session.scopes = params.get "scope"
  nonce : ∀ nonce, session.nonce = some nonce ↔ params.get "nonce" = nonce ∧ nonce ≠ ""
  user : session.user = s.users.queue.items.headD s.users.fallback
  /-- It is stored, and the sessions of all other identifiers are as they were. -/
  stored : ∀ id, s'.store.get? id = if session.id = id then some session else s.store.get? id
  /-- There is no more than this one session more. -/
  gained : s'.store.sessions.map Session.id =
    if session.id ∈ s.store.sessions.map Session.id then s.store.sessions.map Session.id
    else s.store.sessions.map Session.id ++ [session.id]

/-- The rules of the authorization endpoint in order. Nothing is said here of what a refused target
has changed. -/
def authorizationRules (p : Provider) (params : Params) (s : ProviderState) :
    List (Rule (Except ProtocolError String × ProviderState)) :=
  p.parameterRules params s ++
    [⟨∃ e, Redirect.RefusedTarget (params.get "redirect_uri") e, fun answer =>
        ∃ e, Redirect.RefusedTarget (params.get "redirect_uri") e ∧
          answer.1 = .error ⟨.internalServerError, e.message, 500⟩⟩,
      .otherwise fun answer => ∃ location session, answer.1 = .ok location ∧
        Redirected params s answer.2 location session]

theorem redirected_of_location {p : Provider} {params : Params} {s : ProviderState}
    {scopes : List String} {location : String} (hscopes : p.requestedScopes params = .ok scopes)
    (hlocation : Redirect.location (params.get "redirect_uri")
      (p.beginSession scopes (params.optional "nonce") s).1.id (params.get "state") =
        .ok location) :
    Redirected params s (p.beginSession scopes (params.optional "nonce") s).2 location
      (p.beginSession scopes (params.optional "nonce") s).1 where
  location_eq := hlocation
  ungranted := rfl
  scopes := by
    obtain ⟨-, -, -, -, hparse⟩ := requestedScopes_eq_ok_iff.1 hscopes
    show " ".intercalate scopes = _
    rw [← hparse, Scope.intercalate_parse]
  nonce nonce := Params.optional_eq_some_iff
  user := by
    show s.users.queue.pop.1.getD s.users.fallback = _
    rw [Queue.pop_fst, List.headD_eq_head?_getD]
  stored id := SessionStore.create_get? p.randomId s.store scopes _ _ id
  gained := by
    have hsessions : (s.store.nextId p.randomId).2.sessions = s.store.sessions := by
      unfold SessionStore.nextId
      split <;> rfl
    show (SessionStore.putIn _ (s.store.nextId p.randomId).2.sessions).map Session.id = _
    rw [hsessions]
    exact SessionStore.putIn_ids _ _

/-- An authorization request is answered by the first rule that applies to it. -/
theorem decides_authorize (p : Provider) (params : Params) (s : ProviderState) :
    Decides (p.authorizationRules params s) (p.authorize params s) := by
  have hrefuses := p.refuses_requestedScopes params s
  unfold authorize
  cases hscopes : p.requestedScopes params with
  | error e => exact (hrefuses.fails e hscopes).append _
  | ok scopes =>
    refine (hrefuses.passes scopes hscopes).decides ?_
    simp only
    cases hlocation : Redirect.location (params.get "redirect_uri")
        (p.beginSession scopes (params.optional "nonce") s).1.id (params.get "state") with
    | error e =>
      have htarget := Redirect.refusedTarget_of_error hlocation
      exact .here ⟨e, htarget⟩ ⟨e, htarget, rfl⟩
    | ok location =>
      refine .later ?_ (.here trivial
        ⟨location, _, rfl, redirected_of_location hscopes hlocation⟩)
      rintro ⟨e, htarget⟩
      rw [htarget] at hlocation
      cases hlocation

end Provider

end OpenIdProvider
