/-
  When the checks of a request succeed. Each check is a chain of tests of which the first that
  fails gives the error; here is what holds when none fails.
-/
import OpenIdProvider.Proofs.Chain
import OpenIdProvider.Provider.Authorization
import OpenIdProvider.Provider.Exchange

namespace OpenIdProvider

namespace Validation

theorem requireAll_eq_ok_iff {params : Params} {names : List String} :
    requireAll params names = .ok () ↔ ∀ name ∈ names, params.get name ≠ "" := by
  unfold requireAll
  split
  · rename_i h
    rw [List.find?_eq_none] at h
    simpa using h
  · rename_i name h
    have hname : params.get name = "" := by simpa using List.find?_some h
    refine ⟨nofun, fun hall => ?_⟩
    exact absurd hname (hall name (List.mem_of_find?_eq_some h))

theorem requireEqual_eq_ok_iff {params : Params} {name expected : String} {kind : ErrorKind}
    {message : String} :
    requireEqual params name expected kind message = .ok () ↔ params.get name = expected := by
  unfold requireEqual
  by_cases h : expected = params.get name <;> simp [h, eq_comm]

theorem requireSupported_eq_ok_iff {requested supported : List String} :
    requireSupported requested supported = .ok () ↔ ∀ scope ∈ requested, scope ∈ supported := by
  unfold requireSupported
  split
  · rename_i h
    rw [List.find?_eq_none] at h
    simpa using h
  · rename_i scope h
    have hscope : scope ∉ supported := by simpa using List.find?_some h
    refine ⟨nofun, fun hall => ?_⟩
    exact absurd (hall scope (List.mem_of_find?_eq_some h)) hscope

end Validation

namespace GrantType

theorem ofName_eq_ok_iff {name : String} {grant : GrantType} :
    ofName name = .ok grant ↔ name = grant.name := by
  unfold ofName
  cases grant <;> by_cases h : name = "authorization_code" <;>
    by_cases h' : name = "refresh_token" <;> simp_all [GrantType.name]

end GrantType

namespace Provider

open Validation

/-- The client shows its own name and secret; neither is empty. -/
structure ValidCredentials (p : Provider) (params : Params) : Prop where
  clientId : params.get "client_id" = p.settings.clientId
  clientSecret : params.get "client_secret" = p.settings.clientSecret
  clientId_ne : p.settings.clientId ≠ ""
  clientSecret_ne : p.settings.clientSecret ≠ ""

theorem requestedGrant_eq_ok_iff {p : Provider} {params : Params} {grant : GrantType} :
    p.requestedGrant params = .ok grant ↔
      p.ValidCredentials params ∧ params.get "grant_type" = grant.name := by
  have hname : grant.name ≠ "" := by cases grant <;> decide
  simp only [requestedGrant, bind_unit_eq_ok, requireAll_eq_ok_iff, requireEqual_eq_ok_iff,
    GrantType.ofName_eq_ok_iff, List.forall_mem_cons, List.not_mem_nil, false_implies,
    implies_true, and_true]
  constructor
  · rintro ⟨⟨hid, hsecret, _⟩, hid', hsecret', hgrant⟩
    exact ⟨⟨hid', hsecret', hid' ▸ hid, hsecret' ▸ hsecret⟩, hgrant⟩
  · rintro ⟨⟨hid, hsecret, hid', hsecret'⟩, hgrant⟩
    exact ⟨⟨hid ▸ hid', hsecret ▸ hsecret', hgrant ▸ hname⟩, hid, hsecret, hgrant⟩

/-- What an accepted authorization request asks for. -/
theorem requestedScopes_eq_ok_iff {p : Provider} {params : Params} {scopes : List String} :
    p.requestedScopes params = .ok scopes ↔
      (∀ name ∈ authorizationParams, params.get name ≠ "") ∧
        requireSupported (Scope.parse (params.get "scope")) Scope.supported = .ok () ∧
        params.get "client_id" = p.settings.clientId ∧
        params.get "response_type" = Metadata.codeResponse ∧
        Scope.parse (params.get "scope") = scopes := by
  simp only [requestedScopes, bind_unit_eq_ok, requireAll_eq_ok_iff, requireEqual_eq_ok_iff,
    Except.ok.injEq]

theorem requireGrant_eq_ok_iff {params : Params} {grant : GrantType} :
    requireGrant params grant = .ok () ↔ params.get "grant_type" = grant.name :=
  requireEqual_eq_ok_iff

theorem redeem_eq_ok_iff {params : Params} {s s' : ProviderState} {session : Session} :
    redeem params s = .ok (session, s') ↔
      params.get "code" ≠ "" ∧ params.get "grant_type" = "authorization_code" ∧
        ∃ store, s.store.grant (params.get "code") = .ok (session, store) ∧
          s' = { s with store := store } := by
  simp only [redeem, bind_unit_eq_ok, requireAll_eq_ok_iff, requireGrant_eq_ok_iff,
    List.forall_mem_cons, List.not_mem_nil, false_implies, implies_true, and_true]
  constructor
  · rintro ⟨hcode, hname, h⟩
    refine ⟨hcode, hname, ?_⟩
    split at h
    · rename_i granted store hgrant
      cases h
      exact ⟨store, hgrant, rfl⟩
    · cases h
  · rintro ⟨hcode, hname, store, hgrant, rfl⟩
    exact ⟨hcode, hname, by rw [hgrant]⟩

/-- A code that cannot be redeemed is refused as an invalid grant. -/
theorem redeem_of_grant_error {params : Params} {s : ProviderState} {e : SessionError}
    (hcode : params.get "code" ≠ "") (hname : params.get "grant_type" = "authorization_code")
    (h : s.store.grant (params.get "code") = .error e) :
    redeem params s = .error (.invalidGrant ("Invalid code: " ++ params.get "code")) := by
  have hall : requireAll params ["code"] = .ok () :=
    requireAll_eq_ok_iff.2 (by simpa using hcode)
  have hgrant : requireGrant params .authorizationCode = .ok () := requireGrant_eq_ok_iff.2 hname
  unfold redeem
  rw [hall, hgrant, h]
  rfl

end Provider

end OpenIdProvider
