/-
  When a token opens a session. `Admits` lists what a token needs: its signature verifies, its end
  has not passed, and it names a stored session. Both uses of a token, as bearer token and as
  refresh token, succeed exactly then.
-/
import OpenIdProvider.Proofs.Calendar
import OpenIdProvider.Proofs.Provider.Checks

namespace OpenIdProvider

/-- The session that claims name is the one stored under their `jti`. -/
theorem SessionStore.byClaims_eq_ok_iff {s : SessionStore} {claims : Members} {session : Session} :
    s.byClaims claims = .ok session ↔
      ∃ id, claims.get? "jti" = some (.string id) ∧ s.get? id = some session := by
  have hbyId (id : String) : s.byId id = .ok session ↔ s.get? id = some session := by
    unfold byId
    cases s.get? id <;> simp
  have hstring (v : Json) (id : String) : v.asString? = some id ↔ v = .string id := by
    cases v <;> simp [Json.asString?]
  unfold byClaims
  split
  · rename_i id hid
    obtain ⟨v, hv, hvid⟩ := Option.bind_eq_some_iff.1 hid
    rw [hstring] at hvid
    subst hvid
    simp [hv, hbyId]
  · rename_i hnone
    refine ⟨nofun, ?_⟩
    rintro ⟨id, hclaim, -⟩
    rw [hclaim] at hnone
    cases hnone

namespace Provider

/-- A token that verifies, has not ended and names a stored session. -/
def Admits (p : Provider) (s : ProviderState) (token : String) (session : Session) : Prop :=
  ∃ claims : Members, p.keys.verify token = .ok (.object claims) ∧
    (∃ finish, expiry? claims = some finish ∧ s.clock.now.seconds ≤ finish) ∧
    ∃ id, claims.get? "jti" = some (.string id) ∧ s.store.get? id = some session

theorem checkToken_eq_ok_iff {p : Provider} {now : Instant} {token : String}
    {usable : UsableToken} :
    p.checkToken now token = .ok usable ↔
      usable.token = token ∧ p.keys.verify token = .ok (.object usable.claims) ∧
        ∃ finish, expiry? usable.claims = some finish ∧ now.seconds ≤ finish := by
  unfold checkToken
  constructor
  · intro h
    split at h
    · cases h
    · rename_i claims hverify
      split at h
      · cases h
      · rename_i finish hfinish
        split at h
        · cases h
        · rename_i hended
          cases h
          exact ⟨rfl, hverify, finish, hfinish, Int.not_lt.1 hended⟩
    · cases h
  · rintro ⟨rfl, hverify, finish, hfinish, hnow⟩
    simp only [hverify, hfinish, if_neg (Int.not_lt.2 hnow)]

/-- A token whose end has passed is refused. -/
theorem checkToken_of_ended {p : Provider} {now : Instant} {token : String} {claims : Members}
    {finish : Int} (hverify : p.keys.verify token = .ok (.object claims))
    (hfinish : expiry? claims = some finish) (hnow : finish < now.seconds) :
    p.checkToken now token = .error (.unauthorized "The token is expired") := by
  simp only [checkToken, hverify, hfinish, if_pos hnow]

/-- The bounds of 64 bits lie beyond the seconds of every instant. -/
theorem wholeSeconds_lt_iff_truncate (x : Binary64) (now : Instant) :
    wholeSeconds x < now.seconds ↔ x.truncate < now.seconds := by
  obtain ⟨hlow, hhigh⟩ := now.seconds_bounds
  have hclamp (t : Int) :
      max (-0x8000000000000000) (min 0x7FFFFFFFFFFFFFFF t) < now.seconds ↔ t < now.seconds := by
    omega
  exact hclamp x.truncate

theorem admits_iff {p : Provider} {s : ProviderState} {token : String} {session : Session} :
    p.Admits s token session ↔
      ∃ claims, p.checkToken s.clock.now token = .ok ⟨token, claims⟩ ∧
        s.store.byClaims claims = .ok session := by
  simp only [Admits, checkToken_eq_ok_iff, SessionStore.byClaims_eq_ok_iff, true_and, and_assoc]

/-- A refresh token is accepted when it opens a session. -/
theorem resume_eq_ok_iff {p : Provider} {params : Params} {s : ProviderState}
    {session : Session} :
    p.resume params s = .ok session ↔
      params.get "refresh_token" ≠ "" ∧ params.get "grant_type" = "refresh_token" ∧
        p.Admits s (params.get "refresh_token") session := by
  unfold resume
  rw [bind_unit_eq_ok, bind_unit_eq_ok, bind_eq_ok, Validation.requireAll_eq_ok_iff,
    requireGrant_eq_ok_iff, admits_iff, List.forall_mem_singleton]
  refine and_congr_right fun _ => and_congr_right fun _ => ⟨?_, ?_⟩
  · rintro ⟨usable, hcheck, h⟩
    obtain ⟨htoken, -⟩ := checkToken_eq_ok_iff.1 hcheck
    refine ⟨usable.claims, by rw [hcheck, ← htoken], ?_⟩
    split at h
    · rename_i found hfound
      cases h
      exact hfound
    · cases h
  · rintro ⟨claims, hcheck, hsession⟩
    exact ⟨_, hcheck, by rw [hsession]⟩

/-- A refresh token whose end has passed is refused. -/
theorem resume_of_ended {p : Provider} {params : Params} {s : ProviderState} {claims : Members}
    {finish : Int} (htoken : params.get "refresh_token" ≠ "")
    (hname : params.get "grant_type" = "refresh_token")
    (hverify : p.keys.verify (params.get "refresh_token") = .ok (.object claims))
    (hfinish : expiry? claims = some finish) (hnow : finish < s.clock.now.seconds) :
    p.resume params s = .error (.unauthorized "The token is expired") := by
  have hall : Validation.requireAll params ["refresh_token"] = .ok () :=
    Validation.requireAll_eq_ok_iff.2 (by simpa using htoken)
  have hgrant : requireGrant params .refreshToken = .ok () := requireGrant_eq_ok_iff.2 hname
  unfold resume
  rw [hall, hgrant, checkToken_of_ended hverify hfinish hnow]
  rfl

/-- A bearer token is told of the user of the session that it opens. -/
theorem userinfo_eq_ok_iff {p : Provider} {headers : Http.Headers} {s : ProviderState}
    {claims : Members} :
    p.userinfo headers s = .ok claims ↔
      ∃ token session, bearerToken? headers = some token ∧ p.Admits s token session ∧
        claims = session.user.scopedClaims session.scopes := by
  simp only [userinfo, checkBearer, admits_iff]
  cases bearerToken? headers with
  | none =>
    refine ⟨nofun, ?_⟩
    rintro ⟨token, session, htoken, -⟩
    cases htoken
  | some token =>
    simp only [Option.some.injEq]
    constructor
    · intro h
      split at h
      · cases h
      · rename_i usable hcheck
        obtain ⟨htoken, -⟩ := checkToken_eq_ok_iff.1 hcheck
        split at h
        · cases h
        · rename_i session hsession
          cases h
          exact ⟨token, session, rfl, ⟨usable.claims, by rw [hcheck, ← htoken], hsession⟩, rfl⟩
    · rintro ⟨_, session, rfl, ⟨claims, hcheck, hsession⟩, rfl⟩
      simp only [hcheck, hsession]

/-- A bearer token whose end has passed is refused. -/
theorem userinfo_of_ended {p : Provider} {headers : Http.Headers} {s : ProviderState}
    {token : String} {claims : Members} {finish : Int}
    (htoken : bearerToken? headers = some token)
    (hverify : p.keys.verify token = .ok (.object claims)) (hfinish : expiry? claims = some finish)
    (hnow : finish < s.clock.now.seconds) :
    p.userinfo headers s = .error (.unauthorized "The token is expired") := by
  simp only [userinfo, checkBearer, htoken, checkToken_of_ended hverify hfinish hnow]

end Provider

end OpenIdProvider
