/-
  Aborted token requests. Nothing but the making of tokens can abort a request, and it does so when
  the lifetime of a token leads beyond the dates. `aborts_iff` says for which requests this
  happens; a code that such a request redeems has been spent by then.
-/
import OpenIdProvider.Proofs.Provider.Signing

namespace OpenIdProvider

open Http

namespace Provider

/-- A grant of which some token would end at an instant that cannot be represented. -/
def Outlasts (p : Provider) (grant : GrantType) (now : Instant) : Prop :=
  now.plus? p.settings.accessTtl = none ∨
    grant = .authorizationCode ∧ now.plus? p.settings.refreshTtl = none

theorem tokenAnswer_eq_none_iff {p : Provider} {session : Session} {grant : GrantType}
    {shown : String} {now : Instant} :
    p.tokenAnswer session grant shown now = none ↔
      p.issue session grant shown now = .error .outOfRange := by
  unfold tokenAnswer
  cases p.issue session grant shown now with
  | ok tokens => simp [outcomeOfMint, Outcome.respond]
  | error e => cases e <;> simp [outcomeOfMint, Outcome.respond]

theorem mint_of_outlasts (keys : KeyAuthority) {ttl : Duration} {now : Instant}
    (claims : Instant → Members) (h : now.plus? ttl = none) :
    Session.mint keys ttl now claims = .error .outOfRange := by
  unfold Session.mint
  rw [h]

/-- An authority that signs everything makes tokens unless one of them would end too late. -/
theorem issue_outOfRange_iff {p : Provider} (hkeys : p.keys.Faithful) (session : Session)
    (grant : GrantType) (shown : String) (now : Instant) :
    p.issue session grant shown now = .error .outOfRange ↔ p.Outlasts grant now := by
  constructor
  · intro hissue
    by_contra hfits
    simp only [Outlasts, not_or, not_and, ← Option.isSome_iff_ne_none] at hfits
    obtain ⟨tokens, htokens⟩ := exists_issue hkeys session grant shown hfits.1 hfits.2
    rw [hissue] at htokens
    cases htokens
  · intro h
    cases haccess : now.plus? p.settings.accessTtl with
    | none =>
      have hmint : session.accessToken p.settings p.keys now = .error .outOfRange :=
        mint_of_outlasts p.keys _ haccess
      rw [issue, hmint]
      rfl
    | some finish =>
      obtain ⟨rfl, hrefresh⟩ := h.resolve_left (by simp [haccess])
      have hmint : session.refreshToken p.settings p.keys now = .error .outOfRange :=
        mint_of_outlasts p.keys _ hrefresh
      -- The other two tokens are those of a grant that makes no refresh token.
      obtain ⟨tokens, htokens⟩ := exists_issue hkeys session .refreshToken shown
        (by rw [haccess]; rfl) nofun
      obtain ⟨hfirst, hsecond, -⟩ := made_of_issue htokens
      rw [issue, hfirst]
      show (p.nextIdToken session now >>= _) = _
      rw [hsecond]
      show (p.nextRefreshToken session .authorizationCode shown now >>= _) = _
      rw [nextRefreshToken, hmint]
      rfl

/-- A token request is aborted exactly when it is granted and one of its tokens would end too
late. -/
theorem aborts_iff {p : Provider} (hkeys : p.keys.Faithful) (s : ProviderState) {r : Request}
    (hpath : Endpoint.ofPath? r.path = some .token) :
    (p.respond r s).1 = none ↔ ∃ grant shown session,
      (p.moment s (.request r)).Grants p grant shown session ∧ p.Outlasts grant s.clock.now := by
  have hrange (session : Session) (grant : GrantType) (shown : String) :
      p.tokenAnswer session grant shown s.clock.now = none ↔ p.Outlasts grant s.clock.now := by
    rw [tokenAnswer_eq_none_iff]
    exact issue_outOfRange_iff hkeys session grant shown s.clock.now
  constructor
  · intro hnone
    have hcases := respond_token (p := p) s hpath
    have hafter := after_request p s r
    generalize p.respond r s = result at hnone hcases hafter
    cases hcases with
    | @redeemed code session store reached presents grant =>
      refine ⟨_, _, session, .redeems rfl reached presents ?_, (hrange _ _ _).1 hnone⟩
      rw [hafter]
      exact grant
    | resumed reached presents admits =>
      exact ⟨_, _, _, .resumes rfl reached presents admits, (hrange _ _ _).1 hnone⟩
    | refused response_eq => cases hnone
  · rintro ⟨grant, shown, session, hgrants, hlate⟩
    have hanswer := hgrants.answer_eq
    rw [(hrange session grant shown).2 hlate, answer_request] at hanswer
    exact StepAnswer.response.inj hanswer

/-- A client whose code is open can be left without an answer. -/
theorem aborts_grantRequest {p : Provider} (hkeys : p.keys.Faithful) (hclient : p.HasClient)
    {s : ProviderState} (herrors : s.errors.items = []) {code : String} (hcode : code ≠ "")
    (hopen : s.store.Open code) (hlate : p.Outlasts .authorizationCode s.clock.now) :
    (p.respond (p.grantRequest .authorizationCode code) s).1 = none := by
  obtain ⟨stored, hstored, hgranted⟩ := hopen
  have hgrant := SessionStore.grant_eq_ok_iff.2 ⟨stored, hstored, hgranted, rfl, rfl⟩
  rw [respond_of_redeemed (reached?_grantRequest p .authorizationCode code herrors)
    (presents_grantRequest hclient .authorizationCode hcode) hgrant]
  rw [tokenAnswer_eq_none_iff]
  exact (issue_outOfRange_iff hkeys _ _ _ _).2 hlate

end Provider

end OpenIdProvider
