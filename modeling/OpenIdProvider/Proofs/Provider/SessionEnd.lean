/-
  How long a session gets tokens. The refresh token of a session is refused once its lifetime is
  over. But whatever was signed for a session can be shown to get more tokens, and each access or
  ID token is good for that until its own end. So after the end of the refresh token the session
  lives on exactly through such tokens, each shown while it lasts.
-/
import OpenIdProvider.Proofs.Provider.Traceable

namespace OpenIdProvider.Provider

open Http

/-! ## The last tokens of a session -/

/-- A session that tokens are granted for has had its code redeemed by then. -/
theorem spends_by {p : Provider} (hkeys : p.keys.ReadsBack) {s : ProviderState}
    {steps : List Step} (hunforged : p.Unforged (p.history s steps)) {front back : List Moment}
    {m : Moment} (h : p.history s steps = front ++ m :: back) {grant : GrantType} {shown : String}
    {session : Session} (hgrants : m.Grants p grant shown session) :
    ∃ older n newer, front ++ [m] = older ++ n :: newer ∧ n.Spends session.id := by
  cases grant with
  | authorizationCode => exact ⟨front, m, [], rfl, hgrants.id_of_code ▸ hgrants.spends⟩
  | refreshToken =>
    obtain ⟨hshows, hadmits⟩ := hgrants.shows
    obtain ⟨older, n, newer, rfl, _, _, hredeems, -⟩ :=
      exchanged_before hkeys hunforged h hshows hadmits
    exact ⟨older, n, newer ++ [m], by rw [List.append_assoc, List.cons_append], hredeems.spends⟩

/-- Before its code is redeemed no tokens are granted for a session. -/
theorem not_grants_before {p : Provider} (hkeys : p.keys.ReadsBack) {s : ProviderState}
    {steps : List Step} (hfresh : ∀ m ∈ p.history s steps, m.Fresh p)
    (hunforged : p.Unforged (p.history s steps)) {front back : List Moment} {n : Moment}
    (h : p.history s steps = front ++ n :: back) {id : String} (hspends : n.Spends id)
    {k : Moment} (hk : k ∈ front) {grant : GrantType} {shown : String} {session : Session}
    (hid : session.id = id) : ¬ k.Grants p grant shown session := by
  intro hgrants
  obtain ⟨older, newer, rfl⟩ := List.append_of_mem hk
  rw [List.append_assoc, List.cons_append] at h
  obtain ⟨oldest, first, rest, hsplit, hfirst⟩ := spends_by hkeys hunforged h hgrants
  have hlater : p.history s steps = oldest ++ first :: ((rest ++ newer) ++ n :: back) := by
    have hfront : older ++ k :: (newer ++ n :: back) = (older ++ [k]) ++ (newer ++ n :: back) := by
      rw [List.append_assoc, List.singleton_append]
    rw [h, hfront, hsplit, List.append_assoc, List.cons_append, List.append_assoc]
  rw [hid] at hfirst
  exact not_spends_later hfresh hlater hfirst hspends

/-- After its code is redeemed no other refresh token is made for a session. -/
theorem not_signs_refresh_later {p : Provider} {s : ProviderState} {steps : List Step}
    (hfresh : ∀ m ∈ p.history s steps, m.Fresh p) {front middle back : List Moment} {n : Moment}
    (h : p.history s steps = front ++ n :: (middle ++ back)) {id : String} (hspends : n.Spends id)
    {k : Moment} (hk : k ∈ middle) {session : Session} {token : String} (hid : session.id = id) :
    ¬ k.Signs p session .refresh token := by
  intro hsigns
  obtain ⟨code, hgrants⟩ := hsigns.code_of_refresh
  obtain ⟨older, newer, rfl⟩ := List.append_of_mem hk
  rw [List.append_assoc, List.cons_append] at h
  rw [← hid, hgrants.id_of_code] at hspends
  exact not_spends_later hfresh h hspends hgrants.spends

/-! ## A session that goes on -/

/-- The sample provider with refresh tokens that last longer than the others. -/
def lasting : Provider :=
  { plainSample with settings := { plainSample.settings with refreshTtl := 100 } }

/-- Two tokens are shown after the code has been redeemed, one when the refresh token is about to
end and one a second later. -/
def lastingRun (first second : String) : List Moment :=
  lasting.history (.initial .jane 0)
    [.queueCode "c", .request lasting.loginRequest,
      .request (lasting.grantRequest .authorizationCode "c"), .advance 100,
      .request (lasting.grantRequest .refreshToken first), .advance 1,
      .request (lasting.grantRequest .refreshToken second)]

/-- A moment without an authorization request replaces no session. -/
theorem fresh_of_not_authorization {p : Provider} {m : Moment}
    (h : ∀ r, m.step = .request r → Endpoint.ofPath? r.path ≠ some .authorization) :
    m.Fresh p :=
  fun session hbegins => absurd hbegins (Moment.not_begins_of_path h session)

/-- Its moments, if the first token is accepted. -/
def lastingMoments (first second : String) : List Moment :=
  [lasting.moment (.initial .jane 0) (.queueCode "c"),
    lasting.moment ((ProviderState.initial .jane 0).queueCode "c") (.request lasting.loginRequest),
    lasting.moment (sampleState false 0) (.request (lasting.grantRequest .authorizationCode "c")),
    lasting.moment (sampleState true 0) (.advance 100),
    lasting.moment (sampleState true 100) (.request (lasting.grantRequest .refreshToken first)),
    lasting.moment (sampleState true 100) (.advance 1),
    lasting.moment (sampleState true 101) (.request (lasting.grantRequest .refreshToken second))]

theorem hasClient_lasting : lasting.HasClient := ⟨by decide, by decide⟩

theorem lastingRun_eq {first : String} (second : String)
    (h : (lasting.moment (sampleState true 100)
      (.request (lasting.grantRequest .refreshToken first))).after = sampleState true 100) :
    lastingRun first second = lastingMoments first second := by
  have hadvance : (lasting.moment (sampleState true 0) (.advance 100)).after =
      sampleState true 100 := rfl
  have hadvance' : (lasting.moment (sampleState true 100) (.advance 1)).after =
      sampleState true 101 := rfl
  unfold lastingRun
  rw [history_sample hasClient_lasting, history_cons lasting (sampleState true 0), hadvance,
    history_cons, h, history_cons, hadvance', history_cons]
  rfl

theorem fresh_lastingMoments (first second : String) :
    ∀ m ∈ lastingMoments first second, m.Fresh lasting := by
  have hqueue : (lasting.moment (.initial .jane 0) (.queueCode "c")).Fresh lasting :=
    fresh_of_not_authorization (by rintro r ⟨⟩)
  have hlogin : (lasting.moment ((ProviderState.initial .jane 0).queueCode "c")
      (.request lasting.loginRequest)).Fresh lasting := fun _ _ => rfl
  have hgrant (s : ProviderState) (grant : GrantType) (shown : String) :
      (lasting.moment s (.request (lasting.grantRequest grant shown))).Fresh lasting := by
    refine fresh_of_not_authorization fun r hstep => ?_
    cases hstep
    show Endpoint.ofPath? "/oidc/token" ≠ some .authorization
    decide
  have hclock (s : ProviderState) (d : Duration) :
      (lasting.moment s (.advance d)).Fresh lasting :=
    fresh_of_not_authorization (by rintro r ⟨⟩)
  simp only [lastingMoments, List.forall_mem_cons]
  exact ⟨hqueue, hlogin, hgrant _ _ _, hclock _ _, hgrant _ _ _, hclock _ _, hgrant _ _ _,
    List.forall_mem_nil _⟩

/-- Both tokens are shown after they were signed. -/
theorem unforged_lastingMoments {first second : String} {session session' : Session}
    {kind kind' : TokenKind}
    (hfirst : (lasting.moment (sampleState false 0)
      (.request (lasting.grantRequest .authorizationCode "c"))).Signs lasting session kind first)
    (hsecond : (lasting.moment (sampleState true 100)
      (.request (lasting.grantRequest .refreshToken first))).Signs lasting session' kind' second)
    (hne : first ≠ "") (hne' : second ≠ "") : lasting.Unforged (lastingMoments first second) := by
  have hclock {moments : List Moment} (h : lasting.Unforged moments) (s : ProviderState)
      (d : Duration) : lasting.Unforged (moments ++ [lasting.moment s (.advance d)]) :=
    h.concat fun token _ hshows =>
      absurd hshows (not_shows_of_not_request (by rintro r ⟨⟩) token)
  have hmiddle := unforged_refresh hasClient_lasting
    (hclock (unforged_sample hasClient_lasting) (sampleState true 0) 100)
    (List.mem_append_left _ (List.mem_cons_of_mem _ (List.mem_cons_of_mem _ List.mem_cons_self)))
    hfirst hne 100
  exact unforged_refresh hasClient_lasting (hclock hmiddle (sampleState true 100) 1)
    (List.mem_append_left _ (List.mem_append_right _ List.mem_cons_self)) hsecond hne' 101

/-- The refresh token gets a new access token at the end of its lifetime, and this one gets more
tokens after that. -/
theorem exists_lastingRun :
    ∃ first second, (∀ m ∈ lastingRun first second, m.Fresh lasting) ∧
      lasting.Unforged (lastingRun first second) ∧
      (lastingRun first second).map Moment.reading = [0, 0, 0, 0, 100, 100, 101] ∧
      ∃ front n middle m, lastingRun first second = front ++ n :: (middle ++ [m]) ∧
        n.Grants lasting .authorizationCode "c" (sampleSession true) ∧
        n.reading.nanoseconds + lasting.settings.refreshTtl.nanoseconds < m.reading.nanoseconds ∧
        m.Grants lasting .refreshToken second (sampleSession true) ∧
        ∃ tokens : TokenResponse, m.answer = .response (some (Reply.json tokens.toJson)) := by
  have hclient := hasClient_lasting
  have hkeys : lasting.keys.Faithful := KeyAuthority.faithful_plain
  -- The first token is the refresh token of the exchange, the second the access token that it gets.
  obtain ⟨tokens, hissue⟩ := exists_issue hkeys (sampleSession true) .authorizationCode "c"
    (by decide : (Instant.plus? 0 lasting.settings.accessTtl).isSome = true) (fun _ => by decide)
  obtain ⟨haccess, hidentity, hfirst⟩ := made_of_issue hissue
  obtain ⟨second, hsecond⟩ := TokenKind.access.exists_mint hkeys (sampleSession true)
    (by decide : Instant.plus? 100 (TokenKind.access.ttl lasting.settings) = some 160)
  obtain ⟨hredeems, -⟩ := grants_sample hclient 0
  obtain ⟨hne, hgrants, hafter, -⟩ :=
    @resumes_sample _ hclient hkeys .refresh _ _ hfirst 100 (by decide) (by decide)
  obtain ⟨hne', hgrants', -, hanswer⟩ :=
    @resumes_sample _ hclient hkeys .access _ _ hsecond 101 (by decide) (by decide)
  refine ⟨tokens.refreshToken, second, ?_⟩
  rw [lastingRun_eq second hafter]
  have hunforged := unforged_lastingMoments (.refresh hredeems haccess hidentity hfirst)
    (.access hgrants hsecond) hne hne'
  have hended : (0 : Clock).now.nanoseconds + lasting.settings.refreshTtl.nanoseconds <
      (101 : Clock).now.nanoseconds := by decide
  exact ⟨fresh_lastingMoments _ _, hunforged, rfl, [_, _], _, [_, _, _], _, rfl, hredeems, hended,
    hgrants', hanswer⟩

/-! ## The end of a session -/

/-- What keeps the session of a redeemed code alive when its refresh token has ended: an access
token or an ID token that was made for it, by the redemption or later, and that has not ended. The
refresh token itself gets no more tokens. -/
structure SessionEnds (p : Provider) (moments : List Moment) : Prop where
  later : ∀ (front middle back : List Moment) (n m : Moment),
    moments = front ++ n :: (middle ++ m :: back) →
    ∀ (code : String) (session : Session), n.Grants p .authorizationCode code session →
    n.reading.lastSecond p.settings.refreshTtl < m.reading.seconds →
    ∀ (grant : GrantType) (shown : String) (session' : Session), m.Grants p grant shown session' →
    session'.id = code →
      grant = .refreshToken ∧ ∃ k ∈ n :: middle, ∃ made kind, made.id = code ∧
        kind ≠ TokenKind.refresh ∧ k.Signs p made kind shown ∧
        m.reading.seconds ≤ k.reading.lastSecond p.settings.accessTtl
  refused : ∀ n ∈ moments, ∀ m ∈ moments, ∀ (session : Session) (token : String),
    n.Signs p session .refresh token →
    n.reading.lastSecond p.settings.refreshTtl < m.reading.seconds →
    ∀ session' : Session, ¬ m.Grants p .refreshToken token session'

/-- Where no session is replaced and no token is forged, a session outlives its refresh token only
through its other tokens. -/
theorem sessionEnds_of_unforged {p : Provider} (hkeys : p.keys.ReadsBack) {s : ProviderState}
    {steps : List Step} (hfresh : ∀ m ∈ p.history s steps, m.Fresh p)
    (hunforged : p.Unforged (p.history s steps)) : SessionEnds p (p.history s steps) := by
  refine ⟨?_, ?_⟩
  · intro front middle back n m h code session hn hlate grant shown session' hm hid
    cases grant with
    | authorizationCode =>
      rw [hm.id_of_code] at hid
      exact absurd (hid ▸ hm.spends) (not_spends_later hfresh h hn.spends)
    | refreshToken =>
      have hbefore : p.history s steps = (front ++ n :: middle) ++ m :: back := by
        rw [h, List.append_assoc, List.cons_append]
      obtain ⟨hshows, hadmits⟩ := hm.shows
      obtain ⟨claims, hverify, -⟩ := id hadmits
      obtain ⟨k, hk, made, kind, hsigns⟩ := hunforged _ m back hbefore shown _ hshows hverify
      obtain ⟨hsame, hreading⟩ := session_of_admits hkeys hsigns hadmits
      have hmade : made.id = code := hsame.symm.trans hid
      have hlast : k ∈ n :: middle := by
        obtain ⟨grant', shown', -, hgrants, -⟩ := hsigns.grants
        exact (List.mem_append.1 hk).resolve_left fun hfront =>
          not_grants_before hkeys hfresh hunforged h hn.spends hfront hmade hgrants
      have hkind : kind ≠ .refresh := by
        rintro rfl
        rcases List.mem_cons.1 hlast with rfl | hmiddle
        · exact absurd hlate (Int.not_lt.2 hreading)
        · exact not_signs_refresh_later hfresh h hn.spends hmiddle hmade hsigns
      refine ⟨rfl, k, hlast, made, kind, hmade, hkind, hsigns, ?_⟩
      cases kind with
      | access => exact hreading
      | identity => exact hreading
      | refresh => exact absurd rfl hkind
  · intro n hn m hm session token hsigns hlate session' hgrants
    obtain ⟨-, hadmits⟩ := hgrants.shows
    obtain ⟨-, hreading⟩ := session_of_admits hkeys hsigns hadmits
    exact absurd hlate (Int.not_lt.2 hreading)

/-- A run in which a session outlives its refresh token. -/
theorem sessionEnds_lastingRun :
    lasting.keys.ReadsBack ∧ ∃ first second,
      (∀ m ∈ lastingRun first second, m.Fresh lasting) ∧
      lasting.Unforged (lastingRun first second) ∧
      SessionEnds lasting (lastingRun first second) := by
  have hkeys : lasting.keys.ReadsBack := KeyAuthority.faithful_plain.readsBack
  obtain ⟨first, second, hfresh, hunforged, -⟩ := exists_lastingRun
  exact ⟨hkeys, first, second, hfresh, hunforged, sessionEnds_of_unforged hkeys hfresh hunforged⟩

/-- There the code is redeemed at instant 0 and a token request is answered with tokens at instant
101, though the refresh token has lasted for 100 seconds; the clock never moves backwards, and the
authority accepts only what it signs. -/
theorem tokens_after_end :
    (∀ token claims, lasting.keys.verify token = .ok claims →
        lasting.keys.sign claims = .ok token) ∧
      lasting.settings.accessTtl ≤ lasting.settings.refreshTtl ∧
      ∃ first second, (∀ m ∈ lastingRun first second, m.Fresh lasting) ∧
        lasting.Unforged (lastingRun first second) ∧
        (lastingRun first second).map Moment.reading = [0, 0, 0, 0, 100, 100, 101] ∧
        ∃ front n middle m, lastingRun first second = front ++ n :: (middle ++ [m]) ∧
          n.Grants lasting .authorizationCode "c" (sampleSession true) ∧
          n.reading.nanoseconds + lasting.settings.refreshTtl.nanoseconds < m.reading.nanoseconds ∧
          m.Grants lasting .refreshToken second (sampleSession true) ∧
          ∃ tokens : TokenResponse, m.answer = .response (some (Reply.json tokens.toJson)) := by
  have hsettings : lasting.settings.accessTtl ≤ lasting.settings.refreshTtl := by decide
  exact ⟨fun _ _ => KeyAuthority.sign_of_verify_plain, hsettings, exists_lastingRun⟩

end OpenIdProvider.Provider
