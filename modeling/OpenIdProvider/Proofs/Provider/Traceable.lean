/-
  Every token that is accepted comes from a code. Where only texts verify that were signed before
  in the run, an accepted token was signed for a grant: that of a code, or that of another token
  that was accepted before it. Going back from token to token, which all name one session, ends at
  a request that redeemed the code of this session; and its session has been granted since then.
-/
import OpenIdProvider.Proofs.Provider.Signing

namespace OpenIdProvider

open Http

namespace Moment

/-- A token request with valid credentials that redeems a code and signs an access token for the
session. It is answered with tokens, unless making one of the others fails. -/
def Exchanges (p : Provider) (m : Moment) (id : String) : Prop :=
  ∃ session accessToken, m.Grants p .authorizationCode id session ∧
    session.accessToken p.settings p.keys m.reading = .ok accessToken ∧
    ((∃ tokens : TokenResponse, tokens.accessToken = accessToken ∧
        m.answer = .response (some (Reply.json tokens.toJson))) ∨
      ∃ e, p.issue session .authorizationCode "" m.reading = .error e)

end Moment

namespace Provider

/-- Of the tokens that are shown in a run only those verify that were signed at an earlier
moment. -/
def Unforged (p : Provider) (moments : List Moment) : Prop :=
  ∀ front m back, moments = front ++ m :: back → ∀ token v, m.Shows p token →
    p.keys.verify token = .ok v → ∃ n ∈ front, ∃ session kind, n.Signs p session kind token

/-- A code that is redeemed for a session with an access token is exchanged. -/
theorem exchanges_of_grants {p : Provider} {s : ProviderState} {step : Step} {code first : String}
    {session : Session} (h : (p.moment s step).Grants p .authorizationCode code session)
    (hfirst : session.accessToken p.settings p.keys s.clock.now = .ok first) :
    (p.moment s step).Exchanges p code := by
  refine ⟨session, first, h, hfirst, ?_⟩
  have hanswer := h.answer_eq
  unfold tokenAnswer at hanswer
  cases hissue : p.issue session .authorizationCode code s.clock.now with
  | ok tokens =>
    obtain ⟨haccess, -⟩ := made_of_issue hissue
    rw [hfirst] at haccess
    cases haccess
    rw [hissue] at hanswer
    exact .inl ⟨tokens, rfl, hanswer⟩
  | error e => exact .inr ⟨e, hissue⟩

/-- A shown token that opens a session leads back to the exchange of the code of the session. -/
theorem exchanged_before {p : Provider} (hkeys : p.keys.ReadsBack) {s : ProviderState}
    {steps : List Step} (hunforged : p.Unforged (p.history s steps)) {front back : List Moment}
    {m : Moment} (h : p.history s steps = front ++ m :: back) {token : String} {session : Session}
    (hshows : m.Shows p token) (hadmits : p.Admits m.before token session) :
    ∃ older n newer, front = older ++ n :: newer ∧ n.Exchanges p session.id := by
  -- The induction is on the number of earlier moments: each token was signed before it was shown.
  induction hlength : front.length using Nat.strongRecOn generalizing front m back token session
    with
  | ind length ih =>
    obtain ⟨claims, hverify, -⟩ := id hadmits
    obtain ⟨n, hn, made, kind, hsigns⟩ := hunforged front m back h token _ hshows hverify
    obtain ⟨hid, -⟩ := session_of_admits hkeys hsigns hadmits
    obtain ⟨older, newer, rfl⟩ := List.append_of_mem hn
    rw [List.append_assoc, List.cons_append] at h
    obtain ⟨grant, shown, first, hgrants, hfirst⟩ := hsigns.grants
    cases grant with
    | authorizationCode =>
      refine ⟨older, n, newer, rfl, ?_⟩
      rw [hid, hgrants.id_of_code]
      rw [eq_moment h] at hgrants ⊢
      exact exchanges_of_grants hgrants hfirst
    | refreshToken =>
      obtain ⟨hshows', hadmits'⟩ := hgrants.shows
      obtain ⟨oldest, k, between, rfl, hexchanges⟩ := ih older.length
        (by rw [← hlength]; simp) h hshows' hadmits' rfl
      refine ⟨oldest, k, between ++ n :: newer, ?_, hid ▸ hexchanges⟩
      rw [List.append_assoc, List.cons_append]

/-! ## Runs of the sample session -/

theorem unforged_nil (p : Provider) : p.Unforged [] := by
  intro front m back h
  cases front <;> cases h

/-- A run stays unforged when what its next moment shows was signed before. -/
theorem Unforged.concat {p : Provider} {moments : List Moment} (h : p.Unforged moments)
    {last : Moment} (hlast : ∀ token v, last.Shows p token → p.keys.verify token = .ok v →
      ∃ n ∈ moments, ∃ session kind, n.Signs p session kind token) :
    p.Unforged (moments ++ [last]) := by
  intro front m back heq
  rcases List.eq_nil_or_concat' back with rfl | ⟨back, m', rfl⟩
  · obtain ⟨rfl, hm⟩ := List.append_inj' heq rfl
    cases hm
    exact hlast
  · rw [← List.cons_append, ← List.append_assoc] at heq
    exact h front m back (List.append_inj' heq rfl).1

theorem not_shows_of_not_request {p : Provider} {m : Moment} (h : ∀ r, m.step ≠ .request r)
    (token : String) : ¬ m.Shows p token := by
  intro hshows
  cases hshows with
  | bearer step reached shown => exact h _ step
  | refresh step reached presents => exact h _ step

/-- A request to another endpoint shows no token. -/
theorem not_shows_of_reached {p : Provider} {s : ProviderState} {r : Request} {e : Endpoint}
    (h : reached? r s = some e) (huserinfo : e ≠ .userinfo) (htoken : e ≠ .token)
    (token : String) : ¬ (p.moment s (.request r)).Shows p token := by
  intro hshows
  cases hshows with
  | bearer step reached shown =>
    cases step
    exact huserinfo (Option.some.inj (h.symm.trans reached))
  | refresh step reached presents =>
    cases step
    exact htoken (Option.some.inj (h.symm.trans reached))

/-- A request that presents a code shows no token. -/
theorem not_shows_of_code {p : Provider} {s : ProviderState} {r : Request} {code : String}
    (hreached : reached? r s = some .token) (h : p.Presents r .authorizationCode code)
    (token : String) : ¬ (p.moment s (.request r)).Shows p token := by
  intro hshows
  cases hshows with
  | bearer step reached shown =>
    cases step
    cases hreached.symm.trans reached
  | refresh step reached presents =>
    cases step
    cases (h.unique presents).1

/-- A request that presents a token shows no other. -/
theorem eq_of_shows {p : Provider} {s : ProviderState} {r : Request} {token : String}
    (hreached : reached? r s = some .token) (h : p.Presents r .refreshToken token)
    {token' : String} (hshows : (p.moment s (.request r)).Shows p token') : token' = token := by
  cases hshows with
  | bearer step reached shown =>
    cases step
    cases hreached.symm.trans reached
  | refresh step reached presents =>
    cases step
    exact (presents.unique h).2

/-- The sample session is begun and its code redeemed without any token. -/
theorem unforged_sample {p : Provider} (hclient : p.HasClient) :
    p.Unforged [p.moment (.initial .jane 0) (.queueCode "c"),
      p.moment ((ProviderState.initial .jane 0).queueCode "c") (.request p.loginRequest),
      p.moment (sampleState false 0) (.request (p.grantRequest .authorizationCode "c"))] := by
  have hlogin : reached? p.loginRequest ((ProviderState.initial .jane 0).queueCode "c") =
      some .authorization := reached?_eq_some_iff.2 ⟨rfl, rfl, rfl⟩
  have hexchange := reached?_grantRequest p .authorizationCode "c" (s := sampleState false 0) rfl
  refine (((unforged_nil p).concat ?_).concat ?_).concat ?_
  · exact fun token _ hshows =>
      absurd hshows (not_shows_of_not_request (fun _ h => by cases h) token)
  · exact fun token _ hshows => absurd hshows (not_shows_of_reached hlogin nofun nofun token)
  · exact fun token _ hshows =>
      absurd hshows (not_shows_of_code hexchange (presents_sample hclient) token)

/-- A token that was signed for the sample session is presented to get more tokens. -/
theorem unforged_refresh {p : Provider} (hclient : p.HasClient) {moments : List Moment}
    (h : p.Unforged moments) {n : Moment} (hn : n ∈ moments) {session : Session} {kind : TokenKind}
    {token : String} (hsigns : n.Signs p session kind token) (hne : token ≠ "")
    (clock : Clock) :
    p.Unforged (moments ++
      [p.moment (sampleState true clock) (.request (p.grantRequest .refreshToken token))]) := by
  refine h.concat fun token' _ hshows _ => ⟨n, hn, session, kind, ?_⟩
  obtain rfl := eq_of_shows (reached?_grantRequest p .refreshToken token rfl)
    (presents_grantRequest hclient .refreshToken hne) hshows
  exact hsigns

/-! ## An exchange that stops halfway -/

/-- Whether claims end within the first minute of 1970. -/
def endSoon : Json → Bool
  | .object claims => (expiry? claims).any fun finish => finish ≤ 60
  | _ => false

/-- An authority that signs and accepts such claims as the plain one does, and no others. -/
def briefKeys : KeyAuthority where
  sign claims :=
    if endSoon claims then KeyAuthority.plain.sign claims else .error (.weakKey .tooSmall)
  verify token :=
    match KeyAuthority.plain.verify token with
    | .ok claims => if endSoon claims then .ok claims else .error .badSignature
    | .error e => .error e
  publicKeys := .null

theorem verify_briefKeys_eq_ok_iff {token : String} {claims : Json} :
    briefKeys.verify token = .ok claims ↔
      KeyAuthority.plain.verify token = .ok claims ∧ endSoon claims = true := by
  unfold briefKeys
  simp only
  cases KeyAuthority.plain.verify token with
  | error e => exact ⟨nofun, nofun⟩
  | ok v =>
    by_cases hsoon : endSoon v = true
    · simp only [hsoon, if_true]
      exact ⟨fun h => ⟨h, Except.ok.inj h ▸ hsoon⟩, fun h => h.1⟩
    · simp only [hsoon]
      exact ⟨nofun, fun h => absurd (Except.ok.inj h.1 ▸ h.2) hsoon⟩

theorem sign_of_verify_briefKeys {token : String} {claims : Json}
    (h : briefKeys.verify token = .ok claims) : briefKeys.sign claims = .ok token := by
  obtain ⟨hverify, hsoon⟩ := verify_briefKeys_eq_ok_iff.1 h
  exact (if_pos hsoon).trans (KeyAuthority.sign_of_verify_plain hverify)

theorem readsBack_briefKeys : briefKeys.ReadsBack := by
  intro claims token v hlegible hsign hverify
  have hplain : KeyAuthority.plain.sign (.object claims) = .ok token := by
    unfold briefKeys at hsign
    simp only at hsign
    split at hsign
    · exact hsign
    · cases hsign
  exact KeyAuthority.faithful_plain.readsBack claims token v hlegible hplain
    (verify_briefKeys_eq_ok_iff.1 hverify).1

/-- The sample provider with this authority. Its refresh tokens would last too long for it. -/
def brief : Provider :=
  { plainSample with
    keys := briefKeys, settings := { plainSample.settings with refreshTtl := 3600 } }

/-- The access token of the sample session. -/
def briefToken : String :=
  (Json.object ((sampleSession true).standardClaims brief.settings 0 60)).text

/-- The code is redeemed and the access token is shown. -/
def briefRun : List Moment :=
  brief.history (.initial .jane 0)
    [.queueCode "c", .request brief.loginRequest,
      .request (brief.grantRequest .authorizationCode "c"),
      .request (brief.grantRequest .refreshToken briefToken)]

/-- The access token is signed before the exchange fails, and nothing keeps it from being
accepted. -/
theorem accepts_briefToken :
    brief.Unforged briefRun ∧ ∃ front m, briefRun = front ++ [m] ∧ m.Accepts brief briefToken := by
  have hclient : brief.HasClient := ⟨by decide, by decide⟩
  have hmade : (sampleSession true).accessToken brief.settings brief.keys 0 = .ok briefToken :=
    eq_ok_of_toOption (by decide +kernel)
  have hsigns := Moment.Signs.access (grants_sample hclient 0).1 hmade
  have hne : briefToken ≠ "" := by decide +kernel
  have hopens : ((brief.checkToken 0 briefToken).toOption.bind fun usable =>
      ((sampleState true 0).store.byClaims usable.claims).toOption) =
        some (sampleSession true) := by decide +kernel
  have hadmits : brief.Admits (sampleState true 0) briefToken (sampleSession true) := by
    obtain ⟨⟨token, claims⟩, hcheck, hsession⟩ := Option.bind_eq_some_iff.1 hopens
    obtain ⟨rfl, -⟩ := checkToken_eq_ok_iff.1 (eq_ok_of_toOption hcheck)
    exact admits_iff.2 ⟨claims, eq_ok_of_toOption hcheck, eq_ok_of_toOption hsession⟩
  have hgrants : (brief.moment (sampleState true 0)
      (.request (brief.grantRequest .refreshToken briefToken))).Grants brief .refreshToken
        briefToken (sampleSession true) :=
    .resumes rfl (reached?_grantRequest _ _ _ rfl) (presents_grantRequest hclient _ hne) hadmits
  have hmakes : (brief.issue (sampleSession true) .refreshToken briefToken
      (sampleState true 0).clock.now).toOption.isSome = true := by decide +kernel
  obtain ⟨tokens, htokens⟩ := Option.isSome_iff_exists.1 hmakes
  have hanswer : (brief.moment (sampleState true 0)
      (.request (brief.grantRequest .refreshToken briefToken))).answer =
        .response (some (Reply.json tokens.toJson)) := by
    rw [hgrants.answer_eq, tokenAnswer, eq_ok_of_toOption htokens]
    rfl
  have hrun := history_sample hclient 0 [.request (brief.grantRequest .refreshToken briefToken)]
  refine ⟨?_, [_, _, _], _, hrun,
    .refresh rfl (reached?_grantRequest _ _ _ rfl) (presents_grantRequest hclient _ hne) hanswer⟩
  unfold briefRun
  rw [hrun]
  exact unforged_refresh hclient (unforged_sample hclient)
    (List.mem_cons_of_mem _ (List.mem_cons_of_mem _ List.mem_cons_self)) hsigns hne 0

/-! ## The code of every accepted token -/

/-- What is known of the tokens that are accepted in a run: each names the session of a code that
was exchanged before, and as long as no session is begun again under its identifier, the stored
session is granted. -/
def Traceable (p : Provider) (moments : List Moment) : Prop :=
  ∀ front m back, moments = front ++ m :: back → ∀ token, m.Accepts p token →
    ∃ id older n newer, (∃ claims : Members, p.keys.verify token = .ok (.object claims) ∧
        claims.get? "jti" = some (.string id)) ∧
      front = older ++ n :: newer ∧ n.Exchanges p id ∧
      ((∀ k ∈ newer, ¬ p.BeginsCode id k) → GrantedAt m.before id)

/-- In every run in which no token is forged, the accepted tokens come from codes. -/
theorem traceable_of_unforged {p : Provider} (hkeys : p.keys.ReadsBack) {s : ProviderState}
    {steps : List Step} (hunforged : p.Unforged (p.history s steps)) :
    Traceable p (p.history s steps) := by
  intro front m back h token haccepts
  obtain ⟨session, hadmits⟩ : ∃ session, p.Admits m.before token session := by
    rw [eq_moment h] at haccepts
    exact admits_of_accepts haccepts
  obtain ⟨older, n, newer, rfl, hexchanges⟩ :=
    exchanged_before hkeys hunforged h haccepts.shows hadmits
  obtain ⟨claims, hverify, -, id, hjti, hstored⟩ := hadmits
  obtain rfl := SessionStore.id_of_get? hstored
  refine ⟨_, older, n, newer, ⟨claims, hverify, hjti⟩, rfl, hexchanges, fun hnewer => ?_⟩
  obtain ⟨redeemed, -, hgrants, -⟩ := hexchanges
  obtain ⟨session', hgrant⟩ := hgrants.spends
  rw [List.append_assoc, List.cons_append] at h
  obtain ⟨steps', hmiddle, hrun⟩ := between h
  rw [← hrun]
  exact grantedAt_run (by rw [hmiddle]; exact hnewer) (grantedAt_of_grant hgrant)

/-- A run in which a token is accepted that comes from a code. -/
theorem traceable_briefRun :
    brief.keys.ReadsBack ∧ brief.Unforged briefRun ∧
      (∃ front m, briefRun = front ++ [m] ∧ m.Accepts brief briefToken) ∧
      Traceable brief briefRun := by
  obtain ⟨hunforged, haccepts⟩ := accepts_briefToken
  exact ⟨readsBack_briefKeys, hunforged, haccepts,
    traceable_of_unforged readsBack_briefKeys hunforged⟩

/-- In the same run no code is answered with tokens: the only exchange fails when its refresh token
is not signed, and by then the access token has been signed. Yet the authority accepts only what it
signs. -/
theorem accepted_without_answer :
    (∀ token claims, brief.keys.verify token = .ok claims →
        brief.keys.sign claims = .ok token) ∧
      brief.Unforged briefRun ∧
      (∃ front m, briefRun = front ++ [m] ∧ m.Accepts brief briefToken) ∧
      ∀ m ∈ briefRun, ∀ code, ¬ m.Redeems code := by
  have hclient : brief.HasClient := ⟨by decide, by decide⟩
  obtain ⟨hunforged, haccepts⟩ := accepts_briefToken
  refine ⟨fun _ _ => sign_of_verify_briefKeys, hunforged, haccepts, ?_⟩
  intro m hm code hredeems
  unfold briefRun at hm
  rw [history_sample hclient] at hm
  simp only [history, List.mem_cons, List.not_mem_nil, or_false] at hm
  obtain ⟨r, params, tokens, hstep, hpath, hparams, hname, -, hanswer⟩ := hredeems
  rcases hm with rfl | rfl | rfl | rfl
  · cases hstep
  · cases hstep
    exact absurd hpath (by decide)
  · have hdeclined := (grants_sample hclient 0).1.answer_eq
    have hstatus : (brief.tokenAnswer (sampleSession true) .authorizationCode "c"
        (sampleState false 0).clock.now).map Http.Response.status = some 500 := by decide +kernel
    rw [hanswer] at hdeclined
    rw [← StepAnswer.response.inj hdeclined] at hstatus
    cases hstatus
  · cases hstep
    rw [exchangeParams_grantRequest] at hparams
    cases hparams
    have hgrant : "refresh_token" = "authorization_code" := hname
    exact absurd hgrant (by decide)

end Provider

end OpenIdProvider
