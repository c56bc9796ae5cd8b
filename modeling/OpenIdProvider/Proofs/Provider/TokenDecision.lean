/-
  How token requests are decided. `exchangeRules` lists the rules by which the token endpoint
  answers: those of the client, those of the code or the refresh token, and those of the tokens to
  be made. `decides_exchange` says that the first of them that applies decides, and that the kind
  of grant, once it is known, is never found to be another one.
-/
import OpenIdProvider.Proofs.Decision
import OpenIdProvider.Proofs.Provider.Signing

namespace OpenIdProvider.Provider

open Validation

/-! ## The client -/

/-- The rule for the kind of grant: there are two. -/
def unknownGrant (params : Params) : Rule (Outcome TokenResponse) :=
  .answers (params.get "grant_type" ≠ "authorization_code" ∧
      params.get "grant_type" ≠ "refresh_token")
    (.rejected ⟨.invalidRequest, "Invalid grant type: " ++ params.get "grant_type", 400⟩)

/-- The rules for the client: it names itself and its secret, and asks for a grant that there is. -/
def clientRules (p : Provider) (params : Params) : List (Rule (Outcome TokenResponse)) :=
  ["client_id", "client_secret", "grant_type"].map (missing params .rejected) ++
    [mismatch params .rejected "client_id" p.settings.clientId .invalidClient "Invalid client id",
      mismatch params .rejected "client_secret" p.settings.clientSecret .invalidClient
        "Invalid client secret",
      unknownGrant params]

theorem refuses_ofName (params : Params) :
    Refuses .rejected [unknownGrant params] (GrantType.ofName (params.get "grant_type")) := by
  unfold GrantType.ofName
  split
  · rename_i hcode
    exact .later (fun h => h.1 hcode) (refuses_ok _ _)
  · rename_i hcode
    split
    · rename_i htoken
      exact .later (fun h => h.2 htoken) (refuses_ok _ _)
    · rename_i htoken
      exact .here ⟨hcode, htoken⟩ rfl

theorem refuses_requestedGrant (p : Provider) (params : Params) :
    Refuses .rejected (p.clientRules params) (p.requestedGrant params) :=
  (refuses_requireAll params _ _).bind fun _ _ =>
    (refuses_requireEqual params _ _ _ _ _).bind fun _ _ =>
      (refuses_requireEqual params _ _ _ _ _).bind fun _ _ => refuses_ofName params

/-- The kind of grant that was found is the one that is asked for, so no rule goes with the second
comparison. -/
theorem refuses_requireGrant {params : Params} {grant : GrantType}
    (h : params.get "grant_type" = grant.name) :
    Refuses (Outcome.rejected (α := TokenResponse)) [] (requireGrant params grant) := by
  rw [requireGrant_eq_ok_iff.2 h]
  exact refuses_ok _ ()

/-! ## The code or the refresh token -/

/-- The end of a token as a number. -/
def numericEnd? (claims : Members) : Option Binary64 :=
  (claims.get? "exp").bind Json.asBinary64?

/-- An end lies before the second of an instant, the fraction of the end being cut off towards
zero. -/
def EndedBefore (finish : Binary64) (now : Instant) : Prop :=
  finish.value < now.seconds ∧ (0 ≤ finish.value ∨ finish.value ≤ now.seconds - 1)

/-- Claims name a session that is stored. -/
def NamesStored (s : ProviderState) (claims : Members) : Prop :=
  ∃ id session, claims.get? "jti" = some (.string id) ∧ s.store.get? id = some session

/-- The rules for a code: it is one of a session that is not granted. -/
def codeRules (params : Params) (s : ProviderState) : List (Rule (Outcome TokenResponse)) :=
  [missing params .rejected "code",
    .answers (¬ s.store.Open (params.get "code"))
      (.rejected ⟨.invalidGrant, "Invalid code: " ++ params.get "code", 401⟩)]

/-- The rules for a token: it verifies, and has an end that has not passed. -/
def endRules (p : Provider) (now : Instant) (token : String) :
    List (Rule (Outcome TokenResponse)) :=
  [.finds (fun e => p.keys.verify token = .error e)
      fun e => .rejected ⟨.invalidRequest, "Invalid token: " ++ e.message, 401⟩,
    .answers (∃ v, p.keys.verify token = .ok v ∧ ∀ claims, v ≠ .object claims)
      (.rejected ⟨.internalServerError, "Unable to extract token claims", 500⟩),
    .answers (∃ claims, p.keys.verify token = .ok (.object claims) ∧ numericEnd? claims = none)
      (.rejected ⟨.internalServerError, "Unable to extract token expiration", 500⟩),
    .answers (∃ claims finish, p.keys.verify token = .ok (.object claims) ∧
        numericEnd? claims = some finish ∧ EndedBefore finish now)
      (.rejected ⟨.invalidRequest, "The token is expired", 401⟩)]

/-- The rules for a refresh token: those for a token, and it names a session. -/
def tokenRules (p : Provider) (params : Params) (s : ProviderState) :
    List (Rule (Outcome TokenResponse)) :=
  missing params .rejected "refresh_token" ::
    (p.endRules s.clock.now (params.get "refresh_token") ++
      [.answers (∃ claims, p.keys.verify (params.get "refresh_token") = .ok (.object claims) ∧
          ¬ NamesStored s claims)
        (.rejected ⟨.invalidGrant, "Invalid refresh token", 401⟩)])

theorem refuses_redeem {params : Params}
    (hname : params.get "grant_type" = GrantType.authorizationCode.name) (s : ProviderState) :
    Refuses .rejected (codeRules params s) (redeem params s) := by
  refine (refuses_requireAll params _ ["code"]).bind fun _ _ =>
    (refuses_requireGrant hname).bind fun _ _ => ?_
  split
  · rename_i session store hgrant
    exact .later (fun hclosed => hclosed (SessionStore.open_of_grant hgrant)) (refuses_ok _ _)
  · rename_i e hgrant
    refine .here ?_ rfl
    rintro ⟨stored, hstored, hnot⟩
    rw [SessionStore.grant_eq_ok_iff.2 ⟨stored, hstored, hnot, rfl, rfl⟩] at hgrant
    cases hgrant

theorem wholeSeconds_lt_iff {finish : Binary64} {now : Instant} :
    wholeSeconds finish < now.seconds ↔ EndedBefore finish now :=
  (wholeSeconds_lt_iff_truncate finish now).trans (finish.truncate_lt_iff now.seconds)

theorem refuses_checkToken (p : Provider) (now : Instant) (token : String) :
    Refuses .rejected (p.endRules now token) (p.checkToken now token) := by
  have hexpiry (claims : Members) : expiry? claims = (numericEnd? claims).map wholeSeconds := rfl
  unfold endRules checkToken
  generalize p.keys.verify token = verified
  cases verified with
  | error e => exact .here ⟨e, rfl⟩ ⟨e, rfl, rfl⟩
  | ok v =>
    refine .later (fun ⟨e, h⟩ => nomatch h) ?_
    cases v with
    | object claims =>
      refine .later (fun ⟨v, h, hnone⟩ => hnone claims (Except.ok.inj h).symm) ?_
      simp only [hexpiry]
      cases hend : numericEnd? claims with
      | none => exact .here ⟨claims, rfl, hend⟩ rfl
      | some finish =>
        refine .later ?_ ?_
        · rintro ⟨_, ⟨⟩, hnone⟩
          rw [hend] at hnone
          cases hnone
        · simp only [Option.map_some]
          split
          · rename_i hlt
            exact .here ⟨claims, finish, rfl, hend, wholeSeconds_lt_iff.1 hlt⟩ rfl
          · rename_i hnot
            refine .later ?_ (refuses_ok _ _)
            rintro ⟨_, finish', ⟨⟩, hend', hended⟩
            rw [hend] at hend'
            cases hend'
            exact hnot (wholeSeconds_lt_iff.2 hended)
    | _ => exact .here ⟨_, rfl, nofun⟩ rfl

theorem refuses_resume (p : Provider) {params : Params}
    (hname : params.get "grant_type" = GrantType.refreshToken.name) (s : ProviderState) :
    Refuses .rejected (p.tokenRules params s) (p.resume params s) := by
  refine (refuses_requireAll params _ ["refresh_token"]).bind fun _ _ =>
    (refuses_requireGrant hname).bind fun _ _ =>
      (p.refuses_checkToken s.clock.now _).bind fun usable hcheck => ?_
  obtain ⟨-, hverify, -⟩ := checkToken_eq_ok_iff.1 hcheck
  split
  · rename_i session hsession
    obtain ⟨id, hid, hstored⟩ := SessionStore.byClaims_eq_ok_iff.1 hsession
    refine .later ?_ (refuses_ok _ _)
    rintro ⟨claims, hclaims, hnone⟩
    rw [hverify] at hclaims
    cases hclaims
    exact hnone ⟨id, session, hid, hstored⟩
  · rename_i e hsession
    refine .here ⟨usable.claims, hverify, ?_⟩ rfl
    rintro ⟨id, session, hid, hstored⟩
    rw [SessionStore.byClaims_eq_ok_iff.2 ⟨id, hid, hstored⟩] at hsession
    cases hsession

/-- The rules for what a grant shows. -/
def grantRules (p : Provider) (params : Params) (s : ProviderState) :
    GrantType → List (Rule (Outcome TokenResponse))
  | .authorizationCode => codeRules params s
  | .refreshToken => p.tokenRules params s

theorem refuses_grantedSession (p : Provider) {params : Params} {grant : GrantType}
    (hname : params.get "grant_type" = grant.name) (s : ProviderState) :
    Refuses .rejected (p.grantRules params s grant) (p.grantedSession grant params s) := by
  cases grant with
  | authorizationCode => exact refuses_redeem hname s
  | refreshToken => exact (p.refuses_resume hname s).map _

/-- The session that a grant is for: that of the code, which is granted now, or the one that the
token opens. -/
def Entitles (p : Provider) (params : Params) (s : ProviderState) : GrantType → Session → Prop
  | .authorizationCode, session => ∃ stored, s.store.get? (params.get "code") = some stored ∧
      stored.granted = false ∧ session = { stored with granted := true }
  | .refreshToken, session => p.Admits s (params.get "refresh_token") session

theorem entitles_of_grantedSession {p : Provider} {params : Params} {s s' : ProviderState}
    {grant : GrantType} {session : Session}
    (h : p.grantedSession grant params s = .ok (session, s')) :
    p.Entitles params s grant session ∧ s'.clock = s.clock := by
  cases grant with
  | authorizationCode =>
    obtain ⟨-, -, store, hgrant, rfl⟩ := redeem_eq_ok_iff.1 h
    obtain ⟨stored, hstored, hnot, hsession, -⟩ := SessionStore.grant_eq_ok_iff.1 hgrant
    exact ⟨⟨stored, hstored, hnot, hsession⟩, rfl⟩
  | refreshToken =>
    obtain ⟨session', hresume, heq⟩ := map_eq_ok.1 h
    cases heq
    exact ⟨(resume_eq_ok_iff.1 hresume).2.2, rfl⟩

/-! ## The tokens -/

/-- A token that ends at an instant that can be represented must be signed. Nothing is said of
others. -/
def mintRules (p : Provider) (session : Session) (now : Instant) (kind : TokenKind) :
    List (Rule (Outcome TokenResponse)) :=
  [⟨now.plus? (kind.ttl p.settings) = none, fun _ => True⟩,
    .finds (fun e => ∃ finish, now.plus? (kind.ttl p.settings) = some finish ∧
        p.keys.sign (.object (kind.claims session p.settings now finish)) = .error e)
      fun e => .rejected ⟨.internalServerError, e.message, 500⟩]

/-- The rules for the tokens of an answer, in the order in which they are made. -/
def issueRules (p : Provider) (session : Session) (grant : GrantType) (now : Instant) :
    List (Rule (Outcome TokenResponse)) :=
  p.mintRules session now .access ++
    ((if session.wantsIdToken then p.mintRules session now .identity else []) ++
      (match grant with
        | .authorizationCode => p.mintRules session now .refresh
        | .refreshToken => []))

theorem refuses_mint (p : Provider) (session : Session) (now : Instant) (kind : TokenKind) :
    Refuses (fun e => outcomeOfMint (.error e)) (p.mintRules session now kind)
      (kind.mint session p.settings p.keys now) := by
  unfold mintRules TokenKind.mint Session.mint
  generalize now.plus? (kind.ttl p.settings) = end?
  cases end? with
  | none => exact .here rfl trivial
  | some finish =>
    refine .later nofun ?_
    show Refuses _ _ ((p.keys.sign (.object (kind.claims session p.settings now finish))).mapError
      Session.MintError.unsigned)
    cases hsign : p.keys.sign (.object (kind.claims session p.settings now finish)) with
    | error e => exact .here ⟨e, finish, rfl, hsign⟩ ⟨e, ⟨finish, rfl, hsign⟩, rfl⟩
    | ok token =>
      refine .later ?_ (refuses_ok _ token)
      rintro ⟨e, _, ⟨⟩, herror⟩
      rw [hsign] at herror
      cases herror

theorem refuses_issue (p : Provider) (session : Session) (grant : GrantType) (shown : String)
    (now : Instant) :
    Refuses (fun e => outcomeOfMint (.error e)) (p.issueRules session grant now)
      (p.issue session grant shown now) := by
  have hidentity : Refuses (fun e => outcomeOfMint (.error e))
      (if session.wantsIdToken then p.mintRules session now .identity else [])
      (p.nextIdToken session now) := by
    unfold nextIdToken
    split
    · exact (p.refuses_mint session now .identity).map some
    · exact refuses_ok _ none
  have hrefresh : Refuses (fun e => outcomeOfMint (.error e))
      (match grant with
        | .authorizationCode => p.mintRules session now .refresh
        | .refreshToken => [])
      (p.nextRefreshToken session grant shown now) := by
    cases grant with
    | authorizationCode => exact p.refuses_mint session now .refresh
    | refreshToken => exact refuses_ok _ shown
  exact (p.refuses_mint session now .access).bind fun accessToken _ =>
    hidentity.bind fun idToken _ => hrefresh.map fun refreshToken =>
      TokenResponse.mk accessToken idToken refreshToken TokenResponse.bearer
        p.settings.accessTtl.seconds

/-- How the tokens of a session are answered: by the first rule that applies to them, else they are
given. -/
def tokensRules (p : Provider) (session : Session) (grant : GrantType) (shown : String)
    (now : Instant) : List (Rule (Outcome TokenResponse)) :=
  p.issueRules session grant now ++
    [.finds (fun tokens => p.issue session grant shown now = .ok tokens) .answered]

theorem decides_issue (p : Provider) (session : Session) (grant : GrantType) (shown : String)
    (now : Instant) :
    Decides (p.tokensRules session grant shown now)
      (outcomeOfMint (p.issue session grant shown now)) := by
  have hrefuses := p.refuses_issue session grant shown now
  cases hissue : p.issue session grant shown now with
  | error e => exact (hrefuses.fails e hissue).append _
  | ok tokens =>
    exact (hrefuses.passes tokens hissue).decides (.here ⟨tokens, hissue⟩ ⟨tokens, hissue, rfl⟩)

/-! ## Token requests -/

/-- The rules of a grant: those for what it shows, then those for the tokens of its session. -/
def exchangeGrantRules (p : Provider) (params : Params) (s : ProviderState) (grant : GrantType) :
    List (Rule (Outcome TokenResponse)) :=
  p.grantRules params s grant ++
    [.otherwise fun outcome => ∃ session, p.Entitles params s grant session ∧
      Decides (p.tokensRules session grant (params.get "refresh_token") s.clock.now) outcome]

/-- The rules of the token endpoint in order. -/
def exchangeRules (p : Provider) (params : Params) (s : ProviderState) :
    List (Rule (Outcome TokenResponse)) :=
  p.clientRules params ++
    if params.get "grant_type" = "authorization_code" then
      p.exchangeGrantRules params s .authorizationCode
    else p.exchangeGrantRules params s .refreshToken

/-- No error says that the kind of grant is not supported. -/
def Supported (outcome : Outcome TokenResponse) : Prop :=
  ∀ e, outcome = .rejected e → e.kind ≠ .unsupportedGrantType

theorem supported_rejected {kind : ErrorKind} (h : kind ≠ .unsupportedGrantType)
    (description : String) (status : Nat) : Supported (.rejected ⟨kind, description, status⟩) := by
  rintro _ ⟨⟩
  exact h

theorem keeps_supported {kind : ErrorKind} (h : kind ≠ .unsupportedGrantType) {applies : Prop}
    {description : String} {status : Nat} :
    (Rule.answers applies (.rejected ⟨kind, description, status⟩)).Keeps Supported :=
  Rule.keeps_answers applies (supported_rejected h description status)

theorem supported_clientRules (p : Provider) (params : Params) :
    ∀ rule ∈ p.clientRules params, rule.Keeps Supported := by
  unfold clientRules
  rw [List.forall_mem_append, List.forall_mem_map]
  refine ⟨fun name _ => keeps_supported (by decide), ?_⟩
  simp only [List.forall_mem_cons]
  exact ⟨keeps_supported (by decide), keeps_supported (by decide), keeps_supported (by decide),
    List.forall_mem_nil _⟩

theorem supported_grantRules (p : Provider) (params : Params) (s : ProviderState)
    (grant : GrantType) : ∀ rule ∈ p.grantRules params s grant, rule.Keeps Supported := by
  cases grant with
  | authorizationCode =>
    simp only [grantRules, codeRules, List.forall_mem_cons]
    exact ⟨keeps_supported (by decide), keeps_supported (by decide), List.forall_mem_nil _⟩
  | refreshToken =>
    simp only [grantRules, tokenRules, endRules, List.cons_append, List.nil_append,
      List.forall_mem_cons]
    exact ⟨keeps_supported (by decide),
      Rule.keeps_finds _ fun e => supported_rejected (by decide) _ _,
      keeps_supported (by decide), keeps_supported (by decide), keeps_supported (by decide),
      keeps_supported (by decide), List.forall_mem_nil _⟩

theorem supported_outcomeOfMint (made : Except Session.MintError TokenResponse) :
    Supported (outcomeOfMint made) := by
  cases made with
  | ok tokens => nofun
  | error e =>
    cases e with
    | outOfRange => nofun
    | unsigned e => exact supported_rejected (by decide) _ _

/-- A token request is answered by the first rule that applies to it, and never because its kind of
grant is not supported. -/
theorem decides_exchange (p : Provider) (params : Params) (s : ProviderState) :
    Decides (p.exchangeRules params s) (p.exchange params s).1 ∧
      Supported (p.exchange params s).1 := by
  have hclient := p.refuses_requestedGrant params
  unfold exchange
  cases hrequested : p.requestedGrant params with
  | error e =>
    have hdecides := hclient.fails e hrequested
    exact ⟨hdecides.append _, hdecides.keeps (p.supported_clientRules params)⟩
  | ok grant =>
    have hname := (requestedGrant_eq_ok_iff.1 hrequested).2
    have hrules : p.exchangeRules params s =
        p.clientRules params ++ p.exchangeGrantRules params s grant := by
      unfold exchangeRules
      rw [hname]
      cases grant <;> rfl
    have hpasses := hclient.passes grant hrequested
    have hgrant := p.refuses_grantedSession hname s
    rw [hrules]
    simp only
    cases hsession : p.grantedSession grant params s with
    | error e =>
      have hdecides := hgrant.fails e hsession
      exact ⟨hpasses.decides (hdecides.append _),
        hdecides.keeps (p.supported_grantRules params s grant)⟩
    | ok granted =>
      obtain ⟨session, s'⟩ := granted
      obtain ⟨hentitles, hclock⟩ := entitles_of_grantedSession hsession
      have htokens := p.decides_issue session grant (params.get "refresh_token") s.clock.now
      simp only [hclock]
      refine ⟨hpasses.decides ((hgrant.passes _ hsession).decides ?_), supported_outcomeOfMint _⟩
      exact .here trivial ⟨session, hentitles, htokens⟩

theorem exists_answered {α : Type} {outcome : Outcome α}
    (h : outcome.respond (fun _ => true) (fun _ => false) = some true) :
    ∃ x, outcome = .answered x := by
  cases outcome with
  | answered x => exact ⟨x, rfl⟩
  | rejected e => cases h
  | aborted => cases h

/-- A token that ended half a second before 1970. -/
def halfToken : String := "\x7b\"exp\":-0.5,\"jti\":\"c\"\x7d"

theorem verify_halfToken :
    ∃ claims finish, plainSample.keys.verify halfToken = .ok (.object claims) ∧
      numericEnd? claims = some finish ∧ finish.value = -1 / 2 := by
  have hread : ((plainSample.checkToken 0 halfToken).toOption.bind fun usable =>
      numericEnd? usable.claims) = some ⟨true, 0x10000000000000, -53⟩ := by decide +kernel
  obtain ⟨usable, hcheck, hend⟩ := Option.bind_eq_some_iff.1 hread
  obtain ⟨-, hverify, -⟩ := checkToken_eq_ok_iff.1 (eq_ok_of_toOption hcheck)
  refine ⟨usable.claims, _, hverify, hend, ?_⟩
  norm_num [Binary64.value, Binary64.magnitude]

/-- At the start of 1970 a token gets tokens whose end lies half a second before. -/
theorem exchange_of_halfToken :
    ∃ claims finish tokens, plainSample.keys.verify halfToken = .ok (.object claims) ∧
      numericEnd? claims = some finish ∧ finish.value < (sampleState true 0).clock.now.seconds ∧
      (plainSample.exchange ⟨plainSample.grantForm .refreshToken halfToken⟩
        (sampleState true 0)).1 = .answered tokens := by
  obtain ⟨claims, finish, hverify, hend, hhalf⟩ := verify_halfToken
  obtain ⟨tokens, htokens⟩ : ∃ tokens,
      (plainSample.exchange ⟨plainSample.grantForm .refreshToken halfToken⟩
        (sampleState true 0)).1 = .answered tokens := exists_answered (by decide +kernel)
  have hpast : finish.value < ((sampleState true 0).clock.now.seconds : ℚ) := by
    have hnow : (sampleState true 0).clock.now.seconds = 0 := rfl
    rw [hhalf, hnow]
    norm_num
  exact ⟨claims, finish, tokens, hverify, hend, hpast, htokens⟩

end OpenIdProvider.Provider
