/-
  How long tokens hold. Where the key can sign, an access token of an answer tells of its user up
  to the second in which its lifetime ends, and a refresh token of an answer to a code gets new
  tokens up to the second in which its own ends; after that both are refused as expired. What else
  happens in between does not matter, nor which way the clock moves: only the second that it reads
  when the token is shown. So a token may be accepted for a fraction of a second more than its
  lifetime. Ends that no binary64 number represents are kept to exactly as well.
-/
import OpenIdProvider.Proofs.Provider.Signing

namespace OpenIdProvider

open Http

/-! ## Reading an answer -/

namespace Json

open Utf8 (encodeChars)

/-- Objects with one text have members with one text. -/
theorem encodeChars_membersTail_of_object {m m' : String × Json} {ms ms' : List (String × Json)}
    (h : encodeChars (object (m :: ms)).chars = encodeChars (object (m' :: ms')).chars) :
    encodeChars (membersTail (m :: ms)) = encodeChars (membersTail (m' :: ms')) := by
  have hbytes (members : List (String × Json)) : encodeChars (object members).chars =
      0x7B :: encodeChars (membersChars members) :=
    Utf8.encodeChars_cons_of_ascii (by decide) _
  have htail (m : String × Json) (ms : List (String × Json)) :
      encodeChars (membersTail (m :: ms)) = 0x2C :: encodeChars (membersChars (m :: ms)) :=
    Utf8.encodeChars_cons_of_ascii (by decide) _
  rw [hbytes, hbytes] at h
  rw [htail, htail, (List.cons.inj h).2]

end Json

namespace TokenResponse

/-- The members that every answer ends with. -/
def lastMembers (r : TokenResponse) : List (String × Json) :=
  [("refresh_token", .string r.refreshToken), ("token_type", .string r.tokenType),
    ("expires_in", .ofInt r.expiresIn)]

theorem last_of_membersTail {tokens tokens' : TokenResponse}
    (h : Utf8.encodeChars (Json.membersTail tokens.lastMembers) =
      Utf8.encodeChars (Json.membersTail tokens'.lastMembers)) :
    tokens.refreshToken = tokens'.refreshToken ∧ tokens.tokenType = tokens'.tokenType ∧
      tokens.expiresIn = tokens'.expiresIn := by
  obtain ⟨-, hrefresh, hrest⟩ := Json.Reader.membersTail_injective h
  obtain ⟨-, htype, hrest⟩ := Json.Reader.membersTail_injective hrest
  exact ⟨hrefresh, htype, Json.Reader.int_of_membersTail hrest⟩

/-- An answer with tokens is known from its body. -/
theorem eq_of_body {tokens tokens' : TokenResponse}
    (h : (Reply.json tokens.toJson).body = (Reply.json tokens'.toJson).body) :
    tokens = tokens' := by
  have hmembers (m m' : String × Json) (ms ms' : List (String × Json))
      (h : (Reply.json (.object (m :: ms))).body = (Reply.json (.object (m' :: ms'))).body) :
      Utf8.encodeChars (Json.membersTail (m :: ms)) =
        Utf8.encodeChars (Json.membersTail (m' :: ms')) :=
    Json.encodeChars_membersTail_of_object h
  have hlast {r r' : TokenResponse}
      (hrest : Utf8.encodeChars (Json.membersTail r.lastMembers) =
        Utf8.encodeChars (Json.membersTail r'.lastMembers))
      (haccess : r.accessToken = r'.accessToken) (hid : r.idToken = r'.idToken) : r = r' := by
    obtain ⟨hrefresh, htype, hexpires⟩ := last_of_membersTail hrest
    cases r
    cases r'
    simp only [TokenResponse.mk.injEq]
    exact ⟨haccess, hid, hrefresh, htype, hexpires⟩
  unfold toJson at h
  cases hid : tokens.idToken with
  | none =>
    rw [hid] at h
    cases hid' : tokens'.idToken with
    | none =>
      rw [hid'] at h
      obtain ⟨-, haccess, hrest⟩ := Json.Reader.membersTail_injective (hmembers _ _ _ _ h)
      exact hlast hrest haccess (hid.trans hid'.symm)
    | some token' =>
      rw [hid'] at h
      obtain ⟨-, -, hrest⟩ := Json.Reader.membersTail_injective (hmembers _ _ _ _ h)
      exact absurd (Json.Reader.membersTail_injective hrest).1 (by decide)
  | some token =>
    rw [hid] at h
    cases hid' : tokens'.idToken with
    | none =>
      rw [hid'] at h
      obtain ⟨-, -, hrest⟩ := Json.Reader.membersTail_injective (hmembers _ _ _ _ h)
      exact absurd (Json.Reader.membersTail_injective hrest).1 (by decide)
    | some token' =>
      rw [hid'] at h
      obtain ⟨-, haccess, hrest⟩ := Json.Reader.membersTail_injective (hmembers _ _ _ _ h)
      obtain ⟨-, hidentity, hrest⟩ := Json.Reader.membersTail_injective hrest
      refine hlast hrest haccess ?_
      rw [hid, hid', hidentity]

end TokenResponse

/-- A token request that is answered with tokens. -/
structure Moment.Answers (m : Moment) (r : Request) (tokens : TokenResponse) : Prop where
  step : m.step = .request r
  path : Endpoint.ofPath? r.path = some .token
  answer : m.answer = .response (some (Reply.json tokens.toJson))

namespace Provider

/-- An answer with tokens has those that were made for it. -/
theorem issue_of_tokenAnswer {p : Provider} {session : Session} {grant : GrantType}
    {shown : String} {now : Instant} {tokens : TokenResponse}
    (h : p.tokenAnswer session grant shown now = some (Reply.json tokens.toJson)) :
    p.issue session grant shown now = .ok tokens := by
  unfold tokenAnswer at h
  cases hissue : p.issue session grant shown now with
  | ok issued =>
    rw [hissue] at h
    exact congrArg Except.ok (TokenResponse.eq_of_body (congrArg Response.body (Option.some.inj h)))
  | error mint =>
    rw [hissue] at h
    cases mint with
    | outOfRange => cases h
    | unsigned e =>
      have hbody := congrArg Response.body (Option.some.inj h)
      exact absurd hbody.symm (tokens_body_ne_error tokens _)

/-- Tokens are answered to a grant, and are those that were made for it. -/
theorem issue_of_answers {p : Provider} {s : ProviderState} {step : Step} {r : Request}
    {tokens : TokenResponse} (h : (p.moment s step).Answers r tokens) :
    ∃ grant shown session, (p.moment s step).Grants p grant shown session ∧
      p.Presents r grant shown ∧ p.issue session grant shown s.clock.now = .ok tokens := by
  obtain ⟨hstep, hpath, hanswer⟩ := h
  obtain rfl : step = .request r := hstep
  have hrespond : (p.respond r s).1 = some (Reply.json tokens.toJson) := by injection hanswer
  have hcases := respond_token (p := p) s hpath
  have hafter := after_request p s r
  generalize hresult : p.respond r s = result at hrespond hcases hafter
  cases hcases with
  | redeemed reached presents grant =>
    exact ⟨.authorizationCode, _, _, .redeems rfl reached presents (hafter ▸ grant), presents,
      issue_of_tokenAnswer hrespond⟩
  | resumed reached presents admits =>
    exact ⟨.refreshToken, _, _, .resumes rfl reached presents admits, presents,
      issue_of_tokenAnswer hrespond⟩
  | refused response_eq =>
    exact absurd (Option.some.inj hrespond) (finish_ne_tokens response_eq _ _ _)

theorem grants_of_answers {p : Provider} {s : ProviderState} {step : Step} {r : Request}
    {tokens : TokenResponse} (h : (p.moment s step).Answers r tokens) :
    ∃ grant shown session issued, (p.moment s step).Grants p grant shown session ∧
      p.Presents r grant shown ∧ p.issue session grant shown s.clock.now = .ok issued ∧
      issued.accessToken = tokens.accessToken ∧ issued.refreshToken = tokens.refreshToken := by
  obtain ⟨grant, shown, session, hgrants, hpresents, hissue⟩ := issue_of_answers h
  exact ⟨grant, shown, session, tokens, hgrants, hpresents, hissue, rfl, rfl⟩

/-- A session that tokens are made for is stored from then on. -/
theorem stored_of_grants {p : Provider} {s : ProviderState} {step : Step} {grant : GrantType}
    {shown : String} {session : Session} (h : (p.moment s step).Grants p grant shown session) :
    ((p.moment s step).after.store.get? session.id).isSome = true := by
  obtain ⟨stored, hstored, -⟩ := h.kept
  have hsome : (s.store.get? session.id).isSome = true := Option.isSome_of_eq_some hstored
  exact stored_step (p := p) s step hsome

/-! ## Tokens that are shown later -/

/-- How long the tokens of the answers in a run hold. An access token that is shown where no error
waits gets claims up to the second in which its lifetime ends, and is refused as expired after
that. A refresh token of an answer to a code gets tokens up to the second in which its own ends, as
long as the new ones end at an instant that can be represented, and is refused as expired after
that. -/
structure TokensHold (p : Provider) (moments : List Moment) : Prop where
  access : ∀ (front middle back : List Moment) (m later : Moment),
    moments = front ++ m :: (middle ++ later :: back) →
    ∀ (r : Request) (tokens : TokenResponse), m.Answers r tokens →
    ∀ r' : Request, later.step = .request r' → reached? r' later.before = some .userinfo →
    bearerToken? r'.headers = some tokens.accessToken →
      (later.reading.seconds ≤ m.reading.lastSecond p.settings.accessTtl →
        ∃ claims : Members, later.answer =
          .response (some (finish (some .userinfo) r'.method (Reply.json (.object claims))))) ∧
      (m.reading.lastSecond p.settings.accessTtl < later.reading.seconds → later.answer =
        .response (some (finish (some .userinfo) r'.method
          (Reply.error (.unauthorized "The token is expired")))))
  refresh : ∀ (front middle back : List Moment) (m later : Moment),
    moments = front ++ m :: (middle ++ later :: back) →
    ∀ (r : Request) (tokens : TokenResponse), m.Answers r tokens →
    ∀ code : String, p.Presents r .authorizationCode code →
    ∀ r' : Request, later.step = .request r' → reached? r' later.before = some .token →
    p.Presents r' .refreshToken tokens.refreshToken →
      (later.reading.seconds ≤ m.reading.lastSecond p.settings.refreshTtl →
        (later.reading.plus? p.settings.accessTtl).isSome = true →
        ∃ tokens' : TokenResponse, later.Answers r' tokens') ∧
      (m.reading.lastSecond p.settings.refreshTtl < later.reading.seconds → later.answer =
        .response (some (Reply.error (.unauthorized "The token is expired"))))

/-- A token that was made for a grant of a run, and the session that it opens later in the run. -/
theorem opens_later {p : Provider} {s : ProviderState} {steps : List Step}
    {front middle back : List Moment} {m later : Moment}
    (h : p.history s steps = front ++ m :: (middle ++ later :: back)) {grant : GrantType}
    {shown : String} {session : Session} (hgrants : m.Grants p grant shown session) :
    ∃ stored, later.before.store.get? session.id = some stored := by
  have hstored : (m.after.store.get? session.id).isSome = true := by
    rw [eq_moment h] at hgrants ⊢
    exact stored_of_grants hgrants
  obtain ⟨steps', -, hrun⟩ := between h
  have hlater := stored_run (p := p) hstored steps'
  rw [hrun] at hlater
  exact Option.isSome_iff_exists.1 hlater

/-- What a bearer token is answered that was made by a faithful authority. -/
theorem userinfo_of_mint {p : Provider} (hkeys : p.keys.Faithful) {kind : TokenKind}
    {session stored : Session} {made : Instant} {token : String}
    (hmint : kind.mint session p.settings p.keys made = .ok token) {s : ProviderState}
    (hstored : s.store.get? session.id = some stored) {r : Request}
    (hreached : reached? r s = some .userinfo) (hshown : bearerToken? r.headers = some token) :
    (s.clock.now.seconds ≤ made.lastSecond (kind.ttl p.settings) → (p.respond r s).1 =
        some (finish (some .userinfo) r.method
          (Reply.json (.object (stored.user.scopedClaims stored.scopes))))) ∧
      (made.lastSecond (kind.ttl p.settings) < s.clock.now.seconds → (p.respond r s).1 =
        some (finish (some .userinfo) r.method
          (Reply.error (.unauthorized "The token is expired")))) := by
  constructor
  · intro hnow
    have hadmits := TokenKind.admits_of_mint hkeys hmint hstored hnow
    rw [respond_userinfo p hreached, userinfo_eq_ok_iff.2 ⟨token, stored, hshown, hadmits, rfl⟩]
  · intro hnow
    obtain ⟨-, claims, hverify, hnames⟩ := TokenKind.verify_of_mint hkeys hmint
    rw [respond_userinfo p hreached, userinfo_of_ended hshown hverify hnames.expiry hnow]

/-- What a refresh token is answered that was made by a faithful authority. -/
theorem refresh_of_mint {p : Provider} (hkeys : p.keys.Faithful) {kind : TokenKind}
    {session stored : Session} {made : Instant} {token : String}
    (hmint : kind.mint session p.settings p.keys made = .ok token) {s : ProviderState}
    (hstored : s.store.get? session.id = some stored) {r : Request}
    (hreached : reached? r s = some .token) (hpresents : p.Presents r .refreshToken token) :
    (s.clock.now.seconds ≤ made.lastSecond (kind.ttl p.settings) →
        (s.clock.now.plus? p.settings.accessTtl).isSome = true →
        ∃ tokens : TokenResponse, (p.respond r s).1 = some (Reply.json tokens.toJson)) ∧
      (made.lastSecond (kind.ttl p.settings) < s.clock.now.seconds → (p.respond r s).1 =
        some (Reply.error (.unauthorized "The token is expired"))) := by
  constructor
  · intro hnow haccess
    have hadmits := TokenKind.admits_of_mint hkeys hmint hstored hnow
    obtain ⟨tokens, hissue⟩ := exists_issue hkeys stored .refreshToken token haccess nofun
    refine ⟨tokens, ?_⟩
    rw [respond_of_resumed hreached hpresents hadmits, tokenAnswer, hissue]
    rfl
  · intro hnow
    obtain ⟨-, claims, hverify, hnames⟩ := TokenKind.verify_of_mint hkeys hmint
    obtain ⟨hne, params, hparams, hvalid, hname, rfl⟩ := hpresents
    rw [respond_of_reached_token hreached hparams, exchange_of_token hvalid hname,
      resume_of_ended hne hname hverify hnames.expiry hnow]
    rfl

/-- The later of two moments is answered as its state has it. -/
theorem answer_later {p : Provider} {s : ProviderState} {steps : List Step}
    {front middle back : List Moment} {m later : Moment}
    (h : p.history s steps = front ++ m :: (middle ++ later :: back)) {r : Request}
    (hstep : later.step = .request r) :
    later.answer = .response (p.respond r later.before).1 := by
  have hsplit : p.history s steps = (front ++ m :: middle) ++ later :: back := by
    rw [h, List.append_assoc, List.cons_append]
  rw [eq_moment hsplit, hstep]
  rfl

/-! ## A provider that signs -/

theorem answers_sample {p : Provider} (hclient : p.HasClient) {clock : Clock}
    {tokens : TokenResponse}
    (h : p.issue (sampleSession true) .authorizationCode "c" clock.now = .ok tokens) :
    (p.moment (sampleState false clock) (.request (p.grantRequest .authorizationCode "c"))).Answers
      (p.grantRequest .authorizationCode "c") tokens := by
  have hissue : p.issue (sampleSession true) .authorizationCode "c"
      (sampleState false clock).clock.now = .ok tokens := h
  refine ⟨rfl, rfl, (grants_sample hclient clock).1.answer_eq.trans ?_⟩
  rw [tokenAnswer, hissue]
  rfl

/-- A request some time after the code of the sample session has been redeemed. -/
theorem history_exchange {p : Provider} (hclient : p.HasClient) (made t : Instant) (r : Request) :
    p.history (sampleState false (.running made))
        [.request (p.grantRequest .authorizationCode "c"), .tick t, .request r] =
      [] ++ p.moment (sampleState false (.running made))
          (.request (p.grantRequest .authorizationCode "c")) ::
        ([p.moment (sampleState true (.running made)) (.tick t)] ++
          p.moment (sampleState true (.running t)) (.request r) :: []) := by
  rw [history_cons, (grants_sample hclient (.running made)).2]
  rfl

/-- The sample provider with a key that can sign. -/
def signingSample : Provider := { sample with keys := .ofRsa Rsa.sampleKey }

theorem hasClient_signingSample : signingSample.HasClient := ⟨by decide, by decide⟩

theorem faithful_signingSample : signingSample.keys.Faithful :=
  KeyAuthority.faithful_ofRsa Rsa.canSign_sampleKey

/-- The code of the sample session gets tokens. -/
theorem exists_issue_signingSample :
    ∃ tokens, signingSample.issue (sampleSession true) .authorizationCode "c" 0 = .ok tokens :=
  exists_issue faithful_signingSample (sampleSession true) .authorizationCode "c" (by decide)
    fun _ => by decide

/-- An instant at which the second 100 is almost over. -/
def sampleMade : Instant := ⟨100900000000, by decide⟩

/-- More than 60 seconds later, and yet in the second 160. -/
def sampleLate : Instant := ⟨160950000000, by decide⟩

/-- The tokens of the sample session are made and can be shown. -/
theorem exists_tokens_sampleMade :
    ∃ tokens : TokenResponse,
      (signingSample.moment (sampleState false (.running sampleMade))
        (.request (signingSample.grantRequest .authorizationCode "c"))).Answers
          (signingSample.grantRequest .authorizationCode "c") tokens ∧
      TokenKind.access.mint (sampleSession true) signingSample.settings signingSample.keys
        sampleMade = .ok tokens.accessToken ∧
      bearerToken? (bearerRequest tokens.accessToken).headers = some tokens.accessToken ∧
      tokens.refreshToken ≠ "" := by
  obtain ⟨tokens, hissue⟩ := @exists_issue signingSample faithful_signingSample
    (sampleSession true) .authorizationCode "c" sampleMade (by decide) (fun _ => by decide)
  obtain ⟨hmade, -, hrefresh⟩ := made_of_issue hissue
  have hvisible : ∀ c ∈ tokens.accessToken.toList, 0x20 ≤ c.toNat ∧ c.toNat < 0x7F := by
    obtain ⟨_, -, hsign⟩ := Session.mint_eq_ok_iff.1 hmade
    exact KeyAuthority.visible_ofRsa hsign
  obtain ⟨hne, -⟩ := @TokenKind.verify_of_mint _ faithful_signingSample .refresh _ _ _ _ hrefresh
  exact ⟨tokens, answers_sample hasClient_signingSample hissue, hmade,
    bearerToken?_bearerRequest hvisible, hne⟩

/-! ## The lifetimes of tokens -/

/-- The tokens of every run of a provider whose key can sign hold for their lifetimes. -/
theorem tokensHold {p : Provider} {key : Rsa.PrivateKey} (hkeys : p.keys = .ofRsa key)
    (hkey : key.CanSign) (s : ProviderState) (steps : List Step) :
    TokensHold p (p.history s steps) := by
  have hfaithful : p.keys.Faithful := hkeys ▸ KeyAuthority.faithful_ofRsa hkey
  refine ⟨?_, ?_⟩
  · intro front middle back m later h r tokens hanswers r' hstep hreached hshown
    rw [eq_moment h] at hanswers
    obtain ⟨grant, shown, session, issued, hgrants, -, hissue, haccess, -⟩ :=
      grants_of_answers hanswers
    rw [← eq_moment h] at hgrants
    obtain ⟨stored, hstored⟩ := opens_later h hgrants
    have hmint : TokenKind.access.mint session p.settings p.keys m.reading =
        .ok tokens.accessToken := haccess ▸ (made_of_issue hissue).1
    obtain ⟨hholds, hended⟩ := userinfo_of_mint hfaithful hmint hstored hreached hshown
    rw [answer_later h hstep]
    exact ⟨fun hnow => ⟨_, congrArg _ (hholds hnow)⟩, fun hnow => congrArg _ (hended hnow)⟩
  · intro front middle back m later h r tokens hanswers code hcode r' hstep hreached hpresents
    have hstep' := hanswers.step
    rw [eq_moment h] at hanswers
    obtain ⟨grant, shown, session, issued, hgrants, hshown, hissue, -, hrefresh⟩ :=
      grants_of_answers hanswers
    rw [← eq_moment h] at hgrants
    obtain ⟨stored, hstored⟩ := opens_later h hgrants
    obtain ⟨rfl, -⟩ := hshown.unique hcode
    have hmint : TokenKind.refresh.mint session p.settings p.keys m.reading =
        .ok tokens.refreshToken := hrefresh ▸ (made_of_issue hissue).2.2
    obtain ⟨hholds, hended⟩ := refresh_of_mint hfaithful hmint hstored hreached hpresents
    rw [answer_later h hstep]
    refine ⟨fun hnow haccess => ?_, fun hnow => congrArg _ (hended hnow)⟩
    obtain ⟨tokens', hanswer⟩ := hholds hnow haccess
    exact ⟨tokens', hstep, (reached?_eq_some_iff.1 hreached).2.1,
      (answer_later h hstep).trans (congrArg _ hanswer)⟩

/-- The tokens of the sample provider last 60 seconds. Made when a second is almost over, they are
accepted while the second lasts in which their lifetimes end, and refused from the next one on. -/
theorem signingSample_tokensHold :
    signingSample.keys = .ofRsa Rsa.sampleKey ∧ Rsa.sampleKey.CanSign ∧
      (signingSample.run (.initial .jane (.running sampleMade))
        [.queueCode "c", .request signingSample.loginRequest]).2 =
          sampleState false (.running sampleMade) ∧
      ∃ tokens : TokenResponse,
        (signingSample.moment (sampleState false (.running sampleMade))
          (.request (signingSample.grantRequest .authorizationCode "c"))).Answers
            (signingSample.grantRequest .authorizationCode "c") tokens ∧
        (∃ claims : Members,
          (signingSample.respond (bearerRequest tokens.accessToken)
            (sampleState true (.running sampleLate))).1 = some (Reply.json (.object claims))) ∧
        (signingSample.respond (bearerRequest tokens.accessToken)
          (sampleState true (.running 161))).1 =
            some (Reply.error (.unauthorized "The token is expired")) ∧
        (∃ tokens' : TokenResponse,
          (signingSample.respond (signingSample.grantRequest .refreshToken tokens.refreshToken)
            (sampleState true (.running sampleLate))).1 = some (Reply.json tokens'.toJson)) ∧
        (signingSample.respond (signingSample.grantRequest .refreshToken tokens.refreshToken)
          (sampleState true (.running 161))).1 =
            some (Reply.error (.unauthorized "The token is expired")) := by
  have hclient := hasClient_signingSample
  obtain ⟨tokens, hanswers, -, hbearer, hne⟩ := exists_tokens_sampleMade
  have hpresents := presents_grantRequest hclient .refreshToken hne
  have haccess (t : Instant) := (tokensHold rfl Rsa.canSign_sampleKey _ _).access [] _ [] _ _
    (history_exchange hclient sampleMade t (bearerRequest tokens.accessToken)) _ tokens hanswers _
    rfl (reached?_bearerRequest _ rfl) hbearer
  have hresume (t : Instant) := (tokensHold rfl Rsa.canSign_sampleKey _ _).refresh [] _ [] _ _
    (history_exchange hclient sampleMade t
      (signingSample.grantRequest .refreshToken tokens.refreshToken)) _
    tokens hanswers "c" (presents_sample hclient) _ rfl (reached?_grantRequest _ _ _ rfl) hpresents
  have hholds : sampleLate.seconds ≤ sampleMade.lastSecond 60 := by decide
  have hends : sampleMade.lastSecond 60 < Instant.seconds 161 := by decide
  obtain ⟨claims, hclaims⟩ := (haccess sampleLate).1 hholds
  obtain ⟨tokens', hanswers'⟩ := (hresume sampleLate).1 hholds
    (by decide : (sampleLate.plus? 60).isSome = true)
  have hanswer {r : Request} {t : Instant} {response : Option Response}
      (h : (signingSample.moment (sampleState true (.running t)) (.request r)).answer =
        .response response) :
      (signingSample.respond r (sampleState true (.running t))).1 = response := by
    rw [answer_request] at h
    exact StepAnswer.response.inj h
  exact ⟨rfl, Rsa.canSign_sampleKey, run_login hclient _, tokens, hanswers,
    ⟨claims, hanswer hclaims⟩, hanswer ((haccess 161).2 hends),
    ⟨tokens', hanswer hanswers'.answer⟩, hanswer ((hresume 161).2 hends)⟩

/-- There an access token is accepted although more time has passed than its lifetime. -/
theorem accepted_past_lifetime :
    ∃ (tokens : TokenResponse) (claims : Members) (front middle : List Moment) (m later : Moment),
      signingSample.history (.initial .jane (.running sampleMade))
          [.queueCode "c", .request signingSample.loginRequest,
            .request (signingSample.grantRequest .authorizationCode "c"), .tick sampleLate,
            .request (bearerRequest tokens.accessToken)] =
        front ++ m :: (middle ++ [later]) ∧
      m.Answers (signingSample.grantRequest .authorizationCode "c") tokens ∧
      m.reading.nanoseconds + signingSample.settings.accessTtl.nanoseconds <
        later.reading.nanoseconds ∧
      later.answer = .response (some (Reply.json (.object claims))) := by
  have hclient := hasClient_signingSample
  obtain ⟨tokens, hanswers, hmint, hbearer, -⟩ := exists_tokens_sampleMade
  have hholds : sampleLate.seconds ≤ sampleMade.lastSecond 60 := by decide
  have htold := (userinfo_of_mint faithful_signingSample hmint
    (s := sampleState true (.running sampleLate)) rfl (reached?_bearerRequest _ rfl) hbearer).1
      hholds
  have hanswer := (answer_request signingSample (sampleState true (.running sampleLate)) _).trans
    (congrArg StepAnswer.response htold)
  have hrun := (history_login hclient (.running sampleMade) _).trans (congrArg (_ :: _ :: ·)
    (history_exchange hclient sampleMade sampleLate (bearerRequest tokens.accessToken)))
  have hpast : sampleMade.nanoseconds + signingSample.settings.accessTtl.nanoseconds <
      sampleLate.nanoseconds := by decide
  exact ⟨tokens, _, [_, _], [_], _, _, hrun, hanswers, hpast, hanswer⟩

/-! ## Ends that no binary64 number represents -/

/-- The end of a token may be any integer of 64 bits, with or without a sign. Although the binary64
number nearest to it is what is looked at, the token holds up to that end and no longer. -/
theorem checkToken_exact {p : Provider} (now : Instant) {token : String} {claims : Members}
    (hverify : p.keys.verify token = .ok (.object claims)) {finish : Int}
    (hfinish : claims.get? "exp" = some (.ofInt finish)) (hlow : -2 ^ 63 ≤ finish)
    (hhigh : finish < 2 ^ 64) :
    (p.checkToken now token = .ok ⟨token, claims⟩ ↔ now.seconds ≤ finish) ∧
      (p.checkToken now token = .error (.unauthorized "The token is expired") ↔
        finish < now.seconds) := by
  have hexpiry : expiry? claims = some (wholeSeconds (Binary64.ofInt finish)) := by
    unfold expiry?
    rw [hfinish]
    rfl
  have hcompare : wholeSeconds (Binary64.ofInt finish) < now.seconds ↔ finish < now.seconds := by
    obtain ⟨hleast, hgreatest⟩ := now.seconds_bounds
    rw [wholeSeconds_lt_iff_truncate]
    exact Binary64.truncate_ofInt_lt_iff (by omega) (by omega)
  by_cases hended : finish < now.seconds
  · rw [checkToken_of_ended hverify hexpiry (hcompare.2 hended)]
    exact ⟨iff_of_false nofun (Int.not_le.2 hended), iff_of_true rfl hended⟩
  · have hholds : p.checkToken now token = .ok ⟨token, claims⟩ :=
      checkToken_eq_ok_iff.2 ⟨rfl, hverify, _, hexpiry, Int.not_lt.1 (hcompare.not.2 hended)⟩
    rw [hholds]
    exact ⟨iff_of_true rfl (Int.not_lt.1 hended), iff_of_false nofun hended⟩

/-- The greatest end is rounded to `2 ^ 64` and then cut to the bounds of 64 bits. A token with
that end holds up to the last date. -/
theorem checkToken_exact_greatest :
    ∃ token, signingSample.keys.verify token =
        .ok (.object [("exp", .ofInt 0xFFFFFFFFFFFFFFFF)]) ∧
      signingSample.checkToken .greatest token =
        .ok ⟨token, [("exp", .ofInt 0xFFFFFFFFFFFFFFFF)]⟩ := by
  have hreadable (levels : Nat) : Json.Readable levels (.ofInt 0xFFFFFFFFFFFFFFFF) :=
    Json.readable_int_iff.2 (by decide)
  have hlegible : Token.Claims.Legible [("exp", .ofInt 0xFFFFFFFFFFFFFFFF)] :=
    Token.Claims.legible_of_members (List.pairwise_singleton _ _)
      (List.forall_mem_singleton.2 ⟨hreadable _, fun _ => hreadable 0⟩)
  obtain ⟨token, -, -, hverify⟩ := faithful_signingSample _ hlegible
  exact ⟨token, hverify,
    (checkToken_exact .greatest hverify rfl (by decide) (by decide)).1.2 (by decide)⟩

end Provider

end OpenIdProvider
