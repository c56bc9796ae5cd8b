/-
  Whether expiry is for good. A run whose clock stands still and is only moved forwards reads times
  that never decrease, and refuses a token for good once it has ended, exactly when its counter goes
  around no end of the dates that can be represented: it does not leave them after 1970, where the
  clock reads 1970 from then on, and does not come back to them before 1970.
-/
import OpenIdProvider.Proofs.Calendar
import OpenIdProvider.Proofs.Provider.Lifetime

namespace OpenIdProvider

open Http

/-! ## A clock that is moved forwards -/

/-- Words of 64 bits are counted around their end. -/
theorem wrap64_eq (n : Int) : ∃ k, wrap64 n = n - 0x10000000000000000 * k := by
  simp only [wrap64, Int.bmod]
  split
  · exact ⟨n / 0x10000000000000000, by omega⟩
  · exact ⟨n / 0x10000000000000000 + 1, by omega⟩

namespace FixedClock

/-- The counter stands for a second whose date can be represented. -/
def Dated (c : FixedClock) : Prop := HasDate (c.counter * nanosecondsPerSecond)

instance (c : FixedClock) : Decidable c.Dated := inferInstanceAs (Decidable (HasDate _))

theorem dated_iff {c : FixedClock} :
    c.Dated ↔ -8334601228800 ≤ c.counter ∧ c.counter ≤ 8210266876799 := by
  show -8334601228800000000000 ≤ c.counter * 1000000000 ∧
    c.counter * 1000000000 ≤ 8210266876799999999999 ↔ _
  omega

theorem seconds_now_of_dated {c : FixedClock} (h : c.Dated) : c.now.seconds = c.counter :=
  Instant.seconds_ofSeconds h

theorem seconds_now_of_not_dated {c : FixedClock} (h : ¬ c.Dated) : c.now.seconds = 0 := by
  rw [now, Instant.ofSeconds_of_not_hasDate h]
  rfl

/-- What the clock reads has no fraction. -/
theorem now_le_now_iff {c c' : FixedClock} :
    c.now ≤ c'.now ↔ c.now.seconds ≤ c'.now.seconds := by
  have hwhole (c : FixedClock) : c.now.nanoseconds = c.now.seconds * nanosecondsPerSecond :=
    Instant.nanoseconds_ofSeconds c.counter
  rw [Instant.le_def, hwhole c, hwhole c', nanosecondsPerSecond]
  omega

/-- From one counter to a later one the clock reads on: it does not leave the dates that can be
represented after 1970, and does not come back to them before 1970. -/
structure ReadsOn (c c' : FixedClock) : Prop where
  leaving : c.Dated → 0 < c.counter → c'.Dated
  returning : ¬ c.Dated → c'.Dated → 0 ≤ c'.counter

theorem readsOn_refl (c : FixedClock) : c.ReadsOn c :=
  ⟨fun h _ => h, fun h h' => absurd h' h⟩

theorem readsOn_of_dated {c c' : FixedClock} (h : c'.Dated ∧ 0 ≤ c'.counter) : c.ReadsOn c' :=
  ⟨fun _ _ => h.1, fun _ _ => h.2⟩

/-- No duration is long enough to lead around the words of 64 bits and back to an earlier date
that can be represented. -/
theorem counter_le_advance {c : FixedClock} {d : Duration} (hd : 0 ≤ d)
    (hgreatest : d ≤ Duration.greatest) (hc : c.Dated) (hc' : (c.advance d).Dated) :
    c.counter ≤ (c.advance d).counter := by
  obtain ⟨k, hk⟩ : ∃ k, (c.advance d).counter =
      c.counter + d.seconds - 0x10000000000000000 * k := wrap64_eq (c.counter + d.seconds)
  obtain ⟨hlow, hhigh⟩ := Duration.seconds_bounds hd hgreatest
  rw [dated_iff] at hc hc'
  omega

/-- A clock reads on exactly where what it reads does not decrease. -/
theorem now_le_advance_iff {c : FixedClock} {d : Duration} (hd : 0 ≤ d)
    (hgreatest : d ≤ Duration.greatest) :
    c.now ≤ (c.advance d).now ↔ c.ReadsOn (c.advance d) := by
  rw [now_le_now_iff]
  by_cases hc : c.Dated
  · have hstays {c' : FixedClock} (h : 0 < c.counter → c'.Dated) : c.ReadsOn c' :=
      ⟨fun _ => h, fun hnot => absurd hc hnot⟩
    rw [seconds_now_of_dated hc]
    by_cases hc' : (c.advance d).Dated
    · rw [seconds_now_of_dated hc']
      exact iff_of_true (counter_le_advance hd hgreatest hc hc') (hstays fun _ => hc')
    · rw [seconds_now_of_not_dated hc']
      refine ⟨fun hle => hstays fun hlater => absurd hle (Int.not_le.2 hlater), fun hon => ?_⟩
      exact Int.not_lt.1 fun hlater => hc' (hon.leaving hc hlater)
  · have hcomes {c' : FixedClock} (h : c'.Dated → 0 ≤ c'.counter) : c.ReadsOn c' :=
      ⟨fun hdated => absurd hdated hc, fun _ => h⟩
    rw [seconds_now_of_not_dated hc]
    by_cases hc' : (c.advance d).Dated
    · rw [seconds_now_of_dated hc']
      exact ⟨fun hle => hcomes fun _ => hle, fun hon => hon.returning hc hc'⟩
    · rw [seconds_now_of_not_dated hc']
      exact iff_of_true (Int.le_refl 0) (hcomes fun h => absurd h hc')

end FixedClock

/-- From one clock to a later one the clock reads on, if it stands still. -/
def Clock.ReadsOn : Clock → Clock → Prop
  | .standing c, .standing c' => c.ReadsOn c'
  | _, _ => True

theorem Clock.readsOn_refl (c : Clock) : c.ReadsOn c := by
  cases c with
  | standing c => exact FixedClock.readsOn_refl c
  | running t => trivial

/-- A step that moves a clock that stands still forwards, or not at all. -/
def Step.Forward : Step → Prop
  | .advance d => 0 ≤ d ∧ d ≤ Duration.greatest
  | .setClock _ => False
  | .tick _ => False
  | _ => True

namespace Provider

theorem clock_respond (p : Provider) (r : Request) (s : ProviderState) :
    (p.respond r s).2.clock = s.clock := by
  have heffect := respond_effect p r s
  generalize (p.respond r s).2 = s' at heffect
  cases heffect <;> rfl

/-- The clock reads on over a step exactly where what it reads does not decrease. -/
theorem reading_le_iff {p : Provider} {s : ProviderState} {step : Step} (h : step.Forward) :
    (p.moment s step).reading ≤ (p.moment s step).after.clock.now ↔
      s.clock.ReadsOn (p.moment s step).after.clock := by
  have hstill (hclock : (p.moment s step).after.clock = s.clock) :
      (p.moment s step).reading ≤ (p.moment s step).after.clock.now ↔
        s.clock.ReadsOn (p.moment s step).after.clock := by
    rw [hclock]
    exact iff_of_true (Int.le_refl _) (Clock.readsOn_refl _)
  cases step with
  | request r => exact hstill (clock_respond p r s)
  | queueUser u => exact hstill rfl
  | queueCode code => exact hstill rfl
  | queueError e => exact hstill rfl
  | advance d =>
    show s.clock.now ≤ (s.clock.advance d).now ↔ s.clock.ReadsOn (s.clock.advance d)
    cases s.clock with
    | standing c => exact FixedClock.now_le_advance_iff h.1 h.2
    | running t => exact iff_of_true (Int.le_refl _) trivial
  | setClock t => exact h.elim
  | tick t => exact h.elim

/-- What the clock reads before each step of a run, and after the last one. -/
def readings (p : Provider) (s : ProviderState) (steps : List Step) : List Instant :=
  (p.history s steps).map Moment.reading ++ [(p.run s steps).2.clock.now]

theorem exists_readings (p : Provider) (s : ProviderState) (steps : List Step) :
    ∃ rest, p.readings s steps = s.clock.now :: rest := by
  cases steps with
  | nil => exact ⟨[], rfl⟩
  | cons step steps => exact ⟨_, rfl⟩

/-- The readings of a run never decrease if they do not over any step. -/
theorem pairwise_readings_iff (p : Provider) (s : ProviderState) (steps : List Step) :
    (p.readings s steps).Pairwise (· ≤ ·) ↔
      ∀ m ∈ p.history s steps, m.reading ≤ m.after.clock.now := by
  rw [← List.isChain_iff_pairwise]
  induction steps generalizing s with
  | nil => exact iff_of_true (.singleton _) (List.forall_mem_nil _)
  | cons step steps ih =>
    obtain ⟨rest, hrest⟩ := exists_readings p (p.moment s step).after steps
    have hreadings : p.readings s (step :: steps) =
        (p.moment s step).reading :: p.readings (p.moment s step).after steps := rfl
    rw [history_cons, List.forall_mem_cons, ← ih, hreadings, hrest, List.isChain_cons_cons]

/-! ## Tokens that have ended -/

/-- A token that verifies and has ended by an instant. -/
def Ended (p : Provider) (now : Instant) (token : String) : Prop :=
  ∃ claims : Members, p.keys.verify token = .ok (.object claims) ∧
    ∃ finish, expiry? claims = some finish ∧ finish < now.seconds

/-- It opens no session from then on. -/
theorem Ended.not_admits {p : Provider} {now : Instant} {token : String} (h : p.Ended now token)
    {s : ProviderState} (hnow : now ≤ s.clock.now) (session : Session) :
    ¬ p.Admits s token session := by
  rintro ⟨claims', hverify', ⟨finish', hfinish', hle⟩, -⟩
  obtain ⟨claims, hverify, finish, hfinish, hlt⟩ := h
  rw [hverify] at hverify'
  cases hverify'
  rw [hfinish] at hfinish'
  cases hfinish'
  exact Int.not_lt.2 (Int.le_trans (Instant.seconds_le_seconds hnow) hle) hlt

/-- Only a token that has ended is told to be expired. -/
theorem ended_of_checkToken {p : Provider} {now : Instant} {token : String} {e : ProtocolError}
    (h : p.checkToken now token = .error e) (htold : e.description = "The token is expired") :
    p.Ended now token := by
  unfold checkToken at h
  split at h
  · cases h
    have hchars := congrArg String.toList htold
    rw [ProtocolError.unauthorized, String.toList_append] at hchars
    exact absurd (List.cons.inj hchars).1 (by decide)
  · rename_i claims hverify
    split at h
    · cases h
      exact absurd htold (by decide)
    · rename_i finish hfinish
      split at h
      · rename_i hlt
        exact ⟨claims, hverify, finish, hfinish, hlt⟩
      · cases h
  · cases h
    exact absurd htold (by decide)

/-- The body of an error tells its description. -/
theorem description_of_body {e e' : ProtocolError}
    (h : (Reply.error e).body = (Reply.error e').body) : e.description = e'.description := by
  obtain ⟨-, -, hrest⟩ := Json.Reader.membersTail_injective
    (Json.encodeChars_membersTail_of_object h)
  exact (Json.Reader.membersTail_injective hrest).2.1

theorem description_of_finish {endpoint : Option Endpoint} {method : Method} {e e' : ProtocolError}
    (h : finish endpoint method (Reply.error e) = Reply.error e') :
    e.description = e'.description := by
  have hbody := congrArg Response.body h
  rcases finish_body endpoint method (Reply.error e) with hempty | hsame
  · obtain ⟨rest, hchars⟩ := errorBody_chars e'
    rw [hempty, Reply.error, hchars] at hbody
    cases hbody
  · exact description_of_body (hsame ▸ hbody)

theorem ended_of_userinfo {p : Provider} {headers : Headers} {s : ProviderState} {token : String}
    {e : ProtocolError} (hshown : bearerToken? headers = some token)
    (h : p.userinfo headers s = .error e) (hstatus : e.status = 401)
    (htold : e.description = "The token is expired") : p.Ended s.clock.now token := by
  unfold userinfo checkBearer at h
  rw [hshown] at h
  split at h
  · rename_i hcheck
    cases h
    exact ended_of_checkToken hcheck htold
  · split at h
    · cases h
      cases hstatus
    · cases h

theorem ended_of_resume {p : Provider} {params : Params} {s : ProviderState} {e : ProtocolError}
    (hne : params.get "refresh_token" ≠ "") (hname : params.get "grant_type" = "refresh_token")
    (h : p.resume params s = .error e) (htold : e.description = "The token is expired") :
    p.Ended s.clock.now (params.get "refresh_token") := by
  have hall : Validation.requireAll params ["refresh_token"] = .ok () :=
    Validation.requireAll_eq_ok_iff.2 (by simpa using hne)
  have hgrant : requireGrant params .refreshToken = .ok () := requireGrant_eq_ok_iff.2 hname
  unfold resume at h
  rw [hall, hgrant] at h
  cases hcheck : p.checkToken s.clock.now (params.get "refresh_token") with
  | error e' =>
    rw [hcheck] at h
    cases h
    exact ended_of_checkToken hcheck htold
  | ok usable =>
    rw [hcheck] at h
    dsimp only [bind, Except.bind] at h
    split at h
    · cases h
    · cases h
      exact absurd htold (by decide)

/-- A token that opens a session is not told to be expired, even if no new token can be made. -/
theorem tokenAnswer_ne_expired (p : Provider) (session : Session) (grant : GrantType)
    (shown : String) (now : Instant) :
    p.tokenAnswer session grant shown now ≠
      some (Reply.error (.unauthorized "The token is expired")) := by
  have hstatus {response : Response} (h : response.status ≠ 401) :
      some response ≠ some (Reply.error (.unauthorized "The token is expired")) :=
    fun heq => h (congrArg Response.status (Option.some.inj heq))
  unfold tokenAnswer
  cases p.issue session grant shown now with
  | ok tokens => exact hstatus (show 200 ≠ 401 by decide)
  | error mint =>
    cases mint with
    | outOfRange => nofun
    | unsigned e => exact hstatus (show 500 ≠ 401 by decide)

end Provider

/-! ## Runs -/

/-- A moment at which a token is shown and told to be expired. -/
structure Moment.Expires (p : Provider) (m : Moment) (token : String) : Prop where
  shows : m.Shows p token
  answer : m.answer = .response (some (Reply.error (.unauthorized "The token is expired")))

namespace Provider

/-- A token that is told to be expired has ended. -/
theorem ended_of_expires {p : Provider} {s : ProviderState} {step : Step} {token : String}
    (h : (p.moment s step).Expires p token) : p.Ended s.clock.now token := by
  obtain ⟨hshows, hanswer⟩ := h
  cases hshows with
  | @bearer r _ hstep reached shown =>
    obtain rfl : step = .request r := hstep
    rw [answer_request, respond_userinfo (s := s) p reached] at hanswer
    have hfinish := Option.some.inj (StepAnswer.response.inj hanswer)
    cases huserinfo : p.userinfo r.headers s with
    | ok claims =>
      rw [huserinfo] at hfinish
      have hstatus : 200 = 401 := congrArg Response.status hfinish
      cases hstatus
    | error e =>
      rw [huserinfo] at hfinish
      exact ended_of_userinfo shown huserinfo (congrArg Response.status hfinish)
        (description_of_finish hfinish)
  | @refresh r _ hstep reached presents =>
    obtain rfl : step = .request r := hstep
    obtain ⟨hne, params, hparams, hvalid, hname, rfl⟩ := presents
    rw [answer_request, respond_of_reached_token (s := s) reached hparams,
      exchange_of_token hvalid hname] at hanswer
    have htold := StepAnswer.response.inj hanswer
    cases hresume : p.resume params s with
    | error e =>
      rw [hresume] at htold
      exact ended_of_resume hne hname hresume
        (description_of_body (congrArg Response.body (Option.some.inj htold)))
    | ok session =>
      rw [hresume] at htold
      exact absurd htold (tokenAnswer_ne_expired p session _ _ _)

/-- Expiry is for good in a run: what the clock reads never decreases, and a token that was told
to be expired is accepted at no later moment, neither as bearer token nor as refresh token. -/
structure ExpiryLasts (p : Provider) (s : ProviderState) (steps : List Step) : Prop where
  readings : (p.readings s steps).Pairwise (· ≤ ·)
  expired : ∀ (front middle back : List Moment) (m later : Moment),
    p.history s steps = front ++ m :: (middle ++ later :: back) →
    ∀ token : String, m.Expires p token →
      ¬ later.Accepts p token ∧ ∀ session, ¬ later.Grants p .refreshToken token session

theorem reading_le_later {p : Provider} {s : ProviderState} {steps : List Step}
    (hreadings : (p.readings s steps).Pairwise (· ≤ ·)) {front middle back : List Moment}
    {m later : Moment} (h : p.history s steps = front ++ m :: (middle ++ later :: back)) :
    m.reading ≤ later.reading := by
  have hmoments := List.pairwise_map.1 (List.pairwise_append.1 hreadings).1
  rw [h] at hmoments
  exact (List.pairwise_cons.1 (List.pairwise_append.1 hmoments).2.1).1 later (by simp)

/-- Where the clock is only moved forwards, expiry is for good exactly if the clock reads on at
every step. -/
theorem expiryLasts_iff {p : Provider} {s : ProviderState} {steps : List Step}
    (hforward : ∀ step ∈ steps, step.Forward) :
    ExpiryLasts p s steps ↔
      ∀ m ∈ p.history s steps, m.before.clock.ReadsOn m.after.clock := by
  have hreadings : (p.readings s steps).Pairwise (· ≤ ·) ↔
      ∀ m ∈ p.history s steps, m.before.clock.ReadsOn m.after.clock := by
    rw [pairwise_readings_iff]
    refine forall₂_congr fun m hm => ?_
    have hstep : m.step ∈ (p.history s steps).map Moment.step := List.mem_map_of_mem hm
    rw [history_steps] at hstep
    rw [eq_moment_of_mem hm]
    exact reading_le_iff (hforward m.step hstep)
  refine ⟨fun hlasts => hreadings.1 hlasts.readings, fun hon => ⟨hreadings.2 hon, ?_⟩⟩
  intro front middle back m later h token hexpires
  have hle := reading_le_later (hreadings.2 hon) h
  have hended : p.Ended m.reading token := by
    rw [eq_moment h] at hexpires
    exact ended_of_expires hexpires
  have hclosed (session : Session) : ¬ p.Admits later.before token session :=
    hended.not_admits hle session
  have hlater : p.history s steps = (front ++ m :: middle) ++ later :: back := by
    rw [h, List.append_assoc, List.cons_append]
  refine ⟨fun haccepts => ?_, fun session hgrants => hclosed session hgrants.shows.2⟩
  rw [eq_moment hlater] at haccepts
  obtain ⟨session, hadmits⟩ := admits_of_accepts haccepts
  exact hclosed session hadmits

/-! ## An access token that is shown twice -/

/-- The access token of the sample session is shown when it has ended, and once more after the
clock has been moved on. -/
def shownTwice (token : String) (d : Duration) : List Step :=
  [.queueCode "c", .request signingSample.loginRequest,
    .request (signingSample.grantRequest .authorizationCode "c"), .advance 61,
    .request (bearerRequest token), .advance d, .request (bearerRequest token)]

theorem history_shownTwice (token : String) (d : Duration) :
    signingSample.history (.initial .jane 0) (shownTwice token d) =
      [signingSample.moment (.initial .jane 0) (.queueCode "c"),
        signingSample.moment ((ProviderState.initial .jane 0).queueCode "c")
          (.request signingSample.loginRequest),
        signingSample.moment (sampleState false 0)
          (.request (signingSample.grantRequest .authorizationCode "c")),
        signingSample.moment (sampleState true 0) (.advance 61)] ++
      signingSample.moment (sampleState true 61) (.request (bearerRequest token)) ::
        ([signingSample.moment (sampleState true 61) (.advance d)] ++
          [signingSample.moment ((sampleState true 61).advance d)
            (.request (bearerRequest token))]) := by
  have hadvance : (signingSample.moment (sampleState true 0) (.advance 61)).after =
      sampleState true 61 := rfl
  have hshown : (signingSample.moment (sampleState true 61)
      (.request (bearerRequest token))).after = sampleState true 61 := by
    rw [after_request, respond_of_reached (reached?_bearerRequest token rfl)]
    rfl
  unfold shownTwice
  rw [history_sample hasClient_signingSample, history_cons signingSample (sampleState true 0),
    hadvance, history_cons, hshown, history_cons]
  rfl

theorem forward_shownTwice (token : String) {d : Duration} (hd : 0 ≤ d)
    (hgreatest : d ≤ Duration.greatest) : ∀ step ∈ shownTwice token d, step.Forward := by
  simp only [shownTwice, List.forall_mem_cons]
  exact ⟨trivial, trivial, trivial, ⟨by decide, by decide⟩, trivial, ⟨hd, hgreatest⟩, trivial,
    List.forall_mem_nil _⟩

/-- An access token that lasts until instant 60 is told to be expired at instant 61, and accepted
by a clock that has left the dates that can be represented. -/
theorem exists_shownTwice :
    ∃ token,
      (signingSample.moment (sampleState true 61) (.request (bearerRequest token))).Expires
        signingSample token ∧
      (signingSample.moment ((sampleState true 61).advance 8210266876799)
        (.request (bearerRequest token))).Accepts signingSample token := by
  obtain ⟨tokens, hissue⟩ := exists_issue_signingSample
  have hmint : TokenKind.access.mint (sampleSession true) signingSample.settings signingSample.keys
      0 = .ok tokens.accessToken := (made_of_issue hissue).1
  have hvisible : ∀ c ∈ tokens.accessToken.toList, 0x20 ≤ c.toNat ∧ c.toNat < 0x7F := by
    obtain ⟨_, -, hsign⟩ := Session.mint_eq_ok_iff.1 (made_of_issue hissue).1
    exact KeyAuthority.visible_ofRsa hsign
  have hshown := bearerToken?_bearerRequest hvisible
  have hanswer (clock : Clock) := userinfo_of_mint faithful_signingSample hmint
    (s := sampleState true clock) rfl (reached?_bearerRequest tokens.accessToken rfl) hshown
  have hended : Instant.lastSecond 0 60 < Instant.seconds 61 := by decide
  have hlasts : Instant.seconds 0 ≤ Instant.lastSecond 0 60 := by decide
  refine ⟨tokens.accessToken, ⟨.bearer rfl (reached?_bearerRequest _ rfl) hshown, ?_⟩,
    .bearer rfl (reached?_bearerRequest _ rfl) hshown
      (congrArg StepAnswer.response ((hanswer 8210266876860).1 hlasts)) rfl⟩
  exact congrArg StepAnswer.response ((hanswer 61).2 hended)

/-- Moved on by a second, the clock reads on, and the token stays expired. -/
theorem expiryLasts_shownTwice :
    ∃ token, (∀ step ∈ shownTwice token 1, step.Forward) ∧
      (∀ m ∈ signingSample.history (.initial .jane 0) (shownTwice token 1),
        m.before.clock.ReadsOn m.after.clock) ∧
      (∃ m ∈ signingSample.history (.initial .jane 0) (shownTwice token 1),
        m.Expires signingSample token) ∧
      ExpiryLasts signingSample (.initial .jane 0) (shownTwice token 1) := by
  obtain ⟨token, hexpires, -⟩ := exists_shownTwice
  have hforward := forward_shownTwice token (d := 1) (by decide) (by decide)
  have hstill (s : ProviderState) (r : Request) :
      s.clock.ReadsOn (signingSample.moment s (.request r)).after.clock := by
    rw [after_request, clock_respond]
    exact Clock.readsOn_refl _
  have hmoved {c : FixedClock} {d : Duration}
      (h : (c.advance d).Dated ∧ 0 ≤ (c.advance d).counter) :
      (Clock.standing c).ReadsOn ((Clock.standing c).advance d) := FixedClock.readsOn_of_dated h
  have hon : ∀ m ∈ signingSample.history (.initial .jane 0) (shownTwice token 1),
      m.before.clock.ReadsOn m.after.clock := by
    rw [history_shownTwice]
    simp only [List.forall_mem_append, List.forall_mem_cons]
    exact ⟨⟨Clock.readsOn_refl _, hstill _ _, hstill _ _, hmoved (by decide),
      List.forall_mem_nil _⟩, hstill _ _, ⟨hmoved (by decide), List.forall_mem_nil _⟩,
      hstill _ _, List.forall_mem_nil _⟩
  refine ⟨token, hforward, hon, ⟨_, ?_, hexpires⟩, (expiryLasts_iff hforward).2 hon⟩
  rw [history_shownTwice]
  exact List.mem_append_right _ List.mem_cons_self

/-- Moved on beyond the last date that can be represented, the clock reads 1970, and the token
that was told to be expired is accepted. -/
theorem accepted_after_expiry :
    ∃ token, (∀ step ∈ shownTwice token 8210266876799, step.Forward) ∧
      (∃ front m middle later,
        signingSample.history (.initial .jane 0) (shownTwice token 8210266876799) =
          front ++ m :: (middle ++ [later]) ∧
        m.reading = 61 ∧ m.Expires signingSample token ∧
        later.reading = 0 ∧ later.Accepts signingSample token) ∧
      ¬ ExpiryLasts signingSample (.initial .jane 0) (shownTwice token 8210266876799) := by
  obtain ⟨token, hexpires, haccepts⟩ := exists_shownTwice
  have hhistory := history_shownTwice token 8210266876799
  exact ⟨token, forward_shownTwice token (by decide) (by decide),
    ⟨_, _, _, _, hhistory, rfl, hexpires, rfl, haccepts⟩,
    fun hlasts => (hlasts.expired _ _ _ _ _ hhistory token hexpires).1 haccepts⟩

end Provider

end OpenIdProvider
