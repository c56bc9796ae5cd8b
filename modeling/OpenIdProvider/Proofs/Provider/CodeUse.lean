/-
  How often a code is redeemed. A code is open while a session that is not granted is stored under
  it. Only a session that begins under a code opens it, and answering with tokens for a code needs
  it open and closes it. So the number of redemptions of a code, and one more while it is open, is
  at most the number of sessions begun under it, along every run from an empty store.
-/
import OpenIdProvider.Proofs.Provider.History

namespace OpenIdProvider

open Http

/-! ## Open codes -/

namespace SessionStore

/-- A session that is not granted is stored under the code. -/
def Open (s : SessionStore) (code : String) : Prop :=
  ∃ session, s.get? code = some session ∧ session.granted = false

theorem not_open_empty (code : String) : ¬ empty.Open code := by
  rintro ⟨session, h, -⟩
  rw [get?_empty] at h
  cases h

theorem open_of_grant {s store : SessionStore} {code : String} {session : Session}
    (h : s.grant code = .ok (session, store)) : s.Open code := by
  obtain ⟨stored, hstored, hgranted, -⟩ := grant_eq_ok_iff.1 h
  exact ⟨stored, hstored, hgranted⟩

/-- Redeeming a code closes it and opens no other. -/
theorem open_grant_iff {s store : SessionStore} {code : String} {session : Session}
    (h : s.grant code = .ok (session, store)) (other : String) :
    store.Open other ↔ code ≠ other ∧ s.Open other := by
  unfold Open
  rw [grant_get? h]
  by_cases hother : code = other
  · rw [if_pos hother]
    constructor
    · rintro ⟨_, hsession, hopen⟩
      cases hsession
      rw [granted_of_grant h] at hopen
      cases hopen
    · rintro ⟨hne, -⟩
      exact absurd hother hne
  · rw [if_neg hother]
    exact ⟨fun hopen => ⟨hother, hopen⟩, fun hopen => hopen.2⟩

/-- No granted session has the empty identifier: an empty code is never redeemed. -/
def GrantedNamed (s : SessionStore) : Prop :=
  ∀ id session, s.get? id = some session → session.granted = true → id ≠ ""

theorem grantedNamed_empty : empty.GrantedNamed := by
  intro id session hsession
  rw [get?_empty] at hsession
  cases hsession

theorem grantedNamed_grant {s store : SessionStore} (h : s.GrantedNamed) {code : String}
    {session : Session} (hcode : code ≠ "") (hgrant : s.grant code = .ok (session, store)) :
    store.GrantedNamed := by
  intro id stored hstored hgranted
  rw [grant_get? hgrant] at hstored
  split at hstored
  · rename_i hid
    exact hid ▸ hcode
  · exact h id stored hstored hgranted

end SessionStore

/-! ## Tokens are answered only to who redeems -/

namespace Provider

theorem tokens_chars (tokens : TokenResponse) :
    ∃ rest, tokens.toJson.chars = '{' :: '"' :: 'a' :: rest := by
  unfold TokenResponse.toJson
  cases tokens.idToken with
  | none => exact ⟨_, rfl⟩
  | some token => exact ⟨_, rfl⟩

theorem errorBody_chars (e : ProtocolError) :
    ∃ rest, (Reply.errorBody e).chars = '{' :: '"' :: 'e' :: rest := ⟨_, rfl⟩

/-- The body of an answer with tokens begins otherwise than that of an error. -/
theorem tokens_body_ne_error (tokens : TokenResponse) (e : ProtocolError) :
    (Reply.json tokens.toJson).body ≠ (Reply.error e).body := by
  obtain ⟨rest, htokens⟩ := tokens_chars tokens
  obtain ⟨rest', herror⟩ := errorBody_chars e
  have hthird : (Reply.json tokens.toJson).body[2]? = some 97 := by
    unfold Reply.json
    rw [htokens]
    rfl
  have hthird' : (Reply.error e).body[2]? = some 101 := by
    unfold Reply.error
    rw [herror]
    rfl
  intro h
  rw [h, hthird'] at hthird
  cases hthird

theorem finish_body (endpoint : Option Endpoint) (method : Method) (response : Response) :
    (finish endpoint method response).body = [] ∨
      (finish endpoint method response).body = response.body := by
  unfold finish
  by_cases h : method = .head <;> simp [h]

theorem tokens_body_ne_nil (tokens : TokenResponse) : (Reply.json tokens.toJson).body ≠ [] := by
  obtain ⟨rest, htokens⟩ := tokens_chars tokens
  unfold Reply.json
  rw [htokens]
  nofun

/-- Neither an error nor the lack of an endpoint or method is answered with tokens. -/
theorem finish_ne_tokens {response : Response}
    (h : response = notFound ∨ response = methodNotAllowed ∨ ∃ e, response = Reply.error e)
    (endpoint : Option Endpoint) (method : Method) (tokens : TokenResponse) :
    finish endpoint method response ≠ Reply.json tokens.toJson := by
  intro heq
  have hbody := congrArg Response.body heq
  rcases finish_body endpoint method response with hempty | hsame
  · rw [hempty] at hbody
    exact tokens_body_ne_nil tokens hbody.symm
  · rw [hsame] at hbody
    rcases h with rfl | rfl | ⟨e, rfl⟩
    · exact tokens_body_ne_nil tokens hbody.symm
    · exact tokens_body_ne_nil tokens hbody.symm
    · exact tokens_body_ne_error tokens e hbody.symm

/-- Tokens for a code are made only once the code has been redeemed. -/
theorem grant_of_exchange_answered {p : Provider} {params : Params} {s : ProviderState}
    {tokens : TokenResponse} (hname : params.get "grant_type" = "authorization_code")
    (h : (p.exchange params s).1 = .answered tokens) :
    ∃ session store, s.store.grant (params.get "code") = .ok (session, store) ∧
      (p.exchange params s).2 = { s with store := store } := by
  unfold exchange at h ⊢
  split at h
  · cases h
  · rename_i grant hrequested
    obtain ⟨-, hgrant⟩ := requestedGrant_eq_ok_iff.1 hrequested
    have hcode : grant = .authorizationCode := by
      cases grant with
      | authorizationCode => rfl
      | refreshToken =>
        rw [hname] at hgrant
        exact absurd hgrant (by decide)
    subst hcode
    cases hredeem : redeem params s with
    | error e =>
      simp only [grantedSession, hredeem] at h
      cases h
    | ok redeemed =>
      obtain ⟨-, -, store, hstore, hs'⟩ := redeem_eq_ok_iff.1 hredeem
      refine ⟨redeemed.1, store, hstore, ?_⟩
      simp only [grantedSession, hredeem]
      exact hs'

/-- Who is answered with tokens for a code has redeemed it. -/
theorem grant_of_redeems {p : Provider} {s : ProviderState} {step : Step} {code : String}
    (h : (p.moment s step).Redeems code) :
    ∃ session, s.store.grant code = .ok (session, (p.moment s step).after.store) := by
  obtain ⟨r, params, tokens, hstep, hpath, hparams, hname, rfl, hanswer⟩ := h
  obtain rfl : step = .request r := hstep
  have hrespond : (p.respond r s).1 = some (Reply.json tokens.toJson) := by
    injection hanswer
  cases hreached : reached? r s with
  | none =>
    obtain ⟨response, hresponse, heq⟩ := respond_of_not_reached (p := p) hreached
    rw [heq] at hrespond
    exact absurd (Option.some.inj hrespond) (finish_ne_tokens hresponse _ _ _)
  | some e =>
    obtain rfl : e = .token :=
      Option.some.inj ((reached?_eq_some_iff.1 hreached).2.1.symm.trans hpath)
    have hserve : p.serve .token r s =
        ((p.exchange params s).1.respond (fun tokens => Reply.json tokens.toJson) Reply.error,
          (p.exchange params s).2) := by
      simp only [serve, hparams]
    rw [respond_of_reached hreached, hserve] at hrespond
    cases houtcome : (p.exchange params s).1 with
    | aborted =>
      rw [houtcome] at hrespond
      cases hrespond
    | rejected e =>
      rw [houtcome] at hrespond
      exact absurd (Option.some.inj hrespond) (finish_ne_tokens (.inr (.inr ⟨e, rfl⟩)) _ _ _)
    | answered issued =>
      obtain ⟨session, store, hgrant, hstate⟩ := grant_of_exchange_answered hname houtcome
      have hafter : (p.moment s (.request r)).after = { s with store := store } := by
        rw [← hstate]
        show (p.respond r s).2 = _
        rw [respond_of_reached hreached, hserve]
      rw [hafter]
      exact ⟨session, hgrant⟩

/-! ## Redemptions against sessions -/

/-- A moment that begins a session under a code. -/
def BeginsCode (p : Provider) (code : String) (m : Moment) : Prop :=
  ∃ session, m.Begins p session ∧ session.id = code

/-- A new session opens its code and closes no other. -/
theorem open_of_begins {p : Provider} {m : Moment} {session : Session}
    (h : m.Begins p session) (code : String) :
    m.after.store.Open code ↔ session.id = code ∨ m.before.store.Open code := by
  unfold SessionStore.Open
  rw [h.get?]
  by_cases hcode : session.id = code
  · rw [if_pos hcode]
    exact ⟨fun _ => .inl hcode, fun _ => ⟨session, rfl, h.not_granted⟩⟩
  · rw [if_neg hcode]
    exact ⟨.inr, fun hopen => hopen.resolve_left hcode⟩

/-- Only a session begun under a code opens it. -/
theorem open_before {p : Provider} {s : ProviderState} {step : Step} {code : String}
    (h : (p.moment s step).after.store.Open code) :
    p.BeginsCode code (p.moment s step) ∨ s.store.Open code := by
  cases change_moment p s step with
  | begins session hbegins =>
    rcases (open_of_begins hbegins code).1 h with hid | hopen
    · exact .inl ⟨session, hbegins, hid⟩
    · exact .inr hopen
  | spends spent session hstep hcode hgrant =>
    exact .inr ((SessionStore.open_grant_iff hgrant _).1 h).2
  | queues queued hstep hstore =>
    rw [hstore] at h
    exact .inr h
  | keeps hstep hstore =>
    rw [hstore] at h
    exact .inr h

theorem open_of_redeems {p : Provider} {s : ProviderState} {step : Step} {code : String}
    (h : (p.moment s step).Redeems code) :
    s.store.Open code ∧ ¬ (p.moment s step).after.store.Open code := by
  obtain ⟨session, hgrant⟩ := grant_of_redeems h
  refine ⟨SessionStore.open_of_grant hgrant, fun hopen => ?_⟩
  exact ((SessionStore.open_grant_iff hgrant code).1 hopen).1 rfl

/-- From a state in which a code is not open, a session begins under it before it is redeemed. -/
theorem begins_before_redeems {p : Provider} {s : ProviderState} {steps : List Step}
    {code : String} (hs : ¬ s.store.Open code) {middle : List Moment} {m : Moment}
    {back : List Moment} (h : p.history s steps = middle ++ m :: back) (hm : m.Redeems code) :
    ∃ n ∈ middle, p.BeginsCode code n := by
  induction middle generalizing s steps with
  | nil =>
    obtain ⟨step, rest, -, rfl, -⟩ := history_eq_cons h
    exact absurd (open_of_redeems hm).1 hs
  | cons n middle ih =>
    obtain ⟨step, rest, -, rfl, hrest⟩ := history_eq_cons h
    by_cases hbegins : p.BeginsCode code (p.moment s step)
    · exact ⟨_, List.mem_cons_self, hbegins⟩
    · have hafter : ¬ (p.moment s step).after.store.Open code := by
        intro hopen
        exact (open_before hopen).elim hbegins hs
      obtain ⟨n, hn, hcode⟩ := ih hafter hrest
      exact ⟨n, List.mem_cons_of_mem _ hn, hcode⟩

open Classical in
/-- How often a code can be redeemed without another session. -/
noncomputable def credit (s : ProviderState) (code : String) : Nat :=
  if s.store.Open code then 1 else 0

open Classical in
/-- The redemptions of a code and what is left of its credit never exceed the sessions begun
under it and the credit at the start. -/
theorem redeemed_add_credit_le (p : Provider) (s : ProviderState) (steps : List Step)
    (code : String) :
    (p.history s steps).countP (fun m => m.Redeems code) + credit (p.run s steps).2 code ≤
      (p.history s steps).countP (p.BeginsCode code) + credit s code := by
  induction steps generalizing s with
  | nil => exact Nat.le_refl _
  | cons step steps ih =>
    have hrest := ih (p.step s step).2
    have hrun : (p.run s (step :: steps)).2 = (p.run (p.step s step).2 steps).2 := rfl
    rw [history, List.countP_cons, List.countP_cons, hrun]
    by_cases hredeems : (p.moment s step).Redeems code
    · obtain ⟨hopen, hclosed⟩ := open_of_redeems hredeems
      have hbefore : credit s code = 1 := if_pos hopen
      have hafter : credit (p.step s step).2 code = 0 := if_neg hclosed
      simp only [hredeems, decide_true, if_true]
      omega
    · have hafter : credit (p.step s step).2 code ≤
          credit s code + if p.BeginsCode code (p.moment s step) then 1 else 0 := by
        by_cases hopen : (p.step s step).2.store.Open code
        · have h1 : credit (p.step s step).2 code = 1 := if_pos hopen
          rcases open_before hopen with hbegins | hopen'
          · rw [h1, if_pos hbegins]
            exact Nat.le_add_left _ _
          · have h2 : credit s code = 1 := if_pos hopen'
            rw [h1, h2]
            exact Nat.le_add_right _ _
        · have h0 : credit (p.step s step).2 code = 0 := if_neg hopen
          rw [h0]
          exact Nat.zero_le _
      simp only [hredeems, decide_false, decide_eq_true_eq]
      simp only [Bool.false_eq_true, if_false]
      omega

/-! ## Used codes -/

theorem grantedNamed_step {p : Provider} {s : ProviderState} (step : Step)
    (h : s.store.GrantedNamed) : (p.step s step).2.store.GrantedNamed := by
  cases change_moment p s step with
  | begins session hbegins =>
    intro id stored hstored hgranted
    have hget := hbegins.get? id
    split at hget
    · obtain rfl : session = stored := Option.some.inj (hget.symm.trans hstored)
      rw [hbegins.not_granted] at hgranted
      cases hgranted
    · exact h id stored (hget.symm.trans hstored) hgranted
  | spends code session hstep hcode hgrant =>
    exact SessionStore.grantedNamed_grant h hcode hgrant
  | queues code hstep hstore =>
    have hstore' : (p.step s step).2.store = s.store.queueCode code := hstore
    rw [hstore']
    exact h
  | keeps hstep hstore =>
    have hstore' : (p.step s step).2.store = s.store := hstore
    rw [hstore']
    exact h

/-- A token request for a code that has been redeemed is refused and changes nothing. -/
theorem respond_of_used_code {p : Provider} {s : ProviderState} (h : s.store.GrantedNamed)
    {r : Request} {params : Params} {stored : Session} (herrors : s.errors.items = [])
    (hpath : Endpoint.ofPath? r.path = some .token) (hmethod : r.method = .post)
    (hparams : exchangeParams r = .ok params) (hvalid : p.ValidCredentials params)
    (hname : params.get "grant_type" = "authorization_code")
    (hstored : s.store.get? (params.get "code") = some stored) (hgranted : stored.granted = true) :
    p.respond r s =
      (some (Reply.error (.invalidGrant ("Invalid code: " ++ params.get "code"))), s) := by
  have hserves : Endpoint.token.serves r.method = true := by rw [hmethod]; rfl
  have hcode : params.get "code" ≠ "" := h _ _ hstored hgranted
  have hexchange := exchange_of_grant_error hvalid hname hcode
    (SessionStore.grant_of_granted hstored hgranted)
  have hserve : p.serve .token r s =
      (some (Reply.error (.invalidGrant ("Invalid code: " ++ params.get "code"))), s) := by
    simp only [serve, hparams, hexchange]
    rfl
  rw [respond_of_reached (reached?_eq_some_iff.2 ⟨herrors, hpath, hserves⟩), hserve, hmethod]
  rfl

open Classical in
/-- What holds of a code over a run: two redemptions have a session begun under the code between
them, so there are no more redemptions than sessions; and while the session stored under the code
is granted, a request for the code with the right credentials is refused without any change. -/
structure SingleUse (p : Provider) (moments : List Moment) (final : ProviderState)
    (code : String) : Prop where
  begunBetween : ∀ front m middle m' back, moments = front ++ m :: (middle ++ m' :: back) →
    m.Redeems code → m'.Redeems code → ∃ n ∈ middle, p.BeginsCode code n
  redeemed_le : moments.countP (fun m => m.Redeems code) ≤ moments.countP (p.BeginsCode code)
  refused : ∀ r params stored, final.errors.items = [] →
    Endpoint.ofPath? r.path = some .token → r.method = .post →
    exchangeParams r = .ok params → p.ValidCredentials params →
    params.get "grant_type" = "authorization_code" → params.get "code" = code →
    final.store.get? code = some stored → stored.granted = true →
    p.respond r final = (some (Reply.error (.invalidGrant ("Invalid code: " ++ code))), final)

/-- Every code is used once for each session begun under it, in every run of a provider whose
store is empty at the start. -/
theorem code_singleUse (p : Provider) (users : UserSupply) (errors : Queue ProtocolError)
    (clock : Clock) (steps : List Step) (code : String) :
    SingleUse p (p.history ⟨.empty, users, errors, clock⟩ steps)
      (p.run ⟨.empty, users, errors, clock⟩ steps).2 code := by
  refine ⟨?_, ?_, ?_⟩
  · intro front m middle m' back h hm hm'
    obtain ⟨first, second, -, -, hsecond⟩ := split_history h
    obtain ⟨step, rest, -, rfl, hrest⟩ := history_eq_cons hsecond
    exact begins_before_redeems (open_of_redeems hm).2 hrest hm'
  · have hle := redeemed_add_credit_le p ⟨.empty, users, errors, clock⟩ steps code
    have hstart : credit ⟨.empty, users, errors, clock⟩ code = 0 :=
      if_neg (SessionStore.not_open_empty code)
    omega
  · intro r params stored herrors hpath hmethod hparams hvalid hname hcode hstored hgranted
    have hnamed : (p.run ⟨.empty, users, errors, clock⟩ steps).2.store.GrantedNamed :=
      run_induction (P := fun s => s.store.GrantedNamed) (fun s => grantedNamed_step)
        SessionStore.grantedNamed_empty steps
    subst hcode
    exact respond_of_used_code hnamed herrors hpath hmethod hparams hvalid hname hstored hgranted

end Provider

end OpenIdProvider
