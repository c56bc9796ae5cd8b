/-
  Queued errors. A request that arrives while an error waits takes the oldest one as its answer
  and does nothing else. So the errors are answered in the order in which they were queued, and a
  run goes on as if neither they nor the requests that took them had been there: without these
  steps it has the same other answers and ends in the same state.
-/
import OpenIdProvider.Proofs.Json.Value
import OpenIdProvider.Proofs.Provider.History

namespace OpenIdProvider

open Http

/-- The errors that the steps of a run queue, in order. -/
def queuedErrors (steps : List Step) : List ProtocolError :=
  steps.filterMap fun
    | .queueError e => some e
    | _ => none

/-- A state in which no error waits. -/
def ProviderState.withoutErrors (s : ProviderState) : ProviderState :=
  { s with errors := .empty }

namespace Moment

/-- A request that arrives while an error waits. -/
def fails (m : Moment) : Bool :=
  match m.step with
  | .request _ => !m.before.errors.items.isEmpty
  | _ => false

/-- A moment that only puts an error into the queue or takes one from it. -/
def isAside (m : Moment) : Bool :=
  match m.step with
  | .queueError _ => true
  | _ => m.fails

end Moment

/-- A response that tells of an error: its status, and but for HEAD its kind and description. To
HEAD the header fields are the same, and nothing follows them. -/
structure Tells (method : Method) (e : ProtocolError) (response : Response) : Prop where
  status : response.status = e.status
  headers : ∀ field ∈ (Reply.error e).headers, field ∈ response.headers
  body : method ≠ .head → Json.parse response.body =
    .ok (.object [("error", .string e.kind.name), ("error_description", .string e.description)])
  noBody : method = .head → response.body = []

/-- A request that is answered with an error. -/
def Moment.FailsWith (m : Moment) (e : ProtocolError) : Prop :=
  ∃ r response, m.step = .request r ∧ m.answer = .response (some response) ∧
    Tells r.method e response

namespace Provider

/-- The steps of a run that neither queue an error nor are answered with a queued one. -/
def otherSteps (p : Provider) (s : ProviderState) (steps : List Step) : List Step :=
  ((p.history s steps).filter fun m => !m.isAside).map Moment.step

/-! ## Errors answer in order -/

/-- The body of an error is read as its kind and its description. -/
theorem parse_errorBody (e : ProtocolError) :
    Json.parse (Utf8.encodeChars (Reply.errorBody e).chars) = .ok (Reply.errorBody e) := by
  refine Json.parse_chars ⟨?_, ?_⟩
  · exact List.pairwise_pair.2 (by decide : ("error" : String) < "error_description")
  · intro m hm
    simp only [List.mem_cons, List.not_mem_nil, or_false] at hm
    rcases hm with rfl | rfl
    · exact Json.readable_string _ _
    · exact Json.readable_string _ _

theorem tells_finish (endpoint : Option Endpoint) (method : Method) (e : ProtocolError) :
    Tells method e (finish endpoint method (Reply.error e)) := by
  refine ⟨rfl, ?_, ?_, ?_⟩
  · intro field hfield
    unfold finish
    split
    · split
      · exact hfield
      · exact List.mem_append_left _ hfield
    · exact hfield
  · intro hmethod
    unfold finish
    rw [if_neg hmethod]
    exact parse_errorBody e
  · intro hmethod
    unfold finish
    rw [if_pos hmethod]

theorem errors_of_effect {p : Provider} {r : Request} {s s' : ProviderState}
    (h : Effect p r s s') : s'.errors.items = s.errors.items.tail := by
  cases h with
  | begins reached accepted =>
    show s.errors.items = s.errors.items.tail
    rw [(reached?_eq_some_iff.1 reached).1]
    rfl
  | spends reached presented grant =>
    show s.errors.items = s.errors.items.tail
    rw [(reached?_eq_some_iff.1 reached).1]
    rfl
  | keeps notAccepted notGranted => exact Queue.pop_snd_items _

/-- The oldest error answers a request, and the others wait on. -/
theorem fails_request (p : Provider) {s : ProviderState} (r : Request) {e : ProtocolError}
    {errors : List ProtocolError} (h : s.errors.items = e :: errors) :
    (p.moment s (.request r)).fails = true ∧ (p.moment s (.request r)).FailsWith e ∧
      (p.moment s (.request r)).after = { s with errors := ⟨errors⟩ } := by
  have hrespond := respond_of_waiting p r h
  refine ⟨?_, ⟨r, _, rfl, ?_, tells_finish (Endpoint.ofPath? r.path) r.method e⟩, ?_⟩
  · show (!s.errors.items.isEmpty) = true
    rw [h]
    rfl
  · rw [answer_request, hrespond]
  · rw [after_request, hrespond]

/-- Where no error waits, a request is none that fails, and none waits after it. -/
theorem not_fails_request (p : Provider) {s : ProviderState} (r : Request)
    (h : s.errors.items = []) :
    (p.moment s (.request r)).fails = false ∧
      (p.moment s (.request r)).after.errors.items = [] := by
  constructor
  · show (!s.errors.items.isEmpty) = false
    rw [h]
    rfl
  · rw [after_request, errors_of_effect (respond_effect p r s), h]
    rfl

/-- The requests that fail in a run are answered with the errors in the order in which these were
queued; the others still wait at its end. -/
theorem failed_answers (p : Provider) (s : ProviderState) (steps : List Step) :
    ∃ errors, List.Forall₂ Moment.FailsWith ((p.history s steps).filter Moment.fails) errors ∧
      errors ++ (p.run s steps).2.errors.items = s.errors.items ++ queuedErrors steps := by
  induction steps generalizing s with
  | nil => exact ⟨[], .nil, (List.append_nil _).symm⟩
  | cons step steps ih =>
    obtain ⟨errors, hanswers, hqueue⟩ := ih (p.moment s step).after
    rw [history_cons, run_cons]
    have other (hfails : (p.moment s step).fails = false)
        (herrors : (p.moment s step).after.errors.items ++ queuedErrors steps =
          s.errors.items ++ queuedErrors (step :: steps)) :
        ∃ errors, List.Forall₂ Moment.FailsWith ((p.moment s step ::
            p.history (p.moment s step).after steps).filter Moment.fails) errors ∧
          errors ++ (p.run (p.moment s step).after steps).2.errors.items =
            s.errors.items ++ queuedErrors (step :: steps) := by
      refine ⟨errors, ?_, hqueue.trans herrors⟩
      rwa [List.filter_cons_of_neg (by rw [hfails]; exact Bool.false_ne_true)]
    cases step with
    | request r =>
      cases herrors : s.errors.items with
      | nil =>
        obtain ⟨hfails, hnone⟩ := not_fails_request p r herrors
        rw [← herrors]
        exact other hfails (by rw [hnone, herrors]; rfl)
      | cons e waiting =>
        obtain ⟨hfails, hanswer, hafter⟩ := fails_request p r herrors
        refine ⟨e :: errors, ?_, ?_⟩
        · rw [List.filter_cons_of_pos hfails]
          exact .cons hanswer hanswers
        · rw [List.cons_append, hqueue, hafter]
          rfl
    | queueError e =>
      refine other rfl ?_
      show s.errors.items ++ [e] ++ queuedErrors steps = _
      rw [List.append_assoc]
      rfl
    | queueUser u => exact other rfl rfl
    | queueCode code => exact other rfl rfl
    | advance d => exact other rfl rfl
    | setClock t => exact other rfl rfl
    | tick t => exact other rfl rfl

/-! ## The other steps -/

theorem grantedSession_withoutErrors (p : Provider) (grant : GrantType) (params : Params)
    (s : ProviderState) :
    p.grantedSession grant params s.withoutErrors =
      (p.grantedSession grant params s).map fun granted =>
        (granted.1, granted.2.withoutErrors) := by
  cases grant with
  | authorizationCode =>
    have hstore : s.withoutErrors.store = s.store := rfl
    simp only [grantedSession, redeem, hstore]
    cases Validation.requireAll params ["code"] with
    | error e => rfl
    | ok _ =>
      cases requireGrant params .authorizationCode with
      | error e => rfl
      | ok _ =>
        cases s.store.grant (params.get "code") with
        | error e => rfl
        | ok granted => rfl
  | refreshToken =>
    have hresume : p.resume params s.withoutErrors = p.resume params s := rfl
    simp only [grantedSession, hresume]
    cases p.resume params s with
    | error e => rfl
    | ok session => rfl

/-- No endpoint looks at the errors that wait. -/
theorem serve_withoutErrors (p : Provider) (e : Endpoint) (r : Request) (s : ProviderState) :
    p.serve e r s.withoutErrors = ((p.serve e r s).1, (p.serve e r s).2.withoutErrors) := by
  cases e with
  | authorization =>
    simp only [serve]
    cases Params.ofRequest r.headers r.query r.body with
    | error e => rfl
    | ok params =>
      simp only [authorize]
      cases p.requestedScopes params with
      | error e => rfl
      | ok scopes =>
        have hsession : (p.beginSession scopes (params.optional "nonce") s.withoutErrors).1 =
            (p.beginSession scopes (params.optional "nonce") s).1 := rfl
        simp only [hsession]
        cases Redirect.location (params.get "redirect_uri")
            (p.beginSession scopes (params.optional "nonce") s).1.id (params.get "state") with
        | error e => rfl
        | ok location => rfl
  | token =>
    simp only [serve]
    cases exchangeParams r with
    | error e => rfl
    | ok params =>
      simp only [exchange]
      cases p.requestedGrant params with
      | error e => rfl
      | ok grant =>
        simp only [grantedSession_withoutErrors]
        cases p.grantedSession grant params s with
        | error e => rfl
        | ok granted => rfl
  | userinfo => rfl
  | discovery => rfl
  | keys => rfl

theorem respond_withoutErrors (p : Provider) (r : Request) {s : ProviderState}
    (h : s.errors.items = []) :
    p.respond r s.withoutErrors = ((p.respond r s).1, (p.respond r s).2.withoutErrors) := by
  have hpop : s.withoutErrors.errors.pop = (none, .empty) := rfl
  unfold respond
  rw [hpop, pop_of_items_nil h]
  cases Endpoint.ofPath? r.path with
  | none => rfl
  | some e =>
    by_cases hserves : e.serves r.method = true
    · simp only [hserves, if_true, serve_withoutErrors]
    · simp only [hserves, Bool.false_eq_true, if_false]

/-- A moment aside changes nothing but the errors. -/
theorem after_of_isAside {p : Provider} {s : ProviderState} {step : Step}
    (h : (p.moment s step).isAside = true) :
    (p.moment s step).after.withoutErrors = s.withoutErrors := by
  cases step with
  | request r =>
    cases herrors : s.errors.items with
    | nil =>
      have hfails : (p.moment s (.request r)).fails = true := h
      rw [(not_fails_request p r herrors).1] at hfails
      cases hfails
    | cons e errors =>
      rw [(fails_request p r herrors).2.2]
      rfl
  | queueError e => rfl
  | queueUser u => cases h
  | queueCode code => cases h
  | advance d => cases h
  | setClock t => cases h
  | tick t => cases h

/-- Any other step does the same where no error waits. -/
theorem step_withoutErrors {p : Provider} {s : ProviderState} {step : Step}
    (h : (p.moment s step).isAside = false) :
    p.step s.withoutErrors step =
      ((p.moment s step).answer, (p.moment s step).after.withoutErrors) := by
  cases step with
  | request r =>
    cases herrors : s.errors.items with
    | nil =>
      show (StepAnswer.response (p.respond r s.withoutErrors).1,
        (p.respond r s.withoutErrors).2) = _
      rw [respond_withoutErrors p r herrors]
      rfl
    | cons e errors =>
      have hfails : (p.moment s (.request r)).fails = false := h
      rw [(fails_request p r herrors).1] at hfails
      cases hfails
  | queueError e => cases h
  | queueUser u => rfl
  | queueCode code => rfl
  | advance d => rfl
  | setClock t => rfl
  | tick t => rfl

theorem run_eq_cons (p : Provider) (s : ProviderState) (step : Step) (steps : List Step) :
    p.run s (step :: steps) =
      ((p.step s step).1 :: (p.run (p.step s step).2 steps).1,
        (p.run (p.step s step).2 steps).2) := rfl

/-- Without the moments aside a run has the other answers, and it ends in the same state. -/
theorem run_otherSteps (p : Provider) (s : ProviderState) (steps : List Step) :
    p.run s.withoutErrors (p.otherSteps s steps) =
      (((p.history s steps).filter fun m => !m.isAside).map Moment.answer,
        (p.run s steps).2.withoutErrors) := by
  induction steps generalizing s with
  | nil => rfl
  | cons step steps ih =>
    have hrest := ih (p.moment s step).after
    unfold otherSteps at hrest ⊢
    rw [history_cons, run_cons]
    cases haside : (p.moment s step).isAside with
    | true =>
      simp only [List.filter_cons, haside, Bool.not_true, Bool.false_eq_true, if_false]
      rw [← hrest, after_of_isAside haside]
    | false =>
      simp only [List.filter_cons, haside, Bool.not_false, if_true, List.map_cons]
      have hsame : (p.moment s step).step = step := rfl
      rw [run_eq_cons, hsame, step_withoutErrors haside, hrest]

/-! ## Runs with queued errors -/

/-- What queued errors do to a run. The requests that arrive while an error waits are answered with
the errors in the order in which these were queued, and what is left of the errors waits at the
end. Without the steps that queue errors and without these requests, the run has the same other
answers and ends in the same state. -/
structure ErrorsAside (p : Provider) (s : ProviderState) (steps : List Step) : Prop where
  answered : ∃ errors,
    List.Forall₂ Moment.FailsWith ((p.history s steps).filter Moment.fails) errors ∧
      errors ++ (p.run s steps).2.errors.items = s.errors.items ++ queuedErrors steps
  others : p.run s.withoutErrors (p.otherSteps s steps) =
    (((p.history s steps).filter fun m => !m.isAside).map Moment.answer,
      (p.run s steps).2.withoutErrors)

theorem queuedErrors_aside (p : Provider) (s : ProviderState) (steps : List Step) :
    ErrorsAside p s steps :=
  ⟨failed_answers p s steps, run_otherSteps p s steps⟩

/-- A run in which a HEAD request arrives while an error waits. -/
def headRun (e : ProtocolError) : List StepAnswer × ProviderState :=
  sample.run (.initial .jane 0)
    [.queueError e, .request ⟨.head, "/oidc/authorize", none, [], []⟩]

/-- The HEAD request takes the error from the queue, and its answer does not tell which it was: it
is the same for two errors of different kinds and descriptions. -/
theorem headRun_omits_error :
    (∃ response, (headRun (.invalidRequest "first")).1 = [.done, .response (some response)] ∧
        response.body = []) ∧
      (headRun (.invalidRequest "first")).2.errors.items = [] ∧
      (headRun (.invalidRequest "first")).1 = (headRun (.invalidScope "second")).1 :=
  ⟨⟨_, rfl, rfl⟩, rfl, rfl⟩

end Provider

end OpenIdProvider
