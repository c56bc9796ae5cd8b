/-
  When the stored sessions last. A session takes the place of an earlier one of its identifier, so
  whether sessions stay as they were rests on where identifiers come from: the codes taken from
  the queue and the random ones drawn, together `usedIds`. These are the identifiers under which
  sessions are stored, and no session is ever replaced exactly when they are distinct. As long as
  none is, a stored session changes only by being granted, and a spent code stays spent.
-/
import Mathlib.Data.List.Induction
import OpenIdProvider.Proofs.Provider.CodeUse

namespace OpenIdProvider

open Http

/-- One session at two times: it may have been granted between them, and nothing else changes. -/
structure Session.Kept (old new : Session) : Prop where
  same : new = { old with granted := new.granted }
  granted : old.granted = true → new.granted = true

namespace Session

theorem Kept.refl (session : Session) : session.Kept session :=
  ⟨rfl, fun h => h⟩

theorem Kept.trans {first second third : Session} (h : first.Kept second)
    (h' : second.Kept third) : first.Kept third := by
  refine ⟨?_, fun hgranted => h'.granted (h.granted hgranted)⟩
  rw [h'.same, h.same]

end Session

namespace Moment

/-- A moment at which a code is exchanged. -/
def Spends (m : Moment) (code : String) : Prop :=
  ∃ session, m.before.store.grant code = .ok (session, m.after.store)

/-- A moment that replaces no session. -/
def Fresh (p : Provider) (m : Moment) : Prop :=
  ∀ session, m.Begins p session → m.before.store.get? session.id = none

end Moment

namespace Provider

/-! ## Sessions that are not replaced -/

/-- A step that begins no session under an identifier keeps the one that is stored there. -/
theorem kept_step {p : Provider} {s : ProviderState} {step : Step} {id : String}
    (hbegins : ¬ p.BeginsCode id (p.moment s step)) {old : Session}
    (h : s.store.get? id = some old) :
    ∃ new, (p.moment s step).after.store.get? id = some new ∧ old.Kept new := by
  cases change_moment p s step with
  | begins session hsession =>
    have hne : session.id ≠ id := fun hid => hbegins ⟨session, hsession, hid⟩
    refine ⟨old, ?_, .refl old⟩
    rw [hsession.get?, if_neg hne]
    exact h
  | spends code session hstep hcode hgrant =>
    rw [SessionStore.grant_get? hgrant]
    obtain ⟨stored, hstored, -, rfl, -⟩ := SessionStore.grant_eq_ok_iff.1 hgrant
    by_cases hid : code = id
    · obtain rfl : stored = old := by
        rw [hid] at hstored
        exact Option.some.inj (hstored.symm.trans h)
      rw [if_pos hid]
      exact ⟨_, rfl, rfl, fun _ => rfl⟩
    · rw [if_neg hid]
      exact ⟨old, h, .refl old⟩
  | queues code hstep hstore =>
    rw [hstore]
    exact ⟨old, h, .refl old⟩
  | keeps hstep hstore =>
    rw [hstore]
    exact ⟨old, h, .refl old⟩

/-- A session is kept until one is begun again under its identifier. -/
theorem kept_run {p : Provider} {s : ProviderState} {steps : List Step} {id : String}
    (hbegins : ∀ m ∈ p.history s steps, ¬ p.BeginsCode id m) {old : Session}
    (h : s.store.get? id = some old) :
    ∃ new, (p.run s steps).2.store.get? id = some new ∧ old.Kept new := by
  induction steps generalizing s old with
  | nil => exact ⟨old, h, .refl old⟩
  | cons step steps ih =>
    rw [history] at hbegins
    obtain ⟨new, hnew, hkept⟩ := kept_step (hbegins _ List.mem_cons_self) h
    obtain ⟨last, hlast, hkept'⟩ := ih (fun m hm => hbegins m (List.mem_cons_of_mem _ hm)) hnew
    exact ⟨last, hlast, hkept.trans hkept'⟩

/-- Where no session is replaced, none is begun again under the identifier of a stored one. -/
theorem not_beginsCode_of_fresh {p : Provider} {s : ProviderState} {steps : List Step}
    (hfresh : ∀ m ∈ p.history s steps, m.Fresh p) {id : String} {old : Session}
    (h : s.store.get? id = some old) : ∀ m ∈ p.history s steps, ¬ p.BeginsCode id m := by
  induction steps generalizing s old with
  | nil => exact fun m hm => absurd hm List.not_mem_nil
  | cons step steps ih =>
    rw [history, List.forall_mem_cons] at hfresh ⊢
    have hfirst : ¬ p.BeginsCode id (p.moment s step) := by
      rintro ⟨session, hbegins, rfl⟩
      have hnone : s.store.get? session.id = none := hfresh.1 session hbegins
      rw [hnone] at h
      cases h
    obtain ⟨new, hnew, -⟩ := kept_step hfirst h
    exact ⟨hfirst, ih hfresh.2 hnew⟩

/-- Where no session is replaced, a stored session is kept at every moment. -/
theorem kept_of_mem {p : Provider} {s : ProviderState} {steps : List Step}
    (hfresh : ∀ m ∈ p.history s steps, m.Fresh p) {id : String} {old : Session}
    (h : s.store.get? id = some old) {m : Moment} (hm : m ∈ p.history s steps) :
    ∃ new, m.after.store.get? id = some new ∧ old.Kept new := by
  have hbegins := not_beginsCode_of_fresh hfresh h
  obtain ⟨front, back, hsplit⟩ := List.append_of_mem hm
  obtain ⟨first, second, -, hfirst, hsecond⟩ := split_history hsplit
  obtain ⟨step, rest, -, rfl, -⟩ := history_eq_cons hsecond
  have hbefore : ∀ n ∈ p.history s first, ¬ p.BeginsCode id n := by
    intro n hn
    refine hbegins n ?_
    rw [hsplit, ← hfirst]
    exact List.mem_append_left _ hn
  obtain ⟨middle, hmiddle, hkept⟩ := kept_run hbefore h
  obtain ⟨last, hlast, hkept'⟩ := kept_step (hbegins _ hm) hmiddle
  exact ⟨last, hlast, hkept.trans hkept'⟩

/-- While no session is replaced, a granted session stays granted. -/
theorem spent_run {p : Provider} {s : ProviderState} {steps : List Step}
    (hfresh : ∀ m ∈ p.history s steps, m.Fresh p) {code : String} {stored : Session}
    (h : s.store.get? code = some stored) (hgranted : stored.granted = true) {m : Moment}
    (hm : m ∈ p.history s steps) : m.after.store.grant code = .error (.alreadyGranted code) := by
  obtain ⟨new, hnew, hkept⟩ := kept_of_mem hfresh h hm
  exact SessionStore.grant_of_granted hnew (hkept.granted hgranted)

/-- What a run promises of its sessions: a new session never takes the identifier of a stored one,
every stored session is kept at all later moments, and a code that was exchanged is refused from
then on. -/
structure SessionsStay (p : Provider) (moments : List Moment) : Prop where
  fresh : ∀ m ∈ moments, ∀ session, m.Begins p session → m.before.store.get? session.id = none
  kept : ∀ front m back, moments = front ++ m :: back → ∀ id old,
    m.before.store.get? id = some old → ∀ later ∈ m :: back,
      ∃ new, later.after.store.get? id = some new ∧ old.Kept new
  spent : ∀ front m back, moments = front ++ m :: back → ∀ code, m.Spends code →
    ∀ later ∈ m :: back, later.after.store.grant code = .error (.alreadyGranted code)

theorem sessionsStay_of_fresh {p : Provider} {s : ProviderState} {steps : List Step}
    (hfresh : ∀ m ∈ p.history s steps, m.Fresh p) : SessionsStay p (p.history s steps) := by
  refine ⟨hfresh, ?_, ?_⟩
  · intro front m back h id old hold later hlater
    obtain ⟨first, second, -, -, hsecond⟩ := split_history h
    have hm : (p.run s first).2 = m.before := by
      obtain ⟨step, rest, -, rfl, -⟩ := history_eq_cons hsecond
      rfl
    rw [← hm] at hold
    rw [← hsecond] at hlater
    refine kept_of_mem (fun n hn => hfresh n ?_) hold hlater
    rw [h, ← hsecond]
    exact List.mem_append_right _ hn
  · intro front m back h code hspends later hlater
    obtain ⟨first, second, -, -, hsecond⟩ := split_history h
    obtain ⟨step, rest, -, rfl, hrest⟩ := history_eq_cons hsecond
    obtain ⟨session, hgrant⟩ := hspends
    have hstored := SessionStore.grant_get? hgrant code
    rw [if_pos rfl] at hstored
    have hgranted := SessionStore.granted_of_grant hgrant
    rcases List.mem_cons.1 hlater with rfl | hlater
    · exact SessionStore.grant_of_granted hstored hgranted
    · rw [← hrest] at hlater
      refine spent_run (fun n hn => hfresh n ?_) hstored hgranted hlater
      rw [h, ← hrest]
      exact List.mem_append_right _ (List.mem_cons_of_mem _ hn)

/-! ## Where identifiers come from -/

end Provider

/-- The codes that the steps of a run queue, in order. -/
def queuedCodes (steps : List Step) : List String :=
  steps.filterMap fun
    | .queueCode code => some code
    | _ => none

namespace Provider

/-- The codes that have left the queue after some steps. -/
def takenCodes (steps : List Step) (s : ProviderState) : List String :=
  (queuedCodes steps).take ((queuedCodes steps).length - s.store.codes.items.length)

/-- The random identifiers drawn so far. -/
def drawnIds (p : Provider) (s : ProviderState) : List String :=
  (List.range s.store.drawn).map p.randomId

/-- The identifiers used so far. -/
def usedIds (p : Provider) (steps : List Step) (s : ProviderState) : List String :=
  takenCodes steps s ++ p.drawnIds s

theorem queuedCodes_append (first second : List Step) :
    queuedCodes (first ++ second) = queuedCodes first ++ queuedCodes second :=
  List.filterMap_append

theorem queuedCodes_of_not_queueCode {step : Step} (h : ∀ code, step ≠ .queueCode code)
    (steps : List Step) : queuedCodes (steps ++ [step]) = queuedCodes steps := by
  rw [queuedCodes_append]
  cases step with
  | queueCode code => exact absurd rfl (h code)
  | request r => exact List.append_nil _
  | queueUser u => exact List.append_nil _
  | queueError e => exact List.append_nil _
  | advance d => exact List.append_nil _
  | setClock t => exact List.append_nil _
  | tick t => exact List.append_nil _

/-- Codes leave the queue in the order in which they were queued. -/
theorem takenCodes_append {steps : List Step} {s : ProviderState}
    (h : s.store.codes.items <:+ queuedCodes steps) :
    takenCodes steps s ++ s.store.codes.items = queuedCodes steps :=
  List.suffix_iff_eq_append.1 h

/-- Which codes have left is known from those that wait. -/
theorem takenCodes_eq {steps : List Step} {s : ProviderState} {codes : List String}
    (h : codes ++ s.store.codes.items = queuedCodes steps) : takenCodes steps s = codes := by
  have happend := takenCodes_append ⟨codes, h⟩
  rw [← h] at happend
  exact List.append_cancel_right happend

end Provider

/-- A new session uses up the oldest code that waits, or else a random identifier. -/
theorem Moment.Begins.uses {p : Provider} {m : Moment} {session : Session}
    (h : m.Begins p session) :
    (m.before.store.codes.items = session.id :: m.after.store.codes.items ∧
        m.after.store.drawn = m.before.store.drawn) ∨
      (session.id = p.randomId m.before.store.drawn ∧
        m.after.store.codes.items = m.before.store.codes.items ∧
        m.after.store.drawn = m.before.store.drawn + 1) := by
  obtain ⟨hid, hcodes, hdrawn⟩ := h.nextId
  cases hitems : m.before.store.codes.items with
  | nil =>
    rw [SessionStore.nextId_nil p.randomId hitems] at hid hcodes hdrawn
    refine .inr ⟨hid.symm, ?_, hdrawn⟩
    rw [hcodes]
    exact hitems
  | cons code codes =>
    rw [SessionStore.nextId_cons p.randomId hitems] at hid hcodes hdrawn
    refine .inl ⟨?_, hdrawn⟩
    rw [hcodes, ← hid]

/-- The identifier of a new session is determined by the state. -/
theorem Moment.Begins.id_unique {p : Provider} {m : Moment} {first second : Session}
    (h : m.Begins p first) (h' : m.Begins p second) : first.id = second.id :=
  h.nextId.1.symm.trans h'.nextId.1

/-- A moment begins one session. -/
theorem Moment.Begins.unique {p : Provider} {m : Moment} {first second : Session}
    (h : m.Begins p first) (h' : m.Begins p second) : first = second := by
  have hfirst := h.get? first.id
  rw [if_pos rfl, h'.get?, if_pos (h'.id_unique h)] at hfirst
  exact (Option.some.inj hfirst).symm

namespace Provider

/-- The accounts of a run: what waits is the end of what was queued, and sessions are stored under
the identifiers used so far. -/
structure Accounted (p : Provider) (steps : List Step) (s : ProviderState) : Prop where
  waiting : s.store.codes.items <:+ queuedCodes steps
  stored : ∀ id, (s.store.get? id).isSome = true ↔ id ∈ p.usedIds steps s

theorem drawnIds_succ (p : Provider) {s s' : ProviderState}
    (h : s'.store.drawn = s.store.drawn + 1) :
    p.drawnIds s' = p.drawnIds s ++ [p.randomId s.store.drawn] := by
  unfold drawnIds
  rw [h, List.range_succ, List.map_append]
  rfl

/-- A new session adds its identifier to the accounts. -/
theorem usedIds_of_begins {p : Provider} {s : ProviderState} {steps : List Step} {step : Step}
    {session : Session} (h : s.store.codes.items <:+ queuedCodes steps)
    (hbegins : (p.moment s step).Begins p session) :
    (p.moment s step).after.store.codes.items <:+ queuedCodes (steps ++ [step]) ∧
      (p.usedIds (steps ++ [step]) (p.moment s step).after).Perm
        (session.id :: p.usedIds steps s) := by
  have hqueued : queuedCodes (steps ++ [step]) = queuedCodes steps := by
    obtain ⟨r, -, -, hstep, -⟩ := hbegins
    obtain rfl : step = .request r := hstep
    have hne : ∀ code, Step.request r ≠ .queueCode code := nofun
    exact queuedCodes_of_not_queueCode hne steps
  have htaken := takenCodes_append h
  rcases hbegins.uses with ⟨hitems, hdrawn⟩ | ⟨hid, hitems, hdrawn⟩
  · have hitems' : s.store.codes.items =
        session.id :: (p.moment s step).after.store.codes.items := hitems
    have htaken' : (takenCodes steps s ++ [session.id]) ++
        (p.moment s step).after.store.codes.items = queuedCodes (steps ++ [step]) := by
      rw [hqueued, ← htaken, hitems', List.append_assoc]
      rfl
    refine ⟨⟨_, htaken'⟩, ?_⟩
    have hdrawn' : p.drawnIds (p.moment s step).after = p.drawnIds s := by
      unfold drawnIds
      rw [hdrawn]
      rfl
    unfold usedIds
    rw [takenCodes_eq htaken', hdrawn', List.append_assoc]
    exact List.perm_middle
  · have htaken' : takenCodes steps s ++ (p.moment s step).after.store.codes.items =
        queuedCodes (steps ++ [step]) := by
      rw [hitems, hqueued]
      exact htaken
    refine ⟨⟨_, htaken'⟩, ?_⟩
    unfold usedIds
    rw [takenCodes_eq htaken', drawnIds_succ p hdrawn, ← List.append_assoc, ← hid]
    exact List.perm_append_singleton _ _

/-- Any other step leaves the accounts as they are. -/
theorem usedIds_of_not_begins {p : Provider} {s : ProviderState} {steps : List Step} {step : Step}
    (h : s.store.codes.items <:+ queuedCodes steps)
    (hbegins : ∀ session, ¬ (p.moment s step).Begins p session) :
    (p.moment s step).after.store.codes.items <:+ queuedCodes (steps ++ [step]) ∧
      p.usedIds (steps ++ [step]) (p.moment s step).after = p.usedIds steps s ∧
      ∀ id, ((p.moment s step).after.store.get? id).isSome = (s.store.get? id).isSome := by
  have htaken := takenCodes_append h
  have accounts (hitems : takenCodes steps s ++ (p.moment s step).after.store.codes.items =
        queuedCodes (steps ++ [step]))
      (hdrawn : (p.moment s step).after.store.drawn = s.store.drawn) :
      (p.moment s step).after.store.codes.items <:+ queuedCodes (steps ++ [step]) ∧
        p.usedIds (steps ++ [step]) (p.moment s step).after = p.usedIds steps s := by
    refine ⟨⟨_, hitems⟩, ?_⟩
    unfold usedIds drawnIds
    rw [takenCodes_eq hitems, hdrawn]
  cases change_moment p s step with
  | begins session h' => exact absurd h' (hbegins session)
  | spends code session hstep hcode hgrant =>
    obtain ⟨hcodes, hdrawn⟩ := SessionStore.grant_codes hgrant
    have hqueued : queuedCodes (steps ++ [step]) = queuedCodes steps :=
      queuedCodes_of_not_queueCode hstep steps
    obtain ⟨hwaiting, hused⟩ := accounts (by rw [hcodes, hqueued]; exact htaken) hdrawn
    exact ⟨hwaiting, hused, SessionStore.isSome_get?_of_grant hgrant⟩
  | queues code hstep hstore =>
    obtain rfl : step = .queueCode code := hstep
    obtain ⟨hwaiting, hused⟩ := accounts
      (by
        rw [queuedCodes_append, ← htaken, hstore]
        exact (List.append_assoc _ _ _).symm)
      (by rw [hstore]; rfl)
    exact ⟨hwaiting, hused, fun id => by rw [hstore]; rfl⟩
  | keeps hstep hstore =>
    have hqueued : queuedCodes (steps ++ [step]) = queuedCodes steps :=
      queuedCodes_of_not_queueCode hstep steps
    obtain ⟨hwaiting, hused⟩ := accounts (by rw [hstore, hqueued]; exact htaken)
      (by rw [hstore]; rfl)
    exact ⟨hwaiting, hused, fun id => by rw [hstore]; rfl⟩

theorem accounted_run (p : Provider) {s : ProviderState} (h : s.store = .empty)
    (steps : List Step) : p.Accounted steps (p.run s steps).2 := by
  induction steps using List.reverseRecOn with
  | nil =>
    refine ⟨?_, fun id => ?_⟩
    · show s.store.codes.items <:+ []
      rw [h]
      exact List.suffix_refl _
    · show (s.store.get? id).isSome = true ↔ id ∈ p.usedIds [] s
      unfold usedIds takenCodes drawnIds
      rw [h]
      show false = true ↔ id ∈ []
      simp
  | append_singleton steps step ih =>
    rw [run_append]
    show p.Accounted (steps ++ [step]) (p.moment (p.run s steps).2 step).after
    by_cases hbegins : ∃ session, (p.moment (p.run s steps).2 step).Begins p session
    · obtain ⟨session, hbegins⟩ := hbegins
      obtain ⟨hwaiting, hused⟩ := usedIds_of_begins ih.waiting hbegins
      refine ⟨hwaiting, fun id => ?_⟩
      rw [hbegins.get?, hused.mem_iff, List.mem_cons, ← ih.stored]
      by_cases hid : session.id = id
      · simp [hid]
      · rw [if_neg hid]
        exact ⟨.inr, fun h => h.resolve_left (Ne.symm hid)⟩
    · obtain ⟨hwaiting, hused, hstored⟩ :=
        usedIds_of_not_begins ih.waiting (not_exists.1 hbegins)
      refine ⟨hwaiting, fun id => ?_⟩
      rw [hstored, hused]
      exact ih.stored id

/-- No session is replaced exactly when the identifiers used in the run are distinct. -/
theorem fresh_iff_nodup (p : Provider) {s : ProviderState} (h : s.store = .empty)
    (steps : List Step) :
    (∀ m ∈ p.history s steps, m.Fresh p) ↔ (p.usedIds steps (p.run s steps).2).Nodup := by
  induction steps using List.reverseRecOn with
  | nil =>
    refine ⟨fun _ => ?_, fun _ m hm => absurd hm List.not_mem_nil⟩
    show (p.usedIds [] s).Nodup
    unfold usedIds takenCodes drawnIds
    rw [h]
    exact List.nodup_nil
  | append_singleton steps step ih =>
    have haccounts := accounted_run p h steps
    rw [run_append, history_append, List.forall_mem_append, ih]
    show _ ∧ (∀ m ∈ [p.moment (p.run s steps).2 step], m.Fresh p) ↔
      (p.usedIds (steps ++ [step]) (p.moment (p.run s steps).2 step).after).Nodup
    rw [List.forall_mem_singleton]
    by_cases hbegins : ∃ session, (p.moment (p.run s steps).2 step).Begins p session
    · obtain ⟨session, hbegins⟩ := hbegins
      rw [(usedIds_of_begins haccounts.waiting hbegins).2.nodup_iff, List.nodup_cons,
        ← haccounts.stored, and_comm, Bool.not_eq_true, Option.isSome_eq_false_iff,
        Option.isNone_iff_eq_none]
      refine and_congr_left fun _ => ⟨fun hfresh => hfresh session hbegins, ?_⟩
      intro hnone other hother
      rw [← hbegins.id_unique hother]
      exact hnone
    · rw [(usedIds_of_not_begins haccounts.waiting (not_exists.1 hbegins)).2.1]
      refine and_iff_left fun session hsession => ?_
      exact absurd ⟨session, hsession⟩ hbegins

/-- Sessions stay exactly when the codes taken from the queue and the random identifiers drawn in
the run are all distinct. -/
theorem sessionsStay_iff (p : Provider) (users : UserSupply) (errors : Queue ProtocolError)
    (clock : Clock) (steps : List Step) :
    SessionsStay p (p.history ⟨.empty, users, errors, clock⟩ steps) ↔
      (p.usedIds steps (p.run ⟨.empty, users, errors, clock⟩ steps).2).Nodup := by
  rw [← fresh_iff_nodup p rfl steps]
  exact ⟨fun h => h.fresh, sessionsStay_of_fresh⟩

/-- A code that is queued twice: the second session takes the place of the first, although the
random identifiers are distinct and none of them is the code. -/
theorem not_sessionsStay_of_repeated_code :
    Function.Injective sample.randomId ∧ (∀ n, sample.randomId n ≠ "c") ∧
      ¬ SessionsStay sample (sample.history (.initial .jane 0)
        [.queueCode "c", .queueCode "c", .request (sampleRequest "/cb"),
          .request (sampleRequest "/cb")]) := by
  refine ⟨sample_randomId_injective, fun n h => ?_, fun h => ?_⟩
  · have hlist : List.replicate n 'r' = ['c'] := by simpa [sample] using congrArg String.toList h
    have hmem : 'c' ∈ List.replicate n 'r' := by rw [hlist]; exact List.mem_singleton_self _
    exact absurd (List.eq_of_mem_replicate hmem) (by decide)
  · have hsplit := history_append sample (.initial .jane 0)
      [.queueCode "c", .queueCode "c", .request (sampleRequest "/cb")]
      [.request (sampleRequest "/cb")]
    rw [List.cons_append, List.cons_append, List.cons_append, List.nil_append] at hsplit
    rw [hsplit] at h
    have hfresh := h.fresh _ (List.mem_append_right _ List.mem_cons_self)
      ⟨"c", ["openid"], none, .jane, false⟩
      ⟨sampleRequest "/cb", ["openid"], none, rfl, by decide, by decide +kernel⟩
    revert hfresh
    decide +kernel

end Provider

end OpenIdProvider
