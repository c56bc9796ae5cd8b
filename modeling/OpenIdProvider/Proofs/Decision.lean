/-
  Decisions by rules in order. The first rule that applies decides, whatever the later ones say.
  A chain of tests makes such a decision: each test has the rules by which it refuses, and the
  rules of a chain are those of its tests one after the other (`Refuses.bind`).
-/
import OpenIdProvider.Validation

namespace OpenIdProvider

/-- When a rule applies, and which answers it allows then. -/
structure Rule (α : Type) where
  applies : Prop
  allows : α → Prop

namespace Rule

variable {α β : Type}

/-- A rule with a single answer. -/
def answers (applies : Prop) (x : α) : Rule α := ⟨applies, fun y => y = x⟩

/-- A rule that applies where something is found, and answers with what is made of it. -/
def finds (found : β → Prop) (answer : β → α) : Rule α :=
  ⟨∃ b, found b, fun x => ∃ b, found b ∧ x = answer b⟩

/-- A rule for all that is left. -/
def otherwise (allows : α → Prop) : Rule α := ⟨True, allows⟩

/-- All answers that a rule allows have a property. -/
def Keeps (P : α → Prop) (rule : Rule α) : Prop := ∀ x, rule.allows x → P x

theorem keeps_answers {P : α → Prop} {x : α} (applies : Prop) (h : P x) :
    (answers applies x).Keeps P := by
  rintro _ rfl
  exact h

theorem keeps_finds {P : α → Prop} {answer : β → α} (found : β → Prop) (h : ∀ b, P (answer b)) :
    (finds found answer).Keeps P := by
  rintro _ ⟨b, -, rfl⟩
  exact h b

end Rule

section

variable {α β γ ε : Type}

/-- The first rule that applies allows the answer. -/
inductive Decides : List (Rule α) → α → Prop
  | here {rule : Rule α} {rules : List (Rule α)} {x : α} (applies : rule.applies)
      (allows : rule.allows x) : Decides (rule :: rules) x
  | later {rule : Rule α} {rules : List (Rule α)} {x : α} (passes : ¬ rule.applies)
      (decides : Decides rules x) : Decides (rule :: rules) x

/-- None of the rules applies. -/
def PassesAll (rules : List (Rule α)) : Prop := ∀ rule ∈ rules, ¬ rule.applies

theorem passesAll_nil : PassesAll ([] : List (Rule α)) := List.forall_mem_nil _

theorem passesAll_cons {rule : Rule α} {rules : List (Rule α)} :
    PassesAll (rule :: rules) ↔ ¬ rule.applies ∧ PassesAll rules := List.forall_mem_cons

theorem passesAll_append {rules rules' : List (Rule α)} :
    PassesAll (rules ++ rules') ↔ PassesAll rules ∧ PassesAll rules' := List.forall_mem_append

/-- What is decided stays so when further rules follow. -/
theorem Decides.append {rules : List (Rule α)} {x : α} (h : Decides rules x)
    (rest : List (Rule α)) : Decides (rules ++ rest) x := by
  induction h with
  | here applies allows => exact .here applies allows
  | later passes _ ih => exact .later passes ih

/-- Rules that do not apply leave the decision to the next ones. -/
theorem PassesAll.decides {rules rest : List (Rule α)} {x : α} (h : PassesAll rules)
    (hrest : Decides rest x) : Decides (rules ++ rest) x := by
  induction rules with
  | nil => exact hrest
  | cons rule rules ih =>
    obtain ⟨hrule, hrules⟩ := passesAll_cons.1 h
    exact .later hrule (ih hrules)

/-- What all rules ensure holds of what is decided. -/
theorem Decides.keeps {rules : List (Rule α)} {x : α} (h : Decides rules x) {P : α → Prop}
    (hall : ∀ rule ∈ rules, rule.Keeps P) : P x := by
  induction h with
  | here applies allows => exact hall _ List.mem_cons_self _ allows
  | later passes _ ih => exact ih fun rule hrule => hall rule (List.mem_cons_of_mem _ hrule)

/-! ## Tests -/

/-- A test that fails exactly when one of the rules applies, with an error that is answered as the
first of them says. -/
structure Refuses (reject : ε → α) (rules : List (Rule α)) (test : Except ε β) : Prop where
  fails : ∀ e, test = .error e → Decides rules (reject e)
  passes : ∀ b, test = .ok b → PassesAll rules

variable {reject : ε → α} {rules rules' : List (Rule α)}

theorem refuses_ok (reject : ε → α) (b : β) : Refuses reject [] (.ok b) :=
  ⟨nofun, fun _ _ => passesAll_nil⟩

/-- A test fails by the first of its rules. -/
theorem Refuses.here {rule : Rule α} {e : ε} (applies : rule.applies)
    (allows : rule.allows (reject e)) :
    Refuses reject (rule :: rules) (.error e : Except ε β) := by
  refine ⟨fun e' he' => ?_, nofun⟩
  obtain rfl : e = e' := Except.error.inj he'
  exact .here applies allows

/-- A rule that does not apply does not matter for a test. -/
theorem Refuses.later {rule : Rule α} {test : Except ε β} (passes : ¬ rule.applies)
    (h : Refuses reject rules test) : Refuses reject (rule :: rules) test where
  fails e he := .later passes (h.fails e he)
  passes b hb := passesAll_cons.2 ⟨passes, h.passes b hb⟩

/-- The rules of a chain are those of its tests in order. -/
theorem Refuses.bind {x : Except ε β} {f : β → Except ε γ} (h : Refuses reject rules x)
    (h' : ∀ b, x = .ok b → Refuses reject rules' (f b)) :
    Refuses reject (rules ++ rules') (x >>= f) := by
  cases x with
  | error e =>
    refine ⟨fun e' he' => ?_, nofun⟩
    obtain rfl : e = e' := Except.error.inj he'
    exact (h.fails e rfl).append rules'
  | ok b =>
    have hb := h.passes b rfl
    refine ⟨fun e he => hb.decides ((h' b rfl).fails e he), fun c hc => ?_⟩
    exact passesAll_append.2 ⟨hb, (h' b rfl).passes c hc⟩

/-- What is made of the result of a test does not matter for its rules. -/
theorem Refuses.map {x : Except ε β} (h : Refuses reject rules x) (f : β → γ) :
    Refuses reject rules (x.map f) := by
  have hbind := h.bind fun b _ => refuses_ok reject (f b)
  rw [List.append_nil] at hbind
  cases x <;> exact hbind

/-! ## Tests of parameters -/

namespace Validation

/-- A parameter that must have a value has none. -/
def missing (params : Params) (reject : ProtocolError → α) (name : String) : Rule α :=
  .answers (params.get name = "")
    (reject ⟨.invalidRequest, "The request is missing the required parameter: " ++ name, 400⟩)

/-- A parameter has not the value that it must have. -/
def mismatch (params : Params) (reject : ProtocolError → α) (name expected : String)
    (kind : ErrorKind) (message : String) : Rule α :=
  .answers (params.get name ≠ expected)
    (reject ⟨kind, message ++ ": " ++ params.get name, 401⟩)

/-- The first of some scopes that is not supported. -/
def FirstUnsupported (requested supported : List String) (scope : String) : Prop :=
  ∃ before after, requested = before ++ scope :: after ∧
    (∀ other ∈ before, other ∈ supported) ∧ scope ∉ supported

/-- Some scope is not supported. -/
def unsupported (requested supported : List String) (reject : ProtocolError → α) : Rule α :=
  .finds (FirstUnsupported requested supported) fun scope =>
    reject ⟨.invalidScope, "Unsupported scope: " ++ scope, 400⟩

variable (params : Params) (reject : ProtocolError → α)

theorem refuses_requireAll (names : List String) :
    Refuses reject (names.map (missing params reject)) (requireAll params names) := by
  induction names with
  | nil => exact refuses_ok reject ()
  | cons name names ih =>
    unfold requireAll at ih ⊢
    by_cases hname : params.get name = ""
    · rw [List.find?_cons_of_pos (by simpa using hname)]
      exact .here hname rfl
    · rw [List.find?_cons_of_neg (by simpa using hname)]
      exact .later hname ih

theorem refuses_requireEqual (name expected : String) (kind : ErrorKind) (message : String) :
    Refuses reject [mismatch params reject name expected kind message]
      (requireEqual params name expected kind message) := by
  simp only [requireEqual]
  split
  · rename_i h
    exact .later (fun hne => hne h.symm) (refuses_ok reject ())
  · rename_i h
    exact .here (fun heq => h heq.symm) rfl

theorem refuses_requireSupported (requested supported : List String) :
    Refuses reject [unsupported requested supported reject]
      (requireSupported requested supported) := by
  unfold requireSupported
  split
  · rename_i hnone
    refine .later ?_ (refuses_ok reject ())
    rintro ⟨scope, before, after, rfl, -, hscope⟩
    have hsupported := List.find?_eq_none.1 hnone scope
      (List.mem_append_right _ List.mem_cons_self)
    exact hscope (by simpa using hsupported)
  · rename_i scope hscope
    obtain ⟨hnot, before, after, heq, hbefore⟩ := List.find?_eq_some_iff_append.1 hscope
    have hfirst : FirstUnsupported requested supported scope :=
      ⟨before, after, heq, by simpa using hbefore, by simpa using hnot⟩
    exact .here ⟨scope, hfirst⟩ ⟨scope, hfirst, rfl⟩

/-- Scopes are refused for the first that is not supported. -/
theorem firstUnsupported_of_error {requested supported : List String} {e : ProtocolError}
    (h : requireSupported requested supported = .error e) :
    ∃ scope, FirstUnsupported requested supported scope ∧
      e = ⟨.invalidScope, "Unsupported scope: " ++ scope, 400⟩ := by
  cases (refuses_requireSupported id requested supported).fails e h with
  | here applies allows => exact allows
  | later passes decides => cases decides

end Validation

end

end OpenIdProvider
