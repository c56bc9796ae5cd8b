/-
  Records read from mappings. Each part of a record that has been read is what the entry of its own
  name says (`Owns`). A record is read from exactly those mappings whose entries obey the rules of
  its fields: each name that has a rule stands there at most once, with a value that the rule allows
  (`isSome_record?_iff`).
-/
import Mathlib.Data.List.Forall2
import OpenIdProvider.Proofs.Chain
import OpenIdProvider.Yaml.Decoding

namespace OpenIdProvider.Yaml.Node

/-! ## Entries of records -/

variable {α β : Type}

/-- The value of a name in a mapping. -/
def member? (n : Node) (name : String) : Option Node := n.entries?.bind (List.lookup name)

/-- The value of a name in the section of another. -/
def entry? (n : Node) (part name : String) : Option Node := (n.member? part).bind (member? · name)

/-- The text of an entry that may be null. -/
def presentText? (n : Node) : Option String := (n.optional? text?).join

/-- How the fields of a record are set, by name. -/
abbrev Fields (α : Type) : Type := List (String × (α → Node → Option α))

/-- Fields that leave a part of a record alone. -/
inductive Keeps (get : α → β) : Fields α → Prop
  | nil : Keeps get []
  | cons {name : String} {set : α → Node → Option α} {fields : Fields α}
      (hset : ∀ {a a' v}, set a v = some a' → get a' = get a) :
      Keeps get fields → Keeps get ((name, set) :: fields)

/-- Fields of which one, that of a name, sets a part of a record to what is read from its entry. -/
inductive Owns (name : String) (get : α → β) (read : Node → Option β) : Fields α → Prop
  | here {set : α → Node → Option α} {fields : Fields α}
      (hset : ∀ {a a' v}, set a v = some a' → read v = some (get a')) :
      Keeps get fields → Owns name get read ((name, set) :: fields)
  | there {other : String} {set : α → Node → Option α} {fields : Fields α} (hne : other ≠ name)
      (hset : ∀ {a a' v}, set a v = some a' → get a' = get a) :
      Owns name get read fields → Owns name get read ((other, set) :: fields)

theorem own_of_map {get : α → β} {read : Node → Option β} {put : β → α} {a' : α} {v : Node}
    (hput : ∀ b, get (put b) = b) (h : (read v).map put = some a') : read v = some (get a') := by
  obtain ⟨b, hb, rfl⟩ := Option.map_eq_some_iff.1 h
  rw [hput, hb]

theorem keep_of_map {γ : Type} {get : α → β} {put : γ → α} {entry : Option γ} {a a' : α}
    (hput : ∀ c, get (put c) = get a) (h : entry.map put = some a') : get a' = get a := by
  obtain ⟨c, -, rfl⟩ := Option.map_eq_some_iff.1 h
  exact hput c

variable {fields : Fields α} {name : String} {get : α → β} {read : Node → Option β}

theorem Keeps.of_lookup (h : Keeps get fields) {set : α → Node → Option α}
    (hlookup : fields.lookup name = some set) {a a' : α} {v : Node} (hset : set a v = some a') :
    get a' = get a := by
  induction h with
  | nil => cases hlookup
  | cons hkeeps _ ih =>
    rw [List.lookup_cons] at hlookup
    split at hlookup
    · cases hlookup
      exact hkeeps hset
    · exact ih hlookup

/-- The field of the name is the one that sets the part. -/
theorem Owns.lookup (h : Owns name get read fields) :
    ∃ set, fields.lookup name = some set ∧
      ∀ {a a' v}, set a v = some a' → read v = some (get a') := by
  induction h with
  | here hset _ => exact ⟨_, List.lookup_cons_self, hset⟩
  | there hne _ _ ih =>
    obtain ⟨set, hlookup, hset⟩ := ih
    refine ⟨set, ?_, hset⟩
    rw [List.lookup_cons, beq_false_of_ne hne.symm]
    exact hlookup

/-- The other fields leave the part alone. -/
theorem Owns.of_lookup (h : Owns name get read fields) {other : String} (hne : other ≠ name)
    {set : α → Node → Option α} (hlookup : fields.lookup other = some set) {a a' : α} {v : Node}
    (hset : set a v = some a') : get a' = get a := by
  induction h with
  | here _ hkeeps =>
    rw [List.lookup_cons, beq_false_of_ne hne] at hlookup
    exact hkeeps.of_lookup hlookup hset
  | there _ hkeeps _ ih =>
    rw [List.lookup_cons] at hlookup
    split at hlookup
    · cases hlookup
      exact hkeeps hset
    · exact ih hlookup

/-- Takes one entry of a record; the names of those before it are known. -/
def setEntry (fields : Fields α) (st : α × List String) (entry : String × Node) :
    Option (α × List String) :=
  match fields.lookup entry.1 with
  | none => some st
  | some set =>
    if st.2.contains entry.1 then none
    else (set st.1 entry.2).map fun a => (a, entry.1 :: st.2)

theorem record?_eq (fields : Fields α) (start : α) (n : Node) :
    n.record? fields start = n.entries?.bind fun entries =>
      entries.foldlM (setEntry fields) (start, []) := rfl

theorem setEntry_of_unknown {st : α × List String} {entry : String × Node}
    (h : fields.lookup entry.1 = none) : setEntry fields st entry = some st := by
  unfold setEntry
  rw [h]

theorem setEntry_of_seen {st : α × List String} {entry : String × Node}
    {set : α → Node → Option α} (h : fields.lookup entry.1 = some set) (hseen : entry.1 ∈ st.2) :
    setEntry fields st entry = none := by
  unfold setEntry
  simp only [h, List.contains_iff_mem, hseen, if_true]

theorem setEntry_of_unseen {st : α × List String} {entry : String × Node}
    {set : α → Node → Option α} (h : fields.lookup entry.1 = some set) (hseen : entry.1 ∉ st.2) :
    setEntry fields st entry = (set st.1 entry.2).map fun a => (a, entry.1 :: st.2) := by
  unfold setEntry
  simp only [h, List.contains_iff_mem, hseen, if_false]

/-- The entry of the name sets the part, and may do so once. -/
theorem Owns.setEntry_self (h : Owns name get read fields) {st st' : α × List String} {v : Node}
    (hset : setEntry fields st (name, v) = some st') :
    name ∉ st.2 ∧ read v = some (get st'.1) ∧ name ∈ st'.2 := by
  obtain ⟨set, hlookup, hread⟩ := h.lookup
  by_cases hseen : name ∈ st.2
  · rw [setEntry_of_seen hlookup hseen] at hset
    cases hset
  · rw [setEntry_of_unseen hlookup hseen] at hset
    obtain ⟨a, ha, rfl⟩ := Option.map_eq_some_iff.1 hset
    exact ⟨hseen, hread ha, List.mem_cons_self⟩

/-- The entries of other names leave the part alone. -/
theorem Owns.setEntry_other (h : Owns name get read fields) {st st' : α × List String}
    {entry : String × Node} (hne : entry.1 ≠ name)
    (hset : setEntry fields st entry = some st') :
    get st'.1 = get st.1 ∧ (name ∈ st'.2 ↔ name ∈ st.2) := by
  cases hlookup : fields.lookup entry.1 with
  | none =>
    rw [setEntry_of_unknown hlookup] at hset
    cases hset
    exact ⟨rfl, Iff.rfl⟩
  | some set =>
    by_cases hseen : entry.1 ∈ st.2
    · rw [setEntry_of_seen hlookup hseen] at hset
      cases hset
    · rw [setEntry_of_unseen hlookup hseen] at hset
      obtain ⟨a, ha, rfl⟩ := Option.map_eq_some_iff.1 hset
      refine ⟨h.of_lookup hne hlookup ha, ?_⟩
      rw [List.mem_cons, or_iff_right hne.symm]

/-- After all entries the part is what is read from the entry of its name; where there is none it
is what it was. -/
theorem Owns.foldlM_setEntry (h : Owns name get read fields) {entries : List (String × Node)}
    {st st' : α × List String} (hfold : entries.foldlM (setEntry fields) st = some st') :
    (name ∈ st.2 → get st'.1 = get st.1) ∧
      (name ∉ st.2 → (entries.lookup name).elim (some (get st.1)) read = some (get st'.1)) := by
  induction entries generalizing st with
  | nil =>
    cases hfold
    exact ⟨fun _ => rfl, fun _ => rfl⟩
  | cons entry entries ih =>
    rw [List.foldlM_cons] at hfold
    obtain ⟨next, hnext, hrest⟩ := Option.bind_eq_some_iff.1 hfold
    obtain ⟨hseen, hunseen⟩ := ih hrest
    obtain ⟨other, v⟩ := entry
    by_cases hname : other = name
    · subst hname
      obtain ⟨hnew, hread, hmem⟩ := h.setEntry_self hnext
      refine ⟨fun hold => absurd hold hnew, fun _ => ?_⟩
      rw [List.lookup_cons_self, hseen hmem]
      exact hread
    · obtain ⟨hget, hmem⟩ := h.setEntry_other hname hnext
      have hlookup : ((other, v) :: entries).lookup name = entries.lookup name := by
        rw [List.lookup_cons, beq_false_of_ne (Ne.symm hname)]
      rw [hlookup, ← hget]
      exact ⟨fun hold => hseen (hmem.2 hold), fun hnew => hunseen fun hnext => hnew (hmem.1 hnext)⟩

/-- A part of a record that has been read is what its own entry says. -/
theorem Owns.record? (h : Owns name get read fields) {start a : α} {n : Node}
    (hrecord : (n.record? fields start).map Prod.fst = some a) :
    (n.member? name).elim (some (get start)) read = some (get a) := by
  obtain ⟨st, hst, rfl⟩ := Option.map_eq_some_iff.1 hrecord
  rw [record?_eq] at hst
  obtain ⟨entries, hentries, hfold⟩ := Option.bind_eq_some_iff.1 hst
  have hmember : n.member? name = entries.lookup name := by
    unfold member?
    rw [hentries]
    rfl
  rw [hmember]
  exact (h.foldlM_setEntry hfold).2 List.not_mem_nil

/-! ## Rules -/

/-- What values may stand at some names. -/
abbrev Rules : Type := List (String × (Node → Prop))

/-- A field that takes the values that a rule of its name allows, whatever has been set before. -/
structure Follows (field : String × (α → Node → Option α)) (rule : String × (Node → Prop)) :
    Prop where
  name : field.1 = rule.1
  takes : ∀ a v, (field.2 a v).isSome = true ↔ rule.2 v

/-- Each field has a rule that it follows. -/
def Follow (fields : Fields α) (rules : Rules) : Prop := List.Forall₂ Follows fields rules

/-- A field whose value is read by itself takes what the reader reads. -/
theorem follows_of_map {allow : Node → Prop} (h : ∀ v, (read v).isSome = true ↔ allow v)
    (put : α → β → α) (name : String) :
    Follows (name, fun a v => (read v).map (put a)) (name, allow) :=
  ⟨rfl, fun a v => by rw [Option.isSome_map, h]⟩

/-- What a reader finds a value in. -/
def Reads (read : Node → Option β) (n : Node) : Prop := (read n).isSome = true

theorem follows_reads (read : Node → Option β) (put : α → β → α) (name : String) :
    Follows (name, fun a v => (read v).map (put a)) (name, Reads read) :=
  follows_of_map (fun _ => Iff.rfl) put name

/-- Entries that come after others of some names. Each name that there is a rule for is new and
stands there at most once, with a value that the rule allows. -/
structure EntriesObey (rules : Rules) (seen : List String) (entries : List (String × Node)) :
    Prop where
  allowed : ∀ entry ∈ entries, ∀ allow, rules.lookup entry.1 = some allow → allow entry.2
  unseen : ∀ entry ∈ entries, ∀ allow, rules.lookup entry.1 = some allow → entry.1 ∉ seen
  once : entries.Pairwise fun entry later => entry.1 = later.1 → rules.lookup entry.1 = none

/-- A mapping of such entries, or nothing in its place. -/
def Obeys (rules : Rules) (n : Node) : Prop :=
  ∃ entries, n.entries? = some entries ∧ EntriesObey rules [] entries

section Entries

variable {rules : Rules} {seen : List String} {entry : String × Node}
  {entries : List (String × Node)}

theorem entriesObey_cons_of_unruled (h : rules.lookup entry.1 = none) :
    EntriesObey rules seen (entry :: entries) ↔ EntriesObey rules seen entries := by
  have hnone {P : (Node → Prop) → Prop} :
      ∀ allow, rules.lookup entry.1 = some allow → P allow := by
    intro allow hallow
    rw [h] at hallow
    cases hallow
  constructor
  · rintro ⟨hallowed, hunseen, honce⟩
    exact ⟨(List.forall_mem_cons.1 hallowed).2, (List.forall_mem_cons.1 hunseen).2, honce.of_cons⟩
  · rintro ⟨hallowed, hunseen, honce⟩
    exact ⟨List.forall_mem_cons.2 ⟨hnone, hallowed⟩, List.forall_mem_cons.2 ⟨hnone, hunseen⟩,
      .cons (fun _ _ _ => h) honce⟩

theorem entriesObey_cons_of_ruled {allow : Node → Prop} (h : rules.lookup entry.1 = some allow) :
    EntriesObey rules seen (entry :: entries) ↔
      entry.1 ∉ seen ∧ allow entry.2 ∧ EntriesObey rules (entry.1 :: seen) entries := by
  constructor
  · rintro ⟨hallowed, hunseen, honce⟩
    refine ⟨hunseen entry List.mem_cons_self allow h, hallowed entry List.mem_cons_self allow h,
      (List.forall_mem_cons.1 hallowed).2, fun later hlater allow' hallow' => ?_, honce.of_cons⟩
    refine List.not_mem_cons_of_ne_of_not_mem (fun heq => ?_)
      (hunseen later (List.mem_cons_of_mem _ hlater) allow' hallow')
    have hnone := (List.pairwise_cons.1 honce).1 later hlater heq.symm
    rw [h] at hnone
    cases hnone
  · rintro ⟨hnew, hallow, hallowed, hunseen, honce⟩
    refine ⟨List.forall_mem_cons.2 ⟨fun allow' hallow' => ?_, hallowed⟩,
      List.forall_mem_cons.2 ⟨fun _ _ => hnew, fun later hlater allow' hallow' hold => ?_⟩,
      .cons (fun later hlater heq => ?_) honce⟩
    · cases h.symm.trans hallow'
      exact hallow
    · exact hunseen later hlater allow' hallow' (List.mem_cons_of_mem _ hold)
    · exact absurd (heq ▸ List.mem_cons_self) (hunseen later hlater allow (heq ▸ h))

end Entries

theorem Follow.lookup {rules : Rules} (h : Follow fields rules) (name : String) :
    fields.lookup name = none ∧ rules.lookup name = none ∨
      ∃ set allow, fields.lookup name = some set ∧ rules.lookup name = some allow ∧
        ∀ a v, (set a v).isSome = true ↔ allow v := by
  induction h with
  | nil => exact .inl ⟨rfl, rfl⟩
  | @cons field rule fields rules hfield _ ih =>
    rw [List.lookup_cons, List.lookup_cons, ← hfield.name]
    cases name == field.1 with
    | true => exact .inr ⟨_, _, rfl, rfl, hfield.takes⟩
    | false => exact ih

/-- The entries that are left are taken when they obey the rules. -/
theorem Follow.isSome_foldlM_iff {rules : Rules} (h : Follow fields rules)
    {entries : List (String × Node)} {st : α × List String} :
    (entries.foldlM (setEntry fields) st).isSome = true ↔ EntriesObey rules st.2 entries := by
  induction entries generalizing st with
  | nil => exact iff_of_true rfl ⟨nofun, nofun, .nil⟩
  | cons entry entries ih =>
    rw [List.foldlM_cons]
    rcases h.lookup entry.1 with ⟨hfields, hrules⟩ | ⟨set, allow, hfields, hrules, hset⟩
    · rw [setEntry_of_unknown hfields, entriesObey_cons_of_unruled hrules]
      exact ih
    · rw [entriesObey_cons_of_ruled hrules, ← hset st.1]
      by_cases hseen : entry.1 ∈ st.2
      · rw [setEntry_of_seen hfields hseen]
        exact iff_of_false Bool.false_ne_true fun h => h.1 hseen
      · rw [setEntry_of_unseen hfields hseen]
        cases set st.1 entry.2 with
        | none => exact iff_of_false Bool.false_ne_true fun h => Bool.false_ne_true h.2.1
        | some a => exact ih.trans ⟨fun h => ⟨hseen, rfl, h⟩, fun h => h.2.2⟩

/-- A record is read from what obeys the rules of its fields. -/
theorem Follow.isSome_record?_iff {rules : Rules} (h : Follow fields rules) {start : α} {n : Node} :
    (n.record? fields start).isSome = true ↔ n.Obeys rules := by
  rw [record?_eq, Obeys]
  cases n.entries? with
  | none => exact iff_of_false Bool.false_ne_true nofun
  | some entries =>
    rw [Option.bind_some, h.isSome_foldlM_iff]
    simp only [Option.some.injEq, exists_eq_left']

end OpenIdProvider.Yaml.Node
