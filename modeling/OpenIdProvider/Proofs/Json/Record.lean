/-
  Records read from the text of an object. Each member is put into the slot of its field, or passed
  over when it has none, as long as the names of the members are distinct and every field reads
  what it is given. Conversely, whatever text a record was read from, what is in a slot was read by
  the field of the slot.
-/
import OpenIdProvider.Json.Record
import OpenIdProvider.Proofs.Chain
import OpenIdProvider.Proofs.Json.Skip

namespace OpenIdProvider.Json

open Utf8 (encodeChars encodeChars_append encodeChars_cons_of_ascii)
open Reader

/-! ## Values of fields -/

namespace Reader

theorem text_chars (s : String) (rest : List UInt8) :
    text (encodeChars (stringChars s) ++ rest) = .ok (.string s, rest) := by
  have hread := string_chars s rest
  rw [encodeChars_stringChars, List.cons_append, List.append_assoc, List.singleton_append]
  show (string (encodeChars (s.toList.flatMap escapeChar) ++ 0x22 :: rest)).map
    (fun read => (Json.string read.1, read.2)) = _
  rw [hread]
  rfl

/-- A string is never taken for the word `null`. -/
theorem optional_text_chars (s : String) (rest : List UInt8) :
    optional text (encodeChars (stringChars s) ++ rest) = .ok (.string s, rest) := by
  have hread := text_chars s rest
  rw [encodeChars_stringChars, List.cons_append] at hread ⊢
  exact hread

theorem texts_chars (levels : Nat) (ss : List String) (rest : List UInt8) :
    texts (levels + 1) (encodeChars (ofStrings ss).chars ++ rest) = .ok (ofStrings ss, rest) := by
  have hitems : ∀ x ∈ ss.map Json.string, ReadsItem text x := by
    intro x hx
    obtain ⟨s, -, rfl⟩ := List.mem_map.1 hx
    exact ⟨⟨_, _, encodeChars_stringChars s, by constructor <;> decide⟩, fun rest _ =>
      text_chars s rest⟩
  have harranged : arrangedItems (ss.map Json.string) = ss.map Json.string := by
    refine arrangedItems_eq_self fun x hx => ?_
    obtain ⟨s, -, rfl⟩ := List.mem_map.1 hx
    rfl
  show texts (levels + 1) (encodeChars ('[' :: itemsChars (ss.map Json.string)) ++ rest) = _
  rw [encodeChars_cons_of_ascii (by decide), List.cons_append]
  show (array text (encodeChars (itemsChars (ss.map Json.string)) ++ rest)).map
    (fun read => (Json.array read.1, read.2)) = _
  rw [array_itemsChars hitems, harranged]
  rfl

/-- The integers of 64 bits with a sign. -/
def IsInt64 (i : Int) : Prop := -0x8000000000000000 ≤ i ∧ i < 0x8000000000000000

instance (i : Int) : Decidable (IsInt64 i) := inferInstanceAs (Decidable (_ ∧ _))

theorem int64_chars {i : Int} (h : IsInt64 i) {rest : List UInt8} (hrest : EndsNumber rest) :
    int64 (encodeChars (intChars i) ++ rest) = .ok (.ofInt i, rest) := by
  obtain ⟨hlow, hhigh⟩ := h
  have hbound : i.natAbs ≤ maxUInt64 := by
    unfold maxUInt64
    omega
  by_cases hi : i < 0
  · have hneg : -(i.natAbs : Int) = i := by omega
    have hnumber := number_digits false hbound hrest
    rw [integerValue, if_neg Bool.false_ne_true, if_neg (by omega), hneg] at hnumber
    rw [encodeChars_intChars_neg hi, List.cons_append]
    show (number false _).bind _ = _
    rw [hnumber]
    exact if_pos ⟨hlow, hhigh⟩
  · have hpos : (i.natAbs : Int) = i := by omega
    obtain ⟨d, more, hd, heq⟩ := exists_digitByte_cons i.natAbs
    have hnumber := number_digits true hbound hrest
    rw [integerValue, if_pos rfl, hpos, heq, List.cons_append] at hnumber
    have hminus : digitByte d ≠ 0x2D := by
      have hall : ∀ m < 10, digitByte m ≠ 0x2D := by decide
      exact hall d hd
    rw [encodeChars_intChars_nonneg hi, heq, List.cons_append]
    unfold int64
    rw [skipSpace_cons (opening_digitByte hd).space]
    simp only [if_neg hminus, isDigit_digitByte hd, if_true, hnumber]
    exact if_pos ⟨hlow, hhigh⟩

end Reader

namespace Shape

/-! ## Objects -/

/-- The place of the field of a name. -/
def place? (shape : Shape) (name : String) : Option Nat :=
  shape.fields.findIdx? fun f => f.name == name

/-- The slots after a member is put into the one of its field. -/
def fillOne (shape : Shape) (slots : Slots) (m : String × Json) : Slots :=
  match shape.place? m.1 with
  | none => slots
  | some i => slots.set i (some m.2)

/-- The slots after some members are put into those of their fields. -/
def fill (shape : Shape) (slots : Slots) (ms : List (String × Json)) : Slots :=
  ms.foldl shape.fillOne slots

/-- A member whose field reads its value, or whose value is passed over. -/
def Reads (shape : Shape) (levels : Nat) (m : String × Json) : Prop :=
  match shape.place? m.1 with
  | none => ∃ levels, Readable levels m.2
  | some i => ∃ f, shape.fields[i]? = some f ∧ ∀ rest, EndsNumber rest →
    f.read levels (encodeChars m.2.chars ++ rest) = .ok (m.2, rest)

theorem place?_eq_some {shape : Shape} {name : String} {i : Nat} (h : shape.place? name = some i) :
    ∃ f, shape.fields[i]? = some f ∧ f.name = name := by
  obtain ⟨hi, hname, -⟩ := List.findIdx?_eq_some_iff_getElem.1 h
  exact ⟨_, List.getElem?_eq_getElem hi, by simpa using hname⟩

theorem reads_of_fields {shape : Shape} {levels levels' : Nat} {m : String × Json}
    (hfields : ∀ f ∈ shape.fields, f.name = m.1 → ∀ rest, EndsNumber rest →
      f.read levels (encodeChars m.2.chars ++ rest) = .ok (m.2, rest))
    (hvalue : Readable levels' m.2) : shape.Reads levels m := by
  unfold Reads
  split
  · exact ⟨levels', hvalue⟩
  · rename_i i hplace
    obtain ⟨f, hf, hname⟩ := place?_eq_some hplace
    exact ⟨f, hf, hfields f (List.mem_of_getElem? hf) hname⟩

theorem reads_of_place {shape : Shape} {levels i : Nat} {name : String} {v : Json} {f : Field}
    (hplace : shape.place? name = some i) (hf : shape.fields[i]? = some f)
    (hread : ∀ rest, EndsNumber rest →
      f.read levels (encodeChars v.chars ++ rest) = .ok (v, rest)) :
    shape.Reads levels (name, v) := by
  unfold Reads
  rw [hplace]
  exact ⟨f, hf, hread⟩

theorem reads_text {shape : Shape} {levels i : Nat} {name : String} {f : Field}
    (hplace : shape.place? name = some i) (hf : shape.fields[i]? = some f)
    (hread : f.read levels = Reader.text) (s : String) : shape.Reads levels (name, .string s) := by
  refine reads_of_place hplace hf fun rest _ => ?_
  rw [hread, Json.chars]
  exact text_chars s rest

theorem reads_optional_text {shape : Shape} {levels i : Nat} {name : String} {f : Field}
    (hplace : shape.place? name = some i) (hf : shape.fields[i]? = some f)
    (hread : f.read levels = Reader.optional Reader.text) (s : String) :
    shape.Reads levels (name, .string s) := by
  refine reads_of_place hplace hf fun rest _ => ?_
  rw [hread, Json.chars]
  exact optional_text_chars s rest

theorem reads_texts (levels : Nat) {shape : Shape} {i : Nat} {name : String} {f : Field}
    (hplace : shape.place? name = some i) (hf : shape.fields[i]? = some f)
    (hread : f.read (levels + 1) = Reader.texts (levels + 1)) (ss : List String) :
    shape.Reads (levels + 1) (name, ofStrings ss) := by
  refine reads_of_place hplace hf fun rest _ => ?_
  rw [hread]
  exact texts_chars levels ss rest

/-- Whether the slots of some members are still empty. -/
def Free (shape : Shape) (slots : Slots) (ms : List (String × Json)) : Prop :=
  ∀ m ∈ ms, ∀ i, shape.place? m.1 = some i → slots[i]?.getD none = none

theorem free_fillOne {shape : Shape} {slots : Slots} {m : String × Json}
    {ms : List (String × Json)} (hnames : ((m :: ms).map Prod.fst).Nodup)
    (h : shape.Free slots (m :: ms)) : shape.Free (shape.fillOne slots m) ms := by
  intro n hn i hi
  have hfree := h n (List.mem_cons_of_mem _ hn) i hi
  unfold fillOne
  split
  · exact hfree
  · rename_i j hj
    have hne : j ≠ i := by
      rintro rfl
      obtain ⟨f, hf, hname⟩ := place?_eq_some hj
      obtain ⟨f', hf', hname'⟩ := place?_eq_some hi
      rw [hf] at hf'
      cases hf'
      have hmem : m.1 ∈ ms.map Prod.fst := List.mem_map.2 ⟨n, hn, hname'.symm.trans hname⟩
      exact (List.nodup_cons.1 hnames).1 hmem
    rw [List.getElem?_set_ne hne]
    exact hfree

/-- One member whose name has been read. -/
theorem members_step {shape : Shape} {levels fuel : Nat} {first : Bool} {slots : Slots}
    {m : String × Json} {bs tail : List UInt8}
    (hname : nextName first bs = .ok (some m.1, 0x3A :: (encodeChars m.2.chars ++ tail)))
    (hreads : shape.Reads levels m) (hfree : ∀ i, shape.place? m.1 = some i →
      slots[i]?.getD none = none) (htail : EndsNumber tail) :
    shape.members levels (fuel + 1) first slots bs =
      shape.members levels fuel false (shape.fillOne slots m) tail := by
  unfold Reads at hreads
  unfold fillOne
  have hfind : shape.fields.findIdx? (fun f => f.name == m.1) = shape.place? m.1 := rfl
  rw [members, hname]
  simp only [Except.bind]
  rw [hfind]
  cases hplace : shape.place? m.1 with
  | none =>
    rw [hplace] at hreads
    obtain ⟨levels', hvalue⟩ := hreads
    simp only [colon_cons, Skip.value_chars hvalue htail]
  | some i =>
    rw [hplace] at hreads
    obtain ⟨f, hf, hread⟩ := hreads
    simp only [hfree i hplace, hf, colon_cons, hread tail htail, Option.isSome_none,
      Bool.false_eq_true, if_false]

theorem members_tail {shape : Shape} {levels : Nat} {ms : List (String × Json)}
    (hnames : (ms.map Prod.fst).Nodup) (hreads : ∀ m ∈ ms, shape.Reads levels m) {slots : Slots}
    (hfree : shape.Free slots ms) (rest : List UInt8) {fuel : Nat} (hfuel : ms.length < fuel) :
    shape.members levels fuel false slots (encodeChars (membersTail ms) ++ rest) =
      .ok (shape.fill slots ms, 0x7D :: rest) := by
  induction ms generalizing fuel slots with
  | nil =>
    obtain ⟨fuel, rfl⟩ := Nat.exists_eq_add_of_lt hfuel
    rfl
  | cons m ms ih =>
    cases fuel with
    | zero => exact absurd hfuel (by simp)
    | succ fuel =>
      obtain ⟨name, v⟩ := m
      rw [encodeChars_membersTail_cons,
        members_step (nextName_comma name _) (hreads (name, v) List.mem_cons_self)
          (hfree (name, v) List.mem_cons_self) (endsNumber_membersTail ms rest)]
      exact ih (List.nodup_cons.1 hnames).2 (fun n hn => hreads n (List.mem_cons_of_mem _ hn))
        (free_fillOne hnames hfree) (Nat.lt_of_succ_lt_succ hfuel)

theorem members_first {shape : Shape} {levels : Nat} {ms : List (String × Json)}
    (hnames : (ms.map Prod.fst).Nodup) (hreads : ∀ m ∈ ms, shape.Reads levels m) {slots : Slots}
    (hfree : shape.Free slots ms) (rest : List UInt8) {fuel : Nat} (hfuel : ms.length < fuel) :
    shape.members levels fuel true slots (encodeChars (membersChars ms) ++ rest) =
      .ok (shape.fill slots ms, 0x7D :: rest) := by
  cases fuel with
  | zero => exact absurd hfuel (by simp)
  | succ fuel =>
    cases ms with
    | nil => rfl
    | cons m ms =>
      obtain ⟨name, v⟩ := m
      rw [encodeChars_membersChars_cons,
        members_step (nextName_first name _) (hreads (name, v) List.mem_cons_self)
          (hfree (name, v) List.mem_cons_self) (endsNumber_membersTail ms rest)]
      exact members_tail (List.nodup_cons.1 hnames).2
        (fun n hn => hreads n (List.mem_cons_of_mem _ hn)) (free_fillOne hnames hfree) rest
        (Nat.lt_of_succ_lt_succ hfuel)

/-- The slots of a record without values. -/
def empty (shape : Shape) : Slots := shape.fields.map fun _ => none

theorem free_empty (shape : Shape) (ms : List (String × Json)) : shape.Free shape.empty ms := by
  intro m _ i _
  unfold empty
  rw [List.getElem?_map]
  cases shape.fields[i]? <;> rfl

/-- A record is read from the text of an object. -/
theorem parse_object {shape : Shape} {ms : List (String × Json)}
    (hnames : (ms.map Prod.fst).Nodup) (hreads : ∀ m ∈ ms, shape.Reads (depthLimit - 1) m)
    (hmissing : missing? shape.fields (shape.fill shape.empty ms) = none) :
    shape.parse (encodeChars (Json.object ms).chars) = .ok (shape.fill shape.empty ms) := by
  have hbytes : encodeChars (Json.object ms).chars =
      0x7B :: (encodeChars (membersChars ms) ++ []) := by
    rw [List.append_nil]
    exact encodeChars_cons_of_ascii (by decide) _
  have hmembers := members_first hnames hreads (free_empty shape ms) []
    (length_lt_membersChars ms [])
  have hread : shape.read depthLimit (0x7B :: (encodeChars (membersChars ms) ++ [])) =
      .ok (shape.fill shape.empty ms, []) := by
    show within closeObject afterCloseObject
      ((shape.members (depthLimit - 1) ((encodeChars (membersChars ms) ++ []).length + 1) true
        shape.empty (encodeChars (membersChars ms) ++ [])).bind _) = _
    rw [hmembers]
    simp only [Except.bind, hmissing]
    rfl
  unfold parse whole
  rw [hbytes, hread]
  rfl

theorem missing?_of_optional {fields : List Field} (h : ∀ f ∈ fields, f.optional = true)
    (slots : Slots) : missing? fields slots = none := by
  induction fields generalizing slots with
  | nil => rfl
  | cons f fields ih =>
    cases slots with
    | nil => rfl
    | cons slot slots =>
      rw [missing?, h f List.mem_cons_self, Bool.not_true, Bool.and_false]
      exact ih (fun g hg => h g (List.mem_cons_of_mem _ hg)) slots

theorem missing?_of_full {slots : Slots} (h : ∀ slot ∈ slots, slot.isSome = true)
    (fields : List Field) : missing? fields slots = none := by
  induction fields generalizing slots with
  | nil => rfl
  | cons f fields ih =>
    cases slots with
    | nil => rfl
    | cons slot slots =>
      rw [List.forall_mem_cons] at h
      rw [missing?, Option.isNone_eq_false_iff.2 h.1]
      exact ih h.2

/-- A field is found behind those of other names. -/
theorem place?_of_names {shape : Shape} {front back : List String} {name : String}
    (hnames : shape.fields.map Field.name = front ++ name :: back) (h : name ∉ front) :
    shape.place? name = some front.length := by
  have hfront : front.findIdx? (fun s => s == name) = none := by
    rw [List.findIdx?_eq_none_iff]
    intro s hs
    refine beq_false_of_ne ?_
    rintro rfl
    exact h hs
  have hfind : shape.place? name = (shape.fields.map Field.name).findIdx? fun s => s == name := by
    rw [List.findIdx?_map]
    rfl
  rw [hfind, hnames, List.findIdx?_append, hfront, List.findIdx?_cons]
  simp

/-- Members that have the names of the fields in their order fill all slots. -/
theorem fill_of_names {shape : Shape} {ms : List (String × Json)}
    (hnames : shape.fields.map Field.name = ms.map Prod.fst) (hnodup : (ms.map Prod.fst).Nodup) :
    shape.fill shape.empty ms = ms.map fun m => some m.2 := by
  -- the slots before a member are those of the members before it
  have hfill (done rest : List (String × Json)) (hms : ms = done ++ rest) :
      shape.fill ((done.map fun m => some m.2) ++ rest.map fun _ => none) rest =
        ms.map fun m => some m.2 := by
    induction rest generalizing done with
    | nil =>
      rw [hms, List.append_nil, List.map_nil, List.append_nil]
      rfl
    | cons m rest ih =>
      have hsplit : ms.map Prod.fst = done.map Prod.fst ++ m.1 :: rest.map Prod.fst := by
        rw [hms, List.map_append, List.map_cons]
      have hnew : m.1 ∉ done.map Prod.fst := by
        rw [hsplit, List.nodup_append] at hnodup
        exact fun h => hnodup.2.2 m.1 h m.1 List.mem_cons_self rfl
      have hplace := place?_of_names (hnames.trans hsplit) hnew
      rw [List.length_map] at hplace
      have hone : shape.fillOne ((done.map fun m => some m.2) ++ (m :: rest).map fun _ => none) m =
          ((done ++ [m]).map fun m => some m.2) ++ rest.map fun _ => none := by
        unfold fillOne
        rw [hplace]
        simp
      show shape.fill (shape.fillOne _ m) rest = _
      rw [hone]
      exact ih (done ++ [m]) (by rw [hms, List.append_assoc, List.singleton_append])
  have hempty : shape.empty = ms.map fun _ => none := by
    have hlength := congrArg List.length hnames
    rw [List.length_map, List.length_map] at hlength
    rw [empty, List.map_const', List.map_const', hlength]
  rw [hempty]
  exact hfill [] ms rfl

end Shape

/-! ## What has been read -/

/-- A value that a field can read. -/
def Field.Gives (f : Field) (v : Json) : Prop :=
  ∃ levels bs rest, f.read levels bs = .ok (v, rest)

namespace Shape

/-- The values in the slots of some fields were read by these. -/
def Filled (fields : List Field) (slots : Slots) : Prop :=
  ∀ (i : Nat) (f : Field) (v : Json), fields[i]? = some f → slots[i]? = some (some v) → f.Gives v

theorem filled_empty (shape : Shape) : Filled shape.fields shape.empty := by
  intro i f v hf hslot
  rw [empty, List.getElem?_map, hf] at hslot
  cases hslot

theorem Filled.set {fields : List Field} {slots : Slots} (h : Filled fields slots) {i : Nat}
    {f : Field} {v : Json} (hf : fields[i]? = some f) (hv : f.Gives v) :
    Filled fields (slots.set i (some v)) := by
  intro j g w hg hslot
  by_cases hij : i = j
  · subst hij
    obtain rfl := Option.some.inj (hf.symm.trans hg)
    obtain rfl : w = v := by
      rw [List.getElem?_set_self'] at hslot
      cases hget : slots[i]? with
      | none =>
        rw [hget] at hslot
        cases hslot
      | some old =>
        rw [hget] at hslot
        exact (Option.some.inj (Option.some.inj hslot)).symm
    exact hv
  · rw [List.getElem?_set_ne hij] at hslot
    exact h j g w hg hslot

theorem Filled.cons {fields : List Field} {slots : Slots} (h : Filled fields slots) {f : Field}
    {slot : Option Json} (hslot : ∀ v, slot = some v → f.Gives v) :
    Filled (f :: fields) (slot :: slots) := by
  intro i g v hg hv
  cases i with
  | zero =>
    obtain rfl := Option.some.inj hg
    exact hslot v (Option.some.inj hv)
  | succ i => exact h i g v hg hv

theorem filled_members {shape : Shape} {levels fuel : Nat} {first : Bool} {slots slots' : Slots}
    {bs rest : List UInt8} (hfilled : Filled shape.fields slots)
    (h : shape.members levels fuel first slots bs = .ok (slots', rest)) :
    Filled shape.fields slots' := by
  induction fuel generalizing first slots bs with
  | zero =>
    cases h
    exact hfilled
  | succ fuel ih =>
    obtain ⟨⟨name?, rest₁⟩, -, h⟩ := bind_eq_ok.1 h
    cases name? with
    | none =>
      cases h
      exact hfilled
    | some name =>
      simp only at h
      split at h
      · obtain ⟨_, -, h⟩ := bind_eq_ok.1 h
        obtain ⟨_, -, h⟩ := bind_eq_ok.1 h
        exact ih hfilled h
      · split at h
        · cases h
        · split at h
          · cases h
            exact hfilled
          · rename_i f hf
            obtain ⟨⟨_, rest₂⟩, -, h⟩ := bind_eq_ok.1 h
            obtain ⟨⟨v, rest₃⟩, hread, h⟩ := bind_eq_ok.1 h
            exact ih (hfilled.set hf ⟨levels, rest₂, rest₃, hread⟩) h

theorem filled_values {shape : Shape} {levels : Nat} {fields : List Field} {first : Bool}
    {slots : Slots} {bs rest : List UInt8}
    (h : shape.values levels fields first bs = .ok (slots, rest)) : Filled fields slots := by
  induction fields generalizing first slots bs rest with
  | nil => nofun
  | cons f fields ih =>
    obtain ⟨⟨more, rest₁⟩, -, h⟩ := bind_eq_ok.1 h
    simp only at h
    split at h
    · obtain ⟨⟨v, rest₂⟩, hread, h⟩ := bind_eq_ok.1 h
      obtain ⟨⟨slots', rest₃⟩, hvalues, h⟩ := map_eq_ok.1 h
      cases h
      refine (ih hvalues).cons fun w hw => ?_
      cases hw
      exact ⟨levels, rest₁, rest₂, hread⟩
    · split at h
      · obtain ⟨⟨slots', rest₂⟩, hvalues, h⟩ := map_eq_ok.1 h
        cases h
        exact (ih hvalues).cons nofun
      · cases h

theorem eq_ok_of_within {α : Type} {close : List UInt8 → Reading Unit}
    {afterClose : List UInt8 → List UInt8} {r : Reading α} {x : α} {rest : List UInt8}
    (h : within close afterClose r = .ok (x, rest)) : ∃ rest', r = .ok (x, rest') := by
  unfold within at h
  split at h
  · rename_i rest'
    obtain ⟨_, -, h⟩ := map_eq_ok.1 h
    cases h
    exact ⟨rest', rfl⟩
  · cases h
  · cases h

theorem mismatch_ne_ok {α : Type} (expected : String) (bs : List UInt8) (x : α × List UInt8) :
    mismatch expected bs ≠ .ok x := by
  intro h
  obtain ⟨_, -, h⟩ := bind_eq_ok.1 h
  cases h

theorem filled_read {shape : Shape} {levels : Nat} {slots : Slots} {bs rest : List UInt8}
    (h : shape.read levels bs = .ok (slots, rest)) : Filled shape.fields slots := by
  unfold read at h
  split at h
  · split at h
    · cases h
    · obtain ⟨_, hvalues⟩ := eq_ok_of_within h
      exact filled_values hvalues
  · split at h
    · cases h
    · obtain ⟨_, h⟩ := eq_ok_of_within h
      obtain ⟨⟨slots', rest'⟩, hmembers, h⟩ := bind_eq_ok.1 h
      simp only at h
      split at h
      · cases h
      · cases h
        exact filled_members (filled_empty shape) hmembers
  · exact absurd h (mismatch_ne_ok _ _ _)

/-- Whatever text a record is read from, its fields have read the values in its slots. -/
theorem filled_of_parse {shape : Shape} {bytes : List UInt8} {slots : Slots}
    (h : shape.parse bytes = .ok slots) : Filled shape.fields slots := by
  unfold parse whole at h
  split at h
  · rename_i slots' rest hsettled
    split at h
    · cases h
      unfold settle at hsettled
      split at hsettled
      · cases hsettled
      · exact filled_read hsettled
    · cases h
  · cases h
  · cases h

end Shape

end OpenIdProvider.Json
