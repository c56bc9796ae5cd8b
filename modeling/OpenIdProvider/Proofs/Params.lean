/-
  The parameters of a request. They are read if all escapes of the texts that are read are whole;
  else the request is refused, with the first bad escape of the first such text. Form data are read
  as the pairs that they were written for, and it does not matter how the pairs are split between
  the body and the query.
-/
import OpenIdProvider.Params
import OpenIdProvider.Proofs.Chain
import OpenIdProvider.Proofs.Codec.Form
import OpenIdProvider.Proofs.Codec.Percent

namespace OpenIdProvider

open Http
open Utf8 (encodeChars)

/-- A header value of visible characters is read as it was written. -/
theorem Http.Headers.text?_of_visible {headers : Headers} {name s : String}
    (h : headers.first? name = some (Utf8.encode s))
    (hvisible : ∀ c ∈ s.toList, 0x20 ≤ c.toNat ∧ c.toNat < 0x7F) :
    headers.text? name = some s.toList := by
  have hchars (cs : List Char) (hcs : ∀ c ∈ cs, 0x20 ≤ c.toNat ∧ c.toNat < 0x7F) :
      (Utf8.encodeChars cs).all isReadable = true ∧
        (Utf8.encodeChars cs).map (fun b => Char.ofNat b.toNat) = cs := by
    induction cs with
    | nil => exact ⟨rfl, rfl⟩
    | cons c cs ih =>
      obtain ⟨hlow, hhigh⟩ := hcs c List.mem_cons_self
      obtain ⟨hall, hmap⟩ := ih fun d hd => hcs d (List.mem_cons_of_mem _ hd)
      have hbyte : c.toNat.toUInt8.toNat = c.toNat := Utf8.toNat_toUInt8 (by omega)
      have hreadable : isReadable c.toNat.toUInt8 = true := by
        simp only [isReadable, UInt8.le_iff_toNat_le, UInt8.lt_iff_toNat_lt, hbyte,
          UInt8.reduceToNat, Bool.or_eq_true, Bool.and_eq_true, decide_eq_true_eq]
        exact .inl ⟨hlow, hhigh⟩
      rw [Utf8.encodeChars_cons_of_ascii (by omega), List.all_cons, hreadable, hall, List.map_cons,
        hbyte, hmap, Char.ofNat_toNat]
      exact ⟨rfl, rfl⟩
  obtain ⟨hall, hmap⟩ := hchars s.toList hvisible
  unfold text?
  rw [h]
  exact (if_pos hall).trans (congrArg some hmap)

namespace Params

/-! ## Texts that are read -/

/-- The texts of a request that parameters are read from, in the order in which their escapes are
checked. -/
def readTexts (headers : Headers) (query : Option (List UInt8)) (body : List UInt8) :
    List (List UInt8) :=
  (if declaresForm headers then [body] else []) ++ query.toList

/-- All of them are checked before anything is read. -/
theorem ofRequest_eq (headers : Headers) (query : Option (List UInt8)) (body : List UInt8) :
    ofRequest headers query body =
      ((readTexts headers query body).forM checkEscapes).map fun _ =>
        ofForms query (if declaresForm headers then body else []) := by
  have hlast (text : List UInt8) (params : Params) :
      (checkEscapes text >>= fun _ => .ok params) =
        ([text].forM checkEscapes).map fun _ => params := by
    show _ = (checkEscapes text >>= fun _ => .ok ()).map fun _ => params
    cases checkEscapes text <;> rfl
  unfold ofRequest readTexts
  cases declaresForm headers with
  | false =>
    cases query with
    | none => rfl
    | some query => exact hlast query _
  | true =>
    show (checkEscapes body >>= fun _ => _) =
      (checkEscapes body >>= fun _ => query.toList.forM checkEscapes).map _
    cases checkEscapes body with
    | error e => rfl
    | ok u =>
      cases query with
      | none => rfl
      | some query => exact hlast query _

theorem checkEscapes_eq_ok_iff {text : List UInt8} :
    checkEscapes text = .ok () ↔ Percent.badEscape? text = none := by
  unfold checkEscapes
  cases Percent.badEscape? text <;> simp

/-- A request is read if all escapes of its texts are whole. -/
theorem ofRequest_of_whole {headers : Headers} {query : Option (List UInt8)} {body : List UInt8}
    (h : ∀ text ∈ readTexts headers query body, Percent.badEscape? text = none) :
    ofRequest headers query body =
      .ok (ofForms query (if declaresForm headers then body else [])) := by
  have hall : (readTexts headers query body).forM checkEscapes = .ok () :=
    forM_eq_ok.2 fun text htext => checkEscapes_eq_ok_iff.2 (h text htext)
  rw [ofRequest_eq, hall]
  rfl

/-! ## Bad escapes -/

/-- The error that tells of an escape: its `%` and at most two bytes after it. -/
def escapeError (text : List UInt8) (i : Nat) : ProtocolError :=
  ⟨.internalServerError,
    "invalid URL escape \"" ++ Utf8.decodeLossy ((text.drop i).take 3) ++ "\"", 500⟩

theorem checkEscapes_eq_error_iff {text : List UInt8} {e : ProtocolError} :
    checkEscapes text = .error e ↔ ∃ i, Percent.FirstBadAt text i ∧ e = escapeError text i := by
  unfold checkEscapes
  cases hsearch : Percent.badEscape? text with
  | none =>
    refine ⟨nofun, fun ⟨i, hfirst, _⟩ => ?_⟩
    exact absurd hfirst.bad (Percent.badEscape?_eq_none_iff.1 hsearch i)
  | some piece =>
    obtain ⟨i, hfirst, rfl⟩ := Percent.badEscape?_eq_some_iff.1 hsearch
    constructor
    · rintro ⟨⟩
      exact ⟨i, hfirst, rfl⟩
    · rintro ⟨j, hfirst', rfl⟩
      rw [hfirst.unique hfirst']
      rfl

/-- How the escapes of a request are checked. -/
structure ChecksEscapes (headers : Headers) (query : Option (List UInt8)) (body : List UInt8) :
    Prop where
  /-- The request is refused if a `%` in one of its texts begins no escape. -/
  refused_iff : (∃ e, ofRequest headers query body = .error e) ↔
    ∃ text ∈ readTexts headers query body, ∃ i, Percent.BadAt text i
  /-- The texts without such a `%` are the words over escapes and bytes other than `%`. -/
  word_iff : ∀ text ∈ readTexts headers query body,
    Percent.WellEscaped text ↔ ¬ ∃ i, Percent.BadAt text i
  /-- The error quotes the leftmost such `%`, of the body before one of the query. -/
  error_iff : ∀ e, ofRequest headers query body = .error e ↔
    ∃ before text after i, readTexts headers query body = before ++ text :: after ∧
      (∀ whole ∈ before, Percent.WellEscaped whole) ∧ Percent.FirstBadAt text i ∧
      e = escapeError text i
  /-- A search by index never leaves the text, and finds the same. -/
  within : ∀ text ∈ readTexts headers query body,
    Percent.search text = some (Percent.badEscape? text)

theorem wellEscaped_iff_checkEscapes {text : List UInt8} :
    Percent.WellEscaped text ↔ checkEscapes text = .ok () := by
  rw [checkEscapes_eq_ok_iff, Percent.badEscape?_eq_none_iff, Percent.wellEscaped_iff]

/-- The escapes of every request are checked so. -/
theorem checksEscapes (headers : Headers) (query : Option (List UInt8)) (body : List UInt8) :
    ChecksEscapes headers query body := by
  have herror (e : ProtocolError) : ofRequest headers query body = .error e ↔
      (readTexts headers query body).forM checkEscapes = .error e := by
    rw [ofRequest_eq]
    cases (readTexts headers query body).forM checkEscapes <;> simp [Except.map]
  have hword (text : List UInt8) :
      Percent.WellEscaped text ↔ ¬ ∃ i, Percent.BadAt text i := by
    rw [Percent.wellEscaped_iff, not_exists]
  refine ⟨?_, fun text _ => hword text, fun e => ?_, fun text _ => Percent.search_eq text⟩
  · constructor
    · rintro ⟨e, he⟩
      obtain ⟨before, text, after, htexts, -, hfails⟩ := forM_eq_error.1 ((herror e).1 he)
      obtain ⟨i, hfirst, -⟩ := checkEscapes_eq_error_iff.1 hfails
      exact ⟨text, by rw [htexts]; simp, i, hfirst.bad⟩
    · rintro ⟨text, htext, hbad⟩
      cases hall : (readTexts headers query body).forM checkEscapes with
      | error e => exact ⟨e, (herror e).2 hall⟩
      | ok u =>
        have hwhole := wellEscaped_iff_checkEscapes.2 (forM_eq_ok.1 hall text htext)
        exact absurd hbad ((hword text).1 hwhole)
  · rw [herror, forM_eq_error]
    simp only [← wellEscaped_iff_checkEscapes, checkEscapes_eq_error_iff, exists_and_left]

/-! ## Values -/

theorem get_append {name value : String} {ps : List (String × String)}
    (h : ps.lookup name = some value) (qs : List (String × String)) :
    Params.get ⟨ps ++ qs⟩ name = value := by
  unfold get
  rw [List.lookup_append, h]
  rfl

theorem get_setDefault (params : Params) (name value other : String) :
    (params.setDefault name value).get other =
      if other = name ∧ params.get name = "" then value else params.get other := by
  unfold setDefault
  by_cases hempty : params.get name = ""
  · rw [if_pos hempty]
    by_cases hname : other = name
    · rw [if_pos ⟨hname, hempty⟩, hname]
      simp [get]
    · have hne : (other == name) = false := by simpa using hname
      rw [if_neg fun h => hname h.1, get, List.lookup_cons, hne]
      rfl
  · rw [if_neg hempty, if_neg fun h => hempty h.2]

/-- The value of the first pair of a name, or the empty text. -/
def firstValue (name : String) (pairs : List (String × String)) : String :=
  match pairs.find? fun pair => pair.1 = name with
  | some pair => pair.2
  | none => ""

theorem get_eq_firstValue (params : Params) (name : String) :
    params.get name = firstValue name params.pairs := by
  unfold get firstValue
  induction params.pairs with
  | nil => rfl
  | cons pair pairs ih =>
    rw [List.lookup_cons, List.find?_cons]
    by_cases hname : pair.1 = name
    · simp [hname]
    · have hne : (name == pair.1) = false := by simpa using Ne.symm hname
      simpa [hne, hname] using ih

/-- Puts a pair into a map if the map does not have its name. -/
def insertAbsent (values : String → Option String) (pair : String × String) :
    String → Option String :=
  fun name => (values name).or (if name = pair.1 then some pair.2 else none)

theorem foldl_insertAbsent (pairs : List (String × String)) (values : String → Option String)
    (name : String) :
    pairs.foldl insertAbsent values name = (values name).or (pairs.lookup name) := by
  induction pairs generalizing values with
  | nil => exact (Option.or_none).symm
  | cons pair pairs ih =>
    rw [List.foldl_cons, ih, insertAbsent, Option.or_assoc, List.lookup_cons]
    by_cases hname : name = pair.1
    · simp [hname]
    · have hne : (name == pair.1) = false := by simpa using hname
      rw [if_neg hname, hne]
      rfl

/-- The first pair of a name is the one that a map keeps into which the pairs are put in order. -/
theorem get_eq_foldl_insertAbsent (params : Params) (name : String) :
    params.get name = (params.pairs.foldl insertAbsent (fun _ => none) name).getD "" := by
  rw [foldl_insertAbsent, Option.none_or, get]

/-! ## Form data -/

/-- Form data in the body and in the query are read as the pairs that they were written for. -/
theorem ofRequest_encode (headers : Headers) (query : Option (List (String × String)))
    (body : List (String × String)) :
    ofRequest headers (query.map fun pairs => encodeChars (Form.encode pairs))
        (encodeChars (Form.encode body)) =
      .ok ⟨(if declaresForm headers then body else []) ++ query.getD []⟩ := by
  have hwhole : ∀ text ∈ readTexts headers
      (query.map fun pairs => encodeChars (Form.encode pairs)) (encodeChars (Form.encode body)),
      Percent.badEscape? text = none := by
    intro text htext
    rcases List.mem_append.1 htext with hbody | hquery
    · split at hbody
      · rw [List.mem_singleton.1 hbody]
        exact Form.badEscape?_encode body
      · cases hbody
    · obtain ⟨pairs, -, rfl⟩ := Option.map_eq_some_iff.1 (Option.mem_toList.1 hquery)
      exact Form.badEscape?_encode pairs
  have hread : Form.decode (if declaresForm headers then encodeChars (Form.encode body) else []) =
      if declaresForm headers then body else [] := by
    split
    · exact Form.decode_encode body
    · rfl
  rw [ofRequest_of_whole hwhole, ofForms, hread]
  cases query with
  | none => rfl
  | some pairs => simp only [Option.map_some, Option.getD_some, Form.decode_encode]

/-- A content type that begins with that of forms declares one, whatever parameters it has. -/
theorem declaresForm_of_mediaType {headers : Headers} {parameters : String}
    (h : headers.first? "content-type" = some (Utf8.encode (Form.mediaType ++ parameters)))
    (hvisible : ∀ c ∈ parameters.toList, 0x20 ≤ c.toNat ∧ c.toNat < 0x7F) :
    declaresForm headers = true := by
  have htype : ∀ c ∈ Form.mediaType.toList, 0x20 ≤ c.toNat ∧ c.toNat < 0x7F :=
    List.all_iff_forall_prop.1 (by decide)
  have htext : headers.text? "content-type" =
      some (Form.mediaType.toList ++ parameters.toList) := by
    rw [← String.toList_append]
    refine Headers.text?_of_visible h fun c hc => ?_
    rw [String.toList_append, List.mem_append] at hc
    exact hc.elim (htype c) (hvisible c)
  have htrim : Blank.trimStart (Form.mediaType.toList ++ parameters.toList) =
      Form.mediaType.toList ++ parameters.toList := rfl
  unfold declaresForm
  rw [htext]
  simp only [htrim, Split.dropPrefix?_append, Option.isSome_some]

/-- Parameters that some pairs are read as, however form data carry them. -/
structure ReadFrom (params : Params) (pairs : List (String × String)) : Prop where
  /-- The first pair of a name counts. -/
  value : ∀ name, params.get name = firstValue name pairs
  /-- The pairs may be put into a map one after the other, each if its name is not there yet. -/
  inserted : ∀ name, params.get name = (pairs.foldl insertAbsent (fun _ => none) name).getD ""
  /-- The pairs can be split between the body of a form and the query. -/
  split : ∀ headers body query, declaresForm headers = true → body ++ query = pairs →
    ofRequest headers (some (encodeChars (Form.encode query))) (encodeChars (Form.encode body)) =
      .ok params
  /-- They can all be in the body. -/
  posted : ∀ headers, declaresForm headers = true →
    ofRequest headers none (encodeChars (Form.encode pairs)) = .ok params
  /-- They can all be in the query, and then there need not be a form. -/
  queried : ∀ headers, ofRequest headers (some (encodeChars (Form.encode pairs))) [] = .ok params
  /-- A form is declared by its content type, which may have parameters. -/
  declared : ∀ headers parameters,
    Headers.first? headers "content-type" = some (Utf8.encode (Form.mediaType ++ parameters)) →
      (∀ c ∈ parameters.toList, 0x20 ≤ c.toNat ∧ c.toNat < 0x7F) → declaresForm headers = true

/-- All pairs are read as some parameters. -/
theorem exists_readFrom (pairs : List (String × String)) : ∃ params, ReadFrom params pairs := by
  refine ⟨⟨pairs⟩, get_eq_firstValue ⟨pairs⟩, get_eq_foldl_insertAbsent ⟨pairs⟩, ?_, ?_,
    fun headers => ?_, fun _ _ => declaresForm_of_mediaType⟩
  · rintro headers body query hform rfl
    have h := ofRequest_encode headers (some query) body
    rwa [if_pos hform] at h
  · intro headers hform
    have h := ofRequest_encode headers none pairs
    rwa [if_pos hform, Option.getD_none, List.append_nil] at h
  · have h := ofRequest_encode headers (some pairs) []
    rwa [ite_self] at h

end Params

end OpenIdProvider
