/-
  Which bodies are read as forms. A content type names a media type in front of its first semicolon,
  and neither the white space around it nor the case of its letters matters. The body of a request
  is read if what the content type begins with, after white space, is the media type of forms in
  lower case. So a body is read by its media type unless the media type is that of forms in other
  letters, or goes on behind that of forms.
-/
import OpenIdProvider.Proofs.Params

namespace OpenIdProvider

open Http

/-! ## White space -/

namespace Blank

/-- White space is dropped from the front of a text before or after the text is cut off. -/
theorem trimStart_takeWhile {p : Char → Bool} (h : ∀ c, isBlank c = true → p c = true)
    (cs : List Char) : trimStart (cs.takeWhile p) = (trimStart cs).takeWhile p := by
  unfold trimStart
  induction cs with
  | nil => rfl
  | cons c cs ih =>
    cases hblank : isBlank c with
    | true =>
      rw [List.takeWhile_cons_of_pos (h c hblank), List.dropWhile_cons_of_pos hblank,
        List.dropWhile_cons_of_pos hblank, ih]
    | false =>
      have hstop : ¬ isBlank c = true := by simp [hblank]
      rw [List.dropWhile_cons_of_neg hstop]
      by_cases hc : p c = true
      · rw [List.takeWhile_cons_of_pos hc, List.dropWhile_cons_of_neg hstop]
      · rw [List.takeWhile_cons_of_neg hc]
        rfl

/-- White space at the end of a text is not part of a front without white space. -/
theorem prefix_trimEnd_iff {front cs : List Char} (h : ∀ c ∈ front, isBlank c = false) :
    front <+: trimEnd cs ↔ front <+: cs := by
  unfold trimEnd
  constructor
  · intro hfront
    have hcut : (cs.reverse.dropWhile isBlank).reverse <+: cs := by
      rw [← List.reverse_suffix, List.reverse_reverse]
      exact List.dropWhile_suffix _
    exact hfront.trans hcut
  · rintro ⟨rest, rfl⟩
    rw [List.reverse_append, List.dropWhile_append]
    split
    · have hkeep : front.reverse.dropWhile isBlank = front.reverse := by
        cases hreverse : front.reverse with
        | nil => rfl
        | cons c cs =>
          have hc := h c (List.mem_reverse.1 (hreverse ▸ List.mem_cons_self))
          exact List.dropWhile_cons_of_neg (by simp [hc])
      exact ⟨[], by rw [hkeep, List.reverse_reverse, List.append_nil]⟩
    · rw [List.reverse_append, List.reverse_reverse]
      exact List.prefix_append _ _

end Blank

namespace Params

/-! ## The media type of a request -/

/-- What a content type has in front of its first semicolon, without the white space around it. -/
def typeName (value : List Char) : List Char :=
  Blank.trim (value.takeWhile fun c => c != ';')

/-- Whether the media type of a request is that of forms, in letters of either case. -/
def HasFormType (headers : Headers) : Prop :=
  ∃ value, headers.text? "content-type" = some value ∧
    (typeName value).map Ascii.toLower = Form.mediaType.toList

/-- A text begins with the media type of forms, after white space, if its media type does. -/
theorem formType_prefix_iff (value : List Char) :
    Form.mediaType.toList <+: Blank.trimStart value ↔
      Form.mediaType.toList <+: typeName value := by
  have hplain : ∀ c ∈ Form.mediaType.toList, Blank.isBlank c = false ∧ (c != ';') = true :=
    List.all_iff_forall_prop.1 (by decide)
  have hblank (c : Char) (h : Blank.isBlank c = true) : (c != ';') = true := by
    refine bne_iff_ne.2 ?_
    rintro rfl
    exact absurd h (by decide)
  unfold typeName Blank.trim
  rw [Blank.prefix_trimEnd_iff fun c hc => (hplain c hc).1, Blank.trimStart_takeWhile hblank]
  constructor
  · rintro ⟨rest, hrest⟩
    rw [← hrest, List.takeWhile_append_of_pos fun c hc => (hplain c hc).2]
    exact List.prefix_append _ _
  · intro hfront
    exact hfront.trans (List.takeWhile_prefix _)

theorem declaresForm_iff {headers : Headers} :
    declaresForm headers = true ↔
      ∃ value, headers.text? "content-type" = some value ∧
        Form.mediaType.toList <+: typeName value := by
  unfold declaresForm
  cases headers.text? "content-type" with
  | none => exact iff_of_false Bool.false_ne_true nofun
  | some value =>
    show (Split.dropPrefix? Form.mediaType.toList (Blank.trimStart value)).isSome = true ↔ _
    rw [Split.isSome_dropPrefix?_iff, formType_prefix_iff]
    constructor
    · intro h
      exact ⟨value, rfl, h⟩
    · rintro ⟨_, h, hfront⟩
      cases h
      exact hfront

/-! ## Bodies that are read -/

/-- The parameters of a body and a query, if all their escapes are whole. -/
def ofParts (query : Option (List UInt8)) (body : List UInt8) : Except ProtocolError Params :=
  ((body :: query.toList).forM checkEscapes).map fun _ => ofForms query body

/-- A request is read with its body or as if it had none. -/
theorem ofRequest_eq_ofParts (headers : Headers) (query : Option (List UInt8))
    (body : List UInt8) :
    ofRequest headers query body = ofParts query (if declaresForm headers then body else []) := by
  rw [ofRequest_eq, readTexts, ofParts]
  cases declaresForm headers <;> rfl

/-- Form data are read as the pairs that they were written for. -/
theorem ofParts_encode (pairs : List (String × String)) :
    ofParts none (Utf8.encodeChars (Form.encode pairs)) = .ok ⟨pairs⟩ := by
  have hwhole := checkEscapes_eq_ok_iff.2 (Form.badEscape?_encode pairs)
  have hall : [Utf8.encodeChars (Form.encode pairs)].forM checkEscapes = .ok () :=
    forM_eq_ok.2 (List.forall_mem_singleton.2 hwhole)
  show ([Utf8.encodeChars (Form.encode pairs)].forM checkEscapes).map _ = _
  rw [hall]
  show Except.ok (Params.mk (Form.decode _ ++ [])) = _
  rw [Form.decode_encode, List.append_nil]

/-- The body of a request is read if its media type is that of forms, and without any influence on
the parameters or the success if not. -/
structure ReadsByMediaType (headers : Headers) : Prop where
  read : HasFormType headers → ∀ query body, ofRequest headers query body = ofParts query body
  unread : ¬ HasFormType headers → ∀ query body body',
    ofRequest headers query body = ofRequest headers query body'

/-- A body that is read makes a difference, so it has to be read for its media type only. -/
theorem readsByMediaType_iff_declaresForm {headers : Headers} :
    ReadsByMediaType headers ↔ (declaresForm headers = true ↔ HasFormType headers) := by
  have hpairs (pairs : List (String × String)) :
      ofRequest headers none (Utf8.encodeChars (Form.encode pairs)) =
        .ok ⟨if declaresForm headers then pairs else []⟩ := by
    have h := ofRequest_encode headers none pairs
    rwa [Option.getD_none, List.append_nil] at h
  constructor
  · intro h
    by_cases hform : HasFormType headers
    · have hread := h.read hform none (Utf8.encodeChars (Form.encode [("a", "b")]))
      rw [hpairs, ofParts_encode] at hread
      cases hdeclares : declaresForm headers with
      | true => exact iff_of_true rfl hform
      | false =>
        rw [hdeclares] at hread
        cases hread
    · have hsame := h.unread hform none (Utf8.encodeChars (Form.encode [("a", "b")]))
        (Utf8.encodeChars (Form.encode []))
      rw [hpairs, hpairs] at hsame
      cases hdeclares : declaresForm headers with
      | true =>
        rw [hdeclares] at hsame
        cases hsame
      | false => exact iff_of_false Bool.false_ne_true hform
  · intro h
    refine ⟨fun hform query body => ?_, fun hform query body body' => ?_⟩
    · rw [ofRequest_eq_ofParts, if_pos (h.2 hform)]
    · have hdeclares : ¬ declaresForm headers = true := fun hdeclares => hform (h.1 hdeclares)
      rw [ofRequest_eq_ofParts, ofRequest_eq_ofParts, if_neg hdeclares, if_neg hdeclares]

/-- A body is read by its media type exactly where no media type but that of forms, written in lower
case, is that of forms in other letters or begins with it. -/
theorem readsByMediaType_iff (headers : Headers) :
    ReadsByMediaType headers ↔
      ∀ value, headers.text? "content-type" = some value →
        Form.mediaType.toList <+: typeName value ∨
          (typeName value).map Ascii.toLower = Form.mediaType.toList →
        typeName value = Form.mediaType.toList := by
  have hlower : Form.mediaType.toList.map Ascii.toLower = Form.mediaType.toList := by decide
  rw [readsByMediaType_iff_declaresForm, declaresForm_iff, HasFormType]
  constructor
  · rintro h value htext hnear
    have hboth : Form.mediaType.toList <+: typeName value ∧
        (typeName value).map Ascii.toLower = Form.mediaType.toList := by
      rcases hnear with hfront | hform
      · obtain ⟨value', htext', hform⟩ := h.1 ⟨value, htext, hfront⟩
        obtain rfl := Option.some.inj (htext.symm.trans htext')
        exact ⟨hfront, hform⟩
      · obtain ⟨value', htext', hfront⟩ := h.2 ⟨value, htext, hform⟩
        obtain rfl := Option.some.inj (htext.symm.trans htext')
        exact ⟨hfront, hform⟩
    -- a front of the same length is the whole
    have hlength := congrArg List.length hboth.2
    rw [List.length_map] at hlength
    exact (hboth.1.eq_of_length hlength.symm).symm
  · intro h
    constructor
    · rintro ⟨value, htext, hfront⟩
      refine ⟨value, htext, ?_⟩
      rw [h value htext (.inl hfront), hlower]
    · rintro ⟨value, htext, hform⟩
      exact ⟨value, htext, [], (List.append_nil _).trans (h value htext (.inr hform)).symm⟩

/-- The header fields of a request with a content type. -/
def typed (contentType : String) : Headers := Headers.ofPairs [("Content-Type", contentType)]

theorem text?_typed (contentType : String)
    (h : ∀ c ∈ contentType.toList, 0x20 ≤ c.toNat ∧ c.toNat < 0x7F) :
    (typed contentType).text? "content-type" = some contentType.toList :=
  Headers.text?_of_visible rfl h

/-- The media type of forms with capitals in it. -/
def capitals : Headers := typed "Application/X-WWW-Form-Urlencoded"

/-- A media type that begins as that of forms does. -/
def longer : Headers := typed "application/x-www-form-urlencodedX"

/-- A form whose media type is written with capitals is passed over, and a body whose media type
goes on behind that of forms is read as a form. -/
theorem not_readsByMediaType_of_capitals :
    (HasFormType capitals ∧ ofRequest capitals none (Utf8.encode "a=b") = .ok ⟨[]⟩ ∧
        ¬ ReadsByMediaType capitals) ∧
      (¬ HasFormType longer ∧ ofRequest longer none (Utf8.encode "a=b") = .ok ⟨[("a", "b")]⟩ ∧
        ¬ ReadsByMediaType longer) := by
  have hcapitals := text?_typed "Application/X-WWW-Form-Urlencoded"
    (List.all_iff_forall_prop.1 (by decide))
  have hlonger := text?_typed "application/x-www-form-urlencodedX"
    (List.all_iff_forall_prop.1 (by decide))
  have hform : HasFormType capitals := ⟨_, hcapitals, by decide⟩
  have hother : ¬ HasFormType longer := by
    rintro ⟨value, htext, hname⟩
    obtain rfl := Option.some.inj (hlonger.symm.trans htext)
    exact absurd hname (by decide)
  have hpassed : ¬ declaresForm capitals = true := by
    rw [declaresForm_iff]
    rintro ⟨value, htext, hfront⟩
    obtain rfl := Option.some.inj (hcapitals.symm.trans htext)
    exact absurd hfront (by decide)
  have hread : declaresForm longer = true := declaresForm_iff.2 ⟨_, hlonger, by decide⟩
  have hbody : Utf8.encode "a=b" = Utf8.encodeChars (Form.encode [("a", "b")]) := by decide
  refine ⟨⟨hform, ?_, fun h => ?_⟩, hother, ?_, fun h => ?_⟩
  · rw [ofRequest_eq_ofParts, if_neg hpassed]
    exact ofParts_encode []
  · exact hpassed ((readsByMediaType_iff_declaresForm.1 h).2 hform)
  · rw [ofRequest_eq_ofParts, if_pos hread, hbody]
    exact ofParts_encode [("a", "b")]
  · exact hother ((readsByMediaType_iff_declaresForm.1 h).1 hread)

end Params

end OpenIdProvider
