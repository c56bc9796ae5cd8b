/-
  Normal paths. A path is a list of segments, each with a slash in front; it is normal if no
  segment holds a separator or a character to be escaped and none is a dot segment. Reading
  segments keeps a path normal (`readSegments_normal`), and a normal path that is read again gives
  itself (`readSegments_pathOf`), but for a drive letter at the front of a `file` path.
-/
import Mathlib.Tactic.Tauto
import OpenIdProvider.Proofs.Text.Ascii
import OpenIdProvider.Proofs.Text.Split
import OpenIdProvider.Proofs.Url.Escaping
import OpenIdProvider.Url.Path

namespace OpenIdProvider.Url

/-- The characters of segments: kept in paths and no separators. -/
def isSegmentChar (kind : SchemeKind) (c : Char) : Bool :=
  isKept pathSet c && c ≠ '/' && !(c = '\\' && kind.isSpecial)

/-- A segment as it is written. -/
structure NormalSegment (kind : SchemeKind) (segment : List Char) : Prop where
  chars : ∀ c ∈ segment, isSegmentChar kind c = true
  notSingleDot : isSingleDot segment = false
  notDoubleDot : isDoubleDot segment = false

/-- The path of some segments. -/
def pathOf (segments : List (List Char)) : List Char := segments.flatMap ('/' :: ·)

/-- A path of normal segments, at least one. -/
def NormalPath (kind : SchemeKind) (path : List Char) : Prop :=
  ∃ segments, segments ≠ [] ∧ path = pathOf segments ∧
    ∀ segment ∈ segments, NormalSegment kind segment

/-- A normal path with a slash at its end, which the next segment follows. -/
def OpenPath (kind : SchemeKind) (path : List Char) : Prop :=
  ∃ segments, path = pathOf segments ++ ['/'] ∧ ∀ segment ∈ segments, NormalSegment kind segment

/-- What may follow a path: nothing, or the mark of a query or a fragment. -/
def IsTail (tail : List Char) : Prop := ∀ c ∈ tail.head?, c = '?' ∨ c = '#'

/-! ## Segments -/

theorem pathOf_append (first second : List (List Char)) :
    pathOf (first ++ second) = pathOf first ++ pathOf second := List.flatMap_append

theorem pathOf_cons (segment : List Char) (segments : List (List Char)) :
    pathOf (segment :: segments) = '/' :: segment ++ pathOf segments := rfl

theorem normalSegment_nil (kind : SchemeKind) : NormalSegment kind [] :=
  ⟨nofun, by decide, by decide⟩

theorem isSegmentChar_iff {kind : SchemeKind} {c : Char} :
    isSegmentChar kind c = true ↔
      isKept pathSet c = true ∧ c ≠ '/' ∧ (c = '\\' → kind.isSpecial = false) := by
  simp only [isSegmentChar, Bool.and_eq_true, decide_eq_true_eq, and_assoc, Bool.not_eq_true',
    Bool.and_eq_false_imp]

theorem OpenPath.normalPath {kind : SchemeKind} {path : List Char} (h : OpenPath kind path) :
    NormalPath kind path := by
  obtain ⟨segments, rfl, hsegments⟩ := h
  refine ⟨segments ++ [[]], List.append_ne_nil_of_right_ne_nil _ (List.cons_ne_nil _ _), ?_, ?_⟩
  · rw [pathOf_append]
    rfl
  · intro segment hsegment
    rcases List.mem_append.1 hsegment with hmem | hmem
    · exact hsegments segment hmem
    · rw [List.mem_singleton.1 hmem]
      exact normalSegment_nil kind

/-- A segment after an open path, and the slash behind it. -/
theorem OpenPath.append {kind : SchemeKind} {path segment : List Char} (h : OpenPath kind path)
    (hsegment : NormalSegment kind segment) :
    NormalPath kind (path ++ segment) ∧ OpenPath kind (path ++ segment ++ ['/']) := by
  obtain ⟨segments, rfl, hsegments⟩ := h
  have hpath : pathOf segments ++ ['/'] ++ segment = pathOf (segments ++ [segment]) := by
    rw [pathOf_append, pathOf_cons, List.append_assoc]
    show _ = pathOf segments ++ ('/' :: segment ++ [])
    rw [List.append_nil]
    rfl
  have hall : ∀ other ∈ segments ++ [segment], NormalSegment kind other := by
    intro other hother
    rcases List.mem_append.1 hother with hmem | hmem
    · exact hsegments other hmem
    · rw [List.mem_singleton.1 hmem]
      exact hsegment
  rw [hpath]
  refine ⟨⟨segments ++ [segment], ?_, rfl, hall⟩, ⟨segments ++ [segment], rfl, hall⟩⟩
  exact List.append_ne_nil_of_right_ne_nil _ (List.cons_ne_nil _ _)

theorem openPath_root (kind : SchemeKind) : OpenPath kind ['/'] := ⟨[], rfl, nofun⟩

theorem NormalSegment.slash_not_mem {kind : SchemeKind} {segment : List Char}
    (h : NormalSegment kind segment) : '/' ∉ segment :=
  fun hmem => (isSegmentChar_iff.1 (h.chars '/' hmem)).2.1 rfl

/-! ## Going up -/

theorem endsWithSlash_append (path : List Char) : endsWithSlash (path ++ ['/']) = true := by
  simp [endsWithSlash]

theorem shorten_of_slash (kind : SchemeKind) (path : List Char) :
    shorten kind ('/' :: path) = popSegment kind ('/' :: path) := by
  have hdrive : isDriveLetter ('/' :: path) = false := by
    match path with
    | [] => rfl
    | [_] => rfl
    | _ :: _ :: _ => rfl
  unfold shorten
  rw [hdrive]
  simp

theorem pathOf_append_slash (segments : List (List Char)) :
    ∃ path, pathOf segments ++ ['/'] = '/' :: path := by
  cases segments with
  | nil => exact ⟨[], rfl⟩
  | cons segment segments => exact ⟨_, rfl⟩

/-- The last segment of an open path is empty, so that there is nothing to pop. -/
theorem popSegment_open (kind : SchemeKind) (path : List Char) :
    popSegment kind (path ++ ['/']) = path ++ ['/'] := by
  unfold popSegment
  rw [Split.splitLast_append path List.not_mem_nil]
  simp [isDriveLetter]

theorem startsWithDriveLetter_append_slash {segment : List Char}
    (h : isDriveLetter segment = true) : startsWithDriveLetter (segment ++ ['/']) = true := by
  match segment with
  | [] => cases h
  | [_] => cases h
  | [c, d] =>
    simp only [isDriveLetter, Bool.and_eq_true, decide_eq_true_eq] at h
    simp [startsWithDriveLetter, h]
  | _ :: _ :: _ :: _ => cases h

/-- Going up from an open path gives an open path. -/
theorem OpenPath.goUp {kind : SchemeKind} {path : List Char} (h : OpenPath kind path)
    (slash : Bool) : OpenPath kind (goUp kind path slash) := by
  obtain ⟨segments, rfl, hsegments⟩ := h
  obtain ⟨rest, hrest⟩ := pathOf_append_slash segments
  -- Where the last slash stays there is nothing to take away; else the last segment goes.
  have stays (hstay : lastSlashCanGo (pathOf segments ++ ['/']) = false) :
      Url.goUp kind (pathOf segments ++ ['/']) slash = pathOf segments ++ ['/'] := by
    unfold Url.goUp
    simp only [hstay, Bool.and_false, Bool.false_eq_true, if_false]
    rw [hrest, shorten_of_slash, ← hrest, popSegment_open, endsWithSlash_append]
    simp
  rcases List.eq_nil_or_concat segments with rfl | ⟨front, last, hconcat⟩
  · rw [stays (by decide)]
    exact ⟨[], rfl, nofun⟩
  · rw [List.concat_eq_append] at hconcat
    subst hconcat
    have hlast : '/' ∉ last :=
      (hsegments last (List.mem_append_right _ List.mem_cons_self)).slash_not_mem
    have hpath : pathOf (front ++ [last]) = pathOf front ++ '/' :: last := by
      rw [pathOf_append, pathOf_cons]
      simp [pathOf]
    have hsplit := Split.splitLast_append (pathOf front) hlast
    have hcan : lastSlashCanGo (pathOf (front ++ [last]) ++ ['/']) =
        !startsWithDriveLetter (last ++ ['/']) := by
      unfold lastSlashCanGo
      rw [List.dropLast_concat, hpath, hsplit]
      simp [List.drop_append, List.drop_eq_nil_of_le]
    cases hdrive : startsWithDriveLetter (last ++ ['/']) with
    | true =>
      rw [stays (by rw [hcan, hdrive]; rfl)]
      exact ⟨front ++ [last], rfl, hsegments⟩
    | false =>
      refine ⟨front, ?_, fun segment hsegment =>
        hsegments segment (List.mem_append_left _ hsegment)⟩
      have hletter : isDriveLetter last = false := by
        rw [Bool.eq_false_iff]
        intro h
        rw [startsWithDriveLetter_append_slash h] at hdrive
        cases hdrive
      obtain ⟨rest', hrest'⟩ : ∃ path, pathOf (front ++ [last]) = '/' :: path := by
        cases front with
        | nil => exact ⟨_, rfl⟩
        | cons segment front => exact ⟨_, rfl⟩
      have hpop : shorten kind (pathOf (front ++ [last])) = pathOf front ++ ['/'] := by
        rw [hrest', shorten_of_slash, ← hrest', hpath]
        unfold popSegment
        rw [hsplit]
        simp [hletter]
      unfold Url.goUp
      simp only [endsWithSlash_append, hcan, hdrive, Bool.not_false, Bool.and_self, if_true,
        List.dropLast_concat]
      rw [hpop, endsWithSlash_append]
      simp

/-! ## Adding segments -/

theorem isLooseDriveLetter_iff {segment : List Char} :
    isLooseDriveLetter segment = true ↔
      ∃ c d, segment = [c, d] ∧ Ascii.isLetter c = true ∧ (d = ':' ∨ d = '|') := by
  match segment with
  | [] => simp [isLooseDriveLetter]
  | [_] => simp [isLooseDriveLetter]
  | [c, d] =>
    simp only [isLooseDriveLetter, Bool.and_eq_true, Bool.or_eq_true, decide_eq_true_eq]
    constructor
    · intro h
      exact ⟨c, d, rfl, h⟩
    · rintro ⟨_, _, heq, h⟩
      cases heq
      exact h
  | _ :: _ :: _ :: _ => simp [isLooseDriveLetter]

theorem isSegmentChar_of_isLetter {kind : SchemeKind} {c : Char} (h : Ascii.isLetter c = true) :
    isSegmentChar kind c = true := by
  have hset : ∀ d ∈ pathSet.toList ++ ['/', '\\'], Ascii.isLetter d = false :=
    List.all_iff_forall_prop.1 (by decide)
  have hne {d : Char} (hd : d ∈ pathSet.toList ++ ['/', '\\']) : c ≠ d := by
    rintro rfl
    rw [hset c hd] at h
    cases h
  have hrange := Ascii.isLetter_iff.1 h
  refine isSegmentChar_iff.2 ⟨isKept_eq_true_iff.2 ⟨by omega, by omega, fun hmem => ?_⟩, ?_, ?_⟩
  · exact hne (List.mem_append_left _ hmem) rfl
  · exact hne (by decide)
  · intro hbackslash
    exact absurd hbackslash (hne (by decide))

/-- A drive letter is a segment as it is written. -/
theorem normalSegment_driveLetter {kind : SchemeKind} {c : Char} (h : Ascii.isLetter c = true) :
    NormalSegment kind [c, ':'] := by
  refine ⟨?_, ?_, ?_⟩
  · intro d hd
    rcases List.mem_cons.1 hd with rfl | hd
    · exact isSegmentChar_of_isLetter h
    · rw [List.mem_singleton.1 hd]
      cases kind <;> decide
  · simp [isSingleDot, ← String.toList_inj]
  · have hcolon : Ascii.toLower ':' ≠ '.' := by decide
    simp [isDoubleDot, ← String.toList_inj, hcolon]

/-- The characters of a segment that is being read. -/
theorem isSegmentChar_of_mem_escape {kind : SchemeKind} {c d : Char} (hslash : c ≠ '/')
    (hbackslash : ¬ (c = '\\' ∧ kind.isSpecial = true)) (h : d ∈ escape pathSet c) :
    isSegmentChar kind d = true := by
  have hkept := isKept_of_mem_escape sparesEscapes_path h
  rcases mem_escape h with rfl | hescape
  · refine isSegmentChar_iff.2 ⟨hkept, hslash, fun heq => ?_⟩
    simpa using fun hspecial => hbackslash ⟨heq, hspecial⟩
  · have hne : ∀ e ∈ "%0123456789ABCDEF".toList, e ≠ '/' ∧ e ≠ '\\' :=
      List.all_iff_forall_prop.1 (by decide)
    exact isSegmentChar_iff.2
      ⟨hkept, (hne d hescape).1, fun heq => absurd heq (hne d hescape).2⟩

/-- The first segment after the root of a `file` path that is a drive letter. -/
def TakesDrive (kind : SchemeKind) (first : Bool) (path segment : List Char) : Prop :=
  kind = .file ∧ first = true ∧ path = ['/'] ∧ isLooseDriveLetter segment = true

theorem not_takesDrive_of_later (kind : SchemeKind) (path segment : List Char) :
    ¬ TakesDrive kind false path segment := fun h => Bool.false_ne_true h.2.1

section

variable {kind : SchemeKind} {first : Bool} {st : PathState} {segment : List Char}

theorem addSegment_of_doubleDot (h : isDoubleDot segment = true) (slash : Bool) :
    addSegment kind first st segment slash = { st with path := goUp kind st.path slash } := by
  unfold addSegment
  rw [if_pos h]

theorem addSegment_of_singleDot (h : isDoubleDot segment = false) (h' : isSingleDot segment = true)
    (slash : Bool) :
    addSegment kind first st segment slash =
      { st with path := if endsWithSlash st.path then st.path else st.path ++ ['/'] } := by
  unfold addSegment
  rw [if_neg (by rw [h]; decide), if_pos h']

theorem addSegment_of_drive (h : isDoubleDot segment = false) (h' : isSingleDot segment = false)
    (hdrive : TakesDrive kind first st.path segment) (slash : Bool) :
    addSegment kind first st segment slash =
      ⟨st.path ++ segment.take 1 ++ ':' :: (if slash then ['/'] else []), false⟩ := by
  unfold addSegment
  unfold TakesDrive at hdrive
  rw [if_neg (by rw [h]; decide), if_neg (by rw [h']; decide), if_pos hdrive]

theorem addSegment_of_plain (h : isDoubleDot segment = false) (h' : isSingleDot segment = false)
    (hdrive : ¬ TakesDrive kind first st.path segment) (slash : Bool) :
    addSegment kind first st segment slash =
      { st with path := st.path ++ segment ++ (if slash then ['/'] else []) } := by
  unfold addSegment
  unfold TakesDrive at hdrive
  rw [if_neg (by rw [h]; decide), if_neg (by rw [h']; decide), if_neg hdrive]

/-- Adding a segment to an open path gives a normal path, and an open one if a slash follows. -/
theorem addSegment_normal (h : OpenPath kind st.path)
    (hchars : ∀ c ∈ segment, isSegmentChar kind c = true) (first : Bool) :
    NormalPath kind (addSegment kind first st segment false).path ∧
      OpenPath kind (addSegment kind first st segment true).path := by
  cases hdouble : isDoubleDot segment with
  | true =>
    rw [addSegment_of_doubleDot hdouble, addSegment_of_doubleDot hdouble]
    exact ⟨(h.goUp false).normalPath, h.goUp true⟩
  | false =>
    cases hsingle : isSingleDot segment with
    | true =>
      have hends : endsWithSlash st.path = true := by
        obtain ⟨segments, hpath, -⟩ := h
        rw [hpath]
        exact endsWithSlash_append _
      rw [addSegment_of_singleDot hdouble hsingle, addSegment_of_singleDot hdouble hsingle,
        if_pos hends]
      exact ⟨h.normalPath, h⟩
    | false =>
      by_cases hdrive : TakesDrive kind first st.path segment
      · rw [addSegment_of_drive hdouble hsingle hdrive, addSegment_of_drive hdouble hsingle hdrive]
        obtain ⟨-, -, hroot, hloose⟩ := hdrive
        obtain ⟨c, d, rfl, hletter, -⟩ := isLooseDriveLetter_iff.1 hloose
        rw [hroot]
        exact (openPath_root kind).append (normalSegment_driveLetter hletter)
      · rw [addSegment_of_plain hdouble hsingle hdrive, addSegment_of_plain hdouble hsingle hdrive]
        have happend := h.append ⟨hchars, hsingle, hdouble⟩
        simpa using happend

end

/-! ## Reading segments -/

/-- Reading keeps a path normal and stops at the mark of a query or a fragment. -/
theorem readSegments_normal {kind : SchemeKind} (input : List Char) (first : Bool)
    {st : PathState} {segment : List Char} (h : OpenPath kind st.path)
    (hchars : ∀ c ∈ segment, isSegmentChar kind c = true) :
    NormalPath kind (readSegments kind first st segment input).1.path ∧
      IsTail (readSegments kind first st segment input).2 := by
  induction input generalizing first st segment with
  | nil =>
    rw [readSegments]
    have hreverse : ∀ c ∈ segment.reverse, isSegmentChar kind c = true :=
      fun c hc => hchars c (List.mem_reverse.1 hc)
    exact ⟨(addSegment_normal h hreverse first).1, nofun⟩
  | cons c rest ih =>
    have hreverse : ∀ c ∈ segment.reverse, isSegmentChar kind c = true :=
      fun c hc => hchars c (List.mem_reverse.1 hc)
    rw [readSegments]
    by_cases hslash : c = '/' ∨ (c = '\\' ∧ kind.isSpecial)
    · rw [if_pos hslash]
      exact ih false (addSegment_normal h hreverse first).2 nofun
    · rw [if_neg hslash]
      rw [not_or] at hslash
      by_cases hmark : c = '?' ∨ c = '#'
      · rw [if_pos hmark]
        refine ⟨(addSegment_normal h hreverse first).1, ?_⟩
        intro d hd
        obtain rfl : c = d := by simpa using hd
        exact hmark
      · rw [if_neg hmark]
        refine ih first h fun d hd => ?_
        rcases List.mem_append.1 hd with hd | hd
        · exact isSegmentChar_of_mem_escape hslash.1 hslash.2 (List.mem_reverse.1 hd)
        · exact hchars d hd

/-! ## Reading a normal path again -/

/-- Characters of a segment are read as they are. -/
theorem readSegments_chars {kind : SchemeKind} (segment : List Char)
    (h : ∀ c ∈ segment, isSegmentChar kind c = true) (first : Bool) (st : PathState)
    (read rest : List Char) :
    readSegments kind first st read (segment ++ rest) =
      readSegments kind first st (segment.reverse ++ read) rest := by
  induction segment generalizing read with
  | nil => rfl
  | cons c segment ih =>
    obtain ⟨hkept, hslash, hbackslash⟩ := isSegmentChar_iff.1 (h c List.mem_cons_self)
    have hsep : ¬ (c = '/' ∨ (c = '\\' ∧ kind.isSpecial)) := by
      rintro (heq | ⟨heq, hspecial⟩)
      · exact hslash heq
      · rw [hbackslash heq] at hspecial
        cases hspecial
    have hmark : ¬ (c = '?' ∨ c = '#') := by
      rintro (rfl | rfl)
      · exact absurd hkept (by decide)
      · exact absurd hkept (by decide)
    rw [List.cons_append, readSegments, if_neg hsep, if_neg hmark, escape_of_isKept hkept,
      ih fun d hd => h d (List.mem_cons_of_mem _ hd)]
    simp

theorem readSegments_tail {kind : SchemeKind} {tail : List Char} (h : IsTail tail) (first : Bool)
    (st : PathState) (read : List Char) :
    readSegments kind first st read tail = (addSegment kind first st read.reverse false, tail) := by
  cases tail with
  | nil => rw [readSegments]
  | cons c rest =>
    have hmark : c = '?' ∨ c = '#' := h c rfl
    have hsep : ¬ (c = '/' ∨ (c = '\\' ∧ kind.isSpecial)) := by
      rcases hmark with rfl | rfl
      · simp
      · simp
    rw [readSegments, if_neg hsep, if_pos hmark]

/-- Normal segments are read as they are, unless the first of them is taken for a drive. -/
theorem readSegments_pathOf {kind : SchemeKind} {segment : List Char}
    {segments : List (List Char)} {tail : List Char}
    (h : ∀ other ∈ segment :: segments, NormalSegment kind other) (htail : IsTail tail)
    {first : Bool} {st : PathState} (hdrive : ¬ TakesDrive kind first st.path segment) :
    readSegments kind first st [] (segment ++ pathOf segments ++ tail) =
      ({ st with path := st.path ++ segment ++ pathOf segments }, tail) := by
  induction segments generalizing segment first st with
  | nil =>
    obtain ⟨hchars, hsingle, hdouble⟩ := h segment List.mem_cons_self
    rw [List.append_assoc, readSegments_chars segment hchars, List.append_nil]
    show readSegments kind first st segment.reverse tail = _
    rw [readSegments_tail htail, List.reverse_reverse, addSegment_of_plain hdouble hsingle hdrive]
    rfl
  | cons next segments ih =>
    obtain ⟨hchars, hsingle, hdouble⟩ := h segment List.mem_cons_self
    have hrest : ∀ other ∈ next :: segments, NormalSegment kind other :=
      fun other hother => h other (List.mem_cons_of_mem _ hother)
    rw [List.append_assoc, readSegments_chars segment hchars, List.append_nil]
    show readSegments kind first st segment.reverse
      ('/' :: (next ++ pathOf segments ++ tail)) = _
    rw [readSegments, if_pos (.inl rfl), List.reverse_reverse,
      addSegment_of_plain hdouble hsingle hdrive, ih hrest (not_takesDrive_of_later _ _ _)]
    simp [pathOf_cons]

/-! ## Paths -/

theorem NormalPath.exists_cons {kind : SchemeKind} {path : List Char} (h : NormalPath kind path) :
    ∃ segment segments, path = '/' :: segment ++ pathOf segments ∧
      ∀ other ∈ segment :: segments, NormalSegment kind other := by
  obtain ⟨segments, hne, rfl, hsegments⟩ := h
  obtain ⟨segment, segments, rfl⟩ := List.exists_cons_of_ne_nil hne
  exact ⟨segment, segments, rfl, hsegments⟩

theorem normalPath_cons {kind : SchemeKind} {segment : List Char} {segments : List (List Char)}
    (h : ∀ other ∈ segment :: segments, NormalSegment kind other) :
    NormalPath kind ('/' :: segment ++ pathOf segments) :=
  ⟨segment :: segments, List.cons_ne_nil _ _, rfl, h⟩

theorem readPath_of_ne_file {kind : SchemeKind} (h : kind ≠ .file) (start input : List Char) :
    readPath kind start input = readSegments kind true ⟨start, true⟩ [] input := by
  unfold readPath
  simp only [if_neg h]

/-- Only in `file` paths does it matter which segment is the first. -/
theorem readSegments_first {kind : SchemeKind} (h : kind ≠ .file) (input : List Char)
    (first : Bool) (st : PathState) (read : List Char) :
    readSegments kind first st read input = readSegments kind false st read input := by
  have hadd (segment : List Char) (slash : Bool) :
      addSegment kind first st segment slash = addSegment kind false st segment slash := by
    unfold addSegment
    simp only [h, false_and, if_false]
  induction input generalizing read with
  | nil => rw [readSegments, readSegments, hadd]
  | cons c input ih => rw [readSegments, readSegments, hadd, hadd, ih]

/-- A slash in front gives the root. -/
theorem readSegments_slash {kind : SchemeKind} {c : Char}
    (h : c = '/' ∨ (c = '\\' ∧ kind.isSpecial)) (input : List Char) :
    readSegments kind true ⟨[], true⟩ [] (c :: input) =
      readSegments kind false ⟨['/'], true⟩ [] input := by
  have hroot : addSegment kind true ⟨[], true⟩ [].reverse true = ⟨['/'], true⟩ := by
    cases kind <;> rfl
  rw [readSegments, if_pos h, hroot]

theorem readPath_slash {kind : SchemeKind} (h : kind ≠ .file) (input : List Char) :
    readPath kind [] ('/' :: input) = readPath kind ['/'] input := by
  rw [readPath_of_ne_file h, readPath_of_ne_file h, readSegments_slash (.inl rfl)]
  exact (readSegments_first h input true _ _).symm

theorem readPath_normal {kind : SchemeKind} (h : kind ≠ .file) {start : List Char}
    (hstart : OpenPath kind start) (input : List Char) :
    NormalPath kind (readPath kind start input).1.path ∧ IsTail (readPath kind start input).2 := by
  rw [readPath_of_ne_file h]
  exact readSegments_normal input true hstart nofun

/-- A normal path is read as it is. -/
theorem readPath_pathOf {kind : SchemeKind} (h : kind ≠ .file) {segment : List Char}
    {segments : List (List Char)}
    (hsegments : ∀ other ∈ segment :: segments, NormalSegment kind other)
    {tail : List Char} (htail : IsTail tail) :
    readPath kind ['/'] (segment ++ pathOf segments ++ tail) =
      (⟨'/' :: segment ++ pathOf segments, true⟩, tail) := by
  rw [readPath_of_ne_file h, readSegments_pathOf hsegments htail fun hdrive => h hdrive.1]
  rfl

/-! ## Paths of files -/

/-- At most one slash in front. -/
def Rooted (path : List Char) : Prop := '/' :: path.dropWhile (· = '/') = path

theorem rooted_cons (path : List Char) : Rooted ('/' :: path.dropWhile (· = '/')) := by
  unfold Rooted
  induction path with
  | nil => rfl
  | cons c path ih =>
    by_cases hc : c = '/'
    · have hdrop : (c :: path).dropWhile (· = '/') = path.dropWhile (· = '/') :=
        List.dropWhile_cons_of_pos (by simp [hc])
      rw [hdrop]
      exact ih
    · have hdrop : (c :: path).dropWhile (· = '/') = c :: path :=
        List.dropWhile_cons_of_neg (by simpa using hc)
      rw [hdrop, List.dropWhile_cons_of_pos (by decide), hdrop]

theorem NormalPath.rooted {path : List Char} (h : NormalPath .file path) :
    NormalPath .file ('/' :: path.dropWhile (· = '/')) := by
  obtain ⟨segments, hne, rfl, hsegments⟩ := h
  induction segments with
  | nil => exact absurd rfl hne
  | cons segment segments ih =>
    have hdrop : (pathOf (segment :: segments)).dropWhile (· = '/') =
        (segment ++ pathOf segments).dropWhile (· = '/') := rfl
    cases segment with
    | nil =>
      rw [hdrop, List.nil_append]
      cases segments with
      | nil => exact ⟨[[]], List.cons_ne_nil _ _, rfl, hsegments⟩
      | cons next segments =>
        exact ih (List.cons_ne_nil _ _) fun other hother =>
          hsegments other (List.mem_cons_of_mem _ hother)
    | cons c segment =>
      have hc : ¬ c = '/' := by
        rintro rfl
        exact (hsegments _ List.mem_cons_self).slash_not_mem List.mem_cons_self
      rw [hdrop, List.cons_append, List.dropWhile_cons_of_neg (by simpa using hc)]
      exact normalPath_cons hsegments

theorem readPath_file (start input : List Char) :
    readPath .file start input =
      ({ (readSegments .file true ⟨start, true⟩ [] input).1 with
          path := '/' ::
            (readSegments .file true ⟨start, true⟩ [] input).1.path.dropWhile (· = '/') },
        (readSegments .file true ⟨start, true⟩ [] input).2) := rfl

theorem readPath_file_normal {start input : List Char}
    (h : start = ['/'] ∨ start = [] ∧ ∀ c ∈ input.head?, c ∈ "/\\?#".toList) :
    NormalPath .file (readPath .file start input).1.path ∧
      Rooted (readPath .file start input).1.path ∧ IsTail (readPath .file start input).2 := by
  have hroot (first : Bool) (input : List Char) :
      NormalPath .file (readSegments .file first ⟨['/'], true⟩ [] input).1.path ∧
        IsTail (readSegments .file first ⟨['/'], true⟩ [] input).2 :=
    readSegments_normal input first (openPath_root .file) nofun
  have hempty : NormalPath .file ['/'] := (openPath_root .file).normalPath
  rw [readPath_file]
  rcases h with rfl | ⟨rfl, hmark⟩
  · obtain ⟨hnormal, htail⟩ := hroot true input
    exact ⟨hnormal.rooted, rooted_cons _, htail⟩
  · cases input with
    | nil => exact ⟨hempty, rooted_cons _, nofun⟩
    | cons c input =>
      have hc : (c = '/' ∨ c = '\\') ∨ c = '?' ∨ c = '#' := by
        have hmem := hmark c rfl
        simp only [show "/\\?#".toList = ['/', '\\', '?', '#'] from rfl, List.mem_cons,
          List.not_mem_nil, or_false] at hmem
        tauto
      rcases hc with hslash | hquestion
      · have hsep : c = '/' ∨ (c = '\\' ∧ SchemeKind.file.isSpecial) :=
          hslash.imp_right fun hbackslash => ⟨hbackslash, rfl⟩
        rw [readSegments_slash hsep]
        obtain ⟨hnormal, htail⟩ := hroot false input
        exact ⟨hnormal.rooted, rooted_cons _, htail⟩
      · have htail : IsTail (c :: input) := by
          intro d hd
          obtain rfl : c = d := by simpa using hd
          exact hquestion
        rw [readSegments_tail htail]
        exact ⟨hempty, rooted_cons _, htail⟩

/-- After an empty host a normal path is read as it is. -/
theorem readPath_file_slash {path tail : List Char} (h : NormalPath .file path) (hr : Rooted path)
    (htail : IsTail tail) : readPath .file [] (path ++ tail) = (⟨path, true⟩, tail) := by
  obtain ⟨segment, segments, rfl, hsegments⟩ := h.exists_cons
  have hread : readSegments .file true ⟨[], true⟩ [] ('/' :: segment ++ pathOf segments ++ tail) =
      (⟨'/' :: segment ++ pathOf segments, true⟩, tail) := by
    rw [List.cons_append, List.cons_append, readSegments_slash (.inl rfl),
      readSegments_pathOf hsegments htail (not_takesDrive_of_later _ _ _)]
    rfl
  rw [readPath_file, hread]
  show ((⟨'/' :: ('/' :: segment ++ pathOf segments).dropWhile (· = '/'), true⟩ : PathState),
    tail) = _
  rw [hr]

/-- After a host a normal path is read as it is, unless it begins with a drive letter. -/
theorem readPath_file_root {segment : List Char} {segments : List (List Char)} {tail : List Char}
    (h : ∀ other ∈ segment :: segments, NormalSegment .file other)
    (hr : Rooted ('/' :: segment ++ pathOf segments)) (htail : IsTail tail)
    (hdrive : isLooseDriveLetter segment = false) :
    readPath .file ['/'] (segment ++ pathOf segments ++ tail) =
      (⟨'/' :: segment ++ pathOf segments, true⟩, tail) := by
  have hnot : ¬ TakesDrive .file true ['/'] segment := by
    rintro ⟨-, -, -, hloose⟩
    rw [hdrive] at hloose
    cases hloose
  rw [readPath_file, readSegments_pathOf h htail hnot]
  show ((⟨'/' :: ('/' :: segment ++ pathOf segments).dropWhile (· = '/'), true⟩ : PathState),
    tail) = _
  rw [hr]

/-- A drive letter at the front is written with a colon and takes the place of the host. -/
theorem readPath_file_drive {c d : Char} {segments : List (List Char)} {tail : List Char}
    (h : ∀ other ∈ [c, d] :: segments, NormalSegment .file other) (htail : IsTail tail)
    (hdrive : isLooseDriveLetter [c, d] = true) :
    readPath .file ['/'] ([c, d] ++ pathOf segments ++ tail) =
      (⟨'/' :: c :: ':' :: pathOf segments, false⟩, tail) := by
  obtain ⟨hchars, hsingle, hdouble⟩ := h [c, d] List.mem_cons_self
  have htakes : TakesDrive .file true ['/'] [c, d] := ⟨rfl, rfl, rfl, hdrive⟩
  have hslash : c ≠ '/' := (isSegmentChar_iff.1 (hchars c List.mem_cons_self)).2.1
  have hread : readSegments .file true ⟨['/'], true⟩ [] ([c, d] ++ pathOf segments ++ tail) =
      (⟨'/' :: c :: ':' :: pathOf segments, false⟩, tail) := by
    rw [List.append_assoc, readSegments_chars [c, d] hchars, List.append_nil]
    cases segments with
    | nil =>
      show readSegments .file true ⟨['/'], true⟩ [c, d].reverse tail = _
      rw [readSegments_tail htail, List.reverse_reverse, addSegment_of_drive hdouble hsingle htakes]
      rfl
    | cons next segments =>
      have hrest : ∀ other ∈ next :: segments, NormalSegment .file other :=
        fun other hother => h other (List.mem_cons_of_mem _ hother)
      show readSegments .file true ⟨['/'], true⟩ [c, d].reverse
        ('/' :: (next ++ pathOf segments ++ tail)) = _
      rw [readSegments, if_pos (.inl rfl), List.reverse_reverse,
        addSegment_of_drive hdouble hsingle htakes,
        readSegments_pathOf hrest htail (not_takesDrive_of_later _ _ _)]
      rfl
  have hroot : (('/' :: c :: ':' :: pathOf segments).dropWhile (· = '/')) =
      c :: ':' :: pathOf segments := by
    rw [List.dropWhile_cons_of_pos (by decide), List.dropWhile_cons_of_neg (by simpa using hslash)]
  rw [readPath_file, hread]
  show ((⟨'/' :: ('/' :: c :: ':' :: pathOf segments).dropWhile (· = '/'), false⟩ : PathState),
    tail) = _
  rw [hroot]

end OpenIdProvider.Url
