/-
  Longer texts. A URL with a special scheme is read character by character, so that what a longer
  text is read as depends on where the shorter one stops (`Reached`): within the authority, within
  the path or after the mark of a query or a fragment. If it is not the last, normal segments that
  follow it are added to one and the same path (`Followed`), which is that of the shorter text but
  for the slashes at the end.
-/
import Mathlib.Data.List.DropRight
import OpenIdProvider.Proofs.Url.Reference

namespace OpenIdProvider.Url

variable {cs rest : List Char}

/-! ## Authorities -/

theorem takeHost_ends {kind : SchemeKind} (h : EndsAuthority kind rest) (inside : Bool) :
    takeHost kind inside rest = ([], rest) := by
  cases rest with
  | nil => cases inside <;> rfl
  | cons c rest =>
    have hstop : (c = ':' ∧ !inside) ∨ (c = '\\' ∧ kind.isSpecial) ∨ c = '/' ∨ c = '?' ∨
        c = '#' := by
      rcases endsAuthority_iff.1 (h c rfl) with hslash | hquestion | hhash | hbackslash
      · exact .inr (.inr (.inl hslash))
      · exact .inr (.inr (.inr (.inl hquestion)))
      · exact .inr (.inr (.inr (.inr hhash)))
      · exact .inr (.inl hbackslash)
    rw [takeHost, if_pos hstop]

/-- The text of a host does not depend on what follows the authority. -/
theorem takeHost_extended {kind : SchemeKind} (hrest : EndsAuthority kind rest) (inside : Bool) :
    takeHost kind inside (cs ++ rest) =
      ((takeHost kind inside cs).1, (takeHost kind inside cs).2 ++ rest) := by
  induction cs generalizing inside with
  | nil =>
    have hnil : EndsAuthority kind [] := nofun
    rw [List.nil_append, takeHost_ends hrest, takeHost_ends hnil]
    rfl
  | cons c cs ih =>
    rw [List.cons_append, takeHost, takeHost]
    split
    · rfl
    · simp only [ih]

/-- A port does not depend on what follows the authority. -/
theorem readPort_extended (hcs : ∀ c ∈ cs, endsAuthority .special c = false)
    (hrest : EndsAuthority .special rest) (port : Option Nat) :
    readPort port (cs ++ rest) = (readPort port cs).map fun read => (read.1, rest) := by
  induction cs generalizing port with
  | nil =>
    rw [List.nil_append, readPort_end hrest, readPort]
    rfl
  | cons c cs ih =>
    have hc := hcs c List.mem_cons_self
    have hmark : ¬ (c = '/' ∨ c = '\\' ∨ c = '?' ∨ c = '#') := by
      rintro (rfl | rfl | rfl | rfl) <;> cases hc
    rw [List.cons_append, readPort, readPort]
    split
    · simp only
      split
      · rfl
      · exact ih (fun d hd => hcs d (List.mem_cons_of_mem c hd)) _
    · rw [if_neg hmark, if_neg hmark]
      rfl

/-- User information does not depend on what follows the authority, if a host follows it. -/
theorem takeUserinfo_extended {kind : SchemeKind}
    (hcs : ∀ c ∈ cs, endsAuthority kind c = false) (hrest : EndsAuthority kind rest)
    {names : List Char × List Char} {after : List Char}
    (h : takeUserinfo kind (cs ++ rest) = .ok (names, after)) :
    ∃ front back, cs = front ++ back ∧ after = back ++ rest ∧
      (back ≠ [] → ∀ other, EndsAuthority kind other →
        takeUserinfo kind (cs ++ other) = .ok (names, back ++ other)) := by
  obtain ⟨htake, hdrop⟩ := takeWhile_inside hcs hrest
  unfold takeUserinfo splitUserinfo at h
  simp only [htake, hdrop] at h
  cases hsplit : Split.splitLast '@' cs with
  | none =>
    rw [hsplit] at h
    cases h
    refine ⟨[], cs, rfl, rfl, fun _ other hother => ?_⟩
    obtain ⟨htake', -⟩ := takeWhile_inside hcs hother
    unfold takeUserinfo splitUserinfo
    simp only [htake', hsplit]
    rfl
  | some parts =>
    obtain ⟨userinfo, back⟩ := parts
    have hparts := Split.eq_of_splitLast hsplit
    rw [hsplit] at h
    refine ⟨userinfo ++ ['@'], back, ?_, ?_, fun hne other hother => ?_⟩
    · rw [hparts, List.append_assoc]
      rfl
    · simp only [Option.map_some] at h
      split at h
      · split at h
        · cases h
        · cases h
          rfl
      · cases h
        rfl
    · -- The host after the `@` is not empty, so no end of the authority stands there.
      obtain ⟨htake', hdrop'⟩ := takeWhile_inside hcs hother
      obtain ⟨c, back, rfl⟩ := List.exists_cons_of_ne_nil hne
      have hc : endsAuthority kind c = false := by
        refine hcs c ?_
        rw [hparts]
        simp
      unfold takeUserinfo splitUserinfo
      simp only [htake', hdrop', hsplit, Option.map_some, List.cons_append] at h ⊢
      cases userinfo with
      | nil =>
        simp only [hc, Bool.false_eq_true, if_false] at h ⊢
        cases h
        rfl
      | cons d userinfo =>
        cases h
        rfl

/-- The port after a host, if there is one, and what follows it. -/
def takePort (host : Option Host) : List Char → Except Error (Option Nat × List Char)
  | ':' :: rest => if host = none then .error .emptyHost else readPort none rest
  | input => .ok (none, input)

theorem takePort_of_ne {host : Option Host} {input : List Char}
    (h : ¬ ∃ rest, input = ':' :: rest) : takePort host input = .ok (none, input) := by
  unfold takePort
  split
  · exact (h ⟨_, rfl⟩).elim
  · rfl

/-- The authority of the parts that have been read. -/
def ofParts (scheme : List Char) (names : List Char × List Char) (host : Option Host)
    (port : Option Nat) : Except Error Authority :=
  if host = none ∧ (names.1 ≠ [] ∨ names.2 ≠ []) then .error .emptyHost
  else .ok ⟨names.1, names.2, host, if port = defaultPort? scheme then none else port⟩

/-- An authority is read part by part. -/
theorem readAuthority_eq (kind : SchemeKind) (scheme input : List Char) :
    readAuthority kind scheme input = (do
      let (names, afterNames) ← takeUserinfo kind input
      let host ← readHost kind (takeHost kind false afterNames).1
      let (port, after) ← takePort host (takeHost kind false afterNames).2
      let a ← ofParts scheme names host port
      .ok (a, after)) := by
  have hparts (names : List Char × List Char) (host : Option Host) (port : Option Nat)
      (after : List Char) :
      (if host = none ∧ (names.1 ≠ [] ∨ names.2 ≠ []) then
          (.error .emptyHost : Except Error (Authority × List Char))
        else .ok (⟨names.1, names.2, host, if port = defaultPort? scheme then none else port⟩,
          after)) = (do
        let a ← ofParts scheme names host port
        .ok (a, after)) := by
    unfold ofParts
    split <;> rfl
  unfold readAuthority
  refine bind_congr fun read => bind_congr fun host => ?_
  simp only [hparts]
  generalize (takeHost kind false read.2).2 = after
  by_cases hcolon : ∃ rest, after = ':' :: rest
  · obtain ⟨rest, rfl⟩ := hcolon
    cases host <;> rfl
  · rw [takePort_of_ne hcolon]
    split
    · exact (hcolon ⟨_, rfl⟩).elim
    · rfl

theorem takePort_extended {host : Option Host}
    (hcs : ∀ c ∈ cs, endsAuthority .special c = false) (hnext : EndsHost .special cs)
    (hrest : EndsAuthority .special rest) :
    takePort host (cs ++ rest) = (takePort host cs).map fun read => (read.1, rest) := by
  cases cs with
  | nil =>
    have hcolon : ¬ ∃ digits, rest = ':' :: digits := by
      rintro ⟨digits, rfl⟩
      cases hrest ':' rfl
    rw [List.nil_append, takePort_of_ne hcolon]
    rfl
  | cons c digits =>
    obtain rfl : c = ':' :=
      (hnext c rfl).resolve_right (by rw [hcs c List.mem_cons_self]; decide)
    rw [List.cons_append, takePort, takePort]
    split
    · rfl
    · exact readPort_extended (fun d hd => hcs d (List.mem_cons_of_mem _ hd)) hrest none

/-- What may follow a host, of a text that does not end the authority. -/
theorem takeHost_after (hcs : ∀ c ∈ cs, endsAuthority .special c = false) :
    EndsHost .special (takeHost .special false cs).2 ∧
      ∀ c ∈ (takeHost .special false cs).2, endsAuthority .special c = false := by
  obtain ⟨hnext, front, heq, -⟩ := takeHost_rest .special false cs
  refine ⟨hnext, fun c hc => hcs c ?_⟩
  rw [heq]
  exact List.mem_append_right _ hc

/-- An authority does not depend on what follows it. -/
theorem readAuthority_extended {scheme after : List Char} {a : Authority}
    (hcs : ∀ c ∈ cs, endsAuthority .special c = false) (hrest : EndsAuthority .special rest)
    (h : readAuthority .special scheme (cs ++ rest) = .ok (a, after)) :
    ∀ other, EndsAuthority .special other →
      readAuthority .special scheme (cs ++ other) = .ok (a, other) := by
  simp only [readAuthority_eq, bind_eq_ok] at h
  obtain ⟨⟨names, afterNames⟩, hnames, host, hhost, ⟨port, afterPort⟩, hport, _, ha, h⟩ := h
  cases h
  obtain ⟨front, back, rfl, rfl, htake⟩ := takeUserinfo_extended hcs hrest hnames
  rw [takeHost_extended hrest] at hhost hport
  have hne : back ≠ [] := by
    rintro rfl
    cases hhost
  obtain ⟨hnext, hdigits⟩ := takeHost_after fun c hc => hcs c (List.mem_append_right front hc)
  rw [takePort_extended hdigits hnext hrest] at hport
  obtain ⟨⟨port, _⟩, hport', hread⟩ := map_eq_ok.1 hport
  cases hread
  intro other hother
  simp only [readAuthority_eq, bind_eq_ok]
  refine ⟨_, htake hne other hother, host, ?_, (port, other), ?_, a, ha, rfl⟩
  · rw [takeHost_extended hother]
    exact hhost
  · rw [takeHost_extended hother, takePort_extended hdigits hnext hother, hport']
    rfl

/-! ## Paths -/

/-- A text without the mark of a query or a fragment is read into a path and a segment that has
begun. -/
theorem readSegments_extended {kind : SchemeKind} (hcs : ∀ c ∈ cs, c ≠ '?' ∧ c ≠ '#')
    {st : PathState} {segment : List Char} (h : OpenPath kind st.path)
    (hchars : ∀ c ∈ segment, isSegmentChar kind c = true) :
    ∃ st' segment', OpenPath kind st'.path ∧ (∀ c ∈ segment', isSegmentChar kind c = true) ∧
      ∀ rest, readSegments kind false st segment (cs ++ rest) =
        readSegments kind false st' segment' rest := by
  induction cs generalizing st segment with
  | nil => exact ⟨st, segment, h, hchars, fun _ => rfl⟩
  | cons c cs ih =>
    have hcs' : ∀ d ∈ cs, d ≠ '?' ∧ d ≠ '#' := fun d hd => hcs d (List.mem_cons_of_mem c hd)
    have hmark : ¬ (c = '?' ∨ c = '#') := not_or.2 (hcs c List.mem_cons_self)
    by_cases hslash : c = '/' ∨ (c = '\\' ∧ kind.isSpecial)
    · have hreverse : ∀ d ∈ segment.reverse, isSegmentChar kind d = true :=
        fun d hd => hchars d (List.mem_reverse.1 hd)
      have hnil : ∀ d ∈ ([] : List Char), isSegmentChar kind d = true := nofun
      obtain ⟨st', segment', hopen, hchars', hread⟩ :=
        ih hcs' (addSegment_normal h hreverse false).2 hnil
      refine ⟨st', segment', hopen, hchars', fun rest => ?_⟩
      rw [List.cons_append, readSegments, if_pos hslash, hread]
    · have hescaped : ∀ d ∈ (escape pathSet c).reverse ++ segment,
          isSegmentChar kind d = true := by
        intro d hd
        obtain ⟨hne, hbackslash⟩ := not_or.1 hslash
        rcases List.mem_append.1 hd with hd | hd
        · exact isSegmentChar_of_mem_escape hne hbackslash (List.mem_reverse.1 hd)
        · exact hchars d hd
      obtain ⟨st', segment', hopen, hchars', hread⟩ := ih hcs' h hescaped
      refine ⟨st', segment', hopen, hchars', fun rest => ?_⟩
      rw [List.cons_append, readSegments, if_neg hslash, if_neg hmark, hread]

/-- The case of a text that begins a path. -/
theorem readSegments_root (hcs : ∀ c ∈ cs, c ≠ '?' ∧ c ≠ '#') :
    ∃ st segment, OpenPath .special st.path ∧
      (∀ c ∈ segment, isSegmentChar .special c = true) ∧
      ∀ rest, readSegments .special false ⟨['/'], true⟩ [] (cs ++ rest) =
        readSegments .special false st segment rest :=
  readSegments_extended hcs (openPath_root .special) nofun

/-- A path without the slashes at its end. -/
def trimmed (path : List Char) : List Char := path.rdropWhile (· == '/')

theorem trimmed_concat (path : List Char) : trimmed (path ++ ['/']) = trimmed path :=
  List.rdropWhile_concat_pos _ _ _ (by decide)

theorem trimmed_slashes (path : List Char) (n : Nat) :
    trimmed (path ++ List.replicate n '/') = trimmed path := by
  induction n with
  | zero => rw [List.replicate_zero, List.append_nil]
  | succ n ih => rw [List.replicate_succ', ← List.append_assoc, trimmed_concat, ih]

/-- The slash after a segment adds a slash to the path at most. -/
theorem trimmed_addSegment (kind : SchemeKind) (first : Bool) (st : PathState)
    (segment : List Char) :
    trimmed (addSegment kind first st segment true).path =
      trimmed (addSegment kind first st segment false).path := by
  have hmark (path : List Char) :
      trimmed (path ++ if true then ['/'] else []) =
        trimmed (path ++ if false then ['/'] else []) := by
    rw [if_pos rfl, if_neg (by decide), List.append_nil, trimmed_concat]
  cases hdouble : isDoubleDot segment with
  | true =>
    have hup (path : List Char) :
        trimmed (if true && !endsWithSlash path then path ++ ['/'] else path) =
          trimmed (if false && !endsWithSlash path then path ++ ['/'] else path) := by
      rw [Bool.true_and, Bool.false_and, if_neg Bool.false_ne_true]
      split
      · exact trimmed_concat path
      · rfl
    rw [addSegment_of_doubleDot hdouble, addSegment_of_doubleDot hdouble]
    exact hup _
  | false =>
    cases hsingle : isSingleDot segment with
    | true => rw [addSegment_of_singleDot hdouble hsingle, addSegment_of_singleDot hdouble hsingle]
    | false =>
      by_cases hdrive : TakesDrive kind first st.path segment
      · rw [addSegment_of_drive hdouble hsingle hdrive, addSegment_of_drive hdouble hsingle hdrive]
        show trimmed (st.path ++ segment.take 1 ++ ([':'] ++ ['/'])) =
          trimmed (st.path ++ segment.take 1 ++ [':'])
        rw [← List.append_assoc, trimmed_concat]
      · rw [addSegment_of_plain hdouble hsingle hdrive, addSegment_of_plain hdouble hsingle hdrive]
        exact hmark _

/-! ## Where a text stops -/

/-- The URL of an authority, of a path that has been read and of what follows it. -/
def ofRead (scheme : List Char) (a : Authority) (read : PathState × List Char) : Url :=
  withTail .special ⟨scheme, some a, read.1.path, none, none⟩ read.2

theorem afterAuthority_slash {c : Char} (hc : isSlash c = true) (scheme : List Char)
    (a : Authority) (rest : List Char) :
    afterAuthority .special scheme a (c :: rest) =
      ofRead scheme a (readSegments .special false ⟨['/'], true⟩ [] rest) := by
  have hspecial : SchemeKind.special.isSpecial = true := rfl
  have hkind : SchemeKind.special ≠ .file := by decide
  unfold afterAuthority ofRead
  simp only [hspecial, if_true, if_pos (isSlash_iff.1 hc), readPath_of_ne_file hkind,
    readSegments_first hkind rest true]

theorem afterAuthority_mark {c : Char} (hc : c = '?' ∨ c = '#') (scheme : List Char)
    (a : Authority) (rest : List Char) :
    afterAuthority .special scheme a (c :: rest) = ofRead scheme a (⟨['/'], true⟩, c :: rest) := by
  have hspecial : SchemeKind.special.isSpecial = true := rfl
  have hkind : SchemeKind.special ≠ .file := by decide
  have hslash : ¬ (c = '/' ∨ c = '\\') := by
    rcases hc with rfl | rfl <;> decide
  have htail : IsTail (c :: rest) := by
    intro d hd
    rw [← Option.some.inj hd]
    exact hc
  unfold afterAuthority ofRead
  simp only [hspecial, if_true, if_neg hslash, readPath_of_ne_file hkind, readSegments_tail htail]
  rfl

/-- A URL with a query or a fragment. -/
def Marked (u : Url) : Prop := u.query ≠ none ∨ u.fragment ≠ none

theorem marked_withTail {c : Char} (hc : c = '?' ∨ c = '#') (kind : SchemeKind) (u : Url)
    (tail : List Char) : (withTail kind u (c :: tail)).Marked := by
  rcases hc with rfl | rfl
  · refine .inl ?_
    unfold withTail
    rw [Split.splitOnce, if_neg (by decide)]
    cases Split.splitOnce '#' tail <;> exact Option.some_ne_none _
  · refine .inr ?_
    rw [withTail_fragment, Split.splitOnce, if_pos rfl]
    exact Option.some_ne_none _

/-- The mark of a query or a fragment is read as one, wherever it stands first. -/
theorem marked_of_afterSlashes {scheme front tail : List Char} {c : Char} (hc : c = '?' ∨ c = '#')
    (hfront : ∀ d ∈ front, d ≠ '?' ∧ d ≠ '#') {u : Url}
    (h : afterSlashes .special scheme (front ++ c :: tail) = .ok u) : u.Marked := by
  obtain ⟨a, rest, hauthority, rfl⟩ := afterSlashes_eq_ok h
  obtain ⟨-, hends, before, heq, hbefore⟩ := readAuthority_eq_ok hauthority
  have hmarked (st : PathState) : (ofRead scheme a (st, c :: tail)).Marked :=
    marked_withTail hc _ _ tail
  -- The mark ends an authority, so that it stands in what follows the authority.
  have hcends : endsAuthority .special c = true := by
    rcases hc with rfl | rfl <;> rfl
  obtain ⟨between, hrest, hbetween⟩ : ∃ between, rest = between ++ c :: tail ∧
      ∀ d ∈ between, d ≠ '?' ∧ d ≠ '#' := by
    rcases List.append_eq_append_iff.1 heq with
      ⟨inner, hfirst, hsecond⟩ | ⟨inner, hfirst, hsecond⟩
    · cases inner with
      | nil => exact ⟨[], by rw [hsecond]; rfl, nofun⟩
      | cons d inner =>
        have hmem : c ∈ before := by
          rw [hfirst, (List.cons.inj hsecond).1]
          exact List.mem_append_right _ List.mem_cons_self
        rw [hbefore c hmem] at hcends
        cases hcends
    · refine ⟨inner, hsecond, fun d hd => hfront d ?_⟩
      rw [hfirst]
      exact List.mem_append_right _ hd
  subst hrest
  cases between with
  | nil =>
    rw [List.nil_append, afterAuthority_mark hc]
    exact hmarked _
  | cons d between =>
    have hslash : isSlash d = true := by
      have hd := hends d rfl
      have hne := hbetween d List.mem_cons_self
      rw [isSlash_iff]
      simp only [show "/\\?#".toList = ['/', '\\', '?', '#'] from rfl, List.mem_cons,
        List.not_mem_nil, or_false] at hd
      tauto
    have htail : IsTail (c :: tail) := by
      intro e he
      rw [← Option.some.inj he]
      exact hc
    obtain ⟨st, segment, -, -, hread⟩ :=
      readSegments_root fun e he => hbetween e (List.mem_cons_of_mem d he)
    rw [List.cons_append, afterAuthority_slash hslash, hread, readSegments_tail htail]
    exact hmarked _

/-- Where a text that begins a URL stops: within the authority, within the path or after the mark
of a query or a fragment. -/
inductive Reached (scheme cs : List Char) : Prop
  | authority (a : Authority) (inside : ∀ c ∈ cs, endsAuthority .special c = false)
      (reads : ∀ rest, EndsAuthority .special rest →
        afterSlashes .special scheme (cs ++ rest) = .ok (afterAuthority .special scheme a rest))
  | path (a : Authority) (st : PathState) (segment : List Char) (opened : OpenPath .special st.path)
      (chars : ∀ c ∈ segment, isSegmentChar .special c = true)
      (reads : ∀ rest, afterSlashes .special scheme (cs ++ rest) =
        .ok (ofRead scheme a (readSegments .special false st segment rest)))
  | mark (marked : ∀ rest u, afterSlashes .special scheme (cs ++ rest) = .ok u → u.Marked)

theorem reached_of_afterSlashes {scheme : List Char} (hrest : EndsAuthority .special rest)
    {u : Url} (h : afterSlashes .special scheme (cs ++ rest) = .ok u) : Reached scheme cs := by
  cases hmark : cs.find? fun c => c = '?' || c = '#' with
  | some c =>
    obtain ⟨hc, front, tail, rfl, hfront⟩ := List.find?_eq_some_iff_append.1 hmark
    refine .mark fun other v hv => ?_
    rw [List.append_assoc, List.cons_append] at hv
    exact marked_of_afterSlashes (by simpa using hc) (by simpa using hfront) hv
  | none =>
    have hmarks : ∀ c ∈ cs, c ≠ '?' ∧ c ≠ '#' := by simpa using List.find?_eq_none.1 hmark
    obtain ⟨a, after, hauthority, -⟩ := afterSlashes_eq_ok h
    cases hends : cs.find? (endsAuthority .special) with
    | none =>
      have hinside : ∀ c ∈ cs, endsAuthority .special c = false := by
        simpa using List.find?_eq_none.1 hends
      refine .authority a hinside fun other hother => ?_
      unfold afterSlashes
      rw [readAuthority_extended hinside hrest hauthority other hother]
      rfl
    | some c =>
      obtain ⟨hc, front, tail, rfl, hfront⟩ := List.find?_eq_some_iff_append.1 hends
      have hinside : ∀ d ∈ front, endsAuthority .special d = false := by simpa using hfront
      have hslash : isSlash c = true := by
        have hne := hmarks c (by simp)
        have hset := endsAuthority_iff.1 hc
        rw [isSlash_iff]
        tauto
      have hstops (other : List Char) : EndsAuthority .special (c :: tail ++ other) := by
        intro d hd
        rw [← Option.some.inj hd]
        exact hc
      rw [List.append_assoc] at hauthority
      obtain ⟨st, segment, hopen, hchars, hread⟩ :=
        readSegments_root fun d hd => hmarks d (List.mem_append_right _ (List.mem_cons_of_mem c hd))
      refine .path a st segment hopen hchars fun other => ?_
      unfold afterSlashes
      rw [List.append_assoc,
        readAuthority_extended hinside (hstops rest) hauthority _ (hstops other), ← hread other,
        ← afterAuthority_slash hslash]
      rfl

/-! ## Segments after a text -/

/-- A text that normal segments may follow: they are added to a path, and without them the path is
the same but for the slashes at its end. -/
structure Followed (scheme cs : List Char) (a : Authority) (path : List Char) : Prop where
  opened : OpenPath .special path
  reads : ∀ segment segments, (∀ other ∈ segment :: segments, NormalSegment .special other) →
    afterSlashes .special scheme (cs ++ pathOf (segment :: segments)) =
      .ok ⟨scheme, some a, path ++ segment ++ pathOf segments, none, none⟩
  last : ∃ last, afterSlashes .special scheme cs = .ok ⟨scheme, some a, last, none, none⟩ ∧
    trimmed last = trimmed path

theorem ofRead_segments {scheme : List Char} {a : Authority} {segment : List Char}
    {segments : List (List Char)} (h : ∀ other ∈ segment :: segments, NormalSegment .special other)
    (st : PathState) :
    ofRead scheme a (readSegments .special false st [] (segment ++ pathOf segments)) =
      ⟨scheme, some a, st.path ++ segment ++ pathOf segments, none, none⟩ := by
  have htail : IsTail [] := nofun
  have hread := readSegments_pathOf h htail (not_takesDrive_of_later .special st.path segment)
  rw [List.append_nil] at hread
  rw [hread]
  rfl

theorem endsAuthority_pathOf (segment : List Char) (segments : List (List Char)) :
    EndsAuthority .special (pathOf (segment :: segments)) := by
  intro c hc
  rw [← Option.some.inj hc]
  rfl

theorem Reached.followed {scheme : List Char} (h : Reached scheme cs) :
    (∃ a path, Followed scheme cs a path) ∨
      ∀ rest u, afterSlashes .special scheme (cs ++ rest) = .ok u → u.Marked := by
  cases h with
  | mark marked => exact .inr marked
  | authority a inside reads =>
    refine .inl ⟨a, ['/'], openPath_root .special, fun segment segments hsegments => ?_, ?_⟩
    · rw [reads _ (endsAuthority_pathOf segment segments), pathOf_cons, List.cons_append,
        afterAuthority_slash rfl, ofRead_segments hsegments]
    · have hnil : EndsAuthority .special [] := nofun
      have hread := reads [] hnil
      rw [List.append_nil] at hread
      exact ⟨['/'], hread, rfl⟩
  | path a st segment opened chars reads =>
    have hreverse : ∀ c ∈ segment.reverse, isSegmentChar .special c = true :=
      fun c hc => chars c (List.mem_reverse.1 hc)
    refine .inl ⟨a, (addSegment .special false st segment.reverse true).path,
      (addSegment_normal opened hreverse false).2, fun next segments hsegments => ?_, ?_⟩
    · rw [reads, pathOf_cons, List.cons_append, readSegments, if_pos (.inl rfl),
        ofRead_segments hsegments]
    · have hread := reads []
      rw [List.append_nil, readSegments] at hread
      exact ⟨_, hread, (trimmed_addSegment _ _ _ _).symm⟩

end OpenIdProvider.Url
