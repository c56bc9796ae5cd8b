/-
  Texts of URLs read again. The text of a URL that was read gives back its scheme, its path and
  its fragment, and the authority that `rereadAuthority` tells: the host is what the text of the
  host is read as, and a `file` URL loses it to a drive letter. The query is not followed here, so
  that it may have been replaced.
-/
import OpenIdProvider.Proofs.Url.Authority
import OpenIdProvider.Proofs.Url.Path

namespace OpenIdProvider.Url

/-! ## The parts after the path -/

@[simp] theorem withTail_scheme (kind : SchemeKind) (u : Url) (tail : List Char) :
    (withTail kind u tail).scheme = u.scheme := rfl

@[simp] theorem withTail_authority (kind : SchemeKind) (u : Url) (tail : List Char) :
    (withTail kind u tail).authority = u.authority := rfl

@[simp] theorem withTail_path (kind : SchemeKind) (u : Url) (tail : List Char) :
    (withTail kind u tail).path = u.path := rfl

theorem withTail_fragment (kind : SchemeKind) (u : Url) (tail : List Char) :
    (withTail kind u tail).fragment =
      (Split.splitOnce '#' tail).map fun parts => escapeAll fragmentSet parts.2 := by
  unfold withTail
  cases Split.splitOnce '#' tail <;> rfl

/-- The fragment is as it is written. -/
def PlainFragment (u : Url) : Prop := ∀ f, u.fragment = some f → Plain fragmentSet f

theorem withTail_plainFragment (kind : SchemeKind) (u : Url) (tail : List Char) :
    (withTail kind u tail).PlainFragment := by
  intro f hf
  rw [withTail_fragment, Option.map_eq_some_iff] at hf
  obtain ⟨parts, -, rfl⟩ := hf
  exact plain_escapeAll sparesEscapes_fragment _

/-- The fragment is read as it is after a query without its mark. -/
theorem withTail_afterPath {u : Url} (h : u.PlainFragment) {query : List Char}
    (hquery : u.query = some query) (hmark : '#' ∉ query) (kind : SchemeKind) (base : Url) :
    (withTail kind base u.afterPath).fragment = u.fragment := by
  have hmark' : '#' ∉ '?' :: query := by
    intro hmem
    rcases List.mem_cons.1 hmem with heq | hmem
    · exact absurd heq (by decide)
    · exact hmark hmem
  rw [withTail_fragment]
  unfold afterPath
  rw [hquery]
  cases hfragment : u.fragment with
  | none =>
    simp only [List.append_nil, Split.splitOnce_of_not_mem hmark', Option.map_none]
  | some fragment =>
    simp only [Split.splitOnce_append hmark', Option.map_some, escapeAll_of_plain (h _ hfragment)]

theorem isTail_afterPath (u : Url) : IsTail u.afterPath := by
  unfold afterPath
  cases u.query with
  | some query =>
    intro c hc
    exact .inl (Option.some.inj hc).symm
  | none =>
    cases u.fragment with
    | some fragment =>
      intro c hc
      exact .inr (Option.some.inj hc).symm
    | none => nofun

/-! ## After two slashes -/

/-- A path after an authority: only other schemes have an empty one. -/
def FollowsAuthority (kind : SchemeKind) (path : List Char) : Prop :=
  NormalPath kind path ∨ kind = .other ∧ path = []

theorem endsAuthority_path {kind : SchemeKind} {path tail : List Char}
    (h : FollowsAuthority kind path) (htail : IsTail tail) : EndsAuthority kind (path ++ tail) := by
  rcases h with hnormal | ⟨-, rfl⟩
  · obtain ⟨segment, segments, rfl, -⟩ := hnormal.exists_cons
    intro c hc
    rw [← Option.some.inj hc]
    exact endsAuthority_iff.2 (.inl rfl)
  · intro c hc
    rcases htail c hc with rfl | rfl
    · exact endsAuthority_iff.2 (.inr (.inl rfl))
    · exact endsAuthority_iff.2 (.inr (.inr (.inl rfl)))

theorem afterAuthority_path {kind : SchemeKind} (hkind : kind ≠ .file) {path tail : List Char}
    (h : FollowsAuthority kind path) (htail : IsTail tail) (scheme : List Char) (a : Authority) :
    afterAuthority kind scheme a (path ++ tail) =
      withTail kind ⟨scheme, some a, path, none, none⟩ tail := by
  rcases h with hnormal | ⟨rfl, rfl⟩
  · obtain ⟨segment, segments, rfl, hsegments⟩ := hnormal.exists_cons
    have hread := readPath_pathOf hkind hsegments htail
    have hread' := readPath_slash hkind (segment ++ pathOf segments ++ tail)
    have htext : '/' :: segment ++ pathOf segments ++ tail =
        '/' :: (segment ++ pathOf segments ++ tail) := rfl
    unfold afterAuthority
    simp only [htext]
    by_cases hspecial : kind.isSpecial = true
    · simp only [hspecial, if_true, true_or, hread]
    · simp only [hspecial, if_true, hread', hread]
      simp
  · cases tail with
    | nil => rfl
    | cons c tail =>
      have hc : c = '?' ∨ c = '#' := htail c rfl
      unfold afterAuthority
      simp [SchemeKind.isSpecial, hc]

/-- The text after the two slashes is read as it is, but for the host. -/
theorem afterSlashes_text {kind : SchemeKind} (hkind : kind ≠ .file) {a : Authority}
    (ha : WrittenAuthority a) {path tail : List Char} (h : FollowsAuthority kind path)
    (htail : IsTail tail) (scheme : List Char) :
    afterSlashes kind scheme (a.text ++ (path ++ tail)) =
      (readHost kind a.hostText).map fun host =>
        withTail kind ⟨scheme, some ({ a with host := host }.normalized scheme), path, none, none⟩
          tail := by
  unfold afterSlashes
  rw [readAuthority_text ha scheme (endsAuthority_path h htail)]
  cases readHost kind a.hostText with
  | error e => rfl
  | ok host =>
    show Except.ok (afterAuthority kind scheme _ (path ++ tail)) = _
    rw [afterAuthority_path hkind h htail]
    rfl

theorem afterAuthority_normal {kind : SchemeKind} (hkind : kind ≠ .file) (scheme : List Char)
    (a : Authority) (input : List Char) :
    FollowsAuthority kind (afterAuthority kind scheme a input).path ∧
      (afterAuthority kind scheme a input).PlainFragment ∧
      (afterAuthority kind scheme a input).scheme = scheme ∧
      (afterAuthority kind scheme a input).authority = some a := by
  have hroot (rest : List Char) : FollowsAuthority kind (readPath kind ['/'] rest).1.path :=
    .inl (readPath_normal hkind (openPath_root kind) rest).1
  unfold afterAuthority
  simp only
  by_cases hspecial : kind.isSpecial = true
  · rw [if_pos hspecial]
    split
    · split
      · exact ⟨hroot _, withTail_plainFragment _ _ _, rfl, rfl⟩
      · exact ⟨hroot _, withTail_plainFragment _ _ _, rfl, rfl⟩
    · exact ⟨hroot _, withTail_plainFragment _ _ _, rfl, rfl⟩
  · rw [if_neg hspecial]
    have hother : kind = .other := by
      cases kind with
      | file => exact absurd rfl hkind
      | special => exact absurd rfl hspecial
      | other => rfl
    split
    · exact ⟨.inr ⟨hother, rfl⟩, withTail_plainFragment _ _ _, rfl, rfl⟩
    · rename_i c rest
      split
      · exact ⟨.inr ⟨hother, rfl⟩, withTail_plainFragment _ _ _, rfl, rfl⟩
      · split
        · rename_i hslash
          subst hslash
          refine ⟨?_, withTail_plainFragment _ _ _, rfl, rfl⟩
          show FollowsAuthority kind (readPath kind [] ('/' :: rest)).1.path
          rw [readPath_slash hkind]
          exact hroot rest
        · exact ⟨hroot _, withTail_plainFragment _ _ _, rfl, rfl⟩

theorem afterSlashes_eq_ok {kind : SchemeKind} {scheme input : List Char} {u : Url}
    (h : afterSlashes kind scheme input = .ok u) :
    ∃ a rest, readAuthority kind scheme input = .ok (a, rest) ∧
      u = afterAuthority kind scheme a rest := by
  unfold afterSlashes at h
  rw [bind_eq_ok] at h
  obtain ⟨⟨a, rest⟩, hread, h⟩ := h
  exact ⟨a, rest, hread, (Except.ok.inj h).symm⟩

/-! ## Without an authority -/

/-- A path that is opaque: neither a mark nor a character to be escaped, and no slash in front. -/
structure OpaquePath (path : List Char) : Prop where
  plain : Plain "" path
  marks : ∀ c ∈ path, c ≠ '?' ∧ c ≠ '#'
  front : path.head? ≠ some '/'

theorem opaquePath_escapeAll {cs : List Char} (hmarks : ∀ c ∈ cs, c ≠ '?' ∧ c ≠ '#')
    (hfront : cs.head? ≠ some '/') : OpaquePath (escapeAll "" cs) := by
  refine ⟨plain_escapeAll sparesEscapes_none cs, fun d hd => ?_, ?_⟩
  · obtain ⟨c, hc, hd⟩ := List.mem_flatMap.1 hd
    rcases mem_escape hd with rfl | hescape
    · exact hmarks d hc
    · have hall : ∀ e ∈ "%0123456789ABCDEF".toList, e ≠ '?' ∧ e ≠ '#' :=
        List.all_iff_forall_prop.1 (by decide)
      exact hall d hescape
  · cases cs with
    | nil => nofun
    | cons c cs =>
      obtain ⟨d, rest, hescape⟩ := List.exists_cons_of_ne_nil (escape_ne_nil "" c)
      have hhead : (escapeAll "" (c :: cs)).head? = some d := by
        show (escape "" c ++ _).head? = some d
        rw [hescape]
        rfl
      rw [hhead]
      intro hd
      have hmem : d ∈ escape "" c := by
        rw [hescape]
        exact List.mem_cons_self
      rcases mem_escape hmem with heq | hhex
      · rw [heq] at hd
        exact hfront hd
      · rw [Option.some.inj hd] at hhex
        exact absurd hhex (by decide)

theorem withoutAuthority_normal (scheme input : List Char) :
    (NormalPath .other (withoutAuthority scheme input).path ∨
        OpaquePath (withoutAuthority scheme input).path) ∧
      (withoutAuthority scheme input).PlainFragment ∧
      (withoutAuthority scheme input).scheme = scheme ∧
      (withoutAuthority scheme input).authority = none := by
  unfold withoutAuthority
  split
  · refine ⟨.inl ?_, withTail_plainFragment _ _ _, rfl, rfl⟩
    exact (readPath_normal (by decide) (openPath_root .other) _).1
  · rename_i hslash
    refine ⟨.inr ?_, withTail_plainFragment _ _ _, rfl, rfl⟩
    refine opaquePath_escapeAll (fun c hc => ?_) ?_
    · have hall := List.all_eq_true.1 List.all_takeWhile c hc
      simpa using hall
    · intro hhead
      cases input with
      | nil => cases hhead
      | cons c rest =>
        rw [List.takeWhile_cons] at hhead
        split at hhead
        · obtain rfl : c = '/' := by simpa using hhead
          exact hslash rest rfl
        · cases hhead

theorem withoutAuthority_path {segment : List Char} {segments : List (List Char)}
    (h : ∀ other ∈ segment :: segments, NormalSegment .other other) {tail : List Char}
    (htail : IsTail tail) (scheme : List Char) :
    withoutAuthority scheme ('/' :: segment ++ pathOf segments ++ tail) =
      withTail .other ⟨scheme, none, '/' :: segment ++ pathOf segments, none, none⟩ tail := by
  have hread := readPath_pathOf (by decide) h htail
  have htext : '/' :: segment ++ pathOf segments ++ tail =
      '/' :: (segment ++ pathOf segments ++ tail) := rfl
  unfold withoutAuthority
  simp only [htext, hread]

/-- The `/.` in front of two slashes adds nothing to the path. -/
theorem withoutAuthority_dot {segments : List (List Char)}
    (h : ∀ other ∈ [] :: segments, NormalSegment .other other) {tail : List Char}
    (htail : IsTail tail) (scheme : List Char) :
    withoutAuthority scheme ('/' :: '.' :: '/' :: ([] ++ pathOf segments ++ tail)) =
      withTail .other ⟨scheme, none, '/' :: pathOf segments, none, none⟩ tail := by
  have hdot : readSegments .other true ⟨['/'], true⟩ []
      ('.' :: '/' :: ([] ++ pathOf segments ++ tail)) =
      readSegments .other false ⟨['/'], true⟩ [] ([] ++ pathOf segments ++ tail) := rfl
  have hread : readPath .other ['/'] ('.' :: '/' :: ([] ++ pathOf segments ++ tail)) =
      (⟨'/' :: pathOf segments, true⟩, tail) := by
    rw [readPath_of_ne_file (by decide), hdot,
      readSegments_pathOf h htail (not_takesDrive_of_later _ _ _)]
    rfl
  unfold withoutAuthority
  simp only [hread]

theorem opaquePath_append {path : List Char} (h : OpaquePath path) {tail : List Char}
    (htail : IsTail tail) : ∀ rest, path ++ tail ≠ '/' :: rest := by
  intro rest heq
  cases path with
  | nil =>
    obtain rfl : tail = '/' :: rest := heq
    rcases htail '/' rfl with h | h <;> exact absurd h (by decide)
  | cons c path =>
    obtain ⟨rfl, -⟩ := List.cons.inj heq
    exact h.front rfl

theorem withoutAuthority_opaquePath {path : List Char} (h : OpaquePath path) {tail : List Char}
    (htail : IsTail tail) (scheme : List Char) :
    withoutAuthority scheme (path ++ tail) =
      withTail .other ⟨scheme, none, path, none, none⟩ tail := by
  have hcut : (path ++ tail).takeWhile (fun c => !(decide (c = '?') || decide (c = '#'))) = path ∧
      (path ++ tail).dropWhile (fun c => !(decide (c = '?') || decide (c = '#'))) = tail := by
    refine Split.takeWhile_append (fun c hc => by simpa using h.marks c hc) fun c hc => ?_
    rcases htail c hc with rfl | rfl <;> rfl
  unfold withoutAuthority
  split
  · rename_i heq
    exact absurd heq (opaquePath_append h htail _)
  · simp only [hcut.1, hcut.2, escapeAll_of_plain h.plain]

theorem readAfterScheme_other {scheme : List Char} (h : SchemeKind.ofScheme scheme = .other)
    {input : List Char} (hinput : ∀ rest, input ≠ '/' :: '/' :: rest) :
    readAfterScheme scheme input = .ok (withoutAuthority scheme input) := by
  unfold readAfterScheme
  rw [h]
  simp only

/-- A text without an authority is read as it is; `/.` in front keeps two slashes apart. -/
theorem readAfterScheme_text_of_none {u : Url} (hscheme : SchemeKind.ofScheme u.scheme = .other)
    (hauthority : u.authority = none) (h : NormalPath .other u.path ∨ OpaquePath u.path)
    {tail : List Char} (htail : IsTail tail) :
    readAfterScheme u.scheme (u.beforePath ++ (u.path ++ tail)) =
      .ok (withTail .other ⟨u.scheme, none, u.path, none, none⟩ tail) := by
  unfold beforePath
  rw [hauthority]
  rcases h with hnormal | hbare
  · obtain ⟨segment, segments, hpath, hsegments⟩ := hnormal.exists_cons
    rw [hpath]
    by_cases hslashes : segment = [] ∧ segments ≠ []
    · obtain ⟨rfl, hne⟩ := hslashes
      obtain ⟨next, segments, rfl⟩ := List.exists_cons_of_ne_nil hne
      have hinput : ∀ rest, '/' :: '.' :: '/' :: ([] ++ pathOf (next :: segments) ++ tail) ≠
          '/' :: '/' :: rest := by
        intro rest heq
        exact absurd (List.cons.inj (List.cons.inj heq).2).1 (by decide)
      have hdoubled : ['/', '/'].isPrefixOf ('/' :: [] ++ pathOf (next :: segments)) = true :=
        List.isPrefixOf_iff_prefix.2 ⟨next ++ pathOf segments, rfl⟩
      have htext : ['/', '.'] ++ ('/' :: [] ++ pathOf (next :: segments) ++ tail) =
          '/' :: '.' :: '/' :: ([] ++ pathOf (next :: segments) ++ tail) := rfl
      simp only [hdoubled, if_true]
      rw [htext, readAfterScheme_other hscheme hinput, withoutAuthority_dot hsegments htail]
      rfl
    · have hdouble : ∀ rest, '/' :: segment ++ pathOf segments ++ tail ≠ '/' :: '/' :: rest := by
        intro rest heq
        have heq' : segment ++ pathOf segments ++ tail = '/' :: rest := (List.cons.inj heq).2
        cases segment with
        | nil =>
          obtain rfl : segments = [] := by
            by_cases hnil : segments = []
            · exact hnil
            · exact absurd ⟨rfl, hnil⟩ hslashes
          obtain rfl : tail = '/' :: rest := heq'
          rcases htail '/' rfl with h | h <;> exact absurd h (by decide)
        | cons c segment =>
          obtain ⟨rfl, -⟩ := List.cons.inj heq'
          exact (hsegments _ List.mem_cons_self).slash_not_mem List.mem_cons_self
      have hdoubled : ['/', '/'].isPrefixOf ('/' :: segment ++ pathOf segments) = false := by
        rw [Bool.eq_false_iff]
        intro hpre
        obtain ⟨rest, hrest⟩ := List.isPrefixOf_iff_prefix.1 hpre
        exact hdouble (rest ++ tail) (by rw [← hrest]; rfl)
      simp only [hdoubled, Bool.false_eq_true, if_false, List.nil_append]
      rw [readAfterScheme_other hscheme hdouble, withoutAuthority_path hsegments htail]
  · have hfront := hbare.front
    have hdoubled : ['/', '/'].isPrefixOf u.path = false := by
      rw [Bool.eq_false_iff]
      intro hpre
      obtain ⟨rest, hrest⟩ := List.isPrefixOf_iff_prefix.1 hpre
      rw [← hrest] at hfront
      exact hfront rfl
    have hdouble : ∀ rest, u.path ++ tail ≠ '/' :: '/' :: rest := by
      intro rest heq
      exact opaquePath_append hbare htail _ heq
    simp only [hdoubled, Bool.false_eq_true, if_false, List.nil_append]
    rw [readAfterScheme_other hscheme hdouble, withoutAuthority_opaquePath hbare htail]

/-! ## Files -/

/-- The host that stands for the machine itself and is not written. -/
def localhost : Host := .name "localhost".toList

/-- A URL of a file as it is written. -/
structure FileUrl (u : Url) : Prop where
  scheme : u.scheme = "file".toList
  authority : ∃ host, u.authority = some (emptyAuthority host) ∧
    ∀ h, host = some h → HostText h.text ∧ h ≠ localhost
  path : NormalPath .file u.path
  rooted : Rooted u.path
  fragment : u.PlainFragment

theorem fileUrl_normal {host : Option Host} {start input : List Char}
    (h : start = ['/'] ∨ start = [] ∧ ∀ c ∈ input.head?, c ∈ "/\\?#".toList)
    (hhost : ∀ h, host = some h → HostText h.text ∧ h ≠ localhost) :
    FileUrl (fileUrl host start input) := by
  obtain ⟨hnormal, hrooted, -⟩ := readPath_file_normal h
  refine ⟨rfl, ⟨_, rfl, ?_⟩, hnormal, hrooted, withTail_plainFragment _ _ _⟩
  split
  · exact hhost
  · nofun

theorem isSlash_iff {c : Char} : isSlash c = true ↔ c = '/' ∨ c = '\\' := by
  simp only [isSlash, Bool.or_eq_true, decide_eq_true_eq]

/-- The marks that end the host of a file. -/
def endsFileHost (c : Char) : Bool := isSlash c || c = '?' || c = '#'

theorem endsFileHost_iff {c : Char} : endsFileHost c = true ↔ c ∈ "/\\?#".toList := by
  simp [endsFileHost, isSlash, or_assoc]

theorem endsFileHost_iff_endsAuthority {c : Char} :
    endsFileHost c = true ↔ endsAuthority .file c = true := by
  have hspecial : SchemeKind.file.isSpecial = true := rfl
  rw [endsAuthority_iff, hspecial]
  simp only [endsFileHost, isSlash, Bool.or_eq_true, decide_eq_true_eq, and_true]
  tauto

theorem fileWithHost_eq (input : List Char) :
    fileWithHost input =
      if isLooseDriveLetter (input.takeWhile fun c => !endsFileHost c) then
        .ok (fileUrl none ['/'] input)
      else if (input.takeWhile fun c => !endsFileHost c) = [] then
        .ok (fileUrl none [] (input.dropWhile fun c => !endsFileHost c))
      else
        match domainHost (input.takeWhile fun c => !endsFileHost c) with
        | .error e => .error e
        | .ok host =>
          if host = localhost then
            .ok (fileUrl none [] (input.dropWhile fun c => !endsFileHost c))
          else
            match input.dropWhile fun c => !endsFileHost c with
            | c :: after =>
              if isSlash c then .ok (fileUrl (some host) ['/'] after)
              else .ok (fileUrl (some host) ['/'] (input.dropWhile fun c => !endsFileHost c))
            | [] => .ok (fileUrl (some host) ['/'] []) := rfl

theorem fileWithHost_normal {input : List Char} {u : Url} (h : fileWithHost input = .ok u) :
    FileUrl u := by
  have hnone : ∀ h, (none : Option Host) = some h → HostText h.text ∧ h ≠ localhost := nofun
  have hrest : ∀ c ∈ (input.dropWhile fun c => !endsFileHost c).head?, c ∈ "/\\?#".toList := by
    intro c hc
    have hnot := List.head?_dropWhile_not (fun c => !endsFileHost c) input
    rw [hc] at hnot
    exact endsFileHost_iff.1 (by simpa using hnot)
  rw [fileWithHost_eq] at h
  split at h
  · cases h
    exact fileUrl_normal (.inl rfl) hnone
  · split at h
    · cases h
      exact fileUrl_normal (.inr ⟨rfl, hrest⟩) hnone
    · split at h
      · cases h
      · rename_i host hhost
        split at h
        · cases h
          exact fileUrl_normal (.inr ⟨rfl, hrest⟩) hnone
        · rename_i hlocal
          have hsome : ∀ h, some host = some h → HostText h.text ∧ h ≠ localhost := by
            intro other hother
            rw [← Option.some.inj hother]
            exact ⟨hostText_domainHost hhost, hlocal⟩
          split at h
          · split at h
            · cases h
              exact fileUrl_normal (.inl rfl) hsome
            · cases h
              exact fileUrl_normal (.inl rfl) hsome
          · cases h
            exact fileUrl_normal (.inl rfl) hsome

theorem readFile_normal {input : List Char} {u : Url} (h : readFile input = .ok u) :
    FileUrl u := by
  have hnone : ∀ h, (none : Option Host) = some h → HostText h.text ∧ h ≠ localhost := nofun
  have hslash {c : Char} (hc : isSlash c = true) : c ∈ "/\\?#".toList := by
    rcases isSlash_iff.1 hc with rfl | rfl <;> decide
  have hhead {c : Char} {rest : List Char} (hc : isSlash c = true) :
      ∀ d ∈ (c :: rest).head?, d ∈ "/\\?#".toList := by
    intro d hd
    obtain rfl : c = d := by simpa using hd
    exact hslash hc
  unfold readFile at h
  split at h
  · split at h
    · rename_i hc
      split at h
      · exact fileWithHost_normal h
      · cases h
        exact fileUrl_normal (.inr ⟨rfl, hhead hc⟩) hnone
    · cases h
      exact fileUrl_normal (.inl rfl) hnone
  · split at h
    · rename_i hc
      cases h
      exact fileUrl_normal (.inr ⟨rfl, hhead hc⟩) hnone
    · cases h
      exact fileUrl_normal (.inl rfl) hnone
  · cases h
    exact fileUrl_normal (.inl rfl) hnone

/-- Whether a path begins with a drive letter. -/
def beginsWithDrive (path : List Char) : Bool :=
  isLooseDriveLetter (path.tail.takeWhile fun c => !(c = '/'))

theorem beginsWithDrive_cons {kind : SchemeKind} {segment : List Char}
    {segments : List (List Char)} (h : NormalSegment kind segment) :
    beginsWithDrive ('/' :: segment ++ pathOf segments) = isLooseDriveLetter segment := by
  have hcut : (segment ++ pathOf segments).takeWhile (fun c => !(c = '/')) = segment := by
    refine (Split.takeWhile_append (fun c hc => ?_) fun c hc => ?_).1
    · have hne : c ≠ '/' := by
        rintro rfl
        exact h.slash_not_mem hc
      simpa using hne
    · cases segments with
      | nil => cases hc
      | cons next segments =>
        obtain rfl : '/' = c := Option.some.inj hc
        rfl
  show isLooseDriveLetter ((segment ++ pathOf segments).takeWhile fun c => !(c = '/')) = _
  rw [hcut]

theorem not_looseDriveLetter_of_hostText {cs : List Char} (h : HostText cs) :
    isLooseDriveLetter cs = false := by
  rw [Bool.eq_false_iff]
  intro hloose
  obtain ⟨c, d, rfl, hletter, hd⟩ := isLooseDriveLetter_iff.1 hloose
  rcases hd with rfl | rfl
  · rcases h.colons with hplain | ⟨inner, heq, -⟩
    · exact hplain ':' (by simp) (by decide)
    · obtain ⟨rfl, -⟩ := List.cons.inj heq
      exact absurd hletter (by decide)
  · exact (h.chars '|' (by simp)).2 (by decide)

/-- A path whose drive letter is written with a colon. -/
def withColon : List Char → List Char
  | slash :: letter :: _ :: rest => slash :: letter :: ':' :: rest
  | path => path

theorem readFile_slashes (input : List Char) :
    readFile ('/' :: '/' :: input) = fileWithHost input := rfl

theorem fileWithHost_text_of_none {path tail : List Char} (h : NormalPath .file path)
    (hr : Rooted path) (htail : IsTail tail) :
    fileWithHost (path ++ tail) =
      .ok (withTail .file ⟨"file".toList, some (emptyAuthority none), path, none, none⟩ tail) := by
  have hread := readPath_file_slash h hr htail
  have htake : (path ++ tail).takeWhile (fun c => !endsFileHost c) = [] ∧
      (path ++ tail).dropWhile (fun c => !endsFileHost c) = path ++ tail := by
    obtain ⟨segment, segments, rfl, -⟩ := h.exists_cons
    exact ⟨rfl, rfl⟩
  rw [fileWithHost_eq, htake.1, htake.2]
  simp only [isLooseDriveLetter, Bool.false_eq_true, if_false, if_true]
  unfold fileUrl
  simp only [hread, if_true]

/-- The text of a file is read as it is, but for the host: it is what its text is read as, and
gives way to a drive letter. -/
theorem fileWithHost_text {host : Host} {path tail : List Char} (hhost : HostText host.text)
    (h : NormalPath .file path) (hr : Rooted path) (htail : IsTail tail) :
    fileWithHost (host.text ++ (path ++ tail)) =
      (domainHost host.text).map fun host =>
        withTail .file
          (if host = localhost then
            ⟨"file".toList, some (emptyAuthority none), path, none, none⟩
          else if beginsWithDrive path then
            ⟨"file".toList, some (emptyAuthority none), withColon path, none, none⟩
          else ⟨"file".toList, some (emptyAuthority (some host)), path, none, none⟩) tail := by
  obtain ⟨segment, segments, hpath, hsegments⟩ := h.exists_cons
  have htake : (host.text ++ (path ++ tail)).takeWhile (fun c => !endsFileHost c) = host.text ∧
      (host.text ++ (path ++ tail)).dropWhile (fun c => !endsFileHost c) = path ++ tail := by
    refine Split.takeWhile_append (fun c hc => ?_) fun c hc => ?_
    · have hends := not_endsAuthority_of_hostText .file hhost c hc
      rw [Bool.not_eq_true', Bool.eq_false_iff]
      intro hmark
      rw [Bool.eq_false_iff] at hends
      exact hends (endsFileHost_iff_endsAuthority.1 hmark)
    · rw [hpath] at hc
      obtain rfl : '/' = c := Option.some.inj hc
      rfl
  rw [fileWithHost_eq, htake.1, htake.2, not_looseDriveLetter_of_hostText hhost,
    if_neg Bool.false_ne_true, if_neg hhost.ne_nil]
  cases hdomain : domainHost host.text with
  | error e => rfl
  | ok other =>
    by_cases hlocal : other = localhost
    · have hread := readPath_file_slash h hr htail
      simp only [if_pos hlocal, Except.map]
      unfold fileUrl
      simp only [hread, if_true]
    · have hslash : isSlash '/' = true := rfl
      have htext : path ++ tail = '/' :: (segment ++ pathOf segments ++ tail) := by
        rw [hpath]
        rfl
      simp only [if_neg hlocal, Except.map, htext, hslash, if_true]
      unfold fileUrl
      rw [hpath, beginsWithDrive_cons (hsegments segment List.mem_cons_self)]
      cases hloose : isLooseDriveLetter segment with
      | true =>
        obtain ⟨c, d, rfl, -, -⟩ := isLooseDriveLetter_iff.1 hloose
        simp only [readPath_file_drive hsegments htail hloose]
        rfl
      | false =>
        rw [hpath] at hr
        simp only [readPath_file_root hsegments hr htail hloose]
        rfl

/-! ## Whole URLs -/

/-- What a URL that has been read is, after its kind: a file, a URL with an authority, or one
without. -/
inductive ReadUrl (u : Url) : Prop
  | file (h : FileUrl u) : ReadUrl u
  | slashes (a : Authority) (hkind : SchemeKind.ofScheme u.scheme ≠ .file)
      (hauthority : u.authority = some a)
      (hread : ReadAuthority (SchemeKind.ofScheme u.scheme) u.scheme a)
      (hpath : FollowsAuthority (SchemeKind.ofScheme u.scheme) u.path)
      (hfragment : u.PlainFragment) : ReadUrl u
  | bare (hkind : SchemeKind.ofScheme u.scheme = .other) (hauthority : u.authority = none)
      (hpath : NormalPath .other u.path ∨ OpaquePath u.path)
      (hfragment : u.PlainFragment) : ReadUrl u

theorem ReadUrl.fragment {u : Url} (h : ReadUrl u) : u.PlainFragment := by
  cases h with
  | file h => exact h.fragment
  | slashes _ _ _ _ _ hfragment => exact hfragment
  | bare _ _ _ hfragment => exact hfragment

theorem readUrl_afterSlashes {scheme input : List Char} {u : Url}
    (hkind : SchemeKind.ofScheme scheme ≠ .file)
    (h : afterSlashes (SchemeKind.ofScheme scheme) scheme input = .ok u) :
    u.scheme = scheme ∧ ReadUrl u := by
  obtain ⟨a, rest, hread, rfl⟩ := afterSlashes_eq_ok h
  obtain ⟨hpath, hfragment, hscheme, hauthority⟩ := afterAuthority_normal hkind scheme a rest
  refine ⟨hscheme, .slashes a ?_ hauthority ?_ ?_ hfragment⟩ <;> rw [hscheme]
  · exact hkind
  · exact (readAuthority_eq_ok hread).1
  · exact hpath

theorem scheme_of_file {scheme : List Char} (h : SchemeKind.ofScheme scheme = .file) :
    scheme = "file".toList := by
  unfold SchemeKind.ofScheme at h
  split at h
  · assumption
  · split at h <;> cases h

theorem readUrl_readAfterScheme {scheme input : List Char} {u : Url}
    (h : readAfterScheme scheme input = .ok u) : u.scheme = scheme ∧ ReadUrl u := by
  cases hkind : SchemeKind.ofScheme scheme with
  | file =>
    unfold readAfterScheme at h
    rw [hkind] at h
    have hfile := readFile_normal h
    exact ⟨hfile.scheme.trans (scheme_of_file hkind).symm, .file hfile⟩
  | special =>
    unfold readAfterScheme at h
    rw [hkind] at h
    have hslashes : afterSlashes (SchemeKind.ofScheme scheme) scheme (input.dropWhile isSlash) =
        .ok u := by
      rw [hkind]
      exact h
    exact readUrl_afterSlashes (by rw [hkind]; decide) hslashes
  | other =>
    have hne : SchemeKind.ofScheme scheme ≠ .file := by
      rw [hkind]
      decide
    by_cases hslashes : ∃ rest, input = '/' :: '/' :: rest
    · obtain ⟨rest, rfl⟩ := hslashes
      unfold readAfterScheme at h
      rw [hkind] at h
      have hslashes : afterSlashes (SchemeKind.ofScheme scheme) scheme rest = .ok u := by
        rw [hkind]
        exact h
      exact readUrl_afterSlashes hne hslashes
    · rw [readAfterScheme_other hkind fun rest heq => hslashes ⟨rest, heq⟩] at h
      cases h
      obtain ⟨hpath, hfragment, hscheme, hauthority⟩ := withoutAuthority_normal scheme input
      exact ⟨hscheme, .bare (hscheme.symm ▸ hkind) hauthority hpath hfragment⟩

/-- What the text of a URL is read as, whatever its query is: the host becomes what its text is
read as, and the host of a file goes where it is the machine itself or a drive letter follows. -/
def reread (u : Url) : Except Error Url :=
  match u.authority, SchemeKind.ofScheme u.scheme with
  | none, _ => .ok u
  | some a, .file =>
    match a.host with
    | none => .ok u
    | some host =>
      (domainHost host.text).map fun host =>
        if host = localhost then { u with authority := some (emptyAuthority none) }
        else if beginsWithDrive u.path then
          { u with authority := some (emptyAuthority none), path := withColon u.path }
        else { u with authority := some (emptyAuthority (some host)) }
  | some a, kind =>
    (readHost kind a.hostText).map fun host => { u with authority := some { a with host } }

theorem ReadAuthority.normalized {kind : SchemeKind} {scheme : List Char} {a : Authority}
    (h : ReadAuthority kind scheme a) (host : Option Host) :
    { a with host := host }.normalized scheme = { a with host := host } := by
  unfold Authority.normalized
  by_cases hport : a.port = none
  · simp only [hport, ite_self]
  · simp only [if_neg (h.port hport)]

/-- The slashes before an authority are all there are. -/
theorem dropWhile_slashes {a : Authority} (h : WrittenAuthority a) (hhost : a.host ≠ none)
    (rest : List Char) :
    ('/' :: '/' :: (a.text ++ rest)).dropWhile isSlash = a.text ++ rest := by
  obtain ⟨c, text, htext⟩ := List.exists_cons_of_ne_nil (h.text_ne_nil hhost)
  have hc : isSlash c = false := by
    have hends := h.not_ends .special c (by rw [htext]; exact List.mem_cons_self)
    rw [Bool.eq_false_iff] at hends ⊢
    intro hslash
    refine hends (endsAuthority_iff.2 ?_)
    rcases isSlash_iff.1 hslash with hslash | hbackslash
    · exact .inl hslash
    · exact .inr (.inr (.inr ⟨hbackslash, rfl⟩))
  have hslash : isSlash '/' = true := rfl
  rw [htext, List.cons_append, List.dropWhile_cons_of_pos hslash,
    List.dropWhile_cons_of_pos hslash, List.dropWhile_cons_of_neg (by rw [hc]; decide)]

theorem reread_of_bare {u : Url} (h : u.authority = none) : u.reread = .ok u := by
  unfold reread
  rw [h]

theorem reread_of_slashes {u : Url} {a : Authority} (h : SchemeKind.ofScheme u.scheme ≠ .file)
    (ha : u.authority = some a) :
    u.reread = (readHost (SchemeKind.ofScheme u.scheme) a.hostText).map fun host =>
      { u with authority := some { a with host := host } } := by
  unfold reread
  rw [ha]
  cases hkind : SchemeKind.ofScheme u.scheme with
  | file => exact absurd hkind h
  | special => rfl
  | other => rfl

theorem reread_of_file {u : Url} {host : Host} (h : SchemeKind.ofScheme u.scheme = .file)
    (ha : u.authority = some (emptyAuthority (some host))) :
    u.reread = (domainHost host.text).map fun host =>
      if host = localhost then { u with authority := some (emptyAuthority none) }
      else if beginsWithDrive u.path then
        { u with authority := some (emptyAuthority none), path := withColon u.path }
      else { u with authority := some (emptyAuthority (some host)) } := by
  unfold reread
  rw [ha, h]
  rfl

theorem reread_of_file_none {u : Url} (h : SchemeKind.ofScheme u.scheme = .file)
    (ha : u.authority = some (emptyAuthority none)) : u.reread = .ok u := by
  unfold reread
  rw [ha, h]
  rfl

theorem reread_fragment {u w : Url} (h : u.reread = .ok w) : w.fragment = u.fragment := by
  unfold reread at h
  split at h
  · cases h
    rfl
  · split at h
    · cases h
      rfl
    · rw [map_eq_ok] at h
      obtain ⟨host, -, rfl⟩ := h
      split
      · rfl
      · split <;> rfl
  · rw [map_eq_ok] at h
    obtain ⟨host, -, rfl⟩ := h
    rfl

theorem readFile_text {u : Url} (h : FileUrl u) {tail : List Char} (htail : IsTail tail) :
    readFile (u.beforePath ++ (u.path ++ tail)) =
      u.reread.map fun w => withTail .file w tail := by
  obtain ⟨host, hauthority, hhost⟩ := h.authority
  have hkind : SchemeKind.ofScheme u.scheme = .file := by
    rw [h.scheme]
    rfl
  unfold beforePath
  simp only [hauthority, List.cons_append, readFile_slashes]
  cases host with
  | none =>
    have htext : (emptyAuthority none).text = [] := rfl
    rw [htext, List.nil_append, fileWithHost_text_of_none h.path h.rooted htail, ← h.scheme,
      reread_of_file_none hkind hauthority, ← hauthority]
    rfl
  | some host =>
    have htext : (emptyAuthority (some host)).text = host.text := List.append_nil _
    obtain ⟨hwritten, -⟩ := hhost host rfl
    rw [htext, fileWithHost_text hwritten h.path h.rooted htail, ← h.scheme,
      reread_of_file hkind hauthority]
    cases domainHost host.text with
    | error e => rfl
    | ok other =>
      by_cases hlocal : other = localhost
      · simp only [Except.map, if_pos hlocal]
        rfl
      · simp only [Except.map, if_neg hlocal]
        cases beginsWithDrive u.path <;> rfl

/-- A URL that was read is read again from its text as `reread` tells, with the query and the
fragment that follow. -/
theorem readAfterScheme_text {u : Url} (h : ReadUrl u) {tail : List Char} (htail : IsTail tail) :
    readAfterScheme u.scheme (u.beforePath ++ (u.path ++ tail)) =
      u.reread.map fun w => withTail (SchemeKind.ofScheme u.scheme) w tail := by
  cases h with
  | file h =>
    have hkind : SchemeKind.ofScheme u.scheme = .file := by
      rw [h.scheme]
      rfl
    unfold readAfterScheme
    rw [hkind]
    exact readFile_text h htail
  | slashes a hfile hauthority hread hpath hfragment =>
    have htext := afterSlashes_text hfile hread.written hpath htail u.scheme
    simp only [hread.normalized] at htext
    have hslashes : readAfterScheme u.scheme (u.beforePath ++ (u.path ++ tail)) =
        afterSlashes (SchemeKind.ofScheme u.scheme) u.scheme (a.text ++ (u.path ++ tail)) := by
      unfold readAfterScheme beforePath
      rw [hauthority]
      cases hkind : SchemeKind.ofScheme u.scheme with
      | file => exact absurd hkind hfile
      | special =>
        have hhost : a.host ≠ none := hread.host (by rw [hkind]; rfl)
        simp only [List.cons_append, dropWhile_slashes hread.written hhost]
      | other => rfl
    rw [hslashes, htext, reread_of_slashes hfile hauthority]
    cases readHost (SchemeKind.ofScheme u.scheme) a.hostText <;> rfl
  | bare hkind hauthority hpath hfragment =>
    rw [readAfterScheme_text_of_none hkind hauthority hpath htail, reread_of_bare hauthority, hkind,
      ← hauthority]
    rfl

end OpenIdProvider.Url
