/-
  References and schemes. A text that begins with a written scheme is split there, and a text
  without space in front and at its end is not cleaned. A reference with an authority of its own
  takes only the scheme of the base; any other takes the authority as well (`readRelative_path`).
-/
import OpenIdProvider.Proofs.Text.Ascii
import OpenIdProvider.Proofs.Url.ReadBack

namespace OpenIdProvider.Url

/-! ## Schemes -/

/-- The characters of a scheme after its first letter. -/
def isSchemeChar (c : Char) : Bool := Ascii.isLetterOrDigit c || c = '+' || c = '-' || c = '.'

theorem splitScheme_cons (c : Char) (rest : List Char) :
    splitScheme (c :: rest) =
      if Ascii.isLetter c then
        match rest.dropWhile isSchemeChar with
        | ':' :: after => some ((c :: rest.takeWhile isSchemeChar).map Ascii.toLower, after)
        | _ => none
      else none := rfl

theorem isSchemeChar_toLower {c : Char} (h : isSchemeChar c = true) :
    isSchemeChar (Ascii.toLower c) = true := by
  cases hupper : Ascii.isUpper c with
  | false => rwa [Ascii.toLower_of_not_upper hupper]
  | true =>
    have hletter : Ascii.isLetter (Ascii.toLower c) = true := by
      rw [Ascii.isLetter_toLower]
      exact Ascii.isLetter_iff.2 (.inl (Ascii.isUpper_iff.1 hupper))
    unfold isSchemeChar Ascii.isLetterOrDigit
    rw [hletter]
    rfl

/-- A scheme as it is written: a letter and more characters of schemes, all in lower case. -/
structure SchemeText (scheme : List Char) : Prop where
  front : ∃ c rest, scheme = c :: rest ∧ Ascii.isLetter c = true ∧
    ∀ d ∈ rest, isSchemeChar d = true
  lower : scheme.map Ascii.toLower = scheme

theorem schemeText_splitScheme {input scheme after : List Char}
    (h : splitScheme input = some (scheme, after)) : SchemeText scheme := by
  cases input with
  | nil => cases h
  | cons c rest =>
    rw [splitScheme_cons] at h
    split at h
    · rename_i hletter
      split at h
      · obtain ⟨rfl, -⟩ := Prod.mk.inj (Option.some.inj h)
        refine ⟨⟨_, _, rfl, ?_, fun d hd => ?_⟩, ?_⟩
        · rw [Ascii.isLetter_toLower]
          exact hletter
        · obtain ⟨e, he, rfl⟩ := List.mem_map.1 hd
          exact isSchemeChar_toLower (List.all_eq_true.1 List.all_takeWhile e he)
        · rw [List.map_map]
          exact List.map_congr_left fun d _ => Ascii.toLower_toLower d
      · cases h
    · cases h

/-- A written scheme is told from what follows its colon. -/
theorem splitScheme_append {scheme : List Char} (h : SchemeText scheme) (after : List Char) :
    splitScheme (scheme ++ ':' :: after) = some (scheme, after) := by
  obtain ⟨c, rest, rfl, hletter, hrest⟩ := h.front
  have hcolon : ∀ d ∈ (':' :: after).head?, isSchemeChar d = false := by
    intro d hd
    obtain rfl : ':' = d := Option.some.inj hd
    decide
  obtain ⟨htake, hdrop⟩ := Split.takeWhile_append hrest hcolon
  rw [List.cons_append, splitScheme_cons, if_pos hletter, hdrop, htake]
  simp only [h.lower]

theorem SchemeText.isSchemeChar {scheme : List Char} (h : SchemeText scheme) :
    ∀ c ∈ scheme, isSchemeChar c = true := by
  obtain ⟨d, rest, rfl, hletter, hrest⟩ := h.front
  intro c hc
  rcases List.mem_cons.1 hc with rfl | hc
  · unfold Url.isSchemeChar Ascii.isLetterOrDigit
    rw [hletter]
    rfl
  · exact hrest c hc

theorem SchemeText.range {scheme : List Char} (h : SchemeText scheme) :
    ∀ c ∈ scheme, 0x20 < c.toNat ∧ c.toNat ≤ 0x7E := by
  intro c hc
  have hchar := h.isSchemeChar c hc
  simp only [Url.isSchemeChar, Ascii.isLetterOrDigit, Bool.or_eq_true, decide_eq_true_eq] at hchar
  rcases hchar with (((hletter | hdigit) | rfl) | rfl) | rfl
  · have hrange := Ascii.isLetter_iff.1 hletter
    omega
  · have hrange := Ascii.isDigit_iff.1 hdigit
    omega
  all_goals decide

/-! ## Padding -/

theorem dropWhile_of_head {p : Char → Bool} {cs : List Char} (h : ∀ c ∈ cs.head?, p c = false) :
    cs.dropWhile p = cs := by
  have hnil : ∀ c ∈ ([] : List Char), p c = true := nofun
  exact (Split.takeWhile_append hnil h).2

/-- Nothing is cleaned away where no control character stands, and no space in front or at the
end. -/
theorem clean_append {front tail : List Char} (h : ∀ c ∈ front, 0x20 ≤ c.toNat)
    (hhead : ∀ c ∈ front.head?, 0x20 < c.toNat) (htail : ∀ c ∈ tail, 0x20 < c.toNat)
    (hne : tail ≠ []) : clean (String.ofList (front ++ tail)) = front ++ tail := by
  have hall : ∀ c ∈ front ++ tail, 0x20 ≤ c.toNat := by
    intro c hc
    rcases List.mem_append.1 hc with hc | hc
    · exact h c hc
    · exact Nat.le_of_lt (htail c hc)
  have hfirst : ∀ c ∈ (front ++ tail).head?, decide (c.toNat ≤ 0x20) = false := by
    intro c hc
    have hlt : 0x20 < c.toNat := by
      cases front with
      | nil => exact htail c (List.mem_of_mem_head? hc)
      | cons d front => exact hhead c hc
    exact decide_eq_false (by omega)
  have hlast : ∀ c ∈ (front ++ tail).reverse.head?, decide (c.toNat ≤ 0x20) = false := by
    intro c hc
    obtain ⟨d, rest, hreverse⟩ := List.exists_cons_of_ne_nil (List.reverse_ne_nil_iff.2 hne)
    rw [List.reverse_append, hreverse] at hc
    obtain rfl : d = c := Option.some.inj hc
    have hlt : 0x20 < d.toNat := by
      refine htail d (List.mem_reverse.1 ?_)
      rw [hreverse]
      exact List.mem_cons_self
    exact decide_eq_false (by omega)
  have hkept : (front ++ tail).filter (fun c => !(c = '\t' || c = '\n' || c = '\r')) =
      front ++ tail := by
    refine List.filter_eq_self.2 fun c hc => ?_
    have hle := hall c hc
    have hne {d : Char} (hd : d.toNat < 0x20) : c ≠ d := by
      rintro rfl
      omega
    have htab : c ≠ '\t' := hne (by decide)
    have hnewline : c ≠ '\n' := hne (by decide)
    have hreturn : c ≠ '\r' := hne (by decide)
    simp [htab, hnewline, hreturn]
  unfold clean
  simp only [String.toList_ofList, dropWhile_of_head hfirst, dropWhile_of_head hlast,
    List.reverse_reverse, hkept]

/-! ## Before the query -/

/-- A printable character, and no mark that a query or a fragment begins with. -/
def IsFront (c : Char) : Prop := Ascii.IsPrintable c ∧ c ≠ '?' ∧ c ≠ '#'

instance (c : Char) : Decidable (IsFront c) := inferInstanceAs (Decidable (_ ∧ _))

theorem isFront_of_isKept {special : String} (hmarks : '?' ∈ special.toList ∧ '#' ∈ special.toList)
    {c : Char} (h : isKept special c = true) : IsFront c := by
  obtain ⟨hlow, hhigh, hset⟩ := isKept_eq_true_iff.1 h
  refine ⟨⟨hlow, hhigh⟩, ?_, ?_⟩
  · rintro rfl
    exact hset hmarks.1
  · rintro rfl
    exact hset hmarks.2

theorem HostText.isFront {cs : List Char} (h : HostText cs) : ∀ c ∈ cs, IsFront c := by
  intro c hc
  obtain ⟨hlt, hset⟩ := h.chars c hc
  refine ⟨⟨Nat.le_of_lt hlt, h.le c hc⟩, ?_, ?_⟩
  · rintro rfl
    exact hset (by decide)
  · rintro rfl
    exact hset (by decide)

theorem SchemeText.isFront {scheme : List Char} (h : SchemeText scheme) :
    ∀ c ∈ scheme, IsFront c := by
  intro c hc
  have hchar := h.isSchemeChar c hc
  refine ⟨(h.range c hc).imp_left Nat.le_of_lt, ?_, ?_⟩
  · rintro rfl
    exact absurd hchar (by decide)
  · rintro rfl
    exact absurd hchar (by decide)

theorem NormalPath.isFront {kind : SchemeKind} {path : List Char} (h : NormalPath kind path) :
    ∀ c ∈ path, IsFront c := by
  obtain ⟨segments, -, rfl, hsegments⟩ := h
  intro c hc
  obtain ⟨segment, hsegment, hc⟩ := List.mem_flatMap.1 hc
  rcases List.mem_cons.1 hc with rfl | hc
  · decide
  · have hchar := (hsegments segment hsegment).chars c hc
    exact isFront_of_isKept (by decide) (isSegmentChar_iff.1 hchar).1

theorem WrittenAuthority.isFront {a : Authority} (h : WrittenAuthority a) :
    ∀ c ∈ a.text, IsFront c := by
  have hmarks : ∀ c ∈ "@:0123456789abcdef".toList, IsFront c :=
    List.all_iff_forall_prop.1 (by decide)
  intro c hc
  rcases h.mem_text hc with hkept | ⟨host, hhost, hc⟩ | hmark
  · exact isFront_of_isKept (by decide) hkept
  · exact (h.host host hhost).isFront c hc
  · exact hmarks c hmark

theorem FileUrl.isFront {u : Url} (h : FileUrl u) : ∀ c ∈ u.beforePath ++ u.path, IsFront c := by
  obtain ⟨host, hauthority, hhost⟩ := h.authority
  have htext : (emptyAuthority host).text = (host.map Host.text).getD [] := List.append_nil _
  intro c hc
  unfold beforePath at hc
  simp only [hauthority, htext] at hc
  rcases List.mem_append.1 hc with hc | hc
  · rcases List.mem_cons.1 hc with rfl | hc
    · decide
    · rcases List.mem_cons.1 hc with rfl | hc
      · decide
      · cases host with
        | none => cases hc
        | some host => exact (hhost host rfl).1.isFront c hc
  · exact h.path.isFront c hc

/-- What precedes the query of a URL that was read holds no mark of one. -/
theorem ReadUrl.isFront {u : Url} (h : ReadUrl u) : ∀ c ∈ u.beforePath ++ u.path, IsFront c := by
  cases h with
  | file h => exact h.isFront
  | slashes a hfile hauthority hread hpath hfragment =>
    intro c hc
    unfold beforePath at hc
    simp only [hauthority] at hc
    rcases List.mem_append.1 hc with hc | hc
    · rcases List.mem_cons.1 hc with rfl | hc
      · decide
      · rcases List.mem_cons.1 hc with rfl | hc
        · decide
        · exact hread.written.isFront c hc
    · rcases hpath with hnormal | ⟨-, hnil⟩
      · exact hnormal.isFront c hc
      · rw [hnil] at hc
        cases hc
  | bare hkind hauthority hpath hfragment =>
    have hdot : ∀ c ∈ ['/', '.'], IsFront c := List.all_iff_forall_prop.1 (by decide)
    intro c hc
    unfold beforePath at hc
    simp only [hauthority] at hc
    rcases List.mem_append.1 hc with hc | hc
    · split at hc
      · exact hdot c hc
      · cases hc
    · rcases hpath with hnormal | hbare
      · exact hnormal.isFront c hc
      · obtain ⟨hlow, hhigh, -⟩ := isKept_eq_true_iff.1 (hbare.plain c hc)
        exact ⟨⟨hlow, hhigh⟩, hbare.marks c hc⟩

/-- Where the query holds no space, neither does what follows the path. -/
theorem lt_toNat_afterPath {u : Url} (h : u.PlainFragment)
    (hquery : ∀ q, u.query = some q → ∀ c ∈ q, 0x20 < c.toNat) :
    ∀ c ∈ u.afterPath, 0x20 < c.toNat := by
  intro c hc
  unfold afterPath at hc
  rcases List.mem_append.1 hc with hc | hc
  · split at hc
    · rename_i q hq
      rcases List.mem_cons.1 hc with rfl | hc
      · decide
      · exact hquery q hq c hc
    · cases hc
  · split at hc
    · rename_i f hf
      rcases List.mem_cons.1 hc with rfl | hc
      · decide
      · obtain ⟨hle, -, hset⟩ := isKept_eq_true_iff.1 (h f hf c hc)
        have hspace : c.toNat ≠ 0x20 := by
          intro heq
          have hc' : c = ' ' := Char.toNat_inj.1 heq
          rw [hc'] at hset
          exact hset (by decide)
        omega
    · cases hc

/-! ## Reading against a base -/

/-- Whether a text begins with two slashes of either kind. -/
def beginsWithSlashes : List Char → Bool
  | c :: d :: _ => isSlash c && isSlash d
  | _ => false

/-- A reference continues the base where it has no scheme or, without slashes, that of the base. -/
theorem resolve_eq (base : Url) (s : String) :
    resolve base s =
      match splitScheme (clean s) with
      | none => readRelative base (clean s)
      | some (scheme, rest) =>
        if scheme = base.scheme ∧ beginsWithSlashes rest = false then readRelative base rest
        else readAfterScheme scheme rest := by
  unfold resolve
  simp only
  cases splitScheme (clean s) with
  | none => rfl
  | some parts =>
    obtain ⟨scheme, rest⟩ := parts
    match rest with
    | [] => simp [beginsWithSlashes]
    | [_] => simp [beginsWithSlashes]
    | c :: d :: rest => exact if_congr (by rw [beginsWithSlashes, Bool.not_eq_true']) rfl rfl

/-- What follows the two slashes of a reference with an authority of its own. -/
def ownAuthority? (input : List Char) : Option (List Char) :=
  match input with
  | '/' :: '/' :: rest => some rest
  | _ => if beginsWithSlashes input then some (input.dropWhile isSlash) else none

/-- The base with a path that continues `start`, and what follows that path. -/
def withPath (base : Url) (start input : List Char) : Url :=
  let (st, tail) := readPath (SchemeKind.ofScheme base.scheme) start input
  withTail (SchemeKind.ofScheme base.scheme) { base with path := st.path } tail

/-- What the last segment of the base gives way to. -/
def directory (base : Url) : List Char :=
  let start := popSegment (SchemeKind.ofScheme base.scheme) base.path
  if start = [] then ['/'] else start

/-- The base as a reference without an authority continues it. -/
def continued (base : Url) (input : List Char) : Url :=
  match input with
  | [] => { base with fragment := none }
  | '?' :: _ => withTail (SchemeKind.ofScheme base.scheme) base input
  | '#' :: rest => { base with fragment := some (escapeAll fragmentSet rest) }
  | c :: rest => if isSlash c then base.withPath ['/'] rest else base.withPath base.directory input

theorem ownAuthority?_of_one {c : Char} {rest : List Char}
    (h : isSlash c = false ∨ ∀ d ∈ rest.head?, isSlash d = false) :
    ownAuthority? (c :: rest) = none := by
  unfold ownAuthority?
  split
  · rename_i heq
    obtain ⟨rfl, rfl⟩ := List.cons.inj heq
    rcases h with h | h
    · cases h
    · cases h '/' rfl
  · cases rest with
    | nil => rfl
    | cons d rest =>
      rw [if_neg]
      rw [beginsWithSlashes, Bool.and_eq_true]
      rintro ⟨hc, hd⟩
      rcases h with h | h
      · rw [h] at hc
        cases hc
      · rw [h d rfl] at hd
        cases hd

theorem readRelative_eq (base : Url) (input : List Char) :
    readRelative base input =
      match ownAuthority? input with
      | some rest => afterSlashes (SchemeKind.ofScheme base.scheme) base.scheme rest
      | none => .ok (base.continued input) := by
  unfold readRelative
  split
  · rfl
  · rw [ownAuthority?_of_one (.inl rfl)]
    rfl
  · rw [ownAuthority?_of_one (.inl rfl)]
    rfl
  · rfl
  · rename_i c rest hquestion hhash hdouble
    have hcontinued : base.continued (c :: rest) =
        if isSlash c then base.withPath ['/'] rest
        else base.withPath base.directory (c :: rest) := by
      unfold continued
      split
      · rename_i heq
        cases heq
      · rename_i heq
        exact absurd (List.cons.inj heq).1 hquestion
      · rename_i heq
        exact absurd (List.cons.inj heq).1 hhash
      · rename_i heq
        obtain ⟨rfl, rfl⟩ := List.cons.inj heq
        rfl
    rw [hcontinued]
    cases hslash : isSlash c with
    | false =>
      rw [ownAuthority?_of_one (.inl hslash)]
      rfl
    | true =>
      cases rest with
      | nil =>
        have hhead : ∀ e ∈ ([] : List Char).head?, isSlash e = false := nofun
        rw [ownAuthority?_of_one (.inr hhead)]
        rfl
      | cons d rest =>
        cases hslash' : isSlash d with
        | false =>
          have hhead : ∀ e ∈ (d :: rest).head?, isSlash e = false := by
            intro e he
            rw [← Option.some.inj he]
            exact hslash'
          rw [ownAuthority?_of_one (.inr hhead)]
          simp only [hslash', if_true, Bool.false_eq_true, if_false]
          rfl
        | true =>
          have hown : ownAuthority? (c :: d :: rest) =
              some ((c :: d :: rest).dropWhile isSlash) := by
            unfold ownAuthority?
            split
            · rename_i heq
              obtain ⟨hc, heq⟩ := List.cons.inj heq
              exact (hdouble _ hc heq).elim
            · rw [if_pos]
              rw [beginsWithSlashes, hslash, hslash']
              rfl
          rw [hown]
          simp only [hslash', if_true]

/-! ## The authority of the base -/

theorem continued_origin (base : Url) (input : List Char) :
    (base.continued input).scheme = base.scheme ∧
      (base.continued input).authority = base.authority := by
  unfold continued
  split
  · exact ⟨rfl, rfl⟩
  · exact ⟨rfl, rfl⟩
  · exact ⟨rfl, rfl⟩
  · split <;> exact ⟨rfl, rfl⟩

/-- What a reference makes of the path of its base does not depend on the rest of the base. -/
theorem continued_path {base base' : Url}
    (hkind : SchemeKind.ofScheme base.scheme = SchemeKind.ofScheme base'.scheme)
    (hpath : base.path = base'.path) (input : List Char) :
    (base.continued input).path = (base'.continued input).path ∧
      (base.continued input).fragment = (base'.continued input).fragment := by
  have hwith (start rest : List Char) :
      (base.withPath start rest).path = (base'.withPath start rest).path ∧
        (base.withPath start rest).fragment = (base'.withPath start rest).fragment := by
    unfold withPath
    rw [hkind]
    simp only [withTail_path, withTail_fragment]
    exact ⟨trivial, trivial⟩
  have hdirectory : base.directory = base'.directory := by
    unfold directory
    rw [hkind, hpath]
  unfold continued
  split
  · exact ⟨hpath, rfl⟩
  · simp only [withTail_path, withTail_fragment]
    exact ⟨hpath, trivial⟩
  · exact ⟨hpath, rfl⟩
  · rw [hdirectory]
    split
    · exact hwith _ _
    · exact hwith _ _

theorem continued_normal {base : Url} (hkind : SchemeKind.ofScheme base.scheme = .special)
    (hpath : NormalPath .special base.path) (hdirectory : OpenPath .special base.directory)
    (input : List Char) :
    NormalPath .special (base.continued input).path ∧ (base.continued input).PlainFragment := by
  have hwith {start : List Char} (hstart : OpenPath .special start) (rest : List Char) :
      NormalPath .special (base.withPath start rest).path ∧
        (base.withPath start rest).PlainFragment := by
    unfold withPath
    rw [hkind]
    exact ⟨(readPath_normal (by decide) hstart rest).1, withTail_plainFragment _ _ _⟩
  unfold continued
  split
  · exact ⟨hpath, nofun⟩
  · exact ⟨hpath, withTail_plainFragment _ _ _⟩
  · refine ⟨hpath, fun f hf => ?_⟩
    rw [← Option.some.inj hf]
    exact plain_escapeAll sparesEscapes_fragment _
  · split
    · exact hwith (openPath_root .special) _
    · exact hwith hdirectory _

/-! ## The authority of a reference -/

/-- The scheme of an authority only tells which port is not written. -/
theorem readAuthority_normalized (kind : SchemeKind) (scheme input : List Char) :
    readAuthority kind scheme input =
      (readAuthority kind [] input).map fun read => (read.1.normalized scheme, read.2) := by
  have hdefault : defaultPort? [] = none := rfl
  have hport (port : Option Nat) : (if port = none then none else port) = port := by
    cases port <;> rfl
  unfold readAuthority
  rw [hdefault]
  simp only [hport]
  cases takeUserinfo kind input with
  | error e => rfl
  | ok userinfo =>
    obtain ⟨⟨username, password⟩, rest⟩ := userinfo
    simp only [bind, Except.bind]
    cases readHost kind (takeHost kind false rest).1 with
    | error e => rfl
    | ok host =>
      simp only
      split
      · rename_i digits _
        split
        · rfl
        · cases readPort none digits with
          | error e => rfl
          | ok port =>
            simp only
            split <;> rfl
      · split <;> rfl

theorem afterAuthority_path_eq (kind : SchemeKind) (scheme scheme' : List Char) (a a' : Authority)
    (input : List Char) :
    (afterAuthority kind scheme a input).path = (afterAuthority kind scheme' a' input).path ∧
      (afterAuthority kind scheme a input).fragment =
        (afterAuthority kind scheme' a' input).fragment := by
  unfold afterAuthority
  simp only
  split
  · split
    · split <;> simp only [withTail_path, withTail_fragment] <;> exact ⟨trivial, trivial⟩
    · simp only [withTail_path, withTail_fragment]
      exact ⟨trivial, trivial⟩
  · split
    · exact ⟨rfl, rfl⟩
    · split
      · simp only [withTail_path, withTail_fragment]
        exact ⟨trivial, trivial⟩
      · split <;> simp only [withTail_path, withTail_fragment] <;> exact ⟨trivial, trivial⟩

/-- An authority is read alike after every scheme of a kind, but for the port. -/
theorem afterSlashes_scheme {kind : SchemeKind} (hkind : kind ≠ .file)
    {scheme input : List Char} {u : Url} (h : afterSlashes kind scheme input = .ok u)
    (scheme' : List Char) :
    ∃ (a : Authority) (v : Url), u.authority = some (a.normalized scheme) ∧
      afterSlashes kind scheme' input = .ok v ∧
      v.scheme = scheme' ∧ v.authority = some (a.normalized scheme') ∧ v.path = u.path ∧
      v.fragment = u.fragment := by
  obtain ⟨a, rest, hread, rfl⟩ := afterSlashes_eq_ok h
  rw [readAuthority_normalized, map_eq_ok] at hread
  obtain ⟨⟨a, rest'⟩, hread, heq⟩ := hread
  obtain ⟨rfl, rfl⟩ := Prod.mk.inj heq
  obtain ⟨-, -, -, hauthority⟩ :=
    afterAuthority_normal hkind scheme (a.normalized scheme) rest'
  obtain ⟨-, -, hscheme', hauthority'⟩ :=
    afterAuthority_normal hkind scheme' (a.normalized scheme') rest'
  obtain ⟨hpath, hfragment⟩ := afterAuthority_path_eq kind scheme' scheme
    (a.normalized scheme') (a.normalized scheme) rest'
  refine ⟨a, afterAuthority kind scheme' (a.normalized scheme') rest', hauthority, ?_, hscheme',
    hauthority', hpath, hfragment⟩
  unfold afterSlashes
  rw [readAuthority_normalized, hread]
  rfl

/-! ## Paths with two slashes in front -/

theorem afterAuthority_tail (scheme : List Char) (a : Authority) {tail : List Char}
    (htail : IsTail tail) : (afterAuthority .special scheme a tail).path = ['/'] := by
  have hnormal : ∀ other ∈ [([] : List Char)], NormalSegment .special other := by
    intro other hother
    rw [List.mem_singleton.1 hother]
    exact normalSegment_nil .special
  have hread := readPath_pathOf (by decide) hnormal htail
  have htext : [] ++ pathOf [] ++ tail = tail := rfl
  rw [htext] at hread
  unfold afterAuthority
  cases tail with
  | nil => rfl
  | cons c tail =>
    have hslash : ¬ (c = '/' ∨ c = '\\') := by
      rcases htail c rfl with rfl | rfl <;> decide
    have hspecial : SchemeKind.special.isSpecial = true := rfl
    simp only [hspecial, if_true, if_neg hslash, hread, withTail_path]
    rfl

/-- Two slashes at the front of a path are read as those before an authority, which takes the
segment after them away. -/
theorem afterSlashes_segments {scheme : List Char} {segment : List Char}
    {segments : List (List Char)} (h : ∀ other ∈ segment :: segments, NormalSegment .special other)
    {tail : List Char} (htail : IsTail tail) {u : Url}
    (hread : afterSlashes .special scheme (segment ++ pathOf segments ++ tail) = .ok u) :
    u.path = if segments = [] then ['/'] else pathOf segments := by
  obtain ⟨a, rest, hauthority, rfl⟩ := afterSlashes_eq_ok hread
  obtain ⟨-, hends, hpasses⟩ := readAuthority_eq_ok hauthority
  have hpasses' :
      Passes .special (segment ++ pathOf segments ++ tail) (pathOf segments ++ tail) := by
    refine ⟨segment, List.append_assoc _ _ _, fun c hc => ?_⟩
    obtain ⟨hkept, hslash, hbackslash⟩ :=
      isSegmentChar_iff.1 ((h segment List.mem_cons_self).chars c hc)
    obtain ⟨-, -, hset⟩ := isKept_eq_true_iff.1 hkept
    rw [Bool.eq_false_iff]
    intro hc
    rcases endsAuthority_iff.1 hc with rfl | rfl | rfl | ⟨rfl, -⟩
    · exact hslash rfl
    · exact hset (by decide)
    · exact hset (by decide)
    · cases hbackslash rfl
  cases segments with
  | nil =>
    have hends' : EndsAuthority .special (pathOf [] ++ tail) := by
      intro c hc
      rcases htail c hc with rfl | rfl <;> rfl
    have hrest := hpasses.unique ((endsPort_iff rfl).1 hends) hpasses' hends'
    rw [hrest, if_pos rfl]
    exact afterAuthority_tail scheme a htail
  | cons next segments =>
    have hnormal : NormalPath .special (pathOf (next :: segments)) :=
      normalPath_cons fun other hother => h other (List.mem_cons_of_mem _ hother)
    have hrest := hpasses.unique ((endsPort_iff rfl).1 hends) hpasses'
      (endsAuthority_path (.inl hnormal) htail)
    rw [hrest, if_neg (List.cons_ne_nil _ _),
      afterAuthority_path (by decide) (.inl hnormal) htail]
    rfl

/-! ## Errors -/

theorem bracketed_ne_relative (cs : List Char) : bracketed cs ≠ .error .relativeWithoutBase := by
  unfold bracketed
  split
  · nofun
  · split <;> nofun

theorem domainHost_ne_relative (cs : List Char) :
    domainHost cs ≠ .error .relativeWithoutBase := by
  unfold domainHost
  split
  · exact bracketed_ne_relative _
  · split
    · nofun
    · nofun
    · split
      · split <;> nofun
      · nofun

theorem readHost_ne_relative (kind : SchemeKind) (cs : List Char) :
    readHost kind cs ≠ .error .relativeWithoutBase := by
  unfold readHost
  split
  · split
    · nofun
    · exact map_ne_error (domainHost_ne_relative cs)
  · unfold opaqueHost
    split
    · exact map_ne_error (bracketed_ne_relative _)
    · nofun
    · split <;> nofun

theorem readPort_ne_relative (port : Option Nat) (input : List Char) :
    readPort port input ≠ .error .relativeWithoutBase := by
  induction input generalizing port with
  | nil =>
    intro h
    cases h
  | cons c rest ih =>
    rw [readPort]
    split
    · simp only
      split
      · intro h
        cases h
      · exact ih _
    · split
      · intro h
        cases h
      · intro h
        cases h

theorem afterSlashes_ne_relative (kind : SchemeKind) (scheme input : List Char) :
    afterSlashes kind scheme input ≠ .error .relativeWithoutBase := by
  unfold afterSlashes
  refine bind_ne_error ?_ nofun
  unfold readAuthority
  refine bind_ne_error ?_ fun ⟨⟨username, password⟩, rest⟩ => ?_
  · unfold takeUserinfo
    split
    · nofun
    · split
      · split <;> nofun
      · nofun
  · refine bind_ne_error (readHost_ne_relative _ _) fun host => ?_
    have hfinish (read : Option Nat × List Char) :
        (if host = none ∧ (username ≠ [] ∨ password ≠ []) then
          (.error .emptyHost : Except Error (Authority × List Char))
        else .ok (⟨username, password, host,
          if read.1 = defaultPort? scheme then none else read.1⟩, read.2)) ≠
        .error .relativeWithoutBase := by
      split <;> nofun
    simp only
    split
    · split
      · nofun
      · exact bind_ne_error (readPort_ne_relative _ _) hfinish
    · exact hfinish _

theorem readFile_ne_relative (input : List Char) :
    readFile input ≠ .error .relativeWithoutBase := by
  have hhost (input : List Char) : fileWithHost input ≠ .error .relativeWithoutBase := by
    rw [fileWithHost_eq]
    split
    · nofun
    · split
      · nofun
      · split
        · rename_i e heq
          intro he
          rw [Except.error.inj he] at heq
          exact domainHost_ne_relative _ heq
        · split
          · nofun
          · split
            · split <;> nofun
            · nofun
  unfold readFile
  split
  · split
    · split
      · exact hhost _
      · nofun
    · nofun
  · split <;> nofun
  · nofun

/-- Only a text without a scheme is refused for want of a base. -/
theorem readAfterScheme_ne_relative (scheme input : List Char) :
    readAfterScheme scheme input ≠ .error .relativeWithoutBase := by
  unfold readAfterScheme
  split
  · exact readFile_ne_relative input
  · exact afterSlashes_ne_relative _ _ _
  · split
    · exact afterSlashes_ne_relative _ _ _
    · nofun

end OpenIdProvider.Url
