/-
  Advertised URLs. The checks of a configuration read its public URL, but the URLs that a server
  advertises are texts: the public URL without the slashes at its end, followed by the path of an
  endpoint. Read again, they lie where they should exactly if the public URL has no query and no
  fragment, if no blank is dropped from its end, and if with one slash at the end it is read with
  only this one (`advertises_iff`).
-/
import OpenIdProvider.Proofs.Config.Usable
import OpenIdProvider.Proofs.Url.Blank

namespace OpenIdProvider

namespace Url

/-! ## Texts and what is read of them -/

/-- What is left of the front of a longer text when this is cleaned. -/
def cleanFront (cs : List Char) : List Char :=
  (cs.dropWhile fun c => c.toNat ≤ 0x20).filter fun c => !(c = '\t' || c = '\n' || c = '\r')

/-- Visible characters at the end of a text are kept, and so is the end of what they follow. -/
theorem clean_visible (front : List Char) {tail : List Char} (hne : tail ≠ [])
    (htail : ∀ c ∈ tail, 0x20 < c.toNat) :
    clean (String.ofList (front ++ tail)) = cleanFront front ++ tail ∧
      cleanFront (front ++ tail) = cleanFront front ++ tail := by
  have hvisible {c : Char} (hc : c ∈ tail) : decide (c.toNat ≤ 0x20) = false :=
    decide_eq_false (Nat.not_le.2 (htail c hc))
  have hkept : tail.filter (fun c => !(c = '\t' || c = '\n' || c = '\r')) = tail := by
    refine List.filter_eq_self.2 fun c hc => ?_
    have hne {d : Char} (hd : d.toNat ≤ 0x20) : c ≠ d := by
      rintro rfl
      exact absurd (htail c hc) (Nat.not_lt.2 hd)
    simp [hne (show ('\t' : Char).toNat ≤ 0x20 by decide),
      hne (show ('\n' : Char).toNat ≤ 0x20 by decide),
      hne (show ('\r' : Char).toNat ≤ 0x20 by decide)]
  have hdrop : (front ++ tail).dropWhile (fun c => decide (c.toNat ≤ 0x20)) =
      (front.dropWhile fun c => decide (c.toNat ≤ 0x20)) ++ tail := by
    rw [List.dropWhile_append]
    split
    · rename_i hempty
      rw [List.isEmpty_iff.1 hempty, List.nil_append]
      exact dropWhile_of_head fun c hc => hvisible (List.mem_of_mem_head? hc)
    · rfl
  have hlast : ∀ c ∈ ((front.dropWhile fun c => decide (c.toNat ≤ 0x20)) ++ tail).reverse.head?,
      decide (c.toNat ≤ 0x20) = false := by
    intro c hc
    rw [List.head?_reverse, List.getLast?_append_of_ne_nil _ hne] at hc
    exact hvisible (List.mem_of_getLast? hc)
  refine ⟨?_, ?_⟩
  · unfold clean cleanFront
    simp only [String.toList_ofList, hdrop, dropWhile_of_head hlast, List.reverse_reverse,
      List.filter_append, hkept]
  · unfold cleanFront
    rw [hdrop, List.filter_append, hkept]

/-- At the end of a text only blanks are dropped. -/
theorem exists_blanks (cs : List Char) :
    ∃ blanks, cleanFront cs = clean (String.ofList cs) ++ blanks ∧
      ∀ c ∈ blanks, c.toNat ≤ 0x20 := by
  unfold cleanFront clean
  simp only [String.toList_ofList]
  generalize cs.dropWhile (fun c => decide (c.toNat ≤ 0x20)) = rest
  refine ⟨((rest.reverse.takeWhile fun c => c.toNat ≤ 0x20).reverse).filter
    fun c => !(c = '\t' || c = '\n' || c = '\r'), ?_, fun c hc => ?_⟩
  · rw [← List.filter_append, ← List.reverse_append, List.takeWhile_append_dropWhile,
      List.reverse_reverse]
  · have hmem := List.mem_reverse.1 (List.mem_filter.1 hc).1
    simpa using List.all_eq_true.1 List.all_takeWhile c hmem

/-- What is read of a cleaned text. -/
def readClean (input : List Char) : Except Error Url :=
  match splitScheme input with
  | some (scheme, rest) => readAfterScheme scheme rest
  | none => .error .relativeWithoutBase

theorem parse_eq (s : String) : parse s = readClean (clean s) := rfl

theorem splitScheme_eq_some {input scheme after : List Char}
    (h : splitScheme input = some (scheme, after)) :
    ∃ front, input = front ++ ':' :: after ∧
      ∀ rest, splitScheme (front ++ ':' :: rest) = some (scheme, rest) := by
  cases input with
  | nil => cases h
  | cons c input =>
    rw [splitScheme_cons] at h
    split at h
    · rename_i hletter
      split at h
      · rename_i after' hafter
        obtain ⟨rfl, rfl⟩ := Prod.mk.inj (Option.some.inj h)
        refine ⟨c :: input.takeWhile isSchemeChar, ?_, fun rest => ?_⟩
        · rw [List.cons_append, ← hafter, List.takeWhile_append_dropWhile]
        · have hfront : ∀ d ∈ input.takeWhile isSchemeChar, isSchemeChar d = true :=
            fun d hd => List.all_eq_true.1 List.all_takeWhile d hd
          have hcolon : ∀ d ∈ (':' :: rest).head?, isSchemeChar d = false := by
            intro d hd
            rw [← Option.some.inj hd]
            decide
          obtain ⟨htake, hdrop⟩ := Split.takeWhile_append hfront hcolon
          rw [List.cons_append, splitScheme_cons, if_pos hletter, hdrop, htake]
          rfl
      · cases h
    · cases h

/-- Where a URL with a special scheme ends in slashes, what stands before them begins the same
reading whatever follows. -/
theorem readClean_extended {cs : List Char} {n : Nat} {u : Url}
    (h : readClean (cs ++ List.replicate n '/') = .ok u)
    (hkind : SchemeKind.ofScheme u.scheme = .special) :
    ∃ inner, ∀ rest, readClean (cs ++ rest) = afterSlashes .special u.scheme (inner ++ rest) := by
  unfold readClean at h
  split at h
  · rename_i scheme after hsplit
    obtain ⟨rfl, -⟩ := readUrl_readAfterScheme h
    obtain ⟨front, heq, hfront⟩ := splitScheme_eq_some hsplit
    -- The colon is no slash, so that it stands before them.
    obtain ⟨inner, rfl, hafter⟩ : ∃ inner, cs = front ++ ':' :: inner ∧
        after = inner ++ List.replicate n '/' := by
      have hcolon : ':' ∉ List.replicate n '/' := fun hmem =>
        absurd (List.eq_of_mem_replicate hmem) (by decide)
      rcases List.append_eq_append_iff.1 heq with ⟨inner, -, hslashes⟩ | ⟨inner, rfl, hslashes⟩
      · exact absurd (by rw [hslashes]; simp) hcolon
      · cases inner with
        | nil =>
          rw [List.nil_append] at hslashes
          exact absurd (by rw [← hslashes]; simp) hcolon
        | cons c inner =>
          obtain ⟨rfl, hafter⟩ := List.cons.inj hslashes
          exact ⟨inner, rfl, hafter⟩
    unfold readAfterScheme at h
    rw [hkind, hafter] at h
    simp only [List.dropWhile_append] at h
    have hne : (inner.dropWhile isSlash).isEmpty = false := by
      rw [Bool.eq_false_iff]
      intro hempty
      rw [if_pos hempty, List.dropWhile_replicate] at h
      cases h
    refine ⟨inner.dropWhile isSlash, fun rest => ?_⟩
    unfold readClean
    rw [List.append_assoc, List.cons_append, hfront]
    unfold readAfterScheme
    simp only [hkind, List.dropWhile_append, hne, Bool.false_eq_true, if_false]
  · cases h

/-! ## Base URLs -/

open ServerPlan (trimSlashes)

theorem lt_toNat_of_slashes (n : Nat) : ∀ c ∈ List.replicate n '/', 0x20 < c.toNat := by
  intro c hc
  rw [List.eq_of_mem_replicate hc]
  decide

/-- A text cut into what is read before its slashes at the end and the blanks that are dropped from
its end. Of a base URL, which is the text without its slashes at the end, both are read. -/
structure Cut (text : String) (cs blanks : List Char) (slashes : Nat) : Prop where
  whole : clean text = cs ++ List.replicate slashes '/'
  base : ∀ tail, tail ≠ [] → (∀ c ∈ tail, 0x20 < c.toNat) →
    clean (trimSlashes text ++ String.ofList tail) = cs ++ (blanks ++ tail)
  blank : ∀ c ∈ blanks, c.toNat ≤ 0x20
  noSlashes : blanks ≠ [] → slashes = 0
  kept : clean (text ++ "/") = clean text ++ ['/'] ↔ blanks = []

theorem exists_cut (text : String) : ∃ cs blanks slashes, Cut text cs blanks slashes := by
  obtain ⟨base, n, htext, hbase⟩ : ∃ base n, text = String.ofList (base ++ List.replicate n '/') ∧
      trimSlashes text = String.ofList base := by
    refine ⟨text.toList.rdropWhile (· == '/'), (text.toList.rtakeWhile (· == '/')).length, ?_, rfl⟩
    have hslashes : text.toList.rtakeWhile (· == '/') =
        List.replicate (text.toList.rtakeWhile (· == '/')).length '/' :=
      List.eq_replicate_iff.2 ⟨rfl, fun c hc => by simpa using List.mem_rtakeWhile_imp hc⟩
    rw [← hslashes, List.rdropWhile_append_rtakeWhile, String.ofList_toList]
  have htail (tail : List Char) (hne : tail ≠ []) (hvisible : ∀ c ∈ tail, 0x20 < c.toNat) :
      clean (trimSlashes text ++ String.ofList tail) = cleanFront base ++ tail := by
    rw [hbase, ← String.ofList_append]
    exact (clean_visible base hne hvisible).1
  have hmore : clean (text ++ "/") = cleanFront (base ++ List.replicate n '/') ++ ['/'] := by
    rw [htext, show ("/" : String) = String.ofList ['/'] from rfl, ← String.ofList_append]
    exact (clean_visible _ (List.cons_ne_nil _ _) (lt_toNat_of_slashes 1)).1
  cases n with
  | zero =>
    obtain ⟨blanks, hfront, hblanks⟩ := exists_blanks base
    rw [List.replicate_zero, List.append_nil] at htext hmore
    rw [← htext] at hfront
    refine ⟨clean text, blanks, 0, ?_, fun tail hne hvisible => ?_, hblanks, fun _ => rfl, ?_⟩
    · rw [List.replicate_zero, List.append_nil]
    · rw [htail tail hne hvisible, hfront, List.append_assoc]
    · rw [hmore, hfront]
      simp
  | succ n =>
    have hne : List.replicate (n + 1) '/' ≠ [] := List.cons_ne_nil _ _
    obtain ⟨hwhole, hfront⟩ := clean_visible base hne (lt_toNat_of_slashes _)
    rw [← htext] at hwhole
    refine ⟨cleanFront base, [], n + 1, hwhole, fun tail hne hvisible => ?_, nofun, nofun, ?_⟩
    · exact htail tail hne hvisible
    · rw [hmore, hfront, hwhole]
      simp

/-- A URL at a path of the server that another URL names, without a query and a fragment. -/
structure IsAt (v u : Url) (path : List Char) : Prop where
  scheme : v.scheme = u.scheme
  host : v.host? = u.host?
  port : v.authority.bind Authority.port = u.authority.bind Authority.port
  path : v.path = path
  query : v.query = none
  fragment : v.fragment = none

/-- A public URL to which paths can be added as a text: it has no query and no fragment, no blank
is dropped from its end, and with one slash at its end it is read with only this one. -/
structure Extensible (text : String) (u : Url) : Prop where
  query : u.query = none
  fragment : u.fragment = none
  ending : clean (text ++ "/") = clean text ++ ['/']
  slash : ∃ v, parse (trimSlashes text ++ "/") = .ok v ∧ ¬ ['/', '/'] <:+ v.path

theorem IsAt.not_marked {v u : Url} {path : List Char} (h : v.IsAt u path) : ¬ v.Marked :=
  not_or.2 ⟨not_not.2 h.query, not_not.2 h.fragment⟩

theorem Extensible.not_marked {text : String} {u : Url} (h : Extensible text u) : ¬ u.Marked :=
  not_or.2 ⟨not_not.2 h.query, not_not.2 h.fragment⟩

/-- An open path without its slashes at the end lacks one slash, if it does not end in two. -/
theorem OpenPath.eq_trimmed_iff {path : List Char} (h : OpenPath .special path) :
    path = trimmed path ++ ['/'] ↔ ¬ ['/', '/'] <:+ path := by
  obtain ⟨segments, rfl, -⟩ := h
  generalize pathOf segments = front
  rw [trimmed_concat, List.append_cancel_right_eq, eq_comm]
  rcases List.eq_nil_or_concat front with rfl | ⟨front, c, rfl⟩
  · exact ⟨fun _ => by decide, fun _ => rfl⟩
  rw [List.concat_eq_append]
  by_cases hc : c = '/'
  · subst hc
    rw [trimmed_concat]
    refine ⟨fun heq => ?_, fun hnot => absurd ⟨front, by simp⟩ hnot⟩
    have hle : (trimmed front).length ≤ front.length := (List.rdropWhile_prefix _ _).length_le
    rw [heq, List.length_append, List.length_singleton] at hle
    omega
  · refine ⟨?_, fun _ => List.rdropWhile_concat_neg _ _ _ (by simpa using hc)⟩
    rintro - ⟨before, heq⟩
    rw [show ['/', '/'] = ['/'] ++ ['/'] from rfl, ← List.append_assoc,
      List.append_cancel_right_eq] at heq
    exact hc (List.singleton_inj.1 (List.append_inj_right' heq rfl)).symm

theorem NormalPath.lt_toNat {kind : SchemeKind} {path : List Char} (h : NormalPath kind path) :
    ∀ c ∈ path, 0x20 < c.toNat := by
  obtain ⟨segments, -, rfl, hsegments⟩ := h
  intro c hc
  obtain ⟨segment, hsegment, hc⟩ := List.mem_flatMap.1 hc
  rcases List.mem_cons.1 hc with rfl | hc
  · decide
  · obtain ⟨hkept, -, -⟩ := isSegmentChar_iff.1 ((hsegments segment hsegment).chars c hc)
    obtain ⟨hle, -, hset⟩ := isKept_eq_true_iff.1 hkept
    refine Nat.lt_of_le_of_ne hle fun heq => hset ?_
    rw [show c = ' ' from Char.toNat_inj.1 heq.symm]
    decide

theorem pathOf_replicate (n : Nat) : pathOf (List.replicate n []) = List.replicate n '/' := by
  induction n with
  | zero => rfl
  | succ n ih =>
    rw [List.replicate_succ, pathOf_cons, ih]
    rfl

/-- Slashes at the end change nothing but the slashes at the end of the path. -/
theorem Followed.slashes {scheme cs path : List Char} {a : Authority}
    (h : Followed scheme cs a path) (n : Nat) :
    ∃ last, afterSlashes .special scheme (cs ++ List.replicate n '/') =
      .ok ⟨scheme, some a, last, none, none⟩ ∧ trimmed last = trimmed path := by
  cases n with
  | zero =>
    rw [List.replicate_zero, List.append_nil]
    exact h.last
  | succ n =>
    have hsegments : ∀ other ∈ [] :: List.replicate n [], NormalSegment .special other := by
      intro other hother
      rw [List.eq_of_mem_replicate (show other ∈ List.replicate (n + 1) [] from hother)]
      exact normalSegment_nil .special
    have hread := h.reads [] (List.replicate n []) hsegments
    rw [pathOf_cons, List.append_nil, pathOf_replicate] at hread
    exact ⟨_, hread, trimmed_slashes path n⟩

/-- Segments that follow a text lead where they should unless the path to which they are added ends
in two slashes. -/
theorem Followed.isAt_iff {scheme cs base : List Char} {a : Authority}
    (h : Followed scheme cs a base) {n : Nat} {u : Url}
    (hu : afterSlashes .special scheme (cs ++ List.replicate n '/') = .ok u) {segment : List Char}
    {segments : List (List Char)}
    (hsegments : ∀ other ∈ segment :: segments, NormalSegment .special other) :
    (∃ v, afterSlashes .special scheme (cs ++ pathOf (segment :: segments)) = .ok v ∧
        v.IsAt u (trimmed u.path ++ pathOf (segment :: segments))) ↔
      u.query = none ∧ u.fragment = none ∧
        ∃ v, afterSlashes .special scheme (cs ++ ['/']) = .ok v ∧ ¬ ['/', '/'] <:+ v.path := by
  obtain ⟨last, hlast, htrimmed⟩ := h.slashes n
  rw [hlast] at hu
  obtain rfl := Except.ok.inj hu
  have hnil : ∀ other ∈ [([] : List Char)], NormalSegment .special other := by
    intro other hother
    rw [List.mem_singleton.1 hother]
    exact normalSegment_nil .special
  have hroot : afterSlashes .special scheme (cs ++ ['/']) =
      .ok ⟨scheme, some a, base, none, none⟩ := by
    have hread := h.reads [] [] hnil
    rwa [List.append_nil, show pathOf [] = [] from rfl, List.append_nil] at hread
  have hpath : base ++ segment ++ pathOf segments =
      trimmed last ++ pathOf (segment :: segments) ↔ ¬ ['/', '/'] <:+ base := by
    rw [htrimmed, pathOf_cons, List.append_assoc, List.cons_append, List.append_cons,
      List.append_cancel_right_eq, h.opened.eq_trimmed_iff]
  rw [h.reads segment segments hsegments, hroot]
  constructor
  · rintro ⟨_, hv, hat⟩
    obtain rfl := Except.ok.inj hv
    exact ⟨rfl, rfl, _, rfl, hpath.1 hat.path⟩
  · rintro ⟨-, -, v, hv, hslash⟩
    obtain rfl := Except.ok.inj hv
    exact ⟨_, rfl, rfl, rfl, rfl, hpath.2 hslash, rfl, rfl⟩

/-- A path that is added to a base URL leads where it should exactly if the public URL can be
extended. -/
theorem isAt_iff {text : String} {u : Url} (hu : parse text = .ok u)
    (hkind : SchemeKind.ofScheme u.scheme = .special) {path : List Char}
    (hpath : NormalPath .special path) :
    (∃ v, parse (trimSlashes text ++ String.ofList path) = .ok v ∧
        v.IsAt u (trimmed u.path ++ path)) ↔ Extensible text u := by
  obtain ⟨cs, blanks, slashes, hcut⟩ := exists_cut text
  have hvisible := hpath.lt_toNat
  obtain ⟨segment, segments, rfl, hsegments⟩ := hpath.exists_cons
  rw [← pathOf_cons] at hvisible ⊢
  have hne : pathOf (segment :: segments) ≠ [] := List.cons_ne_nil _ _
  rw [parse_eq, hcut.whole] at hu
  obtain ⟨inner, hinner⟩ := readClean_extended hu hkind
  rw [hinner] at hu
  have hbase (tail : List Char) (hne : tail ≠ []) (htail : ∀ c ∈ tail, 0x20 < c.toNat) :
      parse (trimSlashes text ++ String.ofList tail) =
        afterSlashes .special u.scheme (inner ++ (blanks ++ tail)) := by
    rw [parse_eq, hcut.base tail hne htail, hinner]
  have hreached : Reached u.scheme inner := by
    refine reached_of_afterSlashes (fun c hc => ?_) hu
    rw [List.eq_of_mem_replicate (List.mem_of_mem_head? hc)]
    rfl
  rw [hbase _ hne hvisible]
  rcases List.eq_nil_or_concat blanks with rfl | ⟨front, c, hblanks⟩
  · rcases hreached.followed with ⟨a, base, hfollowed⟩ | hmarked
    · have hslash := hbase ['/'] (List.cons_ne_nil _ _) (lt_toNat_of_slashes 1)
      rw [List.nil_append] at hslash
      rw [List.nil_append, hfollowed.isAt_iff hu hsegments, ← hslash]
      exact ⟨fun ⟨hquery, hfragment, hone⟩ => ⟨hquery, hfragment, hcut.kept.2 rfl, hone⟩,
        fun hextensible => ⟨hextensible.query, hextensible.fragment, hextensible.slash⟩⟩
    · constructor
      · rintro ⟨v, hv, hat⟩
        exact absurd (hmarked _ v hv) hat.not_marked
      · intro hextensible
        exact absurd (hmarked _ u hu) hextensible.not_marked
  · rw [List.concat_eq_append] at hblanks
    subst hblanks
    have hnone : slashes = 0 := hcut.noSlashes (by simp)
    rw [hnone, List.replicate_zero, List.append_nil] at hu
    constructor
    · rintro ⟨v, hv, hat⟩
      rcases hreached.marked_or_ne hu hcut.blank hsegments hv with hmarked | hne
      · exact absurd hmarked hat.not_marked
      · exact absurd hat.path hne
    · intro hextensible
      exact absurd (hcut.kept.1 hextensible.ending) (by simp)

end Url

/-! ## Servers -/

open Url (NormalPath NormalSegment Extensible trimmed)

/-- The URLs of a description, each with the path where it should lie. -/
def Metadata.places (m : Metadata) : List (String × String) :=
  [(m.issuer, Endpoint.issuerPath), (m.authorizationEndpoint, Endpoint.authorization.path),
    (m.tokenEndpoint, Endpoint.token.path), (m.userinfoEndpoint, Endpoint.userinfo.path),
    (m.keysUri, Endpoint.keys.path)]

/-- What a server advertises is right for a URL of it: every URL of its description is one of the
server that this URL names, at a path behind that of this URL. -/
def Server.Advertises (server : Server) (u : Url) : Prop :=
  ∀ place ∈ (Metadata.ofSettings server.settings).places, ∃ v, Url.parse place.1 = .ok v ∧
    (v.scheme = "http".toList ∨ v.scheme = "https".toList) ∧
    v.IsAt u (trimmed u.path ++ place.2.toList)

/-- The URLs of a description are its base URL followed by normal paths. -/
theorem Metadata.normalPath_places (s : Settings) :
    ∀ place ∈ (Metadata.ofSettings s).places,
      place.1 = s.baseUrl ++ place.2 ∧ NormalPath .special place.2.toList := by
  have hsegments (path : String) (segments : List String)
      (hpath : path.toList = Url.pathOf (segments.map String.toList)) (hne : segments ≠ [])
      (hsubset : segments ⊆ ["oidc", "authorize", "token", "userinfo", ".well-known",
        "jwks.json"]) : NormalPath .special path.toList := by
    have hnormal : ∀ segment ∈ ["oidc", "authorize", "token", "userinfo", ".well-known",
        "jwks.json"], segment.toList.all (Url.isSegmentChar .special) = true ∧
          Url.isSingleDot segment.toList = false ∧ Url.isDoubleDot segment.toList = false := by
      decide
    refine ⟨_, by simpa using hne, hpath, fun segment hsegment => ?_⟩
    obtain ⟨name, hname, rfl⟩ := List.mem_map.1 hsegment
    obtain ⟨hchars, hsingle, hdouble⟩ := hnormal name (hsubset hname)
    exact ⟨List.all_eq_true.1 hchars, hsingle, hdouble⟩
  intro place hplace
  simp only [places, List.mem_cons, List.not_mem_nil, or_false] at hplace
  rcases hplace with rfl | rfl | rfl | rfl | rfl
  · exact ⟨rfl, hsegments Endpoint.issuerPath ["oidc"] rfl (by decide) (by decide)⟩
  · exact ⟨rfl, hsegments Endpoint.authorization.path ["oidc", "authorize"] rfl (by decide)
      (by decide)⟩
  · exact ⟨rfl, hsegments Endpoint.token.path ["oidc", "token"] rfl (by decide) (by decide)⟩
  · exact ⟨rfl, hsegments Endpoint.userinfo.path ["oidc", "userinfo"] rfl (by decide) (by decide)⟩
  · exact ⟨rfl, hsegments Endpoint.keys.path ["oidc", ".well-known", "jwks.json"] rfl (by decide)
      (by decide)⟩

namespace Config

/-- What the checks of a configuration say about its public URL. -/
theorem scheme_of_validate {c : Config} (h : c.validate = .ok ()) {text : String}
    (htext : c.server.publicUrl = some text) {u : Url} (hu : Url.parse text = .ok u) :
    u.scheme = "http".toList ∨ u.scheme = "https".toList := by
  simp only [validate, bind_unit_eq_ok] at h
  obtain ⟨-, hpublic, -⟩ := h
  unfold checkPublicUrl at hpublic
  simp only [htext, hu] at hpublic
  split at hpublic
  · rename_i hscheme
    exact hscheme.1
  · cases hpublic

/-- A server of a configuration that passes its checks advertises the right URLs exactly if its
public URL can be extended. -/
theorem advertises_iff {c : Config} {keyFile : File} {plan : ServerPlan} {text : String} {u : Url}
    (hvalid : c.validate = .ok ()) (hplan : ServerPlan.ofConfig c keyFile = .ok plan)
    (htext : c.server.publicUrl = some text) (hu : Url.parse text = .ok u) (address : String)
    (madeUp : KeyAuthority) (random : Nat → String) :
    (plan.start address madeUp random).Advertises u ↔ Extensible text u := by
  have hscheme := scheme_of_validate hvalid htext hu
  have hkind : Url.SchemeKind.ofScheme u.scheme = .special := by
    rcases hscheme with hscheme | hscheme <;> rw [hscheme] <;> rfl
  have hbase : (plan.start address madeUp random).settings.baseUrl =
      ServerPlan.trimSlashes text := by
    obtain ⟨keys, -, -, -, rfl⟩ := ServerPlan.ofConfig_eq_ok_iff.1 hplan
    show ServerPlan.baseUrl _ address = _
    unfold ServerPlan.baseUrl
    rw [htext]
  have hplaces := Metadata.normalPath_places (plan.start address madeUp random).settings
  have hplace {place : String × String}
      (hmem : place ∈ (Metadata.ofSettings (plan.start address madeUp random).settings).places) :
      (∃ v, Url.parse place.1 = .ok v ∧ v.IsAt u (trimmed u.path ++ place.2.toList)) ↔
        Extensible text u := by
    obtain ⟨htext, hpath⟩ := hplaces place hmem
    have hiff := Url.isAt_iff hu hkind hpath
    rwa [String.ofList_toList, ← hbase, ← htext] at hiff
  constructor
  · intro hadvertises
    obtain ⟨v, hv, -, hat⟩ := hadvertises _ List.mem_cons_self
    exact (hplace List.mem_cons_self).1 ⟨v, hv, hat⟩
  · intro hextensible place hmem
    obtain ⟨v, hv, hat⟩ := (hplace hmem).2 hextensible
    exact ⟨v, hv, hat.scheme ▸ hscheme, hat⟩

/-- A configuration that asks only for a public URL. -/
def published (url : String) : Config := { server := ⟨"127.0.0.1:8080", some url⟩ }

/-- A server of such a configuration. -/
def publishedServer (url : String) : Server :=
  ServerPlan.start { publicUrl := some url } "" (.ofRsa Rsa.sampleKey) fun _ => "r"

theorem ofConfig_published (url : String) :
    ServerPlan.ofConfig (published url) .missing = .ok { publicUrl := some url } := by
  have haccess : Duration.isRepresentable 600 = true := by decide
  have hrefresh : Duration.isRepresentable 3600 = true := by decide
  exact ServerPlan.ofConfig_eq_ok_iff.2 ⟨none, rfl, haccess, hrefresh, rfl⟩

/-- The URL `https://[::1]:8443/idp/`, with a path to which others can be added. -/
def folderUrl : Url :=
  ⟨"https".toList, some ⟨[], [], some (.ipv6 ⟨[0, 0, 0, 0, 0, 0, 0, 1]⟩), some 8443⟩,
    "/idp/".toList, none, none⟩

theorem advertises_folder :
    (published "https://[::1]:8443/idp/").validate = .ok () ∧
      ServerPlan.ofConfig (published "https://[::1]:8443/idp/") .missing =
        .ok { publicUrl := some "https://[::1]:8443/idp/" } ∧
      Url.parse "https://[::1]:8443/idp/" = .ok folderUrl ∧
      (publishedServer "https://[::1]:8443/idp/").Advertises folderUrl := by
  have hvalid : (published "https://[::1]:8443/idp/").validate = .ok () := by decide
  have hplan := ofConfig_published "https://[::1]:8443/idp/"
  have hread : Url.parse "https://[::1]:8443/idp/" = .ok folderUrl := rfl
  have hextensible : Extensible "https://[::1]:8443/idp/" folderUrl :=
    ⟨rfl, rfl, by decide, folderUrl, rfl, by decide⟩
  exact ⟨hvalid, hplan, hread, (advertises_iff hvalid hplan rfl hread _ _ _).2 hextensible⟩

/-- The URL `http://[::1]?x=1`, with a query. -/
def queryUrl : Url :=
  ⟨"http".toList, some ⟨[], [], some (.ipv6 ⟨[0, 0, 0, 0, 0, 0, 0, 1]⟩), none⟩, ['/'],
    some "x=1".toList, none⟩

/-- The paths of endpoints are added to the query of a public URL. -/
theorem not_advertises_query :
    (published "http://[::1]?x=1").validate = .ok () ∧
      ServerPlan.ofConfig (published "http://[::1]?x=1") .missing =
        .ok { publicUrl := some "http://[::1]?x=1" } ∧
      Url.parse "http://[::1]?x=1" = .ok queryUrl ∧
      ¬ (publishedServer "http://[::1]?x=1").Advertises queryUrl := by
  refine ⟨by decide, ofConfig_published _, rfl, fun hadvertises => ?_⟩
  obtain ⟨v, hv, -, hat⟩ := hadvertises _ List.mem_cons_self
  have hissuer : Url.parse "http://[::1]?x=1/oidc" = .ok v := hv
  have hquery : (Url.parse "http://[::1]?x=1/oidc").toOption.map Url.query =
      some (some "x=1/oidc".toList) := rfl
  rw [hissuer] at hquery
  cases hat.query.symm.trans (Option.some.inj hquery)

end Config

end OpenIdProvider
