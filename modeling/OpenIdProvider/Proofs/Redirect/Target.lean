/-
  Where redirects lead. The provider resolves a redirect URI against a stand-in and sends a text
  that the browser resolves against the provider itself. Both name the same target, all but the
  query, exactly where `Kept` says so (`keepsTarget_iff`): a path with two slashes in front is read
  as an authority, a host of the name of the stand-in is taken for the provider, and the port of
  the scheme of the stand-in is lost.
-/
import OpenIdProvider.Proofs.Codec.Form
import OpenIdProvider.Proofs.Url.Reference
import OpenIdProvider.Redirect

namespace OpenIdProvider.Redirect

open Url

/-! ## Targets -/

/-- The origin of the provider as a browser sees it. -/
structure Origin where
  secure : Bool
  host : Host
  port : Option Nat

def Origin.scheme (o : Origin) : List Char := if o.secure then "https".toList else "http".toList

/-- The endpoint that sends the redirects. -/
def Origin.endpoint (o : Origin) : Url :=
  ⟨o.scheme, some ⟨[], [], some o.host, o.port⟩, endpointPath, none, none⟩

/-- Two URLs that differ in their query at most. -/
structure SameTarget (u v : Url) : Prop where
  scheme : u.scheme = v.scheme
  authority : u.authority = v.authority
  path : u.path = v.path
  fragment : u.fragment = v.fragment

/-- From the endpoint of an origin, the location leads where the target does. -/
def KeepsTarget (o : Origin) (target location : String) : Prop :=
  ∃ u v, o.endpoint.resolve target = .ok u ∧ o.endpoint.resolve location = .ok v ∧ SameTarget u v

/-- Whether a resolved target is taken for one of the provider itself. -/
def IsHere (u : Url) : Prop := u.host?.map Host.text = some standInHost.text

/-- When a location leads where the target does. An absolute target does if its text is read as
what the browser makes of it. One of the provider itself does if it names no other authority and
its path does not look like one. One with a host does if the host is read from its text, and the
port is none that only the stand-in implies. -/
def Kept (o : Origin) (target : String) : Prop :=
  match parse target, standIn.resolve target, o.endpoint.resolve target with
  | .ok u, _, .ok v => ∃ w, u.reread = .ok w ∧ SameTarget v w
  | .error _, .ok u, .ok v =>
    IsHere u ∧ v.authority = o.endpoint.authority ∧ ¬ ['/', '/'] <+: v.path ∨
      ¬ IsHere u ∧ ∃ a host, v.authority = some a ∧ a.host = some host ∧
        domainHost host.text = .ok host ∧ a.port ≠ some 80
  | _, _, _ => False

/-! ## The merged query -/

theorem merge_query (u : Url) (code state : String) :
    ∃ q, (merge u code state).query = some q ∧ '#' ∉ q ∧ ∀ c ∈ q, 0x20 < c.toNat :=
  ⟨_, rfl, Form.hash_not_mem_encode _,
    fun _ hc => (Form.range_of_isFormChar (Form.isFormChar_encode hc)).1⟩

theorem afterPath_merge_ne_nil (u : Url) (code state : String) :
    (merge u code state).afterPath ≠ [] :=
  List.append_ne_nil_of_left_ne_nil (List.cons_ne_nil _ _) _

theorem lt_toNat_afterPath_merge {u : Url} (h : u.PlainFragment) (code state : String) :
    ∀ c ∈ (merge u code state).afterPath, 0x20 < c.toNat := by
  obtain ⟨q, hq, -, hchars⟩ := merge_query u code state
  refine lt_toNat_afterPath (u := merge u code state) h fun q' hq' => ?_
  rw [hq] at hq'
  rw [← Option.some.inj hq']
  exact hchars

/-- The fragment of a target follows the merged query unchanged. -/
theorem withTail_merge {u : Url} (h : u.PlainFragment) (code state : String) (kind : SchemeKind)
    (base : Url) : (withTail kind base (merge u code state).afterPath).fragment = u.fragment := by
  obtain ⟨q, hq, hhash, -⟩ := merge_query u code state
  exact withTail_afterPath (u := merge u code state) h hq hhash kind base

/-! ## Absolute targets -/

theorem Origin.kind (o : Origin) : SchemeKind.ofScheme o.endpoint.scheme = .special := by
  unfold endpoint scheme
  cases o.secure <;> rfl

theorem clean_text {u : Url} (h : ReadUrl u) (hscheme : SchemeText u.scheme)
    (code state : String) :
    clean (String.ofList (merge u code state).text) = (merge u code state).text := by
  have hfront : ∀ c ∈ u.scheme ++ ':' :: u.beforePath ++ u.path, 0x20 ≤ c.toNat := by
    intro c hc
    rw [List.append_assoc] at hc
    rcases List.mem_append.1 hc with hc | hc
    · exact (hscheme.isFront c hc).1.1
    · rcases List.mem_cons.1 hc with rfl | hc
      · decide
      · exact (h.isFront c hc).1.1
  have hhead : ∀ c ∈ (u.scheme ++ ':' :: u.beforePath ++ u.path).head?, 0x20 < c.toNat := by
    obtain ⟨d, rest, heq, -, -⟩ := hscheme.front
    intro c hc
    rw [heq] at hc
    rw [← Option.some.inj hc]
    exact (hscheme.range d (by rw [heq]; exact List.mem_cons_self)).1
  exact clean_append hfront hhead (lt_toNat_afterPath_merge h.fragment code state)
    (afterPath_merge_ne_nil u code state)

/-- The text of an absolute target is read at the endpoint as it is without a base. -/
theorem resolve_text (o : Origin) {u : Url} (h : ReadUrl u) (hscheme : SchemeText u.scheme)
    (code state : String) :
    o.endpoint.resolve (String.ofList (merge u code state).text) =
      u.reread.map fun w =>
        withTail (SchemeKind.ofScheme u.scheme) w (merge u code state).afterPath := by
  have htext : (merge u code state).text =
      u.scheme ++ ':' :: (u.beforePath ++ (u.path ++ (merge u code state).afterPath)) := by
    show u.scheme ++ ':' :: u.beforePath ++ u.path ++ _ = _
    rw [List.append_assoc, List.append_assoc]
    rfl
  have hown : ¬ (u.scheme = o.endpoint.scheme ∧ beginsWithSlashes
      (u.beforePath ++ (u.path ++ (merge u code state).afterPath)) = false) := by
    rintro ⟨heq, hslashes⟩
    have hkind : SchemeKind.ofScheme u.scheme = .special := by
      rw [heq]
      exact o.kind
    have hauthority : ∃ a, u.authority = some a := by
      cases h with
      | file h =>
        obtain ⟨host, hauthority, -⟩ := h.authority
        exact ⟨_, hauthority⟩
      | slashes a hfile hauthority hread hpath hfragment => exact ⟨a, hauthority⟩
      | bare hother hauthority hpath hfragment =>
        rw [hkind] at hother
        cases hother
    obtain ⟨a, hauthority⟩ := hauthority
    unfold beforePath at hslashes
    rw [hauthority] at hslashes
    cases hslashes
  rw [resolve_eq, clean_text h hscheme, htext, splitScheme_append hscheme]
  simp only [if_neg hown]
  exact readAfterScheme_text h (isTail_afterPath (merge u code state))

/-- Where an absolute target is read from. -/
theorem parse_eq_ok {target : String} {u : Url} (h : parse target = .ok u) :
    ∃ rest, splitScheme (clean target) = some (u.scheme, rest) ∧ ReadUrl u ∧
      SchemeText u.scheme := by
  unfold parse at h
  split at h
  · rename_i scheme rest hsplit
    obtain ⟨rfl, hread⟩ := readUrl_readAfterScheme h
    exact ⟨rest, hsplit, hread, schemeText_splitScheme hsplit⟩
  · cases h

theorem sameTarget_withTail {v w : Url} {tail : List Char} (kind : SchemeKind)
    (h : (withTail kind w tail).fragment = w.fragment) :
    SameTarget v (withTail kind w tail) ↔ SameTarget v w := by
  constructor
  · rintro ⟨hscheme, hauthority, hpath, hfragment⟩
    exact ⟨hscheme, hauthority, hpath, hfragment.trans h⟩
  · rintro ⟨hscheme, hauthority, hpath, hfragment⟩
    exact ⟨hscheme, hauthority, hpath, hfragment.trans h.symm⟩

theorem keepsTarget_absolute (o : Origin) {target : String} {u : Url} (h : parse target = .ok u)
    (code state : String) :
    KeepsTarget o target (String.ofList (merge u code state).text) ↔
      ∃ v w, o.endpoint.resolve target = .ok v ∧ u.reread = .ok w ∧ SameTarget v w := by
  obtain ⟨rest, -, hread, hscheme⟩ := parse_eq_ok h
  have hsame {v w : Url} (hw : u.reread = .ok w) :
      SameTarget v (withTail (SchemeKind.ofScheme u.scheme) w (merge u code state).afterPath) ↔
        SameTarget v w := by
    refine sameTarget_withTail _ ?_
    rw [withTail_merge hread.fragment, reread_fragment hw]
  unfold KeepsTarget
  rw [resolve_text o hread hscheme code state]
  constructor
  · rintro ⟨v, w', hv, hw', hkept⟩
    rw [map_eq_ok] at hw'
    obtain ⟨w, hw, rfl⟩ := hw'
    exact ⟨v, w, hv, hw, (hsame hw).1 hkept⟩
  · rintro ⟨v, w, hv, hw, hkept⟩
    exact ⟨v, _, hv, map_eq_ok.2 ⟨w, hw, rfl⟩, (hsame hw).2 hkept⟩

/-! ## Relative targets -/

theorem parse_eq_relative {target : String} :
    parse target = .error .relativeWithoutBase ↔ splitScheme (clean target) = none := by
  unfold parse
  constructor
  · intro h
    split at h
    · exact absurd h (readAfterScheme_ne_relative _ _)
    · assumption
  · intro h
    rw [h]

theorem resolve_relative (base : Url) {target : String} (h : splitScheme (clean target) = none) :
    base.resolve target =
      match ownAuthority? (clean target) with
      | some rest => afterSlashes (SchemeKind.ofScheme base.scheme) base.scheme rest
      | none => .ok (base.continued (clean target)) := by
  rw [resolve_eq, h]
  exact readRelative_eq base _

theorem normalSegment_endpoint {segment : List Char}
    (h : segment = "oidc".toList ∨ segment = "authorize".toList) :
    NormalSegment .special segment := by
  rcases h with rfl | rfl <;>
    exact ⟨List.all_iff_forall_prop.1 (by decide), by decide, by decide⟩

theorem normalPath_endpoint : NormalPath .special endpointPath := by
  refine ⟨["oidc".toList, "authorize".toList], List.cons_ne_nil _ _, rfl, fun segment h => ?_⟩
  refine normalSegment_endpoint ?_
  simpa using h

theorem openPath_directory (o : Origin) : OpenPath .special o.endpoint.directory := by
  have hdirectory : o.endpoint.directory = "/oidc/".toList := by
    unfold directory
    rw [o.kind]
    rfl
  rw [hdirectory]
  refine ⟨["oidc".toList], rfl, fun segment h => normalSegment_endpoint (.inl ?_)⟩
  exact List.mem_singleton.1 h

/-- What the stand-in makes of a relative target and what the endpoint makes of it: they differ in
the origin, or in a port that one of the schemes implies. -/
structure Resolved (o : Origin) (target : String) (u v : Url) : Prop where
  resolve : o.endpoint.resolve target = .ok v
  read : ReadUrl u
  scheme : u.scheme = standIn.scheme ∧ v.scheme = o.endpoint.scheme
  authority : u.authority = standIn.authority ∧ v.authority = o.endpoint.authority ∨
    ∃ a : Authority, u.authority = some (a.normalized standIn.scheme) ∧
      v.authority = some (a.normalized o.endpoint.scheme)
  path : v.path = u.path
  fragment : v.fragment = u.fragment

theorem readAuthority_standIn :
    ReadAuthority .special standIn.scheme ⟨[], [], some standInHost, none⟩ := by
  have hhost : HostText standInHost.text :=
    ⟨List.all_iff_forall_prop.1 (by decide), .inl (List.all_iff_forall_prop.1 (by decide)),
      by decide, List.all_iff_forall_prop.1 (by decide)⟩
  refine ⟨⟨nofun, nofun, ?_, nofun, nofun⟩, nofun, fun h => absurd rfl h⟩
  intro h heq
  rw [← Option.some.inj heq]
  exact hhost

theorem exists_resolved (o : Origin) {target : String} (hnone : splitScheme (clean target) = none)
    {u : Url} (h : standIn.resolve target = .ok u) : ∃ v, Resolved o target u v := by
  have hkind : SchemeKind.ofScheme standIn.scheme = .special := rfl
  have hkinds : SchemeKind.ofScheme o.endpoint.scheme = SchemeKind.ofScheme standIn.scheme := o.kind
  have hresolve := resolve_relative o.endpoint hnone
  rw [resolve_relative _ hnone] at h
  cases hown : ownAuthority? (clean target) with
  | none =>
    rw [hown] at h hresolve
    obtain rfl := Except.ok.inj h
    obtain ⟨hscheme, hauthority⟩ := continued_origin standIn (clean target)
    obtain ⟨hscheme', hauthority'⟩ := continued_origin o.endpoint (clean target)
    obtain ⟨hpath, hfragment⟩ :=
      continued_path hkinds rfl (clean target)
    obtain ⟨hnormal, hplain⟩ := continued_normal hkind normalPath_endpoint
      (openPath_directory ⟨false, standInHost, none⟩) (clean target)
    refine ⟨_, hresolve, ?_, ⟨hscheme, hscheme'⟩, .inl ⟨hauthority, hauthority'⟩, hpath, hfragment⟩
    refine .slashes ⟨[], [], some standInHost, none⟩ ?_ hauthority ?_ ?_ hplain <;> rw [hscheme]
    · decide
    · exact readAuthority_standIn
    · exact .inl hnormal
  | some rest =>
    rw [hown] at h hresolve
    simp only [hkind] at h
    simp only [o.kind] at hresolve
    obtain ⟨hscheme, hread⟩ := readUrl_afterSlashes (by rw [hkind]; decide) (by rw [hkind]; exact h)
    obtain ⟨a, v, hauthority, hv, hscheme', hauthority', hpath, hfragment⟩ :=
      afterSlashes_scheme (by decide) h o.endpoint.scheme
    exact ⟨v, hresolve.trans hv, hread, ⟨hscheme, hscheme'⟩, .inr ⟨a, hauthority, hauthority'⟩,
      hpath, hfragment⟩

/-- A resolved target has a path and an authority with a host. -/
theorem Resolved.parts {o : Origin} {target : String} {u v : Url} (h : Resolved o target u v) :
    NormalPath .special u.path ∧ ∃ a host, u.authority = some a ∧ a.host = some host ∧
      WrittenAuthority a := by
  have hkind : SchemeKind.ofScheme u.scheme = .special := by
    rw [h.scheme.1]
    rfl
  cases h.read with
  | file hfile =>
    rw [hfile.scheme] at hkind
    exact absurd hkind (by decide)
  | slashes a hfile hauthority hread hpath hfragment =>
    rw [hkind] at hread hpath
    obtain ⟨host, hhost⟩ := Option.ne_none_iff_exists'.1 (hread.host rfl)
    refine ⟨?_, a, host, hauthority, hhost, hread.written⟩
    rcases hpath with hnormal | ⟨hother, -⟩
    · exact hnormal
    · cases hother
  | bare hother hauthority hpath hfragment =>
    rw [hkind] at hother
    cases hother

section

variable (o : Origin) {u : Url} (h : NormalPath .special u.path) (hplain : u.PlainFragment)
  (code state : String)

include h hplain

theorem clean_here :
    clean (String.ofList (u.path ++ (merge u code state).afterPath)) =
      u.path ++ (merge u code state).afterPath := by
  refine clean_append (fun c hc => (h.isFront c hc).1.1) ?_
    (lt_toNat_afterPath_merge hplain code state) (afterPath_merge_ne_nil u code state)
  obtain ⟨segment, segments, hpath, -⟩ := h.exists_cons
  intro c hc
  rw [hpath] at hc
  rw [← Option.some.inj hc]
  decide

/-- A path without two slashes in front is read at the endpoint as it is. -/
theorem resolve_here (hslashes : ¬ ['/', '/'] <+: u.path) :
    o.endpoint.resolve (String.ofList (u.path ++ (merge u code state).afterPath)) =
      .ok (withTail .special { o.endpoint with path := u.path }
        (merge u code state).afterPath) := by
  have htail := isTail_afterPath (merge u code state)
  obtain ⟨segment, segments, hpath, hsegments⟩ := h.exists_cons
  have htext : u.path ++ (merge u code state).afterPath =
      '/' :: (segment ++ pathOf segments ++ (merge u code state).afterPath) := by
    rw [hpath]
    rfl
  have hclean := clean_here h hplain code state
  have hnone : splitScheme
      (clean (String.ofList (u.path ++ (merge u code state).afterPath))) = none := by
    rw [hclean, htext]
    rfl
  have hhead : ∀ d ∈ (segment ++ pathOf segments ++ (merge u code state).afterPath).head?,
      isSlash d = false := by
    intro d hd
    cases segment with
    | nil =>
      cases segments with
      | nil => rcases htail d hd with rfl | rfl <;> rfl
      | cons next segments => exact absurd ⟨next ++ pathOf segments, hpath.symm⟩ hslashes
    | cons c segment =>
      obtain rfl : c = d := Option.some.inj hd
      have hchar := (hsegments (c :: segment) List.mem_cons_self).chars c List.mem_cons_self
      obtain ⟨-, hslash, hbackslash⟩ := isSegmentChar_iff.1 hchar
      rw [Bool.eq_false_iff]
      intro hc
      rcases isSlash_iff.1 hc with heq | heq
      · exact hslash heq
      · exact absurd (hbackslash heq) (by decide)
  rw [resolve_relative _ hnone, hclean, htext, ownAuthority?_of_one (.inr hhead)]
  have hread := readPath_pathOf (by decide) hsegments htail
  show Except.ok (o.endpoint.withPath ['/'] _) = _
  unfold withPath
  rw [o.kind, hread, hpath]

/-- A path with two slashes in front is read at the endpoint as an authority and another path. -/
theorem resolve_here_slashes (hslashes : ['/', '/'] <+: u.path) {w : Url}
    (hw : o.endpoint.resolve (String.ofList (u.path ++ (merge u code state).afterPath)) = .ok w) :
    w.path ≠ u.path := by
  have htail := isTail_afterPath (merge u code state)
  obtain ⟨segment, segments, hpath, hsegments⟩ := h.exists_cons
  obtain ⟨rest, hrest⟩ := hslashes
  rw [hpath] at hrest
  -- The first segment is empty and another one follows, so that two slashes are in front.
  obtain ⟨next, segments, rfl, rfl⟩ : ∃ next others, segment = [] ∧ segments = next :: others := by
    have hfirst : '/' :: rest = segment ++ pathOf segments := (List.cons.inj hrest).2
    cases segment with
    | nil =>
      cases segments with
      | nil => cases hfirst
      | cons next segments => exact ⟨next, segments, rfl, rfl⟩
    | cons c segment =>
      obtain ⟨rfl, -⟩ := List.cons.inj hfirst
      exact absurd List.mem_cons_self (hsegments _ List.mem_cons_self).slash_not_mem
  have hnext : ∀ other ∈ next :: segments, NormalSegment .special other := fun other hother =>
    hsegments other (List.mem_cons_of_mem _ hother)
  have htext : u.path ++ (merge u code state).afterPath =
      '/' :: '/' :: (next ++ pathOf segments ++ (merge u code state).afterPath) := by
    rw [hpath]
    rfl
  have hclean := clean_here h hplain code state
  have hnone : splitScheme
      (clean (String.ofList (u.path ++ (merge u code state).afterPath))) = none := by
    rw [hclean, htext]
    rfl
  rw [resolve_relative _ hnone, hclean, htext] at hw
  have hread : afterSlashes .special o.endpoint.scheme
      (next ++ pathOf segments ++ (merge u code state).afterPath) = .ok w := by
    rw [← o.kind]
    exact hw
  intro heq
  have hlength := congrArg List.length heq
  rw [afterSlashes_segments hnext htail hread, hpath] at hlength
  split at hlength
  · simp [pathOf_cons] at hlength
  · simp [pathOf_cons] at hlength
    omega

end

/-- An authority and a path are read at the endpoint as they are, but for the host and the port. -/
theorem resolve_elsewhere (o : Origin) {u : Url} (h : ReadUrl u)
    (hpath : NormalPath .special u.path) {a : Authority} (hauthority : u.authority = some a)
    (ha : WrittenAuthority a) (code state : String) :
    o.endpoint.resolve
        (String.ofList (u.beforePath ++ u.path ++ (merge u code state).afterPath)) =
      (readHost .special a.hostText).map fun host =>
        withTail .special
          ⟨o.endpoint.scheme, some ({ a with host := host }.normalized o.endpoint.scheme), u.path,
            none, none⟩ (merge u code state).afterPath := by
  have hbefore : u.beforePath = '/' :: '/' :: a.text := by
    unfold beforePath
    rw [hauthority]
  have hhead : ∀ c ∈ (u.beforePath ++ u.path).head?, 0x20 < c.toNat := by
    intro c hc
    rw [hbefore] at hc
    rw [← Option.some.inj hc]
    decide
  have hclean := clean_append (fun c hc => (h.isFront c hc).1.1) hhead
    (lt_toNat_afterPath_merge h.fragment code state) (afterPath_merge_ne_nil u code state)
  have htext : u.beforePath ++ u.path ++ (merge u code state).afterPath =
      '/' :: '/' :: (a.text ++ (u.path ++ (merge u code state).afterPath)) := by
    rw [hbefore, List.append_assoc]
    rfl
  have hnone : splitScheme (clean (String.ofList
      (u.beforePath ++ u.path ++ (merge u code state).afterPath))) = none := by
    rw [hclean, htext]
    rfl
  rw [resolve_relative _ hnone, hclean, htext, o.kind]
  exact afterSlashes_text (by decide) ha (.inl hpath) (isTail_afterPath (merge u code state)) _

/-- A port that the scheme of the stand-in implies is lost on the way to another scheme. -/
theorem normalized_port_iff (o : Origin) (a : Authority) :
    ((a.normalized standIn.scheme).normalized o.endpoint.scheme).port =
        (a.normalized o.endpoint.scheme).port ↔
      (a.normalized o.endpoint.scheme).port ≠ some 80 := by
  have hstandIn : defaultPort? standIn.scheme = some 80 := rfl
  unfold Authority.normalized
  rw [hstandIn]
  cases hsecure : o.secure with
  | false =>
    have hdefault : defaultPort? o.endpoint.scheme = some 80 := by
      unfold Origin.endpoint Origin.scheme
      rw [hsecure]
      rfl
    rw [hdefault]
    by_cases hport : a.port = some 80
    · simp [hport]
    · simp [hport]
  | true =>
    have hdefault : defaultPort? o.endpoint.scheme = some 443 := by
      unfold Origin.endpoint Origin.scheme
      rw [hsecure]
      rfl
    rw [hdefault]
    by_cases hport : a.port = some 80
    · simp [hport]
    · by_cases hport' : a.port = some 443
      · simp [hport']
      · simp [hport, hport']

theorem keepsTarget_iff_of_resolved {o : Origin} {target location : String} {u v : Url}
    (h : Resolved o target u v) :
    KeepsTarget o target location ↔
      ∃ w, o.endpoint.resolve location = .ok w ∧ SameTarget v w := by
  constructor
  · rintro ⟨v', w, hv, hw, hsame⟩
    rw [h.resolve] at hv
    cases hv
    exact ⟨w, hw, hsame⟩
  · rintro ⟨w, hw, hsame⟩
    exact ⟨v, w, h.resolve, hw, hsame⟩

theorem keepsTarget_here {o : Origin} {target : String} {u v : Url} (h : Resolved o target u v)
    (code state : String) :
    KeepsTarget o target (String.ofList (u.path ++ (merge u code state).afterPath)) ↔
      v.authority = o.endpoint.authority ∧ ¬ ['/', '/'] <+: v.path := by
  have hplain := h.read.fragment
  have hnormal := h.parts.1
  rw [keepsTarget_iff_of_resolved h, h.path]
  constructor
  · rintro ⟨w, hw, hsame⟩
    have hslashes : ¬ ['/', '/'] <+: u.path := fun hslashes =>
      resolve_here_slashes o hnormal hplain code state hslashes hw (hsame.path.symm.trans h.path)
    rw [resolve_here o hnormal hplain code state hslashes] at hw
    cases hw
    exact ⟨hsame.authority, hslashes⟩
  · rintro ⟨hauthority, hslashes⟩
    refine ⟨_, resolve_here o hnormal hplain code state hslashes, h.scheme.2, hauthority, h.path,
      ?_⟩
    rw [withTail_merge hplain, h.fragment]

theorem readHost_special {cs : List Char} (h : cs ≠ []) :
    readHost .special cs = (domainHost cs).map some := by
  have hspecial : SchemeKind.special.isSpecial = true := rfl
  unfold readHost
  rw [if_pos hspecial, if_neg h]

theorem keepsTarget_elsewhere {o : Origin} {target : String} {u v : Url}
    (h : Resolved o target u v) (hhere : ¬ IsHere u) (code state : String) :
    KeepsTarget o target
        (String.ofList (u.beforePath ++ u.path ++ (merge u code state).afterPath)) ↔
      ∃ a host, v.authority = some a ∧ a.host = some host ∧ domainHost host.text = .ok host ∧
        a.port ≠ some 80 := by
  have hplain := h.read.fragment
  obtain ⟨hnormal, a, host, hauthority, hhost, hwritten⟩ := h.parts
  have htext : a.hostText = host.text := by
    unfold Authority.hostText
    rw [hhost]
    rfl
  obtain ⟨b, hb, hv⟩ : ∃ b : Authority, a = b.normalized standIn.scheme ∧
      v.authority = some (b.normalized o.endpoint.scheme) := by
    rcases h.authority with ⟨hstandIn, -⟩ | ⟨b, hb, hv⟩
    · refine absurd ?_ hhere
      unfold IsHere host?
      rw [hstandIn]
      rfl
    · rw [hauthority] at hb
      exact ⟨b, Option.some.inj hb, hv⟩
  have hbhost : (b.normalized o.endpoint.scheme).host = some host := by
    rw [hb] at hhost
    exact hhost
  have hport := normalized_port_iff o b
  rw [← hb] at hport
  rw [keepsTarget_iff_of_resolved h,
    resolve_elsewhere o h.read hnormal hauthority hwritten code state, htext,
    readHost_special (hwritten.host host hhost).ne_nil]
  constructor
  · rintro ⟨w, hw, hsame⟩
    rw [map_eq_ok] at hw
    obtain ⟨host', hdomain, rfl⟩ := hw
    rw [map_eq_ok] at hdomain
    obtain ⟨other, hdomain, rfl⟩ := hdomain
    have hboth := hsame.authority
    rw [hv] at hboth
    have hboth := Option.some.inj hboth
    have hother : some host = some other := hbhost.symm.trans (congrArg Authority.host hboth)
    refine ⟨_, host, hv, hbhost, ?_, hport.1 (congrArg Authority.port hboth).symm⟩
    rw [hdomain, Option.some.inj hother]
  · rintro ⟨a', host', ha', hhost', hdomain, hport'⟩
    rw [hv] at ha'
    obtain rfl := Option.some.inj ha'
    rw [hbhost] at hhost'
    obtain rfl := Option.some.inj hhost'
    refine ⟨_, map_eq_ok.2 ⟨some host, map_eq_ok.2 ⟨host, hdomain, rfl⟩, rfl⟩, h.scheme.2, ?_,
      h.path, ?_⟩
    · have hkeep : { a with host := some host } = a := by rw [← hhost]
      rw [hv, withTail_authority, hkeep]
      have hnormalized := hport.2 hport'
      subst hb
      exact congrArg (fun port => some (⟨b.username, b.password, b.host, port⟩ : Authority))
        hnormalized.symm
    · rw [withTail_merge hplain, h.fragment]

/-! ## Locations -/

theorem location_eq_ok {target code state l : String} (h : location target code state = .ok l) :
    (∃ u, parse target = .ok u ∧ l = String.ofList (merge u code state).text) ∨
      ∃ u, parse target = .error .relativeWithoutBase ∧ standIn.resolve target = .ok u ∧
        (IsHere u ∧ l = String.ofList (u.path ++ (merge u code state).afterPath) ∨
          ¬ IsHere u ∧
            l = String.ofList (u.beforePath ++ u.path ++ (merge u code state).afterPath)) := by
  unfold location at h
  split at h
  · rename_i u hparse
    exact .inl ⟨u, hparse, (Except.ok.inj h).symm⟩
  · rename_i hparse
    rw [map_eq_ok] at h
    obtain ⟨u, hu, rfl⟩ := h
    refine .inr ⟨u, hparse, hu, ?_⟩
    by_cases hhere : IsHere u
    · exact .inl ⟨hhere, congrArg String.ofList (if_pos hhere)⟩
    · exact .inr ⟨hhere, congrArg String.ofList (if_neg hhere)⟩
  · cases h

/-- A location leads where its target does exactly where `Kept` says so: seen from every origin of
the provider, both name one scheme, user information, host, port, path and fragment. -/
theorem keepsTarget_iff {target code state l : String} (h : location target code state = .ok l)
    (o : Origin) : KeepsTarget o target l ↔ Kept o target := by
  unfold Kept
  rcases location_eq_ok h with ⟨u, hparse, rfl⟩ | ⟨u, hparse, hu, hl⟩
  · rw [keepsTarget_absolute o hparse, hparse]
    cases hv : o.endpoint.resolve target with
    | error e =>
      constructor
      · rintro ⟨v, w, hv', -⟩
        cases hv'
      · intro hkept
        split at hkept
        · rename_i heq
          cases heq
        · rename_i heq _ _
          cases heq
        · cases hkept
    | ok v =>
      constructor
      · rintro ⟨v', w, hv', hw, hsame⟩
        cases hv'
        exact ⟨w, hw, hsame⟩
      · rintro ⟨w, hw, hsame⟩
        exact ⟨v, w, rfl, hw, hsame⟩
  · obtain ⟨v, hres⟩ := exists_resolved o (parse_eq_relative.1 hparse) hu
    simp only [hparse, hu, hres.resolve]
    rcases hl with ⟨hhere, rfl⟩ | ⟨hhere, rfl⟩
    · rw [keepsTarget_here hres]
      constructor
      · intro hkept
        exact .inl ⟨hhere, hkept⟩
      · rintro (⟨-, hkept⟩ | ⟨hnot, -⟩)
        · exact hkept
        · exact absurd hhere hnot
    · rw [keepsTarget_elsewhere hres hhere]
      constructor
      · intro hkept
        exact .inr ⟨hhere, hkept⟩
      · rintro (⟨hnot, -⟩ | ⟨-, hkept⟩)
        · exact absurd hnot hhere
        · exact hkept

/-- An origin of the provider. -/
def sampleOrigin : Origin := ⟨true, .name "op.test".toList, none⟩

theorem keepsTarget_path :
    location "/cb" "c" "s" = .ok "/cb?code=c&state=s" ∧
      KeepsTarget sampleOrigin "/cb" "/cb?code=c&state=s" := by
  have hlocation : location "/cb" "c" "s" = .ok "/cb?code=c&state=s" := rfl
  have hkept : Kept sampleOrigin "/cb" := .inl ⟨rfl, rfl, by decide⟩
  exact ⟨hlocation, (keepsTarget_iff hlocation sampleOrigin).2 hkept⟩

/-- The path `//evil.test/cb` of the provider is read as another host and its path. -/
theorem not_keepsTarget_of_slashes :
    location "/.//evil.test/cb" "c" "s" = .ok "//evil.test/cb?code=c&state=s" ∧
      ¬ KeepsTarget sampleOrigin "/.//evil.test/cb" "//evil.test/cb?code=c&state=s" := by
  refine ⟨rfl, ?_⟩
  rintro ⟨u, v, hu, hv, hsame⟩
  have hpath : u.path = "//evil.test/cb".toList := by
    have hread : (sampleOrigin.endpoint.resolve "/.//evil.test/cb").toOption.map Url.path =
        some "//evil.test/cb".toList := rfl
    rw [hu] at hread
    exact Option.some.inj hread
  have hclean : clean "//evil.test/cb?code=c&state=s" =
      '/' :: '/' :: ("evil.test".toList ++ pathOf ["cb".toList] ++ "?code=c&state=s".toList) := by
    decide +kernel
  have hsegments : ∀ other ∈ ["evil.test".toList, "cb".toList], NormalSegment .special other := by
    intro other hother
    rcases List.mem_cons.1 hother with rfl | hother
    · exact ⟨List.all_iff_forall_prop.1 (by decide), by decide, by decide⟩
    · rw [List.mem_singleton.1 hother]
      exact ⟨List.all_iff_forall_prop.1 (by decide), by decide, by decide⟩
  have htail : IsTail "?code=c&state=s".toList := by
    intro c hc
    exact .inl (Option.some.inj hc).symm
  have hnone : splitScheme (clean "//evil.test/cb?code=c&state=s") = none := by
    rw [hclean]
    rfl
  rw [resolve_relative _ hnone, hclean] at hv
  have hlength := afterSlashes_segments hsegments htail hv
  rw [← hsame.path, hpath] at hlength
  exact absurd hlength (by decide)

end OpenIdProvider.Redirect
