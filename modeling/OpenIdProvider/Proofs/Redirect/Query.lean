/-
  What a redirect is made of, and what a client finds in its query. In front of the query stands a
  part of the text of the target, which holds neither the mark of a query nor that of a fragment
  (`Sent.isFront`), so a client that cuts the location there reads the merged pairs. Sorting keeps
  the order of the values of a name (`sortPairs_spec`), and the pairs of the target that are called
  code or state have been left out: there is one code and one state, and all else is as it was.
-/
import OpenIdProvider.Proofs.Chain
import OpenIdProvider.Proofs.Redirect.Target

namespace OpenIdProvider.Redirect

open Url

/-! ## Reading a location -/

/-- The values of a name, in order. -/
def valuesOf (name : String) (ps : List (String × String)) : List String :=
  (ps.filter fun p => p.1 == name).map Prod.snd

/-- The query of a text: what stands between its first `?` and the `#`, if there is one. -/
def queryOf (text : List Char) : List Char :=
  match Split.splitOnce '?' text with
  | some (_, rest) => rest.takeWhile (· != '#')
  | none => []

/-- The pairs that a client finds in the query of a location. -/
def clientPairs (location : String) : List (String × String) :=
  Form.decode (Utf8.encodeChars (queryOf location.toList))

/-! ## Sorting -/

theorem valuesOf_cons (name : String) (p : String × String) (ps : List (String × String)) :
    valuesOf name (p :: ps) = if p.1 = name then p.2 :: valuesOf name ps else valuesOf name ps := by
  unfold valuesOf
  rw [List.filter_cons]
  by_cases h : p.1 = name <;> simp [h]

theorem valuesOf_append (name : String) (ps qs : List (String × String)) :
    valuesOf name (ps ++ qs) = valuesOf name ps ++ valuesOf name qs := by
  unfold valuesOf
  rw [List.filter_append, List.map_append]

theorem insertPair_mem {p q : String × String} {ps : List (String × String)}
    (h : q ∈ insertPair p ps) : q = p ∨ q ∈ ps := by
  induction ps with
  | nil => exact .inl (List.mem_singleton.1 h)
  | cons first ps ih =>
    unfold insertPair at h
    split at h
    · exact List.mem_cons.1 h
    · rcases List.mem_cons.1 h with rfl | h
      · exact .inr List.mem_cons_self
      · exact (ih h).imp_right (List.mem_cons_of_mem _)

/-- The names of pairs do not decrease. -/
def Ordered (ps : List (String × String)) : Prop := ps.Pairwise fun p q => p.1 ≤ q.1

theorem ordered_insertPair (p : String × String) {ps : List (String × String)} (h : Ordered ps) :
    Ordered (insertPair p ps) := by
  induction ps with
  | nil => exact List.pairwise_singleton _ _
  | cons q ps ih =>
    obtain ⟨hfirst, hrest⟩ := List.pairwise_cons.1 h
    unfold insertPair
    split
    · rename_i hlt
      have hle : p.1 ≤ q.1 := String.not_lt.1 (String.lt_asymm hlt)
      refine List.pairwise_cons.2 ⟨fun other hother => ?_, h⟩
      rcases List.mem_cons.1 hother with rfl | hother
      · exact hle
      · exact String.le_trans hle (hfirst other hother)
    · rename_i hnot
      refine List.pairwise_cons.2 ⟨fun other hother => ?_, ih hrest⟩
      rcases insertPair_mem hother with rfl | hother
      · exact String.not_lt.1 hnot
      · exact hfirst other hother

/-- Among pairs in order a pair is put behind the others of its name. -/
theorem valuesOf_insertPair (name : String) (p : String × String) {ps : List (String × String)}
    (h : Ordered ps) : valuesOf name (insertPair p ps) = valuesOf name (ps ++ [p]) := by
  induction ps with
  | nil => rfl
  | cons q ps ih =>
    obtain ⟨hfirst, hrest⟩ := List.pairwise_cons.1 h
    unfold insertPair
    split
    · rename_i hlt
      -- All the others have greater names, so none of them is passed.
      have hnone (hname : p.1 = name) : valuesOf name (q :: ps) = [] := by
        unfold valuesOf
        rw [List.map_eq_nil_iff, List.filter_eq_nil_iff]
        intro other hother
        have hle : q.1 ≤ other.1 := by
          rcases List.mem_cons.1 hother with rfl | hother
          · exact String.le_refl _
          · exact hfirst other hother
        have hne : other.1 ≠ name := by
          rintro rfl
          exact absurd (hname ▸ hle) (String.not_le.2 hlt)
        simpa using hne
      rw [valuesOf_append, valuesOf_cons name p (q :: ps), valuesOf_cons name p []]
      by_cases hname : p.1 = name
      · rw [if_pos hname, if_pos hname, hnone hname]
        rfl
      · rw [if_neg hname, if_neg hname]
        exact (List.append_nil _).symm
    · rw [List.cons_append, valuesOf_cons, valuesOf_cons, ih hrest]

/-- Pairs put in one after the other leave the names in order, and the values of each name as if
they had been put behind. -/
theorem foldl_insertPair_spec (ps : List (String × String)) {sorted : List (String × String)}
    (h : Ordered sorted) :
    Ordered (ps.foldl (fun sorted p => insertPair p sorted) sorted) ∧
      ∀ name, valuesOf name (ps.foldl (fun sorted p => insertPair p sorted) sorted) =
        valuesOf name (sorted ++ ps) := by
  induction ps generalizing sorted with
  | nil => exact ⟨h, fun name => by rw [List.append_nil]; rfl⟩
  | cons p ps ih =>
    obtain ⟨hordered, hvalues⟩ := ih (ordered_insertPair p h)
    refine ⟨hordered, fun name => ?_⟩
    rw [List.foldl_cons, hvalues, valuesOf_append, valuesOf_insertPair name p h,
      ← valuesOf_append, List.append_assoc, List.singleton_append]

/-- Sorting orders the names, and the values of each name keep their order. -/
theorem sortPairs_spec (ps : List (String × String)) :
    Ordered (sortPairs ps) ∧ ∀ name, valuesOf name (sortPairs ps) = valuesOf name ps :=
  foldl_insertPair_spec ps List.Pairwise.nil

/-! ## Merging -/

/-- The pairs of the target that stand for neither the code nor the state. -/
theorem valuesOf_others (name : String) (ps : List (String × String)) :
    valuesOf name (ps.filter fun p => !(p.1 == "code" || p.1 == "state")) =
      if name = "code" ∨ name = "state" then [] else valuesOf name ps := by
  unfold valuesOf
  rw [List.filter_filter]
  by_cases h : name = "code" ∨ name = "state"
  · rw [if_pos h, List.map_eq_nil_iff, List.filter_eq_nil_iff]
    intro p _
    rcases h with rfl | rfl <;> simp +contextual
  · rw [if_neg h]
    congr 1
    refine List.filter_congr fun p _ => ?_
    by_cases hname : p.1 = name
    · subst hname
      simpa [not_or] using h
    · simp [hname]

/-- How pairs come of older ones: the code and the state have taken the places of those of their
names, and the others are there as they were, in the order of the bytes of their names. -/
structure Merged (old : List (String × String)) (code state : String)
    (ps : List (String × String)) : Prop where
  code : valuesOf "code" ps = [code]
  state : valuesOf "state" ps = [state]
  others : ∀ name, name ≠ "code" → name ≠ "state" → valuesOf name ps = valuesOf name old
  ordered : ps.Pairwise fun p q => Utf8.encode p.1 ≤ Utf8.encode q.1

theorem merged_mergePairs (ps : List (String × String)) (code state : String) :
    Merged ps code state (mergePairs ps code state) := by
  obtain ⟨hordered, hsorted⟩ := sortPairs_spec
    (ps.filter (fun p => !(p.1 == "code" || p.1 == "state")) ++ [("code", code), ("state", state)])
  have hvalues (name : String) : valuesOf name (mergePairs ps code state) =
      (if name = "code" ∨ name = "state" then [] else valuesOf name ps) ++
        valuesOf name [("code", code), ("state", state)] := by
    rw [← valuesOf_others, ← valuesOf_append]
    exact hsorted name
  refine ⟨hvalues "code", hvalues "state", fun name hcode hstate => ?_,
    hordered.imp Utf8.encode_le_encode⟩
  rw [hvalues, if_neg (not_or.2 ⟨hcode, hstate⟩), valuesOf_cons, valuesOf_cons,
    if_neg hcode.symm, if_neg hstate.symm]
  exact List.append_nil _

/-! ## Cutting a location -/

theorem queryOf_append {front query tail : List Char} (hfront : ∀ c ∈ front, IsFront c)
    (hquery : '#' ∉ query) (htail : ∀ c ∈ tail.head?, c = '#') :
    queryOf (front ++ '?' :: (query ++ tail)) = query := by
  have hmark : '?' ∉ front := fun h => (hfront '?' h).2.1 rfl
  have hkept : ∀ c ∈ query, (c != '#') = true := by
    intro c hc
    rw [bne_iff_ne]
    rintro rfl
    exact hquery hc
  have hcut : ∀ c ∈ tail.head?, (c != '#') = false := by
    intro c hc
    rw [htail c hc]
    rfl
  unfold queryOf
  rw [Split.splitOnce_append hmark]
  exact (Split.takeWhile_append hkept hcut).1

/-! ## The parts of a location -/

/-- What a location has in front of its query: all that the text of the target has there, or of a
target that was resolved only the part from the path or from the authority on. -/
inductive Sent (target : String) (u : Url) : List Char → Prop
  | absolute (parsed : Url.parse target = .ok u) :
      Sent target u (u.scheme ++ ':' :: u.beforePath ++ u.path)
  | here (relative : Url.parse target = .error .relativeWithoutBase)
      (resolved : standIn.resolve target = .ok u) (isHere : IsHere u) : Sent target u u.path
  | elsewhere (relative : Url.parse target = .error .relativeWithoutBase)
      (resolved : standIn.resolve target = .ok u) (notHere : ¬ IsHere u) :
      Sent target u (u.beforePath ++ u.path)

theorem exists_sent {target code state l : String} (h : location target code state = .ok l) :
    ∃ u front, Sent target u front ∧ l.toList = front ++ (merge u code state).afterPath := by
  rcases location_eq_ok h with ⟨u, hparse, rfl⟩ | ⟨u, hparse, hu, ⟨hhere, rfl⟩ | ⟨hnot, rfl⟩⟩
  · exact ⟨u, _, .absolute hparse, String.toList_ofList⟩
  · exact ⟨u, _, .here hparse hu hhere, String.toList_ofList⟩
  · exact ⟨u, _, .elsewhere hparse hu hnot, String.toList_ofList⟩

/-- It is a part of the text of the target, which goes on with the query and the fragment. -/
theorem Sent.exists_text {target : String} {u : Url} {front : List Char} (h : Sent target u front) :
    ∃ before, u.text = before ++ front ++ u.afterPath := by
  unfold Url.text
  cases h with
  | absolute parsed => exact ⟨[], rfl⟩
  | here relative resolved isHere => exact ⟨u.scheme ++ ':' :: u.beforePath, rfl⟩
  | elsewhere relative resolved notHere =>
    refine ⟨u.scheme ++ [':'], ?_⟩
    simp only [List.append_assoc, List.cons_append, List.nil_append]

/-- The target was read, without a base or against the stand-in. -/
theorem Sent.read {target : String} {u : Url} {front : List Char} (h : Sent target u front) :
    ReadUrl u := by
  -- The origin does not matter: any shows that a target was resolved to a URL that was read.
  have hresolved (hrelative : Url.parse target = .error .relativeWithoutBase)
      (hu : standIn.resolve target = .ok u) : ReadUrl u := by
    obtain ⟨v, hv⟩ := exists_resolved ⟨false, standInHost, none⟩ (parse_eq_relative.1 hrelative) hu
    exact hv.read
  cases h with
  | absolute parsed =>
    obtain ⟨-, -, hread, -⟩ := parse_eq_ok parsed
    exact hread
  | here relative resolved isHere => exact hresolved relative resolved
  | elsewhere relative resolved notHere => exact hresolved relative resolved

theorem Sent.isFront {target : String} {u : Url} {front : List Char} (h : Sent target u front) :
    ∀ c ∈ front, IsFront c := by
  have hread := h.read.isFront
  cases h with
  | absolute parsed =>
    obtain ⟨-, -, -, hscheme⟩ := parse_eq_ok parsed
    intro c hc
    rw [List.append_assoc, List.mem_append, List.cons_append, List.mem_cons] at hc
    rcases hc with hc | rfl | hc
    · exact hscheme.isFront c hc
    · decide
    · exact hread c hc
  | here relative resolved isHere => exact fun c hc => hread c (List.mem_append_right _ hc)
  | elsewhere relative resolved notHere => exact hread

/-- The pairs of the query of a URL. -/
def pairsOf (u : Url) : List (String × String) :=
  Form.decode (Utf8.encodeChars (u.query.getD []))

/-- The fragment of a URL with its mark. -/
def fragmentText (u : Url) : List Char :=
  match u.fragment with
  | some f => '#' :: f
  | none => []

theorem afterPath_merge (u : Url) (code state : String) :
    (merge u code state).afterPath =
      '?' :: (Form.encode (mergePairs (pairsOf u) code state) ++ fragmentText u) := rfl

/-- A client finds the merged pairs of the target in a location. -/
theorem exists_clientPairs {target code state l : String}
    (h : location target code state = .ok l) :
    ∃ u front, Sent target u front ∧ clientPairs l = mergePairs (pairsOf u) code state := by
  obtain ⟨u, front, hsent, hl⟩ := exists_sent h
  have htail : ∀ c ∈ (fragmentText u).head?, c = '#' := by
    unfold fragmentText
    cases u.fragment with
    | none => nofun
    | some f => exact fun c hc => (Option.some.inj hc).symm
  refine ⟨u, front, hsent, ?_⟩
  unfold clientPairs
  rw [hl, afterPath_merge, queryOf_append hsent.isFront (Form.hash_not_mem_encode _) htail,
    Form.decode_encode]

/-- A client finds one code and one state in a location: those that it was made for. -/
theorem valuesOf_clientPairs {target code state l : String}
    (h : location target code state = .ok l) :
    valuesOf "code" (clientPairs l) = [code] ∧ valuesOf "state" (clientPairs l) = [state] := by
  obtain ⟨u, front, -, hpairs⟩ := exists_clientPairs h
  have hmerged := merged_mergePairs (pairsOf u) code state
  rw [hpairs]
  exact ⟨hmerged.code, hmerged.state⟩

/-- How the location of a target is made of it: in front of the query it is a part of its text, the
pairs of the query are merged with the code and the state, and the fragment is kept. -/
structure MadeOf (l target code state : String) (u : Url) (front query : List Char) : Prop where
  sent : Sent target u front
  part : ∃ before, u.text = before ++ front ++ u.afterPath
  text : l.toList = front ++ '?' :: (query ++ fragmentText u)
  merged : Merged (pairsOf u) code state (Form.decode (Utf8.encodeChars query))

/-- Every location is made of its target, whatever the code and the state are. -/
theorem exists_madeOf {target code state l : String} (h : location target code state = .ok l) :
    ∃ u front query, MadeOf l target code state u front query := by
  obtain ⟨u, front, hsent, hl⟩ := exists_sent h
  refine ⟨u, front, Form.encode (mergePairs (pairsOf u) code state), hsent, hsent.exists_text,
    ?_, ?_⟩
  · rw [hl, afterPath_merge]
  · rw [Form.decode_encode]
    exact merged_mergePairs (pairsOf u) code state

/-- A target with a fragment and with pairs that the code takes the place of. -/
theorem exists_madeOf_marked :
    location "/cb?b=2&code=old&a=1&b=1#top" "c&d" "s" =
        .ok "/cb?a=1&b=2&b=1&code=c%26d&state=s#top" ∧
      ∃ u front query, MadeOf "/cb?a=1&b=2&b=1&code=c%26d&state=s#top"
        "/cb?b=2&code=old&a=1&b=1#top" "c&d" "s" u front query := by
  have hlocation : location "/cb?b=2&code=old&a=1&b=1#top" "c&d" "s" =
      .ok "/cb?a=1&b=2&b=1&code=c%26d&state=s#top" := eq_ok_of_toOption (by decide +kernel)
  exact ⟨hlocation, exists_madeOf hlocation⟩

end OpenIdProvider.Redirect
