/-
  Blanks, which are spaces and control characters. At the end of a text they are dropped, but not
  before a path that follows it. There no authority can end in one, as no character of a domain and
  no digit of a port is one (`readAuthority_concat`), and in a path they are escaped. So with a
  blank in between no segments lead where they lead from the text without it
  (`Reached.marked_or_ne`).
-/
import OpenIdProvider.Proofs.Unicode.Composition
import OpenIdProvider.Proofs.Url.Extended

namespace OpenIdProvider

/-! ## Domains -/

namespace Percent

/-- A byte that is no digit belongs to no escape, and stays where it is. -/
theorem decode_concat {b : UInt8} (h : Ascii.hexByte? b = none) (bs : List UInt8) :
    decode (bs ++ [b]) = decode bs ++ [b] := by
  have hescaped (hi : UInt8) : escaped? hi b = none := by
    unfold escaped?
    rw [h]
    cases Ascii.hexByte? hi <;> rfl
  induction bs using decode.induct with
  | case1 =>
    rw [List.nil_append, decode, decode]
    · rfl
    · nofun
  | case2 hi lo rest byte hbyte ih => simp only [List.cons_append, decode, hbyte, ih]
  | case3 hi lo rest hnone ih =>
    rw [List.cons_append, List.cons_append] at ih
    simp only [List.cons_append, decode, hnone, ih]
  | case4 c rest hrest ih =>
    have hcut : decode (c :: (rest ++ [b])) = c :: decode (rest ++ [b]) := by
      match rest with
      | [] =>
        rw [List.nil_append, decode]
        nofun
      | [hi] =>
        by_cases hc : c = 0x25
        · subst hc
          show decode (0x25 :: hi :: b :: []) = 0x25 :: decode [hi, b]
          rw [decode, hescaped]
        · rw [decode]
          rintro _ _ _ rfl
          exact absurd rfl hc
      | hi :: lo :: rest =>
        rw [decode]
        rintro _ _ _ rfl _
        exact hrest hi lo rest rfl rfl
    rw [List.cons_append, hcut, ih, decode]
    · rfl
    · exact hrest

end Percent

namespace Idna

variable {c : Char}

theorem toLower_of_blank (h : c.toNat ≤ 0x20) : Ascii.toLower c = c := by
  refine Ascii.toLower_of_not_upper ?_
  rw [Bool.eq_false_iff]
  intro hupper
  have hrange := Ascii.isUpper_iff.1 hupper
  omega

theorem mapChar?_of_blank (h : c.toNat ≤ 0x20) : mapChar? c = some [c] := by
  have hascii : c.toNat < 0x80 := by omega
  unfold mapChar?
  rw [if_pos hascii, toLower_of_blank h]

theorem isDenied_of_blank (h : c.toNat ≤ 0x20) : isDenied c = true := by
  unfold isDenied
  rw [decide_eq_true h]
  rfl

/-- A blank in a label stays there: no name is decoded to a text without it. -/
theorem Label.mem_text {text : List Char} {l : Label} (h : Label.ofMapped? text = some l)
    (hblank : c.toNat ≤ 0x20) (hc : c ∈ text) : c ∈ l.text := by
  unfold Label.ofMapped? at h
  split at h
  · rename_i name hname
    have hmem : c ∈ name := by
      rw [Split.eq_append_of_dropPrefix? hname] at hc
      refine (List.mem_append.1 hc).resolve_left fun hmark => ?_
      have hvisible : ∀ d ∈ mark, 0x20 < d.toNat := List.all_iff_forall_prop.1 (by decide)
      exact absurd (hvisible c hmark) (by omega)
    unfold Label.ofName? at h
    rw [Option.bind_eq_bind, Option.bind_eq_some_iff] at h
    obtain ⟨decoded, hdecode, hlabel⟩ := h
    split at hlabel
    · cases hlabel
      rcases Punycode.isNamed_of_decode? hdecode hmem with hlower | rfl | hnumeral
      · rwa [toLower_of_blank hblank] at hlower
      · exact absurd hblank (by decide)
      · have hallowed := not_isDenied_of_numeral hnumeral
        rw [isDenied_of_blank hblank] at hallowed
        cases hallowed
    · cases hlabel
  · split at h
    · cases h
      exact hc
    · split at h
      · cases h
        exact hc
      · cases h

/-- No domain ends in a blank. -/
theorem toAscii?_concat (h : c.toNat ≤ 0x20) (cs : List Char) : toAscii? (cs ++ [c]) = none := by
  rw [Option.eq_none_iff_forall_ne_some]
  intro domain hdomain
  unfold toAscii? at hdomain
  simp only [Option.bind_eq_bind, Option.bind_eq_some_iff] at hdomain
  obtain ⟨mapped, hmapped, labels, hlabels, hdomain⟩ := hdomain
  have hlast : [c].mapM mapChar? = some [[c]] := by
    rw [List.mapM_cons, mapChar?_of_blank h]
    rfl
  simp only [List.mapM_append, hlast, Option.bind_eq_bind, Option.bind_eq_some_iff] at hmapped
  obtain ⟨front, -, last, hlast', hmapped⟩ := hmapped
  cases hlast'
  cases hmapped
  rw [List.flatten_append, List.flatten_singleton] at hlabels
  -- The blank is still there after composing, so that one of the labels is not allowed.
  have hascii : c.toNat < 0x80 := by omega
  have hdot : c ≠ '.' := by
    rintro rfl
    exact absurd h (by decide)
  obtain ⟨text, htext, hc⟩ := Split.mem_splitOn hdot (Unicode.mem_compose_concat hascii _)
  obtain ⟨label, hlabel, hread⟩ := exists_mem_of_mapM hlabels htext
  have hdenied : (label.text.all fun d => !isDenied d) = false := by
    refine List.all_eq_false.2 ⟨c, Label.mem_text hread h hc, ?_⟩
    rw [isDenied_of_blank h]
    decide
  have hallowed : labels.all Label.isAllowed = false := by
    refine List.all_eq_false.2 ⟨label, hlabel, ?_⟩
    unfold Label.isAllowed
    rw [hdenied, Bool.false_and, Bool.false_and]
    decide
  rw [hallowed] at hdomain
  cases hdomain

end Idna

namespace Url

variable {c : Char} {cs : List Char}

theorem not_endsAuthority_of_blank (h : c.toNat ≤ 0x20) : endsAuthority .special c = false := by
  rw [Bool.eq_false_iff]
  intro hc
  rcases endsAuthority_iff.1 hc with rfl | rfl | rfl | ⟨rfl, -⟩ <;> exact absurd h (by decide)

/-! ## Authorities -/

theorem domainHost_concat (h : c.toNat ≤ 0x20) (cs : List Char) (host : Host) :
    domainHost (cs ++ [c]) ≠ .ok host := by
  have hascii : c.toNat ≤ 0x7F := by omega
  have hbyte : c.toNat.toUInt8 < 0x80 := by
    rw [UInt8.lt_iff_toNat_lt, Utf8.toNat_toUInt8 hascii]
    show c.toNat < 128
    omega
  have hdigit : Ascii.hexByte? c.toNat.toUInt8 = none := by
    have hall : ∀ n ≤ 0x20, Ascii.hexByte? n.toUInt8 = none := by decide
    exact hall _ h
  have hencode : Utf8.encodeChars (cs ++ [c]) = Utf8.encodeChars cs ++ [c.toNat.toUInt8] := by
    rw [Utf8.encodeChars_append, Utf8.encodeChars_cons_of_ascii hascii]
    rfl
  obtain ⟨decoded, hdecoded⟩ :=
    Utf8.decodeCharsLossy_concat hbyte (Percent.decode (Utf8.encodeChars cs))
  unfold domainHost
  split
  · rename_i rest hbracket
    cases cs with
    | nil =>
      rw [(List.cons.inj hbracket).1] at h
      exact absurd h (by decide)
    | cons d cs =>
      have hclose : ']' ≠ c := by
        rintro rfl
        exact absurd h (by decide)
      have hrest : cs ++ [c] = rest := (List.cons.inj hbracket).2
      unfold bracketed
      rw [← hrest, Split.dropSuffix?_concat hclose]
      nofun
  · rw [hencode, Percent.decode_concat hdigit, hdecoded, Utf8.ofNat_toUInt8 hascii,
      Idna.toAscii?_concat h]
    nofun

theorem readPort_concat (h : c.toNat ≤ 0x20) (hcs : ∀ d ∈ cs, endsAuthority .special d = false)
    (port : Option Nat) (read : Option Nat × List Char) : readPort port (cs ++ [c]) ≠ .ok read := by
  have hstop {d : Char} (hd : endsAuthority .special d = false) :
      ¬ (d = '/' ∨ d = '\\' ∨ d = '?' ∨ d = '#') := by
    rintro (rfl | rfl | rfl | rfl) <;> cases hd
  induction cs generalizing port with
  | nil =>
    have hdigit : Ascii.digit? c = none := by
      rw [← Option.not_isSome_iff_eq_none]
      intro hsome
      have hrange := Ascii.isDigit_iff.1 hsome
      omega
    rw [List.nil_append, readPort, hdigit]
    simp only [if_neg (hstop (not_endsAuthority_of_blank h))]
    rintro ⟨⟩
  | cons d cs ih =>
    rw [List.cons_append, readPort]
    split
    · simp only
      split
      · rintro ⟨⟩
      · exact ih (fun e he => hcs e (List.mem_cons_of_mem d he)) _
    · rw [if_neg (hstop (hcs d List.mem_cons_self))]
      rintro ⟨⟩

theorem takeHost_eq (kind : SchemeKind) (inside : Bool) (input : List Char) :
    (takeHost kind inside input).1 ++ (takeHost kind inside input).2 = input := by
  induction input generalizing inside with
  | nil => cases inside <;> rfl
  | cons c rest ih =>
    rw [takeHost]
    split
    · rfl
    · exact congrArg (List.cons c) (ih _)

/-- The last character of a text is the last of what follows its front. -/
theorem exists_concat {front back : List Char} (hne : back ≠ []) (h : front ++ back = cs ++ [c]) :
    ∃ rest, back = rest ++ [c] ∧ cs = front ++ rest := by
  rcases List.eq_nil_or_concat back with rfl | ⟨rest, last, hback⟩
  · exact absurd rfl hne
  · rw [List.concat_eq_append] at hback
    rw [hback, ← List.append_assoc] at h
    obtain ⟨hfront, hlast⟩ := List.append_inj' h rfl
    exact ⟨rest, by rw [hback, hlast], hfront.symm⟩

/-- No authority of a special scheme ends in a blank. -/
theorem readAuthority_concat (h : c.toNat ≤ 0x20)
    (hcs : ∀ d ∈ cs ++ [c], endsAuthority .special d = false) (scheme : List Char)
    (read : Authority × List Char) : readAuthority .special scheme (cs ++ [c]) ≠ .ok read := by
  have hnil : EndsAuthority .special [] := nofun
  intro hread
  rw [← List.append_nil (cs ++ [c])] at hread
  simp only [readAuthority_eq, bind_eq_ok] at hread
  obtain ⟨⟨names, after⟩, hnames, host, hhost, ⟨port, rest⟩, hport, -⟩ := hread
  obtain ⟨front, back, heq, rfl, -⟩ := takeUserinfo_extended hcs hnil hnames
  rw [List.append_nil] at hhost hport
  have hne : back ≠ [] := by
    rintro rfl
    cases hhost
  have hback : ∀ d ∈ back, endsAuthority .special d = false := by
    intro d hd
    refine hcs d ?_
    rw [heq]
    exact List.mem_append_right _ hd
  obtain ⟨hnext, hdigits⟩ := takeHost_after hback
  obtain ⟨inner, rfl, -⟩ := exists_concat hne heq.symm
  have hwhole := takeHost_eq .special false (inner ++ [c])
  cases hafter : (takeHost .special false (inner ++ [c])).2 with
  | nil =>
    have hspecial : SchemeKind.special.isSpecial = true := rfl
    rw [hafter, List.append_nil] at hwhole
    rw [hwhole, readHost, if_pos hspecial, if_neg (by simp)] at hhost
    obtain ⟨name, hname, -⟩ := map_eq_ok.1 hhost
    exact domainHost_concat h inner name hname
  | cons d digits =>
    rw [hafter] at hwhole hnext hdigits hport
    obtain rfl : d = ':' :=
      (hnext d rfl).resolve_right (by rw [hdigits d List.mem_cons_self]; decide)
    obtain ⟨number, hnumber, -⟩ := exists_concat (List.cons_ne_nil _ _) hwhole
    cases number with
    | nil =>
      rw [← (List.cons.inj hnumber).1] at h
      exact absurd h (by decide)
    | cons e number =>
      rw [List.cons_append] at hnumber
      obtain ⟨-, rfl⟩ := List.cons.inj hnumber
      have hnumber' : ∀ d ∈ number, endsAuthority .special d = false := fun d hd =>
        hdigits d (List.mem_cons_of_mem _ (List.mem_append_left _ hd))
      rw [takePort] at hport
      split at hport
      · cases hport
      · exact readPort_concat h hnumber' none _ hport

/-! ## Paths -/

/-- The segments that add nothing or take the last one away, in lower case. -/
def dots : List (List Char) := [".", "%2e", "..", "%2e%2e", ".%2e", "%2e."].map String.toList

theorem mem_dots {segment : List Char}
    (h : isSingleDot segment = true ∨ isDoubleDot segment = true) :
    segment.map Ascii.toLower ∈ dots := by
  simp only [isSingleDot, isDoubleDot, Bool.or_eq_true, beq_iff_eq, ← String.toList_inj,
    String.toList_ofList] at h
  simp only [dots, List.map_cons, List.map_nil, List.mem_cons, List.not_mem_nil, or_false]
  tauto

theorem escape_of_blank (h : c.toNat ≤ 0x20) :
    (escape pathSet c).length = 3 ∧
      ∀ other ∈ dots, ¬ (escape pathSet c).map Ascii.toLower <:+ other := by
  have hall : ∀ n ≤ 0x20, (escape pathSet (Char.ofNat n)).length = 3 ∧
      ∀ other ∈ dots, ¬ (escape pathSet (Char.ofNat n)).map Ascii.toLower <:+ other := by
    decide
  have hc := hall c.toNat h
  rwa [Char.ofNat_toNat] at hc

theorem not_isDot_of_blank (h : c.toNat ≤ 0x20) (segment : List Char) :
    isSingleDot (segment ++ escape pathSet c) = false ∧
      isDoubleDot (segment ++ escape pathSet c) = false := by
  have hnot : ¬ (isSingleDot (segment ++ escape pathSet c) = true ∨
      isDoubleDot (segment ++ escape pathSet c) = true) := by
    intro hdot
    refine (escape_of_blank h).2 _ (mem_dots hdot) ?_
    rw [List.map_append]
    exact List.suffix_append _ _
  simpa using hnot

theorem length_goUp_le (kind : SchemeKind) (path : List Char) (slash : Bool) :
    (goUp kind path slash).length ≤ path.length + 1 := by
  have hpop (path : List Char) : (popSegment kind path).length ≤ path.length := by
    unfold popSegment
    split
    · rename_i front last hsplit
      split
      · exact Nat.le_refl _
      · rw [Split.eq_of_splitLast hsplit, List.length_append, List.length_append, List.length_cons]
        simp
    · exact Nat.le_refl _
  have hshorten (path : List Char) : (shorten kind path).length ≤ path.length := by
    unfold shorten
    split
    · exact Nat.le_refl _
    · exact hpop path
  have hslashed (path : List Char) :
      (if slash && !endsWithSlash path then path ++ ['/'] else path).length ≤ path.length + 1 := by
    split
    · rw [List.length_append, List.length_singleton]
    · exact Nat.le_succ _
  unfold goUp
  refine (hslashed _).trans (Nat.succ_le_succ ((hshorten _).trans ?_))
  split
  · rw [List.length_dropLast]
    exact Nat.sub_le _ _
  · exact Nat.le_refl _

section

variable {st : PathState}

theorem length_addSegment_le (h : OpenPath .special st.path) (segment : List Char) :
    (addSegment .special false st segment false).path.length ≤
      st.path.length + segment.length + 1 := by
  cases hdouble : isDoubleDot segment with
  | true =>
    have hle := length_goUp_le .special st.path false
    rw [addSegment_of_doubleDot hdouble]
    show (goUp .special st.path false).length ≤ _
    omega
  | false =>
    cases hsingle : isSingleDot segment with
    | true =>
      obtain ⟨segments, hpath, -⟩ := h
      rw [addSegment_of_singleDot hdouble hsingle, hpath, if_pos (endsWithSlash_append _)]
      show (pathOf segments ++ ['/']).length ≤ _
      omega
    | false =>
      rw [addSegment_of_plain hdouble hsingle (not_takesDrive_of_later _ _ _)]
      simp

/-- A segment with a blank at its end is no dot segment. -/
theorem addSegment_blank (h : c.toNat ≤ 0x20) (front : List Char) :
    (addSegment .special false st (front ++ escape pathSet c) true).path =
      st.path ++ (front ++ escape pathSet c) ++ ['/'] := by
  obtain ⟨hsingle, hdouble⟩ := not_isDot_of_blank h front
  rw [addSegment_of_plain hdouble hsingle (not_takesDrive_of_later _ _ _)]
  rfl

/-- Characters that end no authority are escaped and added to the segment. -/
theorem readSegments_escaped (h : ∀ d ∈ cs, endsAuthority .special d = false)
    (segment rest : List Char) :
    readSegments .special false st segment (cs ++ rest) =
      readSegments .special false st ((escapeAll pathSet cs).reverse ++ segment) rest := by
  induction cs generalizing segment with
  | nil => rfl
  | cons d cs ih =>
    have hd := h d List.mem_cons_self
    have hslash : ¬ (d = '/' ∨ (d = '\\' ∧ SchemeKind.special.isSpecial)) := by
      rintro (rfl | ⟨rfl, -⟩) <;> cases hd
    have hmark : ¬ (d = '?' ∨ d = '#') := by
      rintro (rfl | rfl) <;> cases hd
    rw [List.cons_append, readSegments, if_neg hslash, if_neg hmark,
      ih fun e he => h e (List.mem_cons_of_mem d he)]
    simp [escapeAll]

end

/-- What segments lead to behind a blank is not what they lead to without it. -/
theorem Reached.marked_or_ne {scheme blanks : List Char} {u v : Url} (h : Reached scheme cs)
    (hu : afterSlashes .special scheme cs = .ok u)
    (hblanks : ∀ d ∈ blanks ++ [c], d.toNat ≤ 0x20) {segment : List Char}
    {segments : List (List Char)}
    (hsegments : ∀ other ∈ segment :: segments, NormalSegment .special other)
    (hv : afterSlashes .special scheme (cs ++ (blanks ++ [c] ++ pathOf (segment :: segments))) =
      .ok v) :
    v.Marked ∨ v.path ≠ trimmed u.path ++ pathOf (segment :: segments) := by
  have hc : c.toNat ≤ 0x20 := hblanks c (by simp)
  have hends : ∀ d ∈ blanks ++ [c], endsAuthority .special d = false :=
    fun d hd => not_endsAuthority_of_blank (hblanks d hd)
  cases h with
  | mark marked => exact .inl (marked _ v hv)
  | authority a inside reads =>
    have hinside : ∀ d ∈ cs ++ blanks ++ [c], endsAuthority .special d = false := by
      intro d hd
      rw [List.append_assoc] at hd
      exact (List.mem_append.1 hd).elim (inside d) (hends d)
    have hnil : EndsAuthority .special [] := nofun
    obtain ⟨a', rest, hauthority, -⟩ := afterSlashes_eq_ok hv
    rw [← List.append_assoc, ← List.append_assoc] at hauthority
    have hread := readAuthority_extended hinside (endsAuthority_pathOf segment segments) hauthority
      [] hnil
    rw [List.append_nil] at hread
    exact absurd hread (readAuthority_concat hc hinside scheme _)
  | path a st front opened chars reads =>
    refine .inr fun hpath => ?_
    have hescaped : escapeAll pathSet (blanks ++ [c]) =
        escapeAll pathSet blanks ++ escape pathSet c := by
      simp [escapeAll]
    have hread := reads []
    rw [List.append_nil, hu, readSegments] at hread
    rw [reads, readSegments_escaped hends, pathOf_cons, List.cons_append, readSegments,
      if_pos (.inl rfl), ofRead_segments hsegments, hescaped] at hv
    cases hv
    cases hread
    -- With the escape of the blank the path is longer than that of the text.
    have hshort : (trimmed (addSegment .special false st front.reverse false).path).length ≤
        st.path.length + front.length + 1 := by
      have hle := length_addSegment_le opened front.reverse
      rw [List.length_reverse] at hle
      exact (List.rdropWhile_prefix _ _).length_le.trans hle
    have hescape := (escape_of_blank hc).1
    have hlength := congrArg List.length hpath
    simp only [List.reverse_append, List.reverse_reverse, ← List.append_assoc] at hlength
    rw [addSegment_blank hc] at hlength
    simp only [ofRead, withTail_path, pathOf_cons, List.length_append, List.length_cons,
      List.length_reverse, List.length_nil, hescape] at hlength
    omega

end Url

end OpenIdProvider
