/-
  Authorities read again. An authority that was read has a text from which its parts can be told:
  the user information is plain, the host holds no mark that would end it, and the port is a number
  of at most 65535. Reading the text again gives the same parts, and for the host whatever its text
  is read as (`readAuthority_text`).
-/
import Mathlib.Tactic.Tauto
import OpenIdProvider.Proofs.Chain
import OpenIdProvider.Proofs.Url.Host

namespace OpenIdProvider.Url

/-- What may follow an authority: nothing, or a mark that ends it. -/
def EndsAuthority (kind : SchemeKind) (rest : List Char) : Prop :=
  ∀ c ∈ rest.head?, endsAuthority kind c = true

/-- What may follow a host: a port or the end of the authority. -/
def EndsHost (kind : SchemeKind) (rest : List Char) : Prop :=
  ∀ c ∈ rest.head?, c = ':' ∨ endsAuthority kind c = true

theorem endsAuthority_iff {kind : SchemeKind} {c : Char} :
    endsAuthority kind c = true ↔
      c = '/' ∨ c = '?' ∨ c = '#' ∨ (c = '\\' ∧ kind.isSpecial = true) := by
  simp only [endsAuthority, Bool.or_eq_true, Bool.and_eq_true, decide_eq_true_eq, or_assoc]

/-! ## Hosts -/

theorem not_endsAuthority_of_hostText (kind : SchemeKind) {cs : List Char} (h : HostText cs) :
    ∀ c ∈ cs, endsAuthority kind c = false := by
  intro c hc
  have hset := (h.chars c hc).2
  rw [Bool.eq_false_iff]
  intro hends
  rcases endsAuthority_iff.1 hends with rfl | rfl | rfl | ⟨rfl, -⟩
  all_goals exact hset (by decide)

theorem takeHost_cons {kind : SchemeKind} {inside : Bool} {c : Char} {rest : List Char}
    (h : endsAuthority kind c = false) (hcolon : c = ':' → inside = true) :
    takeHost kind inside (c :: rest) =
      (c :: (takeHost kind (if c = '[' then true else if c = ']' then false else inside) rest).1,
        (takeHost kind (if c = '[' then true else if c = ']' then false else inside) rest).2) := by
  have hstop : ¬ ((c = ':' ∧ !inside) ∨ (c = '\\' ∧ kind.isSpecial) ∨ c = '/' ∨ c = '?' ∨
      c = '#') := by
    rw [Bool.eq_false_iff] at h
    rintro (⟨heq, hinside⟩ | hbackslash | hslash | hquestion | hhash)
    · rw [hcolon heq] at hinside
      cases hinside
    · exact h (endsAuthority_iff.2 (.inr (.inr (.inr hbackslash))))
    · exact h (endsAuthority_iff.2 (.inl hslash))
    · exact h (endsAuthority_iff.2 (.inr (.inl hquestion)))
    · exact h (endsAuthority_iff.2 (.inr (.inr (.inl hhash))))
  rw [takeHost, if_neg hstop]

theorem takeHost_end {kind : SchemeKind} {rest : List Char} (h : EndsHost kind rest) :
    takeHost kind false rest = ([], rest) := by
  cases rest with
  | nil => rfl
  | cons c rest =>
    have hstop : (c = ':' ∧ !false) ∨ (c = '\\' ∧ kind.isSpecial) ∨ c = '/' ∨ c = '?' ∨
        c = '#' := by
      rcases h c rfl with hcolon | hends
      · exact .inl ⟨hcolon, rfl⟩
      · rcases endsAuthority_iff.1 hends with hslash | hquestion | hhash | hbackslash
        · exact .inr (.inr (.inl hslash))
        · exact .inr (.inr (.inr (.inl hquestion)))
        · exact .inr (.inr (.inr (.inr hhash)))
        · exact .inr (.inl hbackslash)
    rw [takeHost, if_pos hstop]

/-- Where no colon stands outside brackets, the host goes on. -/
theorem takeHost_chars {kind : SchemeKind} {inside : Bool} {cs : List Char}
    (hends : ∀ c ∈ cs, endsAuthority kind c = false) (hbrackets : ∀ c ∈ cs, c ≠ '[' ∧ c ≠ ']')
    (hcolon : ∀ c ∈ cs, c = ':' → inside = true) (rest : List Char) :
    takeHost kind inside (cs ++ rest) =
      (cs ++ (takeHost kind inside rest).1, (takeHost kind inside rest).2) := by
  induction cs with
  | nil => rfl
  | cons c cs ih =>
    have ih' := ih (fun d hd => hends d (List.mem_cons_of_mem _ hd))
      (fun d hd => hbrackets d (List.mem_cons_of_mem _ hd))
      (fun d hd => hcolon d (List.mem_cons_of_mem _ hd))
    obtain ⟨hopen, hclose⟩ := hbrackets c List.mem_cons_self
    rw [List.cons_append,
      takeHost_cons (hends c List.mem_cons_self) (hcolon c List.mem_cons_self), if_neg hopen,
      if_neg hclose, ih']
    rfl

/-- A host is told from what follows it. -/
theorem takeHost_append {kind : SchemeKind} {cs rest : List Char} (h : HostText cs)
    (hrest : EndsHost kind rest) : takeHost kind false (cs ++ rest) = (cs, rest) := by
  have hends := not_endsAuthority_of_hostText kind h
  rcases h.colons with hplain | ⟨inner, rfl, hinner⟩
  · have hbrackets : ∀ c ∈ cs, c ≠ '[' ∧ c ≠ ']' := by
      intro c hc
      refine ⟨?_, ?_⟩
      · rintro rfl
        exact hplain _ hc (by decide)
      · rintro rfl
        exact hplain _ hc (by decide)
    have hcolon : ∀ c ∈ cs, c = ':' → false = true := by
      rintro c hc rfl
      exact absurd (by decide) (hplain _ hc)
    rw [takeHost_chars hends hbrackets hcolon, takeHost_end hrest, List.append_nil]
  · have hbrackets : ∀ c ∈ inner, c ≠ '[' ∧ c ≠ ']' := by
      intro c hc
      refine ⟨?_, ?_⟩
      · rintro rfl
        exact hinner _ hc (by decide)
      · rintro rfl
        exact hinner _ hc (by decide)
    have hends' : ∀ c ∈ inner, endsAuthority kind c = false := fun c hc =>
      hends c (List.mem_append_left _ (List.mem_cons_of_mem _ hc))
    have hopen : endsAuthority kind '[' = false := hends '[' (by simp)
    have hclose : endsAuthority kind ']' = false := hends ']' (by simp)
    rw [List.append_assoc, List.cons_append, takeHost_cons hopen (by decide), if_pos rfl,
      takeHost_chars hends' hbrackets (fun _ _ _ => rfl), List.singleton_append,
      takeHost_cons hclose (by decide), if_neg (by decide), if_pos rfl, takeHost_end hrest]
    rfl

/-! ## Ports -/

/-- The digits of a port are read as the port. -/
theorem readPort_digits {n : Nat} (h : n ≤ 65535) (rest : List Char) :
    readPort none (Ascii.digits 10 n ++ rest) = readPort (some n) rest := by
  induction n using Nat.strongRecOn generalizing rest with
  | ind n ih =>
    unfold Ascii.digits
    rw [Nat.toDigits_eq_if (by decide)]
    split
    · rename_i hn
      rw [List.singleton_append, readPort, Ascii.digit?_digitChar hn]
      have hle : ¬ 65535 < (none : Option Nat).getD 0 * 10 + n := by simp; omega
      simp only [if_neg hle]
      simp
    · rename_i hn
      have hmod : n % 10 < 10 := Nat.mod_lt _ (by decide)
      have hsum : n / 10 * 10 + n % 10 = n := by omega
      have hstep := ih (n / 10) (by omega) (by omega) ((n % 10).digitChar :: rest)
      unfold Ascii.digits at hstep
      rw [List.append_assoc, List.singleton_append, hstep, readPort, Ascii.digit?_digitChar hmod]
      simp only [Option.getD_some, hsum, if_neg (Nat.not_lt.2 h)]

theorem readPort_end {kind : SchemeKind} {rest : List Char} (h : EndsAuthority kind rest)
    (port : Option Nat) : readPort port rest = .ok (port, rest) := by
  cases rest with
  | nil => rfl
  | cons c rest =>
    have hmark : c = '/' ∨ c = '\\' ∨ c = '?' ∨ c = '#' := by
      rcases endsAuthority_iff.1 (h c rfl) with hslash | hquestion | hhash | hbackslash
      · exact .inl hslash
      · exact .inr (.inr (.inl hquestion))
      · exact .inr (.inr (.inr hhash))
      · exact .inr (.inl hbackslash.1)
    have hdigit : Ascii.digit? c = none := by
      rcases hmark with rfl | rfl | rfl | rfl <;> decide
    rw [readPort, hdigit]
    simp only [if_pos hmark]

/-! ## Written authorities -/

/-- An authority as it is written: its text tells its parts. -/
structure WrittenAuthority (a : Authority) : Prop where
  username : Plain userinfoSet a.username
  password : Plain userinfoSet a.password
  host : ∀ h, a.host = some h → HostText h.text
  port : ∀ n, a.port = some n → n ≤ 65535
  ofNoHost : a.host = none → a.username = [] ∧ a.password = [] ∧ a.port = none

/-- Neither a mark that ends an authority nor an `@`. -/
def Inside (kind : SchemeKind) (cs : List Char) : Prop :=
  ∀ c ∈ cs, endsAuthority kind c = false ∧ c ≠ '@'

theorem Inside.append {kind : SchemeKind} {first second : List Char} (h : Inside kind first)
    (h' : Inside kind second) : Inside kind (first ++ second) := by
  intro c hc
  rcases List.mem_append.1 hc with hc | hc
  · exact h c hc
  · exact h' c hc

theorem inside_of_plain (kind : SchemeKind) {cs : List Char} (h : Plain userinfoSet cs) :
    Inside kind cs ∧ ':' ∉ cs := by
  have hset : ∀ c ∈ "/?#@:\\".toList, isKept userinfoSet c = false :=
    List.all_iff_forall_prop.1 (by decide)
  have hne {c d : Char} (hc : c ∈ cs) (hd : d ∈ "/?#@:\\".toList) : c ≠ d := by
    rintro rfl
    have hkept := hset c hd
    rw [h c hc] at hkept
    cases hkept
  refine ⟨fun c hc => ⟨?_, hne hc (by decide)⟩, fun hc => hne hc (by decide) rfl⟩
  rw [Bool.eq_false_iff]
  intro hends
  rcases endsAuthority_iff.1 hends with hslash | hquestion | hhash | ⟨hbackslash, -⟩
  · exact hne hc (by decide) hslash
  · exact hne hc (by decide) hquestion
  · exact hne hc (by decide) hhash
  · exact hne hc (by decide) hbackslash

theorem inside_of_hostText {kind : SchemeKind} {cs : List Char} (h : HostText cs) :
    Inside kind cs := by
  refine fun c hc => ⟨not_endsAuthority_of_hostText kind h c hc, ?_⟩
  rintro rfl
  exact (h.chars _ hc).2 (by decide)

theorem WrittenAuthority.inside_hostText {a : Authority} (h : WrittenAuthority a)
    (kind : SchemeKind) : Inside kind a.hostText := by
  unfold Authority.hostText
  cases hhost : a.host with
  | none => nofun
  | some host => exact inside_of_hostText (h.host host hhost)

theorem inside_portText (kind : SchemeKind) (a : Authority) : Inside kind a.portText := by
  unfold Authority.portText
  split
  · rename_i n hport
    have hall : ∀ c ∈ ':' :: "0123456789abcdef".toList,
        (c ≠ '/' ∧ c ≠ '?' ∧ c ≠ '#' ∧ c ≠ '\\') ∧ c ≠ '@' :=
      List.all_iff_forall_prop.1 (by decide)
    intro c hc
    have hmem : c ∈ ':' :: "0123456789abcdef".toList := by
      rcases List.mem_cons.1 hc with rfl | hc
      · exact List.mem_cons_self
      · exact List.mem_cons_of_mem _ (Ascii.mem_of_mem_digits (by decide) (by decide) hc)
    obtain ⟨⟨hslash, hquestion, hhash, hbackslash⟩, hat⟩ := hall c hmem
    refine ⟨?_, hat⟩
    rw [Bool.eq_false_iff]
    intro hends
    rcases endsAuthority_iff.1 hends with heq | heq | heq | ⟨heq, -⟩
    · exact hslash heq
    · exact hquestion heq
    · exact hhash heq
    · exact hbackslash heq
  · nofun

/-! ## User information -/

theorem takeWhile_inside {kind : SchemeKind} {cs rest : List Char}
    (h : ∀ c ∈ cs, endsAuthority kind c = false) (hrest : EndsAuthority kind rest) :
    (cs ++ rest).takeWhile (fun c => !endsAuthority kind c) = cs ∧
      (cs ++ rest).dropWhile (fun c => !endsAuthority kind c) = rest := by
  refine Split.takeWhile_append (fun c hc => ?_) fun c hc => ?_
  · rw [h c hc]
    rfl
  · rw [hrest c hc]
    rfl

/-- Without an `@` there is no user information. -/
theorem takeUserinfo_of_none {kind : SchemeKind} {cs rest : List Char} (h : Inside kind cs)
    (hrest : EndsAuthority kind rest) :
    takeUserinfo kind (cs ++ rest) = .ok (([], []), cs ++ rest) := by
  obtain ⟨htake, -⟩ := takeWhile_inside (fun c hc => (h c hc).1) hrest
  have hat : '@' ∉ cs := fun hmem => (h '@' hmem).2 rfl
  unfold takeUserinfo splitUserinfo
  simp only [htake, Split.splitLast_of_not_mem hat]
  rfl

/-- User information is told from the host by the `@` after it. -/
theorem takeUserinfo_of_some {kind : SchemeKind} {userinfo cs rest : List Char}
    (hne : userinfo ≠ []) (huserinfo : ∀ c ∈ userinfo, endsAuthority kind c = false)
    (h : Inside kind cs) (hrest : EndsAuthority kind rest) :
    takeUserinfo kind (userinfo ++ '@' :: (cs ++ rest)) =
      .ok (readUserinfo userinfo, cs ++ rest) := by
  have hall : ∀ c ∈ userinfo ++ '@' :: cs, endsAuthority kind c = false := by
    intro c hc
    rcases List.mem_append.1 hc with hc | hc
    · exact huserinfo c hc
    · rcases List.mem_cons.1 hc with rfl | hc
      · cases kind <;> decide
      · exact (h c hc).1
  obtain ⟨htake, hdrop⟩ := takeWhile_inside hall hrest
  have hat : '@' ∉ cs := fun hmem => (h '@' hmem).2 rfl
  have hinput : userinfo ++ '@' :: (cs ++ rest) = userinfo ++ '@' :: cs ++ rest := by simp
  obtain ⟨c, userinfo, rfl⟩ := List.exists_cons_of_ne_nil hne
  unfold takeUserinfo splitUserinfo
  simp only [hinput, htake, hdrop, Split.splitLast_append (c :: userinfo) hat, Option.map_some]

theorem readUserinfo_of_plain {username password : List Char}
    (h : Plain userinfoSet username) (h' : Plain userinfoSet password) :
    readUserinfo username = (username, []) ∧
      readUserinfo (username ++ ':' :: password) = (username, password) := by
  have hcolon : ':' ∉ username := (inside_of_plain .other h).2
  unfold readUserinfo
  rw [Split.splitOnce_of_not_mem hcolon, Split.splitOnce_append hcolon]
  simp only [escapeAll_of_plain h, escapeAll_of_plain h']
  exact ⟨trivial, trivial⟩

/-- The user information of a written authority is read as it is. -/
theorem takeUserinfo_written {kind : SchemeKind} {a : Authority} (h : WrittenAuthority a)
    {rest : List Char} (hrest : EndsAuthority kind rest) :
    takeUserinfo kind (a.text ++ rest) =
      .ok ((a.username, a.password), a.hostText ++ a.portText ++ rest) := by
  have hinside : Inside kind (a.hostText ++ a.portText) :=
    (h.inside_hostText kind).append (inside_portText kind a)
  have husername := inside_of_plain kind h.username
  have hpassword := inside_of_plain kind h.password
  obtain ⟨hread, hread'⟩ := readUserinfo_of_plain h.username h.password
  unfold Authority.text Authority.userinfo
  by_cases hnone : a.username = [] ∧ a.password = []
  · rw [if_pos hnone, List.nil_append, takeUserinfo_of_none hinside hrest, hnone.1, hnone.2]
  · rw [if_neg hnone]
    by_cases hpw : a.password = []
    · have hne : a.username ≠ [] := fun husername => hnone ⟨husername, hpw⟩
      have hsome := takeUserinfo_of_some hne (fun c hc => (husername.1 c hc).1) hinside hrest
      rw [if_pos hpw, hpw]
      rw [hread] at hsome
      simpa using hsome
    · have hall : ∀ c ∈ a.username ++ ':' :: a.password, endsAuthority kind c = false := by
        intro c hc
        rcases List.mem_append.1 hc with hc | hc
        · exact (husername.1 c hc).1
        · rcases List.mem_cons.1 hc with rfl | hc
          · cases kind <;> decide
          · exact (hpassword.1 c hc).1
      have hne : a.username ++ ':' :: a.password ≠ [] :=
        List.append_ne_nil_of_right_ne_nil _ (List.cons_ne_nil _ _)
      have hsome := takeUserinfo_of_some hne hall hinside hrest
      rw [if_neg hpw]
      rw [hread'] at hsome
      simpa using hsome

/-- What a written authority is written with. -/
theorem WrittenAuthority.mem_text {a : Authority} (h : WrittenAuthority a) {c : Char}
    (hc : c ∈ a.text) :
    isKept userinfoSet c = true ∨ (∃ host, a.host = some host ∧ c ∈ host.text) ∨
      c ∈ "@:0123456789abcdef".toList := by
  have hdigits : ∀ d ∈ "0123456789abcdef".toList, d ∈ "@:0123456789abcdef".toList :=
    List.all_iff_forall_prop.1 (by decide)
  have huserinfo : c ∈ a.userinfo →
      isKept userinfoSet c = true ∨ c ∈ "@:0123456789abcdef".toList := by
    unfold Authority.userinfo
    split
    · nofun
    · split
      · intro hc
        rcases List.mem_append.1 hc with hc | hc
        · exact .inl (h.username c hc)
        · rw [List.mem_singleton.1 hc]
          exact .inr (by decide)
      · intro hc
        rcases List.mem_append.1 hc with hc | hc
        · rcases List.mem_append.1 hc with hc | hc
          · exact .inl (h.username c hc)
          · rcases List.mem_cons.1 hc with rfl | hc
            · exact .inr (by decide)
            · exact .inl (h.password c hc)
        · rw [List.mem_singleton.1 hc]
          exact .inr (by decide)
  unfold Authority.text at hc
  rcases List.mem_append.1 hc with hc | hc
  · rcases List.mem_append.1 hc with hc | hc
    · rcases huserinfo hc with hkept | hmark
      · exact .inl hkept
      · exact .inr (.inr hmark)
    · unfold Authority.hostText at hc
      cases hhost : a.host with
      | none =>
        rw [hhost] at hc
        cases hc
      | some host =>
        rw [hhost] at hc
        exact .inr (.inl ⟨host, rfl, hc⟩)
  · unfold Authority.portText at hc
    split at hc
    · rcases List.mem_cons.1 hc with rfl | hc
      · exact .inr (.inr (by decide))
      · exact .inr (.inr (hdigits c (Ascii.mem_of_mem_digits (by decide) (by decide) hc)))
    · cases hc

/-- Nothing in the text of a written authority ends it. -/
theorem WrittenAuthority.not_ends {a : Authority} (h : WrittenAuthority a) (kind : SchemeKind) :
    ∀ c ∈ a.text, endsAuthority kind c = false := by
  have hmarks : ∀ c ∈ "@:0123456789abcdef".toList, endsAuthority kind c = false := by
    cases kind <;> exact List.all_iff_forall_prop.1 (by decide)
  intro c hc
  rcases h.mem_text hc with hkept | ⟨host, hhost, hc⟩ | hmark
  · have hplain : Plain userinfoSet [c] := by
      intro d hd
      rw [List.mem_singleton.1 hd]
      exact hkept
    exact ((inside_of_plain kind hplain).1 c (List.mem_singleton.2 rfl)).1
  · exact not_endsAuthority_of_hostText kind (h.host host hhost) c hc
  · exact hmarks c hmark

theorem WrittenAuthority.text_ne_nil {a : Authority} (h : WrittenAuthority a)
    (hhost : a.host ≠ none) : a.text ≠ [] := by
  obtain ⟨host, hhost⟩ := Option.ne_none_iff_exists'.1 hhost
  have hne : a.hostText ≠ [] := by
    unfold Authority.hostText
    rw [hhost]
    exact (h.host host hhost).ne_nil
  intro hnil
  exact hne (List.append_eq_nil_iff.1 (List.append_eq_nil_iff.1 hnil).1).2

/-! ## Reading a written authority -/

/-- The port of a scheme that need not be written is not. -/
def Authority.normalized (a : Authority) (scheme : List Char) : Authority :=
  { a with port := if a.port = defaultPort? scheme then none else a.port }

theorem endsHost_of_endsAuthority {kind : SchemeKind} {rest : List Char}
    (h : EndsAuthority kind rest) : EndsHost kind rest := fun c hc => .inr (h c hc)

theorem endsHost_portText {kind : SchemeKind} (a : Authority) {rest : List Char}
    (h : EndsAuthority kind rest) : EndsHost kind (a.portText ++ rest) := by
  unfold Authority.portText
  split
  · intro c hc
    exact .inl (Option.some.inj hc).symm
  · exact endsHost_of_endsAuthority h

theorem takeHost_written {kind : SchemeKind} {a : Authority} (h : WrittenAuthority a)
    {rest : List Char} (hrest : EndsAuthority kind rest) :
    takeHost kind false (a.hostText ++ a.portText ++ rest) = (a.hostText, a.portText ++ rest) := by
  have hends := endsHost_portText a hrest
  rw [List.append_assoc]
  unfold Authority.hostText
  cases hhost : a.host with
  | none => exact takeHost_end hends
  | some host => exact takeHost_append (h.host host hhost) hends

theorem readHost_ne_none {kind : SchemeKind} {cs : List Char} (h : cs ≠ []) :
    readHost kind cs ≠ .ok none := by
  unfold readHost
  split
  · cases domainHost cs <;> nofun
  · unfold opaqueHost
    split
    · rename_i rest
      cases bracketed rest <;> nofun
    · exact absurd rfl h
    · split <;> nofun

/-- A written authority is read as it is, but for the host: that is what its text is read as. -/
theorem readAuthority_text {kind : SchemeKind} {a : Authority} (h : WrittenAuthority a)
    (scheme : List Char) {rest : List Char} (hrest : EndsAuthority kind rest) :
    readAuthority kind scheme (a.text ++ rest) =
      (readHost kind a.hostText).map fun host =>
        ({ a with host := host }.normalized scheme, rest) := by
  have hcolon : ∀ after, rest ≠ ':' :: after := by
    rintro after rfl
    have hends := hrest ':' rfl
    cases kind <;> exact absurd hends (by decide)
  unfold readAuthority
  rw [takeUserinfo_written h hrest]
  simp only [bind, Except.bind, takeHost_written h hrest]
  cases hread : readHost kind a.hostText with
  | error e => rfl
  | ok host =>
    have hnone : host = none → a.username = [] ∧ a.password = [] ∧ a.port = none := by
      rintro rfl
      cases hhost : a.host with
      | none => exact h.ofNoHost hhost
      | some other =>
        have hne : a.hostText ≠ [] := by
          unfold Authority.hostText
          rw [hhost]
          exact (h.host other hhost).ne_nil
        exact absurd hread (readHost_ne_none hne)
    have hguard : ¬ (host = none ∧ (a.username ≠ [] ∨ a.password ≠ [])) := by
      rintro ⟨hhost, husername | hpassword⟩
      · exact husername (hnone hhost).1
      · exact hpassword (hnone hhost).2.1
    cases hport : a.port with
    | none =>
      have htext : a.portText ++ rest = rest := by
        unfold Authority.portText
        rw [hport]
        rfl
      simp only [htext, if_neg hguard]
      rfl
    | some n =>
      have htext : a.portText ++ rest = ':' :: (Ascii.digits 10 n ++ rest) := by
        unfold Authority.portText
        rw [hport]
        rfl
      have hhost : host ≠ none := by
        intro hhost
        rw [(hnone hhost).2.2] at hport
        cases hport
      simp only [htext, if_neg hhost, readPort_digits (h.port n hport), readPort_end hrest,
        if_neg hguard, Except.map, Authority.normalized]

/-! ## What reading gives -/

/-- The rest of a text after a front in which nothing ends an authority. -/
def Passes (kind : SchemeKind) (input rest : List Char) : Prop :=
  ∃ front, input = front ++ rest ∧ ∀ c ∈ front, endsAuthority kind c = false

theorem Passes.refl (kind : SchemeKind) (input : List Char) : Passes kind input input :=
  ⟨[], rfl, nofun⟩

theorem Passes.trans {kind : SchemeKind} {first second third : List Char}
    (h : Passes kind first second) (h' : Passes kind second third) : Passes kind first third := by
  obtain ⟨front, rfl, hfront⟩ := h
  obtain ⟨front', rfl, hfront'⟩ := h'
  refine ⟨front ++ front', (List.append_assoc _ _ _).symm, fun c hc => ?_⟩
  rcases List.mem_append.1 hc with hc | hc
  · exact hfront c hc
  · exact hfront' c hc

/-- There is one place at which an authority ends. -/
theorem Passes.unique {kind : SchemeKind} {input rest rest' : List Char}
    (h : Passes kind input rest) (hends : EndsAuthority kind rest)
    (h' : Passes kind input rest') (hends' : EndsAuthority kind rest') : rest = rest' := by
  obtain ⟨front, rfl, hfront⟩ := h
  obtain ⟨front', heq, hfront'⟩ := h'
  have hdrop := (takeWhile_inside hfront hends).2
  rw [heq, (takeWhile_inside hfront' hends').2] at hdrop
  exact hdrop.symm

theorem takeHost_rest (kind : SchemeKind) (inside : Bool) (input : List Char) :
    EndsHost kind (takeHost kind inside input).2 ∧
      Passes kind input (takeHost kind inside input).2 := by
  induction input generalizing inside with
  | nil =>
    have hnil : takeHost kind inside [] = ([], []) := by cases inside <;> rfl
    rw [hnil]
    exact ⟨nofun, .refl kind []⟩
  | cons c rest ih =>
    by_cases hstop : (c = ':' ∧ !inside) ∨ (c = '\\' ∧ kind.isSpecial) ∨ c = '/' ∨ c = '?' ∨
        c = '#'
    · rw [takeHost, if_pos hstop]
      refine ⟨fun d hd => ?_, .refl kind _⟩
      obtain rfl : c = d := by simpa using hd
      rcases hstop with hcolon | hbackslash | hslash | hquestion | hhash
      · exact .inl hcolon.1
      · exact .inr (endsAuthority_iff.2 (.inr (.inr (.inr hbackslash))))
      · exact .inr (endsAuthority_iff.2 (.inl hslash))
      · exact .inr (endsAuthority_iff.2 (.inr (.inl hquestion)))
      · exact .inr (endsAuthority_iff.2 (.inr (.inr (.inl hhash))))
    · rw [takeHost, if_neg hstop]
      obtain ⟨hends, hpasses⟩ :=
        ih (if c = '[' then true else if c = ']' then false else inside)
      refine ⟨hends, Passes.trans ⟨[c], rfl, fun d hd => ?_⟩ hpasses⟩
      rw [List.mem_singleton.1 hd, Bool.eq_false_iff]
      intro hc
      rcases endsAuthority_iff.1 hc with hslash | hquestion | hhash | hbackslash
      · exact hstop (.inr (.inr (.inl hslash)))
      · exact hstop (.inr (.inr (.inr (.inl hquestion))))
      · exact hstop (.inr (.inr (.inr (.inr hhash))))
      · exact hstop (.inr (.inl hbackslash))

/-- What may follow a port. A backslash ends one whatever the scheme is. -/
def EndsPort (rest : List Char) : Prop := ∀ c ∈ rest.head?, c ∈ "/\\?#".toList

theorem endsPort_iff {kind : SchemeKind} (h : kind.isSpecial = true) {rest : List Char} :
    EndsPort rest ↔ EndsAuthority kind rest := by
  have hmark (c : Char) : c ∈ "/\\?#".toList ↔ endsAuthority kind c = true := by
    rw [endsAuthority_iff, h]
    simp only [show "/\\?#".toList = ['/', '\\', '?', '#'] from rfl, List.mem_cons,
      List.not_mem_nil, or_false, and_true]
    tauto
  unfold EndsPort EndsAuthority
  simp only [hmark]

theorem not_endsAuthority_of_digit {kind : SchemeKind} {c : Char} {d : Nat}
    (h : Ascii.digit? c = some d) : endsAuthority kind c = false := by
  have hsome : (Ascii.digit? c).isSome = true := by
    rw [h]
    rfl
  rw [Bool.eq_false_iff]
  intro hends
  rcases endsAuthority_iff.1 hends with rfl | rfl | rfl | ⟨rfl, -⟩
  all_goals exact absurd hsome (by decide)

theorem readPort_eq_ok (kind : SchemeKind) {input rest : List Char} {port port' : Option Nat}
    (hport : ∀ n, port = some n → n ≤ 65535) (h : readPort port input = .ok (port', rest)) :
    (∀ n, port' = some n → n ≤ 65535) ∧ EndsPort rest ∧ Passes kind input rest := by
  induction input generalizing port with
  | nil =>
    cases h
    exact ⟨hport, nofun, .refl kind []⟩
  | cons c input ih =>
    rw [readPort] at h
    split at h
    · rename_i d hd
      simp only at h
      split at h
      · cases h
      · rename_i hle
        have hnext : ∀ n, some (port.getD 0 * 10 + d) = some n → n ≤ 65535 := by
          intro n hn
          rw [← Option.some.inj hn]
          omega
        obtain ⟨hport', hends, hpasses⟩ := ih hnext h
        refine ⟨hport', hends, Passes.trans ⟨[c], rfl, fun e he => ?_⟩ hpasses⟩
        rw [List.mem_singleton.1 he]
        exact not_endsAuthority_of_digit hd
    · split at h
      · rename_i hmark
        cases h
        refine ⟨hport, fun e he => ?_, .refl kind _⟩
        obtain rfl : c = e := by simpa using he
        rcases hmark with rfl | rfl | rfl | rfl <;> decide
      · cases h

theorem readUserinfo_plain (userinfo : List Char) :
    Plain userinfoSet (readUserinfo userinfo).1 ∧ Plain userinfoSet (readUserinfo userinfo).2 := by
  unfold readUserinfo
  split
  · exact ⟨plain_escapeAll sparesEscapes_userinfo _, plain_escapeAll sparesEscapes_userinfo _⟩
  · exact ⟨plain_escapeAll sparesEscapes_userinfo _, nofun⟩

theorem splitUserinfo_eq_some {kind : SchemeKind} {input userinfo rest : List Char}
    (h : splitUserinfo kind input = some (userinfo, rest)) : Passes kind input rest := by
  unfold splitUserinfo at h
  rw [Option.map_eq_some_iff] at h
  obtain ⟨⟨front, back⟩, hsplit, heq⟩ := h
  obtain ⟨rfl, rfl⟩ := Prod.mk.inj heq
  have hauthority := Split.eq_of_splitLast hsplit
  refine ⟨front ++ ['@'], ?_, fun c hc => ?_⟩
  · conv => lhs; rw [← List.takeWhile_append_dropWhile
      (p := fun c => !endsAuthority kind c) (l := input), hauthority]
    simp
  · have hmem : c ∈ input.takeWhile fun c => !endsAuthority kind c := by
      rw [hauthority]
      rcases List.mem_append.1 hc with hc | hc
      · exact List.mem_append_left _ hc
      · rw [List.mem_singleton.1 hc]
        exact List.mem_append_right _ List.mem_cons_self
    simpa using List.all_eq_true.1 List.all_takeWhile c hmem

theorem takeUserinfo_eq_ok {kind : SchemeKind} {input rest username password : List Char}
    (h : takeUserinfo kind input = .ok ((username, password), rest)) :
    Plain userinfoSet username ∧ Plain userinfoSet password ∧ Passes kind input rest := by
  unfold takeUserinfo at h
  split at h
  · cases h
    exact ⟨nofun, nofun, .refl kind input⟩
  · rename_i userinfo rest' hsplit
    have hpasses := splitUserinfo_eq_some hsplit
    split at h
    · split at h
      · cases h
      · cases h
        exact ⟨nofun, nofun, hpasses⟩
    · obtain ⟨husername, hpassword⟩ := readUserinfo_plain userinfo
      injection h with h
      obtain ⟨hread, rfl⟩ := Prod.mk.inj h
      rw [hread] at husername hpassword
      exact ⟨husername, hpassword, hpasses⟩

/-- What an authority that has been read is: written, with a host if its scheme is special and no
port that its scheme implies. -/
structure ReadAuthority (kind : SchemeKind) (scheme : List Char) (a : Authority) : Prop where
  written : WrittenAuthority a
  host : kind.isSpecial = true → a.host ≠ none
  port : a.port ≠ none → a.port ≠ defaultPort? scheme

theorem readHost_nil_special {kind : SchemeKind} (h : kind.isSpecial = true) (cs : List Char) :
    readHost kind cs ≠ .ok none := by
  unfold readHost
  rw [if_pos h]
  split
  · nofun
  · cases domainHost cs <;> nofun

theorem readAuthority_eq_ok {kind : SchemeKind} {scheme input rest : List Char} {a : Authority}
    (h : readAuthority kind scheme input = .ok (a, rest)) :
    ReadAuthority kind scheme a ∧ EndsPort rest ∧ Passes kind input rest := by
  unfold readAuthority at h
  rw [bind_eq_ok] at h
  obtain ⟨⟨⟨username, password⟩, afterUserinfo⟩, huserinfo, h⟩ := h
  obtain ⟨husername, hpassword, hpasses⟩ := takeUserinfo_eq_ok huserinfo
  obtain ⟨hends, hpasses'⟩ := takeHost_rest kind false afterUserinfo
  rw [bind_eq_ok] at h
  obtain ⟨host, hhost, h⟩ := h
  -- The rest is the same with a port and without one.
  have finish {port : Option Nat} {after : List Char} (hport : ∀ n, port = some n → n ≤ 65535)
      (hafter : EndsPort after)
      (hpasses'' : Passes kind (takeHost kind false afterUserinfo).2 after)
      (hnone : host = none → port = none)
      (h : (if host = none ∧ (username ≠ [] ∨ password ≠ []) then
          (.error .emptyHost : Except Error (Authority × List Char))
        else .ok (⟨username, password, host, if port = defaultPort? scheme then none else port⟩,
          after)) = .ok (a, rest)) :
      ReadAuthority kind scheme a ∧ EndsPort rest ∧ Passes kind input rest := by
    split at h
    · cases h
    · rename_i hguard
      cases h
      refine ⟨⟨⟨husername, hpassword, ?_, ?_, ?_⟩, ?_, ?_⟩, hafter,
        hpasses.trans (hpasses'.trans hpasses'')⟩
      · rintro other rfl
        exact hostText_readHost hhost
      · intro n hn
        simp only at hn
        split at hn
        · cases hn
        · exact hport n hn
      · rintro rfl
        rw [hnone rfl]
        refine ⟨?_, ?_, by split <;> rfl⟩
        · by_cases hne : username = []
          · exact hne
          · exact absurd ⟨rfl, .inl hne⟩ hguard
        · by_cases hne : password = []
          · exact hne
          · exact absurd ⟨rfl, .inr hne⟩ hguard
      · rintro hspecial rfl
        exact readHost_nil_special hspecial _ hhost
      · intro hne heq
        simp only at hne heq
        split at hne
        · exact hne rfl
        · rename_i hne'
          rw [if_neg hne'] at heq
          exact hne' heq
  have hnoPort : ∀ n, (none : Option Nat) = some n → n ≤ 65535 := nofun
  simp only at h
  split at h
  · rename_i digits heq
    split at h
    · cases h
    · rename_i hhost
      rw [bind_eq_ok] at h
      obtain ⟨⟨port, after⟩, hread, h⟩ := h
      obtain ⟨hport, hafter, hpasses''⟩ := readPort_eq_ok kind hnoPort hread
      refine finish hport hafter ?_ (fun hnone => absurd hnone hhost) h
      rw [heq]
      refine Passes.trans ⟨[':'], rfl, fun c hc => ?_⟩ hpasses''
      rw [List.mem_singleton.1 hc]
      cases kind <;> decide
  · rename_i hcolon
    refine finish hnoPort (fun c hc => ?_) (.refl kind _) (fun _ => rfl) h
    cases hrest : (takeHost kind false afterUserinfo).2 with
    | nil =>
      rw [hrest] at hc
      cases hc
    | cons d rest' =>
      rw [hrest] at hc hends
      obtain rfl : d = c := by simpa using hc
      rcases hends d rfl with rfl | hends
      · exact absurd hrest (hcolon _)
      · rcases endsAuthority_iff.1 hends with rfl | rfl | rfl | ⟨rfl, -⟩
        all_goals decide

end OpenIdProvider.Url
