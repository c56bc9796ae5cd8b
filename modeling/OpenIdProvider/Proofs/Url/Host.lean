/-
  The texts of hosts. Whatever a host was read from, its text is printable ASCII without the
  characters that end it, and with colons only between brackets; so what follows it in an authority
  can be told from it.
-/
import OpenIdProvider.Proofs.Url.Domain
import OpenIdProvider.Proofs.Url.Escaping
import OpenIdProvider.Url.Parser

namespace OpenIdProvider.Net

/-! ## Addresses -/

theorem Ipv4.mem_text {a : Ipv4} {c : Char} (h : c ∈ a.text) :
    c ∈ "0123456789abcdef.".toList := by
  have hdigits : ∀ d ∈ "0123456789abcdef".toList, d ∈ "0123456789abcdef.".toList :=
    List.all_iff_forall_prop.1 (by decide)
  unfold text at h
  rcases Split.mem_intercalate h with hdot | ⟨part, hpart, hc⟩
  · rw [List.mem_singleton.1 hdot]
    decide
  · obtain ⟨n, -, rfl⟩ := List.mem_map.1 hpart
    exact hdigits c (Ascii.mem_of_mem_digits (by decide) (by decide) hc)

theorem Ipv4.text_ne_nil (a : Ipv4) : a.text ≠ [] := by
  unfold text octets
  rw [List.map_cons, List.map_cons, List.intercalate_cons_cons]
  intro h
  have hfirst := List.append_eq_nil_iff.1 (List.append_eq_nil_iff.1 h).1
  exact absurd hfirst.2 (List.cons_ne_nil _ _)

theorem Ipv6.mem_joined {ps : List Nat} {c : Char} (h : c ∈ joined ps) :
    c ∈ "0123456789abcdef:".toList := by
  have hdigits : ∀ d ∈ "0123456789abcdef".toList, d ∈ "0123456789abcdef:".toList :=
    List.all_iff_forall_prop.1 (by decide)
  unfold joined at h
  rcases Split.mem_intercalate h with hcolon | ⟨part, hpart, hc⟩
  · rw [List.mem_singleton.1 hcolon]
    decide
  · obtain ⟨n, -, rfl⟩ := List.mem_map.1 hpart
    exact hdigits c (Ascii.mem_of_mem_digits (by decide) (by decide) hc)

theorem Ipv6.mem_text {a : Ipv6} {c : Char} (h : c ∈ a.text) :
    c ∈ "0123456789abcdef:".toList := by
  unfold text at h
  simp only at h
  split at h
  · rcases List.mem_append.1 h with h | h
    · rcases List.mem_append.1 h with h | h
      · exact mem_joined h
      · have hcolons : ∀ d ∈ [':', ':'], d ∈ "0123456789abcdef:".toList :=
          List.all_iff_forall_prop.1 (by decide)
        exact hcolons c h
    · exact mem_joined h
  · exact mem_joined h

end OpenIdProvider.Net

namespace OpenIdProvider.Url

/-- A text that can stand as a host in an authority. -/
structure HostText (cs : List Char) : Prop where
  chars : ∀ c ∈ cs, 0x20 < c.toNat ∧ c ∉ "/?#@\\|".toList
  colons : (∀ c ∈ cs, c ∉ ":[]".toList) ∨
    ∃ inner, cs = '[' :: inner ++ [']'] ∧ ∀ c ∈ inner, c ∉ "[]".toList
  ne_nil : cs ≠ []
  le : ∀ c ∈ cs, c.toNat ≤ 0x7E

theorem hostText_ipv4 (a : Net.Ipv4) : HostText a.text := by
  have hall : ∀ c ∈ "0123456789abcdef.".toList,
      (0x20 < c.toNat ∧ c ∉ "/?#@\\|".toList) ∧ c ∉ ":[]".toList ∧ c.toNat ≤ 0x7E :=
    List.all_iff_forall_prop.1 (by decide)
  exact ⟨fun c hc => (hall c (Net.Ipv4.mem_text hc)).1,
    .inl fun c hc => (hall c (Net.Ipv4.mem_text hc)).2.1, a.text_ne_nil,
    fun c hc => (hall c (Net.Ipv4.mem_text hc)).2.2⟩

theorem hostText_ipv6 (a : Net.Ipv6) : HostText (Host.ipv6 a).text := by
  have hall : ∀ c ∈ "0123456789abcdef:".toList,
      ((0x20 < c.toNat ∧ c ∉ "/?#@\\|".toList) ∧ c.toNat ≤ 0x7E) ∧ c ∉ "[]".toList :=
    List.all_iff_forall_prop.1 (by decide)
  have hchars : ∀ c ∈ (Host.ipv6 a).text,
      (0x20 < c.toNat ∧ c ∉ "/?#@\\|".toList) ∧ c.toNat ≤ 0x7E := by
    intro c hc
    rcases List.mem_append.1 hc with hc | hc
    · rcases List.mem_cons.1 hc with rfl | hc
      · decide
      · exact (hall c (Net.Ipv6.mem_text hc)).1
    · rw [List.mem_singleton.1 hc]
      decide
  exact ⟨fun c hc => (hchars c hc).1,
    .inr ⟨a.text, rfl, fun c hc => (hall c (Net.Ipv6.mem_text hc)).2⟩, List.cons_ne_nil _ _,
    fun c hc => (hchars c hc).2⟩

theorem hostText_domain {cs domain : List Char} (h : Idna.toAscii? cs = some domain)
    (hne : domain ≠ []) : HostText domain := by
  have hsub : ∀ c ∈ "/?#@\\|".toList ++ ":[]".toList, c ∈ "%#/:<>?@[\\]^|".toList :=
    List.all_iff_forall_prop.1 (by decide)
  refine ⟨fun c hc => ?_, .inl fun c hc hmem => ?_, hne, fun c hc => ?_⟩
  · obtain ⟨hlow, -, hdenied⟩ :=
      Idna.isDenied_eq_false_iff.1 (Idna.not_isDenied_of_toAscii? h c hc)
    exact ⟨hlow, fun hmem => hdenied (hsub c (List.mem_append_left _ hmem))⟩
  · obtain ⟨-, -, hdenied⟩ :=
      Idna.isDenied_eq_false_iff.1 (Idna.not_isDenied_of_toAscii? h c hc)
    exact hdenied (hsub c (List.mem_append_right _ hmem))
  · obtain ⟨-, hdelete, -⟩ :=
      Idna.isDenied_eq_false_iff.1 (Idna.not_isDenied_of_toAscii? h c hc)
    have hascii := Idna.isAscii_of_toAscii? h c hc
    omega

theorem hostText_bracketed {cs : List Char} {host : Host} (h : bracketed cs = .ok host) :
    HostText host.text := by
  unfold bracketed at h
  split at h
  · cases h
  · split at h
    · cases h
      exact hostText_ipv6 _
    · cases h

theorem hostText_domainHost {cs : List Char} {host : Host} (h : domainHost cs = .ok host) :
    HostText host.text := by
  unfold domainHost at h
  split at h
  · exact hostText_bracketed h
  · split at h
    · cases h
    · cases h
    · rename_i domain hne hdomain
      split at h
      · split at h
        · cases h
          exact hostText_ipv4 _
        · cases h
      · cases h
        exact hostText_domain hdomain hne

/-- The name of a host of another scheme: what is not forbidden, and escapes. -/
theorem hostText_escapeAll {cs : List Char} (h : cs.any isForbiddenInHost = false)
    (hne : cs ≠ []) : HostText (escapeAll "" cs) := by
  have hforbidden : ∀ c ∈ ' ' :: "/?#@\\|:[]".toList, isForbiddenInHost c = true :=
    List.all_iff_forall_prop.1 (by decide)
  have hescapes : ∀ c ∈ "%0123456789ABCDEF".toList, c ∉ ' ' :: "/?#@\\|:[]".toList :=
    List.all_iff_forall_prop.1 (by decide)
  have hmem : ∀ d ∈ escapeAll "" cs, d ∉ ' ' :: "/?#@\\|:[]".toList := by
    intro d hd hbad
    obtain ⟨c, hc, hd⟩ := List.mem_flatMap.1 hd
    rcases mem_escape hd with rfl | hescape
    · rw [List.any_eq_false] at h
      exact h d hc (hforbidden d hbad)
    · exact hescapes d hescape hbad
  have hsub : ∀ c ∈ "/?#@\\|".toList, c ∈ ' ' :: "/?#@\\|:[]".toList :=
    List.all_iff_forall_prop.1 (by decide)
  have hsub' : ∀ c ∈ ":[]".toList, c ∈ ' ' :: "/?#@\\|:[]".toList :=
    List.all_iff_forall_prop.1 (by decide)
  refine ⟨fun d hd => ⟨?_, fun hbad => hmem d hd (hsub d hbad)⟩,
    .inl fun d hd hbad => hmem d hd (hsub' d hbad), ?_,
    fun d hd => (isKept_eq_true_iff.1 (plain_escapeAll sparesEscapes_none cs d hd)).2.1⟩
  · have hlow := (isKept_eq_true_iff.1 (plain_escapeAll sparesEscapes_none cs d hd)).1
    have hspace : d.toNat ≠ 0x20 := by
      intro heq
      have hd' : d = ' ' := Char.toNat_inj.1 heq
      exact hmem d hd (hd' ▸ List.mem_cons_self)
    omega
  · obtain ⟨c, cs, rfl⟩ := List.exists_cons_of_ne_nil hne
    intro hnil
    exact escape_ne_nil "" c (List.append_eq_nil_iff.1 hnil).1

theorem hostText_opaqueHost {cs : List Char} {host : Host}
    (h : opaqueHost cs = .ok (some host)) : HostText host.text := by
  unfold opaqueHost at h
  split at h
  · rename_i rest
    cases hbracketed : bracketed rest with
    | error e =>
      rw [hbracketed] at h
      cases h
    | ok address =>
      rw [hbracketed] at h
      cases h
      exact hostText_bracketed hbracketed
  · cases h
  · rename_i hne
    split at h
    · cases h
    · rename_i hforbidden
      cases h
      exact hostText_escapeAll (by simpa using hforbidden) hne

theorem hostText_readHost {kind : SchemeKind} {cs : List Char} {host : Host}
    (h : readHost kind cs = .ok (some host)) : HostText host.text := by
  unfold readHost at h
  split at h
  · split at h
    · cases h
    · cases hdomain : domainHost cs with
      | error e =>
        rw [hdomain] at h
        cases h
      | ok domain =>
        rw [hdomain] at h
        cases h
        exact hostText_domainHost hdomain
  · exact hostText_opaqueHost h

end OpenIdProvider.Url
