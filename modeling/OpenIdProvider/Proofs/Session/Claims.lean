/-
  The claims that sessions put into their tokens. They name the session and the second in which
  the token ends, whatever the scopes add to them, and they are read back from their text.
-/
import OpenIdProvider.Proofs.Calendar
import OpenIdProvider.Proofs.Number.Binary64
import OpenIdProvider.Proofs.Token.Parts
import OpenIdProvider.Provider.Access

namespace OpenIdProvider

open Json Json.Reader

/-! ## Legible members -/

namespace Token.Claims

/-- A member that legible claims may have. -/
def LegibleMember (m : String × Json) : Prop :=
  Json.Readable (depthLimit - 1) m.2 ∧
    (m.1 = "exp" ∨ m.1 = "nbf" ∨ m.1 = "sub" → Json.Readable 0 m.2)

theorem legible_of_members {claims : Members} (hsorted : claims.Sorted)
    (h : ∀ m ∈ claims, LegibleMember m) : Legible claims :=
  ⟨⟨hsorted, fun m hm => (h m hm).1⟩, fun m hm => (h m hm).2⟩

theorem legibleMember_string (name s : String) : LegibleMember (name, .string s) :=
  ⟨readable_string _ s, fun _ => readable_string 0 s⟩

theorem legibleMember_bool (name : String) (b : Bool) : LegibleMember (name, .bool b) :=
  ⟨readable_bool _ b, fun _ => readable_bool 0 b⟩

theorem legibleMember_int (name : String) {n : Int}
    (h : -0x8000000000000000 ≤ n ∧ n ≤ 0xFFFFFFFFFFFFFFFF) : LegibleMember (name, .ofInt n) :=
  ⟨readable_int_iff.2 h, fun _ => readable_int_iff.2 h⟩

/-- The second of every instant is read back. -/
theorem legibleMember_seconds (name : String) (t : Instant) :
    LegibleMember (name, .ofInt t.seconds) := by
  obtain ⟨hlow, hhigh⟩ := t.seconds_bounds
  exact legibleMember_int name ⟨by omega, by omega⟩

theorem legibleMember_groups (ss : List String) : LegibleMember ("groups", Json.ofStrings ss) := by
  refine ⟨fun x hx => ?_, ?_⟩
  · obtain ⟨s, -, rfl⟩ := List.mem_map.1 hx
    exact readable_string _ s
  · rintro (h | h | h) <;> exact absurd h (by decide : ("groups" : String) ≠ _)

theorem legibleMember_insert {name : String} {value : Json} {ms : Members}
    (hvalue : LegibleMember (name, value)) (h : ∀ m ∈ ms, LegibleMember m) :
    ∀ m ∈ ms.insert name value, LegibleMember m := by
  intro m hm
  rcases Members.mem_insert hm with rfl | hm
  · exact hvalue
  · exact h m hm

end Token.Claims

open Token.Claims

/-! ## The claims of scopes -/

namespace User

theorem insertText_sorted (name value : String) {ms : Members} (h : ms.Sorted) :
    (insertText name value ms).Sorted := by
  unfold insertText
  split
  · exact h
  · exact Members.sorted_insert h name _

theorem insertText_legible (name value : String) {ms : Members} (h : ∀ m ∈ ms, LegibleMember m) :
    ∀ m ∈ insertText name value ms, LegibleMember m := by
  unfold insertText
  split
  · exact h
  · exact legibleMember_insert (legibleMember_string name value) h

theorem release_sorted (u : User) {ms : Members} (h : ms.Sorted) (scope : String) :
    (u.release ms scope).Sorted := by
  unfold release
  split
  · exact insertText_sorted _ _ (insertText_sorted _ _ (insertText_sorted _ _ h))
  · split
    · exact Members.sorted_insert (insertText_sorted _ _ h) _ _
    · split
      · split
        · exact h
        · exact Members.sorted_insert h _ _
      · exact h

theorem release_legible (u : User) {ms : Members} (h : ∀ m ∈ ms, LegibleMember m)
    (scope : String) : ∀ m ∈ u.release ms scope, LegibleMember m := by
  unfold release
  split
  · exact insertText_legible _ _ (insertText_legible _ _ (insertText_legible _ _ h))
  · split
    · exact legibleMember_insert (legibleMember_bool _ _) (insertText_legible _ _ h)
    · split
      · split
        · exact h
        · exact legibleMember_insert (legibleMember_groups _) h
      · exact h

/-- What holds of the claims at the start, and is kept by each of the scopes, holds in the end. -/
theorem scopedClaims_induction {u : User} {scopes : List String} {P : Members → Prop}
    (hstart : P (Members.ofList [("sub", .string u.subject)]))
    (hscope : ∀ scope ∈ scopes, ∀ ms, P ms → P (u.release ms scope)) :
    P (u.scopedClaims scopes) :=
  List.foldlRecOn scopes u.release hstart fun ms hms scope hmem => hscope scope hmem ms hms

/-- The claims of scopes are in order and can be read back. -/
theorem scopedClaims_legible (u : User) (scopes : List String) :
    (u.scopedClaims scopes).Sorted ∧ ∀ m ∈ u.scopedClaims scopes, LegibleMember m := by
  have hstart : (Members.ofList [("sub", .string u.subject)]).Sorted ∧
      ∀ m ∈ Members.ofList [("sub", .string u.subject)], LegibleMember m := by
    refine ⟨Members.sorted_ofList _, fun m hm => ?_⟩
    obtain rfl := List.mem_singleton.1 hm
    exact legibleMember_string _ _
  exact scopedClaims_induction (P := fun ms => ms.Sorted ∧ ∀ m ∈ ms, LegibleMember m) hstart
    fun scope _ _ h => ⟨release_sorted u h.1 scope, release_legible u h.2 scope⟩

/-- The claims that a scope may add. -/
def releasedNames : List String :=
  ["preferred_username", "phone_number", "address", "email", "email_verified", "groups"]

theorem get?_insertText_of_ne {name other : String} (h : other ≠ name) (value : String)
    (ms : Members) : (insertText name value ms).get? other = ms.get? other := by
  unfold insertText
  split
  · rfl
  · rw [Members.get?_insert, if_neg h]

theorem get?_release_of_not_mem {name : String} (h : name ∉ releasedNames) (u : User)
    (ms : Members) (scope : String) : (u.release ms scope).get? name = ms.get? name := by
  simp only [releasedNames, List.mem_cons, List.not_mem_nil, or_false, not_or] at h
  obtain ⟨hpreferred, hphone, haddress, hemail, hverified, hgroups⟩ := h
  unfold release
  split
  · rw [get?_insertText_of_ne haddress, get?_insertText_of_ne hphone,
      get?_insertText_of_ne hpreferred]
  · split
    · rw [Members.get?_insert, if_neg hverified, get?_insertText_of_ne hemail]
    · split
      · split
        · rfl
        · rw [Members.get?_insert, if_neg hgroups]
      · rfl

/-- A claim that all scopes leave alone is there from the start or not at all. -/
theorem get?_scopedClaims_of_get?_release {name : String} {u : User} {scopes : List String}
    (h : ∀ scope ∈ scopes, ∀ ms, (u.release ms scope).get? name = ms.get? name) :
    (u.scopedClaims scopes).get? name =
      if name = "sub" then some (.string u.subject) else none :=
  scopedClaims_induction (P := fun ms => ms.get? name = _) rfl
    fun scope hscope ms hms => (h scope hscope ms).trans hms

/-- Scopes add no claims but those that they may add. -/
theorem get?_scopedClaims_of_not_mem {name : String} (h : name ∉ releasedNames) (u : User)
    (scopes : List String) :
    (u.scopedClaims scopes).get? name =
      if name = "sub" then some (.string u.subject) else none :=
  get?_scopedClaims_of_get?_release fun scope _ ms => get?_release_of_not_mem h u ms scope

end User

/-! ## The claims of tokens -/

namespace Session

variable (s : Session) (settings : Settings) (now finish : Instant)

/-- The claims of every token in the order of their names. -/
theorem standardClaims_eq :
    s.standardClaims settings now finish =
      [("aud", .string settings.clientId), ("exp", .ofInt finish.seconds),
        ("iat", .ofInt now.seconds), ("iss", .string settings.issuer), ("jti", .string s.id),
        ("nbf", .ofInt now.seconds), ("sub", .string s.user.subject)] := by
  simp only [standardClaims, Members.ofList, Members.insertAll, List.foldl_cons, List.foldl_nil,
    Members.insert, String.reduceEq, String.reduceLT, if_true, if_false]

theorem standardClaims_legible : ∀ m ∈ s.standardClaims settings now finish, LegibleMember m := by
  intro m hm
  rw [standardClaims_eq] at hm
  simp only [List.mem_cons, List.not_mem_nil, or_false] at hm
  rcases hm with rfl | rfl | rfl | rfl | rfl | rfl | rfl
  · exact legibleMember_string _ _
  · exact legibleMember_seconds _ _
  · exact legibleMember_seconds _ _
  · exact legibleMember_string _ _
  · exact legibleMember_string _ _
  · exact legibleMember_seconds _ _
  · exact legibleMember_string _ _

/-- The claims of every token are read back. -/
theorem legible_standardClaims : Legible (s.standardClaims settings now finish) :=
  legible_of_members (Members.sorted_ofList _) (s.standardClaims_legible settings now finish)

/-- Those of an ID token are as well. -/
theorem legible_identityClaims : Legible (s.identityClaims settings now finish) := by
  obtain ⟨hsorted, hscoped⟩ := s.user.scopedClaims_legible s.scopes
  have hall : ((s.user.scopedClaims s.scopes).insertAll
      (s.standardClaims settings now finish)).Sorted ∧
      ∀ m ∈ (s.user.scopedClaims s.scopes).insertAll (s.standardClaims settings now finish),
        LegibleMember m := by
    refine ⟨Members.sorted_insertAll hsorted _, fun m hm => ?_⟩
    rcases Members.mem_insertAll hm with hm | hm
    · exact s.standardClaims_legible settings now finish m hm
    · exact hscoped m hm
  unfold identityClaims insertNonce
  split
  · exact legible_of_members hall.1 hall.2
  · exact legible_of_members (Members.sorted_insert hall.1 _ _)
      (legibleMember_insert (legibleMember_string _ _) hall.2)

theorem standardClaims_exp :
    Members.get? "exp" (s.standardClaims settings now finish) = some (.ofInt finish.seconds) := by
  rw [standardClaims_eq]
  rfl

/-- The claims of every token prevail over those of scopes. -/
theorem get?_identityClaims {name : String} (hname : name ≠ "nonce") {v : Json}
    (h : Members.get? name (s.standardClaims settings now finish).reverse = some v) :
    Members.get? name (s.identityClaims settings now finish) = some v := by
  have hall : Members.get? name ((s.user.scopedClaims s.scopes).insertAll
      (s.standardClaims settings now finish)) = some v := by
    rw [Members.get?_insertAll, h]
    rfl
  unfold identityClaims insertNonce
  split
  · exact hall
  · rw [Members.get?_insert, if_neg hname, hall]

theorem identityClaims_exp :
    Members.get? "exp" (s.identityClaims settings now finish) = some (.ofInt finish.seconds) := by
  refine s.get?_identityClaims settings now finish (by decide) ?_
  rw [standardClaims_eq]
  rfl

/-- Claims that name a session, its user, the issuer and the client. -/
structure Claimed (claims : Members) : Prop where
  jti : claims.get? "jti" = some (.string s.id)
  sub : claims.get? "sub" = some (.string s.user.subject)
  iss : claims.get? "iss" = some (.string settings.issuer)
  aud : claims.get? "aud" = some (.string settings.clientId)

theorem claimed_standardClaims : s.Claimed settings (s.standardClaims settings now finish) := by
  rw [standardClaims_eq]
  exact ⟨rfl, rfl, rfl, rfl⟩

theorem claimed_identityClaims : s.Claimed settings (s.identityClaims settings now finish) := by
  constructor <;> refine s.get?_identityClaims settings now finish (by decide) ?_ <;>
    rw [standardClaims_eq] <;> rfl

theorem identityClaims_nonce :
    Members.get? "nonce" (s.identityClaims settings now finish) = s.nonce.map Json.string := by
  have hall : Members.get? "nonce" ((s.user.scopedClaims s.scopes).insertAll
      (s.standardClaims settings now finish)) = none := by
    rw [Members.get?_insertAll, User.get?_scopedClaims_of_not_mem (by decide), standardClaims_eq]
    rfl
  unfold identityClaims insertNonce
  cases s.nonce with
  | none => exact hall
  | some nonce => exact (Members.get?_insert ..).trans (if_pos rfl)

/-- The claims of an ID token that are not about its user. -/
def frameNames : List String := ["aud", "exp", "iat", "iss", "jti", "nbf", "nonce"]

/-- What an ID token tells of its user is what the scopes release. -/
theorem identityClaims_scoped {name : String} (h : name ∉ frameNames) :
    Members.get? name (s.identityClaims settings now finish) =
      Members.get? name (s.user.scopedClaims s.scopes) := by
  simp only [frameNames, List.mem_cons, List.not_mem_nil, or_false, not_or] at h
  obtain ⟨haud, hexp, hiat, hiss, hjti, hnbf, hnonce⟩ := h
  by_cases hsub : name = "sub"
  · subst hsub
    rw [(s.claimed_identityClaims settings now finish).sub,
      User.get?_scopedClaims_of_not_mem (by decide), if_pos rfl]
  · have hstandard :
        Members.get? name (s.standardClaims settings now finish).reverse = none := by
      rw [standardClaims_eq]
      simp [Members.get?, haud, hexp, hiat, hiss, hjti, hnbf, hsub]
    have hall : Members.get? name ((s.user.scopedClaims s.scopes).insertAll
        (s.standardClaims settings now finish)) =
          Members.get? name (s.user.scopedClaims s.scopes) := by
      rw [Members.get?_insertAll, hstandard]
      rfl
    unfold identityClaims insertNonce
    split
    · exact hall
    · rw [Members.get?_insert, if_neg hnonce, hall]

end Session

namespace Provider

/-- A number of seconds that an instant has is read from a claim as it was written. -/
theorem expiry?_of_exp {claims : Members} {finish : Instant}
    (h : claims.get? "exp" = some (.ofInt finish.seconds)) :
    expiry? claims = some finish.seconds := by
  obtain ⟨hlow, hhigh⟩ := finish.seconds_bounds
  have htruncate : (Binary64.ofInt finish.seconds).truncate = finish.seconds :=
    Binary64.truncate_ofInt (by omega)
  have hseconds : wholeSeconds (Binary64.ofInt finish.seconds) = finish.seconds := by
    have hclamp : max (-0x8000000000000000) (min 0x7FFFFFFFFFFFFFFF finish.seconds) =
        finish.seconds := by omega
    unfold wholeSeconds
    rw [htruncate]
    exact hclamp
  unfold expiry?
  rw [h]
  exact congrArg some hseconds

end Provider

end OpenIdProvider
