/-
  What scopes release of a user. Each scope adds the claims of its own data, one after the other,
  to a map that starts with the subject. A claim is named for its datum, so that setting it again
  changes nothing: what is released is given by the set of the scopes, and more scopes release
  more.
-/
import OpenIdProvider.Metadata
import OpenIdProvider.Proofs.Session.Claims

namespace OpenIdProvider.User

/-- The claims that one scope gives of a user: those of the data that are not empty. -/
inductive Gives (u : User) : String → String → Json → Prop
  | preferredUsername (h : u.preferredUsername ≠ "") :
      Gives u "profile" "preferred_username" (.string u.preferredUsername)
  | phone (h : u.phone ≠ "") : Gives u "profile" "phone_number" (.string u.phone)
  | address (h : u.address ≠ "") : Gives u "profile" "address" (.string u.address)
  | email (h : u.email ≠ "") : Gives u "email" "email" (.string u.email)
  | emailVerified : Gives u "email" "email_verified" (.bool u.emailVerified)
  | groups (h : u.groups ≠ []) : Gives u "groups" "groups" (.array (u.groups.map .string))

/-- The scopes that give something. -/
def givingScopes : List String := [Scope.profile, Scope.email, Scope.groups]

/-- The value of a claim that a scope may give. -/
def datum (u : User) : String → Json
  | "preferred_username" => .string u.preferredUsername
  | "phone_number" => .string u.phone
  | "address" => .string u.address
  | "email" => .string u.email
  | "email_verified" => .bool u.emailVerified
  | "groups" => .array (u.groups.map .string)
  | _ => .null

variable {u : User} {scope name : String} {v : Json}

theorem Gives.eq_datum (h : u.Gives scope name v) : v = u.datum name := by
  cases h <;> rfl

/-- A claim has one value, whichever scope gives it. -/
theorem Gives.unique {other : String} {w : Json} (h : u.Gives scope name v)
    (hother : u.Gives other name w) : v = w :=
  h.eq_datum.trans hother.eq_datum.symm

theorem Gives.mem_givingScopes (h : u.Gives scope name v) : scope ∈ givingScopes := by
  cases h <;> decide

theorem Gives.mem_releasedNames (h : u.Gives scope name v) : name ∈ releasedNames := by
  cases h <;> decide

theorem not_gives_sub : ¬ u.Gives scope "sub" v :=
  fun h => absurd h.mem_releasedNames (by decide)

/-! ## One scope -/

theorem get?_insertText (text value other : String) (ms : Members) :
    (insertText text value ms).get? other =
      if other = text ∧ value ≠ "" then some (.string value) else ms.get? other := by
  unfold insertText
  by_cases hvalue : value = ""
  · rw [if_pos hvalue, if_neg fun h => h.2 hvalue]
  · rw [if_neg hvalue, Members.get?_insert]
    exact if_congr (and_iff_left hvalue).symm rfl rfl

/-- A scope sets the claims that it gives. -/
theorem get?_release_of_gives (h : u.Gives scope name v) (ms : Members) :
    (u.release ms scope).get? name = some v := by
  cases h <;>
    simp [release, Scope.profile, Scope.email, Scope.groups, Json.ofStrings, get?_insertText,
      Members.get?_insert, *]

/-- It leaves all others as they are. -/
theorem get?_release_of_not_gives (h : ∀ w, ¬ u.Gives scope name w) (ms : Members) :
    (u.release ms scope).get? name = ms.get? name := by
  have htext : ∀ {text value : String} (ms : Members),
      (value ≠ "" → u.Gives scope text (.string value)) →
        (insertText text value ms).get? name = ms.get? name := by
    intro text value ms hgives
    rw [get?_insertText, if_neg]
    rintro ⟨rfl, hvalue⟩
    exact h _ (hgives hvalue)
  have hset : ∀ {text : String} {value : Json} (ms : Members), u.Gives scope text value →
      (ms.insert text value).get? name = ms.get? name := by
    intro text value ms hgives
    rw [Members.get?_insert, if_neg]
    rintro rfl
    exact h _ hgives
  unfold release
  by_cases hprofile : scope = Scope.profile
  · subst hprofile
    rw [if_pos rfl, htext _ .address, htext _ .phone, htext _ .preferredUsername]
  rw [if_neg hprofile]
  by_cases hemail : scope = Scope.email
  · subst hemail
    rw [if_pos rfl, hset _ .emailVerified, htext _ .email]
  rw [if_neg hemail]
  by_cases hgroups : scope = Scope.groups
  · subst hgroups
    rw [if_pos rfl]
    split
    · rfl
    · rename_i hne
      exact hset ms (.groups hne)
  · rw [if_neg hgroups]

/-! ## Lists of scopes -/

/-- A claim that is set stays, as every scope that sets it again gives the same value. -/
theorem get?_foldl_release (h : u.Gives scope name v) (scopes : List String) {ms : Members}
    (hms : ms.get? name = some v) : (scopes.foldl u.release ms).get? name = some v := by
  refine List.foldlRecOn (motive := fun ms => ms.get? name = some v) scopes u.release hms
    fun ms hms other _ => ?_
  by_cases hother : ∃ w, u.Gives other name w
  · obtain ⟨w, hw⟩ := hother
    rw [get?_release_of_gives hw, hw.unique h]
  · rw [get?_release_of_not_gives (not_exists.1 hother), hms]

theorem get?_scopedClaims_of_gives (h : u.Gives scope name v) {scopes : List String}
    (hmem : scope ∈ scopes) : (u.scopedClaims scopes).get? name = some v := by
  obtain ⟨front, back, rfl⟩ := List.append_of_mem hmem
  unfold scopedClaims
  rw [List.foldl_append, List.foldl_cons]
  exact get?_foldl_release h back (get?_release_of_gives h _)

theorem get?_scopedClaims_of_not_gives {scopes : List String}
    (h : ∀ scope ∈ scopes, ∀ w, ¬ u.Gives scope name w) :
    (u.scopedClaims scopes).get? name =
      if name = "sub" then some (.string u.subject) else none :=
  get?_scopedClaims_of_get?_release fun scope hscope => get?_release_of_not_gives (h scope hscope)

variable (u) (scopes : List String)

theorem scopedClaims_nodup : ((u.scopedClaims scopes).map Prod.fst).Nodup :=
  Members.nodup_names (u.scopedClaims_legible scopes).1

/-- The claims are the subject and what one of the scopes gives. -/
theorem mem_scopedClaims_iff :
    (name, v) ∈ u.scopedClaims scopes ↔
      name = "sub" ∧ v = .string u.subject ∨ ∃ scope ∈ scopes, u.Gives scope name v := by
  rw [Members.mem_iff_get? (u.scopedClaims_nodup scopes)]
  by_cases hgiven : ∃ scope ∈ scopes, ∃ w, u.Gives scope name w
  · obtain ⟨scope, hmem, w, hw⟩ := hgiven
    have hsub : name ≠ "sub" := fun h => not_gives_sub (h ▸ hw)
    rw [get?_scopedClaims_of_gives hw hmem]
    constructor
    · intro h
      obtain rfl := Option.some.inj h
      exact .inr ⟨scope, hmem, hw⟩
    · rintro (⟨h, -⟩ | ⟨other, -, hother⟩)
      · exact absurd h hsub
      · exact congrArg some (hw.unique hother)
  · have hnone : ∀ scope ∈ scopes, ∀ w, ¬ u.Gives scope name w :=
      fun scope hmem w hw => hgiven ⟨scope, hmem, w, hw⟩
    rw [get?_scopedClaims_of_not_gives hnone]
    constructor
    · intro h
      split at h
      · rename_i hname
        exact .inl ⟨hname, (Option.some.inj h).symm⟩
      · cases h
    · rintro (⟨rfl, rfl⟩ | ⟨scope, hmem, hw⟩)
      · rfl
      · exact absurd hw (hnone scope hmem v)

/-- More scopes release more claims. -/
theorem scopedClaims_subset {scopes others : List String} (h : scopes ⊆ others) :
    u.scopedClaims scopes ⊆ u.scopedClaims others := by
  rintro ⟨name, v⟩ hmem
  rw [mem_scopedClaims_iff] at hmem ⊢
  exact hmem.imp_right fun ⟨scope, hscope, hgives⟩ => ⟨scope, h hscope, hgives⟩

/-- Lists with the same giving scopes release the same claims, in the same order. -/
theorem scopedClaims_congr {scopes others : List String}
    (h : ∀ scope ∈ givingScopes, scope ∈ scopes ↔ scope ∈ others) :
    u.scopedClaims scopes = u.scopedClaims others := by
  have hsame : ∀ m, m ∈ u.scopedClaims scopes ↔ m ∈ u.scopedClaims others := by
    rintro ⟨name, v⟩
    rw [mem_scopedClaims_iff, mem_scopedClaims_iff]
    refine or_congr_right (exists_congr fun scope => and_congr_left fun hgives => ?_)
    exact h scope hgives.mem_givingScopes
  have hperm : (u.scopedClaims scopes).Perm (u.scopedClaims others) :=
    (List.perm_ext_iff_of_nodup (u.scopedClaims_nodup scopes).of_map
      (u.scopedClaims_nodup others).of_map).2 hsame
  refine hperm.eq_of_pairwise (fun m n _ _ hlt hgt => ?_) (u.scopedClaims_legible scopes).1
    (u.scopedClaims_legible others).1
  exact absurd hlt (String.lt_asymm hgt)

/-- What is released is given by the set of the scopes. -/
structure ReleasedBySet : Prop where
  /-- The subject always, and what each scope gives; nothing else. -/
  mem_iff : ∀ name v, (name, v) ∈ u.scopedClaims scopes ↔
    name = "sub" ∧ v = .string u.subject ∨ ∃ scope ∈ scopes, u.Gives scope name v
  /-- No claim is given two values. -/
  distinct : ((u.scopedClaims scopes).map Prod.fst).Nodup
  /-- The order and the repetitions of scopes do not matter, nor do those that give nothing. -/
  congr : ∀ others : List String,
    (∀ scope ∈ givingScopes, scope ∈ scopes ↔ scope ∈ others) →
      u.scopedClaims others = u.scopedClaims scopes
  /-- More scopes add claims and change none. -/
  mono : ∀ others : List String, scopes ⊆ others → ∀ name v,
    (u.scopedClaims scopes).get? name = some v → (u.scopedClaims others).get? name = some v
  supported : ∀ name v, (name, v) ∈ u.scopedClaims scopes → name ∈ Metadata.supportedClaims

theorem releasedBySet : u.ReleasedBySet scopes where
  mem_iff name v := u.mem_scopedClaims_iff scopes
  distinct := u.scopedClaims_nodup scopes
  congr others h := (u.scopedClaims_congr h).symm
  mono others h name v hv := by
    rw [← Members.mem_iff_get? (u.scopedClaims_nodup _)] at hv ⊢
    exact u.scopedClaims_subset h hv
  supported name v hmem := by
    rcases (u.mem_scopedClaims_iff scopes).1 hmem with ⟨rfl, -⟩ | ⟨scope, -, hgives⟩
    · decide
    · cases hgives <;> decide

end OpenIdProvider.User
