/-
  What an ID token and the answer about its user have in common. The claims of an ID token are
  those that the scopes release, which are all that is answered about the user, and a frame around
  them. No name is in both, so the two rounds in which the claims are set overwrite nothing.
-/
import OpenIdProvider.Proofs.Provider.Lifetime

namespace OpenIdProvider

namespace Session

section Frame

variable (s : Session) (settings : Settings) (now finish : Int)

/-- What an ID token that is made in a second and holds up to another one tells beside the claims
of its scopes. -/
def frame : Members :=
  [("aud", .string settings.clientId), ("exp", .ofInt finish), ("iat", .ofInt now),
    ("iss", .string settings.issuer), ("jti", .string s.id), ("nbf", .ofInt now)] ++
    s.nonce.toList.map fun nonce => ("nonce", .string nonce)

theorem frame_names :
    (s.frame settings now finish).map Prod.fst =
      if s.nonce.isSome then frameNames else frameNames.dropLast := by
  unfold frame
  cases s.nonce <;> rfl

theorem nodup_frame : ((s.frame settings now finish).map Prod.fst).Nodup := by
  rw [frame_names]
  split <;> decide

theorem not_mem_frame {name : String} (h : name ∉ frameNames) :
    Members.get? name (s.frame settings now finish) = none := by
  rw [Members.get?_eq_none_iff, frame_names]
  split
  · exact h
  · exact fun hmem => h (List.mem_of_mem_dropLast hmem)

/-- No scope releases a claim of the frame. -/
theorem get?_scopedClaims_frame {name : String} (h : name ∈ frameNames) :
    Members.get? name (s.user.scopedClaims s.scopes) = none := by
  have hframe : ∀ name ∈ frameNames, name ∉ User.releasedNames ∧ name ≠ "sub" := by decide
  rw [User.get?_scopedClaims_of_not_mem (hframe name h).1, if_neg (hframe name h).2]

theorem nodup_scopedClaims_frame :
    ((s.user.scopedClaims s.scopes ++ s.frame settings now finish).map Prod.fst).Nodup := by
  rw [List.map_append, List.nodup_append]
  refine ⟨Members.nodup_names (s.user.scopedClaims_legible s.scopes).1,
    s.nodup_frame settings now finish, ?_⟩
  rintro name hscoped _ hframe rfl
  by_cases hname : name ∈ frameNames
  · exact Members.get?_eq_none_iff.1 (s.get?_scopedClaims_frame hname) hscoped
  · exact Members.get?_eq_none_iff.1 (s.not_mem_frame settings now finish hname) hframe

end Frame

variable (s : Session) (settings : Settings) (now finish : Instant)

/-- Each claim of an ID token is one of its scopes or of its frame. -/
theorem get?_identityClaims_frame (name : String) :
    Members.get? name (s.identityClaims settings now finish) =
      Members.get? name
        (s.user.scopedClaims s.scopes ++ s.frame settings now.seconds finish.seconds) := by
  rw [Members.get?_append]
  by_cases hframe : name ∈ frameNames
  · rw [s.get?_scopedClaims_frame hframe, Option.none_or]
    by_cases hnonce : name = "nonce"
    · rw [hnonce, identityClaims_nonce]
      unfold frame
      cases s.nonce <;> rfl
    · simp only [frameNames, List.mem_cons, List.not_mem_nil, or_false, hnonce] at hframe
      rcases hframe with rfl | rfl | rfl | rfl | rfl | rfl <;>
        exact s.get?_identityClaims settings now finish hnonce (by rw [standardClaims_eq]; rfl)
  · rw [s.identityClaims_scoped settings now finish hframe,
      s.not_mem_frame settings now.seconds finish.seconds hframe, Option.or_none]

/-- The claims of an ID token are those of its scopes and those of its frame. No name is in both. -/
theorem perm_identityClaims :
    (s.identityClaims settings now finish).Perm
      (s.user.scopedClaims s.scopes ++ s.frame settings now.seconds finish.seconds) := by
  have hsorted : (s.identityClaims settings now finish).Sorted := by
    have hall := Members.sorted_insertAll (s.user.scopedClaims_legible s.scopes).1
      (s.standardClaims settings now finish)
    unfold identityClaims insertNonce
    split
    · exact hall
    · exact Members.sorted_insert hall _ _
  exact Members.perm_of_get? (Members.nodup_names hsorted)
    (s.nodup_scopedClaims_frame settings now.seconds finish.seconds)
    (s.get?_identityClaims_frame settings now finish)

end Session

namespace Provider

/-- The claims of an ID token that was made for a session at some time, beside what is answered
about the user of the session. -/
structure TellsSame (p : Provider) (session : Session) (now : Instant) (claims : Members) :
    Prop where
  /-- No claim is lost and none is added but those of the frame. -/
  perm : claims.Perm (session.user.scopedClaims session.scopes ++
    session.frame p.settings now.seconds (now.lastSecond p.settings.accessTtl))
  /-- No name is given twice, so that nothing is overwritten. -/
  distinct : ((session.user.scopedClaims session.scopes ++
    session.frame p.settings now.seconds (now.lastSecond p.settings.accessTtl)).map
      Prod.fst).Nodup
  sub : claims.get? "sub" = some (.string session.user.subject)
  sub_answered : Members.get? "sub" (session.user.scopedClaims session.scopes) =
    some (.string session.user.subject)
  answered : ∀ headers s token, bearerToken? headers = some token → p.Admits s token session →
    p.userinfo headers s = .ok (session.user.scopedClaims session.scopes)

/-- Every ID token tells what is answered about its user, and its frame. -/
theorem exists_tellsSame {p : Provider} (hkeys : p.keys.ReadsBack) {session : Session}
    {now : Instant} {token : String}
    (hmint : session.idToken p.settings p.keys now = .ok token) :
    ∃ claims, p.keys.Carries token claims ∧ p.TellsSame session now claims := by
  have hmade : TokenKind.identity.mint session p.settings p.keys now = .ok token := hmint
  obtain ⟨finish, hfinish, hcarries⟩ := TokenKind.carries_of_mint hkeys hmade
  have hend : finish.seconds = now.lastSecond p.settings.accessTtl :=
    Instant.seconds_of_plus? hfinish
  refine ⟨_, hcarries, hend ▸ session.perm_identityClaims p.settings now finish,
    session.nodup_scopedClaims_frame p.settings now.seconds _,
    (session.claimed_identityClaims p.settings now _).sub, ?_, ?_⟩
  · rw [User.get?_scopedClaims_of_not_mem (by decide), if_pos rfl]
  · intro headers s shown hshown hadmits
    exact userinfo_eq_ok_iff.2 ⟨shown, session, hshown, hadmits, rfl⟩

/-- A session whose scopes are repeated, with a nonce. -/
def nonceSession : Session := ⟨"c", ["openid", "email", "email"], some "n", .jane, true⟩

theorem exists_tellsSame_nonceSession :
    signingSample.keys.ReadsBack ∧ ∃ token claims,
      nonceSession.idToken signingSample.settings signingSample.keys sampleMade = .ok token ∧
        signingSample.keys.Carries token claims ∧
        signingSample.TellsSame nonceSession sampleMade claims := by
  have hkeys : signingSample.keys.ReadsBack := faithful_signingSample.readsBack
  obtain ⟨finish, hfinish⟩ : ∃ finish,
      sampleMade.plus? (TokenKind.identity.ttl signingSample.settings) = some finish :=
    Option.isSome_iff_exists.1 (by decide)
  obtain ⟨token, hmint⟩ :=
    TokenKind.identity.exists_mint faithful_signingSample nonceSession hfinish
  obtain ⟨claims, hclaims⟩ := exists_tellsSame hkeys hmint
  exact ⟨hkeys, token, claims, hmint, hclaims⟩

end Provider

end OpenIdProvider
