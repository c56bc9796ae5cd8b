/-
  The session store as a map. `get?` is its view: `put` changes the entry of one identifier and
  no other, `create` puts a session that is not granted under the next identifier, and `grant`
  puts the stored session back as granted. No operation removes an entry.
-/
import OpenIdProvider.Session.Store

namespace OpenIdProvider.SessionStore

/-! ## Putting and looking up -/

theorem find_putIn (session : Session) (sessions : List Session) (id : String) :
    (putIn session sessions).find? (fun other => other.id == id) =
      if session.id = id then some session else sessions.find? fun other => other.id == id := by
  induction sessions with
  | nil => by_cases h : session.id = id <;> simp [putIn, h]
  | cons other rest ih =>
    by_cases hid : other.id = session.id
    · rw [putIn, if_pos hid]
      by_cases h : session.id = id <;> simp [hid, h]
    · rw [putIn, if_neg hid, List.find?_cons, List.find?_cons, ih]
      by_cases h : session.id = id
      · subst h
        have : (other.id == session.id) = false := by simpa using hid
        simp [this]
      · simp [h]

theorem get?_put (s : SessionStore) (session : Session) (id : String) :
    (s.put session).get? id = if session.id = id then some session else s.get? id :=
  find_putIn session s.sessions id

@[simp] theorem get?_empty (id : String) : empty.get? id = none := rfl

@[simp] theorem put_codes (s : SessionStore) (session : Session) :
    (s.put session).codes = s.codes := rfl

@[simp] theorem put_drawn (s : SessionStore) (session : Session) :
    (s.put session).drawn = s.drawn := rfl

/-- An entry is found under the identifier of its session. -/
theorem id_of_get? {s : SessionStore} {id : String} {session : Session}
    (h : s.get? id = some session) : session.id = id := by
  have := List.find?_some h
  simpa using this

/-! ## Creating -/

@[simp] theorem nextId_get? (random : Nat → String) (s : SessionStore) (id : String) :
    (s.nextId random).2.get? id = s.get? id := by
  unfold nextId
  split <;> rfl

theorem create_fst (random : Nat → String) (s : SessionStore) (scopes : List String)
    (nonce : Option String) (user : User) :
    (s.create random scopes nonce user).1 =
      ⟨(s.nextId random).1, scopes, nonce, user, false⟩ := rfl

theorem create_snd (random : Nat → String) (s : SessionStore) (scopes : List String)
    (nonce : Option String) (user : User) :
    (s.create random scopes nonce user).2 =
      (s.nextId random).2.put (s.create random scopes nonce user).1 := rfl

theorem create_get? (random : Nat → String) (s : SessionStore) (scopes : List String)
    (nonce : Option String) (user : User) (id : String) :
    (s.create random scopes nonce user).2.get? id =
      if (s.create random scopes nonce user).1.id = id then
        some (s.create random scopes nonce user).1
      else s.get? id := by
  rw [create_snd, get?_put, nextId_get?]

/-- The identifier is the oldest queued code, and a random one only when no code waits. -/
theorem nextId_cons (random : Nat → String) {s : SessionStore} {code : String}
    {codes : List String} (h : s.codes.items = code :: codes) :
    s.nextId random = (code, { s with codes := ⟨codes⟩ }) := by
  unfold nextId Queue.pop
  rw [h]

theorem nextId_nil (random : Nat → String) {s : SessionStore} (h : s.codes.items = []) :
    s.nextId random = (random s.drawn, { s with drawn := s.drawn + 1 }) := by
  unfold nextId Queue.pop
  rw [h]

/-- Creating always uses something up: a queued code or a random identifier. -/
theorem create_ne (random : Nat → String) (s : SessionStore) (scopes : List String)
    (nonce : Option String) (user : User) : (s.create random scopes nonce user).2 ≠ s := by
  intro h
  cases hc : s.codes.items with
  | nil =>
    have hd := congrArg SessionStore.drawn h
    rw [create_snd, nextId_nil random hc, put_drawn] at hd
    exact absurd hd (Nat.succ_ne_self _)
  | cons code codes =>
    have hq := congrArg (fun t => t.codes.items.length) h
    rw [create_snd, nextId_cons random hc] at hq
    simp [hc] at hq

/-! ## Granting -/

/-- A code is redeemed exactly when a session that is not granted is stored under it. -/
theorem grant_eq_ok_iff {s : SessionStore} {id : String} {session : Session}
    {store : SessionStore} :
    s.grant id = .ok (session, store) ↔
      ∃ stored, s.get? id = some stored ∧ stored.granted = false ∧
        session = { stored with granted := true } ∧ store = s.put session := by
  unfold grant
  cases hs : s.get? id with
  | none => simp
  | some stored =>
    simp only [Option.some.injEq]
    constructor
    · intro h
      by_cases hg : stored.granted
      · rw [if_pos hg] at h
        cases h
      · rw [if_neg hg] at h
        cases h
        exact ⟨stored, rfl, by simpa using hg, rfl, rfl⟩
    · rintro ⟨other, rfl, hg, rfl, rfl⟩
      rw [if_neg (by simp [hg])]

theorem grant_of_granted {s : SessionStore} {id : String} {stored : Session}
    (h : s.get? id = some stored) (hg : stored.granted = true) :
    s.grant id = .error (.alreadyGranted id) := by
  unfold grant
  rw [h]
  simp [hg]

/-- The stored session of the code is the granted one from then on, and no other changes. -/
theorem grant_get? {s store : SessionStore} {code : String} {session : Session}
    (h : s.grant code = .ok (session, store)) (id : String) :
    store.get? id = if code = id then some session else s.get? id := by
  obtain ⟨stored, hstored, -, rfl, rfl⟩ := grant_eq_ok_iff.1 h
  rw [get?_put]
  have hid : stored.id = code := id_of_get? hstored
  simp only [hid]

theorem granted_of_grant {s store : SessionStore} {code : String} {session : Session}
    (h : s.grant code = .ok (session, store)) : session.granted = true := by
  obtain ⟨stored, -, -, rfl, -⟩ := grant_eq_ok_iff.1 h
  rfl

theorem grant_codes {s store : SessionStore} {code : String} {session : Session}
    (h : s.grant code = .ok (session, store)) : store.codes = s.codes ∧ store.drawn = s.drawn := by
  obtain ⟨stored, -, -, rfl, rfl⟩ := grant_eq_ok_iff.1 h
  exact ⟨rfl, rfl⟩

/-- Redeeming neither adds nor removes a session. -/
theorem isSome_get?_of_grant {s store : SessionStore} {code : String} {session : Session}
    (h : s.grant code = .ok (session, store)) (id : String) :
    (store.get? id).isSome = (s.get? id).isSome := by
  rw [grant_get? h]
  by_cases hid : code = id
  · obtain ⟨stored, hstored, -⟩ := grant_eq_ok_iff.1 h
    rw [if_pos hid, ← hid, hstored]
    rfl
  · rw [if_neg hid]

/-! ## Distinct identifiers -/

/-- No two sessions of the store have one identifier. -/
def Keyed (s : SessionStore) : Prop := (s.sessions.map Session.id).Nodup

theorem keyed_empty : empty.Keyed := List.nodup_nil

theorem putIn_ids (session : Session) (sessions : List Session) :
    (putIn session sessions).map Session.id =
      if session.id ∈ sessions.map Session.id then sessions.map Session.id
      else sessions.map Session.id ++ [session.id] := by
  induction sessions with
  | nil => rfl
  | cons other rest ih =>
    by_cases hid : other.id = session.id
    · rw [putIn, if_pos hid, List.map_cons, List.map_cons, hid, if_pos List.mem_cons_self]
    · rw [putIn, if_neg hid, List.map_cons, List.map_cons, ih]
      by_cases hmem : session.id ∈ rest.map Session.id
      · rw [if_pos hmem, if_pos (List.mem_cons_of_mem _ hmem)]
      · have hmem' : session.id ∉ other.id :: rest.map Session.id := by
          rw [List.mem_cons, not_or]
          exact ⟨Ne.symm hid, hmem⟩
        rw [if_neg hmem, if_neg hmem', List.cons_append]

theorem keyed_put {s : SessionStore} (h : s.Keyed) (session : Session) :
    (s.put session).Keyed := by
  show ((putIn session s.sessions).map Session.id).Nodup
  rw [putIn_ids]
  split
  · exact h
  · rename_i hmem
    rw [List.nodup_append]
    refine ⟨h, List.nodup_cons.2 ⟨List.not_mem_nil, List.nodup_nil⟩, fun id hid other hother => ?_⟩
    rw [List.mem_singleton.1 hother]
    exact fun heq => hmem (heq ▸ hid)

theorem keyed_create {s : SessionStore} (h : s.Keyed) (random : Nat → String)
    (scopes : List String) (nonce : Option String) (user : User) :
    (s.create random scopes nonce user).2.Keyed := by
  rw [create_snd]
  refine keyed_put ?_ _
  unfold nextId
  split <;> exact h

theorem find?_of_nodup {sessions : List Session} (h : (sessions.map Session.id).Nodup)
    {session : Session} (hmem : session ∈ sessions) :
    (sessions.find? fun other => other.id == session.id) = some session := by
  induction sessions with
  | nil => cases hmem
  | cons other rest ih =>
    obtain ⟨hother, hrest⟩ := List.nodup_cons.1 h
    rcases List.mem_cons.1 hmem with rfl | hmem
    · exact List.find?_cons_of_pos (by simp)
    · have hne : other.id ≠ session.id := fun heq => hother (heq ▸ List.mem_map_of_mem hmem)
      rw [List.find?_cons_of_neg (by simpa using hne)]
      exact ih hrest hmem

/-- Where identifiers are distinct, the sessions of the store are its entries. -/
theorem get?_eq_some_iff_of_keyed {s : SessionStore} (h : s.Keyed) {id : String}
    {session : Session} : s.get? id = some session ↔ session ∈ s.sessions ∧ session.id = id := by
  constructor
  · intro hget
    exact ⟨List.mem_of_find?_eq_some hget, id_of_get? hget⟩
  · rintro ⟨hmem, rfl⟩
    exact find?_of_nodup h hmem

end OpenIdProvider.SessionStore
