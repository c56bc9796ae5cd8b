/-
  The documents of a provider: the answer with tokens and the description of the provider. A value
  is read back from the document that is written of it, and whatever document a value was read from
  (with its members in any order, with others among them, or as an array), writing it and reading
  it again gives the same value, and so the same document a second time.
-/
import OpenIdProvider.Metadata
import OpenIdProvider.Proofs.Json.Record
import OpenIdProvider.TokenResponse

namespace OpenIdProvider

open Json Json.Reader
open Utf8 (encodeChars)

/-- Values of a kind that can be written and read: each is read back from its document, and what is
read from any document is read again from its own, which is then written a second time as it
was. -/
structure RoundTrips {α : Type} (write : α → List UInt8)
    (read : List UInt8 → Except Json.Error α) (Writable : α → Prop) : Prop where
  readBack : ∀ v, Writable v → read (write v) = .ok v
  again : ∀ document v, read document = .ok v →
    ∃ v', read (write v) = .ok v' ∧ v' = v ∧ write v' = write v

/-- It is enough that only what can be written is read. -/
theorem roundTrips_of_writable {α : Type} {write : α → List UInt8}
    {read : List UInt8 → Except Json.Error α} {Writable : α → Prop}
    (hback : ∀ v, Writable v → read (write v) = .ok v)
    (hwritable : ∀ document v, read document = .ok v → Writable v) :
    RoundTrips write read Writable :=
  ⟨hback, fun document v h => ⟨v, hback v (hwritable document v h), rfl, rfl⟩⟩

/-- The members of an object. -/
def Json.members : Json → List (String × Json)
  | .object ms => ms
  | _ => []

/-! ## Integers -/

theorem Json.Reader.exists_of_int64 {bs rest : List UInt8} {v : Json}
    (h : int64 bs = .ok (v, rest)) : ∃ i, IsInt64 i ∧ v = .ofInt i := by
  unfold int64 at h
  extract_lets check at h
  -- both signs are followed by the same test of the number
  have hcheck {read : Number × List UInt8} (h : check read = .ok (v, rest)) :
      ∃ i, IsInt64 i ∧ v = .ofInt i := by
    obtain ⟨n, rest'⟩ := read
    cases n with
    | float x => cases h
    | int i =>
      simp only [check] at h
      split at h
      · rename_i hrange
        cases h
        exact ⟨i, hrange, rfl⟩
      · cases h
  split at h
  · split at h
    · obtain ⟨read, -, h⟩ := bind_eq_ok.1 h
      exact hcheck h
    · split at h
      · obtain ⟨read, -, h⟩ := bind_eq_ok.1 h
        exact hcheck h
      · exact absurd h (Shape.mismatch_ne_ok _ _ _)
  · exact absurd h (Shape.mismatch_ne_ok _ _ _)

/-! ## Tokens -/

namespace TokenResponse

/-- The document of an answer with tokens. -/
def document (r : TokenResponse) : List UInt8 := encodeChars r.toJson.chars

/-- An answer whose number of seconds has at most 64 bits. -/
def Writable (r : TokenResponse) : Prop := IsInt64 r.expiresIn

theorem nodup_names (r : TokenResponse) : (r.toJson.members.map Prod.fst).Nodup := by
  have hshort : ["access_token", "refresh_token", "token_type", "expires_in"].Nodup := by decide
  have hlong : ["access_token", "id_token", "refresh_token", "token_type", "expires_in"].Nodup := by
    decide
  unfold toJson
  cases r.idToken with
  | none => exact hshort
  | some token => exact hlong

theorem reads_members {r : TokenResponse} (h : r.Writable) :
    ∀ m ∈ r.toJson.members, shape.Reads (depthLimit - 1) m := by
  have haccess : shape.Reads (depthLimit - 1) ("access_token", .string r.accessToken) :=
    Shape.reads_text (i := 0) (by decide) rfl rfl r.accessToken
  have hid (token : String) : shape.Reads (depthLimit - 1) ("id_token", .string token) :=
    Shape.reads_optional_text (i := 1) (by decide) rfl rfl token
  have hrefresh : shape.Reads (depthLimit - 1) ("refresh_token", .string r.refreshToken) :=
    Shape.reads_text (i := 2) (by decide) rfl rfl r.refreshToken
  have htype : shape.Reads (depthLimit - 1) ("token_type", .string r.tokenType) :=
    Shape.reads_text (i := 3) (by decide) rfl rfl r.tokenType
  have hexpires : shape.Reads (depthLimit - 1) ("expires_in", .ofInt r.expiresIn) :=
    Shape.reads_of_place (i := 4) (by decide) rfl fun _ hrest => int64_chars h hrest
  have hback : ∀ m ∈ [("refresh_token", Json.string r.refreshToken),
      ("token_type", .string r.tokenType), ("expires_in", .ofInt r.expiresIn)],
      shape.Reads (depthLimit - 1) m := by
    simp only [List.forall_mem_cons]
    exact ⟨hrefresh, htype, hexpires, List.forall_mem_nil _⟩
  unfold toJson
  cases r.idToken with
  | none => exact List.forall_mem_cons.2 ⟨haccess, hback⟩
  | some token =>
    exact List.forall_mem_cons.2 ⟨haccess, List.forall_mem_cons.2 ⟨hid token, hback⟩⟩

/-- The slots that the document fills. -/
theorem fill_members (r : TokenResponse) :
    shape.fill shape.empty r.toJson.members =
      [some (.string r.accessToken), r.idToken.map .string, some (.string r.refreshToken),
        some (.string r.tokenType), some (.ofInt r.expiresIn)] := by
  unfold toJson
  cases r.idToken <;> rfl

theorem parse_document {r : TokenResponse} (h : r.Writable) : parse r.document = .ok r := by
  have hmissing :
      Shape.missing? shape.fields (shape.fill shape.empty r.toJson.members) = none := by
    rw [fill_members]
    cases r.idToken <;> rfl
  have hslots := Shape.parse_object (nodup_names r) (reads_members h) hmissing
  unfold parse
  rw [show r.document = encodeChars (Json.object r.toJson.members).chars from rfl, hslots,
    fill_members]
  obtain ⟨accessToken, idToken, refreshToken, tokenType, expiresIn⟩ := r
  cases idToken <;> rfl

theorem writable_of_parse {document : List UInt8} {r : TokenResponse}
    (h : parse document = .ok r) : r.Writable := by
  obtain ⟨slots, hslots, rfl⟩ := map_eq_ok.1 h
  have hfilled := Shape.filled_of_parse hslots
  show IsInt64 (intOf (slots.getD 4 none))
  have hzero : IsInt64 0 := by decide
  cases hslot : slots[4]? with
  | none =>
    rw [List.getD_eq_getElem?_getD, hslot]
    exact hzero
  | some slot =>
    rw [List.getD_eq_getElem?_getD, hslot]
    cases slot with
    | none => exact hzero
    | some v =>
      obtain ⟨levels, bs, rest, hread⟩ := hfilled 4 _ v rfl hslot
      obtain ⟨i, hi, rfl⟩ := exists_of_int64 hread
      exact hi

end TokenResponse

/-! ## The description of a provider -/

namespace Metadata

/-- The document of a description. -/
def document (m : Metadata) : List UInt8 := encodeChars m.toJson.chars

theorem names_members (m : Metadata) :
    shape.fields.map Field.name = m.toJson.members.map Prod.fst := rfl

theorem nodup_names (m : Metadata) : (m.toJson.members.map Prod.fst).Nodup := by
  rw [← names_members]
  decide

theorem reads_members (m : Metadata) : ∀ n ∈ m.toJson.members, shape.Reads (depthLimit - 1) n := by
  have htext (name s : String) (i : Nat) (hplace : shape.place? name = some i)
      (hfield : shape.fields[i]? = some (textField name)) :
      shape.Reads (depthLimit - 1) (name, .string s) :=
    Shape.reads_text hplace hfield rfl s
  have htexts (name : String) (ss : List String) (i : Nat) (hplace : shape.place? name = some i)
      (hfield : shape.fields[i]? = some (textsField name)) :
      shape.Reads (depthLimit - 1) (name, ofStrings ss) :=
    Shape.reads_texts (depthLimit - 2) hplace hfield rfl ss
  simp only [toJson, Json.members, List.forall_mem_cons]
  exact ⟨htext _ _ 0 (by decide) rfl, htext _ _ 1 (by decide) rfl, htext _ _ 2 (by decide) rfl,
    htext _ _ 3 (by decide) rfl, htext _ _ 4 (by decide) rfl, htexts _ _ 5 (by decide) rfl,
    htexts _ _ 6 (by decide) rfl, htexts _ _ 7 (by decide) rfl, htexts _ _ 8 (by decide) rfl,
    htexts _ _ 9 (by decide) rfl, htexts _ _ 10 (by decide) rfl, htexts _ _ 11 (by decide) rfl,
    List.forall_mem_nil _⟩

theorem textsOf_ofStrings (ss : List String) : textsOf (some (ofStrings ss)) = ss := by
  show (ss.map Json.string).filterMap asString? = ss
  rw [List.filterMap_map]
  exact List.filterMap_some

theorem parse_document (m : Metadata) : parse m.document = .ok m := by
  have hfill := Shape.fill_of_names m.names_members m.nodup_names
  have hmissing :
      Shape.missing? shape.fields (shape.fill shape.empty m.toJson.members) = none := by
    rw [hfill]
    refine Shape.missing?_of_full (fun slot hslot => ?_) _
    obtain ⟨n, -, rfl⟩ := List.mem_map.1 hslot
    rfl
  have hslots := Shape.parse_object m.nodup_names m.reads_members hmissing
  unfold parse
  rw [show m.document = encodeChars (Json.object m.toJson.members).chars from rfl, hslots, hfill]
  simp only [Except.map, toJson, Json.members, List.map_cons, List.map_nil, List.getD_cons_zero,
    List.getD_cons_succ, textsOf_ofStrings]
  rfl

end Metadata

/-- Both kinds of documents are read back, and once read they are written and read without end as
the same value and the same text. -/
theorem documents_roundTrip :
    RoundTrips TokenResponse.document TokenResponse.parse TokenResponse.Writable ∧
      RoundTrips Metadata.document Metadata.parse fun _ => True :=
  ⟨roundTrips_of_writable (fun _ => TokenResponse.parse_document)
      fun _ _ => TokenResponse.writable_of_parse,
    roundTrips_of_writable (fun m _ => m.parse_document) fun _ _ _ => trivial⟩

/-- What was read from an array is written as an object. -/
example : (TokenResponse.parse (Utf8.encode "[\"a\",null,\"r\",\"bearer\",-1]")).toOption.map
      TokenResponse.document =
    some (Utf8.encode ("\x7b\"access_token\":\"a\",\"refresh_token\":\"r\"," ++
      "\"token_type\":\"bearer\",\"expires_in\":-1\x7d")) := by
  decide +kernel

end OpenIdProvider
