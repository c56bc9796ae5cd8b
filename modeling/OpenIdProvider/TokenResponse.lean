/-
  What a client gets for a grant: its tokens, and how long the access token holds.
-/
import OpenIdProvider.Json.Record

namespace OpenIdProvider

structure TokenResponse where
  accessToken : String
  idToken : Option String
  refreshToken : String
  tokenType : String
  /-- Seconds. -/
  expiresIn : Int
deriving DecidableEq, Repr

namespace TokenResponse

/-- The type of the tokens of this provider. -/
def bearer : String := "bearer"

/-- An absent ID token is left out. -/
def toJson (r : TokenResponse) : Json :=
  let idToken :=
    match r.idToken with
    | none => []
    | some token => [("id_token", Json.string token)]
  .object ([("access_token", .string r.accessToken)] ++ idToken ++
    [("refresh_token", .string r.refreshToken), ("token_type", .string r.tokenType),
      ("expires_in", .ofInt r.expiresIn)])

open Json.Reader in
def shape : Json.Shape where
  name := "struct TokenResponse"
  fields :=
    [⟨"access_token", false, false, fun _ => text⟩,
      ⟨"id_token", true, true, fun _ => optional text⟩,
      ⟨"refresh_token", false, false, fun _ => text⟩,
      ⟨"token_type", false, false, fun _ => text⟩,
      ⟨"expires_in", false, false, fun _ => int64⟩]

def textOf : Option Json → String
  | some (.string s) => s
  | _ => ""

def intOf : Option Json → Int
  | some (.number (.int i)) => i
  | _ => 0

/-- Reads a response. -/
def parse (bytes : List UInt8) : Except Json.Error TokenResponse :=
  (shape.parse bytes).map fun slots =>
    let slot (i : Nat) : Option Json := slots.getD i none
    ⟨textOf (slot 0), (slot 1).bind Json.asString?, textOf (slot 2), textOf (slot 3),
      intOf (slot 4)⟩

end TokenResponse

end OpenIdProvider
