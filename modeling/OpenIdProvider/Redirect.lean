/-
  The redirect back to the client: its own target with the code and the state in the query. Other
  pairs of the query are kept, and all are sorted by name. A relative target stays relative.
-/
import OpenIdProvider.Codec.Form
import OpenIdProvider.Url.Parser

namespace OpenIdProvider.Redirect

/-- Inserts a pair behind those whose names are not greater. -/
def insertPair (p : String × String) : List (String × String) → List (String × String)
  | [] => [p]
  | q :: qs => if p.1 < q.1 then p :: q :: qs else q :: insertPair p qs

/-- Sorts pairs by name; pairs of one name keep their order. -/
def sortPairs (ps : List (String × String)) : List (String × String) :=
  ps.foldl (fun sorted p => insertPair p sorted) []

/-- The pairs of a query in which the code and the state have replaced those of their names. -/
def mergePairs (ps : List (String × String)) (code state : String) : List (String × String) :=
  sortPairs (ps.filter (fun p => !(p.1 == "code" || p.1 == "state")) ++
    [("code", code), ("state", state)])

/-- A URL with the code and the state in its query. -/
def merge (u : Url) (code state : String) : Url :=
  let pairs := Form.decode (Utf8.encodeChars (u.query.getD []))
  { u with query := some (Form.encode (mergePairs pairs code state)) }

/-- The path of the endpoint that sends the redirects. -/
def endpointPath : List Char := "/oidc/authorize".toList

/-- The stand-in host that relative targets are resolved against. -/
def standInHost : Url.Host := .name "relative.invalid".toList

/-- The stand-in URL that relative targets are resolved against. -/
def standIn : Url where
  scheme := "http".toList
  authority := some ⟨[], [], some standInHost, none⟩
  path := endpointPath
  query := none
  fragment := none

/-- A resolved target as a reference: without the stand-in host, or with the host of its own. -/
def relativeText (u : Url) : List Char :=
  if u.host?.map Url.Host.text = some standInHost.text then u.path ++ u.afterPath
  else u.beforePath ++ u.path ++ u.afterPath

/-- The target with the code and the state. -/
def location (target code state : String) : Except Url.Error String :=
  match Url.parse target with
  | .ok u => .ok (String.ofList (merge u code state).text)
  | .error .relativeWithoutBase =>
    (Url.resolve standIn target).map fun u =>
      String.ofList (relativeText (merge u code state))
  | .error e => .error e

end OpenIdProvider.Redirect
