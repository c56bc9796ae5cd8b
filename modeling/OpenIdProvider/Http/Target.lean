/-
  Targets of requests: a path and a query, with or without a scheme and an authority before them.
-/
import OpenIdProvider.Text.Split
import OpenIdProvider.Text.Utf8

namespace OpenIdProvider.Http.Target

/-- What follows the scheme and the authority of a target, if it has them. -/
def dropAuthority : List Char → List Char
  | [] => []
  | '/' :: rest => '/' :: rest
  | cs =>
    match Split.splitOnce ':' cs with
    | some (_, '/' :: '/' :: rest) => rest.dropWhile fun c => !(c == '/' || c == '?' || c == '#')
    | _ => cs

/-- The path of a target, and the bytes of its query. A fragment is dropped. -/
def split (target : String) : String × Option (List UInt8) :=
  let cs := (dropAuthority target.toList).takeWhile fun c => c != '#'
  let (path, query) :=
    match Split.splitOnce '?' cs with
    | some (path, query) => (path, some (Utf8.encodeChars query))
    | none => (cs, none)
  (if path.isEmpty then "/" else String.ofList path, query)

end OpenIdProvider.Http.Target
