/-
  The configuration of the program, and how it is read from YAML. Whatever is not written has a
  default.
-/
import OpenIdProvider.User.Document

namespace OpenIdProvider

namespace Config

/-- Where the server listens, and the address at which the outside sees it. -/
structure Listener where
  bindAddress : String := "127.0.0.1:8080"
  publicUrl : Option String := none
deriving DecidableEq, Repr

/-- The credentials of the client. Absent ones are made up. -/
structure Client where
  clientId : Option String := none
  clientSecret : Option String := none
deriving DecidableEq, Repr

/-- The lifetimes of tokens in seconds. -/
structure Lifetimes where
  accessTtl : Nat := 600
  refreshTtl : Nat := 3600
deriving DecidableEq, Repr

structure Logging where
  level : String := "info"
  jsonFormat : Bool := false
deriving DecidableEq, Repr

end Config

/-- The configuration of the program. -/
structure Config where
  server : Config.Listener := {}
  client : Config.Client := {}
  tokens : Config.Lifetimes := {}
  /-- The file of the signing key. Without one a key is made up. -/
  privateKeyFile : Option String := none
  logging : Config.Logging := {}
  /-- The users of the first authorization requests. -/
  users : List User := []
deriving DecidableEq, Repr

namespace Config

open Yaml (Node)

/-! ## YAML -/

/-- Reads a section of a configuration. -/
def sectionOf? {α : Type} (fields : List (String × (α → Node → Option α))) (start : α)
    (n : Node) : Option α :=
  (n.record? fields start).map Prod.fst

def Listener.ofNode? : Node → Option Listener :=
  sectionOf?
    [("bind_address", fun c n => n.text?.map fun s => { c with bindAddress := s }),
      ("public_url", fun c n => (n.optional? Node.text?).map fun s => { c with publicUrl := s })] {}

def Client.ofNode? : Node → Option Client :=
  sectionOf?
    [("client_id", fun c n => (n.optional? Node.text?).map fun s => { c with clientId := s }),
      ("client_secret",
        fun c n => (n.optional? Node.text?).map fun s => { c with clientSecret := s })] {}

def Lifetimes.ofNode? : Node → Option Lifetimes :=
  sectionOf?
    [("access_ttl_seconds", fun c n => n.nat64?.map fun t => { c with accessTtl := t }),
      ("refresh_ttl_seconds", fun c n => n.nat64?.map fun t => { c with refreshTtl := t })] {}

/-- The file of the signing key. -/
def keyFileOfNode? : Node → Option (Option String) :=
  sectionOf? [("private_key_file", fun _ n => n.optional? Node.text?)] none

def Logging.ofNode? : Node → Option Logging :=
  sectionOf?
    [("level", fun c n => n.text?.map fun s => { c with level := s }),
      ("json_format", fun c n => n.bool?.map fun b => { c with jsonFormat := b })] {}

def ofNode? : Node → Option Config :=
  sectionOf?
    [("server", fun c n => (Listener.ofNode? n).map fun s => { c with server := s }),
      ("client", fun c n => (Client.ofNode? n).map fun s => { c with client := s }),
      ("tokens", fun c n => (Lifetimes.ofNode? n).map fun s => { c with tokens := s }),
      ("keys", fun c n => (keyFileOfNode? n).map fun s => { c with privateKeyFile := s }),
      ("logging", fun c n => (Logging.ofNode? n).map fun s => { c with logging := s }),
      ("users", fun c n => (n.list? User.ofNode?).map fun us => { c with users := us })] {}

/-- The configuration of a YAML text. -/
def ofYaml? (text : String) : Option Config := (Node.ofText? text).bind ofNode?

/-! ## JSON -/

/-- A text, or null for none. -/
def jsonOfText (s : Option String) : Json := (s.map Json.string).getD .null

/-- The whole configuration as an object. -/
def toJson (c : Config) : Json :=
  .object
    [("server", .object [("bind_address", .string c.server.bindAddress),
        ("public_url", jsonOfText c.server.publicUrl)]),
      ("client", .object [("client_id", jsonOfText c.client.clientId),
        ("client_secret", jsonOfText c.client.clientSecret)]),
      ("tokens", .object [("access_ttl_seconds", .ofInt c.tokens.accessTtl),
        ("refresh_ttl_seconds", .ofInt c.tokens.refreshTtl)]),
      ("keys", .object [("private_key_file", jsonOfText c.privateKeyFile)]),
      ("logging", .object [("level", .string c.logging.level),
        ("json_format", .bool c.logging.jsonFormat)]),
      ("users", .array (c.users.map User.toJson))]

end Config

end OpenIdProvider
