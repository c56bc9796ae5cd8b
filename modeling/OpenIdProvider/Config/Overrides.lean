/-
  What takes precedence over the configuration: variables of the environment, and over these the
  command line.
-/
import OpenIdProvider.CommandLine.Basic
import OpenIdProvider.Config.Basic

namespace OpenIdProvider

/-- The variables of the environment that are set to text. One whose value is not valid Unicode
counts as not set. -/
abbrev Environment := String → Option String

namespace Config

/-- The variables that are looked at. -/
def variableNames : List String :=
  ["MOCKOIDC_BIND_ADDRESS", "MOCKOIDC_PUBLIC_URL", "MOCKOIDC_CLIENT_ID", "MOCKOIDC_CLIENT_SECRET",
    "MOCKOIDC_ACCESS_TTL_SECONDS", "MOCKOIDC_REFRESH_TTL_SECONDS", "MOCKOIDC_PRIVATE_KEY_FILE",
    "MOCKOIDC_LOG_LEVEL", "MOCKOIDC_JSON_LOGS"]

/-- Changes a value, if there is something to change it with. -/
def override {α β : Type} (change : β → α → α) (value : Option β) (a : α) : α :=
  match value with
  | some b => change b a
  | none => a

/-- A number of 64 bits in decimal digits, perhaps after a plus sign. -/
def nat64OfText? (s : String) : Option Nat :=
  let digits :=
    match s.toList with
    | '+' :: digits => digits
    | digits => digits
  (Ascii.readNat? 10 digits).bind fun n => if n < 0x10000000000000000 then some n else none

/-- A word for yes or no. -/
def flagOfText? (s : String) : Option Bool :=
  let word := Ascii.lower s
  if ["1", "true", "yes"].contains word then some true
  else if ["0", "false", "no"].contains word then some false
  else none

/-- Applies the variables of the environment. Numbers and flags that cannot be read are ignored. -/
def withEnvironment (c : Config) (env : Environment) : Config where
  server :=
    override (fun s (l : Listener) => { l with publicUrl := some s }) (env "MOCKOIDC_PUBLIC_URL")
      (override (fun s (l : Listener) => { l with bindAddress := s })
        (env "MOCKOIDC_BIND_ADDRESS") c.server)
  client :=
    override (fun s (l : Client) => { l with clientSecret := some s })
      (env "MOCKOIDC_CLIENT_SECRET")
      (override (fun s (l : Client) => { l with clientId := some s })
        (env "MOCKOIDC_CLIENT_ID") c.client)
  tokens :=
    override (fun n (l : Lifetimes) => { l with refreshTtl := n })
      ((env "MOCKOIDC_REFRESH_TTL_SECONDS").bind nat64OfText?)
      (override (fun n (l : Lifetimes) => { l with accessTtl := n })
        ((env "MOCKOIDC_ACCESS_TTL_SECONDS").bind nat64OfText?) c.tokens)
  privateKeyFile := (env "MOCKOIDC_PRIVATE_KEY_FILE").or c.privateKeyFile
  logging :=
    override (fun b (l : Logging) => { l with jsonFormat := b })
      ((env "MOCKOIDC_JSON_LOGS").bind flagOfText?)
      (override (fun s (l : Logging) => { l with level := s }) (env "MOCKOIDC_LOG_LEVEL") c.logging)
  users := c.users

/-- Applies what the command to serve sets aside. -/
def withServeOptions (c : Config) (o : CommandLine.ServeOptions) : Config :=
  { c with
    server := ⟨o.bind.getD c.server.bindAddress, o.publicUrl.or c.server.publicUrl⟩
    client := ⟨o.clientId.or c.client.clientId, o.clientSecret.or c.client.clientSecret⟩ }

/-- Applies a command line. -/
def withCommandLine (c : Config) (line : CommandLine) : Config :=
  let c := if line.verbose then { c with logging := { c.logging with level := "debug" } } else c
  match line.command with
  | .serve options => c.withServeOptions options
  | .keygen _ => c

end Config

end OpenIdProvider
