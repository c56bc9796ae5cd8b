/-
  Whether a configuration can be used, and the values that it stands for.
-/
import OpenIdProvider.Calendar
import OpenIdProvider.Config.Basic
import OpenIdProvider.File
import OpenIdProvider.Net.SocketAddress
import OpenIdProvider.Url.Parser

namespace OpenIdProvider

/-- Why a configuration is not used. -/
inductive ConfigError
  | unreadable (e : FileError)
  /-- The text is not YAML, or not that of a configuration. -/
  | illFormed
  | invalidBindAddress (text : String)
  | invalidPublicUrl (text : String) (e : Url.Error)
  | unusablePublicUrl (text : String)
  | emptyClientId
  | emptyClientSecret
  | zeroAccessTtl
  | shortRefreshTtl
  | unknownLevel (level : String)
deriving DecidableEq, Repr

namespace Config

def levels : List String := ["trace", "debug", "info", "warn", "error"]

end Config

def ConfigError.message (e : ConfigError) : String :=
  "Configuration error: " ++
    match e with
    | .unreadable e => "Failed to read config file: " ++ e.message
    | .illFormed => "Failed to parse config: no YAML text of a configuration"
    | .invalidBindAddress text =>
      "Invalid server.bind_address '" ++ text ++ "': invalid socket address syntax"
    | .invalidPublicUrl text e => "Invalid server.public_url '" ++ text ++ "': " ++ e.message
    | .unusablePublicUrl text =>
      "server.public_url must be an absolute http(s) URL, got '" ++ text ++ "'"
    | .emptyClientId => "client.client_id cannot be empty"
    | .emptyClientSecret => "client.client_secret cannot be empty"
    | .zeroAccessTtl => "tokens.access_ttl_seconds must be greater than 0"
    | .shortRefreshTtl => "tokens.refresh_ttl_seconds must be at least tokens.access_ttl_seconds"
    | .unknownLevel level =>
      "Invalid logging.level: " ++ level ++ ". Must be one of: " ++
        ", ".intercalate Config.levels

namespace Config

/-- The address to listen on. -/
def bindAddress (c : Config) : Except ConfigError Net.SocketAddress :=
  match Net.SocketAddress.ofText? c.server.bindAddress with
  | some a => .ok a
  | none => .error (.invalidBindAddress c.server.bindAddress)

/-- A lifetime that is written in seconds. Beyond 64 bits with a sign it is cut off. -/
def lifetime (seconds : Nat) : Duration := .ofSeconds (min seconds 0x7FFFFFFFFFFFFFFF)

def accessTtl (c : Config) : Duration := lifetime c.tokens.accessTtl

def refreshTtl (c : Config) : Duration := lifetime c.tokens.refreshTtl

/-- Checks the public URL, if there is one. -/
def checkPublicUrl (c : Config) : Except ConfigError Unit :=
  match c.server.publicUrl with
  | none => .ok ()
  | some text =>
    match Url.parse text with
    | .error e => .error (.invalidPublicUrl text e)
    | .ok url =>
      if (url.scheme = "http".toList ∨ url.scheme = "https".toList) ∧ url.host?.isSome then .ok ()
      else .error (.unusablePublicUrl text)

/-- Refuses a configuration that fails a check. -/
def require (ok : Bool) (e : ConfigError) : Except ConfigError Unit :=
  if ok then .ok () else .error e

/-- Checks a configuration; the first check that fails gives the error. -/
def validate (c : Config) : Except ConfigError Unit := do
  discard c.bindAddress
  c.checkPublicUrl
  require (c.client.clientId != some "") .emptyClientId
  require (c.client.clientSecret != some "") .emptyClientSecret
  require (c.tokens.accessTtl != 0) .zeroAccessTtl
  require (c.tokens.accessTtl ≤ c.tokens.refreshTtl) .shortRefreshTtl
  require (levels.contains (Ascii.lower c.logging.level)) (.unknownLevel c.logging.level)

end Config

end OpenIdProvider
