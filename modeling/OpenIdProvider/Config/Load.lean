/-
  The configuration that a run of the program uses.
-/
import OpenIdProvider.Config.Overrides
import OpenIdProvider.Config.Validation

namespace OpenIdProvider.Config

/-- The configuration of a file; without a file it is the default. -/
def ofFile (file : File) : Except ConfigError Config :=
  if file.isPresent then
    match file.text with
    | .error e => .error (.unreadable e)
    | .ok text =>
      match ofYaml? text with
      | some c => .ok c
      | none => .error .illFormed
  else .ok {}

/-- The configuration of a file with what takes precedence over it. -/
def load (file : File) (env : Environment) (line : CommandLine) : Except ConfigError Config :=
  (ofFile file).map fun c => (c.withEnvironment env).withCommandLine line

end OpenIdProvider.Config
