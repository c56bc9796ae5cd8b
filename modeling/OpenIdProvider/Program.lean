/-
  A run of the program, up to what only the outside can do: to serve, and to make a key. What it
  finds in files is given.
-/
import OpenIdProvider.CommandLine.Help
import OpenIdProvider.Config.Load
import OpenIdProvider.Server

namespace OpenIdProvider.Program

/-- How a run of the program ends, or what it comes to. -/
inductive Result
  /-- The command line is answered at once. -/
  | answered (output : String) (exitCode : Nat)
  | failed (message : String)
  /-- A lifetime cannot be represented. -/
  | aborted
  | serving (plan : ServerPlan) (address : Net.SocketAddress)
  | makingKey (out : Option String)

/-- The command line of some arguments. -/
def commandLine (args : List String) : Except Result CommandLine :=
  (CommandLine.ofArgs args).mapError fun e => .answered e.output e.exitCode

/-- The configuration of a run, given what is found at its path. -/
def configure (line : CommandLine) (env : Environment) (file : File) : Except Result Config :=
  let loaded := do
    let config ← Config.load file env line
    config.validate
    .ok config
  loaded.mapError fun e => .failed e.message

/-- What a run comes to, given what is found at the path of its key file. -/
def carryOut (line : CommandLine) (config : Config) (keyFile : File) : Result :=
  match line.command with
  | .keygen out => .makingKey out
  | .serve _ =>
    match ServerPlan.ofConfig config keyFile with
    | .error (.key e) => .failed e.message
    | .error .lifetime => .aborted
    | .ok plan =>
      match config.bindAddress with
      | .ok address => .serving plan address
      | .error e => .failed e.message

/-- The file of the signing key, nothing if none is configured. -/
def keyFile (config : Config) (files : String → File) : File :=
  (config.privateKeyFile.map files).getD .missing

/-- A run with some arguments, variables of the environment and files. -/
def run (args : List String) (env : Environment) (files : String → File) : Result :=
  let prepared := do
    let line ← commandLine args
    let config ← configure line env (files line.config)
    .ok (carryOut line config (keyFile config files))
  match prepared with
  | .ok result => result
  | .error result => result

end OpenIdProvider.Program
