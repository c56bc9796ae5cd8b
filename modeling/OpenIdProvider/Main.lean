/-
  The program at the outside: it reads its environment and its files, and prints. A listener and a
  source of keys have to be supplied by the host; where there is none, the run fails.
-/
import OpenIdProvider.Program

namespace OpenIdProvider.Program

/-- What is found at a path. -/
def readFile (path : String) : IO File := do
  try
    return .bytes (← IO.FS.readBinFile path).toList
  catch
    | .inappropriateType .. => return .directory
    | .resourceVanished .. => return .unreachable
    | _ => return .missing

/-- The variables of the environment that the program knows. -/
def readEnvironment : IO Environment := do
  let pairs ← Config.variableNames.mapM fun name => return (name, ← IO.getEnv name)
  return fun name => (pairs.lookup name).join

/-- Prints how a run ends, and gives its exit code. -/
def report (result : Result) : IO UInt32 := do
  match result with
  | .answered output exitCode =>
    IO.print output
    return exitCode.toUInt32
  | .failed message =>
    IO.eprintln ("Error: " ++ message)
    return 1
  | .aborted => return 101
  | .serving _ address =>
    IO.eprintln ("Error: " ++ BindError.message ⟨address, "Function not implemented (os error 38)"⟩)
    return 1
  | .makingKey _ =>
    IO.eprintln "Error: Key authority error: no source of keys"
    return 1

/-- A run up to its result. -/
def result (args : List String) : IO Result := do
  match commandLine args with
  | .error r => return r
  | .ok line =>
    match configure line (← readEnvironment) (← readFile line.config) with
    | .error r => return r
    | .ok config =>
      let keyFile ← match config.privateKeyFile with
        | some path => readFile path
        | none => pure .missing
      return carryOut line config keyFile

end OpenIdProvider.Program

def main (args : List String) : IO UInt32 := do
  OpenIdProvider.Program.report (← OpenIdProvider.Program.result args)
