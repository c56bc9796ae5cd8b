/-
  The texts that the program prints about itself.
-/
import OpenIdProvider.CommandLine.Basic

namespace OpenIdProvider.CommandLine

/-- How the value of a switch is called. -/
def Switch.valueName (s : Switch) : String :=
  String.ofList (s.name.toList.map fun c => if c == '-' then '_' else c.toUpper)

/-- How a switch is written. Switches without a letter stand below the names of the others. -/
def Switch.usage (s : Switch) : String :=
  let letter :=
    match s.letter with
    | some c => String.ofList ['-', c, ',', ' ']
    | none => "    "
  let value :=
    match s.role with
    | .value _ => " <" ++ s.valueName ++ ">"
    | _ => ""
  letter ++ "--" ++ s.name ++ value

/-- Lines of two columns. -/
def table (rows : List (String × String)) : String :=
  let width := rows.foldl (fun (w : Nat) (row : String × String) => max w row.1.length) 0
  String.join (rows.map fun (left, right) =>
    "  " ++ left ++ String.ofList (List.replicate (width - left.length) ' ') ++ "  " ++ right ++
      "\n")

/-- The lines of a heading, a blank line in front of it; nothing if there are none. -/
def listing (heading : String) (rows : List (String × String)) : String :=
  if rows.isEmpty then "" else "\n" ++ heading ++ ":\n" ++ table rows

/-- The help of a level. -/
def Level.help (level : Level) : String :=
  level.about ++ "\n\nUsage: " ++ " ".intercalate level.path ++ " [OPTIONS]" ++
    (if level.commands.isEmpty then "" else " <COMMAND>") ++ "\n" ++
    listing "Commands" level.commands ++
    listing "Options" (level.switches.map fun s => (s.usage, s.about))

/-- The help of the command for help. -/
def helpOfHelp : String :=
  helpCommand.2 ++ "\n\nUsage: " ++ programName ++ " help [COMMAND]...\n" ++
    listing "Arguments" [("[COMMAND]...", "Print help for the subcommand(s)")]

/-- The help of the program or of one command. -/
def helpText : Option String → String
  | none => programLevel.help
  | some name =>
    if name = "serve" then serveLevel.help
    else if name = "keygen" then keygenLevel.help
    else helpOfHelp

def versionText : String := programName ++ " " ++ programVersion ++ "\n"

/-- What is printed on the standard output instead of carrying out a command line. -/
def Failure.output : Failure → String
  | .help command => helpText command
  | .version => versionText
  | _ => ""

end OpenIdProvider.CommandLine
