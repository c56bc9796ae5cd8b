/-
  The switches of a command line: `--name value`, `--name=value`, `-n value`, `-nvalue`, and flags,
  whose letters may be written in one cluster. A value counts only when the next switch or the end
  is reached, so errors in what follows come first.
-/
import OpenIdProvider.Text.Split

namespace OpenIdProvider.CommandLine

/-- What a switch does. -/
inductive Role
  /-- Takes a value, which may be required not to be empty. -/
  | value (mayBeEmpty : Bool)
  | flag
  | help
  | version
deriving DecidableEq, Repr

structure Switch where
  name : String
  letter : Option Char
  role : Role
  about : String
deriving DecidableEq, Repr

/-- What can be written at one place of a command line. -/
structure Level where
  /-- The program and the commands that lead here. -/
  path : List String
  about : String
  switches : List Switch
  /-- The commands that can be given, with what they are for. -/
  commands : List (String × String)

/-- Why a command line is not carried out. -/
inductive Failure
  /-- Help is asked for. -/
  | help (command : Option String)
  | version
  | unknownArgument
  | invalidValue
  /-- A switch is given twice. -/
  | repeated
  /-- A flag is given a value. -/
  | unwantedValue
  | unknownCommand
  | missingCommand
  /-- There is nothing but the program. -/
  | nothingGiven
deriving DecidableEq, Repr

/-- Asking for help or for the version is no error; all else is a wrong use. -/
def Failure.exitCode : Failure → Nat
  | .help _ | .version => 0
  | _ => 2

/-- The switches that have been given, and the one that may still get a value. -/
structure Given where
  flags : List String
  values : List (String × String)
  pending : Option (Switch × Option String)
deriving DecidableEq, Repr

namespace Given

def empty : Given := ⟨[], [], none⟩

/-- The switch that waits for a value. -/
def awaiting (g : Given) : Option Switch :=
  match g.pending with
  | some (s, none) => some s
  | _ => none

/-- Whether no switch has been given. -/
def isEmpty (g : Given) : Bool := g.flags.isEmpty && g.values.isEmpty && g.pending.isNone

def value? (g : Given) (name : String) : Option String := g.values.lookup name

/-- Notes the value of a switch. -/
def record (g : Given) (s : Switch) (value : String) : Except Failure Given :=
  if (g.value? s.name).isSome then .error .repeated
  else if value = "" ∧ s.role = .value false then .error .invalidValue
  else .ok { g with values := (s.name, value) :: g.values }

/-- Notes the value of the last switch, which must have one by now. -/
def settle (g : Given) : Except Failure Given :=
  match g.pending with
  | none => .ok g
  | some (_, none) => .error .invalidValue
  | some (s, some value) => { g with pending := none }.record s value

/-- Notes a switch that takes no value. -/
def act (level : Level) (g : Given) (s : Switch) : Except Failure Given := do
  let g ← g.settle
  match s.role with
  | .help => .error (.help level.path.tail.head?)
  | .version => .error .version
  | _ =>
    if g.flags.contains s.name then .error .repeated
    else .ok { g with flags := s.name :: g.flags }

/-- Notes a switch that takes a value, with the value if it is attached. -/
def take (g : Given) (s : Switch) (attached : Option (List Char)) : Except Failure Given := do
  let g ← g.settle
  match attached with
  | none => .ok { g with pending := some (s, none) }
  | some value => g.record s (String.ofList value)

/-- Reads what follows two hyphens. -/
def long (level : Level) (g : Given) (cs : List Char) : Except Failure Given :=
  let (name, attached) :=
    match Split.splitOnce '=' cs with
    | some (name, value) => (name, some value)
    | none => (cs, none)
  match level.switches.find? fun s => s.name.toList == name with
  | none => .error .unknownArgument
  | some s =>
    match s.role with
    | .value _ => g.take s attached
    | _ => if attached.isSome then .error .unwantedValue else g.act level s

/-- Reads the letters after one hyphen. What follows the letter of a value is the value. -/
def cluster (level : Level) (g : Given) : List Char → Except Failure Given
  | [] => .ok g
  | c :: rest =>
    match level.switches.find? fun s => s.letter == some c with
    | none => .error .unknownArgument
    | some s =>
      match s.role with
      | .value _ =>
        match rest with
        | [] => g.take s none
        | '=' :: value => g.take s (some value)
        | value => g.take s (some value)
      | _ =>
        match g.act level s with
        | .error e => .error e
        | .ok g => cluster level g rest

/-- What is wrong with an argument that is no switch and no value. -/
def stray (level : Level) (arg : String) : Failure :=
  if level.commands.isEmpty || (level.commands.lookup arg).isSome then .unknownArgument
  else .unknownCommand

/-- Reads arguments up to a command: what is given, and the command with the arguments after it.
After two hyphens alone nothing is a switch. -/
def scan (level : Level) (g : Given) :
    List String → Except Failure (Given × Option (String × List String))
  | [] => .ok (g, none)
  | arg :: rest =>
    if g.awaiting.isNone && (level.commands.lookup arg).isSome then .ok (g, some (arg, rest))
    else
      match arg.toList with
      | ['-', '-'] =>
        match rest with
        | [] => .ok (g, none)
        | arg :: _ => .error (stray level arg)
      | '-' :: '-' :: cs =>
        match g.long level cs with
        | .error e => .error e
        | .ok g => scan level g rest
      | '-' :: c :: cs =>
        match g.cluster level (c :: cs) with
        | .error e => .error e
        | .ok g => scan level g rest
      | _ =>
        match g.awaiting with
        | none => .error (stray level arg)
        | some s => scan level { g with pending := some (s, some arg) } rest

end Given

end OpenIdProvider.CommandLine
