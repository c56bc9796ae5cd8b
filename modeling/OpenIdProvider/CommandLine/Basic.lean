/-
  The command line of the program: serving, making a key, and help.
-/
import OpenIdProvider.CommandLine.Switch

namespace OpenIdProvider

namespace CommandLine

/-- What the command to serve sets aside of the configuration. -/
structure ServeOptions where
  bind : Option String
  publicUrl : Option String
  clientId : Option String
  clientSecret : Option String
deriving DecidableEq, Repr

inductive Command
  | serve (options : ServeOptions)
  /-- Makes a key and writes it to a file or to the standard output. -/
  | keygen (out : Option String)
deriving DecidableEq, Repr

end CommandLine

/-- A command line that can be carried out. -/
structure CommandLine where
  /-- The path of the configuration. -/
  config : String
  verbose : Bool
  command : CommandLine.Command
deriving DecidableEq, Repr

namespace CommandLine

def programName : String := "mockoidc"

/-- The version that the program reports. -/
def programVersion : String := "0.1.0"

def defaultConfig : String := "config/mockoidc.yaml"

def helpSwitch : Switch := ⟨"help", some 'h', .help, "Print help"⟩

def helpCommand : String × String :=
  ("help", "Print this message or the help of the given subcommand(s)")

def serveLevel : Level where
  path := [programName, "serve"]
  about := "Start the provider and serve until interrupted"
  switches :=
    [⟨"bind", some 'b', .value true, "Socket address to listen on (overrides server.bind_address)"⟩,
      ⟨"public-url", none, .value true,
        "Externally visible base URL (overrides server.public_url)"⟩,
      ⟨"client-id", none, .value true, "Client id to accept (overrides client.client_id)"⟩,
      ⟨"client-secret", none, .value true,
        "Client secret to accept (overrides client.client_secret)"⟩,
      helpSwitch]
  commands := []

def keygenLevel : Level where
  path := [programName, "keygen"]
  about := "Generate an RSA private key (PKCS#1 PEM) for keys.private_key_file"
  switches :=
    [⟨"out", some 'o', .value false, "Write the key to this file instead of stdout"⟩, helpSwitch]
  commands := []

def programLevel : Level where
  path := [programName]
  about := "Mock OpenID Connect provider for testing OAuth2/OIDC client integrations"
  switches :=
    [⟨"config", some 'c', .value true,
        "Path to configuration file [default: " ++ defaultConfig ++ "]"⟩,
      ⟨"verbose", some 'v', .flag, "Enable verbose logging"⟩,
      helpSwitch,
      ⟨"version", some 'V', .version, "Print version"⟩]
  commands := [("serve", serveLevel.about), ("keygen", keygenLevel.about), helpCommand]

/-- Reads the arguments of a command that has no commands of its own. -/
def options (level : Level) (args : List String) : Except Failure Given := do
  (← Given.empty.scan level args).1.settle

/-- Asks for the help of the program or of one command. -/
def askedHelp : List String → Failure
  | [] => .help none
  | [name] =>
    if (programLevel.commands.lookup name).isSome then .help (some name) else .unknownCommand
  | _ => .unknownCommand

/-- Reads a command and its arguments. -/
def Command.ofArgs (name : String) (args : List String) : Except Failure Command := do
  if name = "serve" then
    let g ← options serveLevel args
    .ok (.serve ⟨g.value? "bind", g.value? "public-url", g.value? "client-id",
      g.value? "client-secret"⟩)
  else if name = "keygen" then
    let g ← options keygenLevel args
    .ok (.keygen (g.value? "out"))
  else .error (askedHelp args)

/-- Reads a command line. The errors of a command come before those of the switches in front of
it. -/
def ofArgs (args : List String) : Except Failure CommandLine := do
  match ← Given.empty.scan programLevel args with
  | (g, none) =>
    let g ← g.settle
    .error (if g.isEmpty then .nothingGiven else .missingCommand)
  | (g, some (name, rest)) =>
    let c ← Command.ofArgs name rest
    let g ← g.settle
    .ok ⟨(g.value? "config").getD defaultConfig, g.flags.contains "verbose", c⟩

end CommandLine

end OpenIdProvider
