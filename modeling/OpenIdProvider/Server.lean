/-
  Servers: a provider that others reach at an address and whose clock runs with the real time. A
  plan says what a server shall be; what it leaves open is made up when the server starts.
-/
import OpenIdProvider.Config.Validation
import OpenIdProvider.Key.Stored
import OpenIdProvider.Provider.Run

namespace OpenIdProvider

/-- What a server shall be. -/
structure ServerPlan where
  clientId : Option String := none
  clientSecret : Option String := none
  publicUrl : Option String := none
  accessTtl : Duration := 600
  refreshTtl : Duration := 3600
  keys : Option KeyAuthority := none
  /-- The users of the first authorization requests. -/
  users : List User := []

/-- A provider that is reached at an address. -/
structure Server where
  provider : Provider
  store : SessionStore
  users : UserSupply
  errors : Queue ProtocolError
  clock : RunningClock

/-- Why a server does not start. -/
structure BindError where
  address : Net.SocketAddress
  cause : String

def BindError.message (e : BindError) : String :=
  "Server error: Failed to bind " ++ e.address.text ++ ": " ++ e.cause

namespace ServerPlan

/-- Why there is no plan. -/
inductive Failure
  | key (e : KeyFileError)
  /-- A lifetime cannot be represented. -/
  | lifetime
deriving DecidableEq, Repr

/-- The authority of the configured key file, if one is configured. -/
def keysOf (c : Config) (file : File) : Except KeyFileError (Option KeyAuthority) :=
  match c.privateKeyFile with
  | none => .ok none
  | some path => (Rsa.PrivateKey.ofFile path file).map fun key => some (.ofRsa key)

/-- The plan of a configuration, given what is found at the path of its key file. -/
def ofConfig (c : Config) (keyFile : File) : Except Failure ServerPlan := do
  let keys ← (keysOf c keyFile).mapError Failure.key
  if c.accessTtl.isRepresentable && c.refreshTtl.isRepresentable then
    .ok ⟨c.client.clientId, c.client.clientSecret, c.server.publicUrl, c.accessTtl, c.refreshTtl,
      keys, c.users⟩
  else .error .lifetime

/-- A text without slashes at its end. -/
def trimSlashes (s : String) : String :=
  String.ofList (s.toList.reverse.dropWhile (· == '/')).reverse

/-- What stands before the paths of the endpoints of a server at an address. -/
def baseUrl (plan : ServerPlan) (address : String) : String :=
  match plan.publicUrl with
  | some url => trimSlashes url
  | none => "http://" ++ address

/-- The server of a plan at an address, with the key and the sequence of random texts from which
what the plan leaves open is taken. -/
def start (plan : ServerPlan) (address : String) (madeUp : KeyAuthority)
    (random : Nat → String) : Server where
  provider :=
    { settings :=
        { baseUrl := plan.baseUrl address
          clientId := plan.clientId.getD (random 0)
          clientSecret := plan.clientSecret.getD (random 1)
          accessTtl := plan.accessTtl
          refreshTtl := plan.refreshTtl }
      keys := plan.keys.getD madeUp
      randomId := fun n => random (n + 2) }
  store := .empty
  users := plan.users.foldl UserSupply.push (.ofFallback User.jane)
  errors := .empty
  clock := ⟨0⟩

end ServerPlan

namespace Server

def settings (s : Server) : Settings := s.provider.settings

/-- Where the description of the provider is found. -/
def discoveryUrl (s : Server) : String := s.settings.url Endpoint.discovery.path

def queueUser (s : Server) (u : User) : Server := { s with users := s.users.push u }

def queueCode (s : Server) (code : String) : Server := { s with store := s.store.queueCode code }

def queueError (s : Server) (e : ProtocolError) : Server := { s with errors := s.errors.push e }

/-- Lets the clock of the server run ahead. -/
def fastForward (s : Server) (d : Duration) : Server := { s with clock := s.clock.forward d }

/-- The response to a request at a real instant, none if it is aborted. Once the clock has run out
of the dates every request counts as aborted, also one that does not ask for the time. -/
def respond (s : Server) (now : Instant) (r : Http.Request) : Option Http.Response × Server :=
  match s.clock.now? now with
  | none => (none, s)
  | some t =>
    let (response, state) := s.provider.respond r ⟨s.store, s.users, s.errors, .running t⟩
    (response, { s with store := state.store, users := state.users, errors := state.errors })

end Server

end OpenIdProvider
