/-
  Runs of a provider: requests, what is put into its queues, and what becomes of its clock.
-/
import OpenIdProvider.Provider.Requests

namespace OpenIdProvider

/-- One step of a run. -/
inductive Step
  | request (r : Http.Request)
  | queueUser (u : User)
  | queueCode (code : String)
  | queueError (e : ProtocolError)
  | advance (d : Duration)
  | setClock (t : Instant)
  | tick (t : Instant)

/-- What a step gives back. -/
inductive StepAnswer
  | response (r : Option Http.Response)
  | done
  | time (t : Instant)

namespace ProviderState

def queueUser (s : ProviderState) (u : User) : ProviderState := { s with users := s.users.push u }

def queueCode (s : ProviderState) (code : String) : ProviderState :=
  { s with store := s.store.queueCode code }

def queueError (s : ProviderState) (e : ProtocolError) : ProviderState :=
  { s with errors := s.errors.push e }

def advance (s : ProviderState) (d : Duration) : ProviderState :=
  { s with clock := s.clock.advance d }

def setClock (s : ProviderState) (t : Instant) : ProviderState :=
  { s with clock := s.clock.set t }

def tick (s : ProviderState) (t : Instant) : ProviderState := { s with clock := s.clock.tick t }

end ProviderState

namespace Provider

def step (p : Provider) (s : ProviderState) : Step → StepAnswer × ProviderState
  | .request r =>
    let (response, s) := p.respond r s
    (.response response, s)
  | .queueUser u => (.done, s.queueUser u)
  | .queueCode code => (.done, s.queueCode code)
  | .queueError e => (.done, s.queueError e)
  | .advance d => (.time (s.advance d).clock.now, s.advance d)
  | .setClock t => (.time (s.setClock t).clock.now, s.setClock t)
  | .tick t => (.done, s.tick t)

/-- The answers of a run in order, and the state after it. -/
def run (p : Provider) (s : ProviderState) : List Step → List StepAnswer × ProviderState
  | [] => ([], s)
  | step :: steps =>
    let (answer, s) := p.step s step
    let (answers, s) := p.run s steps
    (answer :: answers, s)

end Provider

end OpenIdProvider
