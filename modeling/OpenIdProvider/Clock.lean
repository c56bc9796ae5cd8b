/-
  Clocks that can be moved: one that stands still until it is moved, and one that runs ahead of
  the real time. What they count wraps around as a word of 64 bits does. A provider has one of the
  first kind, or any other clock, of which only what it reads is known.
-/
import OpenIdProvider.Calendar

namespace OpenIdProvider

/-- The integer of 64 bits with a sign that agrees with `n` modulo `2 ^ 64`. -/
def wrap64 (n : Int) : Int := n.bmod 0x10000000000000000

/-- A clock that stands still. It counts whole seconds. -/
structure FixedClock where
  counter : Int
deriving DecidableEq, Repr

namespace FixedClock

/-- The instant of the clock; one without a date that can be represented reads as the start of
1970. -/
def now (c : FixedClock) : Instant := .ofSeconds c.counter

/-- A clock that stands at the second of an instant. -/
def ofInstant (t : Instant) : FixedClock := ⟨t.seconds⟩

/-- Moves the clock by the whole seconds of a duration, forwards or backwards. -/
def advance (c : FixedClock) (d : Duration) : FixedClock := ⟨wrap64 (c.counter + d.seconds)⟩

end FixedClock

/-- A clock that runs ahead of the real time by a number of seconds. -/
structure RunningClock where
  offset : Int
deriving DecidableEq, Repr

namespace RunningClock

def forward (c : RunningClock) (d : Duration) : RunningClock := ⟨wrap64 (c.offset + d.seconds)⟩

/-- The instant of the clock at a real instant, if it can be represented. -/
def now? (c : RunningClock) (real : Instant) : Option Instant := real.plus? (.ofSeconds c.offset)

end RunningClock

/-- The clock of a provider. Of one that runs only what it reads is known, fractions of seconds
included, and later it may read any other instant. It is assumed to read the same all through a
request: a refresh grant looks at it twice, for the token that is shown and for those that are made,
and no time passes between the two. -/
inductive Clock
  | standing (c : FixedClock)
  | running (t : Instant)
deriving DecidableEq, Repr

namespace Clock

/-- Numerals are clocks that stand at that second. -/
instance (n : Nat) : OfNat Clock n := ⟨standing ⟨n⟩⟩

def now : Clock → Instant
  | standing c => c.now
  | running t => t

/-- Sets the clock, if it stands still. -/
def set (t : Instant) : Clock → Clock
  | standing _ => standing (.ofInstant t)
  | running u => running u

/-- Moves the clock, if it stands still. -/
def advance (d : Duration) : Clock → Clock
  | standing c => standing (c.advance d)
  | running u => running u

/-- Lets the clock come to read an instant, if it runs. -/
def tick (t : Instant) : Clock → Clock
  | standing c => standing c
  | running _ => running t

end Clock

end OpenIdProvider
