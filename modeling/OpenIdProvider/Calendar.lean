/-
  Lengths of time and points in time, both in nanoseconds, their whole seconds, and the date and
  the time of a point in time. There are no leap seconds.
-/
import OpenIdProvider.Text.Ascii

namespace OpenIdProvider

def nanosecondsPerSecond : Int := 1000000000

/-- A length of time. -/
structure Duration where
  nanoseconds : Int
deriving DecidableEq, Repr

namespace Duration

def ofSeconds (n : Int) : Duration := ⟨n * nanosecondsPerSecond⟩

/-- Numerals are seconds. -/
instance (n : Nat) : OfNat Duration n := ⟨ofSeconds n⟩

instance : LE Duration := ⟨fun d e => d.nanoseconds ≤ e.nanoseconds⟩

instance (d e : Duration) : Decidable (d ≤ e) :=
  inferInstanceAs (Decidable (d.nanoseconds ≤ e.nanoseconds))

/-- The whole seconds of a duration, its fraction being cut off towards zero. -/
def seconds (d : Duration) : Int := d.nanoseconds.tdiv nanosecondsPerSecond

/-- The greatest duration: its thousandths of seconds must fit into 64 bits with a sign. -/
def greatest : Duration := ⟨9223372036854775807000000⟩

def isRepresentable (d : Duration) : Bool :=
  -greatest.nanoseconds ≤ d.nanoseconds && d.nanoseconds ≤ greatest.nanoseconds

end Duration

/-- Whether so many nanoseconds since the start of 1970 lead to a date that can be represented:
one from the start of the year -262143 to the end of the year 262142. -/
def HasDate (nanoseconds : Int) : Prop :=
  -8334601228800000000000 ≤ nanoseconds ∧ nanoseconds ≤ 8210266876799999999999

instance (n : Int) : Decidable (HasDate n) := inferInstanceAs (Decidable (_ ∧ _))

/-- A point in time whose date can be represented, in nanoseconds since the start of 1970. -/
structure Instant where
  nanoseconds : Int
  hasDate : HasDate nanoseconds
deriving DecidableEq, Repr

namespace Instant

def ofNanoseconds? (n : Int) : Option Instant := if h : HasDate n then some ⟨n, h⟩ else none

/-- The start of 1970. -/
def epoch : Instant := ⟨0, by decide⟩

/-- The instant of a number of seconds, or the start of 1970 if its date cannot be represented. -/
def ofSeconds (n : Int) : Instant := (ofNanoseconds? (n * nanosecondsPerSecond)).getD epoch

/-- Numerals are seconds. -/
instance (n : Nat) : OfNat Instant n := ⟨ofSeconds n⟩

instance : LE Instant := ⟨fun t u => t.nanoseconds ≤ u.nanoseconds⟩

/-- The whole seconds of an instant, its fraction being cut off towards the past. -/
def seconds (t : Instant) : Int := t.nanoseconds / nanosecondsPerSecond

/-- The instant a duration later, if the duration and that instant can be represented. -/
def plus? (t : Instant) (d : Duration) : Option Instant :=
  if d.isRepresentable then ofNanoseconds? (t.nanoseconds + d.nanoseconds) else none

/-- A day in the calendar. -/
structure Date where
  year : Int
  month : Nat
  day : Nat
deriving DecidableEq, Repr

/-- The date of a number of days since the start of 1970. Years are counted from March, so that a
leap day is the last of its year; 400 years have 146097 days, and five months from March or August
on have 153. -/
def Date.ofDays (days : Int) : Date :=
  let shifted := days + 719468
  let era := shifted / 146097
  let ofEra := (shifted % 146097).toNat
  let years := (ofEra - ofEra / 1460 + ofEra / 36524 - ofEra / 146096) / 365
  let ofYear := ofEra - (365 * years + years / 4 - years / 100)
  let fromMarch := (5 * ofYear + 2) / 153
  let day := ofYear - (153 * fromMarch + 2) / 5 + 1
  let month := if fromMarch < 10 then fromMarch + 3 else fromMarch - 9
  ⟨(years : Int) + era * 400 + (if month ≤ 2 then 1 else 0), month, day⟩

def twoDigits (n : Nat) : String :=
  String.ofList [Ascii.lowerHexDigit (n / 10 % 10), Ascii.lowerHexDigit (n % 10)]

/-- A year has four digits; one beyond them has a sign and at least five. -/
def yearText (year : Int) : String :=
  let padded (width : Nat) : String :=
    let ds := Ascii.digits 10 year.natAbs
    String.ofList (List.replicate (width - ds.length) '0' ++ ds)
  if 0 ≤ year ∧ year ≤ 9999 then padded 4
  else (if year < 0 then "-" else "+") ++ padded (if year < 0 then 4 else 5)

/-- The date, the time in whole seconds and the offset of an instant. -/
def text (t : Instant) : String :=
  let date := Date.ofDays (t.seconds / 86400)
  let seconds := (t.seconds % 86400).toNat
  yearText date.year ++ "-" ++ twoDigits date.month ++ "-" ++ twoDigits date.day ++ "T" ++
    twoDigits (seconds / 3600) ++ ":" ++ twoDigits (seconds / 60 % 60) ++ ":" ++
    twoDigits (seconds % 60) ++ "+00:00"

end Instant

end OpenIdProvider
