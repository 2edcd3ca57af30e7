/-!
# RenderLoop — instants and their civil dates

An **instant** is a number of seconds since the start of 1970, which may be
negative, and a fraction counted in nanoseconds. Its civil date follows the
proleptic Gregorian calendar in universal time: every fourth year is a leap year,
except centuries that are not a multiple of four hundred.

Dates are computed from a day count by splitting it into eras of 400 years
(146097 days each), counted from the first of March so that the leap day comes
last.
-/

namespace RenderLoop

/-- A point in time: whole seconds since 1970 and a fraction in nanoseconds. -/
structure Instant where
  seconds : Int
  nanos : Nat
  deriving DecidableEq, Repr, Inhabited

/-- A day of the proleptic Gregorian calendar. -/
structure CivilDate where
  year : Int
  month : Nat
  day : Nat
  deriving DecidableEq, Repr, Inhabited

namespace CivilDate

/-- The date that lies `days` days after the first of January 1970. -/
def ofDays (days : Int) : CivilDate :=
  let sinceMarch0 := days + 719468
  let era := sinceMarch0 / 146097
  let dayOfEra := (sinceMarch0 % 146097).toNat
  let yearOfEra :=
    (dayOfEra - dayOfEra / 1460 + dayOfEra / 36524 - dayOfEra / 146096) / 365
  let dayOfYear := dayOfEra - (365 * yearOfEra + yearOfEra / 4 - yearOfEra / 100)
  let monthFromMarch := (5 * dayOfYear + 2) / 153
  let day := dayOfYear - (153 * monthFromMarch + 2) / 5 + 1
  let month := if monthFromMarch < 10 then monthFromMarch + 3 else monthFromMarch - 9
  let year := (yearOfEra : Int) + era * 400
  ⟨if month ≤ 2 then year + 1 else year, month, day⟩

end CivilDate

/-- A number in at least `width` digits, filled with zeros on the left. -/
def zeroPadded (width n : Nat) : String :=
  let digits := toString n
  String.ofList (List.replicate (width - digits.length) '0') ++ digits

/-- A year in four digits; years beyond 9999 and before 0 carry their sign. -/
def yearText (year : Int) : String :=
  if 0 ≤ year ∧ year ≤ 9999 then zeroPadded 4 year.toNat
  else (if year < 0 then "-" else "+") ++ zeroPadded 4 year.natAbs

namespace Instant

/-- The first second of the calendar's range. -/
def firstSecond : Int := -8334601228800

/-- The last second of the calendar's range. -/
def lastSecond : Int := 8210266876799

/-- The seconds with the whole seconds of the fraction carried over. -/
def wholeSeconds (t : Instant) : Int := t.seconds + t.nanos / 1000000000

/-- Whether the calendar covers an instant. -/
def inRange (t : Instant) : Bool :=
  decide (firstSecond ≤ t.wholeSeconds ∧ t.wholeSeconds ≤ lastSecond)

/-- Year, month, day, hour, minute, second and milliseconds, the rest cut off. -/
def text (t : Instant) : String :=
  let date := CivilDate.ofDays (t.wholeSeconds / 86400)
  let ofDay := (t.wholeSeconds % 86400).toNat
  yearText date.year ++ "-" ++ zeroPadded 2 date.month ++ "-" ++ zeroPadded 2 date.day ++ " " ++
    zeroPadded 2 (ofDay / 3600) ++ ":" ++ zeroPadded 2 (ofDay / 60 % 60) ++ ":" ++
    zeroPadded 2 (ofDay % 60) ++ "." ++ zeroPadded 3 (t.nanos % 1000000000 / 1000000)

end Instant

end RenderLoop
