/-!
# Time/Date — a time as a date of the calendar

Times are milliseconds since the beginning of 1970; dates are of the Gregorian calendar, carried on
in both directions, in universal time.  The days of a year are counted from March, so that the day
that is sometimes there comes last.
-/

namespace ChatFeed

/-- **A date.** -/
structure Date where
  year : Nat
  month : Nat
  day : Nat
  deriving DecidableEq, Repr

namespace Date

/-- Days in four hundred years. -/
def cycleDays : Nat := 146097

/-- The days from the first of March of the year zero to the beginning of 1970. -/
def epochDays : Nat := 719468

/-- The year of a cycle, counted from March, in which a day of that cycle lies. -/
def yearOfCycle (day : Nat) : Nat :=
  (day - day / 1460 + day / 36524 - day / 146096) / 365

/-- **The date that lies a number of days after the beginning of 1970.** -/
def ofDays (days : Nat) : Date :=
  let shifted := days + epochDays
  let day := shifted % cycleDays
  let year := yearOfCycle day
  let ofYear := day - (365 * year + year / 4 - year / 100)
  let month := (5 * ofYear + 2) / 153
  let monthOfYear := if month < 10 then month + 3 else month - 9
  ⟨year + 400 * (shifted / cycleDays) + (if monthOfYear ≤ 2 then 1 else 0), monthOfYear,
    ofYear - (153 * month + 2) / 5 + 1⟩

/-- The last year of which dates are written. -/
def lastYear : Nat := 262142

/-- A number with a least number of digits. -/
def padded (width n : Nat) : String :=
  let ds := Nat.toDigits 10 n
  String.ofList (List.replicate (width - ds.length) '0' ++ ds)

/-- A year: four digits, or more with a sign. -/
def yearText (year : Nat) : String :=
  if year ≤ 9999 then padded 4 year else "+" ++ padded 4 year

/-- **A time as text**: date, time of the day, and thousandths of a second if there are any. -/
def timeText (millis : Nat) : String :=
  let d := ofDays (millis / 86400000)
  let rest := millis % 86400000
  let thousandths := rest % 1000
  yearText d.year ++ "-" ++ padded 2 d.month ++ "-" ++ padded 2 d.day ++ "T" ++
    padded 2 (rest / 3600000) ++ ":" ++ padded 2 (rest / 60000 % 60) ++ ":" ++
    padded 2 (rest / 1000 % 60) ++
    (if thousandths = 0 then "" else "." ++ padded 3 thousandths) ++ "+00:00"

/-- **The text of a time that is known**: after the beginning of 1970 and before the dates end. -/
def text? (millis : Int) : Option String :=
  if 0 < millis ∧ (ofDays (millis.toNat / 86400000)).year ≤ lastYear then
    some (timeText millis.toNat)
  else none

end Date

end ChatFeed
