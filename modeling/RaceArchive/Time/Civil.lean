/-!
# Civil dates and Unix seconds

Dates of the proleptic Gregorian calendar, counted in days from 1970-01-01, and instants counted
in seconds from 1970-01-01T00:00:00 UTC. The day count of a date works on 400-year eras, each of
146097 days; months are counted from March inside a year, so that the leap day falls last.
-/

namespace RaceArchive.Civil

def isLeap (y : Int) : Bool := y % 4 = 0 ∧ (y % 100 ≠ 0 ∨ y % 400 = 0)

/-- The number of days in a month (1 to 12) of a year. -/
def daysIn (month : Nat) (y : Int) : Nat :=
  match month with
  | 2 => if isLeap y then 29 else 28
  | 4 | 6 | 9 | 11 => 30
  | _ => 31

/-- The day number of a date, counted from 1970-01-01. -/
def daysFromCivil (y : Int) (m d : Nat) : Int :=
  let y := if m ≤ 2 then y - 1 else y
  let era := y / 400
  let yoe := y - era * 400
  let mp : Int := if m > 2 then m - 3 else m + 9
  let doy := (153 * mp + 2) / 5 + d - 1
  let doe := yoe * 365 + yoe / 4 - yoe / 100 + doy
  era * 146097 + doe - 719468

/-- A date and a time of day. -/
structure DateTime where
  year : Int
  month : Nat
  day : Nat
  hour : Nat
  minute : Nat
  second : Nat
  deriving Repr, DecidableEq

/-- The date of a day number counted from 1970-01-01: year, month and day. -/
def civilFromDays (z : Int) : Int × Nat × Nat :=
  let z := z + 719468
  let era := z / 146097
  let doe := z - era * 146097
  let yoe := (doe - doe / 1460 + doe / 36524 - doe / 146096) / 365
  let doy := doe - (365 * yoe + yoe / 4 - yoe / 100)
  let mp := (5 * doy + 2) / 153
  let d := doy - (153 * mp + 2) / 5 + 1
  let m := if mp < 10 then mp + 3 else mp - 9
  let y := yoe + era * 400
  (if m ≤ 2 then y + 1 else y, m.toNat, d.toNat)

def DateTime.toUnix (t : DateTime) : Int :=
  daysFromCivil t.year t.month t.day * 86400 + t.hour * 3600 + t.minute * 60 + t.second

/-- Seconds from the earliest instant that dates are computed from, 1 March of the year
-292277022400, to 1970-01-01. -/
def earliestToUnix : Int := 9223372028741760000

/-- The instant whose date is shown for Unix seconds `s` of the 64-bit range. Dates are computed
from unsigned 64-bit seconds counted from the earliest instant, so an instant before it wraps
around by 2^64 seconds into the far future. -/
def shownInstant (s : Int) : Int := if s < -earliestToUnix then s + Nat.pow 2 64 else s

/-- The UTC date and time shown for an instant in Unix seconds (see `shownInstant`). -/
def ofUnix (s : Int) : DateTime :=
  let s := shownInstant s
  let days := s / 86400
  let rest := (s % 86400).toNat
  let (y, m, d) := civilFromDays days
  ⟨y, m, d, rest / 3600, rest / 60 % 60, rest % 60⟩

def padded (width : Nat) (n : Nat) : String :=
  let ds := Nat.toDigits 10 n
  String.ofList (List.replicate (width - ds.length) '0' ++ ds)

/-- A year with at least four digits and a minus sign before the year if negative. -/
def yearText (y : Int) : String :=
  (if y < 0 then "-" else "") ++ padded 4 y.natAbs

def DateTime.dateText (t : DateTime) : String :=
  yearText t.year ++ "-" ++ padded 2 t.month ++ "-" ++ padded 2 t.day

def DateTime.stamp (t : DateTime) : String :=
  t.dateText ++ "T" ++ padded 2 t.hour ++ ":" ++ padded 2 t.minute ++ ":" ++ padded 2 t.second ++ "Z"

def DateTime.minuteText (t : DateTime) : String :=
  t.dateText ++ " " ++ padded 2 t.hour ++ ":" ++ padded 2 t.minute

end RaceArchive.Civil
