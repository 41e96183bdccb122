import RaceArchive.Time.Duration
import RaceArchive.Sync.Report
import RaceArchive.Web.Url

/-!
# Formatting for the index page

Lap times and driven times are counted in ten-thousandths of a second. A lap time is shown as
`m:ss.sss`, or `--` when there is none. A duration is shown in its two largest units: seconds
alone under a minute, then minutes and seconds, then hours and minutes; the parts are the whole
numbers of the duration read in those units. An instant is shown as its UTC date and minute.
-/

namespace RaceArchive.Page

def lapTimeUnit : Int64 := 10000

def whole (x : Float) : Int := x.toInt64.toInt

/-- A lap time as `m:ss.sss`; `--` for a time that is not positive. -/
def lapTime (t : Int64) : String :=
  if t ≤ 0 then "--"
  else
    let ms := t.toInt.toNat / 10
    toString (ms / 60000) ++ ":" ++ Civil.padded 2 (ms / 1000 % 60) ++ "." ++
      Civil.padded 3 (ms % 1000)

/-- A duration in its two largest units: `42s`, `3m 7s` or `25h 0m`. -/
def span (d : Int64) : String :=
  if d < Duration.minute then toString (whole (Duration.seconds d)) ++ "s"
  else if d < Duration.hour then
    toString (whole (Duration.minutes d)) ++ "m " ++ toString ((whole (Duration.seconds d)).tmod 60) ++ "s"
  else
    toString (whole (Duration.hours d)) ++ "h " ++ toString ((whole (Duration.minutes d)).tmod 60) ++ "m"

def driveTime (t : Int64) : String := span (t * Duration.second / lapTimeUnit)

def minuteStamp (t : Int) : String := (Civil.ofUnix t).minuteText

/-- The link to a query endpoint for one driver, the name escaped octet for octet. -/
def driverLink (path : String) (name : Octets) : String :=
  path ++ "?driver_name=" ++ Url.queryEscapeOctets name

/-- The style class and text of a run's status: unknown without a run, the failure of a failed
run, and `ok` otherwise. -/
def runStatus : Option Sync.Report → String × String
  | none => ("status-unknown", "unknown")
  | some r => if r.failed then ("status-critical", r.error) else ("status-ok", "ok")

def dropRepeats : List String → List String
  | a :: b :: rest => if a = b then dropRepeats (b :: rest) else a :: dropRepeats (b :: rest)
  | l => l

def sortedKeys (keys : List String) : List String :=
  dropRepeats (keys.mergeSort fun a b => decide (a ≤ b))

end RaceArchive.Page
