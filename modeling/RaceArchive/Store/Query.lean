import RaceArchive.Store.Tables
import RaceArchive.Usage
import RaceArchive.Decimal.Layout
import RaceArchive.Decimal.Parse

/-!
# Questions to the store

* A driver's *rating history*: the road rating after each rated result of the driver named,
  oldest first, with the series of the event. Results of one instant are taken by session number,
  then in key order (team, then subsession).
* A driver's *car and track usage*: for each car and track package the driver drove, the laps
  times the average lap, summed; ordered by when the pair was first driven, then by car and
  package. A result whose car, track configuration or package is unknown does not count.
* The *drivers* that have a display name, ordered by name with ASCII letters compared without
  case; names equal so are ordered octet for octet, the order of the index of names.

The sums follow the database's arithmetic. A product too large for 64 bits becomes a double, and a
sum with a double in it is a double, added with a compensation term; a sum of integers that
leaves 64 bits is a failure of the whole question. A double total is then read back as an integer from its shortest
text, which only succeeds for small whole numbers.
-/

namespace RaceArchive.Store

open Results

/-- A point of a rating history. -/
structure RatingPoint where
  startTime : Int64
  irating : Int64
  seriesName : Octets
  deriving Repr, DecidableEq, Inhabited

def noRatingChange : Int64 := -1

def categoryRoad : Int64 := 2

namespace Store

def driverNamed (db : Store) (name : Octets) : Option Int64 :=
  (db.drivers.find? (·.name == some name)).map (·.custId)

/-- Whether one result's key comes before another's, after the driver: team, subsession, then
session number. -/
def ResultRow.keyBefore (a b : ResultRow) : Bool :=
  a.teamId < b.teamId || (a.teamId == b.teamId &&
    (a.subsessionId < b.subsessionId || (a.subsessionId == b.subsessionId &&
      a.simsessionNumber ≤ b.simsessionNumber)))

def resultsOf (db : Store) (custId : Int64) : List ResultRow :=
  (db.results.filter (·.custId == custId)).mergeSort ResultRow.keyBefore

/-- A result with its subsession and session, when both are stored. -/
def joined (db : Store) (r : ResultRow) : Option (SubsessionRow × SessionRow) := do
  let _ ← db.simsessions.find? fun s => s.subsessionId == r.subsessionId && s.number == r.simsessionNumber
  let sub ← db.subsessions.find? (·.subsessionId == r.subsessionId)
  let ses ← db.sessions.find? (·.sessionId == sub.sessionId)
  pure (sub, ses)

/-- The rating history of the driver with a display name. -/
def ratingHistory (db : Store) (name : Octets) : List RatingPoint :=
  match db.driverNamed name with
  | none => []
  | some custId =>
    let rows := (db.resultsOf custId).filterMap fun r => do
      let (sub, ses) ← db.joined r
      if r.newiRating != noRatingChange && sub.licenseCategoryId == categoryRoad then
        pure ((sub.startTime, r.simsessionNumber), RatingPoint.mk sub.startTime r.newiRating ses.seriesName)
      else none
    let before (a b : (Int64 × Int64) × RatingPoint) : Bool :=
      a.1.1 < b.1.1 || (a.1.1 == b.1.1 && a.1.2 ≤ b.1.2)
    (rows.mergeSort before).map (·.2)

/-! ## Sums -/

/-- A number as the database holds it. -/
inductive Number where
  | int (n : Int64)
  | real (x : Float)
  deriving Repr, Inhabited

def fits (n : Int) : Bool := -9223372036854775808 ≤ n && n ≤ 9223372036854775807

/-- The product of two integers: an integer when it fits, else the product of their doubles. -/
def product (a b : Int64) : Number :=
  if fits (a.toInt * b.toInt) then .int (Int64.ofInt (a.toInt * b.toInt))
  else .real (Float.ofInt a.toInt * Float.ofInt b.toInt)

/-- A running sum: the integer sum while every term is an integer and it fits, else a double sum
with its compensation term, and whether an integer sum left 64 bits since the last double term. -/
structure Sum where
  real : Float := 0
  error : Float := 0
  int : Int := 0
  approximate : Bool := false
  overflowed : Bool := false
  deriving Inhabited

/-- Adds a double with compensation: the part lost to rounding is kept in the error term. -/
def Sum.step (s : Sum) (r : Float) : Sum :=
  let t := s.real + r
  let err := if s.real.abs > r.abs then s.error + ((s.real - t) + r) else s.error + ((r - t) + s.real)
  { s with real := t, error := err }

def splitBound : Int := 4503599627370496

/-- Adds an integer as a double, splitting a large one so that no part is rounded. -/
def Sum.stepInt (s : Sum) (i : Int) : Sum :=
  if i ≤ -splitBound || i ≥ splitBound then
    let small := i.tmod 16384
    (s.step (Float.ofInt (i - small))).step (Float.ofInt small)
  else s.step (Float.ofInt i)

/-- Starts the double sum from an integer. -/
def Sum.start (s : Sum) (i : Int) : Sum :=
  if i ≤ -splitBound || i ≥ splitBound then
    let small := i.tmod 16384
    { s with real := Float.ofInt (i - small), error := Float.ofInt small, approximate := true }
  else { s with real := Float.ofInt i, error := 0, approximate := true }

/-- Adds a term to a sum. -/
def Sum.add (s : Sum) : Number → Sum
  | .int n =>
    if s.approximate then s.stepInt n.toInt
    else if fits (s.int + n.toInt) then { s with int := s.int + n.toInt }
    else { (s.start s.int).stepInt n.toInt with overflowed := true }
  | .real x =>
    if s.approximate then { s.step x with overflowed := false }
    else (s.start s.int).step x

/-- The value of a sum, or the failure of an integer sum that left 64 bits. -/
def Sum.value (s : Sum) : Except Failure Number :=
  if !s.approximate then .ok (.int (Int64.ofInt s.int))
  else if s.overflowed then .error (.cause (some .database) "SQL logic error: integer overflow (1)")
  else if s.error.isFinite then .ok (.real (s.real + s.error))
  else .ok (.real s.real)

/-- The text of a double in the shortest general form, as it is shown when read as text. -/
def floatText (x : Float) : String :=
  if x.isNaN then "NaN"
  else if x.isInf then (if x > 0 then "+Inf" else "-Inf")
  else Decimal.general x

def usageColumn : String := "SUM(driver_result.laps_complete * driver_result.average_lap)"

/-- Reads a usage total as a 64-bit integer; a double is read from its text. -/
def Number.toTotal : Number → Except Failure Int64
  | .int n => .ok n
  | .real x =>
    let text := floatText x
    match Decimal.parseInt64 text with
    | .ok n => .ok (Int64.ofInt n)
    | .error r =>
      .error (.plain ("scanning car/track usage: sql: Scan error on column index 2, name " ++
        Text.quote usageColumn ++ ": converting driver.Value type float64 (" ++ Text.quote text ++
        ") to a int64: " ++ r.reason))

/-- One result as it counts towards usage: car and package ids and names, start time and time
driven. -/
structure UsageTerm where
  carId : Int64
  packageId : Int64
  car : Octets
  track : Octets
  startTime : Int64
  time : Number

/-- The results of a driver that count towards usage, in key order. -/
def usageTerms (db : Store) (custId : Int64) : List UsageTerm :=
  (db.resultsOf custId).filterMap fun r => do
    let (sub, _) ← db.joined r
    let config ← db.trackConfigs.find? (·.trackId == sub.trackId)
    let track ← db.tracks.find? (·.packageId == config.packageId)
    let car ← db.cars.find? (·.carId == r.carId)
    pure ⟨r.carId, track.packageId, car.carNameAbbreviated, track.trackName, sub.startTime,
      product r.lapsComplete r.averageLap⟩

/-- A group of usage terms: its car and package, names, earliest start and running sum. -/
structure UsageGroup where
  carId : Int64
  packageId : Int64
  car : Octets
  track : Octets
  first : Int64
  sum : Sum

/-- Adds a term to the groups, opening a group for a new pair. -/
def addTerm (groups : List UsageGroup) (t : UsageTerm) : List UsageGroup :=
  if groups.any (fun g => g.carId == t.carId && g.packageId == t.packageId) then
    groups.map fun g =>
      if g.carId == t.carId && g.packageId == t.packageId then
        { g with first := if t.startTime < g.first then t.startTime else g.first, sum := g.sum.add t.time }
      else g
  else groups ++ [⟨t.carId, t.packageId, t.car, t.track, t.startTime, ({} : Sum).add t.time⟩]

/-- The car and track usage of the driver with a display name. -/
def carTrackUsage (db : Store) (name : Octets) : Except Failure (List Usage.Row) := do
  match db.driverNamed name with
  | none => pure []
  | some custId =>
    let groups := (db.usageTerms custId).foldl addTerm []
    let before (a b : UsageGroup) : Bool :=
      a.first < b.first || (a.first == b.first &&
        (a.carId < b.carId || (a.carId == b.carId && a.packageId ≤ b.packageId)))
    let ordered := groups.mergeSort before
    let totals ← ordered.mapM fun g =>
      g.sum.value.mapError (Failure.within ("querying car/track usage of " ++ Text.quoteUtf8 name))
    totals.zip ordered |>.mapM fun (total, g) => do
      pure ⟨g.car, g.track, ← total.toTotal⟩

/-! ## Drivers -/

/-- A name's octets with ASCII capitals made small, the order of names without case. -/
def caselessKey (s : Octets) : Octets :=
  s.map fun b => if 65 ≤ b && b ≤ 90 then b + 32 else b

/-- Whether one list of octets comes before or equals another in dictionary order. -/
def octetsBefore : List UInt8 → List UInt8 → Bool
  | [], _ => true
  | _ :: _, [] => false
  | a :: as, b :: bs => a < b || (a == b && octetsBefore as bs)

/-- The drivers that have a display name, by name without case, then by name octet for octet. -/
def namedDrivers (db : Store) : List (Int64 × Octets) :=
  let named := (db.drivers.filterMap fun d => d.name.map fun n => (d.custId, n)).mergeSort
    fun a b => octetsBefore a.2 b.2
  named.mergeSort fun a b => octetsBefore (caselessKey a.2) (caselessKey b.2)

end Store

end RaceArchive.Store
