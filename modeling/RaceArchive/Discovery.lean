import RaceArchive.Remote.Endpoints
import RaceArchive.Text.CaseMap

/-!
# Finding subsessions

The results service has no query for everything since a date, so a driver's history is found by
replaying a grid of series searches: every quarter of every year from the year the driver joined
to the last season year. The grid is run in full each time; the session cache makes repeated runs
cheap by telling which of the ids found are stored already.

Years are 64-bit integers, counted up one at a time while they are at most the last season year.
When the last season year is the largest 64-bit integer, the year after it wraps around to the
smallest, which is again at most the last: the grid never runs out and the search never ends.

A driver named by free text is resolved by a lookup. With several matches, the first whose name
equals the text up to case folding wins; otherwise the first match wins, or in strict mode the
lookup fails as ambiguous.
-/

namespace RaceArchive.Discovery

open Remote

/-- How discovery runs. -/
structure Config where
  /-- The last year of the search grid, inclusive. -/
  lastSeasonYear : Int
  /-- Whether an ambiguous driver lookup fails instead of taking the first match. -/
  strict : Bool

/-- The subsessions a search found: all of them sorted without repeats, and those among them
that the cache does not hold. -/
structure Found where
  all : Array Int64
  uncached : Array Int64
  deriving Repr

def notFound (identifier : String) : Failure :=
  .within (Text.quote identifier) (.cause (some .driverNotFound) "driver not found")

/-- The failure of a strict lookup with several matches and none exact. -/
def ambiguous (identifier : String) (hits : Array DriverMatch) : Failure :=
  .cause (some .ambiguousDriver)
    ("driver " ++ Text.quote identifier ++ " is ambiguous: " ++
      ", ".intercalate (hits.toList.map fun m =>
        Utf8.lossy m.displayName ++ " (" ++ toString m.custId.toInt ++ ")"))

/-- Picks one driver of the matches of a lookup. -/
def choose (cfg : Config) (identifier : String) (hits : Array DriverMatch) :
    Except Failure DriverMatch :=
  match hits.toList with
  | [] => .error (notFound identifier)
  | [m] => .ok m
  | first :: _ =>
    match hits.find? (fun m => CaseMap.equalFold (Utf8.lossy m.displayName) identifier) with
    | some m => .ok m
    | none => if cfg.strict then .error (ambiguous identifier hits) else .ok first

def resolveDriver (cfg : Config) (identifier : String) : Link (Except Failure DriverMatch) := do
  match ← lookupDrivers identifier with
  | .error f => pure (.error f)
  | .ok hits => pure (choose cfg identifier hits)

/-- Drops the repeats of a sorted list, keeping one of each run of equal neighbours. -/
def dropRepeats : List Int64 → List Int64
  | a :: b :: rest => if a = b then dropRepeats (b :: rest) else a :: dropRepeats (b :: rest)
  | l => l

/-- The ids found, sorted without repeats, and those that the cache does not hold. -/
def found (cached : Int64 → Bool) (ids : Array Int64) : Found :=
  let all := (dropRepeats (ids.toList.mergeSort fun a b => decide (a ≤ b))).toArray
  ⟨all, all.filter fun id => !cached id⟩

def yearQueries (custId : Int64) (year : Int) : List SeriesQuery :=
  [1, 2, 3, 4].map fun quarter => { year, quarter, custId := some custId }

/-- Runs searches in order, joining the ids each one finds to those found so far; the first
failure ends the run. -/
def searchAll : List SeriesQuery → Array Int64 → Link (Except Failure (Array Int64))
  | [], ids => pure (.ok ids)
  | q :: qs, ids => do
    match ← searchSeries q with
    | .error f => pure (.error f)
    | .ok more => searchAll qs (ids ++ more)

/-- Runs the searches of `n` years from `year` on, one year after the other. -/
def searchYears (custId : Int64) : Int → Nat → Array Int64 → Link (Except Failure (Array Int64))
  | _, 0, ids => pure (.ok ids)
  | year, n + 1, ids => do
    match ← searchAll (yearQueries custId year) ids with
    | .error f => pure (.error f)
    | .ok ids => searchYears custId (year + 1) n ids

/-- Whether the grid from the year `first` on never runs out: `first` is at most the last season
year, and that is the largest 64-bit integer, after which the years wrap around. -/
def Config.gridNeverEnds (cfg : Config) (first : Int) : Bool :=
  first ≤ cfg.lastSeasonYear && Int64.maxValue.toInt ≤ cfg.lastSeasonYear

def neverEnds {α : Type} (loop : String) : Link (Except Failure α) := do
  modify fun w => { w with crash := some (.endless loop) }
  pure (.error (.plain (Crash.endless loop).message))

/-- Every subsession of a known driver, by the search grid from the year they joined. Once the
grid has reached the largest year, a grid that never runs out goes on without end. -/
def findCustomer (cfg : Config) (cached : Int64 → Bool) (custId : Int64) :
    Link (Except Failure Found) := do
  match ← memberSince custId with
  | .error f => pure (.error f)
  | .ok since =>
    match ← searchYears custId since (cfg.lastSeasonYear + 1 - since).toNat #[] with
    | .error f => pure (.error f)
    | .ok ids =>
      if cfg.gridNeverEnds since then neverEnds "the search grid"
      else pure (.ok (found cached ids))

/-- Every subsession of a driver named by free text. -/
def findDriver (cfg : Config) (cached : Int64 → Bool) (identifier : String) :
    Link (Except Failure Found) := do
  match ← resolveDriver cfg identifier with
  | .error f => pure (.error f)
  | .ok driver => findCustomer cfg cached driver.custId

/-- Every subsession of one season quarter, optionally of one race week. -/
def findSeason (cached : Int64 → Bool) (year quarter : Int) (week : Option Int) :
    Link (Except Failure Found) := do
  if quarter < 1 ∨ quarter > 4 then
    pure (.error (.plain ("quarter " ++ toString quarter ++ " out of range 1-4")))
  else
    match ← searchSeries { year, quarter, week } with
    | .error f => pure (.error f)
    | .ok ids => pure (.ok (found cached ids))

end RaceArchive.Discovery
