import RaceArchive.Json.Value
import RaceArchive.Time.Duration

/-!
# Run reports

What one synchronisation run did: which job on which target, how many subsessions it found,
fetched, stored and skipped, how long it took, when it finished, and the text of the failure that
ended it, empty when it succeeded. The clock readings a run takes when it starts and when it
finishes are nanoseconds since the Unix epoch; the report keeps the second of the second one, and
the time between them.
-/

namespace RaceArchive.Sync

open Json

/-- A finished synchronisation run. -/
structure Report where
  /-- The kind of run: `driver`, `season`, `tracks`, `cars`, `rebuild` or `update`. -/
  job : String := ""
  /-- What the run was about: a driver's name, a season, and so on. -/
  target : String := ""
  discovered : Int := 0
  fetched : Int := 0
  ingested : Int := 0
  skipped : Int := 0
  /-- How long the run took, in nanoseconds. -/
  duration : Int64 := 0
  /-- When the run finished, in Unix seconds. -/
  finishedAt : Int := 0
  /-- The failure that ended the run, or empty. -/
  error : String := ""
  deriving Repr, Inhabited, DecidableEq

/-- Stamps a report with the clock readings taken when its run started and when it finished. -/
def Report.stamp (start finish : Int) (r : Report) : Report :=
  { r with finishedAt := finish / 1000000000, duration := Duration.ofNanos (finish - start) }

section stamp

variable (start finish : Int) (r : Report)

@[simp] theorem Report.stamp_discovered : (r.stamp start finish).discovered = r.discovered := rfl
@[simp] theorem Report.stamp_fetched : (r.stamp start finish).fetched = r.fetched := rfl
@[simp] theorem Report.stamp_ingested : (r.stamp start finish).ingested = r.ingested := rfl
@[simp] theorem Report.stamp_skipped : (r.stamp start finish).skipped = r.skipped := rfl
@[simp] theorem Report.stamp_error : (r.stamp start finish).error = r.error := rfl

end stamp

def Report.failed (r : Report) : Bool := !r.error.isEmpty

/-- The counts and texts of a report as a document, without its clock readings. -/
def Report.toValue (r : Report) : Value :=
  .obj [("job", .str r.job), ("target", .str r.target), ("discovered", .ofInt r.discovered),
        ("fetched", .ofInt r.fetched), ("ingested", .ofInt r.ingested),
        ("skipped", .ofInt r.skipped), ("error", .str r.error)]

/-- A report as a document with when it finished and how long it took. -/
def Report.toTimedValue (r : Report) : Value :=
  match r.toValue with
  | .obj fields => .obj (fields ++ [("finished_at", .ofInt r.finishedAt),
                                    ("duration_ns", .ofInt64 r.duration)])
  | v => v

end RaceArchive.Sync
