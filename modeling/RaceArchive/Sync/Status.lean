import RaceArchive.Sync.Report
import RaceArchive.Table

/-!
# The status of sync jobs

For each job key the status keeps the last run, the instant of the last successful run, and how
many runs in a row have failed. A successful run resets the failure streak to zero; a failed run
extends it and leaves the last success as it was.

The jobs are healthy when none has failed as many times in a row as allowed; allowing no failures
at all means allowing one.
-/

namespace RaceArchive.Sync

/-- The status of every job seen. -/
structure Status where
  /-- The last run per job. -/
  runs : Table Report := []
  /-- The instant of the last successful run per job, in Unix seconds. -/
  lastPoll : Table Int := []
  /-- The number of failed runs in a row per job. -/
  failures : Table Int := []
  deriving Repr, Inhabited

/-- Records the outcome of a run of a job. -/
def Status.record (s : Status) (key : String) (r : Report) : Status :=
  let runs := s.runs.insert key r
  if r.failed then
    { s with runs, failures := s.failures.alter key fun n => n.getD 0 + 1 }
  else
    { runs, lastPoll := s.lastPoll.insert key r.finishedAt, failures := s.failures.insert key 0 }

/-- Whether no job has failed `maxFailures` times in a row; a limit that is not positive is one. -/
def Status.healthy (s : Status) (maxFailures : Int) : Bool :=
  let limit := if maxFailures ≤ 0 then 1 else maxFailures
  s.failures.all fun (_, n) => n < limit

/-- The failure of a job's last run, or `unknown error`. -/
def Status.lastError (s : Status) (job : String) : String :=
  match s.runs.find? job with
  | some r => if r.failed then r.error else "unknown error"
  | none => "unknown error"

end RaceArchive.Sync
