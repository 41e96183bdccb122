import RaceArchive.Sync.Status
import RaceArchive.Notify.Message

/-!
# Alerts on sync jobs

Two rules watch the status of the jobs, each optional:

* a job that has failed at least a threshold number of times in a row is *failing*, and a
  notification says so, with the failure of its last run;
* a job whose last success is at least a maximum age ago is *stale*, and a notification says how
  long ago, rounded to the minute.

Each alert has a cooldown: it fires again for the same job only once the cooldown has passed
since it last fired. A job that was failing and has just succeeded (its streak back to zero) is
announced once as recovered, and its failing alert may fire again at once when it fails anew.
-/

namespace RaceArchive.Sync

open Notify

/-- The rule for failing jobs. -/
structure FailingRule where
  threshold : Int
  severity : String
  /-- In nanoseconds. -/
  cooldown : Int64
  deriving Repr, Inhabited

/-- The rule for stale jobs. -/
structure StaleRule where
  /-- In nanoseconds. -/
  maxAge : Int64
  severity : String
  /-- In nanoseconds. -/
  cooldown : Int64
  deriving Repr, Inhabited

/-- The alert rules; a missing rule is off. -/
structure AlertRules where
  failing : Option FailingRule := none
  stale : Option StaleRule := none
  deriving Repr, Inhabited

/-- The usual rules: failing after three failures, at most every six hours; stale after two days,
at most once a day. -/
def AlertRules.usual : AlertRules :=
  { failing := some ⟨3, "critical", 6 * Duration.hour⟩,
    stale := some ⟨48 * Duration.hour, "warning", 24 * Duration.hour⟩ }

/-- The alerter: its rules, when each alert last fired, and the jobs with an open failing alert. -/
structure Alerter where
  rules : AlertRules
  lastFired : Table Int := []
  failing : List String := []
  deriving Repr, Inhabited

/-- An alert fires unless it fired less than its cooldown ago; the alerter after it, and the
notification if it fired. -/
def Alerter.fire (a : Alerter) (now : Int) (key : String) (cooldown : Int64)
    (n : Notification) : Alerter × Option Notification :=
  match a.lastFired.find? key with
  | some last => if Duration.between now last < cooldown then (a, none)
      else ({ a with lastFired := a.lastFired.insert key now }, some n)
  | none => ({ a with lastFired := a.lastFired.insert key now }, some n)

/-- The notification of a failing job. -/
def failingNotice (s : Status) (rule : FailingRule) (now : Int) (job : String) (n : Int) :
    Notification :=
  { kind := kindFailing, severity := rule.severity, title := "Sync failing: " ++ job,
    message := job ++ " failed " ++ toString n ++ " times in a row: " ++ s.lastError job,
    subject := job, timestamp := now, metadata := some [("failures", toString n)] }

def recoveredNotice (now : Int) (job : String) : Notification :=
  { kind := kindRecovered, severity := "info", title := "Sync recovered: " ++ job,
    message := job ++ " succeeded again", subject := job, timestamp := now }

/-- The notification of a stale job. -/
def staleNotice (rule : StaleRule) (now last : Int) (age : Int64) (job : String) : Notification :=
  { kind := kindStale, severity := rule.severity, title := "Sync stale: " ++ job,
    message := job ++ " last succeeded " ++ Duration.text (Duration.round age Duration.minute) ++ " ago",
    subject := job, timestamp := now,
    metadata := some [("last_success", (Civil.ofUnix last).stamp)] }

/-- Applies the failing rule to one job. -/
def Alerter.checkFailing (s : Status) (rule : FailingRule) (now : Int)
    (acc : Alerter × List Notification) (entry : String × Int) : Alerter × List Notification :=
  let (a, sent) := acc
  let (job, n) := entry
  if n ≥ rule.threshold then
    let a := if a.failing.contains job then a else { a with failing := a.failing ++ [job] }
    let (a, fired) := a.fire now ("sync_failing:" ++ job) rule.cooldown (failingNotice s rule now job n)
    (a, sent ++ fired.toList)
  else if a.failing.contains job ∧ n = 0 then
    ({ a with failing := a.failing.erase job, lastFired := a.lastFired.erase ("sync_failing:" ++ job) },
      sent ++ [recoveredNotice now job])
  else (a, sent)

/-- Applies the stale rule to one job. -/
def Alerter.checkStale (rule : StaleRule) (now : Int)
    (acc : Alerter × List Notification) (entry : String × Int) : Alerter × List Notification :=
  let (a, sent) := acc
  let (job, last) := entry
  let age := Duration.between now last
  if age < rule.maxAge then (a, sent)
  else
    let (a, fired) := a.fire now ("sync_stale:" ++ job) rule.cooldown (staleNotice rule now last age job)
    (a, sent ++ fired.toList)

/-- Evaluates the rules against a status at an instant: the alerter after it and the
notifications sent, failing and recovered jobs first, then stale ones, each in job order. -/
def Alerter.evaluate (a : Alerter) (s : Status) (now : Int) : Alerter × List Notification :=
  let afterFailing := match a.rules.failing with
    | some rule => s.failures.foldl (checkFailing s rule now) (a, [])
    | none => (a, [])
  match a.rules.stale with
  | some rule => s.lastPoll.foldl (checkStale rule now) afterFailing
  | none => afterFailing

end RaceArchive.Sync
