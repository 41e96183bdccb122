import RaceArchive.Sync.Report
import RaceArchive.Time.Duration

/-!
# Notifications

A notification is what the service tells the outside world about its runs: a kind, a severity,
a title and message, the subject it is about, when it happened, and optional text metadata.

A finished run becomes a `sync_complete` notification at `info` severity whose message counts
what the run did; a failed run becomes `sync_failed` at `warning` severity whose message is the
failure.

As a document a notification carries its instant as an RFC 3339 timestamp, which exists only
for years 0 to 9999; metadata appears only when there is some, with keys in order.
-/

namespace RaceArchive.Notify

open Json

def kindComplete : String := "sync_complete"

def kindFailed : String := "sync_failed"

def kindFailing : String := "sync_failing"

/-- The kind of a notification about a job that has not succeeded for too long. -/
def kindStale : String := "sync_stale"

def kindRecovered : String := "sync_recovered"

/-- A notification. -/
structure Notification where
  kind : String := ""
  severity : String := ""
  title : String := ""
  message : String := ""
  subject : String := ""
  /-- When it happened, in Unix seconds. -/
  timestamp : Int := 0
  /-- Text metadata, if any. -/
  metadata : Option (List (String × String)) := none
  deriving Repr, Inhabited, DecidableEq

/-- The notification of a finished run. -/
def fromReport (r : Sync.Report) : Notification :=
  let subject := if r.target.isEmpty then r.job else r.job ++ " " ++ r.target
  let took := Duration.text (Duration.round r.duration Duration.second)
  let metadata := [("job", r.job), ("discovered", toString r.discovered),
    ("fetched", toString r.fetched), ("ingested", toString r.ingested), ("duration", took)]
  if r.failed then
    { kind := kindFailed, severity := "warning", title := "Sync failed: " ++ subject,
      message := r.error, subject, timestamp := r.finishedAt, metadata := some metadata }
  else
    { kind := kindComplete, severity := "info", title := "Sync complete: " ++ subject,
      message := toString r.discovered ++ " new sessions found, " ++ toString r.fetched ++
        " fetched, " ++ toString r.ingested ++ " stored in " ++ took,
      subject, timestamp := r.finishedAt, metadata := some metadata }

def sortedMetadata (m : List (String × String)) : List (String × String) :=
  m.mergeSort fun a b => decide (a.1 ≤ b.1)

def metadataValue : Option (List (String × String)) → Value
  | none => .null
  | some m => .obj ((sortedMetadata m).map fun (k, v) => (k, .str v))

def Notification.toValue (n : Notification) : Value :=
  .obj [("kind", .str n.kind), ("severity", .str n.severity), ("title", .str n.title),
        ("message", .str n.message), ("subject", .str n.subject),
        ("metadata", metadataValue n.metadata), ("timestamp", .ofInt n.timestamp)]

def timestampText (t : Int) : Except String String :=
  let dt := Civil.ofUnix t
  if dt.year < 0 ∨ dt.year > 9999 then .error "Time.MarshalJSON: year outside of range [0,9999]"
  else .ok dt.stamp

/-- A notification as the document a webhook receives. -/
def Notification.toDocument (n : Notification) : Except String Value := do
  let stamp ← timestampText n.timestamp
  let fields := [("kind", Value.str n.kind), ("severity", .str n.severity), ("title", .str n.title),
    ("message", .str n.message), ("subject", .str n.subject), ("timestamp", .str stamp)]
  match n.metadata with
  | some m@(_ :: _) => pure (.obj (fields ++ [("metadata", metadataValue (some m))]))
  | _ => pure (.obj fields)

end RaceArchive.Notify
