import RaceArchive.Page.Format
import RaceArchive.Sync.Status

/-!
# The index page

The index page lists the drivers with a display name, each with links to their rating history
and car/track usage, and the last run of every job with how long ago it finished, what it stored,
how long it took and how it ended. Every text taken from data is escaped for HTML; a name that is
not UTF-8 shows each bad octet as U+FFFD, and its links escape it octet for octet.

Ages are whole minutes under an hour, whole hours under a day, and whole days beyond, each
rounded towards zero.
-/

namespace RaceArchive.Page

/-- A character escaped for HTML text or an attribute. -/
def escapeChar (c : Char) : String :=
  match c with
  | '&' => "&amp;"
  | '<' => "&lt;"
  | '>' => "&gt;"
  | '"' => "&#34;"
  | '\x27' => "&#39;"
  | c => c.toString

def escapeHtml (s : String) : String := String.join (s.toList.map escapeChar)

/-- How long ago an instant was, both in Unix seconds: `12m`, `5h` or `3d`. -/
def age (now t : Int) : String :=
  let seconds := now - t
  if seconds < 3600 then toString (seconds.tdiv 60) ++ "m"
  else if seconds < 86400 then toString (seconds.tdiv 3600) ++ "h"
  else toString (seconds.tdiv 86400) ++ "d"

def oldestPoll (now : Int) (lastPoll : List Int) : String :=
  match lastPoll with
  | [] => "never"
  | t :: rest => age now (rest.foldl min t) ++ " ago"

/-- The head of the page, up to the drivers. -/
def pageHead : String :=
  "<!doctype html><html lang=\"en\"><head><meta charset=\"utf-8\"><meta name=\"viewport\" " ++
  "content=\"width=device-width, initial-scale=1\"><title>racestats</title><style>\n" ++
  "\t\t\t\tbody\x7bfont-family:system-ui,sans-serif;margin:2rem;color:#222\x7d\n" ++
  "\t\t\t\ttable\x7bborder-collapse:collapse;margin-bottom:2rem\x7d\n" ++
  "\t\t\t\ttd,th\x7bpadding:.3rem .8rem;border-bottom:1px solid #ddd;text-align:left\x7d\n" ++
  "\t\t\t\t.status-ok\x7bcolor:#1a7f37\x7d.status-critical\x7bcolor:#cf222e\x7d" ++
  ".status-unknown\x7bcolor:#777\x7d\n" ++
  "\t\t\t</style></head><body><h1>racestats</h1><h2>Drivers</h2>"

/-- The row of one driver. -/
def driverRow (custId : Int64) (name : Octets) : String :=
  "<tr><td>" ++ escapeHtml (Utf8.lossy name) ++ "</td><td>" ++ toString custId.toInt ++ "</td><td><a href=\"" ++
  escapeHtml (driverLink "/api/v1/irating-history" name) ++ "\">rating history</a> | <a href=\"" ++
  escapeHtml (driverLink "/api/v1/car-track-usage-stats" name) ++
  "\">car/track usage</a></td></tr>"

/-- The drivers section. -/
def driversSection (drivers : List (Int64 × Octets)) : String :=
  if drivers.isEmpty then "<p>No drivers synced yet.</p>"
  else
    "<table><tr><th>Driver</th><th>Customer ID</th><th>Data</th></tr>" ++
    String.join (drivers.map fun (c, n) => driverRow c n) ++ "</table>"

/-- The row of a job's last run. -/
def runRow (now : Int) (key : String) (r : Sync.Report) : String :=
  let (cls, text) := runStatus (some r)
  "<tr><td>" ++ escapeHtml key ++ "</td><td>" ++ escapeHtml (age now r.finishedAt) ++
  " ago</td><td>" ++ toString r.ingested ++ "</td><td>" ++ escapeHtml (span r.duration) ++
  "</td><td class=\"" ++ escapeHtml cls ++ "\">" ++ escapeHtml text ++ "</td></tr>"

/-- The runs section. -/
def runsSection (now : Int) (status : Sync.Status) : String :=
  let oldest := oldestPoll now (status.lastPoll.map (·.2))
  let table :=
    if status.runs.isEmpty then ""
    else
      "<table><tr><th>Job</th><th>Finished</th><th>Stored</th><th>Took</th><th>Status</th></tr>" ++
      String.join ((sortedKeys (status.runs.map (·.1))).filterMap fun key =>
        (status.runs.find? key).map (runRow now key)) ++ "</table>"
  "<h2>Sync runs</h2><p>Oldest successful run: " ++ escapeHtml oldest ++ "</p>" ++ table

def index (now : Int) (drivers : List (Int64 × Octets)) (status : Sync.Status) : String :=
  pageHead ++ driversSection drivers ++ runsSection now status ++
  "<p><a href=\"/swagger/index.html\">API documentation</a></p></body></html>"

end RaceArchive.Page
