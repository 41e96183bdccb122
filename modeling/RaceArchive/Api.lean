import RaceArchive.Store.Query
import RaceArchive.Page.Index
import RaceArchive.Web.Address
import RaceArchive.Text.Utf8

/-!
# The query service

The service answers HTTP requests about the store and the job status:

* `/irating-history` and `/car-track-usage-stats`, with the driver in the `driver_name` query
  parameter, give a driver's rating history and car/track usage table as JSON; without the
  parameter they answer `Need driver_name` as plain text;
* `/drivers` gives the drivers with a display name;
* the three are served at the root and under `/api/v1`;
* `/healthz` gives the job status: `degraded` (with status 503) when a job failed three times
  in a row, `no_data` when no job ever succeeded, `ok` otherwise;
* `/` gives the index page; any other path is not found.

Routes answer `GET` and `HEAD`; other methods are not allowed on any path. A path is first
cleaned: a path with empty, `.` or `..` names is redirected to its clean form (except for a
`CONNECT` request, whose path is taken as sent), and `/swagger` to `/swagger/`. The API documentation and metrics pages are not served here.

Every response carries the security headers. With a limit per minute, each client (see
`Address.client`) may make that many requests in the current minute; a request over the limit is
refused with status 429 before it is routed.
-/

namespace RaceArchive.Api

open Url (Bytes ascii)

/-- A request: method, target (path and query as sent), and the remote address. -/
structure Request where
  method : String
  target : String
  remote : String

/-- A response: status, headers by name, and body. -/
structure Response where
  status : Nat
  headers : List (String × String)
  body : String
  deriving Repr

def setHeader (hs : List (String × String)) (name value : String) : List (String × String) :=
  if hs.any (·.1 == name) then hs.map fun h => if h.1 == name then (name, value) else h
  else hs ++ [(name, value)]

/-- The headers every response carries. -/
def securityHeaders : List (String × String) :=
  [("X-Content-Type-Options", "nosniff"), ("X-Frame-Options", "DENY"),
   ("Content-Security-Policy",
    "default-src \x27self\x27; script-src \x27self\x27 \x27unsafe-inline\x27; " ++
    "style-src \x27self\x27 \x27unsafe-inline\x27; img-src \x27self\x27 data:"),
   ("Referrer-Policy", "strict-origin-when-cross-origin"), ("Cache-Control", "no-store")]

def failure (hs : List (String × String)) (status : Nat) (text : String) : Response :=
  let hs := setHeader (setHeader hs "Content-Type" "text/plain; charset=utf-8") "X-Content-Type-Options" "nosniff"
  ⟨status, hs, text ++ "\n"⟩

def notFound (hs : List (String × String)) : Response := failure hs 404 "404 page not found"

def internalError (hs : List (String × String)) : Response := failure hs 500 "Internal Server Error"

def json (hs : List (String × String)) (status : Nat) (v : Json.Value) : Response :=
  ⟨status, setHeader hs "Content-Type" "application/json", v.render⟩

/-! ## Paths -/

/-- Octets split at each slash. -/
def splitSlash (p : Bytes) : List Bytes :=
  p.foldr (fun c acc => if c == 0x2F then [] :: acc else
    match acc with
    | first :: rest => (c :: first) :: rest
    | [] => [[c]]) [[]]

/-- Names joined with slashes. -/
def joinSlash : List Bytes → Bytes
  | [] => []
  | [n] => n
  | n :: rest => n ++ 0x2F :: joinSlash rest

/-- The names of a rooted path after cleaning: empty and `.` names dropped, and each `..` taking
the name before it off. -/
def cleanNames (names : List Bytes) : List Bytes :=
  names.foldl (fun acc n =>
    if n.isEmpty || n == [0x2E] then acc
    else if n == [0x2E, 0x2E] then acc.dropLast
    else acc ++ [n]) []

/-- A request path made rooted and clean, keeping a final slash. -/
def cleanPath (p : Bytes) : Bytes :=
  if p.isEmpty then [0x2F]
  else
    let p := if p.head? == some 0x2F then p else 0x2F :: p
    let np := 0x2F :: joinSlash (cleanNames (splitSlash p))
    if p.getLast? == some 0x2F && np != [0x2F] then np ++ [0x2F] else np

/-- What a request can be served. -/
inductive Endpoint where
  | index
  | ratingHistory
  | usage
  | drivers
  | health
  | metrics
  | documentation
  deriving DecidableEq, Repr

/-- The page of a query name. -/
def queryPage : String → Option Endpoint
  | "irating-history" => some .ratingHistory
  | "car-track-usage-stats" => some .usage
  | "drivers" => some .drivers
  | _ => none

def pathNames (p : Bytes) : List String :=
  (splitSlash (p.drop 1)).map fun n =>
    Utf8.decodeLossy ⟨((Url.unescape n .pathSegment).toOption.getD n).toArray⟩

/-- The page a clean escaped path leads to, and whether the path names it exactly (a page for a
whole subtree is named exactly only by its root with the final slash). -/
def route (p : Bytes) : Endpoint × Bool :=
  match pathNames p with
  | [name] =>
    match queryPage name with
    | some page => (page, true)
    | none =>
      if name == "healthz" then (.health, true)
      else if name == "metrics" then (.metrics, true)
      else (.index, p == [0x2F])
  | ["api", "v1", name] =>
    match queryPage name with
    | some page => (page, true)
    | none => (.index, false)
  | "swagger" :: rest => if rest.isEmpty then (.index, false) else (.documentation, rest == [""])
  | _ => (.index, false)

def link (path : Bytes) (query : String) : String :=
  let p := String.ofList ((Url.escape path .path).map fun c => Char.ofNat c.toNat)
  if query.isEmpty then p else p ++ "?" ++ query

/-- A permanent redirect to a local link. -/
def redirect (hs : List (String × String)) (method : String) (target : String) : Response :=
  let hs := setHeader hs "Location" target
  let isGet := method == "GET"
  let hs := if isGet || method == "HEAD" then setHeader hs "Content-Type" "text/html; charset=utf-8" else hs
  let body := if isGet then "<a href=\"" ++ Page.escapeHtml target ++ "\">Moved Permanently</a>.\n\n" else ""
  ⟨301, hs, body⟩

/-! ## Queries -/

/-- The first value of a query parameter, as octets; pairs that do not decode are skipped. -/
def queryValue (query : String) (key : String) : Option Bytes :=
  let pairs := (query.splitOn "&").filterMap fun pair =>
    if pair.isEmpty || pair.contains ';' then none
    else
      let (k, v) := match pair.splitOn "=" with
        | k :: rest => (k, "=".intercalate rest)
        | [] => ("", "")
      match Url.unescape (ascii k) .queryComponent, Url.unescape (ascii v) .queryComponent with
      | .ok k, .ok v => some (k, v)
      | _, _ => none
  (pairs.find? (·.1 == ascii key)).map (·.2)

/-- A rating point as a document. -/
def pointValue (p : Store.RatingPoint) : Json.Value :=
  .obj [("start_time", .ofInt64 p.startTime), ("irating", .ofInt64 p.irating),
        ("series_name", .octets p.seriesName)]

/-! ## The service -/

/-- The service: the store and job status it reads, the requests allowed per client and minute
(none when not positive), the current instant in Unix seconds, and the requests each client
made this minute. -/
structure Service where
  store : Store.Store
  status : Sync.Status
  perMinute : Int
  now : Int
  counts : List (Address.Client × Nat) := []

def maxConsecutiveFailures : Int := 3

/-- The health document and its status. -/
def health (s : Service) : Nat × Json.Value :=
  let (word, code) :=
    if !s.status.healthy maxConsecutiveFailures then ("degraded", 503)
    else if s.status.lastPoll.isEmpty then ("no_data", 200)
    else ("ok", 200)
  let byKey {α : Type} (t : List (String × α)) := t.mergeSort fun a b => decide (a.1 ≤ b.1)
  (code, .obj [
    ("failures", .obj ((byKey s.status.failures).map fun (k, n) => (k, .ofInt n))),
    ("jobs", .obj ((byKey s.status.lastPoll).map fun (k, t) => (k, .str (toString (s.now - t) ++ "s ago")))),
    ("status", .str word), ("timestamp", .ofInt s.now)])

/-- Answers a query for the driver named in the query, or asks for the name. -/
def forDriver (hs : List (String × String)) (query : String) (answer : Octets → Response) :
    Response :=
  match queryValue query "driver_name" with
  | none | some [] => ⟨200, setHeader hs "Content-Type" "text/plain; charset=utf-8", "Need driver_name"⟩
  | some name => answer name

/-- Serves a routed request. -/
def page (s : Service) (hs : List (String × String)) (path : Bytes) (query : String) : Endpoint → Response
  | .index =>
    if path != [0x2F] then notFound hs
    else ⟨200, setHeader hs "Content-Type" "text/html; charset=utf-8",
      Page.index s.now s.store.namedDrivers s.status⟩
  | .ratingHistory => forDriver hs query fun name =>
    json hs 200 (.arr ((s.store.ratingHistory name).map pointValue))
  | .usage => forDriver hs query fun name =>
    match s.store.carTrackUsage name with
    | .ok rows => json hs 200 (Usage.Matrix.ofRows rows).toValue
    | .error _ => internalError hs
  | .drivers =>
    json hs 200 (.arr (s.store.namedDrivers.map fun (c, n) =>
      .obj [("cust_id", .ofInt64 c), ("display_name", .octets n)]))
  | .health => let (code, v) := health s; json hs code v
  | .metrics | .documentation => notFound hs

/-- Routes a request that the rate limit let through. -/
def dispatch (s : Service) (hs : List (String × String)) (req : Request) : Response :=
  let raw := ascii req.target
  if raw == ascii "*" then ⟨400, hs, ""⟩
  else
    let (rest, query) := match raw.idxOf? 0x3F with
      | some i => (raw.take i, String.ofList ((raw.drop (i + 1)).map fun (c : UInt8) => Char.ofNat c.toNat))
      | none => (raw, "")
    let parsed : Option Url.Url :=
      if raw.any (fun c => c < 0x20 || c == 0x7F) || rest.head? != some 0x2F then none
      else (Url.Url.withPath {} rest).toOption
    match parsed with
    | none => ⟨400, hs, ""⟩
    | some u =>
      let escaped := u.escapedPath
      let cleaned := cleanPath escaped
      let isGet := req.method == "GET" || req.method == "HEAD"
      let (target, exact) := route cleaned
      if isGet && !exact && cleaned.getLast? != some 0x2F && (route (cleaned ++ [0x2F])).2 then
        redirect hs req.method (link (cleanPath u.path ++ [0x2F]) query)
      else if cleaned != escaped && req.method != "CONNECT" then redirect hs req.method (link cleaned query)
      else if !isGet then failure (setHeader hs "Allow" "GET, HEAD") 405 "Method Not Allowed"
      else page s hs u.path query target

/-- Serves a request: counts it against its client when there is a limit, and refuses it over
the limit. -/
def serve (s : Service) (req : Request) : Response × Service :=
  let hs := securityHeaders
  if s.perMinute ≤ 0 then (dispatch s hs req, s)
  else
    let client := Address.client req.remote
    let used := ((s.counts.find? (·.1 == client)).map (·.2)).getD 0
    let hs := setHeader hs "X-Ratelimit-Limit" (toString s.perMinute)
    let hs := setHeader hs "X-Ratelimit-Reset" (toString (s.now - s.now % 60 + 60))
    if (used : Int) + 1 > s.perMinute then
      let hs := setHeader hs "X-Ratelimit-Remaining" (toString (s.perMinute - used))
      let hs := setHeader hs "Retry-After" "60"
      (failure hs 429 "Too Many Requests", s)
    else
      let counts := if s.counts.any (·.1 == client) then
          s.counts.map fun e => if e.1 == client then (client, used + 1) else e
        else s.counts ++ [(client, 1)]
      let hs := setHeader hs "X-Ratelimit-Remaining" (toString (s.perMinute - used - 1))
      (dispatch s hs req, { s with counts })

end RaceArchive.Api
