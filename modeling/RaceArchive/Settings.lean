import RaceArchive.Yaml.Decode
import RaceArchive.Sync.Alerts
import RaceArchive.Web.Url
import RaceArchive.Web.Http
import RaceArchive.Failure

/-!
# Settings

The settings of the archive come from three places, in this order: the built-in defaults, a YAML
file, and the environment.

* The file is optional. A path that names nothing is a failure of its own kind; an empty file
  changes nothing. Before the file is read, each `${NAME}` in it is replaced by the variable
  `NAME` of the environment, or by nothing when it is unset.
* Some variables then override single settings when they are set and not empty: the paths, the
  log level and format, the credentials, and (when they read as integers) the concurrency, the
  last season year and the retry limit. A comma-separated list of drivers applies only when the
  file names none, and a single ntfy target (topic `racestats` unless given) only when the file
  names no notification target.
* Last, the settings are checked, and the first problem found is the failure.

The credentials are not checked with the rest, since work that stays offline does not need them.
-/

namespace RaceArchive

/-- How the results service is reached. Times are in nanoseconds. -/
structure RemoteSettings where
  baseUrl : String := "https://members-ng.iracing.com"
  username : String := ""
  passwordToken : String := ""
  timeout : Int64 := 60 * Duration.second
  rateLimitBackoff : Int64 := 5 * Duration.second
  maxBackoff : Int64 := 5 * Duration.minute
  /-- Zero retries for ever. -/
  maxRetries : Int := 10
  requestsPerSecond : Float := 0

/-- How drivers are discovered and their sessions fetched. Times are in nanoseconds. -/
structure SyncSettings where
  concurrency : Int := 3
  checkpointEvery : Int := 1000
  lastSeasonYear : Int := 0
  strictDriverLookup : Bool := false
  drivers : List String := []
  interval : Int64 := 6 * Duration.hour
  referenceInterval : Int64 := 24 * Duration.hour

/-- A place notifications are sent to. -/
structure Target where
  /-- `ntfy` or `webhook`. -/
  kind : String := ""
  url : String := ""
  topic : String := ""
  token : String := ""
  method : String := ""
  /-- `json` or `discord`. -/
  format : String := ""
  headers : Option (List (String × String)) := none

/-- All the settings. -/
structure Settings where
  listen : String := ":3800"
  dbPath : String := "data/racestats.db"
  cacheDir : String := "data/sessions"
  referenceDir : String := "data"
  logLevel : String := "info"
  logFormat : String := "text"
  remote : RemoteSettings := {}
  sync : SyncSettings := {}
  /-- Requests a minute for each client address; zero for no limit. -/
  rateLimit : Int := 120
  notifications : List Target := []
  alerts : Sync.AlertRules := {}

abbrev Environment := List (String × String)

/-- The value of a variable, empty when it is unset. -/
def Environment.get (env : Environment) (name : String) : String := (env.lookup name).getD ""

namespace Settings

open Yaml

/-! ## Reading the file -/

/-- Reads the nanoseconds a duration record holds: a text that reads as a duration. A number does
not fit, since it leaves its unit unsaid. -/
def intoNanos : Into Int64 :=
  fromScalar "time.Duration" fun _ s =>
    match s with
    | .str t => (Duration.parse t).toOption
    | _ => none

/-- Reads a duration written as text, such as `90s` or `1h30m`; read as a record, a duration has
the one field `duration`. -/
def intoDuration : Into Int64 :=
  viaText "config.Duration"
    (fun text =>
      match Duration.parse text with
      | .ok d => .ok d
      | .error e => .error ("invalid duration " ++ Text.quote text ++ ": " ++ e))
    [.of "duration" id (fun _ d => d) intoNanos]

/-- The fields of the remote settings. -/
def remoteFields : List (Member RemoteSettings) :=
  [.of "base_url" (·.baseUrl) (fun r x => { r with baseUrl := x }) intoString,
   .of "username" (·.username) (fun r x => { r with username := x }) intoString,
   .of "password_token" (·.passwordToken) (fun r x => { r with passwordToken := x }) intoString,
   .of "timeout" (·.timeout) (fun r x => { r with timeout := x }) intoDuration,
   .of "rate_limit_backoff" (·.rateLimitBackoff) (fun r x => { r with rateLimitBackoff := x }) intoDuration,
   .of "max_backoff" (·.maxBackoff) (fun r x => { r with maxBackoff := x }) intoDuration,
   .of "max_retries" (·.maxRetries) (fun r x => { r with maxRetries := x }) intoInt,
   .of "requests_per_second" (·.requestsPerSecond) (fun r x => { r with requestsPerSecond := x }) intoFloat]

/-- The fields of the sync settings. -/
def syncFields : List (Member SyncSettings) :=
  [.of "concurrency" (·.concurrency) (fun r x => { r with concurrency := x }) intoInt,
   .of "checkpoint_every" (·.checkpointEvery) (fun r x => { r with checkpointEvery := x }) intoInt,
   .of "last_season_year" (·.lastSeasonYear) (fun r x => { r with lastSeasonYear := x }) intoInt,
   .of "strict_driver_lookup" (·.strictDriverLookup) (fun r x => { r with strictDriverLookup := x }) intoBool,
   .of "drivers" (·.drivers) (fun r x => { r with drivers := x }) (intoList "[]string" "" intoString),
   .of "interval" (·.interval) (fun r x => { r with interval := x }) intoDuration,
   .of "reference_interval" (·.referenceInterval) (fun r x => { r with referenceInterval := x }) intoDuration]

/-- The fields of a notification target. -/
def targetFields : List (Member Target) :=
  [.of "type" (·.kind) (fun r x => { r with kind := x }) intoString,
   .of "url" (·.url) (fun r x => { r with url := x }) intoString,
   .of "topic" (·.topic) (fun r x => { r with topic := x }) intoString,
   .of "token" (·.token) (fun r x => { r with token := x }) intoString,
   .of "method" (·.method) (fun r x => { r with method := x }) intoString,
   .of "format" (·.format) (fun r x => { r with format := x }) intoString,
   .of "headers" (·.headers) (fun r x => { r with headers := x }) intoStringMap]

def failingFields : List (Member Sync.FailingRule) :=
  [.of "threshold" (·.threshold) (fun r x => { r with threshold := x }) intoInt,
   .of "severity" (·.severity) (fun r x => { r with severity := x }) intoString,
   .of "cooldown" (·.cooldown) (fun r x => { r with cooldown := x }) intoDuration]

def staleFields : List (Member Sync.StaleRule) :=
  [.of "max_age" (·.maxAge) (fun r x => { r with maxAge := x }) intoDuration,
   .of "severity" (·.severity) (fun r x => { r with severity := x }) intoString,
   .of "cooldown" (·.cooldown) (fun r x => { r with cooldown := x }) intoDuration]

/-- The fields of the alert rules; a rule given in the file starts from zero values. -/
def alertFields : List (Member Sync.AlertRules) :=
  [.of "sync_failing" (·.failing) (fun r x => { r with failing := x })
     (intoOption "config.AlertSyncFailing" ⟨0, "", 0⟩ (intoStruct "config.AlertSyncFailing" failingFields)),
   .of "sync_stale" (·.stale) (fun r x => { r with stale := x })
     (intoOption "config.AlertSyncStale" ⟨0, "", 0⟩ (intoStruct "config.AlertSyncStale" staleFields))]

/-- The fields of the settings. -/
def fields : List (Member Settings) :=
  [.of "listen" (·.listen) (fun r x => { r with listen := x }) intoString,
   .of "db_path" (·.dbPath) (fun r x => { r with dbPath := x }) intoString,
   .of "cache_dir" (·.cacheDir) (fun r x => { r with cacheDir := x }) intoString,
   .of "reference_dir" (·.referenceDir) (fun r x => { r with referenceDir := x }) intoString,
   .of "log_level" (·.logLevel) (fun r x => { r with logLevel := x }) intoString,
   .of "log_format" (·.logFormat) (fun r x => { r with logFormat := x }) intoString,
   .of "iracing" (·.remote) (fun r x => { r with remote := x })
     (intoStruct "config.IRacingConfig" remoteFields),
   .of "sync" (·.sync) (fun r x => { r with sync := x }) (intoStruct "config.SyncConfig" syncFields),
   .of "api" (·.rateLimit) (fun r x => { r with rateLimit := x })
     (intoStruct "config.APIConfig" [.of "rate_limit" id (fun _ x => x) intoInt]),
   .of "notifications" (·.notifications) (fun r x => { r with notifications := x })
     (intoList "[]config.NotificationConfig" {} (intoStruct "config.NotificationConfig" targetFields)),
   .of "alerts" (·.alerts) (fun r x => { r with alerts := x })
     (intoStruct "config.AlertsConfig" alertFields)]

/-- The octets of the value of the variable whose name is spelled by `name`; a name that is not
UTF-8 names no variable. -/
def variableOctets (env : Environment) (name : List UInt8) : List UInt8 :=
  match String.fromUTF8? ⟨name.toArray⟩ with
  | some n => (env.get n).toUTF8.toList
  | none => []

/-- Replaces each `${NAME}` by the value of the variable, reading at most `fuel` octets: a name is
at least one octet other than `}`. -/
def expandFrom (env : Environment) : Nat → List UInt8 → List UInt8
  | 0, cs => cs
  | _ + 1, [] => []
  | fuel + 1, c :: rest =>
    let plain := c :: expandFrom env fuel rest
    match c, rest with
    | 0x24, 0x7B :: more =>
      let name := more.takeWhile (· != 0x7D)
      match more.drop name.length with
      | 0x7D :: after =>
        if name.isEmpty then plain else variableOctets env name ++ expandFrom env fuel after
      | _ => plain
    | _, _ => plain

def expand (env : Environment) (content : ByteArray) : ByteArray :=
  ⟨(expandFrom env (content.size + 1) content.toList).toArray⟩

def readFile (env : Environment) (content : ByteArray) (s : Settings) : Except Halt Settings :=
  decodeText (intoStruct "config.Config" fields) (expand env content) s

/-! ## The environment -/

def readInteger (s : String) : Option Int := (Decimal.parseInt64 s).toOption

/-- The settings after the variables of the environment override them. -/
def override (env : Environment) (s : Settings) : Settings :=
  let text (name : String) (old : String) : String :=
    if env.get name == "" then old else env.get name
  let number (name : String) (old : Int) : Int :=
    if env.get name == "" then old else (readInteger (env.get name)).getD old
  let s := { s with
    listen := text "RACESTATS_LISTEN" s.listen
    dbPath := text "RACESTATS_DB_PATH" s.dbPath
    cacheDir := text "RACESTATS_CACHE_DIR" s.cacheDir
    referenceDir := text "RACESTATS_REFERENCE_DIR" s.referenceDir
    logLevel := text "RACESTATS_LOG_LEVEL" s.logLevel
    logFormat := text "RACESTATS_LOG_FORMAT" s.logFormat
    remote := { s.remote with
      username := text "IRACING_USER" s.remote.username
      passwordToken := text "IRACING_TOKEN" s.remote.passwordToken
      maxRetries := number "RACESTATS_MAX_RETRIES" s.remote.maxRetries }
    sync := { s.sync with
      concurrency := number "RACESTATS_CONCURRENCY" s.sync.concurrency
      lastSeasonYear := number "RACESTATS_LAST_SEASON_YEAR" s.sync.lastSeasonYear } }
  let s :=
    if s.sync.drivers.isEmpty && env.get "RACESTATS_DRIVERS" != "" then
      let names := ((env.get "RACESTATS_DRIVERS").splitOn ",").map Http.trimSpace |>.filter (· != "")
      { s with sync := { s.sync with drivers := names } }
    else s
  if s.notifications.isEmpty && env.get "RACESTATS_NTFY_URL" != "" then
    let topic := if env.get "RACESTATS_NTFY_TOPIC" == "" then "racestats" else env.get "RACESTATS_NTFY_TOPIC"
    { s with notifications :=
      [{ kind := "ntfy", url := env.get "RACESTATS_NTFY_URL", topic,
         token := env.get "RACESTATS_NTFY_TOKEN" }] }
  else s

/-! ## Checking -/

def isAbsoluteUrl (s : String) : Bool :=
  match Url.parse s with
  | .ok u => u.scheme != "" && !u.host.isEmpty
  | .error _ => false

/-- The first problem with the notification targets, if any. -/
def targetProblem : Nat → List Target → Option String
  | _, [] => none
  | i, t :: rest =>
    let at_ := "notifications[" ++ toString i ++ "]: "
    let here :=
      if t.kind == "ntfy" then
        if t.url == "" then some (at_ ++ "url is required for ntfy")
        else if t.topic == "" then some (at_ ++ "topic is required for ntfy")
        else none
      else if t.kind == "webhook" then
        if t.url == "" then some (at_ ++ "url is required for webhook")
        else if t.format != "" && t.format != "json" && t.format != "discord" then
          some (at_ ++ "format must be json or discord")
        else none
      else some (at_ ++ "unknown type " ++ Text.quote t.kind ++ " (expected ntfy or webhook)")
    match here with
    | some p => some p
    | none => targetProblem (i + 1) rest

/-- The first problem with the settings, if any, in a fixed order of checks. -/
def problem (s : Settings) : Option String :=
  let checks : List (Bool × String) :=
    [(s.dbPath == "", "db_path is required"),
     (s.cacheDir == "", "cache_dir is required"),
     (s.referenceDir == "", "reference_dir is required"),
     (!isAbsoluteUrl s.remote.baseUrl, "iracing.base_url must be an absolute URL"),
     (s.remote.timeout ≤ 0, "iracing.timeout must be > 0"),
     (s.remote.rateLimitBackoff ≤ 0, "iracing.rate_limit_backoff must be > 0"),
     (s.remote.maxBackoff < s.remote.rateLimitBackoff, "iracing.max_backoff must be >= rate_limit_backoff"),
     (s.remote.maxRetries < 0, "iracing.max_retries must be >= 0"),
     (s.remote.requestsPerSecond < 0, "iracing.requests_per_second must be >= 0"),
     (s.sync.concurrency < 1, "sync.concurrency must be >= 1"),
     (s.sync.checkpointEvery < 1, "sync.checkpoint_every must be >= 1"),
     (s.sync.lastSeasonYear != 0 && s.sync.lastSeasonYear < 2008, "sync.last_season_year must be >= 2008"),
     (!s.sync.drivers.isEmpty && s.sync.interval ≤ 0, "sync.interval must be > 0 when sync.drivers is set"),
     (s.sync.referenceInterval ≤ 0, "sync.reference_interval must be > 0")]
  let emptyDriver := (s.sync.drivers.zipIdx.find? fun (d, _) => Http.trimSpace d == "").map fun (_, i) =>
    "sync.drivers[" ++ toString i ++ "]: name is empty"
  let failing := match s.alerts.failing with
    | some a =>
      if a.threshold < 1 then some "alerts.sync_failing: threshold must be >= 1"
      else if a.cooldown < 0 then some "alerts.sync_failing: cooldown must be >= 0"
      else none
    | none => none
  let stale := match s.alerts.stale with
    | some a =>
      if a.maxAge ≤ 0 then some "alerts.sync_stale: max_age must be > 0"
      else if a.cooldown < 0 then some "alerts.sync_stale: cooldown must be >= 0"
      else none
    | none => none
  let rest : List (Option String) :=
    [emptyDriver,
     if s.rateLimit < 0 then some "api.rate_limit must be >= 0" else none,
     targetProblem 0 s.notifications, failing, stale,
     if ["debug", "info", "warn", "error"].contains s.logLevel then none
     else some "log_level must be one of: debug, info, warn, error",
     if ["text", "json"].contains s.logFormat then none
     else some "log_format must be one of: text, json"]
  match checks.find? (·.1) with
  | some (_, p) => some p
  | none => rest.findSome? id

/-- The failure of settings without the credentials of the results service. -/
def credentialsMissing : Failure :=
  .cause (some .credentialsMissing) "iracing username and password_token are required"

/-- Whether the credentials of the results service are set. -/
def requireCredentials (s : Settings) : Except Failure Unit :=
  if s.remote.username == "" || s.remote.passwordToken == "" then .error credentialsMissing
  else .ok ()

end Settings

/-- Where the settings file is said to be, and what is found there. -/
inductive SettingsSource where
  /-- No file is named: the defaults and the environment alone. -/
  | none
  /-- The path names nothing. -/
  | absent (path : String)
  /-- The path names a directory. -/
  | directory (path : String)
  /-- The path names a file with these octets. -/
  | file (path : String) (content : ByteArray)

/-- Loads the settings: the defaults, then the file, then the environment, then the checks. The
outcome, or the crash that reading the file ended in. -/
def loadSettings (env : Environment) (source : SettingsSource) :
    Except Crash (Except Failure Settings) :=
  let read : Except Crash (Except Failure Settings) :=
    match source with
    | .none => .ok (.ok {})
    | .absent path =>
      .ok (.error (.wrap none "" (": " ++ path) (.cause (some .configNotFound) "config file not found")))
    | .directory path => .ok (.error (.plain ("reading config: read " ++ path ++ ": is a directory")))
    | .file _ content =>
      if content.size == 0 then .ok (.ok {})
      else match Settings.readFile env content {} with
        | .ok s => .ok (.ok s)
        | .error (.failure e) => .ok (.error (.plain ("parsing config: " ++ e)))
        | .error (.crash c) => .error c
  read.map fun outcome => do
    let s := Settings.override env (← outcome)
    match s.problem with
    | some p => throw (.plain ("config validation: " ++ p))
    | none => pure s

end RaceArchive
