import RaceArchive.Web.Cookie
import RaceArchive.Web.Stub
import RaceArchive.Json.Read
import RaceArchive.Json.Valid
import RaceArchive.Json.Value
import RaceArchive.Failure
import RaceArchive.Crash
import RaceArchive.Crypto.Sha256
import RaceArchive.Codec.Base64
import RaceArchive.Text.CaseMap

/-!
# The results service client

The client logs in once with a credential token and keeps the session cookie it gets back. A data
request is a `GET` answered with a JSON document:

* status 200 with a well-formed document is the answer; a body that is not JSON is refused, and
  a body whose check crashes ends the run (nothing is sent after it);
* status 429 (rate limited) is retried after a pause that starts at the base backoff and doubles
  with each retry up to the maximum, until the retry cap (if any) is reached;
* status 401 (session expired) logs in again once and repeats the request;
* any other status is a failure that names the status, the URL and the body.

Most data endpoints answer with a link to the real document, which is fetched next; searches
answer with a list of chunk files whose arrays are joined in order.

Every response may report the rate-limit window in its headers; the client keeps the last values
that read as integers.
-/

namespace RaceArchive.Remote

open Json

def defaultBaseUrl : String := "https://members-ng.iracing.com"

/-- Client settings. Durations are in nanoseconds. -/
structure Settings where
  baseUrl : String := ""
  username : String := ""
  passwordToken : String := ""
  timeout : Int64 := 0
  rateLimitBackoff : Int64 := 0
  maxBackoff : Int64 := 0
  maxRetries : Int := 0
  requestsPerSecond : Float := 0
  deriving Repr

/-- Settings with defaults filled in: the production address, a 60-second timeout, a 5-second
backoff, and a maximum backoff no smaller than the backoff. -/
def Settings.withDefaults (c : Settings) : Settings :=
  let c := if c.baseUrl.isEmpty then { c with baseUrl := defaultBaseUrl } else c
  let c := if c.timeout == 0 then { c with timeout := 60000000000 } else c
  let c := if c.rateLimitBackoff == 0 then { c with rateLimitBackoff := 5000000000 } else c
  if c.maxBackoff < c.rateLimitBackoff then { c with maxBackoff := c.rateLimitBackoff } else c

/-- The credential token of a user: the base64 SHA-256 digest of the password followed by the
user name in lower case. -/
def encodePassword (username password : String) : String :=
  Base64.encode (Sha256.hash (password ++ CaseMap.toLower username).toUTF8)

/-- The pause before retry number `attempt + 1`: the base backoff doubled `attempt` times (with
64-bit wrap-around), the maximum once it is reached. -/
def Settings.backoff (c : Settings) (attempt : Int) : Int64 :=
  go c.rateLimitBackoff attempt.toNat
where
  /-- Doubles `d` at most `n` more times. -/
  go (d : Int64) : Nat → Int64
    | 0 => d
    | n + 1 =>
      let d := d * 2
      if d ≥ c.maxBackoff then c.maxBackoff else go d n

/-- The last rate-limit window the service reported. -/
structure RateLimit where
  limit : Int64 := 0
  remaining : Int64 := 0
  reset : Int64 := 0
  deriving Repr, DecidableEq

/-- What the client keeps between requests. -/
structure Session where
  settings : Settings
  jar : Cookie.Jar := {}
  rateLimit : RateLimit := {}
  /-- How many logins succeeded. -/
  logins : Nat := 0

/-- Everything a client's exchanges touch: its session, the server it talks to, the pauses it
took, and the crash that ended the run, if one did. A pause past the budget is refused with the
given reason. -/
structure Wire where
  session : Session
  server : Stub.Server
  pauses : Array Int64 := #[]
  pauseBudget : Nat := 100
  pauseRefusal : String := ""
  crash : Option Crash := none

abbrev Link := StateM Wire

/-- Sends a request with the cookies that apply (and the credentials of its URL) and stores the
cookies of the response. After a crash nothing is sent. -/
def roundTrip (req : Http.Request) : Link (Except String Http.Response) := do
  let w ← get
  if let some c := w.crash then return .error c.message
  let req :=
    match w.session.jar.header req.url with
    | some c => { req with headers := req.headers.set "Cookie" c }
    | none => req
  let req := req.withCredentials
  let (out, server) := w.server.serve req
  let jar :=
    match out with
    | .ok resp => w.session.jar.store req.url (resp.headers.values "Set-Cookie")
    | .error _ => w.session.jar
  set { w with server, session := { w.session with jar } }
  pure out

/-- Pauses before a retry, or refuses once the budget is spent. -/
def pause (d : Int64) : Link (Except Failure Unit) := do
  let w ← get
  if w.pauses.size ≥ w.pauseBudget then
    pure (.error (.cause (some .pauseRefused) w.pauseRefusal))
  else
    set { w with pauses := w.pauses.push d }
    pure (.ok ())

/-- A URL with its query dropped when it carries a signature, for messages; a text that is not a
URL with a host stays as it is. -/
def redact (endpoint : String) : String :=
  match Url.parse endpoint with
  | .error _ => endpoint
  | .ok u =>
    if u.host.isEmpty then endpoint
    else
      let q := String.ofList (u.rawQuery.map fun c => Char.ofNat c.toNat)
      if (q.splitOn "Signature").length > 1 || (q.splitOn "X-Amz").length > 1 then
        { u with rawQuery := [] }.render
      else u.render

def authFailure (status : Int) (message : String) : Failure :=
  .cause (some .authRejected)
    ("authentication failed (status " ++ toString status ++ ")" ++
      (if message.isEmpty then "" else ": " ++ message))

def responseFailure (endpoint : String) (inner : Failure) : Failure :=
  .wrap (some .badResponse) ("parsing response from " ++ endpoint ++ ": ") "" inner

def statusFailure (status : Int) (endpoint : String) (body : ByteArray) : Failure :=
  .cause (some .serviceStatus)
    ("API error " ++ toString status ++ " from " ++ endpoint ++ ": " ++ Utf8.decodeLossy body)

/-- The login reply as read: the raw `authcode` value and the message. -/
structure LoginReply where
  authcode : ByteArray := ByteArray.empty
  message : String := ""

/-- Reads a login reply. -/
def LoginReply.reader : Reader LoginReply :=
  Reader.record [
    ⟨"authcode", Reader.focus (·.authcode) ({ · with authcode := · })
      (Reader.delegate fun d _ => .ok d)⟩,
    ⟨"message", Reader.focus (·.message) ({ · with message := · })
      (Reader.string ⟨"", "Message"⟩)⟩]

/-- Logs in: posts the user name and token, and refuses a non-200 status or an `authcode` of
exactly `0`. -/
def login : Link (Except Failure Unit) := do
  let s := (← get).session.settings
  let payload := (Value.obj [("email", .str s.username), ("password", .str s.passwordToken)]).render
  let endpoint := s.baseUrl ++ "/auth"
  match Url.parse endpoint with
  | .error e => pure (.error (.within "creating login request" (.plain e.message)))
  | .ok u =>
    let req : Http.Request :=
      { method := "POST", url := u, headers := [("Content-Type", ["application/json"])],
        body := some payload.toUTF8 }
    match ← roundTrip req with
    | .error reason =>
      pure (.error (.within ("requesting " ++ endpoint) (.plain (Http.transportMessage req reason))))
    | .ok resp =>
      if resp.status != 200 then
        pure (.error (authFailure resp.status (Http.trimSpace (Utf8.decodeLossy resp.body))))
      else
        match decode LoginReply.reader {} resp.body with
        | .ok r =>
          if r.authcode.toList == [0x30] then pure (.error (authFailure resp.status r.message))
          else
            modify fun w => { w with session := { w.session with logins := w.session.logins + 1 } }
            pure (.ok ())
        | .error _ =>
          modify fun w => { w with session := { w.session with logins := w.session.logins + 1 } }
          pure (.ok ())

/-- The value of a header that reads as a 64-bit integer. -/
def headerInt (h : Http.Headers) (name : String) : Option Int64 :=
  let v := h.get name
  if v.isEmpty then none
  else match Decimal.parseInt64 v with
    | .ok n => some (Int64.ofInt n)
    | .error _ => none

/-- Keeps the rate-limit values a response reports. -/
def recordRateLimit (h : Http.Headers) : Link Unit :=
  modify fun w =>
    let r := w.session.rateLimit
    let r := match headerInt h "X-Ratelimit-Limit" with
      | some v => { r with limit := v }
      | none => r
    let r := match headerInt h "X-Ratelimit-Remaining" with
      | some v => { r with remaining := v }
      | none => r
    let r := match headerInt h "X-Ratelimit-Reset" with
      | some v => { r with reset := v }
      | none => r
    { w with session := { w.session with rateLimit := r } }

/-- One `GET` exchange: the status and body, or why it failed on the way. -/
def fetch (endpoint : String) : Link (Except Failure (Int × ByteArray)) := do
  match Url.parse endpoint with
  | .error e =>
    pure (.error (.within ("creating request for " ++ redact endpoint) (.plain e.message)))
  | .ok u =>
    let req : Http.Request := { method := "GET", url := u, headers := [("Accept", ["application/json"])] }
    match ← roundTrip req with
    | .error reason =>
      pure (.error (.within ("requesting " ++ redact endpoint) (.plain (Http.transportMessage req reason))))
    | .ok resp =>
      recordRateLimit resp.headers
      pure (.ok (resp.status, resp.body))

def withParams (rawUrl : String) (params : List (String × List String)) : String :=
  if params.isEmpty then rawUrl
  else rawUrl ++ (if '?' ∈ rawUrl.toList then "&" else "?") ++ Url.encodeQuery params

/-- Requests a document, retrying as the status says. -/
def getDocument (rawUrl : String) (params : List (String × List String)) :
    Link (Except Failure ByteArray) := do
  let endpoint := withParams rawUrl params
  let w ← get
  attempt endpoint 0 false (w.pauseBudget - w.pauses.size + 2)
where
  /-- One try, after `retries` rate-limited ones, having logged in again or not. -/
  attempt (endpoint : String) (retries : Int) (reauthed : Bool) :
      Nat → Link (Except Failure ByteArray)
    | 0 => pure (.error (.plain "retries did not settle"))
    | fuel + 1 => do
      match ← fetch endpoint with
      | .error f => pure (.error f)
      | .ok (status, body) =>
        let settings := (← get).session.settings
        if status == 200 then
          match checkDocument body with
          | .ok true => pure (.ok body)
          | .ok false => pure (.error (responseFailure endpoint (.plain "response is not valid JSON")))
          | .error c =>
            modify fun w => { w with crash := some c }
            pure (.error (.plain c.message))
        else if status == 429 then
          if settings.maxRetries > 0 && retries ≥ settings.maxRetries then
            pure (.error (.wrap (some .serviceStatus) ("API error 429 from " ++ endpoint ++ ": ") ""
              (.cause (some .retriesExhausted) "rate limit retries exhausted")))
          else
            match ← pause (settings.backoff retries) with
            | .error f => pure (.error f)
            | .ok () => attempt endpoint (retries + 1) reauthed fuel
        else if status == 401 then
          if reauthed then pure (.error (statusFailure status endpoint body))
          else
            match ← login with
            | .error f =>
              pure (.error (.within ("logging in again after 401 from " ++ redact endpoint) f))
            | .ok () => attempt endpoint retries true fuel
        else pure (.error (statusFailure status endpoint body))

def textField {σ : Type} (key field : String) (get : σ → String) (put : σ → String → σ) :
    Reader.Field σ :=
  ⟨key, Reader.focus get put (Reader.string ⟨"", field⟩)⟩

/-- Fetches `{base}{path}` and then the document its `link` points to. -/
def getIndirect (path : String) (params : List (String × List String)) :
    Link (Except Failure ByteArray) := do
  let base := (← get).session.settings.baseUrl
  match ← getDocument (base ++ path) params with
  | .error f => pure (.error f)
  | .ok body =>
    match decode (Reader.record [textField "link" "Link" id fun _ v => v]) "" body with
    | .error e => pure (.error (responseFailure path (.ofDecode e)))
    | .ok link =>
      if link.isEmpty then pure (.error (responseFailure path (.plain "response has no link")))
      else getDocument link []

/-- The chunk list of a search answer. -/
structure ChunkInfo where
  baseDownloadUrl : String := ""
  chunkFileNames : Option (Array String) := none

/-- Reads the chunk list of a search answer, found under `data.chunk_info`. -/
def ChunkInfo.reader : Reader ChunkInfo :=
  Reader.record [⟨"data", Reader.record [⟨"chunk_info", Reader.record [
    textField "base_download_url" "BaseDownloadURL" (·.baseDownloadUrl)
      ({ · with baseDownloadUrl := · }),
    ⟨"chunk_file_names", Reader.focus (·.chunkFileNames) ({ · with chunkFileNames := · })
      (Reader.list (Reader.string ⟨"", "ChunkFileNames"⟩) "" "[]string" ⟨"", "ChunkFileNames"⟩)⟩]⟩]⟩]

def rawList : Reader (Option (Array ByteArray)) :=
  Reader.list (Reader.delegate fun d _ => .ok d) ByteArray.empty "[]json.RawMessage" {}

/-- Fetches a chunked search answer: the items of all chunk files, in order. -/
def getChunked (path : String) (params : List (String × List String)) :
    Link (Except Failure (Array ByteArray)) := do
  let base := (← get).session.settings.baseUrl
  match ← getDocument (base ++ path) params with
  | .error f => pure (.error f)
  | .ok body =>
    match decode ChunkInfo.reader {} body with
    | .error e => pure (.error (responseFailure path (.ofDecode e)))
    | .ok info =>
      if info.baseDownloadUrl.isEmpty then pure (.ok #[])
      else
        (info.chunkFileNames.getD #[]).toList.foldlM (fun acc name => do
          match acc with
          | .error f => pure (.error f)
          | .ok items =>
            let chunkUrl := info.baseDownloadUrl ++ name
            match ← getDocument chunkUrl [] with
            | .error f => pure (.error (.within ("fetching chunk " ++ name ++ " of " ++ path) f))
            | .ok chunk =>
              match decode rawList none chunk with
              | .error e => pure (.error (responseFailure chunkUrl (.ofDecode e)))
              | .ok more => pure (.ok (items ++ more.getD #[]))) (.ok #[])

end RaceArchive.Remote
