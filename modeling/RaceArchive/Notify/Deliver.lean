import RaceArchive.Notify.Message
import RaceArchive.Web.Stub
import RaceArchive.Failure

/-!
# Delivering notifications

A provider sends a notification through one channel:

* an ntfy topic, by a `POST` to the topic's address whose body is the message and whose headers
  carry the title, a priority and emoji tags for the severity and kind, and a bearer token when
  the topic is protected;
* a webhook, by a request (`POST` unless another method is given) whose body is the notification
  as a document, or for the `discord` format a chat message holding the title in bold and the
  message;
* a channel inside the service, which only knows its name and whether it refuses.

A reply with a status outside 200 to 299 is a failure that quotes the start of the reply's body.
Dispatching sends to every provider in turn; one that fails does not stop the others, and their
failures are reported together.
-/

namespace RaceArchive.Notify

open Json

/-- A delivery channel. -/
inductive Provider where
  /-- An ntfy topic under a server address, with an optional access token. -/
  | ntfy (server topic token : String)
  /-- A webhook address, its method and body format, and headers set on every request. -/
  | webhook (url method format : String) (headers : List (String × String))
  /-- A channel inside the service, which refuses with a reason when it has one. -/
  | inner (name : String) (refusal : Option String)
  deriving Repr, Inhabited

def Provider.name : Provider → String
  | .ntfy .. => "ntfy"
  | .webhook .. => "webhook"
  | .inner name _ => name

abbrev Post := StateM Stub.Server

def dropTrailing (c : Char) (s : String) : String :=
  String.ofList (s.toList.reverse.dropWhile (· == c)).reverse

def topicAddress (server topic : String) : String := dropTrailing '/' server ++ "/" ++ topic

/-- The ntfy priority of a severity, if it has one. -/
def priority? : String → Option String
  | "critical" => some "5"
  | "warning" => some "4"
  | "info" => some "2"
  | _ => none

/-- The emoji tag of a severity. -/
def severityTag : String → String
  | "critical" => "rotating_light"
  | "warning" => "warning"
  | "info" => "information_source"
  | _ => ""

/-- The emoji tag of a kind. -/
def kindTag (kind : String) : String :=
  if kind == kindComplete then "checkered_flag"
  else if kind == kindFailed ∨ kind == kindFailing then "x"
  else if kind == kindStale then "hourglass"
  else if kind == kindRecovered then "white_check_mark"
  else ""

def tags (n : Notification) : String :=
  ",".intercalate ([severityTag n.severity, kindTag n.kind].filter (!·.isEmpty))

/-- Sends a request and turns a reply outside the 2xx statuses into a failure that quotes the
first 256 octets of the body, trimmed. -/
def send (req : Http.Request) : Post (Option Failure) := do
  let req := req.withCredentials
  let (out, server) := (← get).serve req
  set server
  match out with
  | .error reason => pure (some (.within "send" (.plain (Http.transportMessage req reason))))
  | .ok resp =>
    if 200 ≤ resp.status ∧ resp.status < 300 then pure none
    else
      let head := Http.trimSpace (Utf8.decodeLossy (resp.body.extract 0 256))
      let status := "unexpected status " ++ toString resp.status
      pure (some (.plain (if head.isEmpty then status else status ++ ": " ++ head)))

/-- Builds a request and sends it, failures in the words of one channel. -/
def deliver (channel : String) (req : Except String Http.Request)
    (prepare : Http.Request → Http.Request) : Post (Option Failure) := do
  match req with
  | .error e => pure (some (.within channel (.within "build request" (.plain e))))
  | .ok r =>
    match ← send (prepare r) with
    | none => pure none
    | some f => pure (some (.within channel f))

def webhookBody (format : String) (n : Notification) : Except String Value :=
  if format == "discord" then
    .ok (.obj [("username", .str "racestats"), ("content", .str ("**" ++ n.title ++ "**\n" ++ n.message))])
  else n.toDocument.mapError fun e => "json: error calling MarshalJSON for type time.Time: " ++ e

/-- Sends a notification through one provider. -/
def Provider.send (p : Provider) (n : Notification) : Post (Option Failure) :=
  match p with
  | .ntfy server topic token =>
    deliver "ntfy" (Http.newRequest "POST" (topicAddress server topic) (some n.message.toUTF8))
      fun r =>
        let h := r.headers.set "Title" n.title
        let h := match priority? n.severity with
          | some p => h.set "Priority" p
          | none => h
        let h := if (tags n).isEmpty then h else h.set "Tags" (tags n)
        let h := if token.isEmpty then h else h.set "Authorization" ("Bearer " ++ token)
        { r with headers := h }
  | .webhook url method format headers =>
    match webhookBody format n with
    | .error e => pure (some (.within "webhook" (.within "encode" (.plain e))))
    | .ok body =>
      deliver "webhook"
        (Http.newRequest (if method.isEmpty then "POST" else method) url (some body.render.toUTF8))
        fun r =>
          let h := r.headers.set "Content-Type" "application/json"
          { r with headers := headers.foldl (fun h (k, v) => h.set k v) h }
  | .inner _ refusal => pure (refusal.map .plain)

/-- Sends a notification through every provider; the failures, reported together, if any. -/
def dispatch (providers : List Provider) (n : Notification) : Post (Option Failure) := do
  let failures ← providers.filterMapM fun p => p.send n
  pure (if failures.isEmpty then none else some (.join failures))

end RaceArchive.Notify
