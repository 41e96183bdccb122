import RaceArchive.Web.Url
import RaceArchive.Codec.Base64

/-!
# Requests, responses and headers

A header name is compared in its canonical form: the first letter and every letter after a hyphen
in upper case, the other letters in lower case. A name holding a character that cannot stand in a
header name (a space, for instance) is kept as it is.

A header map keeps its names in the order they were first set, each with its values in order.
-/

namespace RaceArchive.Http

def isTokenChar (c : Char) : Bool :=
  c.isAlphanum || "!#$%&'*+-.^_`|~".toList.contains c

/-- The canonical form of a header name. -/
def canonicalName (s : String) : String :=
  if !s.toList.all isTokenChar then s
  else
    let step : Bool × List Char → Char → Bool × List Char
      | (upper, acc), c =>
        let c' := if upper then c.toUpper else c.toLower
        (c == '-', c' :: acc)
    String.ofList ((s.toList.foldl step (true, [])).2.reverse)

abbrev Headers := List (String × List String)

def Headers.values (h : Headers) (name : String) : List String :=
  (h.find? (·.1 == canonicalName name)).map (·.2) |>.getD []

def Headers.get (h : Headers) (name : String) : String :=
  (h.values name).head?.getD ""

def Headers.set (h : Headers) (name value : String) : Headers :=
  let n := canonicalName name
  if h.any (·.1 == n) then h.map fun (k, vs) => if k == n then (k, [value]) else (k, vs)
  else h ++ [(n, [value])]

def Headers.add (h : Headers) (name value : String) : Headers :=
  let n := canonicalName name
  if h.any (·.1 == n) then h.map fun (k, vs) => if k == n then (k, vs ++ [value]) else (k, vs)
  else h ++ [(n, [value])]

/-- A request as it goes out. -/
structure Request where
  method : String
  url : Url.Url
  headers : Headers := []
  body : Option ByteArray := none

def Request.target (r : Request) : String := r.url.render

/-- The request as a client sends it: user information in the URL becomes a basic
`Authorization` header (the name and the password, joined by a colon, in base64), unless the
request already carries a non-empty one. -/
def Request.withCredentials (r : Request) : Request :=
  match r.url.user with
  | some ui =>
    if r.headers.get "Authorization" == "" then
      let pair := ui.name ++ [0x3A] ++ ui.password.getD []
      { r with headers := r.headers.set "Authorization" ("Basic " ++ Base64.encode ⟨pair.toArray⟩) }
    else r
  | none => r

def dropEmptyPort (host : Url.Bytes) : Url.Bytes :=
  if host.getLast? == some 0x3A then host.dropLast else host

/-- A new request for a method and the text of a URL. An empty method is `GET`; another must be a
token. The URL must parse, and a host ending in a colon with no port loses the colon. -/
def newRequest (method url : String) (body : Option ByteArray) : Except String Request :=
  let method := if method.isEmpty then "GET" else method
  if !method.toList.all isTokenChar then .error ("net/http: invalid method " ++ Text.quote method)
  else
    match Url.parse url with
    | .error e => .error e.message
    | .ok u => .ok { method, url := { u with host := dropEmptyPort u.host }, body }

/-- A response as it comes back. -/
structure Response where
  status : Int
  headers : Headers := []
  body : ByteArray := ByteArray.empty

/-- The method name as failures of a request show it: the first letter in upper case and the rest
in lower case. -/
def methodWord (m : String) : String :=
  match m.toList with
  | c :: rest => String.ofList (c.toUpper :: rest.map Char.toLower)
  | [] => m

/-- The message of a request that failed on its way: `Get "<url>": <reason>`. -/
def transportMessage (r : Request) (reason : String) : String :=
  methodWord r.method ++ " " ++ Text.quote r.target ++ ": " ++ reason

/-- Text with blanks removed at both ends: space, tab, line feed, carriage return, vertical tab,
form feed, and the Unicode spaces. -/
def trimSpace (s : String) : String :=
  let isSpace (c : Char) : Bool :=
    c == ' ' || c == '\t' || c == '\n' || c == '\r' || c == '\x0B' || c == '\x0C' ||
    c.toNat == 0x85 || c.toNat == 0xA0 || c.toNat == 0x1680 || (0x2000 ≤ c.toNat && c.toNat ≤ 0x200A) ||
    c.toNat == 0x2028 || c.toNat == 0x2029 || c.toNat == 0x202F || c.toNat == 0x205F ||
    c.toNat == 0x3000
  String.ofList (((s.toList.dropWhile isSpace).reverse.dropWhile isSpace).reverse)

end RaceArchive.Http
