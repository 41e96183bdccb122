import RaceArchive.Web.Http
import RaceArchive.Web.Address
import RaceArchive.Web.Ip
import RaceArchive.Time.Stamp
import RaceArchive.Text.Punycode

/-!
# Cookies

A response sets cookies with `Set-Cookie` headers; a jar keeps them and sends back, on each later
request to a matching URL, the ones that apply. Only `http` and `https` URLs take part.

A host is taken without its port and a trailing dot, with labels outside ASCII in punycode, in
lower case. The jar files each cookie under the key of the host that set it (its last two labels,
or the host itself when it is an IP address or has one label) and looks only under the key of the
host it sends to, so a cookie whose domain is wider than that key reaches no other key's hosts.

Reading a `Set-Cookie` line: the line is cut at semicolons. The first part is `name=value`, the
name a non-empty token and the value octets from space to `~` other than `"`, `;` and `\`,
possibly between double quotes. Every later part is an attribute `name=value` whose name is
compared without regard to ASCII case; an attribute whose value holds a forbidden octet, or that is
not understood, is ignored. Blanks (space, tab, line feed, carriage return) are trimmed around the
line, the parts and the cookie name, but not inside values.

* `Max-Age` is a decimal integer (a sign allowed, no leading zero unless it is `0`); zero or less
  removes the cookie, more keeps it for that many seconds, counted in nanoseconds on 64 bits, so
  that a large count can wrap around to a lifetime that is negative or already over.
* `Expires` is a date such as `Thu, 01 Jan 1970 00:00:00 GMT` (or with hyphens in the date), read
  as UTC; a date that is not after the jar's present instant removes the cookie. `Max-Age` comes
  first when both are given.
* `Domain` names the domain a cookie belongs to: the host itself or a domain the host ends in
  after a dot (a leading dot is dropped; an empty name, a second leading dot or a trailing dot is
  refused). For a host that is an IP address only the host itself is allowed, and the cookie then
  belongs to the host alone, as one without `Domain` does.
* `Path` sets the path; one that does not start with `/` is replaced by the directory of the
  request path.
* `Secure` cookies go only to secure origins: over `https`, or to `localhost`, a name under it
  or a loopback address, whatever the scheme.

Cookies go back as `name=value` pairs joined by `; `, longer paths first and, among equal paths,
older cookies first; a value holding a space or a comma, or one that came quoted, is sent quoted.
-/

namespace RaceArchive.Cookie

def isBlank (c : UInt8) : Bool := c == 0x20 || c == 0x09 || c == 0x0A || c == 0x0D

def trimBlank (s : Octets) : Octets := ((s.dropWhile isBlank).reverse.dropWhile isBlank).reverse

def splitAt (s : Octets) (sep : UInt8) : List Octets :=
  (s.foldr (fun c (cur, acc) => if c == sep then ([], cur :: acc) else (c :: cur, acc))
    (([] : Octets), ([] : List Octets))) |> fun (cur, acc) => cur :: acc

/-- Splits octets at the first `sep`: what comes before, and what comes after if `sep` occurs. -/
def cutAt (s : Octets) (sep : UInt8) : Octets × Option Octets :=
  match s.idxOf? sep with
  | some i => (s.take i, some (s.drop (i + 1)))
  | none => (s, none)

def asciiText (s : Octets) : String := String.ofList (s.map fun c => Char.ofNat c.toNat)

def lowerAscii (s : Octets) : Octets := s.map fun c => if 0x41 ≤ c && c ≤ 0x5A then c + 0x20 else c

def isValueOctet (c : UInt8) : Bool := 0x20 ≤ c && c < 0x7F && c != 0x22 && c != 0x3B && c != 0x5C

/-- Reads a cookie value: its octets and whether they were quoted, or `none` when an octet may not
stand in a value. Quotes are taken off only when `allowQuotes`. -/
def parseValue (raw : Octets) (allowQuotes : Bool) : Option (Octets × Bool) :=
  let (raw, quoted) :=
    if allowQuotes && raw.length > 1 && raw.head? == some 0x22 && raw.getLast? == some 0x22 then
      ((raw.drop 1).dropLast, true)
    else (raw, false)
  if raw.all isValueOctet then some (raw, quoted) else none

/-- A decimal integer of the signed 64-bit range with an optional sign, or `none`. -/
def readInt (s : Octets) : Option Int :=
  let (negative, digits) :=
    match s with
    | 0x2D :: rest => (true, rest)
    | 0x2B :: rest => (false, rest)
    | _ => (false, s)
  if digits.isEmpty || !digits.all Stamp.isDigit then none
  else
    let n : Int := digits.foldl (fun acc c => acc * 10 + Stamp.digit c) 0
    let v := if negative then -n else n
    if v < -(Nat.pow 2 63 : Int) || v ≥ (Nat.pow 2 63 : Int) then none else some v

def readExpires (s : Octets) : Option Int :=
  Stamp.cookieLayouts.findSome? fun layout => (Stamp.read layout s).toOption

/-- The cookie set by one `Set-Cookie` line: name, value, and the attributes understood. -/
structure Setting where
  name : String
  value : String
  quoted : Bool
  domain : String := ""
  path : Octets := []
  secure : Bool := false
  /-- Seconds to live; zero when not given, below zero to remove the cookie. -/
  maxAge : Int := 0
  /-- The expiry date in Unix seconds, when one was read. -/
  expires : Option Int := none

/-- Applies one attribute, already trimmed, to a setting. -/
def Setting.attribute (s : Setting) (part : Octets) : Setting :=
  let (attr, val) := cutAt part 0x3D
  let val := val.getD []
  if part.isEmpty || attr.any (· ≥ 0x80) then s
  else
    match parseValue val false with
    | none => s
    | some (v, _) =>
      let key := asciiText (lowerAscii attr)
      if key == "secure" then { s with secure := true }
      else if key == "domain" then { s with domain := asciiText v }
      else if key == "path" then { s with path := v }
      else if key == "max-age" then
        match readInt v with
        | some secs =>
          if secs != 0 && v.head? == some 0x30 then s
          else { s with maxAge := if secs ≤ 0 then -1 else secs }
        | none => s
      else if key == "expires" then { s with expires := readExpires v }
      else s

/-- Reads a `Set-Cookie` line, or `none` when it sets no cookie. -/
def parseSetting (line : String) : Option Setting :=
  match splitAt (trimBlank line.toUTF8.toList) 0x3B with
  | [] => none
  | first :: attrs =>
    if attrs.isEmpty && first.isEmpty then none
    else
      match cutAt (trimBlank first) 0x3D with
      | (_, none) => none
      | (rawName, some rawValue) =>
        let name := trimBlank rawName
        if name.isEmpty || !(asciiText name).toList.all Http.isTokenChar || name.any (· ≥ 0x80) then none
        else
          match parseValue rawValue true with
          | none => none
          | some (value, quoted) =>
            some (attrs.foldl (fun s a => s.attribute (trimBlank a))
              { name := asciiText name, value := asciiText value, quoted })

/-- A stored cookie. -/
structure Cookie where
  name : String
  value : String
  quoted : Bool
  domain : String
  hostOnly : Bool
  path : Octets
  secure : Bool
  /-- The order of creation, for sending. -/
  seq : Nat
  /-- The key of the host that set the cookie. -/
  key : String
  deriving Repr, DecidableEq

/-- A cookie jar, judging expiry dates at a fixed present instant. -/
structure Jar where
  cookies : List Cookie := []
  nextSeq : Nat := 0
  /-- The present instant in Unix seconds. -/
  now : Int := 1794528000
  deriving Repr

/-- Whether a host written in a URL carries a port. -/
def hasPort (host : String) : Bool :=
  match (host.toList.filter (· == ':')).length with
  | 0 => false
  | 1 => true
  | _ => host.startsWith "[" && (host.splitOn "]:").length > 1

/-- The octets of a text whose characters all lie below U+0100, one per character. -/
def latinOctets (s : String) : Octets := s.toList.map fun c => c.toNat.toUInt8

/-- The host of a URL as cookies see it: without its port and a trailing dot, its labels outside
ASCII in punycode, in lower case; `none` when the port does not split off or a label cannot be
encoded. -/
def canonicalHost (u : Url.Url) : Option String := do
  let raw := asciiText u.host
  let h ← if hasPort raw then Address.splitHostPort raw else some raw
  let h := latinOctets h
  let h := if h.getLast? == some 0x2E then h.dropLast else h
  let h ← Punycode.hostToAscii h
  pure (asciiText (lowerAscii h))

def isIP (host : String) : Bool :=
  host.toList.contains ':' || host.toList.contains '%' || Address.isDottedQuad host.toList

/-- The key under which cookies set by `host` are filed and cookies for `host` are looked up: an IP
address itself, else the part after the dot before the last dot (the host itself when it has no
such dot). -/
def jarKey (host : String) : String :=
  if isIP host then host
  else
    let cs := host.toList
    match cs.reverse.idxOf? '.' with
    | none => host
    | some fromEnd =>
      let i := cs.length - 1 - fromEnd
      if i == 0 then host
      else
        let before := cs.take (i - 1)
        match before.reverse.idxOf? '.' with
        | none => host
        | some back => String.ofList (cs.drop (before.length - back))

def hasDotSuffix (s suffix : String) : Bool :=
  s.length > suffix.length && s.endsWith suffix &&
    s.toList.getD (s.length - suffix.length - 1) ' ' == '.'

/-- The domain a cookie set by `host` with the `Domain` attribute `domain` belongs to, and whether
it belongs to the host alone; `none` when the attribute is not allowed. -/
def domainAndType (host domain : String) : Option (String × Bool) :=
  if domain.isEmpty then some (host, true)
  else if isIP host then (if host == domain then some (host, true) else none)
  else
    let d := if domain.startsWith "." then String.ofList (domain.toList.drop 1) else domain
    if d.isEmpty || d.startsWith "." then none
    else
      let d := asciiText (lowerAscii d.toUTF8.toList)
      if d.endsWith "." then none
      else if host != d && !hasDotSuffix host d then none
      else some (d, false)

/-- The directory of a request path, the default path of its cookies. -/
def defaultPath (path : Octets) : Octets :=
  if path.head? != some 0x2F then [0x2F]
  else
    match path.reverse.idxOf? 0x2F with
    | some fromEnd =>
      let i := path.length - 1 - fromEnd
      if i == 0 then [0x2F] else path.take i
    | none => [0x2F]

def usesCookies (u : Url.Url) : Bool := u.scheme == "http" || u.scheme == "https"

/-- A duration of `secs` seconds counted in nanoseconds on 64 bits, wrapping around. -/
def wrappedNanos (secs : Int) : Int :=
  let n := (secs * 1000000000) % (Nat.pow 2 64 : Int)
  if n ≥ (Nat.pow 2 63 : Int) then n - (Nat.pow 2 64 : Int) else n

/-- The time that passes between storing a cookie and the next request that could send it, in
nanoseconds: a lifetime no longer than this has run out by then. -/
def requestGap : Int := 1000000

/-- Whether a setting keeps its cookie at the jar's present instant (rather than removing it). -/
def Jar.keeps (j : Jar) (s : Setting) : Bool :=
  if s.maxAge < 0 then false
  else if s.maxAge > 0 then wrappedNanos s.maxAge > requestGap
  else
    match s.expires with
    | some t => t > j.now
    | none => true

/-- Stores one setting made by a response from `host` to a request for a path with directory
`dir`. -/
def Jar.storeOne (j : Jar) (host : String) (dir : Octets) (s : Setting) : Jar :=
  match domainAndType host s.domain with
  | none => j
  | some (domain, hostOnly) =>
    let key := jarKey host
    let path := if s.path.head? == some 0x2F then s.path else dir
    let same (c : Cookie) : Bool :=
      c.key == key && c.name == s.name && c.domain == domain && c.path == path
    let rest := j.cookies.filter (!same ·)
    if !j.keeps s then { j with cookies := rest }
    else
      match j.cookies.find? same with
      | some old =>
        { j with cookies :=
            rest ++ [⟨s.name, s.value, s.quoted, domain, hostOnly, path, s.secure, old.seq, key⟩] }
      | none =>
        { j with cookies :=
            rest ++ [⟨s.name, s.value, s.quoted, domain, hostOnly, path, s.secure, j.nextSeq, key⟩],
                 nextSeq := j.nextSeq + 1 }

/-- Stores the cookies set by a response to a request for `u`. -/
def Jar.store (j : Jar) (u : Url.Url) (lines : List String) : Jar :=
  if !usesCookies u then j
  else
    match canonicalHost u with
    | none => j
    | some host => (lines.filterMap parseSetting).foldl (fun j s => j.storeOne host (defaultPath u.path) s) j

/-- Whether a cookie path applies to a request path. -/
def pathMatches (cookiePath requestPath : Octets) : Bool :=
  requestPath == cookiePath ||
    (cookiePath.isPrefixOf requestPath &&
      (cookiePath.getLast? == some 0x2F || requestPath.getD cookiePath.length 0 == 0x2F))

/-- A cookie as it is sent: `name=value`, the value quoted when it holds a space or a comma or
came quoted. -/
def Cookie.pair (c : Cookie) : String :=
  let v := c.value
  let v := if !v.isEmpty && (v.toList.contains ' ' || v.toList.contains ',' || c.quoted) then "\"" ++ v ++ "\"" else v
  c.name ++ "=" ++ v

/-- Whether requests to a host are secure whatever their scheme: `localhost`, a name under it,
and a loopback address without a zone. -/
def isTrustworthy (host : String) : Bool :=
  host == "localhost" || host.endsWith ".localhost" ||
    match Ip.parse host.toUTF8.toList with
    | .ok (.v6 _ (_ :: _)) => false
    | .ok a => a.isLoopback
    | .error _ => false

/-- The `Cookie` header for a request to `u`, if any cookie applies. -/
def Jar.header (j : Jar) (u : Url.Url) : Option String :=
  if !usesCookies u then none
  else
    match canonicalHost u with
    | none => none
    | some host =>
      let path := if u.path.isEmpty then [0x2F] else u.path
      let applies := j.cookies.filter fun c =>
        c.key == jarKey host &&
        (c.domain == host || (!c.hostOnly && hasDotSuffix host c.domain)) &&
        pathMatches c.path path && (!c.secure || u.scheme == "https" || isTrustworthy host)
      let ordered := applies.mergeSort fun a b =>
        a.path.length > b.path.length || (a.path.length == b.path.length && a.seq ≤ b.seq)
      if ordered.isEmpty then none
      else some ("; ".intercalate (ordered.map Cookie.pair))

end RaceArchive.Cookie
