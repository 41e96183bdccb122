import RaceArchive.Text.Quote
import RaceArchive.Web.Ip

/-!
# URLs

A URL is read into scheme, authority (user information and host), path, query and fragment, as
RFC 3986 lays them out. The scheme is put in lower case. A text whose rest after the scheme does
not start with `/` is kept whole as an opaque part. Percent escapes in the path, the host and the
fragment are decoded when reading and written again when printing; the query is kept as written.

Components are octet lists: a decoded escape may stand for an octet that is not UTF-8.

Escaping depends on the component: in a path only `?` among the reserved characters is escaped,
in a query component every reserved character is, and a space there becomes `+`. A host may hold
the sub-delimiters, `:` and brackets as they are, and may use escapes only for octets above ASCII.
-/

namespace RaceArchive.Url

abbrev Bytes := List UInt8

/-- The component an escape is for. -/
inductive Part where
  | path
  | pathSegment
  | host
  | zone
  | userPassword
  | queryComponent
  | fragment
  deriving DecidableEq, Repr

def isAlnum (c : UInt8) : Bool :=
  (0x61 ≤ c && c ≤ 0x7A) || (0x41 ≤ c && c ≤ 0x5A) || (0x30 ≤ c && c ≤ 0x39)

def ascii (s : String) : Bytes := s.toUTF8.toList

/-- Whether an octet must be escaped in a component. -/
def shouldEscape (c : UInt8) (part : Part) : Bool :=
  if isAlnum c then false
  else if (part == .host || part == .zone) && (ascii "!$&'()*+,;=:[]<>\"").contains c then false
  else if (ascii "-_.~").contains c then false
  else if (ascii "$&+,/:;=?@").contains c then
    match part with
    | .path => c == 0x3F
    | .pathSegment => c == 0x2F || c == 0x3B || c == 0x2C || c == 0x3F
    | .userPassword => c == 0x40 || c == 0x2F || c == 0x3F || c == 0x3A
    | .queryComponent => true
    | .fragment => false
    | _ => true
  else if part == .fragment && (ascii "!()*").contains c then false
  else true

def hexOctet (n : Nat) : UInt8 := (if n < 10 then 0x30 + n else 0x41 + n - 10).toUInt8

/-- Escapes the octets of a component that must be escaped. -/
def escape (s : Bytes) (part : Part) : Bytes :=
  s.flatMap fun c =>
    if shouldEscape c part then
      if c == 0x20 && part == .queryComponent then [0x2B]
      else [0x25, hexOctet (c.toNat / 16), hexOctet (c.toNat % 16)]
    else [c]

/-- The value of a hexadecimal digit octet. -/
def hexValue? (c : UInt8) : Option Nat :=
  if 0x30 ≤ c && c ≤ 0x39 then some (c.toNat - 0x30)
  else if 0x61 ≤ c && c ≤ 0x66 then some (c.toNat - 0x61 + 10)
  else if 0x41 ≤ c && c ≤ 0x46 then some (c.toNat - 0x41 + 10)
  else none

/-- Why a text is not a URL. -/
inductive Problem where
  /-- A control character stands somewhere in the text. -/
  | controlCharacter
  /-- The text starts with a colon. -/
  | missingScheme
  /-- A relative reference whose first segment holds a colon. -/
  | colonInFirstSegment
  /-- A percent sign not followed by two hexadecimal digits, or an escape a host may not use. -/
  | badEscape (s : Bytes)
  /-- A character a host may not hold. -/
  | badHostCharacter (s : Bytes)
  /-- What follows the last colon of a host is not a port. -/
  | badPort (s : Bytes)
  /-- A bracketed host without its closing bracket. -/
  | missingBracket
  /-- A bracketed host that is not an IP address, with the reason. -/
  | invalidHost (reason : String)
  /-- A bracketed host that is an IPv4 address, or that has text before its bracket. -/
  | badIpLiteral
  /-- User information with a character it may not hold. -/
  | badUserinfo
  deriving DecidableEq, Repr

/-- The message of a problem. -/
def Problem.message : Problem → String
  | .controlCharacter => "net/url: invalid control character in URL"
  | .missingScheme => "missing protocol scheme"
  | .colonInFirstSegment => "first path segment in URL cannot contain colon"
  | .badEscape s => "invalid URL escape " ++ Text.quoteUtf8 s
  | .badHostCharacter s => "invalid character " ++ Text.quoteUtf8 s ++ " in host name"
  | .badPort s => "invalid port " ++ Text.quoteUtf8 s ++ " after host"
  | .missingBracket => "missing ']' in host"
  | .invalidHost reason => "invalid host: " ++ reason
  | .badIpLiteral => "invalid IP-literal"
  | .badUserinfo => "net/url: invalid userinfo"

/-- Checks the escapes and characters of a component and decodes it; in a query component a
plus stands for a space. A host may escape only octets above ASCII (and `%25`); a zone may escape
only a space, `%25`, and octets a host may hold as they are. -/
def unescape (s : Bytes) (part : Part) : Except Problem Bytes :=
  go s [] (s.length + 1)
where
  /-- Decodes `rest`, having produced `acc` in reverse, with at most `fuel` steps left. -/
  go (rest : Bytes) (acc : Bytes) : Nat → Except Problem Bytes
    | 0 => .ok acc.reverse
    | fuel + 1 =>
      match rest with
      | [] => .ok acc.reverse
      | c :: tail =>
        if c == 0x25 then
          match tail with
          | a :: b :: tail' =>
            match hexValue? a, hexValue? b with
            | some x, some y =>
              let v := (x * 16 + y).toUInt8
              let percent := a == 0x32 && b == 0x35
              if part == .host && x < 8 && !percent then .error (.badEscape [c, a, b])
              else if part == .zone && !percent && v != 0x20 && shouldEscape v .host then
                .error (.badEscape [c, a, b])
              else go tail' (v :: acc) fuel
            | _, _ => .error (.badEscape (rest.take 3))
          | _ => .error (.badEscape (rest.take 3))
        else if c == 0x2B && part == .queryComponent then go tail (0x20 :: acc) fuel
        else if (part == .host || part == .zone) && c < 0x80 && shouldEscape c part then
          .error (.badHostCharacter [c])
        else go tail (c :: acc) fuel

/-- User information: a name and perhaps a password. -/
structure UserInfo where
  name : Bytes
  password : Option Bytes
  deriving DecidableEq, Repr

/-- A URL read into its components. -/
structure Url where
  scheme : String := ""
  /-- The rest after the scheme when it does not start with a slash. -/
  opaquePart : Bytes := []
  user : Option UserInfo := none
  host : Bytes := []
  path : Bytes := []
  /-- The path as written, kept when writing it back would not give the same text. -/
  rawPath : Bytes := []
  /-- The text had a scheme and a path starting with one slash, and no authority. -/
  omitHost : Bool := false
  /-- The text ended with a `?` and an empty query. -/
  forceQuery : Bool := false
  rawQuery : Bytes := []
  fragment : Bytes := []
  rawFragment : Bytes := []
  deriving DecidableEq, Repr

def cut (s : Bytes) (c : UInt8) : Bytes × Option Bytes :=
  match s.idxOf? c with
  | some i => (s.take i, some (s.drop (i + 1)))
  | none => (s, none)

/-- Splits a list at the last occurrence of an octet. -/
def cutLast (s : Bytes) (c : UInt8) : Option (Bytes × Bytes) :=
  match (s.reverse.idxOf? c) with
  | some j => some (s.take (s.length - j - 1), s.drop (s.length - j - 1))
  | none => none

/-- The scheme and the rest of a text: the scheme is the letters, digits, `+`, `-` and `.`
before the first colon, starting with a letter; without one, there is no scheme. -/
def splitScheme (s : Bytes) : Except Problem (Bytes × Bytes) :=
  go s 0
where
  /-- Looks at the octet at position `i` of what remains. -/
  go : Bytes → Nat → Except Problem (Bytes × Bytes)
    | [], _ => .ok ([], s)
    | c :: rest, i =>
      if (0x61 ≤ c && c ≤ 0x7A) || (0x41 ≤ c && c ≤ 0x5A) then go rest (i + 1)
      else if (0x30 ≤ c && c ≤ 0x39) || c == 0x2B || c == 0x2D || c == 0x2E then
        if i = 0 then .ok ([], s) else go rest (i + 1)
      else if c == 0x3A then
        if i = 0 then .error .missingScheme else .ok (s.take i, s.drop (i + 1))
      else .ok ([], s)

def isOptionalPort (p : Bytes) : Bool :=
  match p with
  | [] => true
  | c :: digits => c == 0x3A && digits.all fun d => 0x30 ≤ d && d ≤ 0x39

def lastIndex? (s : Bytes) (c : UInt8) : Option Nat :=
  (s.reverse.idxOf? c).map fun j => s.length - j - 1

/-- The position of the first occurrence of `%25`. -/
def zoneStart? (s : Bytes) : Option Nat :=
  (List.range s.length).find? fun i => (s.drop i).take 3 == [0x25, 0x32, 0x35]

/-- Reads a host, with an optional port. A host holding `[` is an IP literal: nothing may come
before its last `[`, which is checked first, what stands between it and the last `]` must read as
an IP address other than IPv4, its zone (from `%25` on) may use the escapes of a zone, and only a
port may follow the `]`. Any other host has its port after its first colon under the web schemes
`http` and `https`, after its last colon under the others. -/
def parseHost (scheme : String) (h : Bytes) : Except Problem Bytes :=
  match lastIndex? h 0x5B with
  | some opening =>
    if opening != 0 then .error .badIpLiteral
    else match lastIndex? h 0x5D with
    | none => .error .missingBracket
    | some closing => do
      let colonPort := h.drop (closing + 1)
      if !isOptionalPort colonPort then throw (.badPort colonPort)
      let port ← unescape colonPort .host
      let inner := (h.drop (opening + 1)).take (closing - (opening + 1))
      let name ← match zoneStart? inner with
        | some z => pure ((← unescape (inner.take z) .host) ++ (← unescape (inner.drop z) .zone))
        | none => unescape inner .host
      match Ip.parse name with
      | .error r => throw (.invalidHost r.message)
      | .ok (.v4 _) => throw .badIpLiteral
      | .ok (.v6 _ _) => pure ([0x5B] ++ name ++ [0x5D] ++ port)
  | none =>
    let portColon := if scheme == "http" || scheme == "https" then h.idxOf? 0x3A else lastIndex? h 0x3A
    match portColon with
    | some i =>
      let colonPort := h.drop i
      if !isOptionalPort colonPort then .error (.badPort colonPort) else unescape h .host
    | none => unescape h .host

def validUserinfo (s : Bytes) : Bool :=
  s.all fun c => isAlnum c || (ascii "-._:~!$&'()*+,;=%@").contains c

/-- Reads an authority: user information before the last `@`, then the host. -/
def parseAuthority (scheme : String) (a : Bytes) : Except Problem (Option UserInfo × Bytes) := do
  match cutLast a 0x40 with
  | none => pure (none, ← parseHost scheme a)
  | some (info, atHost) =>
    let host ← parseHost scheme (atHost.drop 1)
    if !validUserinfo info then throw .badUserinfo
    match cut info 0x3A with
    | (name, none) => pure (some ⟨← unescape name .userPassword, none⟩, host)
    | (name, some pw) =>
      pure (some ⟨← unescape name .userPassword, some (← unescape pw .userPassword)⟩, host)

/-- Whether an escaped text only escapes what it must and holds only what a path may. -/
def validEncoded (s : Bytes) (part : Part) : Bool :=
  s.all fun c => (ascii "!$&'()*+,;=:@[]%").contains c || !shouldEscape c part

/-- Sets the path from its written form, keeping the written form when it differs from what
escaping would give. -/
def Url.withPath (u : Url) (p : Bytes) : Except Problem Url := do
  let path ← unescape p .path
  pure { u with path, rawPath := if escape path .path == p then [] else p }

/-- Reads a URL without its fragment. -/
def parseMain (s : Bytes) : Except Problem Url := do
  if s.any (fun c => c < 0x20 || c == 0x7F) then throw .controlCharacter
  if s == [0x2A] then return { path := s }
  let (scheme, rest) ← splitScheme s
  let scheme := String.ofList ((scheme.map fun c => Char.ofNat c.toNat).map Char.toLower)
  let (rest, forceQuery, rawQuery) :=
    if rest.getLast? == some 0x3F && rest.count 0x3F == 1 then (rest.dropLast, true, [])
    else match cut rest 0x3F with
      | (r, some q) => (r, false, q)
      | (r, none) => (r, false, [])
  let u : Url := { scheme, forceQuery, rawQuery }
  if rest.head? != some 0x2F then
    if scheme != "" then return { u with opaquePart := rest }
    if (cut rest 0x2F).1.contains 0x3A then throw .colonInFirstSegment
  if rest.take 2 == [0x2F, 0x2F] && (scheme != "" || rest.take 3 != [0x2F, 0x2F, 0x2F]) then
    let authority := rest.drop 2
    let (authority, path) := match authority.idxOf? 0x2F with
      | some i => (authority.take i, authority.drop i)
      | none => (authority, [])
    let (user, host) ← parseAuthority scheme authority
    Url.withPath { u with user, host } path
  else if scheme != "" && rest.head? == some 0x2F then
    Url.withPath { u with omitHost := true } rest
  else Url.withPath u rest

/-- The failure of reading a URL: the text and the problem. -/
structure ParseFailure where
  text : String
  problem : Problem
  deriving DecidableEq, Repr

def ParseFailure.message (f : ParseFailure) : String :=
  "parse " ++ Text.quote f.text ++ ": " ++ f.problem.message

/-- Reads a URL. -/
def parse (s : String) : Except ParseFailure Url :=
  let b := ascii s
  match cut b 0x23 with
  | (main, frag) =>
    match parseMain main with
    | .error p => .error ⟨String.fromUTF8? ⟨main.toArray⟩ |>.getD s, p⟩
    | .ok u =>
      match frag with
      | none | some [] => .ok u
      | some f =>
        match unescape f .fragment with
        | .error p => .error ⟨s, p⟩
        | .ok fragment =>
          .ok { u with fragment, rawFragment := if escape fragment .fragment == f then [] else f }

/-- The path as printed: the written form when it is valid and decodes to the path, else the
path escaped. -/
def Url.escapedPath (u : Url) : Bytes :=
  let raw :=
    if !u.rawPath.isEmpty && validEncoded u.rawPath .path then
      match unescape u.rawPath .path with
      | .ok p => if p == u.path then some u.rawPath else none
      | .error _ => none
    else none
  match raw with
  | some r => r
  | none => if u.path == [0x2A] then u.path else escape u.path .path

/-- The fragment as printed. -/
def Url.escapedFragment (u : Url) : Bytes :=
  let raw :=
    if !u.rawFragment.isEmpty && validEncoded u.rawFragment .fragment then
      match unescape u.rawFragment .fragment with
      | .ok f => if f == u.fragment then some u.rawFragment else none
      | .error _ => none
    else none
  raw.getD (escape u.fragment .fragment)

/-- The printed form of user information. -/
def UserInfo.render (ui : UserInfo) : Bytes :=
  escape ui.name .userPassword ++
    match ui.password with
    | some p => 0x3A :: escape p .userPassword
    | none => []

/-- The octets of a URL as printed. -/
def Url.renderBytes (u : Url) : Bytes :=
  let schemePart := if u.scheme.isEmpty then [] else ascii u.scheme ++ [0x3A]
  let body :=
    if !u.opaquePart.isEmpty then u.opaquePart
    else
      let authority :=
        if u.scheme != "" || !u.host.isEmpty || u.user.isSome then
          if u.omitHost && u.host.isEmpty && u.user.isNone then []
          else
            (if !u.host.isEmpty || !u.path.isEmpty || u.user.isSome then [0x2F, 0x2F] else []) ++
            (match u.user with
              | some ui => ui.render ++ [0x40]
              | none => []) ++
            escape u.host .host
        else []
      let path := u.escapedPath
      let path := if authority.isEmpty && path.take 2 == [0x2F, 0x2F] then
          [0x25, 0x32, 0x46] ++ path.drop 1
        else path
      let slash := if !path.isEmpty && path.head? != some 0x2F && !u.host.isEmpty then [0x2F] else []
      let dot :=
        if schemePart.isEmpty && authority.isEmpty && slash.isEmpty &&
            (cut path 0x2F).1.contains 0x3A then [0x2E, 0x2F] else []
      authority ++ slash ++ dot ++ path
  let query := if u.forceQuery || !u.rawQuery.isEmpty then 0x3F :: u.rawQuery else []
  let frag := if u.fragment.isEmpty then [] else 0x23 :: u.escapedFragment
  schemePart ++ body ++ query ++ frag

def Url.render (u : Url) : String :=
  String.ofList (u.renderBytes.map fun c => Char.ofNat c.toNat)

def queryEscape (s : String) : String :=
  String.ofList ((escape (ascii s) .queryComponent).map fun c => Char.ofNat c.toNat)

def queryEscapeOctets (o : Bytes) : String :=
  String.ofList ((escape o .queryComponent).map fun c => Char.ofNat c.toNat)

/-- Query parameters as printed: sorted by name, each value as `name=value`, joined by `&`. -/
def encodeQuery (params : List (String × List String)) : String :=
  let sorted := params.mergeSort fun a b => a.1 ≤ b.1
  "&".intercalate (sorted.flatMap fun (k, vs) => vs.map fun v => queryEscape k ++ "=" ++ queryEscape v)

end RaceArchive.Url
