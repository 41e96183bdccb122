import RaceArchive.Text.Quote

/-!
# IP addresses in text

An IP address is written either as IPv4, four dotted decimal fields each below 256 and without
leading zeros, or as IPv6: up to eight colon-separated groups of at most four hexadecimal digits,
with one `::` standing for a run of zero groups, an optional dotted IPv4 tail in place of the last
two groups, and an optional zone after `%`. Whichever of a dot, a colon or a percent sign comes
first decides the form a text is read in.

A refusal names what is wrong and, for most faults, the text from where the fault was found.
-/

namespace RaceArchive.Ip

abbrev Bytes := List UInt8

/-- An address: four octets, or sixteen octets with a zone (empty when there is none). -/
inductive Addr where
  | v4 (octets : List UInt8)
  | v6 (octets : List UInt8) (zone : Bytes)
  deriving DecidableEq, Repr

/-- Why a text is not an IP address: the text, what is wrong with it, and the text from the fault
on (empty when it would not help). -/
structure Refusal where
  input : Bytes
  reason : String
  rest : Bytes := []
  deriving DecidableEq, Repr

def Refusal.message (r : Refusal) : String :=
  "ParseAddr(" ++ Text.quoteUtf8 r.input ++ "): " ++ r.reason ++
    (if r.rest.isEmpty then "" else " (at " ++ Text.quoteUtf8 r.rest ++ ")")

def isDigit (c : UInt8) : Bool := 0x30 ≤ c && c ≤ 0x39

/-- The value of a hexadecimal digit. -/
def hexDigit? (c : UInt8) : Option Nat :=
  if isDigit c then some (c.toNat - 0x30)
  else if 0x61 ≤ c && c ≤ 0x66 then some (c.toNat - 0x61 + 10)
  else if 0x41 ≤ c && c ≤ 0x46 then some (c.toNat - 0x41 + 10)
  else none

/-- Reads the four fields of a dotted IPv4 address `s`, part of the text `input`. `prev` is the
octet before `rest`, `value` and `digits` the field being read, `fields` those finished. -/
def v4Fields (input : Bytes) (rest : Bytes) (prev : Option UInt8) (value digits : Nat)
    (fields : List UInt8) : Except Refusal (List UInt8) :=
  match rest with
  | [] =>
    if fields.length < 3 then .error ⟨input, "IPv4 address too short", []⟩
    else .ok (fields ++ [value.toUInt8])
  | c :: tail =>
    if isDigit c then
      if digits == 1 && value == 0 then
        .error ⟨input, "IPv4 field has octet with leading zero", []⟩
      else
        let value := value * 10 + (c.toNat - 0x30)
        if value > 255 then .error ⟨input, "IPv4 field has value >255", []⟩
        else v4Fields input tail (some c) value (digits + 1) fields
    else if c == 0x2E then
      if prev.isNone || tail.isEmpty || prev == some 0x2E then
        .error ⟨input, "IPv4 field must have at least one digit", rest⟩
      else if fields.length == 3 then .error ⟨input, "IPv4 address too long", []⟩
      else v4Fields input tail (some c) 0 0 (fields ++ [value.toUInt8])
    else .error ⟨input, "unexpected character", rest⟩

def parseV4 (s : Bytes) : Except Refusal Addr :=
  (v4Fields s s none 0 0 []).map .v4

/-- The leading hexadecimal digits of `s` and their value, or the refusal of a group of five or
more. -/
def hexRun (input s : Bytes) : Except Refusal (Nat × Nat) :=
  let digits := s.takeWhile fun c => (hexDigit? c).isSome
  if digits.length > 4 then
    .error ⟨input, "each group must have 4 or less digits", s⟩
  else .ok (digits.length, digits.foldl (fun acc c => acc * 16 + (hexDigit? c).getD 0) 0)

/-- Reads the groups of an IPv6 address without its zone from `s`, having read the octets `ip`
(fewer than sixteen) with the `::` at `gap` if there was one. Returns the octets, the position of
the `::` and what was left unread. -/
def v6Groups (input : Bytes) : Nat → Bytes → List UInt8 → Option Nat →
    Except Refusal (List UInt8 × Option Nat × Bytes)
  | 0, s, ip, gap => .ok (ip, gap, s)
  | fuel + 1, s, ip, gap => do
    let (count, value) ← hexRun input s
    if count == 0 then
      throw ⟨input, "each colon-separated field must have at least one digit", s⟩
    let after := s.drop count
    if after.head? == some 0x2E then
      if gap.isNone && ip.length != 12 then
        throw ⟨input, "embedded IPv4 address must replace the final 2 fields of the address", s⟩
      if ip.length + 4 > 16 then
        throw ⟨input, "too many hex fields to fit an embedded IPv4 at the end of the address", s⟩
      let quad ← v4Fields input s none 0 0 []
      return (ip ++ quad, gap, [])
    let ip := ip ++ [(value / 256).toUInt8, (value % 256).toUInt8]
    match after with
    | [] => return (ip, gap, [])
    | c :: more =>
      if c != 0x3A then throw ⟨input, "unexpected character, want colon", after⟩
      if more.isEmpty then throw ⟨input, "colon must be followed by more characters", after⟩
      match more with
      | 0x3A :: more' =>
        if gap.isSome then throw ⟨input, "multiple :: in address", more⟩
        if more'.isEmpty then return (ip, some ip.length, [])
        if ip.length ≥ 16 then return (ip, some ip.length, more')
        v6Groups input fuel more' ip (some ip.length)
      | _ =>
        if ip.length ≥ 16 then return (ip, gap, more)
        v6Groups input fuel more ip gap

/-- Reads an IPv6 address with an optional zone. -/
def parseV6 (input : Bytes) : Except Refusal Addr := do
  let (s, zone) ← match input.idxOf? 0x25 with
    | some i =>
      let zone := input.drop (i + 1)
      if zone.isEmpty then throw ⟨input, "zone must be a non-empty string", []⟩
      pure (input.take i, zone)
    | none => pure (input, [])
  let (s, start) :=
    if s.take 2 == [0x3A, 0x3A] then (s.drop 2, some 0) else (s, none)
  if start.isSome && s.isEmpty then return .v6 (List.replicate 16 0) zone
  let (ip, gap, left) ← v6Groups input 8 s [] start
  if !left.isEmpty then throw ⟨input, "trailing garbage after address", left⟩
  if ip.length < 16 then
    match gap with
    | none => throw ⟨input, "address string too short", []⟩
    | some g => return .v6 (ip.take g ++ List.replicate (16 - ip.length) 0 ++ ip.drop g) zone
  else if gap.isSome then throw ⟨input, "the :: must expand to at least one field of zeros", []⟩
  else return .v6 ip zone

/-- Whether an address is a loopback address: IPv4 in `127.0.0.0/8`, written as such or mapped
into IPv6, or the IPv6 address `::1`. -/
def Addr.isLoopback : Addr → Bool
  | .v4 os => os.head? == some 127
  | .v6 os _ =>
    os == List.replicate 15 0 ++ [1] ||
      (os.take 12 == List.replicate 10 0 ++ [0xFF, 0xFF] && (os.drop 12).head? == some 127)

/-- Reads an IP address, in the form that the first dot, colon or percent sign calls for. -/
def parse (s : Bytes) : Except Refusal Addr :=
  match s.find? fun c => c == 0x2E || c == 0x3A || c == 0x25 with
  | some 0x2E => parseV4 s
  | some 0x3A => parseV6 s
  | some _ => .error ⟨s, "missing IPv6 address", []⟩
  | none => .error ⟨s, "unable to parse IP", []⟩

end RaceArchive.Ip
