/-!
# Client addresses

Requests are counted per client. The client of a request is the host of its remote address
(`host:port`, an IPv6 host in brackets; an address that does not split so is taken whole). A host
that reads as an IPv6 address stands for its whole `/64` network, so that one client cannot escape
the count by changing the low bits; any other host, IPv4 addresses included, stands for itself.

A host is taken for IPv6 when a colon comes before any dot. It then reads as IPv6 when it has
eight groups of at most four hexadecimal digits, or fewer with one `::` standing for at least
one group of zeros, the last two groups possibly written as a dotted IPv4 address; no zone.
-/

namespace RaceArchive.Address

/-- Splits `host:port`: the host, or `none` when the address does not split. -/
def splitHostPort (s : String) : Option String :=
  let cs := s.toList
  match cs.reverse.idxOf? ':' with
  | none => none
  | some fromEnd =>
    let i := cs.length - 1 - fromEnd
    let (host, k, j) :=
      if cs.head? == some '[' then
        match cs.idxOf? ']' with
        | none => (none, 0, 0)
        | some e => if e + 1 == i then (some (cs.drop 1 |>.take (e - 1)), e + 1, 1) else (none, 0, 0)
      else
        let h := cs.take i
        if h.contains ':' then (none, 0, 0) else (some h, 0, 0)
    match host with
    | none => none
    | some h =>
      if (cs.drop j).contains '[' || (cs.drop k).contains ']' then none
      else some (String.ofList h)

/-- The value of a hexadecimal digit. -/
def hexDigit (c : Char) : Option Nat :=
  if '0' ≤ c && c ≤ '9' then some (c.toNat - '0'.toNat)
  else if 'a' ≤ c && c ≤ 'f' then some (c.toNat - 'a'.toNat + 10)
  else if 'A' ≤ c && c ≤ 'F' then some (c.toNat - 'A'.toNat + 10)
  else none

/-- Reads a group of hexadecimal digits: its value and the rest, or `none` when there are no
digits, more than four, or the value is too large. -/
def hexGroup (cs : List Char) : Option (Nat × List Char) :=
  let digits := cs.takeWhile fun c => (hexDigit c).isSome
  if digits.isEmpty || digits.length > 4 then none
  else some (digits.foldl (fun acc c => acc * 16 + (hexDigit c).getD 0) 0, cs.drop digits.length)

/-- Whether a text is a dotted IPv4 address: four decimal fields below 256, without leading
zeros. -/
def isDottedQuad (cs : List Char) : Bool :=
  let fields := (String.ofList cs).splitOn "."
  fields.length == 4 && fields.all fun f =>
    !f.isEmpty && f.all Char.isDigit && (f.length == 1 || !f.startsWith "0") && (f.toNat?.getD 256) < 256

/-- Reads the groups of an IPv6 address from `cs`, with at most `fuel` groups: the groups read
(each a 16-bit value, an embedded IPv4 address counting as two) and where `::` stood, or `none`. -/
def groups (fuel : Nat) (cs : List Char) (acc : List Nat) (gap : Option Nat) :
    Option (List Nat × Option Nat) :=
  match fuel with
  | 0 => none
  | fuel + 1 =>
    match hexGroup cs with
    | none => none
    | some (v, rest) =>
      if rest.head? == some '.' then
        if (gap.isNone && acc.length != 6) || acc.length + 2 > 8 then none
        else
          let quad := cs.takeWhile fun c => c.isDigit || c == '.'
          if quad.length == cs.length && isDottedQuad quad then some (acc ++ [0, 0], gap)
          else none
      else
        let acc := acc ++ [v]
        match rest with
        | [] => some (acc, gap)
        | [':'] => none
        | ':' :: ':' :: more =>
          if gap.isSome then none
          else if more.isEmpty then some (acc, some acc.length)
          else groups fuel more acc (some acc.length)
        | ':' :: more => if acc.length ≥ 8 then none else groups fuel more acc gap
        | _ => none

/-- The sixteen-bit groups of an IPv6 address, or `none` when the text is not one. -/
def parseIPv6 (s : String) : Option (List Nat) :=
  let cs := s.toList
  if cs.contains '%' then none
  else
    let read :=
      match cs with
      | ':' :: ':' :: [] => some ([], some 0)
      | ':' :: ':' :: rest => groups 9 rest [] (some 0)
      | _ => groups 9 cs [] none
    match read with
    | none => none
    | some (gs, none) => if gs.length == 8 then some gs else none
    | some (gs, some pos) =>
      if gs.length ≥ 8 then none
      else some (gs.take pos ++ List.replicate (8 - gs.length) 0 ++ gs.drop pos)

/-- Whom a request is counted against. -/
inductive Client where
  /-- The network of an IPv6 address: its first four groups. -/
  | network (high : List Nat)
  /-- A host taken as it is written. -/
  | host (text : String)
  deriving DecidableEq, Repr

def colonFirst (s : String) : Bool :=
  match s.toList.find? fun c => c == ':' || c == '.' with
  | some ':' => true
  | _ => false

/-- The client of a remote address. -/
def client (remote : String) : Client :=
  let host := (splitHostPort remote).getD remote
  if colonFirst host then
    match parseIPv6 host with
    | some gs => .network (gs.take 4)
    | none => .host host
  else .host host

end RaceArchive.Address
