import RaceArchive.Time.Civil
import RaceArchive.Text.Quote

/-!
# Reading timestamps against a layout

A layout is a list of pieces: literal octets, blanks, numeric fields and names. Reading walks the
layout and the octets of the text together. A literal must match exactly; a blank takes one or
more spaces; a field takes its digits; a four-digit year takes exactly four digits, a two-digit
field exactly two, and the hour one or two. Month and weekday names are the English three-letter
abbreviations in any case; a zone is read only for its form. After each field its range is
checked (month 1–12, hour below 24, minute and second below 60), and a fraction of a second right
after the seconds is skipped. The day is checked against its month only once the whole text is
read, so any other complaint comes first. Text left over after the layout is refused.

A complaint names the text and, for a mismatch, the rest of the text where the piece did not fit
and the piece's own layout text; a range complaint names only the field.
-/

namespace RaceArchive.Stamp

/-- A piece of a layout. -/
inductive Piece where
  | literal (c : UInt8)
  /-- One or more blanks, or the end of the text. -/
  | space
  | year
  | month
  /-- A month as its three-letter English name, in any case. -/
  | monthName
  | day
  | hour
  | minute
  | second
  /-- A weekday as its three-letter English name, in any case; not checked against the date. -/
  | weekdayName
  /-- A zone: `UTC`, `GMT` with an optional hour offset, a signed hour offset, or a name of three
  to five capitals; it names the zone but does not move the instant. -/
  | zoneName
  deriving Repr, DecidableEq

/-- The layout text of a piece, as complaints show it. -/
def Piece.text : Piece → String
  | .literal c => (Char.ofNat c.toNat).toString
  | .space => " "
  | .monthName => "Jan"
  | .weekdayName => "Mon"
  | .zoneName => "MST"
  | .year => "2006"
  | .month => "01"
  | .day => "02"
  | .hour => "15"
  | .minute => "04"
  | .second => "05"

def utcLayout : List Piece :=
  [.year, .literal 0x2D, .month, .literal 0x2D, .day, .literal 0x54, .hour, .literal 0x3A,
   .minute, .literal 0x3A, .second, .literal 0x5A]

/-- The layouts of cookie expiry dates, such as `Thu, 01 Jan 1970 00:00:00 GMT` and
`Thu, 01-Jan-1970 00:00:00 GMT`. -/
def cookieLayouts : List (List Piece) :=
  [[.weekdayName, .literal 0x2C, .space, .day, .space, .monthName, .space, .year, .space, .hour,
     .literal 0x3A, .minute, .literal 0x3A, .second, .space, .zoneName],
   [.weekdayName, .literal 0x2C, .space, .day, .literal 0x2D, .monthName, .literal 0x2D, .year,
     .space, .hour, .literal 0x3A, .minute, .literal 0x3A, .second, .space, .zoneName]]

def layoutText (layout : List Piece) : String := String.join (layout.map Piece.text)

/-- Why a text does not read against a layout. -/
inductive Complaint where
  /-- The rest of the text did not fit the piece with this layout text. -/
  | cannotParse (rest : List UInt8) (piece : String)
  /-- A field is out of its range. -/
  | outOfRange (field : String)
  /-- Text is left over. -/
  | extraText (rest : List UInt8)
  deriving Repr, DecidableEq

/-- The message of a complaint about the text `value` read against `layout`. -/
def Complaint.message (layout : String) (value : List UInt8) : Complaint → String
  | .cannotParse rest piece =>
    "parsing time " ++ Text.quoteBytes value ++ " as " ++ Text.quoteOctets layout ++
      ": cannot parse " ++ Text.quoteBytes rest ++ " as " ++
      Text.quoteOctets piece
  | .outOfRange field => "parsing time " ++ Text.quoteBytes value ++ ": " ++ field ++ " out of range"
  | .extraText rest =>
    "parsing time " ++ Text.quoteBytes value ++ ": extra text: " ++
      Text.quoteBytes rest

def isDigit (c : UInt8) : Bool := 0x30 ≤ c && c ≤ 0x39

def digit (c : UInt8) : Nat := c.toNat - 0x30

/-- Takes a number of one or two digits (exactly two when `fixed`). -/
def takeNumber (fixed : Bool) : List UInt8 → Option (Nat × List UInt8)
  | a :: b :: rest =>
    if isDigit a then
      if isDigit b then some (digit a * 10 + digit b, rest)
      else if fixed then none else some (digit a, b :: rest)
    else none
  | [a] => if isDigit a ∧ !fixed then some (digit a, []) else none
  | [] => none

/-- The text after a fraction of a second that follows the seconds: a point or comma and the
digits after it, when at least one digit follows. The layouts have no place for a fraction, so
it is taken and dropped. -/
def skipFraction : List UInt8 → List UInt8
  | sep :: d :: rest =>
    if (sep == 0x2E || sep == 0x2C) && isDigit d then rest.dropWhile isDigit else sep :: d :: rest
  | v => v

/-- Whether `v` starts with `name`, letters compared without regard to case. -/
def startsWithName (v : List UInt8) (name : String) : Bool :=
  let n := name.toUTF8.toList
  let lower (c : UInt8) : UInt8 := if 0x41 ≤ c && c ≤ 0x5A then c + 0x20 else c
  v.length ≥ n.length && (v.zip n).all fun (a, b) => a == b || (lower a == lower b && 0x61 ≤ lower a && lower a ≤ 0x7A)

/-- The position (from one) of the first name in `names` that `v` starts with, and the rest. -/
def lookupName (names : List String) (v : List UInt8) : Option (Nat × List UInt8) :=
  match (names.zip (List.range names.length)).find? fun (n, _) => startsWithName v n with
  | some (n, i) => some (i + 1, v.drop n.length)
  | none => none

def monthNames : List String :=
  ["Jan", "Feb", "Mar", "Apr", "May", "Jun", "Jul", "Aug", "Sep", "Oct", "Nov", "Dec"]

def weekdayNames : List String := ["Sun", "Mon", "Tue", "Wed", "Thu", "Fri", "Sat"]

/-- The leading digits of `v` as a number, and the rest; `none` when the number passes 2^63. -/
def leadingNumber (v : List UInt8) : Option (Nat × List UInt8) :=
  let ds := v.takeWhile isDigit
  let n := ds.foldl (fun acc c => acc * 10 + digit c) 0
  if n > Nat.pow 2 63 then none else some (n, v.drop ds.length)

/-- The length of a signed hour offset such as `+05` at the start of `v`: a sign, then digits
worth at most 23; zero when there is none. -/
def signedOffsetLength (v : List UInt8) : Nat :=
  match v with
  | sign :: rest =>
    if sign != 0x2B && sign != 0x2D then 0
    else match leadingNumber rest with
      | some (n, more) => if more.length == rest.length || n > 23 then 0 else v.length - more.length
      | none => 0
  | [] => 0

/-- The length of a zone name at the start of `v`, if one is there. -/
def zoneLength (v : List UInt8) : Option Nat :=
  let isUpper (c : UInt8) : Bool := 0x41 ≤ c && c ≤ 0x5A
  if v.length < 3 then none
  else if v.take 4 == "ChST".toUTF8.toList || v.take 4 == "MeST".toUTF8.toList then some 4
  else if v.take 3 == "GMT".toUTF8.toList then
    some (if v.length == 3 then 3 else 3 + signedOffsetLength (v.drop 3))
  else if v.head? == some 0x2B || v.head? == some 0x2D then
    let n := signedOffsetLength v
    if n > 0 then some n else none
  else
    let upper := (v.take 6).takeWhile isUpper
    match upper.length with
    | 3 => some 3
    | 4 => if v.getD 3 0 == 0x54 || v.take 4 == "WITA".toUTF8.toList then some 4 else none
    | 5 => if v.getD 4 0 == 0x54 then some 5 else none
    | _ => none

/-- The fields read so far. -/
structure Fields where
  year : Int := 0
  month : Nat := 1
  day : Nat := 1
  hour : Nat := 0
  minute : Nat := 0
  second : Nat := 0
  deriving Repr

/-- Reads the text `v` against the pieces of a layout, filling in the fields. -/
def readPieces : List Piece → List UInt8 → Fields → Except Complaint (Fields × List UInt8)
  | [], v, f => .ok (f, v)
  | p :: ps, v, f =>
    let bad : Except Complaint (Fields × List UInt8) := .error (.cannotParse v p.text)
    match p with
    | .literal c =>
      match v with
      | x :: rest => if x = c then readPieces ps rest f else bad
      | [] => bad
    | .space =>
      match v with
      | x :: _ => if x = 0x20 then readPieces ps (v.dropWhile (· == 0x20)) f else bad
      | [] => readPieces ps v f
    | .monthName =>
      match lookupName monthNames v with
      | some (n, rest) => readPieces ps rest { f with month := n }
      | none => bad
    | .weekdayName =>
      match lookupName weekdayNames v with
      | some (_, rest) => readPieces ps rest f
      | none => bad
    | .zoneName =>
      if v.take 3 == "UTC".toUTF8.toList then readPieces ps (v.drop 3) f
      else match zoneLength v with
        | some n => readPieces ps (v.drop n) f
        | none => bad
    | .year =>
      match v with
      | a :: b :: c :: d :: rest =>
        if [a, b, c, d].all isDigit then
          readPieces ps rest { f with year := digit a * 1000 + digit b * 100 + digit c * 10 + digit d }
        else bad
      | _ => bad
    | .month =>
      match takeNumber true v with
      | some (n, rest) =>
        if n = 0 ∨ n > 12 then .error (.outOfRange "month") else readPieces ps rest { f with month := n }
      | none => bad
    | .day =>
      match takeNumber true v with
      | some (n, rest) => readPieces ps rest { f with day := n }
      | none => bad
    | .hour =>
      match takeNumber false v with
      | some (n, rest) =>
        if n ≥ 24 then .error (.outOfRange "hour") else readPieces ps rest { f with hour := n }
      | none => bad
    | .minute =>
      match takeNumber true v with
      | some (n, rest) =>
        if n ≥ 60 then .error (.outOfRange "minute") else readPieces ps rest { f with minute := n }
      | none => bad
    | .second =>
      match takeNumber true v with
      | some (n, rest) =>
        if n ≥ 60 then .error (.outOfRange "second")
        else readPieces ps (skipFraction rest) { f with second := n }
      | none => bad

/-- Reads a text against a layout into Unix seconds, read as UTC. -/
def read (layout : List Piece) (s : List UInt8) : Except Complaint Int :=
  match readPieces layout s {} with
  | .error c => .error c
  | .ok (f, rest) =>
    if !rest.isEmpty then .error (.extraText rest)
    else if f.day = 0 ∨ f.day > Civil.daysIn f.month f.year then .error (.outOfRange "day")
    else .ok (Civil.DateTime.toUnix ⟨f.year, f.month, f.day, f.hour, f.minute, f.second⟩)

end RaceArchive.Stamp
