import RaceArchive.Decimal.Binary64
import RaceArchive.Text.Quote

/-!
# Reading decimal numerals

Signed 64-bit integers and doubles from text. An integer is an optional sign and decimal digits;
it is refused as out of range as soon as its digits pass `2^64 - 1`, and otherwise when the signed
value does not fit in 64 bits. A double is an optional sign, digits with at most one point, and an
optional exponent `e` or `E` with its own sign; an underscore may stand between digits. Its value
is the double nearest to the exact decimal, and a numeral whose value rounds past the largest
double is refused as out of range. `inf`, `infinity` and `nan` are read without regard to case.

A refusal's message names the reader, the text and the reason.
-/

namespace RaceArchive.Decimal

/-- Why a numeral was refused. -/
inductive Refusal where
  /-- The text is not a numeral of the form asked for. -/
  | invalid
  /-- The numeral is well formed but its value does not fit. -/
  | outOfRange
  deriving DecidableEq, Repr

def Refusal.reason : Refusal → String
  | .invalid => "invalid syntax"
  | .outOfRange => "value out of range"

/-- The message of a refusal by the reader named `reader`, for the text `s`. -/
def Refusal.message (reader s : String) (r : Refusal) : String :=
  "strconv." ++ reader ++ ": parsing " ++ Text.quote s ++ ": " ++ r.reason

/-- The message of a refusal by the reader named `reader`, for the octets `s`. -/
def Refusal.messageOctets (reader : String) (s : Octets) (r : Refusal) : String :=
  "strconv." ++ reader ++ ": parsing " ++ Text.quoteUtf8 s ++ ": " ++ r.reason

def digitValue (c : Char) : Nat := c.toNat - '0'.toNat

/-- Adds the decimal digits `cs` to `n` from the left, stopping with a refusal as soon as the value
passes `bound`. -/
def accumulate (bound : Nat) : List Char → Nat → Except Refusal Nat
  | [], n => .ok n
  | c :: cs, n =>
    if c.isDigit then
      let n' := n * 10 + digitValue c
      if n' > bound then .error .outOfRange else accumulate bound cs n'
    else .error .invalid

def parseNat64 (s : String) : Except Refusal Nat :=
  if s.isEmpty then .error .invalid else accumulate (Nat.pow 2 64 - 1) s.toList 0

/-- Reads a signed decimal numeral that fits in 64 bits. -/
def parseInt64 (s : String) : Except Refusal Int :=
  let (neg, body) :=
    match s.toList with
    | '+' :: r => (false, r)
    | '-' :: r => (true, r)
    | r => (false, r)
  if body.isEmpty then .error .invalid
  else match accumulate (Nat.pow 2 64 - 1) body 0 with
    | .error e => .error e
    | .ok n =>
      if neg then
        if n > Nat.pow 2 63 then .error .outOfRange else .ok (-(n : Int))
      else if n ≥ Nat.pow 2 63 then .error .outOfRange else .ok n

/-! ## Doubles -/

/-- The mantissa of a decimal numeral as read so far: the value of its digits, how many of them
followed the point, and whether a point, a digit or an underscore has been seen. -/
structure Mantissa where
  digits : Nat := 0
  fraction : Nat := 0
  sawPoint : Bool := false
  sawDigit : Bool := false
  sawUnderscore : Bool := false

/-- Reads mantissa characters until one that cannot continue it (or a second point). -/
def readMantissa : List Char → Mantissa → Mantissa × List Char
  | [], m => (m, [])
  | c :: cs, m =>
    if c.isDigit then
      readMantissa cs { m with digits := m.digits * 10 + digitValue c, sawDigit := true,
                               fraction := if m.sawPoint then m.fraction + 1 else m.fraction }
    else if c = '_' then readMantissa cs { m with sawUnderscore := true }
    else if c = '.' ∧ !m.sawPoint then readMantissa cs { m with sawPoint := true }
    else (m, c :: cs)

/-- Reads exponent digits and underscores; the value stops growing once it reaches ten thousand,
which is far past any exponent that matters. -/
def readExponentDigits : List Char → Nat → Bool → Nat × Bool × List Char
  | [], e, u => (e, u, [])
  | c :: cs, e, u =>
    if c.isDigit then readExponentDigits cs (if e < 10000 then e * 10 + digitValue c else e) u
    else if c = '_' then readExponentDigits cs e true
    else (e, u, c :: cs)

/-- Reads an optional exponent: the mark, an optional sign, and at least one digit first. Returns
the signed exponent, whether an underscore was seen, and the rest; `none` when a mark stands
without a proper exponent. -/
def readExponent (cs : List Char) : Option (Int × Bool × List Char) :=
  match cs with
  | c :: r =>
    if c = 'e' ∨ c = 'E' then
      let (neg, r) :=
        match r with
        | '+' :: r' => (false, r')
        | '-' :: r' => (true, r')
        | r' => (false, r')
      match r with
      | d :: _ =>
        if d.isDigit then
          let (e, u, rest) := readExponentDigits r 0 false
          some (if neg then -(e : Int) else e, u, rest)
        else none
      | [] => none
    else some (0, false, cs)
  | [] => some (0, false, [])

/-- Whether the underscores of a numeral each stand between two digits. -/
def underscoresBetweenDigits (cs : List Char) : Bool :=
  let body := match cs with
    | '+' :: r => r
    | '-' :: r => r
    | r => r
  -- the class of the previous character: digit, underscore, or other (including the start)
  let step : Option Bool → Char → Option (Option Bool)
    | prev, c =>
      if c.isDigit then some (some true)
      else if c = '_' then (if prev = some true then some (some false) else none)
      else if prev = some false then none
      else some none
  match body.foldlM step none with
  | some last => last != some false
  | none => false

/-- Whether `s` begins with `w`, comparing ASCII letters without regard to case; `w` is lower case. -/
def startsWithNoCase (s w : List Char) : Bool :=
  s.length ≥ w.length && (s.zip w).all fun (a, b) => a.toLower = b

/-- A text naming infinity or NaN: `inf` or `infinity` with an optional sign, or `nan` alone. -/
def special? (cs : List Char) : Option Float :=
  let (neg, signed, r) :=
    match cs with
    | '+' :: r => (false, true, r)
    | '-' :: r => (true, true, r)
    | r => (false, false, r)
  let inf := if neg then -Binary64.infinity else Binary64.infinity
  if r.length = 3 ∧ startsWithNoCase r "inf".toList then some inf
  else if r.length = 8 ∧ startsWithNoCase r "infinity".toList then some inf
  else if !signed ∧ r.length = 3 ∧ startsWithNoCase r "nan".toList then some Binary64.nan
  else none

def decimalLength (n : Nat) : Nat := (Nat.toDigits 10 n).length

/-- The double nearest to `digits · 10^scale`, with a sign; a value that rounds past the largest
double is refused. -/
def nearestDouble (negative : Bool) (digits : Nat) (scale : Int) : Except Refusal Float :=
  if digits = 0 then .ok (Binary64.ofRatio negative 0 1)
  else
    let top := scale + decimalLength digits
    if top > 310 then .error .outOfRange
    else if top < -330 then .ok (Binary64.ofRatio negative 0 1)
    else
      let x :=
        if scale ≥ 0 then Binary64.ofRatio negative (digits * Nat.pow 10 scale.toNat) 1
        else Binary64.ofRatio negative digits (Nat.pow 10 (-scale).toNat)
      if Binary64.isFinite x then .ok x else .error .outOfRange

/-- Reads a double from a decimal numeral. -/
def parseFloat (s : String) : Except Refusal Float :=
  let cs := s.toList
  match special? cs with
  | some x => .ok x
  | none =>
    let (neg, body) :=
      match cs with
      | '+' :: r => (false, r)
      | '-' :: r => (true, r)
      | r => (false, r)
    let (m, rest) := readMantissa body {}
    if !m.sawDigit then .error .invalid
    else match readExponent rest with
      | none => .error .invalid
      | some (e, u, rest) =>
        if !rest.isEmpty then .error .invalid
        else if (m.sawUnderscore || u) && !underscoresBetweenDigits cs then .error .invalid
        else nearestDouble neg m.digits (e - m.fraction)

end RaceArchive.Decimal
