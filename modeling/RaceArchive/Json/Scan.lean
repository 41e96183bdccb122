import RaceArchive.Text.Utf8

/-!
# Scanning JSON text

The lowest layer of the JSON reader: a document is an octet string read through a cursor, and
every position at or past its end reads as NUL, the end marker. A NUL octet inside the document
ends it just the same. On top of that sit the pieces every typed reader shares: skipping blanks,
checking the words `null`, `true` and `false`, reading a string literal, and skipping a whole
value without interpreting it.

Skipping is deliberately loose: it pairs braces (or brackets) and steps over string literals,
and checks nothing else inside but how deep brackets of either kind nest, so a value that is
skipped can be malformed inside as long as its brackets balance. A failure names what broke off,
in the wording of `Malformed.message`.
-/

namespace RaceArchive.Json

abbrev Doc := ByteArray

def Doc.at (d : Doc) (i : Nat) : UInt8 := d[i]?.getD 0

/-- Why a text is not the JSON the reader expected. -/
inductive Malformed where
  /-- A value cannot start with this octet. -/
  | badStart (c : UInt8)
  /-- The text ended (or hit NUL) inside the named construct. -/
  | cutShort (what : String)
  /-- A separator or bracket was due. -/
  | expected (what : String)
  /-- This octet cannot stand inside the named construct. -/
  | badCharIn (c : UInt8) (what : String)
  /-- Something other than blanks follows the value. -/
  | trailing (c : UInt8)
  /-- A `\u` escape with a non-hexadecimal digit. -/
  | badHexEscape (c : UInt8)
  /-- A number token that does not read as a number, with the reason. -/
  | badNumber (reason : String)
  /-- This opening bracket nests values deeper than the reader follows. -/
  | tooDeep (c : UInt8)
  deriving Repr, DecidableEq

def octetChar (c : UInt8) : Char := Char.ofNat c.toNat

/-- The message of a malformed text. -/
def Malformed.message : Malformed → String
  | .badStart c => "invalid character '" ++ (octetChar c).toString ++ "' looking for beginning of value"
  | .cutShort what => "json: " ++ what ++ " unexpected end of JSON input"
  | .expected what => "expected " ++ what
  | .badCharIn c what =>
    if c = 0 then "json: invalid character as " ++ what
    else "json: invalid character " ++ (octetChar c).toString ++ " as " ++ what
  | .trailing c => "invalid character '" ++ (octetChar c).toString ++ "' after top-level value"
  | .badHexEscape c =>
    "json: invalid character " ++ (octetChar c).toString ++ " in \\u hexadecimal character escape"
  | .badNumber reason => reason
  | .tooDeep c => "invalid character \"" ++ (octetChar c).toString ++ "\" exceeded max depth"

def isBlank (c : UInt8) : Bool := c == 0x20 || c == 0x09 || c == 0x0A || c == 0x0D

def isDigit (c : UInt8) : Bool := 0x30 ≤ c && c ≤ 0x39

/-- An octet that may continue a number token: a digit, a point, an exponent mark or a sign. -/
def isNumberPart (c : UInt8) : Bool :=
  isDigit c || c == 0x2E || c == 0x65 || c == 0x45 || c == 0x2B || c == 0x2D

/-- The first position at or after `i` that is not a blank. -/
def skipBlank (d : Doc) (i : Nat) : Nat :=
  if h : i < d.size then
    if isBlank d[i] then skipBlank d (i + 1) else i
  else i
termination_by d.size - i

/-- The first position at or after `i` where `p` fails. -/
def skipWhile (p : UInt8 → Bool) (d : Doc) (i : Nat) : Nat :=
  if h : i < d.size then
    if p d[i] then skipWhile p d (i + 1) else i
  else i
termination_by d.size - i

/-- Checks that the word `w` (whose first letter is under the cursor) is spelled out at `i`.
The text must leave room for the whole word before its end marker. -/
def checkWord (d : Doc) (i : Nat) (w : String) : Except Malformed Unit :=
  let ws := w.toUTF8
  if i + ws.size > d.size + 1 then .error (.cutShort w)
  else
    match (List.range ws.size).drop 1 |>.find? (fun k => d.at (i + k) != Doc.at ws k) with
    | some k => .error (.badCharIn (d.at (i + k)) w)
    | none => .ok ()

/-- Steps over a string literal whose opening quote is at `i`, returning the position after the
closing quote. A backslash hides the octet after it. -/
def skipString (d : Doc) (i : Nat) (what : String) : Except Malformed Nat :=
  go (i + 1) (d.size + 1)
where
  /-- Scans from `j` with at most `fuel` octets left to look at. -/
  go (j : Nat) : Nat → Except Malformed Nat
    | 0 => .error (.cutShort what)
    | fuel + 1 =>
      let c := d.at j
      if c == 0x5C then
        if d.at (j + 1) == 0 then .error (.cutShort what) else go (j + 2) fuel
      else if c == 0x22 then .ok (j + 1)
      else if c == 0 then .error (.cutShort what)
      else go (j + 1) fuel

def nestingLimit : Nat := 10000

/-- Steps over a bracketed value opening at `i`, `depth` values deep, by counting `open` and
`close` octets, stepping over string literals; `what` names the construct for a text that ends too
early. Every bracket of either kind moves the depth, and an opening one that takes it past
`nestingLimit` is refused. -/
def skipNested (d : Doc) (i : Nat) (depth : Int) (openC closeC : UInt8) (what : String) :
    Except Malformed Nat :=
  go (i + 1) 1 depth (d.size + 1)
where
  /-- Scans from `j` with `count` brackets of the value still open, `level` values deep. -/
  go (j count : Nat) (level : Int) : Nat → Except Malformed Nat
    | 0 => .error (.cutShort what)
    | fuel + 1 =>
      let c := d.at j
      if c == 0x7B || c == 0x5B then
        if level + 1 > nestingLimit then .error (.tooDeep c)
        else go (j + 1) (if c == openC then count + 1 else count) (level + 1) fuel
      else if c == closeC then
        if count ≤ 1 then .ok (j + 1) else go (j + 1) (count - 1) (level - 1) fuel
      else if c == 0x7D || c == 0x5D then go (j + 1) count (level - 1) fuel
      else if c == 0x22 then
        match skipString d j "string of object" with
        | .ok k => go k count level fuel
        | .error e => .error e
      else if c == 0 then .error (.cutShort what)
      else go (j + 1) count level fuel

/-- Steps over one value of any kind at `i` (after blanks), inside `depth` enclosing values,
returning the position after it. Objects and arrays are only bracket-matched; a number is any run
of number octets. -/
def skipValue (d : Doc) (depth : Nat) (i : Nat) : Except Malformed Nat :=
  let i := skipBlank d i
  let c := d.at i
  if c == 0x7B then skipNested d i (depth + 1) 0x7B 0x7D "object of object"
  else if c == 0x5B then skipNested d i (depth + 1) 0x5B 0x5D "array of object"
  else if c == 0x22 then skipString d i "string of object"
  else if isDigit c || c == 0x2D then .ok (skipWhile isNumberPart d (i + 1))
  else if c == 0x74 then (checkWord d i "true").map fun _ => i + 4
  else if c == 0x66 then (checkWord d i "false").map fun _ => i + 5
  else if c == 0x6E then (checkWord d i "null").map fun _ => i + 4
  else .error (.cutShort "null")

/-- The value of a hexadecimal digit. -/
def hexValue? (c : UInt8) : Option Nat :=
  if isDigit c then some (c.toNat - 0x30)
  else if 0x61 ≤ c && c ≤ 0x66 then some (c.toNat - 0x61 + 10)
  else if 0x41 ≤ c && c ≤ 0x46 then some (c.toNat - 0x41 + 10)
  else none

/-- The four hexadecimal digits after `\u` at `j` (the `u` is at `j`). -/
def hex4 (d : Doc) (j : Nat) : Except Malformed Nat :=
  let step (acc k : Nat) : Except Malformed Nat :=
    match hexValue? (d.at (j + k)) with
    | some v => .ok (acc * 16 + v)
    | none => .error (.badHexEscape (d.at (j + k)))
  [1, 2, 3, 4].foldlM step 0

def isHex4 (d : Doc) (j : Nat) : Bool := (hex4 d j).toBool

def isSurrogate (r : Nat) : Bool := 0xD800 ≤ r && r < 0xE000

def joinSurrogates (high low : Nat) : Nat := 0x10000 + (high - 0xD800) * 0x400 + (low - 0xDC00)

/-- Whether `high` and `low` are a high and a low surrogate, in that order. -/
def isSurrogatePair (high low : Nat) : Bool :=
  0xD800 ≤ high && high < 0xDC00 && 0xDC00 ≤ low && low < 0xE000

def hexOrZero (c : UInt8) : Nat := (hexValue? c).getD 0

/-- The four octets from `i` read as hexadecimal digits, each octet that is not one counting as
zero. -/
def lenientHex4 (d : Doc) (i : Nat) : Nat :=
  ((hexOrZero (d.at i) * 16 + hexOrZero (d.at (i + 1))) * 16
    + hexOrZero (d.at (i + 2))) * 16 + hexOrZero (d.at (i + 3))

/-- The octet a one-letter escape stands for. -/
def simpleEscape? (c : UInt8) : Option UInt8 :=
  if c == 0x22 then some 0x22
  else if c == 0x5C then some 0x5C
  else if c == 0x2F then some 0x2F
  else if c == 0x62 then some 0x08
  else if c == 0x66 then some 0x0C
  else if c == 0x6E then some 0x0A
  else if c == 0x72 then some 0x0D
  else if c == 0x74 then some 0x09
  else none

/-- A code point as UTF-8 octets; a surrogate or an out-of-range value becomes U+FFFD. -/
def encodePoint (n : Nat) : ByteArray :=
  let n := if (0xD800 ≤ n ∧ n ≤ 0xDFFF) ∨ n > 0x10FFFF then 0xFFFD else n
  (Char.ofNat n).toString.toUTF8

/-- Reads a string literal whose opening quote is at `i`: the octets it stands for, with escapes
resolved (a pair of surrogate escapes makes one character, a lone one U+FFFD), and the position
after the closing quote. -/
def readStringBody (d : Doc) (i : Nat) : Except Malformed (ByteArray × Nat) :=
  go (i + 1) ByteArray.empty (d.size + 1)
where
  /-- Scans from `j`, having produced `acc`, with at most `fuel` steps left. -/
  go (j : Nat) (acc : ByteArray) : Nat → Except Malformed (ByteArray × Nat)
    | 0 => .error (.cutShort "string")
    | fuel + 1 =>
      let c := d.at j
      if c == 0x22 then .ok (acc, j + 1)
      else if c == 0 then .error (.cutShort "string")
      else if c == 0x5C then
        let e := d.at (j + 1)
        match simpleEscape? e with
        | some o => go (j + 2) (acc.push o) fuel
        | none =>
          if e == 0x75 then
            if j + 1 + 5 ≥ d.size + 1 then .error (.cutShort "escaped string")
            else
              match hex4 d (j + 1) with
              | .error m => .error m
              | .ok hi =>
                if 0xD800 ≤ hi ∧ hi ≤ 0xDBFF ∧ d.at (j + 6) == 0x5C ∧ d.at (j + 7) == 0x75 ∧
                    isHex4 d (j + 7) then
                  match hex4 d (j + 7) with
                  | .ok lo =>
                    if 0xDC00 ≤ lo ∧ lo ≤ 0xDFFF then
                      go (j + 12) (acc ++ encodePoint (0x10000 + (hi - 0xD800) * 0x400 + (lo - 0xDC00))) fuel
                    else go (j + 6) (acc ++ encodePoint hi) fuel
                  | .error m => .error m
                else go (j + 6) (acc ++ encodePoint hi) fuel
          else .error (.cutShort "escaped string")
      else go (j + 1) (acc.push c) fuel

end RaceArchive.Json
