import RaceArchive.Decimal.Parse
import RaceArchive.Time.Civil

/-!
# What a plain scalar means

A plain scalar is read as a null, a boolean, an integer, a float, a timestamp or a string, by
these rules in order:

* the empty text, `~` and the spellings of `null` are null; `true` and `false` (in three
  capitalisations) are booleans; `.nan`, `.inf`, `+.inf`, `-.inf` (in three capitalisations)
  are floats; `<<` is the merge key;
* a text starting with `.` is a float if it reads as one;
* a text starting with a digit, or with a sign, is tried as a timestamp (date first, only when
  it starts with a digit), then with its underscores removed as a 64-bit signed integer, then as
  an unsigned one (both in decimal, or in binary, octal or hexadecimal after `0b`, `0o`, a
  leading `0`, or `0x`), then as a float in YAML's decimal form;
* anything else is a string.

A scalar with an explicit tag is read by that tag instead; a value that the tag cannot describe
is a failure, except that an integer read as a float becomes one.
-/

namespace RaceArchive.Yaml

/-- The value of a scalar. -/
inductive Scalar where
  | null
  | bool (b : Bool)
  /-- An integer that fits in 64 signed bits. -/
  | int (n : Int)
  /-- An integer that fits only in 64 unsigned bits. -/
  | uint (n : Nat)
  | float (x : Float)
  | timestamp
  | str (s : String)
  deriving Inhabited

def shortTag (tag : String) : String :=
  let long := "tag:yaml.org,2002:"
  if tag.startsWith long then "!!" ++ String.ofList (tag.toList.drop long.length) else tag

def resolvable (tag : String) : Bool :=
  ["", "!!str", "!!bool", "!!int", "!!float", "!!timestamp", "!!null"].contains tag

/-- The scalars fixed by their exact text. -/
def fixedScalars : List (String × String × Scalar) :=
  (["true", "True", "TRUE"].map fun s => (s, "!!bool", Scalar.bool true)) ++
  (["false", "False", "FALSE"].map fun s => (s, "!!bool", Scalar.bool false)) ++
  (["", "~", "null", "Null", "NULL"].map fun s => (s, "!!null", Scalar.null)) ++
  ([".nan", ".NaN", ".NAN"].map fun s => (s, "!!float", Scalar.float Binary64.nan)) ++
  ([".inf", ".Inf", ".INF", "+.inf", "+.Inf", "+.INF"].map fun s =>
    (s, "!!float", Scalar.float Binary64.infinity)) ++
  (["-.inf", "-.Inf", "-.INF"].map fun s => (s, "!!float", Scalar.float (-Binary64.infinity))) ++
  [("<<", "!!merge", Scalar.str "<<")]

/-- The value of a digit in bases up to 16, if it is one. -/
def digitIn (base : Nat) (c : Char) : Option Nat :=
  let v :=
    if c.isDigit then some (c.toNat - '0'.toNat)
    else if 'a' ≤ c.toLower ∧ c.toLower ≤ 'z' then some (c.toLower.toNat - 'a'.toNat + 10)
    else none
  match v with
  | some d => if d < base then some d else none
  | none => none

/-- Reads digits in a base as a number below `2^64`. -/
def digitsIn (base : Nat) (cs : List Char) : Option Nat :=
  if cs.isEmpty then none
  else cs.foldlM (fun n c => do
    let d ← digitIn base c
    let n := n * base + d
    if n ≥ Nat.pow 2 64 then none else some n) 0

/-- Reads an unsigned integer below `2^64`, in a base, or with base 0 after its prefix: `0b`,
`0o`, `0x`, or a leading `0` for octal. -/
def readUnsigned (base : Nat) (cs : List Char) : Option Nat :=
  if base != 0 then digitsIn base cs
  else match cs with
    | '0' :: c :: rest =>
      if c.toLower == 'b' ∧ !rest.isEmpty then digitsIn 2 rest
      else if c.toLower == 'o' ∧ !rest.isEmpty then digitsIn 8 rest
      else if c.toLower == 'x' ∧ !rest.isEmpty then digitsIn 16 rest
      else digitsIn 8 (c :: rest)
    | ['0'] => some 0
    | _ => digitsIn 10 cs

/-- Reads a signed integer that fits in 64 bits. -/
def readSigned (base : Nat) (cs : List Char) : Option Int :=
  let (neg, body) := match cs with
    | '+' :: r => (false, r)
    | '-' :: r => (true, r)
    | r => (false, r)
  match readUnsigned base body with
  | some n =>
    if neg then (if n ≤ Nat.pow 2 63 then some (-(n : Int)) else none)
    else if n < Nat.pow 2 63 then some n else none
  | none => none

/-- Whether a text is a float in YAML's decimal form:
`[-+]?(\.[0-9]+|[0-9]+(\.[0-9]*)?)([eE][-+]?[0-9]+)?`. -/
def isDecimalFloat (s : String) : Bool :=
  let cs := match s.toList with
    | '+' :: r => r
    | '-' :: r => r
    | r => r
  let digits := cs.takeWhile Char.isDigit
  let rest := cs.drop digits.length
  let afterMantissa : Option (List Char) :=
    match rest with
    | '.' :: r =>
      let frac := r.takeWhile Char.isDigit
      if digits.isEmpty ∧ frac.isEmpty then none else some (r.drop frac.length)
    | r => if digits.isEmpty then none else some r
  match afterMantissa with
  | none => false
  | some [] => true
  | some (e :: r) =>
    if e == 'e' || e == 'E' then
      let r := match r with
        | '+' :: r => r
        | '-' :: r => r
        | r => r
      !r.isEmpty && r.all Char.isDigit
    else false

/-- Takes a number of one or two digits. -/
def takeShort (cs : List Char) : Option (Nat × List Char) :=
  match cs with
  | a :: b :: rest =>
    if a.isDigit then
      if b.isDigit then some ((a.toNat - 48) * 10 + (b.toNat - 48), rest) else some (a.toNat - 48, b :: rest)
    else none
  | [a] => if a.isDigit then some (a.toNat - 48, []) else none
  | [] => none

/-- Whether a text is a timestamp: `YYYY-M-D`, optionally followed by `T` or `t`, a time
`H:M:S` with an optional fraction, and a zone `Z` or `±hh:mm`; or followed by a space and a time
without a zone. -/
def isTimestamp (s : String) : Bool :=
  let cs := s.toList
  let year := cs.take 4
  if !(year.length = 4 ∧ year.all Char.isDigit) then false
  else
    let check : Option Bool := do
      let rest ← match cs.drop 4 with
        | '-' :: r => some r
        | _ => none
      let (month, rest) ← takeShort rest
      let rest ← match rest with
        | '-' :: r => some r
        | _ => none
      let (day, rest) ← takeShort rest
      let y : Int := ((String.ofList year).toNat?).getD 0
      let dateOk := 1 ≤ month ∧ month ≤ 12 ∧ 1 ≤ day ∧ day ≤ Civil.daysIn month y
      let time (r : List Char) : Option (List Char) := do
        let (h, r) ← takeShort r
        let r ← match r with
          | ':' :: r => some r
          | _ => none
        let (m, r) ← takeShort r
        let r ← match r with
          | ':' :: r => some r
          | _ => none
        let (sec, r) ← takeShort r
        if h ≥ 24 ∨ m ≥ 60 ∨ sec ≥ 60 then none
        else match r with
          | c :: d :: more =>
            if (c == '.' || c == ',') && d.isDigit then some (more.dropWhile Char.isDigit) else some r
          | _ => some r
      let zone (r : List Char) : Bool :=
        match r with
        | ['Z'] => true
        | [sign, h1, h2, ':', m1, m2] =>
          (sign == '+' || sign == '-') && [h1, h2, m1, m2].all Char.isDigit &&
            (h1.toNat - 48) * 10 + (h2.toNat - 48) ≤ 24 && (m1.toNat - 48) * 10 + (m2.toNat - 48) ≤ 60
        | _ => false
      match rest with
      | [] => pure dateOk
      | c :: r =>
        if c == 'T' || c == 't' then
          let r ← time r
          pure (dateOk && zone r)
        else if c == ' ' then
          let r ← time r
          pure (dateOk && r.isEmpty)
        else pure false
    check.getD false

/-- The tag and value of a plain text, by the rules above; timestamps are recognised only when
allowed. -/
def resolvePlain (timestamps : Bool) (s : String) : String × Scalar :=
  match fixedScalars.find? (·.1 == s) with
  | some (_, tag, v) => (tag, v)
  | none =>
    match s.toList with
    | '.' :: _ =>
      match Decimal.parseFloat s with
      | .ok x => ("!!float", .float x)
      | .error _ => ("!!str", .str s)
    | c :: _ =>
      if c.isDigit || c == '+' || c == '-' then
        if timestamps && c.isDigit && isTimestamp s then ("!!timestamp", .timestamp)
        else
          let plain := s.toList.filter (· != '_')
          match readSigned 0 plain with
          | some n => ("!!int", .int n)
          | none =>
            match readUnsigned 0 plain with
            | some n => ("!!int", .uint n)
            | none =>
              let fromFloat :=
                if isDecimalFloat (String.ofList plain) then
                  match Decimal.parseFloat (String.ofList plain) with
                  | .ok x => some ("!!float", Scalar.float x)
                  | .error _ => none
                else none
              match fromFloat with
              | some r => r
              | none =>
                let signedIn (base : Nat) (body : List Char) (neg : Bool) : Option (String × Scalar) :=
                  match readSigned base ((if neg then ['-'] else []) ++ body) with
                  | some n => some ("!!int", .int n)
                  | none =>
                    if neg then none
                    else (readUnsigned base body).map fun n => ("!!int", .uint n)
                let prefixed :=
                  match plain with
                  | '0' :: 'b' :: r => signedIn 2 r false
                  | '-' :: '0' :: 'b' :: r => signedIn 2 r true
                  | '0' :: 'o' :: r => signedIn 8 r false
                  | '-' :: '0' :: 'o' :: r => signedIn 8 r true
                  | _ => none
                prefixed.getD ("!!str", .str s)
      else ("!!str", .str s)
    | [] => ("!!str", .str s)

def tagName (tag : String) : String := shortTag tag

/-- The tag and value of a scalar's text under a tag; a text the tag cannot describe is a
failure. -/
def resolve (tag : String) (s : String) : Except String (String × Scalar) :=
  let tag := shortTag tag
  if !resolvable tag then .ok (tag, .str s)
  else if tag == "!!str" then .ok ("!!str", .str s)
  else
    let (rtag, v) := resolvePlain (tag == "" || tag == "!!timestamp") s
    if tag == "" || tag == rtag then .ok (rtag, v)
    else if tag == "!!float" && rtag == "!!int" then
      match v with
      | .int n => .ok ("!!float", .float (Float.ofInt n))
      | _ => .error ("yaml: cannot decode " ++ rtag ++ " `" ++ s ++ "` as a " ++ tag)
    else .error ("yaml: cannot decode " ++ rtag ++ " `" ++ s ++ "` as a " ++ tag)

end RaceArchive.Yaml
