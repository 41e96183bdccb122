import RaceArchive.Time.Civil
import RaceArchive.Text.Quote

/-!
# Durations

A duration is a signed 64-bit count of nanoseconds. Rounding to a unit takes halves away from
zero and saturates at the ends of the range instead of wrapping. The text of a duration names
hours, minutes and seconds (`1h2m3.5s`); one under a second is shown in the largest unit below a
second that it reaches (`1.5ms`, `2µs`, `7ns`), and zero is `0s`.

A duration is read from text as a sequence of decimal numbers, each with an optional fraction and
a unit (`ns`, `us` or `µs`, `ms`, `s`, `m`, `h`), with an optional sign before them all, as in
`1h30m` or `-1.5s`; `0` alone needs no unit. A total beyond the range is refused.

Durations are also read as floating-point counts of seconds, minutes or hours: the whole units
exactly, plus the remainder divided by the unit's length, as one rounded sum.
-/

namespace RaceArchive.Duration

def second : Int64 := 1000000000

def minute : Int64 := 60000000000

def hour : Int64 := 3600000000000

def least : Int64 := Int64.minValue
def greatest : Int64 := Int64.maxValue

/-- Rounds `d` to a multiple of `m`, halves away from zero; a result out of range is the end of
the range on its side. A unit that is not positive leaves `d` as it is. -/
def round (d m : Int64) : Int64 :=
  if m ≤ 0 then d
  else
    let r := (d.toInt.tmod m.toInt).natAbs
    if d < 0 then
      if 2 * r < m.toInt.toNat then Int64.ofInt (d.toInt + r)
      else
        let e := d.toInt - m.toInt + r
        if e ≥ Int64.minValue.toInt then Int64.ofInt e else least
    else
      if 2 * r < m.toInt.toNat then Int64.ofInt (d.toInt - r)
      else
        let e := d.toInt + m.toInt - r
        if e ≤ Int64.maxValue.toInt then Int64.ofInt e else greatest

/-- The decimal fraction of `v / 10 ^ prec` without trailing zeros (with its point, or empty when
the fraction is zero), and the whole part. -/
def fraction (v prec : Nat) : String × Nat :=
  let f := v % Nat.pow 10 prec
  if f = 0 then ("", v / Nat.pow 10 prec)
  else
    let digits := (Civil.padded prec f).toList.reverse.dropWhile (· == '0') |>.reverse
    ("." ++ String.ofList digits, v / Nat.pow 10 prec)

/-- The text of a magnitude of nanoseconds. -/
def magnitudeText (u : Nat) : String :=
  if u = 0 then "0s"
  else if u < 1000000000 then
    let (prec, unit) :=
      if u < 1000 then (0, "ns") else if u < 1000000 then (3, "µs") else (6, "ms")
    let (f, whole) := fraction u prec
    toString whole ++ f ++ unit
  else
    let (f, secs) := fraction u 9
    let s := toString (secs % 60) ++ f ++ "s"
    let mins := secs / 60
    if mins = 0 then s
    else if mins / 60 = 0 then toString (mins % 60) ++ "m" ++ s
    else toString (mins / 60) ++ "h" ++ toString (mins % 60) ++ "m" ++ s

def text (d : Int64) : String :=
  (if d < 0 then "-" else "") ++ magnitudeText d.toInt.natAbs

def inUnits (unit : Int64) (d : Int64) : Float :=
  Float.ofInt (d.toInt.tdiv unit.toInt) + Float.ofInt (d.toInt.tmod unit.toInt) / Float.ofInt unit.toInt

def seconds (d : Int64) : Float := inUnits second d

def minutes (d : Int64) : Float := inUnits minute d

def hours (d : Int64) : Float := inUnits hour d

/-- A count of nanoseconds as a duration, saturating at the ends of the range. -/
def ofNanos (ns : Int) : Int64 :=
  if ns < Int64.minValue.toInt then least
  else if ns > Int64.maxValue.toInt then greatest
  else Int64.ofInt ns

/-- The time from one instant in Unix seconds to another, saturating at the ends of the range. -/
def between (later earlier : Int) : Int64 := ofNanos ((later - earlier) * 1000000000)

/-- The nanoseconds of a unit. -/
def unitLength : String → Option Nat
  | "ns" => some 1
  | "us" => some 1000
  | "µs" => some 1000
  | "μs" => some 1000
  | "ms" => some 1000000
  | "s" => some 1000000000
  | "m" => some 60000000000
  | "h" => some 3600000000000
  | _ => none

/-- Reads leading digits as a number, or `none` once it passes `2^63`. -/
def leadingInt (cs : List Char) : Option Nat × List Char :=
  let digits := cs.takeWhile Char.isDigit
  let value := digits.foldl (fun (acc : Option Nat) c => acc.bind fun x =>
    if x > Nat.pow 2 63 / 10 then none
    else
      let y := x * 10 + (c.toNat - 48)
      if y > Nat.pow 2 63 then none else some y) (some 0)
  (value, cs.drop digits.length)

/-- Reads the digits of a fraction as a number and its scale, dropping the digits that would take
it past `2^63`. -/
def leadingFraction (cs : List Char) : Nat × Float × List Char :=
  let digits := cs.takeWhile Char.isDigit
  let step : Nat × Float × Bool → Char → Nat × Float × Bool
    | (x, scale, capped), c =>
      if capped then (x, scale, true)
      else if x > (Nat.pow 2 63 - 1) / 10 then (x, scale, true)
      else
        let y := x * 10 + (c.toNat - 48)
        if y > Nat.pow 2 63 then (x, scale, true) else (y, scale * 10, false)
  let (x, scale, _) := digits.foldl step (0, 1, false)
  (x, scale, cs.drop digits.length)

/-- Reads the terms of a duration after its sign, adding their nanoseconds to `d`. The empty
failure stands for text that is not a duration. -/
def parseTerms (orig : String) : Nat → List Char → Nat → Except String Nat
  | 0, _, d => .ok d
  | _ + 1, [], d => .ok d
  | fuel + 1, c :: rest, d =>
    if !(c == '.' || c.isDigit) then .error ""
    else
      let cs := c :: rest
      match leadingInt cs with
      | (none, _) => .error ""
      | (some v, afterInt) =>
        let pre := afterInt.length != cs.length
        let (f, scale, afterFrac, post) :=
          match afterInt with
          | '.' :: r =>
            let (f, scale, r2) := leadingFraction r
            (f, scale, r2, r2.length != r.length)
          | r => (0, 1, r, false)
        if !pre && !post then .error ""
        else
          let unitText := afterFrac.takeWhile fun c => !(c == '.' || c.isDigit)
          let rest := afterFrac.drop unitText.length
          if unitText.isEmpty then .error ("time: missing unit in duration " ++ Text.quoteOctets orig)
          else match unitLength (String.ofList unitText) with
            | none =>
              .error ("time: unknown unit " ++ Text.quoteOctets (String.ofList unitText) ++
                " in duration " ++ Text.quoteOctets orig)
            | some unit =>
              if v > Nat.pow 2 63 / unit then .error ""
              else
                let v := v * unit
                let v :=
                  if f > 0 then v + (Float.ofNat f * (Float.ofNat unit / scale)).toUInt64.toNat
                  else v
                if v > Nat.pow 2 63 then .error ""
                else
                  let d := d + v
                  if d > Nat.pow 2 63 then .error "" else parseTerms orig fuel rest d

/-- Reads a duration from its text. -/
def parse (orig : String) : Except String Int64 :=
  let invalid : Except String Int64 := .error ("time: invalid duration " ++ Text.quoteOctets orig)
  let (neg, cs) := match orig.toList with
    | '-' :: r => (true, r)
    | '+' :: r => (false, r)
    | r => (false, r)
  if cs == ['0'] then .ok 0
  else if cs.isEmpty then invalid
  else
    match parseTerms orig (cs.length + 1) cs 0 with
    | .error "" => invalid
    | .error e => .error e
    | .ok d =>
      if neg then .ok (Int64.ofInt (-(d : Int)))
      else if d > Nat.pow 2 63 - 1 then invalid
      else .ok (Int64.ofNat d)

end RaceArchive.Duration
