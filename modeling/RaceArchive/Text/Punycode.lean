import RaceArchive.Text.Utf8

/-!
# Punycode

The encoding of RFC 3492 that host names use for labels outside ASCII, after the prefix `xn--`. A
label is written as its ASCII characters, a hyphen if there were any, and then, for each other
code point in increasing order of value, the distance walked to it (over the positions of the
label and the values below it) as a variable-length number in base 36, least significant digit
first. The thresholds of the digits depend on a bias that adapts after every code point.

The distance is kept in a signed 32-bit register that wraps around. A label is refused when the
register is negative after an addition, which a long label of high code points can cause.
-/

namespace RaceArchive.Punycode

def digitOctet (d : Nat) : UInt8 :=
  if d < 26 then (0x61 + d).toUInt8 else (0x30 + d - 26).toUInt8

/-- The threshold of the digit at weight position `k` under `bias`, clamped to `1 ..= 26`. -/
def threshold (k bias : Nat) : Nat :=
  if k ≤ bias then 1 else if bias + 26 ≤ k then 26 else k - bias

theorem threshold_pos (k bias : Nat) : 1 ≤ threshold k bias := by
  unfold threshold
  split
  · omega
  · split <;> omega

theorem threshold_le (k bias : Nat) : threshold k bias ≤ 26 := by
  unfold threshold
  split
  · omega
  · split <;> omega

/-- Divides `delta` by 35 until it is at most 455, adding 36 to `k` for each division. -/
def adaptLoop (delta k : Nat) : Nat × Nat :=
  if 455 < delta then adaptLoop (delta / 35) (k + 36) else (delta, k)
termination_by delta
decreasing_by exact Nat.div_lt_self (by omega) (by omega)

/-- The bias for the next code point, from the distance just written, how many code points are
written (this one included), and whether it was the first. -/
def adapt (delta points : Nat) (first : Bool) : Nat :=
  let d := if first then delta / 700 else delta / 2
  let d := d + d / points
  let (d, k) := adaptLoop d 0
  k + 36 * d / (d + 38)

/-- The digits of the number `q` from weight position `k` on, under `bias`. -/
def digits (bias k q : Nat) : List UInt8 :=
  let t := threshold k bias
  if q < t then [digitOctet q]
  else digitOctet (t + (q - t) % (36 - t)) :: digits bias (k + 36) ((q - t) / (36 - t))
termination_by q
decreasing_by
  have _h1 := threshold_pos k bias
  have _h2 := threshold_le k bias
  calc (q - threshold k bias) / (36 - threshold k bias)
      ≤ q - threshold k bias := Nat.div_le_self _ _
    _ < q := by omega

def wrap32 (x : Int) : Int :=
  let m := x % 4294967296
  if m ≥ 2147483648 then m - 4294967296 else m

/-- What the encoder carries from one step to the next: the digits written, the distance
register, the bias, and how many code points are written. -/
structure Encoder where
  out : List UInt8
  delta : Int
  bias : Nat
  done : Nat

/-- Walks the label once for the code point `m`: a smaller code point moves the distance on, an
equal one writes the distance and starts it again; `none` when the register goes negative.
`basic` is the number of ASCII code points. -/
def Encoder.pass (basic m : Nat) : Encoder → List Nat → Option Encoder
  | e, [] => some e
  | e, c :: rest =>
    if c < m then
      let delta := wrap32 (e.delta + 1)
      if delta < 0 then none else pass basic m { e with delta } rest
    else if c == m then
      pass basic m
        { out := e.out ++ digits e.bias 36 e.delta.toNat, delta := 0,
          bias := adapt e.delta.toNat (e.done + 1) (e.done == basic), done := e.done + 1 } rest
    else pass basic m e rest

/-- Writes the code points `high` (distinct, increasing, none below `n`) of a label, each after
the distance from the last one. -/
def Encoder.run (label : List Nat) (basic : Nat) : List Nat → Nat → Encoder → Option Encoder
  | [], _, e => some e
  | m :: rest, n, e =>
    let delta := wrap32 (e.delta + wrap32 (((m - n : Nat) : Int) * (e.done + 1)))
    if delta < 0 then none
    else
      match pass basic m { e with delta } label with
      | none => none
      | some e => run label basic rest (m + 1) { e with delta := wrap32 (e.delta + 1) }

/-- The punycode of a label given as code points, or `none` when the register overflows. -/
def encode (label : List Nat) : Option (List UInt8) :=
  let basic := label.filter (· < 0x80)
  let high := (label.filter (0x80 ≤ ·)).eraseDups.mergeSort fun a b => a ≤ b
  let start : Encoder := { out := [], delta := 0, bias := 72, done := basic.length }
  (Encoder.run label basic.length high 128 start).map fun e =>
    basic.map (·.toUInt8) ++ (if basic.isEmpty then [] else [0x2D]) ++ e.out

/-- The labels of a host name: the parts between its dots. -/
def labels (host : List UInt8) : List (List UInt8) :=
  host.foldr (fun c acc =>
    if c == 0x2E then [] :: acc
    else match acc with
      | l :: rest => (c :: l) :: rest
      | [] => [[c]]) [[]]

/-- A host name with every label that is not ASCII written as `xn--` and its punycode, the label
read as UTF-8 with each bad octet as U+FFFD; `none` when a label cannot be encoded. -/
def hostToAscii (host : List UInt8) : Option (List UInt8) :=
  if host.all (· < 0x80) then some host
  else
    ((labels host).mapM fun (label : List UInt8) =>
      if label.all (· < 0x80) then some label
      else (encode ((Utf8.lossy label).toList.map Char.toNat)).map ([0x78, 0x6E, 0x2D, 0x2D] ++ ·))
    |>.map fun parts => [0x2E].intercalate parts

end RaceArchive.Punycode
