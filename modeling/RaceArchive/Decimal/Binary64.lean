/-!
# Doubles as integers scaled by powers of two

A finite double is `m · 2^q` with a 53-bit integer `m` (fewer bits below the normal range). This
module reads a double's bits in that form, and builds the double nearest to an exact positive ratio
of naturals, a tie going to the even mantissa. Both directions work on `Nat`, so every rounding
decision is exact: there is no intermediate rounding that could differ from rounding once.
-/

namespace RaceArchive.Binary64

def minExp : Int := -1074

/-- The largest exponent a 53-bit mantissa can carry before the value overflows. -/
def maxExp : Int := 971

/-- The split of a finite double: sign, integer mantissa and binary exponent. -/
structure Parts where
  negative : Bool
  mantissa : Nat
  exponent : Int
  deriving Repr, DecidableEq

/-- The fields of a double's bit pattern: sign, biased exponent and fraction. -/
def fields (x : Float) : Bool × Nat × Nat :=
  let b := x.toBits.toNat
  (b / Nat.pow 2 63 = 1, (b / Nat.pow 2 52) % 2048, b % Nat.pow 2 52)

def isFinite (x : Float) : Bool := (fields x).2.1 != 2047

/-- A finite double as sign, mantissa and exponent; the biased exponent zero holds subnormals,
whose mantissa has no hidden bit. -/
def parts (x : Float) : Parts :=
  let (s, e, f) := fields x
  if e = 0 then ⟨s, f, minExp⟩ else ⟨s, f + Nat.pow 2 52, (e : Int) - 1075⟩

/-- `⌊log₂ (num / den)⌋` for positive `num` and `den`, found from the bit lengths and one exact
comparison. -/
def floorLog2 (num den : Nat) : Int :=
  let guess : Int := (num.log2 : Int) - den.log2
  -- the guess is the floor or one above it
  let below :=
    if guess ≥ 0 then num < den * Nat.pow 2 guess.toNat else num * Nat.pow 2 (-guess).toNat < den
  if below then guess - 1 else guess

/-- The double with biased exponent and fraction taken from a mantissa at an exponent: a mantissa
of 53 bits is normal, a shorter one (at the least exponent) subnormal. -/
def assemble (negative : Bool) (m : Nat) (q : Int) : Float :=
  let sign : Nat := if negative then Nat.pow 2 63 else 0
  if q > maxExp then Float.ofBits (sign + 2047 * Nat.pow 2 52).toUInt64
  else if m ≥ Nat.pow 2 52 then Float.ofBits (sign + (q + 1075).toNat * Nat.pow 2 52 + (m - Nat.pow 2 52)).toUInt64
  else Float.ofBits (sign + m).toUInt64

/-- Rounds `n / d` to an integer, a half going to the even neighbour. -/
def roundHalfEven (n d : Nat) : Nat :=
  let q := n / d
  let r := n % d
  if 2 * r > d ∨ (2 * r = d ∧ q % 2 = 1) then q + 1 else q

/-- The double nearest to `num / den` (both positive), with the given sign; values past the
largest double become infinity, values below half the least subnormal become zero. -/
def ofRatio (negative : Bool) (num den : Nat) : Float :=
  if num = 0 ∨ den = 0 then assemble negative 0 minExp
  else
    let q := max (floorLog2 num den - 52) minExp
    let m :=
      if q ≥ 0 then roundHalfEven num (den * Nat.pow 2 q.toNat)
      else roundHalfEven (num * Nat.pow 2 (-q).toNat) den
    -- rounding up may carry into a 54th bit
    if m = Nat.pow 2 53 then assemble negative (Nat.pow 2 52) (q + 1) else assemble negative m q

def infinity : Float := assemble false 0 (maxExp + 1)

def nan : Float := Float.ofBits 0x7FF8000000000001

end RaceArchive.Binary64
