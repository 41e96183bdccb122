import RaceArchive.Decimal.Binary64

/-!
# Shortest decimal digits of a double

A finite positive double `v = m · 2^q` stands for every real that rounds to it: the interval
between the midpoints to its two neighbours, ends included exactly when `m` is even. The lower
neighbour is half as far when `m` is the least normal mantissa and `v` is not the least normal
double. The shortest decimal for `v` has the fewest significant digits of any decimal in that
interval, and of two such decimals the nearer to `v` (an exact tie goes to the even one).

For `k = 1, 2, …, 17` digits the search looks at the two neighbours of `v` on the grid of
`k`-digit decimals: if any `k`-digit decimal lies in the interval, one of those two does. All
comparisons are on naturals.
-/

namespace RaceArchive.Decimal

/-- A positive decimal `digits · 10^exponent`. -/
structure Digits where
  digits : Nat
  exponent : Int
  deriving Repr, DecidableEq

/-- Compares `a · 10^p` with `b · 2^e` exactly. -/
def compareScaled (a : Nat) (p : Int) (b : Nat) (e : Int) : Ordering :=
  let lhs := a * Nat.pow 10 p.toNat * Nat.pow 2 (-e).toNat
  let rhs := b * Nat.pow 10 (-p).toNat * Nat.pow 2 e.toNat
  compare lhs rhs

/-- `⌊log₁₀ v⌋` for `v = n · 2^e`, `n > 0`, from the digit count of a natural multiple and one
exact comparison. -/
def floorLog10 (n : Nat) (e : Int) : Int :=
  let num := n * Nat.pow 2 e.toNat
  let den := Nat.pow 2 (-e).toNat
  let guess : Int := ((Nat.toDigits 10 num).length : Int) - (Nat.toDigits 10 den).length
  -- `10^guess ≤ num / den` or else the floor is one less
  if compareScaled 1 guess n e == .gt then guess - 1 else guess

/-- The interval of reals that round to `m · 2^q`, as `(low, high)` multiples of `2^(q-2)`. -/
def roundingInterval (m : Nat) (q : Int) : Nat × Nat :=
  let low := if m = Nat.pow 2 52 ∧ q > Binary64.minExp then 4 * m - 1 else 4 * m - 2
  (low, 4 * m + 2)

/-- Whether `c · 10^p` lies in the interval of `m · 2^q`. -/
def inInterval (m : Nat) (q : Int) (c : Nat) (p : Int) : Bool :=
  let (low, high) := roundingInterval m q
  let lo := compareScaled c p low (q - 2)
  let hi := compareScaled c p high (q - 2)
  if m % 2 = 0 then lo != .lt && hi != .gt else lo == .gt && hi == .lt

/-- The `k`-digit decimal nearest to `m · 2^q` among those in its interval, if any. -/
def candidate (m : Nat) (q : Int) (k : Nat) : Option Digits :=
  let p := floorLog10 m q - k + 1
  -- `c = ⌊v / 10^p⌋`
  let c := m * Nat.pow 2 q.toNat * Nat.pow 10 (-p).toNat / (Nat.pow 2 (-q).toNat * Nat.pow 10 p.toNat)
  let down := inInterval m q c p
  let up := inInterval m q (c + 1) p
  if down ∧ up then
    -- nearer of the two: compare `2v` with `(2c + 1) · 10^p`
    match compareScaled (2 * c + 1) p m (q + 1) with
    | .lt => some ⟨c + 1, p⟩
    | .gt => some ⟨c, p⟩
    | .eq => some (if c % 2 = 0 then ⟨c, p⟩ else ⟨c + 1, p⟩)
  else if down then some ⟨c, p⟩
  else if up then some ⟨c + 1, p⟩
  else none

/-- Strips trailing zeros, moving them into the exponent. -/
def Digits.normalize (d : Digits) : Digits :=
  go d.digits d.exponent (d.digits.log2 + 1)
where
  /-- Strips at most `fuel` zeros. -/
  go (n : Nat) (e : Int) : Nat → Digits
    | 0 => ⟨n, e⟩
    | fuel + 1 => if n ≠ 0 ∧ n % 10 = 0 then go (n / 10) (e + 1) fuel else ⟨n, e⟩

def shortestOf (m : Nat) (q : Int) : Digits :=
  let found := (List.range 17).findSome? fun i => candidate m q (i + 1)
  -- seventeen digits always suffice; the fallback is never taken for a proper mantissa
  (found.getD ⟨m, 0⟩).normalize

def shortest (x : Float) : Digits :=
  let p := Binary64.parts x
  shortestOf p.mantissa p.exponent

end RaceArchive.Decimal
