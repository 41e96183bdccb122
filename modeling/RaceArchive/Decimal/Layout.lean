import RaceArchive.Decimal.Shortest

/-!
# Laying out decimal digits

The shortest digits of a double, written in three layouts:

* *scientific*: one digit, a point and the other digits if there are any, then `e`, the sign of
  the exponent and at least two exponent digits (`2.5e-07`, `1e+21`);
* *positional*: all digits with the point where it falls, zeros filled in, no exponent
  (`0.000125`, `100000000000000000000`);
* *general*: scientific when the decimal exponent is below -4 or at least 6, else positional.

Documents print doubles positionally from `1e-6` up to but excluding `1e21`, and scientifically
outside, with no leading zero in a negative exponent (`2.5e-7`).
-/

namespace RaceArchive.Decimal

/-- The digit characters of a decimal and the position of its point: the value is
`0.d₁d₂… · 10^point`. -/
def Digits.split (d : Digits) : List Char × Int :=
  let ds := Nat.toDigits 10 d.digits
  (ds, d.exponent + ds.length)

def signedExponent (width : Nat) (e : Int) : String :=
  let body := Nat.toDigits 10 e.natAbs
  let padded := List.replicate (width - body.length) '0' ++ body
  (if e < 0 then "-" else "+") ++ String.ofList padded

/-- Scientific layout of digits `ds` whose point falls at `point`. -/
def scientificOf (ds : List Char) (point : Int) (width : Nat) : String :=
  match ds with
  | [] => "0e" ++ signedExponent width 0
  | d :: rest =>
    String.ofList (d :: (if rest.isEmpty then [] else '.' :: rest)) ++ "e" ++
      signedExponent width (point - 1)

/-- Positional layout of digits `ds` whose point falls at `point`. -/
def positionalOf (ds : List Char) (point : Int) : String :=
  let whole :=
    if point > 0 then ds.take point.toNat ++ List.replicate (point.toNat - ds.length) '0'
    else ['0']
  let fraction :=
    if (ds.length : Int) > point then
      List.replicate (-point).toNat '0' ++ ds.drop point.toNat
    else []
  String.ofList (whole ++ (if fraction.isEmpty then [] else '.' :: fraction))

def signOf (x : Float) : String := if (Binary64.parts x).negative then "-" else ""

/-- The digits of a finite double and the position of their point; zero has no digits. -/
def layoutDigits (x : Float) : List Char × Int :=
  if (Binary64.parts x).mantissa = 0 then ([], 0) else (shortest x).split

/-- The general layout of a finite double. -/
def general (x : Float) : String :=
  let (ds, point) := layoutDigits x
  let e := point - 1
  if !ds.isEmpty ∧ (e < -4 ∨ e ≥ 6) then signOf x ++ scientificOf ds point 2
  else signOf x ++ positionalOf ds point

def positional (x : Float) : String :=
  let (ds, point) := layoutDigits x
  signOf x ++ positionalOf ds point

/-- The layout of a finite double in a document. -/
def forDocument (x : Float) : String :=
  let (ds, point) := layoutDigits x
  let e := point - 1
  if !ds.isEmpty ∧ (e < -6 ∨ e ≥ 21) then signOf x ++ scientificOf ds point 1
  else signOf x ++ positionalOf ds point

end RaceArchive.Decimal
