import RaceArchive.Json.Value

/-!
# Car and track usage

How long a driver drove each car on each track, as rows of totals and as a table. The table
numbers cars and tracks in the order they first appear in the rows and is indexed by track, then
car. A cell that no row names stays empty; rows naming the same pair are summed, wrapping around
as 64-bit integers do.
-/

namespace RaceArchive.Usage

open Json

/-- The total time a driver drove one car on one track, in ten-thousandths of a second. -/
structure Row where
  car : Octets
  track : Octets
  totalTime : Int64
  deriving Repr, DecidableEq, Inhabited

/-- The usage table: `cells[t][c]` is the time on track `t` in car `c`, if any. -/
structure Matrix where
  cells : Array (Array (Option Int64))
  cars : Array Octets
  tracks : Array Octets
  deriving Repr

def number (names : Array Octets) (name : Octets) : Array Octets :=
  if names.contains name then names else names.push name

/-- Adds a row's time to its cell. -/
def addTo (cars tracks : Array Octets) (cells : Array (Array (Option Int64))) (r : Row) :
    Array (Array (Option Int64)) :=
  match tracks.findIdx? (· == r.track), cars.findIdx? (· == r.car) with
  | some t, some c => cells.modify t fun line => line.modify c fun cell => some (cell.getD 0 + r.totalTime)
  | _, _ => cells

/-- The usage table of some rows. -/
def Matrix.ofRows (rows : List Row) : Matrix :=
  let cars := rows.foldl (fun ns r => number ns r.car) #[]
  let tracks := rows.foldl (fun ns r => number ns r.track) #[]
  let empty := Array.replicate tracks.size (Array.replicate cars.size none)
  ⟨rows.foldl (addTo cars tracks) empty, cars, tracks⟩

def Row.toValue (r : Row) : Value :=
  .obj [("car_name_abbreviated", .octets r.car), ("track_name", .octets r.track),
        ("total_time", .ofInt64 r.totalTime)]

/-- The table as a document: empty cells are null, others an object with the time. -/
def Matrix.toValue (m : Matrix) : Value :=
  .obj [("matrix", .arr (m.cells.toList.map fun line =>
          .arr (line.toList.map (.ofOption fun t => .obj [("time", .ofInt64 t)])))),
        ("cars", .arr (m.cars.toList.map .octets)), ("tracks", .arr (m.tracks.toList.map .octets))]

end RaceArchive.Usage
