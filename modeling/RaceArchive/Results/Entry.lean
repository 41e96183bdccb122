import RaceArchive.Json.Read
import RaceArchive.Json.Value

/-!
# Result lines of a subsession

A session's results list participants. A participant is either a driver on their own or a team
with the results of its drivers. In a document the two are told apart by their keys: an object with
a `cust_id` key (whatever its value, `null` included) is a driver, else one with a
`driver_results` key is a team, and an object with neither is refused. Keys are looked for exactly
here, while the fields are then read without regard to case.

Written back, a participant is the object of its driver or team line, with every field in a fixed
order.
-/

namespace RaceArchive.Results

open Json

/-- One driver's result line. -/
structure DriverLine where
  custId : Int64 := 0
  displayName : Octets := []
  newiRating : Int64 := 0
  incidents : Int64 := 0
  lapsComplete : Int64 := 0
  averageLap : Int64 := 0
  carId : Int64 := 0
  deriving Repr, DecidableEq, Inhabited

/-- A team's result line: its id (absent when not given), name and the lines of its drivers. -/
structure TeamLine where
  teamId : Option Int64 := none
  displayName : Octets := []
  driverResults : Option (Array DriverLine) := none
  deriving Repr, DecidableEq, Inhabited

/-- An entry of a session's results. -/
inductive Participant where
  | solo (d : DriverLine)
  | team (t : TeamLine)
  deriving Repr, DecidableEq

instance : Inhabited Participant := ⟨.solo {}⟩

def driverPlace (field : String) : Place := ⟨"DriverEntry", field⟩

/-- Reads a driver line. -/
def DriverLine.reader : Reader DriverLine :=
  Reader.record [
    ⟨"cust_id", Reader.focus (·.custId) ({ · with custId := · })
      (Reader.int "int64" (driverPlace "CustID"))⟩,
    ⟨"display_name", Reader.focus (·.displayName) ({ · with displayName := · })
      (Reader.octets (driverPlace "DisplayName"))⟩,
    ⟨"newi_rating", Reader.focus (·.newiRating) ({ · with newiRating := · })
      (Reader.int "int" (driverPlace "NewiRating"))⟩,
    ⟨"incidents", Reader.focus (·.incidents) ({ · with incidents := · })
      (Reader.int "int" (driverPlace "Incidents"))⟩,
    ⟨"laps_complete", Reader.focus (·.lapsComplete) ({ · with lapsComplete := · })
      (Reader.int "int" (driverPlace "LapsComplete"))⟩,
    ⟨"average_lap", Reader.focus (·.averageLap) ({ · with averageLap := · })
      (Reader.int "int64" (driverPlace "AverageLap"))⟩,
    ⟨"car_id", Reader.focus (·.carId) ({ · with carId := · })
      (Reader.int "int64" (driverPlace "CarID"))⟩]

def teamPlace (field : String) : Place := ⟨"TeamEntry", field⟩

/-- Reads a team line. -/
def TeamLine.reader : Reader TeamLine :=
  Reader.record [
    ⟨"team_id", Reader.focus (·.teamId) ({ · with teamId := · })
      (Reader.optional (Reader.int "int64" (teamPlace "TeamID")) 0)⟩,
    ⟨"display_name", Reader.focus (·.displayName) ({ · with displayName := · })
      (Reader.octets (teamPlace "DisplayName"))⟩,
    ⟨"driver_results", Reader.focus (·.driverResults) ({ · with driverResults := · })
      (Reader.list DriverLine.reader {} "[]normalize.DriverEntry" (teamPlace "DriverResults"))⟩]

/-- Reads a participant from the text of its value alone. -/
def Participant.ofDoc (d : Doc) : Except DecodeError Participant :=
  match decode Reader.objectKeys none d with
  | .error e => .error (.within "decoding participant" e)
  | .ok keys =>
    let keys := keys.getD #[]
    if keys.contains "cust_id" then
      match decode DriverLine.reader {} d with
      | .ok line => .ok (.solo line)
      | .error e => .error (.within "decoding driver participant" e)
    else if keys.contains "driver_results" then
      match decode TeamLine.reader {} d with
      | .ok line => .ok (.team line)
      | .error e => .error (.within "decoding team participant" e)
    else .error (.refused "decoding participant: neither cust_id nor driver_results present")

/-- Reads a participant in place: its value is skipped first, then read on its own. -/
def Participant.reader : Reader Participant :=
  Reader.delegate fun d _ => Participant.ofDoc d

def Participant.read (raw : ByteArray) : Except DecodeError Participant :=
  decode Participant.reader default raw

/-- A driver line as a document, fields in their fixed order. -/
def DriverLine.toValue (d : DriverLine) : Value :=
  .obj [("cust_id", .ofInt64 d.custId), ("display_name", .octets d.displayName),
        ("newi_rating", .ofInt64 d.newiRating), ("incidents", .ofInt64 d.incidents),
        ("laps_complete", .ofInt64 d.lapsComplete), ("average_lap", .ofInt64 d.averageLap),
        ("car_id", .ofInt64 d.carId)]

def TeamLine.toValue (t : TeamLine) : Value :=
  .obj [("team_id", .ofOption .ofInt64 t.teamId), ("display_name", .octets t.displayName),
        ("driver_results", .ofOption (fun ds => .arr (ds.toList.map DriverLine.toValue))
          t.driverResults)]

def Participant.toValue : Participant → Value
  | .solo d => d.toValue
  | .team t => t.toValue

end RaceArchive.Results
