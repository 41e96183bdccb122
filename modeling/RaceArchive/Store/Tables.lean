import RaceArchive.Results.Rows
import RaceArchive.Catalog

/-!
# The results store

The store keeps the relational rows of the archive in eight tables, each with its key:

* drivers by customer id, each with its display name; a display name belongs to the first driver
  seen with it, and a later driver with the same name is kept without one;
* sessions by session id, subsessions by subsession id, the sessions of a subsession by
  (subsession, number), and results by (driver, team, subsession, session number);
* the reference data: track packages, track configurations and cars.

A subsession refers to its session, a session of a subsession to its subsession, and a result to
its driver and to its session of the subsession: a row whose referent is missing is refused, and
so is a row whose key is taken. A subsession is stored whole or not at all: parents first, then
the sessions of the subsession, the drivers, and the results, and the first refusal undoes the
rest. Stored subsessions are never changed.

The reference tables are replaced wholesale, again all or nothing. A track package named twice
keeps its first name; a track configuration or a car named twice is refused.
-/

namespace RaceArchive.Store

open Results

/-- A stored driver: the display name is absent when another driver held it first. -/
structure StoredDriver where
  custId : Int64
  name : Option Octets
  deriving Repr, DecidableEq, Inhabited

/-- The tables of the store, each in the order its rows were added. -/
structure Store where
  drivers : List StoredDriver := []
  sessions : List SessionRow := []
  subsessions : List SubsessionRow := []
  simsessions : List SimsessionRow := []
  results : List ResultRow := []
  tracks : List Catalog.Track := []
  trackConfigs : List Catalog.TrackConfig := []
  cars : List Catalog.Car := []
  deriving Inhabited

/-- Why the database refused a row: a key already taken (with the columns of the key), or a
reference to a row that does not exist. -/
inductive Refusal where
  | keyTaken (columns : List String)
  | missingReferent
  deriving Repr, DecidableEq

/-- The failure the database reports for a refusal, with the code of its kind. -/
def Refusal.failure : Refusal → Failure
  | .keyTaken columns =>
    .cause (some .database)
      ("constraint failed: UNIQUE constraint failed: " ++ ", ".intercalate columns ++ " (1555)")
  | .missingReferent => .cause (some .database) "constraint failed: FOREIGN KEY constraint failed (787)"

def duplicate (id : Int64) : Failure :=
  .wrap none ("subsession " ++ toString id.toInt ++ ": ") ""
    (.cause (some .duplicateSubsession) "subsession already stored")

def writing (context : String) (f : Failure) : Failure := .wrap none (context ++ ": ") "" f

namespace Store

def hasSubsession (db : Store) (id : Int64) : Bool := db.subsessions.any (·.subsessionId == id)

def subsessionCount (db : Store) : Nat := db.subsessions.length

def missing (db : Store) (ids : List Int64) : List Int64 := ids.filter (!db.hasSubsession ·)

def addSession (db : Store) (s : SessionRow) : Store :=
  if db.sessions.any (·.sessionId == s.sessionId) then db else { db with sessions := db.sessions ++ [s] }

def addSubsession (db : Store) (s : SubsessionRow) : Except Refusal Store :=
  if db.hasSubsession s.subsessionId then .error (.keyTaken ["subsession.subsession_id"])
  else if !db.sessions.any (·.sessionId == s.sessionId) then .error .missingReferent
  else .ok { db with subsessions := db.subsessions ++ [s] }

def hasSimsession (db : Store) (subsession number : Int64) : Bool :=
  db.simsessions.any fun s => s.subsessionId == subsession && s.number == number

/-- Adds a session of a subsession: its key must be free and its subsession stored. -/
def addSimsession (db : Store) (s : SimsessionRow) : Except Refusal Store :=
  if db.hasSimsession s.subsessionId s.number then
    .error (.keyTaken ["simsession.subsession_id", "simsession.simsession_number"])
  else if !db.hasSubsession s.subsessionId then .error .missingReferent
  else .ok { db with simsessions := db.simsessions ++ [s] }

/-- Adds a driver unless its id is known. A display name held by another driver is not taken
again: the newcomer is kept without one. -/
def addDriver (db : Store) (d : DriverRow) : Store :=
  if db.drivers.any (·.custId == d.custId) then db
  else if db.drivers.any (·.name == some d.displayName) then
    { db with drivers := db.drivers ++ [⟨d.custId, none⟩] }
  else { db with drivers := db.drivers ++ [⟨d.custId, some d.displayName⟩] }

/-- Adds a result: its key must be free, and its driver and its session of the subsession
stored. -/
def addResult (db : Store) (r : ResultRow) : Except Refusal Store :=
  if db.results.any (fun x => x.custId == r.custId && x.teamId == r.teamId &&
      x.subsessionId == r.subsessionId && x.simsessionNumber == r.simsessionNumber) then
    .error (.keyTaken ["driver_result.cust_id", "driver_result.team_id", "driver_result.subsession_id",
      "driver_result.simsession_number"])
  else if !db.drivers.any (·.custId == r.custId) || !db.hasSimsession r.subsessionId r.simsessionNumber then
    .error .missingReferent
  else .ok { db with results := db.results ++ [r] }

/-- Stores the rows of one subsession, or refuses them all. -/
def insert (db : Store) (rows : Rows) : Except Failure Store := do
  let id := rows.subsession.subsessionId
  let idText := toString id.toInt
  if db.hasSubsession id then throw (duplicate id)
  let db := db.addSession rows.session
  let db ← match db.addSubsession rows.subsession with
    | .ok db => pure db
    | .error (.keyTaken _) => throw (duplicate id)
    | .error r => throw (writing ("inserting subsession " ++ idText) r.failure)
  let addSim (db : Store) (s : SimsessionRow) : Except Failure Store :=
    (db.addSimsession s).mapError fun r =>
      writing ("inserting simsession " ++ idText ++ "/" ++ toString s.number.toInt) r.failure
  let addRes (db : Store) (r : ResultRow) : Except Failure Store :=
    (db.addResult r).mapError fun f =>
      writing ("inserting result of driver " ++ toString r.custId.toInt ++ " in subsession " ++ idText)
        f.failure
  let db ← rows.simsessions.foldlM addSim db
  let db := rows.drivers.foldl addDriver db
  rows.results.foldlM addRes db

/-- Replaces the track packages and configurations, or refuses them all. -/
def replaceTracks (db : Store) (entries : List Catalog.TrackEntry) : Except Failure Store :=
  let step (acc : Store) (e : Catalog.TrackEntry) : Except Failure Store :=
    let acc :=
      if acc.tracks.any (·.packageId == e.track.packageId) then acc
      else { acc with tracks := acc.tracks ++ [e.track] }
    if acc.trackConfigs.any (·.trackId == e.config.trackId) then
      .error (writing ("inserting track config " ++ toString e.config.trackId.toInt)
        (Refusal.keyTaken ["track_config.track_id"]).failure)
    else .ok { acc with trackConfigs := acc.trackConfigs ++ [e.config] }
  entries.foldlM step { db with tracks := [], trackConfigs := [] }

/-- Replaces the cars, or refuses them all. -/
def replaceCars (db : Store) (cars : List Catalog.Car) : Except Failure Store :=
  let step (acc : Store) (c : Catalog.Car) : Except Failure Store :=
    if acc.cars.any (·.carId == c.carId) then
      .error (writing ("inserting car " ++ toString c.carId.toInt) (Refusal.keyTaken ["car.car_id"]).failure)
    else .ok { acc with cars := acc.cars ++ [c] }
  cars.foldlM step { db with cars := [] }

end Store

end RaceArchive.Store
