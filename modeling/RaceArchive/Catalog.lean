import RaceArchive.Json.Read
import RaceArchive.Json.Value
import RaceArchive.Failure

/-!
# Track and car catalogs

The reference snapshots of the results service: the list of track configurations and the list of
cars. A track configuration belongs to a track package; one package holds several
configurations, and each snapshot entry names both. Reading a snapshot that is `null` gives no
tracks; for cars it gives no list at all, which is kept apart from an empty list.
-/

namespace RaceArchive.Catalog

open Json

/-- A track package. -/
structure Track where
  packageId : Int64 := 0
  trackName : Octets := []
  deriving Repr, DecidableEq

/-- A configuration of a track package and its length in miles. -/
structure TrackConfig where
  trackId : Int64 := 0
  packageId : Int64 := 0
  configName : Octets := []
  length : Float := 0
  deriving Repr

/-- One entry of the track snapshot: a configuration with its package. -/
structure TrackEntry where
  track : Track
  config : TrackConfig
  deriving Repr

/-- A car. -/
structure Car where
  carId : Int64 := 0
  carName : Octets := []
  carNameAbbreviated : Octets := []
  deriving Repr, DecidableEq, Inhabited

/-- An entry of the track snapshot as read. -/
structure TrackLine where
  trackId : Int64 := 0
  packageId : Int64 := 0
  trackName : Octets := []
  configName : Octets := []
  length : Float := 0
  deriving Repr, Inhabited

def trackPlace (field : String) : Place := ⟨"", field⟩

/-- Reads an entry of the track snapshot. -/
def TrackLine.reader : Reader TrackLine :=
  Reader.record [
    ⟨"track_id", Reader.focus (·.trackId) ({ · with trackId := · })
      (Reader.int "int64" (trackPlace "TrackID"))⟩,
    ⟨"package_id", Reader.focus (·.packageId) ({ · with packageId := · })
      (Reader.int "int64" (trackPlace "PackageID"))⟩,
    ⟨"track_name", Reader.focus (·.trackName) ({ · with trackName := · })
      (Reader.octets (trackPlace "TrackName"))⟩,
    ⟨"config_name", Reader.focus (·.configName) ({ · with configName := · })
      (Reader.octets (trackPlace "ConfigName"))⟩,
    ⟨"track_config_length", Reader.focus (·.length) ({ · with length := · }) Reader.float⟩]

def trackListType : String :=
  "[]struct \x7b TrackID int64 \"json:\\\"track_id\\\"\"; PackageID int64 \"json:\\\"package_id\\\"\"; " ++
  "TrackName string \"json:\\\"track_name\\\"\"; ConfigName string \"json:\\\"config_name\\\"\"; " ++
  "TrackConfigLength float64 \"json:\\\"track_config_length\\\"\" \x7d"

def TrackLine.toEntry (l : TrackLine) : TrackEntry :=
  ⟨⟨l.packageId, l.trackName⟩, ⟨l.trackId, l.packageId, l.configName, l.length⟩⟩

def readTracks (raw : ByteArray) : Except Failure (Array TrackEntry) :=
  match decode (Reader.list TrackLine.reader {} trackListType {}) none raw with
  | .ok lines => .ok ((lines.getD #[]).map TrackLine.toEntry)
  | .error e => .error (.within "decoding track snapshot" (.ofDecode e))

def carPlace (field : String) : Place := ⟨"Car", field⟩

/-- Reads a car. -/
def Car.reader : Reader Car :=
  Reader.record [
    ⟨"car_id", Reader.focus (·.carId) ({ · with carId := · })
      (Reader.int "int64" (carPlace "CarID"))⟩,
    ⟨"car_name", Reader.focus (·.carName) ({ · with carName := · })
      (Reader.octets (carPlace "CarName"))⟩,
    ⟨"car_name_abbreviated", Reader.focus (·.carNameAbbreviated) ({ · with carNameAbbreviated := · })
      (Reader.octets (carPlace "CarNameAbbreviated"))⟩]

def readCars (raw : ByteArray) : Except Failure (Option (Array Car)) :=
  match decode (Reader.list Car.reader {} "[]model.Car" {}) none raw with
  | .ok cars => .ok cars
  | .error e => .error (.within "decoding car snapshot" (.ofDecode e))

/-- A track entry as a document. -/
def TrackEntry.toValue (e : TrackEntry) : Value :=
  .obj [("Track", .obj [("package_id", .ofInt64 e.track.packageId),
                        ("track_name", .octets e.track.trackName)]),
        ("Config", .obj [("track_id", .ofInt64 e.config.trackId),
                         ("package_id", .ofInt64 e.config.packageId),
                         ("config_name", .octets e.config.configName),
                         ("track_config_length", .ofFloat e.config.length)])]

def Car.toValue (c : Car) : Value :=
  .obj [("car_id", .ofInt64 c.carId), ("car_name", .octets c.carName),
        ("car_name_abbreviated", .octets c.carNameAbbreviated)]

end RaceArchive.Catalog
