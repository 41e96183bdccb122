import RaceArchive.Results.Entry

/-!
# Subsession payloads

The document the results service returns for one subsession: its ids, the series, the start
time as text, the license category, the track, and one results list per session of the
subsession (practice, qualifying, race). Reading follows the record rules of `Json.Read`.

Reading only the subsession id is looser than reading the whole payload: every other member is
skipped unexamined, and the id stays known when a later member is malformed. Error messages about
a payload name its id that way.
-/

namespace RaceArchive.Results

open Json

/-- The results of one session of a subsession. -/
structure SessionLine where
  number : Int64 := 0
  kind : Int64 := 0
  results : Option (Array Participant) := none
  deriving Repr, Inhabited

/-- A subsession payload. -/
structure Payload where
  subsessionId : Int64 := 0
  sessionId : Int64 := 0
  seriesName : Octets := []
  startTime : Octets := []
  licenseCategoryId : Int64 := 0
  trackId : Int64 := 0
  sessions : Option (Array SessionLine) := none
  deriving Repr, Inhabited

def sessionPlace (field : String) : Place := ⟨"simsessionPayload", field⟩

/-- Reads a session's results. -/
def SessionLine.reader : Reader SessionLine :=
  Reader.record [
    ⟨"simsession_number", Reader.focus (·.number) ({ · with number := · })
      (Reader.int "int" (sessionPlace "SimsessionNumber"))⟩,
    ⟨"simsession_type", Reader.focus (·.kind) ({ · with kind := · })
      (Reader.int "int" (sessionPlace "SimsessionType"))⟩,
    ⟨"results", Reader.focus (·.results) ({ · with results := · })
      (Reader.list Participant.reader default "[]normalize.Participant" (sessionPlace "Results"))⟩]

def payloadPlace (field : String) : Place := ⟨"subsessionPayload", field⟩

def subsessionIdField : Reader.Field Payload :=
  ⟨"subsession_id", Reader.focus (·.subsessionId) ({ · with subsessionId := · })
    (Reader.int "int64" (payloadPlace "SubsessionID"))⟩

/-- Reads a payload. -/
def Payload.reader : Reader Payload :=
  Reader.record [
    subsessionIdField,
    ⟨"session_id", Reader.focus (·.sessionId) ({ · with sessionId := · })
      (Reader.int "int64" (payloadPlace "SessionID"))⟩,
    ⟨"series_name", Reader.focus (·.seriesName) ({ · with seriesName := · })
      (Reader.octets (payloadPlace "SeriesName"))⟩,
    ⟨"start_time", Reader.focus (·.startTime) ({ · with startTime := · })
      (Reader.octets (payloadPlace "StartTime"))⟩,
    ⟨"license_category_id", Reader.focus (·.licenseCategoryId) ({ · with licenseCategoryId := · })
      (Reader.int "int" (payloadPlace "LicenseCategoryID"))⟩,
    ⟨"track", Reader.focus (·.trackId) ({ · with trackId := · })
      (Reader.record [⟨"track_id", Reader.int "int64" ⟨"", "TrackID"⟩⟩])⟩,
    ⟨"session_results", Reader.focus (·.sessions) ({ · with sessions := · })
      (Reader.list SessionLine.reader {} "[]normalize.simsessionPayload"
        (payloadPlace "SessionResults"))⟩]

/-- The subsession id of a payload as far as it can be read, zero when it cannot. -/
def peekSubsessionId (raw : ByteArray) : Int64 :=
  (decodePartial (Reader.record [subsessionIdField]) {} raw).1.subsessionId

end RaceArchive.Results
