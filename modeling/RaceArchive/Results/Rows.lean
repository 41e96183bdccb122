import RaceArchive.Results.Payload
import RaceArchive.Time.Stamp
import RaceArchive.Failure

/-!
# Subsession rows

The relational rows of one subsession: its session, the subsession itself, one row per session of
the subsession, the drivers seen, and one result row per driver per session.

Flattening a payload reads it, reads its start time, and walks the sessions in order. A solo
driver's results are filed under team 0. Drivers are listed once each, at their first sighting. The
same driver twice under the same team in one session is refused, and so is a team without an id.
-/

namespace RaceArchive.Results

open Json

/-- A session: the event that groups subsessions of one series. -/
structure SessionRow where
  sessionId : Int64
  seriesName : Octets
  deriving Repr, DecidableEq

/-- A subsession: one split of a session. -/
structure SubsessionRow where
  subsessionId : Int64
  sessionId : Int64
  startTime : Int64
  licenseCategoryId : Int64
  trackId : Int64
  deriving Repr, DecidableEq

/-- One session of a subsession (practice, qualifying or race). -/
structure SimsessionRow where
  subsessionId : Int64
  number : Int64
  kind : Int64
  deriving Repr, DecidableEq

/-- A driver and their display name. -/
structure DriverRow where
  custId : Int64
  displayName : Octets
  deriving Repr, DecidableEq

/-- One driver's result in one session of a subsession. -/
structure ResultRow where
  custId : Int64
  teamId : Int64
  subsessionId : Int64
  simsessionNumber : Int64
  newiRating : Int64
  incidents : Int64
  lapsComplete : Int64
  averageLap : Int64
  carId : Int64
  deriving Repr, DecidableEq

/-- All rows of one subsession. -/
structure Rows where
  session : SessionRow
  subsession : SubsessionRow
  simsessions : Array SimsessionRow
  drivers : Array DriverRow
  results : Array ResultRow
  deriving Repr

def soloTeamId : Int64 := 0

def startTimeLayout : List Stamp.Piece := Stamp.utcLayout

/-- Reads a start time: exactly twenty octets in the layout of `2022-07-01T14:30:00Z`, as UTC. -/
def parseStartTime (s : Octets) : Except Failure Int :=
  let refuse (detail : String) : Except Failure Int :=
    .error (.cause (some .invalidField) ("invalid start_time " ++ Text.quoteUtf8 s ++ detail))
  if s.length ≠ 20 then refuse ""
  else match Stamp.read startTimeLayout s with
    | .ok t => .ok t
    | .error c => refuse (": " ++ c.message (Stamp.layoutText startTimeLayout) s)

/-- The rows gathered so far while flattening, with what has been seen. -/
structure Gathered where
  drivers : Array DriverRow := #[]
  results : Array ResultRow := #[]
  seenDrivers : List Int64 := []
  seenResults : List (Int64 × Int64 × Int64) := []

/-- Adds one driver line, filed under a team in a session. -/
def Gathered.add (g : Gathered) (subsession : Int64) (sim team : Int64) (d : DriverLine) :
    Except Failure Gathered :=
  if g.seenResults.contains (d.custId, team, sim) then
    .error (.cause (some .duplicateResult)
      ("subsession " ++ toString subsession.toInt ++ ": duplicate result for cust_id " ++
        toString d.custId.toInt ++ " (team " ++ toString team.toInt ++ ", simsession " ++
        toString sim.toInt ++ ")"))
  else
    let drivers :=
      if g.seenDrivers.contains d.custId then g.drivers
      else g.drivers.push ⟨d.custId, d.displayName⟩
    .ok { drivers
          results := g.results.push
            ⟨d.custId, team, subsession, sim, d.newiRating, d.incidents, d.lapsComplete,
             d.averageLap, d.carId⟩
          seenDrivers := if g.seenDrivers.contains d.custId then g.seenDrivers
                         else d.custId :: g.seenDrivers
          seenResults := (d.custId, team, sim) :: g.seenResults }

/-- Adds one participant of a session. -/
def Gathered.addParticipant (g : Gathered) (subsession sim : Int64) :
    Participant → Except Failure Gathered
  | .solo d => g.add subsession sim soloTeamId d
  | .team t =>
    match t.teamId with
    | none =>
      .error (.wrap none
        ("subsession " ++ toString subsession.toInt ++ ": team " ++ Text.quoteUtf8 t.displayName ++ ": ")
        "" (.cause (some .invalidField) "invalid team_id \"null\""))
    | some team => (t.driverResults.getD #[]).toList.foldlM (fun g d => g.add subsession sim team d) g

/-- Flattens a read payload whose start time has been read. -/
def Payload.toRows (p : Payload) (start : Int) : Except Failure Rows := do
  let sessions := (p.sessions.getD #[]).toList
  let g ← sessions.foldlM (fun g s =>
    (s.results.getD #[]).toList.foldlM (fun g part => g.addParticipant p.subsessionId s.number part) g)
    ({} : Gathered)
  pure {
    session := ⟨p.sessionId, p.seriesName⟩
    subsession := ⟨p.subsessionId, p.sessionId, Int64.ofInt start, p.licenseCategoryId, p.trackId⟩
    simsessions := (sessions.map fun s => (⟨p.subsessionId, s.number, s.kind⟩ : SimsessionRow)).toArray
    drivers := g.drivers
    results := g.results }

/-- Reads a subsession payload and flattens it into rows. -/
def flatten (raw : ByteArray) : Except Failure Rows :=
  match decode Payload.reader {} raw with
  | .error e =>
    .error (.within ("decoding subsession " ++ toString (peekSubsessionId raw).toInt) (.ofDecode e))
  | .ok p =>
    match parseStartTime p.startTime with
    | .error f => .error (.within ("subsession " ++ toString p.subsessionId.toInt) f)
    | .ok start => p.toRows start

/-! ## Rows as documents -/

def SessionRow.toValue (s : SessionRow) : Value :=
  .obj [("session_id", .ofInt64 s.sessionId), ("series_name", .octets s.seriesName)]

def SubsessionRow.toValue (s : SubsessionRow) : Value :=
  .obj [("subsession_id", .ofInt64 s.subsessionId), ("session_id", .ofInt64 s.sessionId),
        ("start_time", .ofInt64 s.startTime), ("license_category_id", .ofInt64 s.licenseCategoryId),
        ("track_id", .ofInt64 s.trackId)]

def SimsessionRow.toValue (s : SimsessionRow) : Value :=
  .obj [("subsession_id", .ofInt64 s.subsessionId), ("simsession_number", .ofInt64 s.number),
        ("simsession_type", .ofInt64 s.kind)]

def DriverRow.toValue (d : DriverRow) : Value :=
  .obj [("cust_id", .ofInt64 d.custId), ("display_name", .octets d.displayName)]

/-- A result row as a document. -/
def ResultRow.toValue (r : ResultRow) : Value :=
  .obj [("cust_id", .ofInt64 r.custId), ("team_id", .ofInt64 r.teamId),
        ("subsession_id", .ofInt64 r.subsessionId), ("simsession_number", .ofInt64 r.simsessionNumber),
        ("newi_rating", .ofInt64 r.newiRating), ("incidents", .ofInt64 r.incidents),
        ("laps_complete", .ofInt64 r.lapsComplete), ("average_lap", .ofInt64 r.averageLap),
        ("car_id", .ofInt64 r.carId)]

/-- All rows of a subsession as a document. -/
def Rows.toValue (r : Rows) : Value :=
  .obj [("session", r.session.toValue), ("subsession", r.subsession.toValue),
        ("simsessions", .arr (r.simsessions.toList.map SimsessionRow.toValue)),
        ("drivers", .arr (r.drivers.toList.map DriverRow.toValue)),
        ("results", .arr (r.results.toList.map ResultRow.toValue))]

end RaceArchive.Results
