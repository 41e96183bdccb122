import RaceArchive.Remote.Client

/-!
# Endpoints of the results service

Driver lookup by free text, a member's join year, series searches by season (optionally for one
driver and one week), a subsession's full result document, and the track and car snapshots.
Each wraps the failures of its exchange in words that name what it asked for.
-/

namespace RaceArchive.Remote

open Json

/-- A driver found by a lookup. -/
structure DriverMatch where
  custId : Int64 := 0
  displayName : Octets := []
  deriving Repr, DecidableEq, Inhabited

/-- Reads a driver match. -/
def DriverMatch.reader : Reader DriverMatch :=
  Reader.record [
    ⟨"cust_id", Reader.focus (·.custId) ({ · with custId := · })
      (Reader.int "int64" ⟨"DriverMatch", "CustID"⟩)⟩,
    ⟨"display_name", Reader.focus (·.displayName) ({ · with displayName := · })
      (Reader.octets ⟨"DriverMatch", "DisplayName"⟩)⟩]

/-- Looks up drivers by free text. -/
def lookupDrivers (term : String) : Link (Except Failure (Array DriverMatch)) := do
  let path := "/data/lookup/drivers"
  match ← getIndirect path [("search_term", [term])] with
  | .error f => pure (.error (.within ("looking up driver " ++ Text.quote term) f))
  | .ok body =>
    match decode (Reader.list DriverMatch.reader {} "[]iracing.DriverMatch" {}) none body with
    | .error e => pure (.error (responseFailure path (.ofDecode e)))
    | .ok ms => pure (.ok (ms.getD #[]))

def memberPath : String := "/data/member/get"

/-- The year in the leading `YYYY` of a join date: the text before the first `-` must be four
octets and read as a decimal integer. -/
def memberSinceYear (s : Octets) : Except Failure Int :=
  let yearText := s.takeWhile (· != 0x2D)
  if yearText.length ≠ 4 then
    .error (responseFailure memberPath (.plain ("malformed member_since " ++ Text.quoteUtf8 s)))
  else match Decimal.parseInt64 (Utf8.lossy yearText) with
    | .ok y => .ok y
    | .error r =>
      .error (responseFailure memberPath
        (.plain ("malformed member_since " ++ Text.quoteUtf8 s ++ ": " ++
          r.messageOctets "Atoi" yearText)))

def memberDates : Reader (Option (Array Octets)) :=
  Reader.list (Reader.record [⟨"member_since", Reader.octets ⟨"", "MemberSince"⟩⟩]) []
    "[]struct \x7b MemberSince string \"json:\\\"member_since\\\"\" \x7d" ⟨"", "Members"⟩

/-- The year a member joined. -/
def memberSince (custId : Int64) : Link (Except Failure Int) := do
  match ← getIndirect memberPath [("cust_ids", [toString custId.toInt])] with
  | .error f => pure (.error (.within ("fetching member " ++ toString custId.toInt) f))
  | .ok body =>
    match decode (Reader.record [⟨"members", memberDates⟩]) none body with
    | .error e => pure (.error (responseFailure memberPath (.ofDecode e)))
    | .ok dates =>
      match (dates.getD #[])[0]? with
      | none =>
        pure (.error (responseFailure memberPath
          (.plain ("no member " ++ toString custId.toInt ++ " in response"))))
      | some date => pure (memberSinceYear date)

/-- A series search: a season, and optionally one driver and one week. -/
structure SeriesQuery where
  year : Int
  quarter : Int
  custId : Option Int64 := none
  week : Option Int := none

/-- The query parameters of a series search. -/
def SeriesQuery.params (q : SeriesQuery) : List (String × List String) :=
  [("season_year", [toString q.year]), ("season_quarter", [toString q.quarter])] ++
  (match q.custId with
    | some c => [("cust_id", [toString c.toInt])]
    | none => []) ++
  (match q.week with
    | some w => [("race_week_num", [toString w])]
    | none => [])

def subsessionHit : Reader Int64 :=
  Reader.record [⟨"subsession_id", Reader.int "int64" ⟨"", "SubsessionID"⟩⟩]

/-- The subsession ids of a series search, in chunk order. -/
def searchSeries (q : SeriesQuery) : Link (Except Failure (Array Int64)) := do
  let path := "/data/results/search_series"
  match ← getChunked path q.params with
  | .error f =>
    pure (.error (.within ("searching series " ++ toString q.year ++ "s" ++ toString q.quarter) f))
  | .ok items =>
    pure (items.mapM fun item =>
      (decode subsessionHit 0 item).mapError fun e => responseFailure path (.ofDecode e))

def subsessionResult (id : Int64) : Link (Except Failure ByteArray) := do
  match ← getIndirect "/data/results/get" [("subsession_id", [toString id.toInt])] with
  | .error f => pure (.error (.within ("fetching subsession " ++ toString id.toInt) f))
  | .ok body => pure (.ok body)

def tracks : Link (Except Failure ByteArray) := do
  match ← getIndirect "/data/track/get" [] with
  | .error f => pure (.error (.within "fetching tracks" f))
  | .ok body => pure (.ok body)

/-- The car snapshot. -/
def cars : Link (Except Failure ByteArray) := do
  match ← getIndirect "/data/car/get" [] with
  | .error f => pure (.error (.within "fetching cars" f))
  | .ok body => pure (.ok body)

end RaceArchive.Remote
