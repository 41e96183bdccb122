import RaceArchive.Cache
import RaceArchive.Discovery
import RaceArchive.Store.Bulk
import RaceArchive.Sync.Status
import RaceArchive.Notify.Message

/-!
# Synchronisation runs

A run finds subsessions, fetches the uncached ones into the session cache one at a time, and
stores those the store lacks; or it refreshes the reference data; or it stores what the cache
holds. Every run ends in a report: what it was about, the counts so far, and the failure that
stopped it. The report is recorded in the job status under the job's name, followed by the
target asked for; a run that failed or stored a subsession is announced.

* A *driver* run resolves the driver, names the report after them, and takes their subsessions
  from the search grid; a *season* run takes the subsessions of a season quarter or race week.
  Both count the uncached subsessions as discovered, stop at the first fetch that fails, count
  the stored subsessions as skipped, and store the rest one by one.
* A *tracks* or *cars* run fetches the snapshot, keeps it in the cache, and replaces the
  reference rows with it.
* A *rebuild* reloads the cached snapshots (a missing one is skipped) and stores every cached
  subsession in bulk; an *update* stores in bulk the cached subsessions the store lacks. A failure
  in bulk keeps the committed checkpoints and counts them as stored.

Runs that need the remote service fail at once without it.
-/

namespace RaceArchive.Sync

open Store

/-- How the runs are made. -/
structure Plan where
  /-- Subsessions per commit when storing in bulk; below one means a thousand. -/
  checkpointEvery : Int := 1000
  /-- The last year of the search grid. -/
  lastSeasonYear : Int
  /-- Whether an ambiguous driver lookup fails. -/
  strict : Bool := false
  /-- Whether the remote service is there. -/
  online : Bool := true

def Plan.checkpoint (p : Plan) : Int := if p.checkpointEvery < 1 then 1000 else p.checkpointEvery

def Plan.discovery (p : Plan) : Discovery.Config := { lastSeasonYear := p.lastSeasonYear, strict := p.strict }

/-- A wall clock: its readings from the next one on, in nanoseconds since the Unix epoch. -/
structure Clock where
  readings : Nat → Int := fun _ => 0

def Clock.skip (c : Clock) (n : Nat) : Clock := ⟨fun k => c.readings (n + k)⟩

/-- Everything runs touch: the files, the client's wire, the store, the job status, the
notifications sent, and the clock. -/
structure Machine where
  files : Files.Tree := Cache.layout
  wire : Remote.Wire
  store : Store := {}
  status : Status := {}
  sent : Array Notify.Notification := #[]
  clock : Clock := {}

/-- The context a bulk run works under: `some k` is cancelled once the run has stored `k`
subsessions, `none` is never cancelled. -/
structure Context where
  cancelledAfter : Option Nat := none

def Context.cancelled (ctx : Context) (stored : Nat) : Bool :=
  match ctx.cancelledAfter with
  | some k => k ≤ stored
  | none => false

def cancellation : Failure := .cause (some .cancelled) "context canceled"

abbrev Run := StateM Machine

def exchange {α : Type} (act : Remote.Link α) : Run α :=
  modifyGet fun m => let (a, w) := act.run m.wire; (a, { m with wire := w })

/-- The effects inside a run: the report so far, kept when a failure stops the run. -/
abbrev Job := ExceptT Failure (StateT Report Run)

def Job.of {α : Type} : Except Failure α → Job α
  | .ok a => pure a
  | .error f => throw f

/-- Takes the value of a client exchange or stops the run with its failure. -/
def Job.remote {α : Type} (act : Remote.Link (Except Failure α)) : Job α := do
  Job.of (← (exchange act : Run _))

def Job.note (f : Report → Report) : Job Unit := modifyThe Report f

def Job.change (f : Machine → Machine) : Job Unit := modifyThe Machine f

def noRemote : Failure := .plain "remote API client not configured"

def statusKey (job target : String) : String := if target.isEmpty then job else job ++ ":" ++ target

/-- Makes a run: its report, stamped, recorded and announced, and its failure. -/
def run (job target : String) (body : Job Unit) : Run (Report × Option Failure) := do
  -- the body never reads the clock, so the readings taken when the run starts and when it
  -- finishes are the clock's next two
  let clock := (← get).clock
  let (res, r) ← (body.run).run { job, target }
  let failure := match res with
    | .ok () => none
    | .error f => some f
  let r := r.stamp (clock.readings 0) (clock.readings 1)
  let r := match failure with
    | some f => { r with error := f.message }
    | none => r
  modify fun m => { m with clock := clock.skip 2, status := m.status.record (statusKey job target) r }
  if failure.isSome || r.ingested > 0 then
    modify fun m => { m with sent := m.sent.push (Notify.fromReport r) }
  pure (r, failure)

/-- Fetches uncached subsessions one at a time, counting them, up to the first failure. -/
def fetchAll (ids : List Int64) : Job Unit := do
  for id in ids do
    let m ← getThe Machine
    let fetch (id : Int64) : Run (Except Failure ByteArray) := exchange (Remote.subsessionResult id)
    let (got, files) ← (Cache.getOrFetch (some fetch) m.files id : Run _)
    Job.change ({ · with files })
    let _ ← Job.of got
    Job.note fun r => { r with fetched := r.fetched + 1 }

/-- Stores one cached subsession. -/
def ingestCached (id : Int64) : Job Unit := do
  let m ← getThe Machine
  let raw ← Job.of (Cache.read m.files id)
  let (_, store) ← Job.of (m.store.ingest raw)
  Job.change ({ · with store })
  Job.note fun r => { r with ingested := r.ingested + 1 }

/-- Fetches what was found and stores what the store lacks. -/
def fetchAndIngest (found : Discovery.Found) : Job Unit := do
  Job.note fun r => { r with discovered := found.uncached.size }
  fetchAll found.uncached.toList
  let missing := (← getThe Machine).store.missing found.all.toList
  Job.note fun r => { r with skipped := found.all.size - missing.length }
  for id in missing do ingestCached id

def cachedNow : Job (Int64 → Bool) := do
  let m ← getThe Machine
  pure (Cache.has m.files)

/-- Synchronises the subsessions of a driver named by free text. -/
def syncDriver (plan : Plan) (identifier : String) : Run (Report × Option Failure) :=
  run "driver" identifier do
    if !plan.online then throw noRemote
    let driver ← Job.remote (Discovery.resolveDriver plan.discovery identifier)
    Job.note fun r => { r with target := Utf8.lossy driver.displayName }
    let cached ← cachedNow
    let found ← Job.remote (Discovery.findCustomer plan.discovery cached driver.custId)
    fetchAndIngest found

/-- Synchronises drivers in turn, up to the first failure. -/
def syncDrivers (plan : Plan) : List String → Run (List Report × Option Failure)
  | [] => pure ([], none)
  | identifier :: rest => do
    let (r, failure) ← syncDriver plan identifier
    match failure with
    | some f => pure ([r], some f)
    | none =>
      let (more, failure) ← syncDrivers plan rest
      pure (r :: more, failure)

def seasonTarget (year quarter : Int) (week : Option Int) : String :=
  toString year ++ "s" ++ toString quarter ++ (match week with | some w => "w" ++ toString w | none => "")

/-- Synchronises the subsessions of a season quarter or race week. -/
def syncSeason (plan : Plan) (year quarter : Int) (week : Option Int) : Run (Report × Option Failure) :=
  run "season" (seasonTarget year quarter week) do
    if !plan.online then throw noRemote
    let cached ← cachedNow
    let found ← Job.remote (Discovery.findSeason cached year quarter week)
    fetchAndIngest found

/-- Replaces the track rows from a snapshot, giving the count of rows. -/
def loadTracks (raw : ByteArray) : Job Nat := do
  let entries ← Job.of (Catalog.readTracks raw)
  let store ← Job.of ((← getThe Machine).store.replaceTracks entries.toList)
  Job.change ({ · with store })
  pure entries.size

/-- Replaces the car rows from a snapshot, giving the count of rows. -/
def loadCars (raw : ByteArray) : Job Nat := do
  let cars := ((← Job.of (Catalog.readCars raw)).getD #[]).toList
  let store ← Job.of ((← getThe Machine).store.replaceCars cars)
  Job.change ({ · with store })
  pure cars.length

def keepSnapshot (name : String) (raw : ByteArray) : Job Unit := do
  let (written, files) := Cache.writeReference (← getThe Machine).files name raw
  Job.change ({ · with files })
  Job.of written

/-- Refreshes the tracks. -/
def syncTracks (plan : Plan) : Run (Report × Option Failure) :=
  run "tracks" "" do
    if !plan.online then throw noRemote
    let raw ← Job.remote Remote.tracks
    Job.note fun r => { r with fetched := 1 }
    keepSnapshot Cache.tracksSnapshot raw
    let n ← loadTracks raw
    Job.note fun r => { r with ingested := n }

/-- Refreshes the cars. -/
def syncCars (plan : Plan) : Run (Report × Option Failure) :=
  run "cars" "" do
    if !plan.online then throw noRemote
    let raw ← Job.remote Remote.cars
    Job.note fun r => { r with fetched := 1 }
    keepSnapshot Cache.carsSnapshot raw
    let n ← loadCars raw
    Job.note fun r => { r with ingested := n }

/-- Reloads a cached snapshot, unless it is missing. -/
def reloadSnapshot (name : String) (load : ByteArray → Job Nat) : Job Unit := do
  match Cache.readReference (← getThe Machine).files name with
  | .error f => if f.isOf .fileMissing then pure () else throw f
  | .ok raw =>
    try
      let _ ← load raw
    catch f => throw (.within ("loading " ++ name) f)

/-- Stores cached subsessions through a bulk ingester, looking at the context before each. -/
def bulkIngest (plan : Plan) (ctx : Context) (ids : List Int64) : Job Unit := do
  let m ← getThe Machine
  let mut b := Ingester.start m.store plan.checkpoint
  for id in ids do
    if ctx.cancelled b.total then
      Job.change ({ · with store := b.abort })
      throw cancellation
    let step := do
      let raw ← Cache.read m.files id
      b.ingest raw
    match step with
    | .ok (_, next) => b := next
    | .error f =>
      Job.change ({ · with store := b.abort })
      Job.note fun r => { r with ingested := b.committedCount }
      throw f
  Job.change ({ · with store := b.close })
  Job.note fun r => { r with ingested := b.total }

/-- Reloads the snapshots and stores every cached subsession. -/
def rebuild (plan : Plan) (ctx : Context := {}) : Run (Report × Option Failure) :=
  run "rebuild" "" do
    reloadSnapshot Cache.tracksSnapshot loadTracks
    reloadSnapshot Cache.carsSnapshot loadCars
    let ids := Cache.ids (← getThe Machine).files
    Job.note fun r => { r with discovered := ids.length }
    bulkIngest plan ctx ids

/-- Stores the cached subsessions the store lacks. -/
def update (plan : Plan) (ctx : Context := {}) : Run (Report × Option Failure) :=
  run "update" "" do
    let m ← getThe Machine
    let ids := Cache.ids m.files
    let missing := m.store.missing ids
    Job.note fun r => { r with discovered := missing.length, skipped := ids.length - missing.length }
    bulkIngest plan ctx missing

end RaceArchive.Sync
