import Mathlib
import RaceArchive.Proofs.RunEffects

/-!
# Rebuilding the store from the cache

`rebuild_reproduces_store`: start from an empty store and a cache without snapshots, and run
any successful driver and season runs, updates, and track and car refreshes (`Builds`). Suppose
this leaves the stored subsession ids the cached ones. Then a rebuild into the emptied store
succeeds. The rebuilt store is `Store.Alike` to the one built run by run: it has the same
subsessions, sessions of subsessions and results up to order, the same session and driver
keys, and the same reference tables. Which name a driver key or a session key carries depends
on which subsession was stored first (`Store.storing_order_decides_names`), so the rebuilt
store need not be equal to the one built run by run.

1. The invariant `Rebuildable files db ids` says three things. The rows of the cached
   subsessions `ids`, stored in that order after the reference tables of `db`, give `db`. The
   track tables of `db` are the ones its cached snapshot lists (`TracksFrom`). So is its car
   table (`CarsFrom`).
2. The empty store meets it for a cache without snapshots (`rebuildable_empty`). Every
   successful run keeps it (`Rebuildable.step`), and so does every history of runs
   (`Rebuildable.run`). A driver or season run or an update stores more cached rows and keeps
   every cached subsession. A refresh replaces one reference table with the snapshot it writes.
3. When the stored ids are the cached ones, the subsessions the invariant names are the cached
   ones, each once (`Rebuildable.perm_ids`). A rebuild reads them in the cache's order and
   stores them after reloading both snapshots (`rebuild_ok`). Storing a batch in another order
   gives an alike store (`Store.insertAll_perm`).
-/

namespace RaceArchive.Sync

open Store Results

/-! ## The reference tables a rebuild loads -/

/-- The track tables of `db` are those the cached track snapshot lists, or empty when the cache
has no track snapshot. -/
def TracksFrom (files : Files.Tree) (db : Store) : Prop :=
  match Cache.readReference files Cache.tracksSnapshot with
  | .error f => f.isOf .fileMissing = true ∧ db.tracks = [] ∧ db.trackConfigs = []
  | .ok raw => ∃ entries t, Catalog.readTracks raw = .ok entries ∧
      ({} : Store).replaceTracks entries.toList = .ok t ∧
      db.tracks = t.tracks ∧ db.trackConfigs = t.trackConfigs

/-- The car table of `db` is the one the cached car snapshot lists, or empty when the cache has
no car snapshot. -/
def CarsFrom (files : Files.Tree) (db : Store) : Prop :=
  match Cache.readReference files Cache.carsSnapshot with
  | .error f => f.isOf .fileMissing = true ∧ db.cars = []
  | .ok raw => ∃ cars c, Catalog.readCars raw = .ok cars ∧
      ({} : Store).replaceCars (cars.getD #[]).toList = .ok c ∧ db.cars = c.cars

variable {files files' : Files.Tree} {db db' : Store}

theorem TracksFrom.congr (h : TracksFrom files db)
    (hread : Cache.readReference files' Cache.tracksSnapshot =
      Cache.readReference files Cache.tracksSnapshot)
    (ht : db'.tracks = db.tracks) (hc : db'.trackConfigs = db.trackConfigs) :
    TracksFrom files' db' := by
  unfold TracksFrom at h ⊢
  rw [hread, ht, hc]
  exact h

theorem CarsFrom.congr (h : CarsFrom files db)
    (hread : Cache.readReference files' Cache.carsSnapshot =
      Cache.readReference files Cache.carsSnapshot)
    (hc : db'.cars = db.cars) : CarsFrom files' db' := by
  unfold CarsFrom at h ⊢
  rw [hread, hc]
  exact h

theorem tracksFrom_write {raw : ByteArray} {entries : Array Catalog.TrackEntry} {t : Store}
    (hwrite : Cache.writeReference files Cache.tracksSnapshot raw = (.ok (), files'))
    (hread : Catalog.readTracks raw = .ok entries)
    (ht : ({} : Store).replaceTracks entries.toList = .ok t) :
    TracksFrom files' { db with tracks := t.tracks, trackConfigs := t.trackConfigs } := by
  unfold TracksFrom
  rw [Cache.readReference_writeReference hwrite]
  exact ⟨entries, t, hread, ht, rfl, rfl⟩

theorem carsFrom_write {raw : ByteArray} {cars : Option (Array Catalog.Car)} {c : Store}
    (hwrite : Cache.writeReference files Cache.carsSnapshot raw = (.ok (), files'))
    (hread : Catalog.readCars raw = .ok cars)
    (hc : ({} : Store).replaceCars (cars.getD #[]).toList = .ok c) :
    CarsFrom files' { db with cars := c.cars } := by
  unfold CarsFrom
  rw [Cache.readReference_writeReference hwrite]
  exact ⟨cars, c, hread, hc, rfl⟩

theorem CarsFrom.writeTracks (h : CarsFrom files db) {raw : ByteArray}
    (hwrite : Cache.writeReference files Cache.tracksSnapshot raw = (.ok (), files'))
    (hc : db'.cars = db.cars) : CarsFrom files' db' := by
  refine h.congr ?_ hc
  rw [Cache.writeReference_ok hwrite]
  exact Cache.readReference_put Cache.tracks_not_prefix_cars

theorem TracksFrom.writeCars (h : TracksFrom files db) {raw : ByteArray}
    (hwrite : Cache.writeReference files Cache.carsSnapshot raw = (.ok (), files'))
    (ht : db'.tracks = db.tracks) (hc : db'.trackConfigs = db.trackConfigs) : TracksFrom files' db' := by
  refine h.congr ?_ ht hc
  rw [Cache.writeReference_ok hwrite]
  exact Cache.readReference_put Cache.cars_not_prefix_tracks

/-- Reloading the track snapshot into an empty store loads the tables it lists. -/
theorem exec_reloadTracks {m : Machine} (ht : TracksFrom m.files db) (r : Report) :
    (reloadSnapshot Cache.tracksSnapshot loadTracks).exec r { m with store := {} } =
      ((.ok (), r),
        { m with store := { tracks := db.tracks, trackConfigs := db.trackConfigs } }) := by
  unfold TracksFrom at ht
  split at ht
  · next f hf =>
    obtain ⟨hmiss, h₁, h₂⟩ := ht
    rw [exec_reloadSnapshot_missing (m := { m with store := {} }) hf hmiss, h₁, h₂]
  · next raw hraw =>
    obtain ⟨entries, t, hread, hrep, h₁, h₂⟩ := ht
    have hrep' : ({ m with store := {} } : Machine).store.replaceTracks entries.toList =
        .ok { tracks := t.tracks, trackConfigs := t.trackConfigs } := by
      rw [Store.replaceTracks_eq, hrep]
      rfl
    rw [exec_reloadSnapshot_ok (m := { m with store := {} }) hraw (exec_loadTracks hread hrep'),
      h₁, h₂]

/-- Reloading the car snapshot into a store without cars loads the table it lists. -/
theorem exec_reloadCars {m : Machine} {s : Store} (hc : CarsFrom m.files db) (hs : s.cars = [])
    (r : Report) :
    (reloadSnapshot Cache.carsSnapshot loadCars).exec r { m with store := s } =
      ((.ok (), r), { m with store := { s with cars := db.cars } }) := by
  unfold CarsFrom at hc
  split at hc
  · next f hf =>
    obtain ⟨hmiss, h₁⟩ := hc
    rw [exec_reloadSnapshot_missing (m := { m with store := s }) hf hmiss, h₁, ← hs]
  · next raw hraw =>
    obtain ⟨cars, c, hread, hrep, h₁⟩ := hc
    have hrep' : ({ m with store := s } : Machine).store.replaceCars (cars.getD #[]).toList =
        .ok { s with cars := c.cars } := by
      rw [Store.replaceCars_eq, hrep]
      rfl
    rw [exec_reloadSnapshot_ok (m := { m with store := s }) hraw (exec_loadCars hread hrep'), h₁]

/-! ## The invariant -/

/-- A store that rebuilding the cache `files` reproduces, storing the cached subsessions `ids`:
it holds their rows, stored in that order after its reference tables, and its reference tables
are the ones the cached snapshots list. -/
structure Rebuildable (files : Files.Tree) (db : Store) (ids : List Int64) : Prop where
  rows : ∃ rs, ids.mapM (cachedRows files) = .ok rs ∧
    (({} : Store).withRefs db).insertAll rs = .ok db
  tracks : TracksFrom files db
  cars : CarsFrom files db

theorem cachedRows_keeps (hk : Cache.Keeps files files') {id : Int64} {rows : Rows}
    (h : cachedRows files id = .ok rows) : cachedRows files' id = .ok rows := by
  unfold cachedRows at h ⊢
  obtain ⟨raw, hraw, -⟩ := Except.bind_eq_ok.mp h
  rw [(hk id (Cache.has_of_read hraw)).2]
  exact h

theorem mapM_keeps (hk : Cache.Keeps files files') {ids : List Int64} {rs : List Rows}
    (h : ids.mapM (cachedRows files) = .ok rs) : ids.mapM (cachedRows files') = .ok rs :=
  mapM_ok_iff.mpr ((mapM_ok_iff.mp h).imp fun _ _ => cachedRows_keeps hk)

variable {L ids : List Int64} {rs : List Rows}

theorem rebuildable_empty (ht : Cache.Lacks files Cache.tracksSnapshot)
    (hc : Cache.Lacks files Cache.carsSnapshot) : Rebuildable files {} [] := by
  obtain ⟨f, hf, hmiss⟩ := ht
  obtain ⟨g, hg, hmiss'⟩ := hc
  refine ⟨⟨[], rfl, rfl⟩, ?_, ?_⟩
  · unfold TracksFrom
    rw [hf]
    exact ⟨hmiss, rfl, rfl⟩
  · unfold CarsFrom
    rw [hg]
    exact ⟨hmiss', rfl⟩

/-- Storing the rows of more cached subsessions, with every cached subsession and both snapshots
kept, keeps a store rebuildable. -/
theorem Rebuildable.ingest (h : Rebuildable files db L) (hk : Cache.Keeps files files')
    (hs : SnapshotsKept files files') (hmap : ids.mapM (cachedRows files') = .ok rs)
    (hall : db.insertAll rs = .ok db') : Rebuildable files' db' (L ++ ids) := by
  obtain ⟨rs₀, hL, hins⟩ := h.rows
  have hkeep : db'.withRefs db = db' := Store.insertAll_refs hall
  -- the subsessions stored before are stored again after the same reference tables
  have hbase : (({} : Store).withRefs db').insertAll rs₀ = .ok db := by
    rw [← Store.withRefs_withRefs ({} : Store) db db', Store.insertAll_withRefs, hins, ← hkeep]
    rfl
  refine ⟨⟨rs₀ ++ rs, ?_, ?_⟩, ?_, ?_⟩
  · rw [List.mapM_append, mapM_keeps hk hL, hmap]
    rfl
  · rw [Store.insertAll_append, hbase]
    exact hall
  · exact h.tracks.congr (hs _ (.inl rfl)) (congrArg Store.tracks hkeep).symm
      (congrArg Store.trackConfigs hkeep).symm
  · exact h.cars.congr (hs _ (.inr rfl)) (congrArg Store.cars hkeep).symm

/-- Refreshing the tracks keeps a store rebuildable. -/
theorem Rebuildable.refreshTracks (h : Rebuildable files db L) {raw : ByteArray}
    {entries : Array Catalog.TrackEntry} {t : Store}
    (hwrite : Cache.writeReference files Cache.tracksSnapshot raw = (.ok (), files'))
    (hread : Catalog.readTracks raw = .ok entries)
    (ht : ({} : Store).replaceTracks entries.toList = .ok t) :
    Rebuildable files' { db with tracks := t.tracks, trackConfigs := t.trackConfigs } L := by
  obtain ⟨rs, hL, hins⟩ := h.rows
  have hput := Cache.writeReference_ok hwrite
  refine ⟨⟨rs, ?_, ?_⟩, ?_, ?_⟩
  · rw [hput]
    exact mapM_keeps (Cache.keeps_put_snapshot (.inl rfl) _) hL
  · rw [← Store.withRefs_withRefs ({} : Store) db, Store.insertAll_withRefs, hins]
    rfl
  · exact tracksFrom_write hwrite hread ht
  · exact h.cars.writeTracks hwrite rfl

/-- Refreshing the cars keeps a store rebuildable. -/
theorem Rebuildable.refreshCars (h : Rebuildable files db L) {raw : ByteArray}
    {cars : Option (Array Catalog.Car)} {c : Store}
    (hwrite : Cache.writeReference files Cache.carsSnapshot raw = (.ok (), files'))
    (hread : Catalog.readCars raw = .ok cars)
    (hc : ({} : Store).replaceCars (cars.getD #[]).toList = .ok c) :
    Rebuildable files' { db with cars := c.cars } L := by
  obtain ⟨rs, hL, hins⟩ := h.rows
  have hput := Cache.writeReference_ok hwrite
  refine ⟨⟨rs, ?_, ?_⟩, ?_, ?_⟩
  · rw [hput]
    exact mapM_keeps (Cache.keeps_put_snapshot (.inr rfl) _) hL
  · rw [← Store.withRefs_withRefs ({} : Store) db, Store.insertAll_withRefs, hins]
    rfl
  · exact h.tracks.writeCars hwrite rfl rfl
  · exact carsFrom_write hwrite hread hc

/-! ## Runs keep the invariant -/

/-- One successful run of an incremental job: a driver or season run, an update, or a track or
car refresh. -/
inductive Builds : Machine → Machine → Prop where
  | driver {m m' : Machine} {r : Report} (plan : Plan) (identifier : String) :
      (syncDriver plan identifier).run m = ((r, none), m') → Builds m m'
  | season {m m' : Machine} {r : Report} (plan : Plan) (year quarter : Int) (week : Option Int) :
      (syncSeason plan year quarter week).run m = ((r, none), m') → Builds m m'
  | update {m m' : Machine} {r : Report} (plan : Plan) (ctx : Context) :
      (Sync.update plan ctx).run m = ((r, none), m') → Builds m m'
  | tracks {m m' : Machine} {r : Report} (plan : Plan) :
      (syncTracks plan).run m = ((r, none), m') → Builds m m'
  | cars {m m' : Machine} {r : Report} (plan : Plan) :
      (syncCars plan).run m = ((r, none), m') → Builds m m'

/-- Every successful run keeps the store rebuildable from the cache it leaves. -/
theorem Rebuildable.step {m m' : Machine} (h : Rebuildable m.files m.store L) (hb : Builds m m') :
    ∃ L', Rebuildable m'.files m'.store L' := by
  cases hb with
  | driver plan identifier hrun =>
    rw [syncDriver_eq] at hrun
    obtain ⟨hk, hs, ids, rs, hmap, hall⟩ :=
      run_discovered_rows (driverDiscovery_finds plan identifier) hrun
    exact ⟨_, h.ingest hk hs hmap hall⟩
  | season plan year quarter week hrun =>
    rw [syncSeason_eq] at hrun
    obtain ⟨hk, hs, ids, rs, hmap, hall⟩ :=
      run_discovered_rows (seasonDiscovery_finds plan year quarter week) hrun
    exact ⟨_, h.ingest hk hs hmap hall⟩
  | update plan ctx hrun =>
    obtain ⟨hfiles, ids, rs, hmap, hall⟩ := update_rows hrun
    rw [hfiles]
    exact ⟨_, h.ingest (Cache.Keeps.refl _) (SnapshotsKept.refl _) hmap hall⟩
  | tracks plan hrun =>
    obtain ⟨raw, entries, t, hwrite, hread, ht, hstore⟩ := syncTracks_ok hrun
    rw [hstore]
    exact ⟨L, h.refreshTracks hwrite hread ht⟩
  | cars plan hrun =>
    obtain ⟨raw, cars, c, hwrite, hread, hc, hstore⟩ := syncCars_ok hrun
    rw [hstore]
    exact ⟨L, h.refreshCars hwrite hread hc⟩

/-- Every history of successful runs keeps the store rebuildable. -/
theorem Rebuildable.run {m m' : Machine} (h : Rebuildable m.files m.store L)
    (hrun : Relation.ReflTransGen Builds m m') : ∃ L', Rebuildable m'.files m'.store L' := by
  induction hrun with
  | refl => exact ⟨L, h⟩
  | tail _ hb ih =>
    obtain ⟨L₁, h₁⟩ := ih
    exact h₁.step hb

/-! ## Rebuilding -/

theorem wellFormed_of_mapM (h : ids.mapM (cachedRows files) = .ok rs) :
    ∀ rows ∈ rs, rows.WellFormed := by
  intro rows hrows
  obtain ⟨id, -, hid⟩ := exists_item_of_mapM h hrows
  obtain ⟨raw, -, hflat⟩ := Except.bind_eq_ok.mp hid
  exact flatten_wellFormed hflat

/-- When the stored subsession ids are the cached ones, the subsessions a rebuildable store was
built from are the cached ones, each once. -/
theorem Rebuildable.perm_ids (h : Rebuildable files db L)
    (hids : (db.subsessions.map (·.subsessionId)).Perm (Cache.ids files)) :
    L.Perm (Cache.ids files) := by
  obtain ⟨rs, hL, hins⟩ := h.rows
  have hl : (({} : Store).withRefs db).Linked := Store.linked_withRefs_empty _
  have hst := Store.storable_of_insertAll hl (wellFormed_of_mapM hL) hins
  obtain ⟨s, hs, hadds, -⟩ :=
    Store.insertAll_ok hl (Store.keyed_empty db) (wellFormed_of_mapM hL) hst
  rw [hins] at hs
  cases hs
  have hstored : db.subsessions.map (·.subsessionId) = rs.map (·.subsession.subsessionId) := by
    rw [hadds.subsessions]
    simp
  have hsub : L ⊆ Cache.ids files := fun id hid => by
    obtain ⟨rows, -, hrows⟩ := exists_result_of_mapM hL hid
    obtain ⟨raw, hraw, -⟩ := Except.bind_eq_ok.mp hrows
    exact Cache.mem_ids_of_read hraw
  have hlen : (Cache.ids files).length ≤ L.length := by
    rw [← hids.length_eq, hstored, List.length_map, (mapM_ok_iff.mp hL).length_eq]
  exact ((nodup_of_mapM hL hst.distinct).subperm hsub).perm_of_length_le hlen

/-- A rebuild from an emptied store loads both snapshots, then stores every cached subsession in
the order the cache lists them. -/
theorem rebuild_ok {m : Machine} (plan : Plan) (ht : TracksFrom m.files db)
    (hc : CarsFrom m.files db)
    (hmap : (Cache.ids m.files).mapM (cachedRows m.files) = .ok rs)
    (hins : (({} : Store).withRefs db).insertAll rs = .ok db') :
    ∃ r m', (rebuild plan).run { m with store := {} } = ((r, none), m') ∧ m'.store = db' := by
  have hbulk : ∀ r, (bulkIngest plan {} (Cache.ids m.files)).exec r
      { m with store := { tracks := db.tracks, trackConfigs := db.trackConfigs, cars := db.cars } } =
      ((.ok (), { r with ingested := (Cache.ids m.files).length }), { m with store := db' }) :=
    fun r => bulkIngest_ok.mpr ⟨fun _ _ => rfl, rs, db', hmap, hins, rfl, rfl⟩
  unfold rebuild
  rw [run_eq]
  simp only [Job.exec_bind, exec_reloadTracks ht,
    exec_reloadCars (s := { tracks := db.tracks, trackConfigs := db.trackConfigs }) hc rfl,
    Job.exec_getMachine, Job.exec_note, hbulk]
  exact ⟨_, _, rfl, by split <;> rfl⟩

/-- **A rebuild reproduces the store built run by run**, up to the order of its rows and the
names its keys carry. Start from an empty store and a cache without snapshots. Take any history
of successful runs that leaves the stored subsession ids the cached ones. Then a rebuild into
the emptied store succeeds, with any plan, and leaves a store alike to the one built run by
run. -/
theorem rebuild_reproduces_store {m₀ m : Machine} (hfresh : m₀.store = {})
    (htracks : Cache.Lacks m₀.files Cache.tracksSnapshot) (hcars : Cache.Lacks m₀.files Cache.carsSnapshot)
    (hrun : Relation.ReflTransGen Builds m₀ m)
    (hids : (m.store.subsessions.map (·.subsessionId)).Perm (Cache.ids m.files)) (plan : Plan) :
    ∃ r m', (rebuild plan).run { m with store := {} } = ((r, none), m') ∧
      Store.Alike m.store m'.store := by
  have h₀ : Rebuildable m₀.files m₀.store [] := hfresh ▸ rebuildable_empty htracks hcars
  obtain ⟨L, h⟩ := h₀.run hrun
  obtain ⟨rs, hL, hins⟩ := h.rows
  -- a rebuild reads the same subsessions, in the cache's order
  obtain ⟨rs', hmap, hperm⟩ := mapM_perm (h.perm_ids hids) hL
  have hl : (({} : Store).withRefs m.store).Linked := Store.linked_withRefs_empty _
  obtain ⟨s, hs, halike⟩ :=
    Store.insertAll_perm hl (Store.keyed_empty _) (wellFormed_of_mapM hL) hperm hins
  obtain ⟨r, m', hrebuild, hstore⟩ := rebuild_ok plan h.tracks h.cars hmap hs
  exact ⟨r, m', hrebuild, hstore ▸ halike⟩

/-- An update of a cache holding the three archives into an empty store stores the rows that
storing their payloads one after another stores, and leaves the cache. -/
theorem update_threeArchives {m : Machine} (hfiles : m.files = threeArchives) (hempty : m.store = {})
    (plan : Plan) :
    ∃ r m', (update plan).run m = ((r, none), m') ∧ m'.files = threeArchives ∧
      m'.store = Store.threeRaces := by
  obtain ⟨rs, hrows, hall⟩ := cachedRows_threeArchives hfiles
  have hbulk : ∀ r, (bulkIngest plan {} [7, 8, 9]).exec r m =
      ((.ok (), { r with ingested := 3 }), { m with store := Store.threeRaces }) := fun r =>
    bulkIngest_ok.mpr ⟨fun _ _ => rfl, rs, _, hrows, hempty ▸ hall, rfl, rfl⟩
  have hids : Cache.ids m.files = [7, 8, 9] := by rw [hfiles]; exact ids_threeArchives
  have hmissing : m.store.missing [7, 8, 9] = [7, 8, 9] := by rw [hempty]; rfl
  unfold update
  rw [run_eq]
  simp only [Job.exec_bind, Job.exec_getMachine, Job.exec_note]
  rw [hids, hmissing, hbulk]
  exact ⟨_, _, rfl, by split <;> exact hfiles, by split <;> rfl⟩

/-- The three cached races, updated into an empty store and then rebuilt. -/
theorem rebuild_reproduces_three_races :
    ∃ m, Relation.ReflTransGen Builds threeCached m ∧ threeCached.store = {} ∧
      Cache.Lacks threeCached.files Cache.tracksSnapshot ∧ Cache.Lacks threeCached.files Cache.carsSnapshot ∧
      m.store = Store.threeRaces ∧ (m.store.subsessions.map (·.subsessionId)).Perm (Cache.ids m.files) ∧
      ∃ r m', (rebuild { lastSeasonYear := 2024 }).run { m with store := {} } = ((r, none), m') ∧
        Store.Alike m.store m'.store := by
  obtain ⟨r, m, hupdate, hfiles, hstore⟩ := update_threeArchives (m := threeCached) rfl rfl { lastSeasonYear := 2024 }
  have hrun : Relation.ReflTransGen Builds threeCached m := .single (.update _ _ hupdate)
  have hids : (m.store.subsessions.map (·.subsessionId)).Perm (Cache.ids m.files) := by
    rw [hfiles, hstore, Store.ingestEach_threeRaces.2, ids_threeArchives]
  -- the archives sit beside the snapshots, so the new cache's missing snapshots stay missing
  have hlacks : ∀ {name}, name = Cache.tracksSnapshot ∨ name = Cache.carsSnapshot →
      Cache.Lacks threeCached.files name := fun hname =>
    ((((Cache.layout_lacks hname).put_archive hname 7 _).put_archive hname 8 _).put_archive hname 9 _)
  have htracks := hlacks (.inl rfl)
  have hcars := hlacks (.inr rfl)
  exact ⟨m, hrun, rfl, htracks, hcars, hstore, hids,
    rebuild_reproduces_store rfl htracks hcars hrun hids _⟩

end RaceArchive.Sync
