import RaceArchive.Proofs.StoreOrder

/-!
# Synchronising the same subsessions twice

A driver run and a season run both find subsessions and then fetch and store them
(`syncDriver_eq`, `syncSeason_eq`). What they find comes from a *discovery* (`Sync.Finds`): a job
that changes nothing but the wire and the report's target, and that counts as uncached exactly
the subsessions found that the cache lacks.

After a successful run, the report counts the uncached subsessions as discovered and as fetched,
and every subsession found as either stored or skipped. Every subsession found is then cached,
and it is stored as long as the payload cached for it is one of that subsession (`Sync.Filed`).
Run again while the remote service finds the same subsessions, the run fetches nothing, stores
nothing and counts them all as skipped. It asks the remote service for nothing beyond the
discovery, and leaves the cache, the store and the announcements as they were. The main statement
is `Sync.resync_changes_nothing`.

The cache files a payload under the id it was asked for, the store under the id inside the
payload. A payload of another subsession is therefore stored under that other id; the next run
finds the id it asked for missing, stores the payload again, and the store refuses it as a
duplicate.
-/

namespace RaceArchive

namespace Remote

theorem Link.run_bind {α β : Type} (x : Link α) (f : α → Link β) (w : Wire) :
    (x >>= f).run w = (f (x.run w).1).run (x.run w).2 := rfl

end Remote

namespace Discovery

open Remote

variable {cached : Int64 → Bool} {w : Wire} {f : Found}

theorem found_uncached (cached : Int64 → Bool) (ids : Array Int64) :
    (found cached ids).uncached.toList = (found cached ids).all.toList.filter fun id => !cached id := by
  simp [found]

theorem neverEnds_run {α : Type} (loop : String) (w : Wire) :
    (neverEnds loop : Link (Except Failure α)).run w =
      (.error (.plain (Crash.endless loop).message), { w with crash := some (.endless loop) }) :=
  rfl

/-- What the search grid of a driver finds is the ids it returned, sorted without repeats. -/
theorem findCustomer_found {cfg : Config} {c : Int64}
    (h : ((findCustomer cfg cached c).run w).1 = .ok f) : ∃ ids, f = found cached ids := by
  unfold findCustomer at h
  rw [Link.run_bind] at h
  cases hm : ((memberSince c).run w).1 with
  | error e => rw [hm] at h; cases h
  | ok since =>
    rw [hm] at h
    dsimp only at h
    rw [Link.run_bind] at h
    split at h
    · cases h
    · next ids _ =>
      split at h
      · rw [neverEnds_run] at h
        cases h
      · cases h; exact ⟨ids, rfl⟩

/-- What a season search finds is the ids it returned, sorted without repeats. -/
theorem findSeason_found {year quarter : Int} {week : Option Int}
    (h : ((findSeason cached year quarter week).run w).1 = .ok f) : ∃ ids, f = found cached ids := by
  unfold findSeason at h
  split at h
  · cases h
  · rw [Link.run_bind] at h
    split at h
    · cases h
    · next ids _ => cases h; exact ⟨ids, rfl⟩

end Discovery

namespace Sync

open Store Results

/-! ## Discoveries -/

/-- A discovery changes nothing but the wire and the report's target, and counts as uncached
exactly the subsessions found that the cache lacks. -/
structure Finds (d : Job Discovery.Found) : Prop where
  machine : ∀ r m, (d.exec r m).2 = { m with wire := (d.exec r m).2.wire }
  report : ∀ r m, (d.exec r m).1.2 = { r with target := (d.exec r m).1.2.target }
  uncached : ∀ {r m found}, (d.exec r m).1.1 = .ok found →
    found.uncached.toList = found.all.toList.filter fun id => !Cache.has m.files id

@[simp] theorem exec_cachedNow (r : Report) (m : Machine) :
    cachedNow.exec r m = ((.ok (Cache.has m.files), r), m) := rfl

/-- How a driver run finds subsessions: the lookup of the driver, then their search grid. -/
def driverDiscovery (plan : Plan) (identifier : String) : Job Discovery.Found := do
  if !plan.online then throw noRemote
  let driver ← Job.remote (Discovery.resolveDriver plan.discovery identifier)
  Job.note fun r => { r with target := Utf8.lossy driver.displayName }
  let cached ← cachedNow
  Job.remote (Discovery.findCustomer plan.discovery cached driver.custId)

theorem syncDriver_eq (plan : Plan) (identifier : String) :
    syncDriver plan identifier =
      run "driver" identifier (driverDiscovery plan identifier >>= fetchAndIngest) := by
  unfold syncDriver driverDiscovery
  congr 1
  split <;> simp [bind_assoc]

theorem exec_driverDiscovery {plan : Plan} (hon : plan.online = true) (identifier : String)
    (r : Report) (m : Machine) :
    (driverDiscovery plan identifier).exec r m =
      match (Discovery.resolveDriver plan.discovery identifier).run m.wire with
      | (.error f, w) => ((.error f, r), { m with wire := w })
      | (.ok driver, w) =>
        let find := (Discovery.findCustomer plan.discovery (Cache.has m.files) driver.custId).run w
        ((find.1, { r with target := Utf8.lossy driver.displayName }), { m with wire := find.2 }) := by
  simp only [driverDiscovery, hon, Bool.not_true, Bool.false_eq_true, if_false, Job.exec_bind,
    Job.exec_remote]
  rcases (Discovery.resolveDriver plan.discovery identifier).run m.wire with ⟨_ | driver, w⟩
  · rfl
  · simp

theorem exec_driverDiscovery_offline {plan : Plan} (hon : plan.online = false) (identifier : String)
    (r : Report) (m : Machine) :
    (driverDiscovery plan identifier).exec r m = ((.error noRemote, r), m) := by
  simp [driverDiscovery, hon]

theorem driverDiscovery_finds (plan : Plan) (identifier : String) :
    Finds (driverDiscovery plan identifier) := by
  cases hon : plan.online
  · refine ⟨fun r m => ?_, fun r m => ?_, fun {r m found} h => ?_⟩ <;>
      simp only [exec_driverDiscovery_offline hon] at *
    cases h
  · refine ⟨fun r m => ?_, fun r m => ?_, fun {r m found} h => ?_⟩
    · rw [exec_driverDiscovery hon]; split <;> rfl
    · rw [exec_driverDiscovery hon]; split <;> rfl
    · rw [exec_driverDiscovery hon] at h
      split at h
      · cases h
      · obtain ⟨ids, rfl⟩ := Discovery.findCustomer_found h
        exact Discovery.found_uncached _ _

/-- How a season run finds subsessions: one season search. -/
def seasonDiscovery (plan : Plan) (year quarter : Int) (week : Option Int) : Job Discovery.Found := do
  if !plan.online then throw noRemote
  let cached ← cachedNow
  Job.remote (Discovery.findSeason cached year quarter week)

theorem syncSeason_eq (plan : Plan) (year quarter : Int) (week : Option Int) :
    syncSeason plan year quarter week =
      run "season" (seasonTarget year quarter week)
        (seasonDiscovery plan year quarter week >>= fetchAndIngest) := by
  unfold syncSeason seasonDiscovery
  congr 1
  split <;> simp [bind_assoc]

theorem exec_seasonDiscovery {plan : Plan} (hon : plan.online = true) (year quarter : Int)
    (week : Option Int) (r : Report) (m : Machine) :
    (seasonDiscovery plan year quarter week).exec r m =
      let find := (Discovery.findSeason (Cache.has m.files) year quarter week).run m.wire
      ((find.1, r), { m with wire := find.2 }) := by
  simp [seasonDiscovery, hon, Job.exec_bind, Job.exec_remote]

theorem exec_seasonDiscovery_offline {plan : Plan} (hon : plan.online = false) (year quarter : Int)
    (week : Option Int) (r : Report) (m : Machine) :
    (seasonDiscovery plan year quarter week).exec r m = ((.error noRemote, r), m) := by
  simp [seasonDiscovery, hon]

theorem seasonDiscovery_finds (plan : Plan) (year quarter : Int) (week : Option Int) :
    Finds (seasonDiscovery plan year quarter week) := by
  cases hon : plan.online
  · refine ⟨fun r m => ?_, fun r m => ?_, fun {r m found} h => ?_⟩ <;>
      simp only [exec_seasonDiscovery_offline hon] at *
    cases h
  · refine ⟨fun r m => ?_, fun r m => ?_, fun {r m found} h => ?_⟩
    · rw [exec_seasonDiscovery hon]
    · rw [exec_seasonDiscovery hon]
    · rw [exec_seasonDiscovery hon] at h
      obtain ⟨ids, rfl⟩ := Discovery.findSeason_found h
      exact Discovery.found_uncached _ _

/-! ## Two runs -/

/-- The payload cached for subsession `id`, when it reads as a subsession, is one of subsession
`id`. -/
def Filed (files : Files.Tree) (id : Int64) : Prop :=
  ∀ raw rows, Cache.read files id = .ok raw → flatten raw = .ok rows → rows.subsession.subsessionId = id

variable {d : Job Discovery.Found} {job target : String} {m m₀ m₁ m₀' : Machine}
  {r₀ r₁ r₀' : Report} {found found' : Discovery.Found}

/-- A successful run of a discovery and a fetch-and-store is a successful fetch-and-store after
the discovery, recorded. -/
theorem run_found_ok (hfind : d.exec { job, target } m = ((.ok found, r₀), m₀))
    (hrun : (run job target (d >>= fetchAndIngest)).run m = ((r₁, none), m₁)) :
    ∃ r m', (fetchAndIngest found).exec r₀ m₀ = ((.ok (), r), m') ∧
      r₁ = r.stamp (m.clock.readings 0) (m.clock.readings 1) ∧ m₁.files = m'.files ∧ m₁.store = m'.store := by
  rw [run_eq, Job.exec_bind, hfind] at hrun
  dsimp only at hrun
  rcases hfi : (fetchAndIngest found).exec r₀ m₀ with ⟨⟨_ | ⟨⟩, r⟩, m'⟩ <;> rw [hfi] at hrun
  · cases hrun
  · simp only at hrun
    obtain ⟨⟨rfl, -⟩, rfl⟩ := hrun
    refine ⟨r, m', rfl, rfl, ?_, ?_⟩ <;> split <;> rfl

/-- A successful run counts the uncached subsessions found as discovered and fetched and every
subsession found as stored or skipped; it leaves every subsession found cached, and stored when
its cached payload is filed under its own id. -/
theorem run_found_first (hd : Finds d) (hfind : d.exec { job, target } m = ((.ok found, r₀), m₀))
    (hrun : (run job target (d >>= fetchAndIngest)).run m = ((r₁, none), m₁))
    (hfiled : ∀ id ∈ found.all.toList, Filed m₁.files id) :
    (r₁.discovered = found.uncached.size ∧ r₁.fetched = found.uncached.size ∧
      r₁.ingested + r₁.skipped = found.all.size) ∧
    ∀ id ∈ found.all.toList, Cache.has m₁.files id ∧ m₁.store.hasSubsession id := by
  obtain ⟨r, m', hfi, rfl, hfiles, hstore⟩ := run_found_ok hfind hrun
  obtain ⟨hr, hm, hcached, hkeepF, hstored, hkeepS⟩ := fetchAndIngest_ok hfi
  have hm₀ := hd.machine { job, target } m
  have hr₀ := hd.report { job, target } m
  have hunc := hd.uncached (r := { job, target }) (m := m) (by rw [hfind])
  rw [hfind] at hm₀ hr₀
  dsimp only at hm₀ hr₀
  have hfiles₀ : m₀.files = m.files := by rw [hm₀]
  have hstore₀ : m₀.store = m.store := by rw [hm₀]
  refine ⟨⟨?_, ?_, ?_⟩, fun id hid => ⟨?_, ?_⟩⟩
  · rw [Report.stamp_discovered, hr]
  · rw [Report.stamp_fetched, hr, hr₀]; simp
  · have hle : (m₀.store.missing found.all.toList).length ≤ found.all.size := by
      simpa [Store.missing] using List.length_filter_le _ found.all.toList
    rw [Report.stamp_ingested, Report.stamp_skipped, hr, hr₀]
    simp only
    omega
  · rw [hfiles]
    by_cases hc : Cache.has m₀.files id
    · exact hkeepF id hc
    · refine hcached id ?_
      rw [hunc, List.mem_filter, ← hfiles₀]
      exact ⟨hid, by simpa using hc⟩
  · rw [hstore]
    by_cases hs : m₀.store.hasSubsession id
    · exact hkeepS id hs
    · obtain ⟨raw, rows, hraw, hflat, hsub⟩ := hstored id (by simp [Store.missing, hid, hs])
      have hown := hfiled id hid raw rows (hfiles ▸ hraw) hflat
      rwa [← hown]

/-- Run again on a machine that holds every subsession found, cached and stored, a run fetches
nothing, stores nothing, counts every subsession found as skipped, and changes the machine only
by the discovery's exchanges and the recorded report. -/
theorem run_found_settled (hd : Finds d) (hagain : d.exec { job, target } m₁ = ((.ok found', r₀'), m₀'))
    (hheld : ∀ id ∈ found'.all.toList, Cache.has m₁.files id ∧ m₁.store.hasSubsession id) :
    let r := ({ r₀' with discovered := 0, skipped := found'.all.size } : Report).stamp
      (m₁.clock.readings 0) (m₁.clock.readings 1)
    (run job target (d >>= fetchAndIngest)).run m₁ =
      ((r, none),
        { m₀' with clock := m₁.clock.skip 2, status := m₀'.status.record (statusKey job target) r }) ∧
      r.fetched = 0 ∧ r.ingested = 0 ∧ m₀' = { m₁ with wire := m₀'.wire } := by
  intro r
  have hm₀' := hd.machine { job, target } m₁
  have hr₀' := hd.report { job, target } m₁
  have hunc := hd.uncached (r := { job, target }) (m := m₁) (by rw [hagain])
  rw [hagain] at hm₀' hr₀'
  dsimp only at hm₀' hr₀'
  -- everything found is cached, so nothing is uncached
  have hnone : found'.uncached = #[] := by
    apply Array.toList_inj.mp
    rw [hunc, List.filter_eq_nil_iff]
    intro id hid
    simp [(hheld id hid).1]
  have hstored : ∀ id ∈ found'.all.toList, m₀'.store.hasSubsession id := by
    rw [hm₀']
    exact fun id hid => (hheld id hid).2
  have hcounts : r.fetched = 0 ∧ r.ingested = 0 := by
    simp only [r]
    rw [hr₀']
    exact ⟨rfl, rfl⟩
  refine ⟨?_, hcounts.1, hcounts.2, hm₀'⟩
  rw [run_eq, Job.exec_bind, hagain]
  dsimp only
  rw [fetchAndIngest_settled hnone hstored]
  dsimp only
  rw [if_neg (by show ¬ r.ingested > 0; rw [hcounts.2]; decide)]

/-- **Synchronising twice.** A successful run of a discovery followed by fetching and storing
counts the uncached subsessions found as discovered and fetched, and every subsession found as
stored or skipped. It leaves every subsession found cached, and stored when the payload cached
for it is one of that subsession. Run again while the discovery finds the same subsessions, the
run succeeds, fetches and stores nothing, counts every subsession found as skipped, exchanges
nothing beyond the discovery, and leaves the cache, the store and the announcements as they
were. -/
theorem resync_changes_nothing (hd : Finds d)
    (hfind : d.exec { job, target } m = ((.ok found, r₀), m₀))
    (hrun : (run job target (d >>= fetchAndIngest)).run m = ((r₁, none), m₁))
    (hfiled : ∀ id ∈ found.all.toList, Filed m₁.files id)
    (hagain : d.exec { job, target } m₁ = ((.ok found', r₀'), m₀')) (hsame : found'.all = found.all) :
    (r₁.discovered = found.uncached.size ∧ r₁.fetched = found.uncached.size ∧
      r₁.ingested + r₁.skipped = found.all.size) ∧
    (∀ id ∈ found.all.toList, Cache.has m₁.files id ∧ m₁.store.hasSubsession id) ∧
    ∃ r₂ m₂, (run job target (d >>= fetchAndIngest)).run m₁ = ((r₂, none), m₂) ∧
      r₂.discovered = 0 ∧ r₂.fetched = 0 ∧ r₂.ingested = 0 ∧ r₂.skipped = found.all.size ∧
      m₂.files = m₁.files ∧ m₂.store = m₁.store ∧ m₂.sent = m₁.sent ∧ m₂.wire = m₀'.wire := by
  obtain ⟨hcounts, hheld⟩ := run_found_first hd hfind hrun hfiled
  obtain ⟨hrun₂, hfetched, hingested, hm₀'⟩ := run_found_settled hd hagain (hsame ▸ hheld)
  refine ⟨hcounts, hheld, _, _, hrun₂, rfl, hfetched, hingested, by rw [Report.stamp_skipped, hsame],
    ?_, ?_, ?_, rfl⟩ <;> rw [hm₀']

/-- A cache holding the archives of `oneRace`, `rematch` and `namesake` under their subsessions
7, 8 and 9. -/
def threeArchives : Files.Tree :=
  ((Cache.layout.put (Cache.pathOf 7) (.file (Zip.write [(Cache.entryName, Store.oneRace)]))).put
    (Cache.pathOf 8) (.file (Zip.write [(Cache.entryName, Store.rematch)]))).put
    (Cache.pathOf 9) (.file (Zip.write [(Cache.entryName, Store.namesake)]))

/-- Each of the three archives reads back as its payload. -/
theorem read_threeArchives :
    List.Forall₂ (fun id raw => Cache.read threeArchives id = .ok raw) [7, 8, 9]
      [Store.oneRace, Store.rematch, Store.namesake] := by
  have hother : ∀ {a b : Int64}, a ≠ b → ¬Cache.pathOf a <+: Cache.pathOf b :=
    fun hne h => hne (Cache.pathOf_prefix_eq h)
  have hdir : Cache.layout.node Cache.sessionDir = some .directory := rfl
  refine .cons ?_ (.cons ?_ (.cons ?_ .nil))
  · rw [threeArchives, Cache.read_put (hother (by decide)), Cache.read_put (hother (by decide))]
    exact Cache.read_put_archive hdir (Cache.archiveReadsBack_of_lt (by decide +kernel))
  · rw [threeArchives, Cache.read_put (hother (by decide))]
    exact Cache.read_put_archive (Cache.node_sessionDir_put hdir _)
      (Cache.archiveReadsBack_of_lt (by decide +kernel))
  · exact Cache.read_put_archive (Cache.node_sessionDir_put (Cache.node_sessionDir_put hdir _) _)
      (Cache.archiveReadsBack_of_lt (by decide +kernel))

-- both listings are already in order, so their sorts leave them and the kernel need not run them
theorem ids_threeArchives : Cache.ids threeArchives = [7, 8, 9] := by
  have hlist : threeArchives.list Cache.sessionDir =
      [("7.session.zip", false), ("8.session.zip", false), ("9.session.zip", false)] := by
    dsimp only [Files.Tree.list]
    rw [List.mergeSort_of_pairwise (by decide +kernel)]
    decide +kernel
  dsimp only [Cache.ids]
  rw [hlist, List.mergeSort_of_pairwise (by decide +kernel)]
  decide +kernel

/-- The three archives over an empty store. -/
def threeCached : Machine :=
  { files := threeArchives, wire := { session := { settings := {} }, server := {} } }

-- stated over the machine's files, so that the kernel never compares a read through the machine
-- with a read of the tree by running both
theorem read_threeCached :
    List.Forall₂ (fun id raw => Cache.read threeCached.files id = .ok raw) [7, 8, 9]
      [Store.oneRace, Store.rematch, Store.namesake] := by
  rw [show threeCached.files = threeArchives from rfl]
  exact read_threeArchives

/-- A discovery that finds subsessions 7, 8 and 9. -/
def findsThree : Job Discovery.Found := do
  let cached ← cachedNow
  pure ⟨#[7, 8, 9], #[7, 8, 9].filter fun id => !cached id⟩

theorem findsThree_finds : Finds findsThree := by
  refine ⟨fun r m => rfl, fun r m => rfl, fun {r m found} h => ?_⟩
  simp only [findsThree, Job.exec_bind, exec_cachedNow, Job.exec_pure] at h
  cases h
  simp

theorem exec_findsThree {m : Machine} (hfiles : m.files = threeArchives) (r : Report) :
    findsThree.exec r m = ((.ok ⟨#[7, 8, 9], #[]⟩, r), m) := by
  have hheld : (#[7, 8, 9].filter fun id => !Cache.has threeArchives id) = #[] := by decide +kernel
  simp only [findsThree, Job.exec_bind, exec_cachedNow, Job.exec_pure, hfiles, hheld]

/-- A driver run over the three archives and an empty store: it fetches nothing, stores the three
races, and the run after it changes nothing. -/
theorem resync_three_races :
    ∃ r₁ m₁, (run "driver" "Ann Apex" (findsThree >>= fetchAndIngest)).run threeCached = ((r₁, none), m₁) ∧
      r₁.ingested = 3 ∧ m₁.store = Store.threeRaces ∧
      (r₁.discovered = 0 ∧ r₁.fetched = 0 ∧ r₁.ingested + r₁.skipped = 3) ∧
      (∀ id ∈ [7, 8, 9], Cache.has m₁.files id ∧ m₁.store.hasSubsession id) ∧
      ∃ r₂ m₂, (run "driver" "Ann Apex" (findsThree >>= fetchAndIngest)).run m₁ = ((r₂, none), m₂) ∧
        r₂.discovered = 0 ∧ r₂.fetched = 0 ∧ r₂.ingested = 0 ∧ r₂.skipped = 3 ∧
        m₂.files = m₁.files ∧ m₂.store = m₁.store ∧ m₂.sent = m₁.sent ∧ m₂.wire = m₁.wire := by
  have hbody : (findsThree >>= fetchAndIngest : Job Unit).exec { job := "driver", target := "Ann Apex" }
      threeCached = ((.ok (), { job := "driver", target := "Ann Apex", ingested := 3 }),
        { threeCached with store := Store.threeRaces }) := by
    rw [Job.exec_bind, exec_findsThree rfl]
    exact exec_fetchAndIngest_cached rfl read_threeCached Store.ingestEach_threeRaces.1
  obtain ⟨hreport, hfiles, hstore⟩ := run_of_exec_ok hbody
  generalize hrun : (run "driver" "Ann Apex" (findsThree >>= fetchAndIngest)).run threeCached = first
    at hreport hfiles hstore
  obtain ⟨⟨r₁, e⟩, m₁⟩ := first
  obtain ⟨rfl, rfl⟩ := Prod.mk.inj hreport
  replace hfiles : m₁.files = threeArchives := hfiles
  -- each archive holds a payload of its own subsession, as storing the three showed
  have hown : ∀ {id : Int64} {payload : ByteArray} {rows₀ : Rows}, Cache.read threeArchives id = .ok payload →
      flatten payload = .ok rows₀ → rows₀.subsession.subsessionId = id → Filed m₁.files id := by
    intro id payload rows₀ hread hf hsub raw rows hraw hflat
    rw [hfiles, hread] at hraw
    cases hraw
    rw [hf] at hflat
    cases hflat
    exact hsub
  obtain ⟨rs, hflat, hall⟩ := Store.ingestEach_ok Store.ingestEach_threeRaces.1
  have hids : rs.map (·.subsession.subsessionId) = [7, 8, 9] := by
    rw [← Store.ingestEach_threeRaces.2, Store.insertAll_subsessions hall, List.nil_append, List.map_map]
    rfl
  have hfiled : ∀ id ∈ [7, 8, 9], Filed m₁.files id := by
    rcases read_threeArchives with _ | ⟨h7, _ | ⟨h8, _ | ⟨h9, -⟩⟩⟩
    rcases hflat with _ | ⟨f7, _ | ⟨f8, _ | ⟨f9, _ | _⟩⟩⟩
    simp only [List.map_cons, List.map_nil, List.cons.injEq, and_true] at hids
    intro id hid
    simp only [List.mem_cons, List.not_mem_nil, or_false] at hid
    rcases hid with rfl | rfl | rfl
    · exact hown h7 f7 hids.1
    · exact hown h8 f8 hids.2.1
    · exact hown h9 f9 hids.2.2
  refine ⟨_, m₁, rfl, Report.stamp_ingested _ _ _, hstore, ?_⟩
  exact resync_changes_nothing findsThree_finds (exec_findsThree rfl _) hrun hfiled
    (exec_findsThree hfiles _) rfl

end Sync

end RaceArchive
