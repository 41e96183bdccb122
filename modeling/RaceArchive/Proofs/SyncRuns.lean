import RaceArchive.Sync.Pipeline
import RaceArchive.Proofs.AtomicWrite
import RaceArchive.Proofs.IngestContract

/-!
# What the steps of a synchronisation run do

The body of a run is a job: it reads and changes the machine and the report, and may stop with a
failure. `Job.exec` runs a job from a report and a machine, and each building block of a run gets
one equation for it. The two loops of a run get a step lemma and a run lemma: fetching changes
only the cache and the wire, keeps every cached subsession and caches each one asked for
(`fetchAll_ok`); storing changes only the store, keeps every stored subsession and stores the
subsession of each payload it reads (`ingestAll_ok`). A run records its report in the job status
and announces it when it failed or stored something (`run_eq`).
-/

namespace RaceArchive.Store

namespace Store

open Results

variable {db db' : Store} {rows : Rows}

/-! Only placing a subsession changes the stored subsessions. -/

@[simp] theorem addSession_subsessions (s : SessionRow) : (db.addSession s).subsessions = db.subsessions := by
  unfold addSession
  split <;> rfl

@[simp] theorem addDriver_subsessions (d : DriverRow) : (db.addDriver d).subsessions = db.subsessions := by
  unfold addDriver
  split
  · rfl
  · split <;> rfl

@[simp] theorem addDrivers_subsessions (ds : List DriverRow) :
    (ds.foldl addDriver db).subsessions = db.subsessions := by
  induction ds generalizing db with
  | nil => rfl
  | cons d rest ih => rw [List.foldl_cons, ih, addDriver_subsessions]

theorem placeSubsession_subsessions {s : SubsessionRow} (h : db.placeSubsession s = .ok db') :
    db'.subsessions = db.subsessions ++ [s] := by
  unfold placeSubsession addSubsession at h
  split at h
  · next hok =>
    split at hok
    · cases hok
    · split at hok
      · cases hok
      · cases hok; cases h; rfl
  · cases h
  · cases h

theorem simStep_subsessions {S : Int64} {s : SimsessionRow} (h : simStep S db s = .ok db') :
    db'.subsessions = db.subsessions := by
  unfold simStep addSimsession at h
  split at h
  · cases h
  · split at h
    · cases h
    · cases h; rfl

theorem resultStep_subsessions {S : Int64} {r : ResultRow} (h : resultStep S db r = .ok db') :
    db'.subsessions = db.subsessions := by
  unfold resultStep addResult at h
  split at h
  · cases h
  · split at h
    · cases h
    · cases h; rfl

/-- Storing a subsession adds it to the stored subsessions and changes no other of them. -/
theorem insert_subsessions (h : db.insert rows = .ok db') :
    db'.subsessions = db.subsessions ++ [rows.subsession] := by
  rw [insert_eq] at h
  split at h
  · cases h
  · obtain ⟨db₁, h₁, h⟩ := Except.bind_eq_ok.mp h
    obtain ⟨db₂, h₂, h₃⟩ := Except.bind_eq_ok.mp h
    have p₁ := placeSubsession_subsessions h₁
    rw [addSession_subsessions] at p₁
    -- the sessions, the drivers and the results leave the subsessions alone
    have p₂ : db₂.subsessions = db₁.subsessions :=
      foldlM_keeps (fun acc : Store => acc.subsessions = db₁.subsessions)
        (fun _ _ _ _ hacc hs => (simStep_subsessions hs).trans hacc) rfl h₂
    have p₃ : db'.subsessions = db₂.subsessions :=
      foldlM_keeps (fun acc : Store => acc.subsessions = db₂.subsessions)
        (fun _ _ _ _ hacc hr => (resultStep_subsessions hr).trans hacc) (addDrivers_subsessions _) h₃
    rw [p₃, p₂, p₁]

theorem insert_hasSubsession (h : db.insert rows = .ok db') (id : Int64) :
    db'.hasSubsession id = (db.hasSubsession id || rows.subsession.subsessionId == id) := by
  simp [hasSubsession, insert_subsessions h]

end Store

end RaceArchive.Store

namespace RaceArchive.Sync

open Store Results

/-- Runs a job from a report and a machine: its outcome, and the report and the machine after it. -/
def Job.exec {α : Type} (j : Job α) (r : Report) (m : Machine) :
    (Except Failure α × Report) × Machine :=
  ((j.run).run r).run m

namespace Job

variable {α β : Type} (r : Report) (m : Machine)

@[simp] theorem exec_pure (a : α) : (pure a : Job α).exec r m = ((.ok a, r), m) := rfl

theorem exec_bind (j : Job α) (k : α → Job β) :
    (j >>= k).exec r m = match j.exec r m with
      | ((.ok a, r'), m') => (k a).exec r' m'
      | ((.error f, r'), m') => ((.error f, r'), m') := by
  unfold Job.exec
  simp only [ExceptT.run, StateT.run, bind, ExceptT.bind, ExceptT.mk, StateT.bind, ExceptT.bindCont]
  rcases j r m with ⟨⟨_ | _, _⟩, _⟩ <;> rfl

@[simp] theorem exec_note (f : Report → Report) : (note f).exec r m = ((.ok (), f r), m) := rfl

@[simp] theorem exec_change (f : Machine → Machine) : (change f).exec r m = ((.ok (), r), f m) := rfl

@[simp] theorem exec_getMachine : (getThe Machine : Job Machine).exec r m = ((.ok m, r), m) := rfl

@[simp] theorem exec_throw (f : Failure) : (throw f : Job α).exec r m = ((.error f, r), m) := rfl

@[simp] theorem exec_of (x : Except Failure α) : (Job.of x).exec r m = ((x, r), m) := by
  cases x <;> rfl

@[simp] theorem exec_lift (x : Run α) : (liftM x : Job α).exec r m = ((.ok (x.run m).1, r), (x.run m).2) :=
  rfl

theorem exec_remote (act : Remote.Link (Except Failure α)) :
    (remote act).exec r m = (((act.run m.wire).1, r), { m with wire := (act.run m.wire).2 }) := by
  unfold remote
  rw [exec_bind, exec_lift]
  exact exec_of _ _ _

end Job

/-! ## Fetching -/

/-- Fetching one subsession, as the fetch loop does for each id. -/
def fetchOne (id : Int64) : Job Unit := do
  let m ← getThe Machine
  let fetch (id : Int64) : Run (Except Failure ByteArray) := exchange (Remote.subsessionResult id)
  let (got, files) ← (Cache.getOrFetch (some fetch) m.files id : Run _)
  Job.change ({ · with files })
  let _ ← Job.of got
  Job.note fun r => { r with fetched := r.fetched + 1 }

theorem fetchAll_nil : fetchAll [] = pure () := rfl

theorem fetchAll_cons (id : Int64) (ids : List Int64) :
    fetchAll (id :: ids) = fetchOne id >>= fun _ => fetchAll ids := by
  simp only [fetchAll, fetchOne, List.forIn_cons, bind_assoc, pure_bind]

variable {r r' : Report} {m m' : Machine}

theorem getOrFetch_run (id : Int64) (m : Machine) :
    (Cache.getOrFetch (some fun id => exchange (Remote.subsessionResult id)) m.files id).run m =
      let answer := (Remote.subsessionResult id).run m.wire
      (if Cache.has m.files id then (Cache.read m.files id, m.files)
        else Cache.keep m.files id none answer.1,
       if Cache.has m.files id then m else { m with wire := answer.2 }) := by
  rw [Cache.getOrFetch_some]
  split <;> rfl

theorem exec_fetchOne (id : Int64) (r : Report) (m : Machine) :
    (fetchOne id).exec r m =
      let got := (Cache.getOrFetch (some fun id => exchange (Remote.subsessionResult id)) m.files id).run m
      match got.1.1 with
      | .ok _ => ((.ok (), { r with fetched := r.fetched + 1 }), { got.2 with files := got.1.2 })
      | .error f => ((.error f, r), { got.2 with files := got.1.2 }) := by
  unfold fetchOne
  simp only [Job.exec_bind, Job.exec_getMachine, Job.exec_lift, Job.exec_change, Job.exec_of]
  rcases (Cache.getOrFetch (some fun id => exchange (Remote.subsessionResult id)) m.files id).run m
    with ⟨⟨_ | _, _⟩, _⟩ <;> rfl

/-- One fetch changes only the cache and the wire, counts one subsession fetched, keeps every
cached subsession, and leaves its own cached. -/
theorem fetchOne_ok {id : Int64} (h : (fetchOne id).exec r m = ((.ok (), r'), m')) :
    r' = { r with fetched := r.fetched + 1 } ∧ m' = { m with files := m'.files, wire := m'.wire } ∧
      Cache.has m'.files id ∧ ∀ j, Cache.has m.files j → Cache.has m'.files j := by
  rw [exec_fetchOne, getOrFetch_run] at h
  dsimp only at h
  split at h
  · next data hgot =>
    cases h
    obtain ⟨hid, hkeep⟩ := Cache.getOrFetch_ok (Prod.ext hgot rfl)
    refine ⟨rfl, ?_, hid, hkeep⟩
    split <;> rfl
  · cases h

/-- Fetching changes only the cache and the wire, counts each subsession asked for, keeps every
cached subsession and leaves each one asked for cached. -/
theorem fetchAll_ok {ids : List Int64} : ∀ {r r' : Report} {m m' : Machine},
    (fetchAll ids).exec r m = ((.ok (), r'), m') →
    r' = { r with fetched := r.fetched + ids.length } ∧
      m' = { m with files := m'.files, wire := m'.wire } ∧
      (∀ id ∈ ids, Cache.has m'.files id) ∧ ∀ j, Cache.has m.files j → Cache.has m'.files j := by
  induction ids with
  | nil =>
    intro r r' m m' h
    rw [fetchAll_nil, Job.exec_pure] at h
    cases h
    simp
  | cons id rest ih =>
    intro r r' m m' h
    rw [fetchAll_cons, Job.exec_bind] at h
    split at h
    · next r₁ m₁ h₁ =>
      obtain ⟨rfl, hm₁, hid, hkeep₁⟩ := fetchOne_ok h₁
      obtain ⟨rfl, hm, hrest, hkeep⟩ := ih h
      refine ⟨?_, ?_, ?_, fun j hj => hkeep j (hkeep₁ j hj)⟩
      · simp only [List.length_cons]
        congr 1
        omega
      · rw [hm, hm₁]
      · rintro j (_ | ⟨_, hj⟩)
        · exact hkeep id hid
        · exact hrest j hj
    · cases h

/-! ## Storing -/

/-- Storing one cached subsession: read from the cache, ingested into the store, and counted. -/
theorem exec_ingestCached (id : Int64) (r : Report) (m : Machine) :
    (ingestCached id).exec r m =
      match Cache.read m.files id >>= m.store.ingest with
      | .ok (_, store) => ((.ok (), { r with ingested := r.ingested + 1 }), { m with store })
      | .error f => ((.error f, r), m) := by
  unfold ingestCached
  simp only [Job.exec_bind, Job.exec_getMachine, Job.exec_of]
  cases Cache.read m.files id with
  | error f => rfl
  | ok raw =>
    show _ = match m.store.ingest raw with
      | Except.ok (_, store) => ((Except.ok (), { r with ingested := r.ingested + 1 }), { m with store })
      | Except.error f => ((Except.error f, r), m)
    dsimp only
    cases m.store.ingest raw <;> rfl

/-- One store changes only the store: it reads a payload from the cache, and the store takes the
rows it flattens to. -/
theorem ingestCached_ok {id : Int64} (h : (ingestCached id).exec r m = ((.ok (), r'), m')) :
    r' = { r with ingested := r.ingested + 1 } ∧ m' = { m with store := m'.store } ∧
      ∃ raw rows, Cache.read m.files id = .ok raw ∧ flatten raw = .ok rows ∧
        m.store.insert rows = .ok m'.store := by
  rw [exec_ingestCached] at h
  cases hgot : Cache.read m.files id >>= m.store.ingest with
  | error f => rw [hgot] at h; cases h
  | ok got =>
    rw [hgot] at h
    cases h
    obtain ⟨raw, hraw, hingest⟩ := Except.bind_eq_ok.mp hgot
    obtain ⟨hflat, hins⟩ := Store.ingest_ok hingest
    exact ⟨rfl, rfl, raw, got.1, hraw, hflat, hins⟩

/-- The storing loop of a run. -/
def ingestAll (ids : List Int64) : Job Unit := for id in ids do ingestCached id

theorem ingestAll_nil : ingestAll [] = pure () := rfl

theorem ingestAll_cons (id : Int64) (ids : List Int64) :
    ingestAll (id :: ids) = ingestCached id >>= fun _ => ingestAll ids := by
  simp only [ingestAll, List.forIn_cons, bind_assoc, pure_bind]

/-- Storing changes only the store, counts each subsession asked for, keeps every stored
subsession, and stores the subsession of the payload cached for each one. -/
theorem ingestAll_ok {ids : List Int64} : ∀ {r r' : Report} {m m' : Machine},
    (ingestAll ids).exec r m = ((.ok (), r'), m') →
    r' = { r with ingested := r.ingested + ids.length } ∧ m' = { m with store := m'.store } ∧
      (∀ id ∈ ids, ∃ raw rows, Cache.read m.files id = .ok raw ∧ flatten raw = .ok rows ∧
        m'.store.hasSubsession rows.subsession.subsessionId) ∧
      ∀ s, m.store.hasSubsession s → m'.store.hasSubsession s := by
  induction ids with
  | nil =>
    intro r r' m m' h
    rw [ingestAll_nil, Job.exec_pure] at h
    cases h
    simp
  | cons id rest ih =>
    intro r r' m m' h
    rw [ingestAll_cons, Job.exec_bind] at h
    split at h
    · next r₁ m₁ h₁ =>
      obtain ⟨rfl, hm₁, raw, rows, hraw, hflat, hins⟩ := ingestCached_ok h₁
      obtain ⟨rfl, hm, hrest, hkeep⟩ := ih h
      have hkeep₁ : ∀ s, m.store.hasSubsession s → m₁.store.hasSubsession s := by
        intro s hs
        simp [Store.insert_hasSubsession hins, hs]
      have hfiles : m₁.files = m.files := by rw [hm₁]
      refine ⟨?_, ?_, ?_, fun s hs => hkeep s (hkeep₁ s hs)⟩
      · simp only [List.length_cons]
        congr 1
        omega
      · rw [hm, hm₁]
      · rintro j (_ | ⟨_, hj⟩)
        · refine ⟨raw, rows, hraw, hflat, hkeep _ ?_⟩
          simp [Store.insert_hasSubsession hins]
        · rw [← hfiles]
          exact hrest j hj
    · cases h

/-- Storing cached subsessions whose payloads read back and store one after another: each is
counted, and the store is the one that storing their payloads in turn reaches. -/
theorem exec_ingestAll {files : Files.Tree} {ids : List Int64} {raws : List ByteArray}
    (hread : List.Forall₂ (fun id raw => Cache.read files id = .ok raw) ids raws) :
    ∀ {r : Report} {m : Machine} {db : Store}, m.files = files → m.store.ingestEach raws = .ok db →
      (ingestAll ids).exec r m =
        ((.ok (), { r with ingested := r.ingested + ids.length }), { m with store := db }) := by
  induction hread with
  | nil =>
    intro r m db _ hdb
    cases hdb
    simp only [ingestAll_nil, Job.exec_pure, List.length_nil, Nat.cast_zero, Int.add_zero]
  | @cons id raw ids raws hraw _ ih =>
    intro r m db hfiles hdb
    rw [Store.ingestEach, List.foldlM_cons] at hdb
    cases hi : m.store.ingest raw with
    | error f => rw [hi] at hdb; cases hdb
    | ok got =>
      rw [hi] at hdb
      have hraw' : Cache.read m.files id = .ok raw := hfiles ▸ hraw
      rw [ingestAll_cons, Job.exec_bind, exec_ingestCached, hraw', Cache.Except.ok_bind, hi]
      dsimp only
      rw [ih (m := { m with store := got.2 }) hfiles hdb]
      simp only [List.length_cons, Nat.cast_add, Nat.cast_one, Int.add_assoc, Int.add_comm 1]

/-! ## Fetching and storing what was found -/

theorem fetchAndIngest_eq (found : Discovery.Found) : fetchAndIngest found = (do
    Job.note fun r => { r with discovered := found.uncached.size }
    fetchAll found.uncached.toList
    let missing := (← getThe Machine).store.missing found.all.toList
    Job.note fun r => { r with skipped := found.all.size - missing.length }
    ingestAll missing) := rfl

/-- A successful fetch-and-store changes the cache, the wire and the store only. It counts the
uncached subsessions as discovered and fetched, the stored ones as skipped and the missing ones as
stored; it caches each uncached subsession and keeps every cached one; it stores the subsession of
the payload cached for each missing one and keeps every stored one. -/
theorem fetchAndIngest_ok {found : Discovery.Found}
    (h : (fetchAndIngest found).exec r m = ((.ok (), r'), m')) :
    let missing := m.store.missing found.all.toList
    r' = { r with discovered := found.uncached.size, fetched := r.fetched + found.uncached.size,
                  skipped := found.all.size - missing.length, ingested := r.ingested + missing.length } ∧
      m' = { m with files := m'.files, wire := m'.wire, store := m'.store } ∧
      (∀ id ∈ found.uncached.toList, Cache.has m'.files id) ∧
      (∀ j, Cache.has m.files j → Cache.has m'.files j) ∧
      (∀ id ∈ missing, ∃ raw rows, Cache.read m'.files id = .ok raw ∧ flatten raw = .ok rows ∧
        m'.store.hasSubsession rows.subsession.subsessionId) ∧
      ∀ s, m.store.hasSubsession s → m'.store.hasSubsession s := by
  rw [fetchAndIngest_eq] at h
  simp only [Job.exec_bind, Job.exec_note, Job.exec_getMachine] at h
  split at h
  · next r₁ m₁ h₁ =>
    obtain ⟨rfl, hm₁, hcached, hkeep⟩ := fetchAll_ok h₁
    -- fetching leaves the store alone, so the missing subsessions are those `m` lacks
    have hstore : m₁.store = m.store := by rw [hm₁]
    rw [hstore] at h
    obtain ⟨rfl, hm, hstored, hkeepS⟩ := ingestAll_ok h
    have hfiles : m'.files = m₁.files := by rw [hm]
    refine ⟨?_, ?_, ?_, ?_, ?_, ?_⟩
    · simp [Array.length_toList]
    · rw [hm, hm₁]
    · intro id hid; rw [hfiles]; exact hcached id hid
    · intro j hj; rw [hfiles]; exact hkeep j hj
    · intro id hid; rw [hfiles]; exact hstored id hid
    · intro s hs; exact hkeepS s (hstore ▸ hs)
  · cases h

/-- With every subsession found cached, a fetch-and-store fetches nothing and stores the missing
ones in turn, as storing their cached payloads one after another does. -/
theorem exec_fetchAndIngest_cached {found : Discovery.Found} {raws : List ByteArray} {db : Store}
    (hcached : found.uncached = #[])
    (hread : List.Forall₂ (fun id raw => Cache.read m.files id = .ok raw) (m.store.missing found.all.toList) raws)
    (hdb : m.store.ingestEach raws = .ok db) :
    let missing := m.store.missing found.all.toList
    (fetchAndIngest found).exec r m =
      ((.ok (), { r with discovered := 0, skipped := found.all.size - missing.length,
                         ingested := r.ingested + missing.length }), { m with store := db }) := by
  rw [fetchAndIngest_eq, hcached]
  simp only [Job.exec_bind, Job.exec_note, Job.exec_getMachine, fetchAll_nil, Job.exec_pure,
    Array.size_empty, Int.natCast_zero]
  exact exec_ingestAll hread rfl hdb

/-- With every subsession found cached and stored, a fetch-and-store fetches and stores nothing,
counts every subsession found as skipped, and leaves the machine as it was. -/
theorem fetchAndIngest_settled {found : Discovery.Found} (hcached : found.uncached = #[])
    (hstored : ∀ id ∈ found.all.toList, m.store.hasSubsession id) :
    (fetchAndIngest found).exec r m =
      ((.ok (), { r with discovered := 0, skipped := found.all.size }), m) := by
  have hmissing : m.store.missing found.all.toList = [] := by
    simp only [Store.missing, List.filter_eq_nil_iff, Bool.not_eq_true']
    intro id hid
    simp [hstored id hid]
  rw [fetchAndIngest_eq, hcached]
  simp only [Job.exec_bind, Job.exec_note, Job.exec_getMachine, fetchAll_nil, Job.exec_pure,
    hmissing, ingestAll_nil, List.length_nil, Array.size_empty, Int.natCast_zero, Int.sub_zero]

/-! ## Recording a run -/

theorem Run.run_bind {α β : Type} (x : Run α) (f : α → Run β) (m : Machine) :
    (x >>= f).run m = (f (x.run m).1).run (x.run m).2 := rfl

/-- A run stamps its report with the clock's next two readings, records it under its status key,
and announces it when it failed or stored a subsession; a failed run's report carries the
failure's text. -/
theorem run_eq (job target : String) (body : Job Unit) (m : Machine) :
    (run job target body).run m =
      match body.exec { job, target } m with
      | ((.ok (), r), m') =>
        let r := r.stamp (m.clock.readings 0) (m.clock.readings 1)
        let m' := { m' with clock := m.clock.skip 2, status := m'.status.record (statusKey job target) r }
        ((r, none), if r.ingested > 0 then { m' with sent := m'.sent.push (Notify.fromReport r) } else m')
      | ((.error f, r), m') =>
        let r := { r.stamp (m.clock.readings 0) (m.clock.readings 1) with error := f.message }
        let m' := { m' with clock := m.clock.skip 2, status := m'.status.record (statusKey job target) r }
        ((r, some f), { m' with sent := m'.sent.push (Notify.fromReport r) }) := by
  unfold run
  have hget : (get : Run Machine).run m = (m, m) := rfl
  rw [Run.run_bind, hget]
  dsimp only
  rw [Run.run_bind]
  have hx : ((body.run).run { job, target }).run m = body.exec { job, target } m := rfl
  rw [hx]
  rcases body.exec { job, target } m with ⟨⟨_ | ⟨⟩, r⟩, m'⟩
  · rfl
  · -- a successful run is announced exactly when it stored something
    by_cases hr : r.ingested > 0
    · simp only [Report.stamp_ingested, hr, decide_true, Option.isSome_none, Bool.false_or, if_true]
      rfl
    · simp only [Report.stamp_ingested, hr, decide_false, Option.isSome_none, Bool.false_or,
        Bool.false_eq_true, if_false]
      rfl

theorem run_of_exec_ok {job target : String} {body : Job Unit}
    (h : body.exec { job, target } m = ((.ok (), r), m')) :
    ((run job target body).run m).1 = (r.stamp (m.clock.readings 0) (m.clock.readings 1), none) ∧
      ((run job target body).run m).2.files = m'.files ∧ ((run job target body).run m).2.store = m'.store := by
  rw [run_eq, h]
  refine ⟨rfl, ?_, ?_⟩ <;> dsimp only <;> split <;> rfl

theorem run_of_exec_error {job target : String} {body : Job Unit} {f : Failure}
    (h : body.exec { job, target } m = ((.error f, r), m')) :
    ((run job target body).run m).1 =
        ({ r.stamp (m.clock.readings 0) (m.clock.readings 1) with error := f.message }, some f) ∧
      ((run job target body).run m).2.files = m'.files ∧ ((run job target body).run m).2.store = m'.store := by
  rw [run_eq, h]
  exact ⟨rfl, rfl, rfl⟩

end RaceArchive.Sync
