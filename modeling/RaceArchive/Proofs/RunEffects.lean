import Mathlib
import RaceArchive.Proofs.Resync

/-!
# What each successful run does to the cache and the store

The rows of a cached subsession are its payload read from the cache and flattened
(`Sync.cachedRows`). Each kind of run that succeeds is taken apart into what it leaves:

* a driver or season run (`run_discovered_rows`) keeps every cached subsession and both
  snapshots, and stores the rows of some cached payloads, in order;
* an update (`update_rows`) leaves the files and does the same;
* a track or car refresh (`syncTracks_ok`, `syncCars_ok`) writes the fetched snapshot and
  replaces the tables it lists, leaving every other table.

Storing in bulk succeeds exactly when storing the cached rows one after another does
(`bulkIngest_ok`), which is what a rebuild relies on.
-/

namespace RaceArchive

/-! ## Reading a list without a failure -/

section MapM

variable {α β ε : Type} {f : α → Except ε β}

/-- A list maps into `Except` without a failure exactly when each item gives its result. -/
theorem mapM_ok_iff : ∀ {as : List α} {bs : List β},
    as.mapM f = .ok bs ↔ List.Forall₂ (fun a b => f a = .ok b) as bs
  | [], bs => by
    rw [List.mapM_nil, List.forall₂_nil_left_iff]
    exact ⟨fun h => by cases h; rfl, fun h => h ▸ rfl⟩
  | a :: as, bs => by
    rw [List.mapM_cons, List.forall₂_cons_left_iff]
    constructor
    · intro h
      obtain ⟨b, hb, h⟩ := Except.bind_eq_ok.mp h
      obtain ⟨bs', hbs, h⟩ := Except.bind_eq_ok.mp h
      cases h
      exact ⟨b, bs', hb, mapM_ok_iff.mp hbs, rfl⟩
    · rintro ⟨b, bs', hb, hbs, rfl⟩
      rw [hb, mapM_ok_iff.mpr hbs]
      rfl

variable {as : List α} {bs : List β}

theorem mapM_cons_ok {a : α} {b : β} (h : f a = .ok b) (hs : as.mapM f = .ok bs) :
    (a :: as).mapM f = .ok (b :: bs) :=
  mapM_ok_iff.mpr (.cons h (mapM_ok_iff.mp hs))

theorem mapM_cons_inv {a : α} (h : (a :: as).mapM f = .ok bs) :
    ∃ b bs', bs = b :: bs' ∧ f a = .ok b ∧ as.mapM f = .ok bs' := by
  obtain ⟨b, bs', hb, hbs, rfl⟩ := List.forall₂_cons_left_iff.mp (mapM_ok_iff.mp h)
  exact ⟨b, bs', rfl, hb, mapM_ok_iff.mpr hbs⟩

theorem exists_result_of_mapM (h : as.mapM f = .ok bs) {a : α} (ha : a ∈ as) : ∃ b ∈ bs, f a = .ok b := by
  replace h := mapM_ok_iff.mp h
  induction h with
  | nil => cases ha
  | cons hab _ ih =>
    rcases List.mem_cons.mp ha with rfl | ha
    · exact ⟨_, List.mem_cons_self, hab⟩
    · obtain ⟨b, hb, hfb⟩ := ih ha
      exact ⟨b, List.mem_cons_of_mem _ hb, hfb⟩

theorem exists_item_of_mapM (h : as.mapM f = .ok bs) {b : β} (hb : b ∈ bs) : ∃ a ∈ as, f a = .ok b := by
  replace h := mapM_ok_iff.mp h
  induction h with
  | nil => cases hb
  | cons hab _ ih =>
    rcases List.mem_cons.mp hb with rfl | hb
    · exact ⟨_, List.mem_cons_self, hab⟩
    · obtain ⟨a, ha, hfa⟩ := ih hb
      exact ⟨a, List.mem_cons_of_mem _ ha, hfa⟩

theorem mapM_perm {as' : List α} (hp : as.Perm as') (h : as.mapM f = .ok bs) :
    ∃ bs', as'.mapM f = .ok bs' ∧ bs.Perm bs' := by
  obtain ⟨bs', h', hp'⟩ := List.perm_comp_forall₂ hp.symm (mapM_ok_iff.mp h)
  exact ⟨bs', mapM_ok_iff.mpr h', hp'.symm⟩

/-- Items that give results with distinct keys are distinct. -/
theorem nodup_of_mapM {γ : Type} {key : β → γ} (h : as.mapM f = .ok bs) (hn : (bs.map key).Nodup) :
    as.Nodup := by
  induction mapM_ok_iff.mp h with
  | nil => exact .nil
  | @cons a b as bs hab hrest ih =>
    rw [List.map_cons, List.nodup_cons] at hn
    refine List.nodup_cons.mpr ⟨fun ha => hn.1 ?_, ih (mapM_ok_iff.mpr hrest) hn.2⟩
    -- a second `a` would give `b` a second time
    obtain ⟨b', hb', hfb'⟩ := exists_result_of_mapM (mapM_ok_iff.mpr hrest) ha
    rw [hab] at hfb'
    cases hfb'
    exact List.mem_map_of_mem hb'

end MapM

end RaceArchive

namespace RaceArchive.Store.Ingester

variable {b b' : Ingester} {rows : Results.Rows}

theorem insert_ok {w : Store} (h : b.working.insert rows = .ok w) :
    ∃ b', b.insert rows = .ok b' ∧ b'.working = w ∧ b'.total = b.total + 1 := by
  unfold Ingester.insert
  rw [h]
  dsimp only [bind, Except.bind]
  split
  · exact ⟨_, rfl, rfl, rfl⟩
  · exact ⟨_, rfl, rfl, rfl⟩

theorem insert_ok_inv (h : b.insert rows = .ok b') :
    b.working.insert rows = .ok b'.working ∧ b'.total = b.total + 1 := by
  unfold Ingester.insert at h
  cases hw : b.working.insert rows with
  | error f => rw [hw] at h; cases h
  | ok w =>
    rw [hw] at h
    dsimp only [bind, Except.bind] at h
    split at h <;> (cases h; exact ⟨rfl, rfl⟩)

end RaceArchive.Store.Ingester

namespace RaceArchive.Sync

open Store Results

/-- The rows of a cached subsession: its payload read from the cache and flattened. -/
def cachedRows (files : Files.Tree) (id : Int64) : Except Failure Rows := Cache.read files id >>= flatten

theorem mapM_cachedRows {files : Files.Tree} {ids : List Int64} {raws : List ByteArray} {rs : List Rows}
    (hread : List.Forall₂ (fun id raw => Cache.read files id = .ok raw) ids raws)
    (hflat : List.Forall₂ (fun raw rows => flatten raw = .ok rows) raws rs) :
    ids.mapM (cachedRows files) = .ok rs := by
  induction hread generalizing rs with
  | nil => cases hflat; rfl
  | cons hraw _ ih =>
    cases hflat with
    | cons hrows hrest => exact mapM_cons_ok (by rw [cachedRows, hraw]; exact hrows) (ih hrest)

/-- The three archives read back as the rows that store the three races. -/
theorem cachedRows_threeArchives {files : Files.Tree} (hfiles : files = threeArchives) :
    ∃ rs, [7, 8, 9].mapM (cachedRows files) = .ok rs ∧ ({} : Store).insertAll rs = .ok Store.threeRaces := by
  obtain ⟨rs, hflat, hall⟩ := Store.ingestEach_ok Store.ingestEach_threeRaces.1
  subst hfiles
  exact ⟨rs, mapM_cachedRows read_threeArchives hflat, hall⟩

theorem ingestWith_ok {σ : Type} {store : Rows → Except Failure σ} {raw : ByteArray} {rows : Rows}
    {s : σ} : ingestWith store raw = .ok (rows, s) ↔ flatten raw = .ok rows ∧ store rows = .ok s := by
  unfold ingestWith
  rw [Except.bind_eq_ok]
  constructor
  · rintro ⟨rows', hf, h⟩
    cases hs : store rows' with
    | error f => rw [hs] at h; exact (nomatch h)
    | ok s' => rw [hs] at h; cases h; exact ⟨hf, hs⟩
  · rintro ⟨hf, hs⟩
    exact ⟨rows, hf, by rw [hs]; rfl⟩

theorem read_ingestWith_ok {σ : Type} {store : Rows → Except Failure σ} {files : Files.Tree}
    {id : Int64} {rows : Rows} {s : σ} :
    (Cache.read files id >>= ingestWith store) = .ok (rows, s) ↔
      cachedRows files id = .ok rows ∧ store rows = .ok s := by
  unfold cachedRows
  cases Cache.read files id with
  | error e => exact ⟨fun h => (nomatch h), fun h => (nomatch h.1)⟩
  | ok raw => exact ingestWith_ok

theorem cachedRows_ok {files : Files.Tree} {id : Int64} {raw : ByteArray} {rows : Rows}
    (hraw : Cache.read files id = .ok raw) (hflat : flatten raw = .ok rows) :
    cachedRows files id = .ok rows := by
  rw [cachedRows, hraw]; exact hflat

variable {r r' : Report} {m m' : Machine}

/-- Storing cached subsessions one by one leaves the files and stores the rows of each payload
read, in order. -/
theorem ingestAll_rows {ids : List Int64} : ∀ {r r' : Report} {m m' : Machine},
    (ingestAll ids).exec r m = ((.ok (), r'), m') →
    m'.files = m.files ∧
      ∃ rs, ids.mapM (cachedRows m.files) = .ok rs ∧ m.store.insertAll rs = .ok m'.store := by
  induction ids with
  | nil =>
    intro r r' m m' h
    rw [ingestAll_nil, Job.exec_pure] at h
    cases h
    exact ⟨rfl, [], rfl, rfl⟩
  | cons id rest ih =>
    intro r r' m m' h
    rw [ingestAll_cons, Job.exec_bind] at h
    split at h
    · next r₁ m₁ h₁ =>
      obtain ⟨-, hm₁, raw, rows, hraw, hflat, hins⟩ := ingestCached_ok h₁
      obtain ⟨hfiles, rs, hmap, hall⟩ := ih h
      have hf₁ : m₁.files = m.files := by rw [hm₁]
      rw [hf₁] at hfiles hmap
      refine ⟨hfiles, rows :: rs, mapM_cons_ok (cachedRows_ok hraw hflat) hmap, ?_⟩
      rw [Store.insertAll_cons, hins]
      exact hall
    · cases h

/-- The snapshots of `t'` read as those of `t`. -/
def SnapshotsKept (t t' : Files.Tree) : Prop :=
  ∀ name, name = Cache.tracksSnapshot ∨ name = Cache.carsSnapshot →
    Cache.readReference t' name = Cache.readReference t name

theorem SnapshotsKept.refl (t : Files.Tree) : SnapshotsKept t t := fun _ _ => rfl

theorem SnapshotsKept.trans {t t' t'' : Files.Tree} (h₁ : SnapshotsKept t t') (h₂ : SnapshotsKept t' t'') :
    SnapshotsKept t t'' := fun name hname => (h₂ name hname).trans (h₁ name hname)

/-- One fetch keeps every cached subsession and both snapshots, and leaves the store. -/
theorem fetchOne_keeps {id : Int64} (h : (fetchOne id).exec r m = ((.ok (), r'), m')) :
    Cache.Keeps m.files m'.files ∧ SnapshotsKept m.files m'.files ∧ m'.store = m.store := by
  rw [exec_fetchOne, getOrFetch_run] at h
  dsimp only at h
  split at h
  · cases h
    have hstore : (if Cache.has m.files id then m else
        { m with wire := ((Remote.subsessionResult id).run m.wire).2 }).store = m.store := by split <;> rfl
    dsimp only
    rw [hstore]
    rcases Cache.get_cases m.files id none ((Remote.subsessionResult id).run m.wire).1 with
      hsame | ⟨data, -, hid, hput⟩
    · rw [hsame]
      exact ⟨Cache.Keeps.refl _, SnapshotsKept.refl _, rfl⟩
    · -- an uncached subsession is written at its own path
      rw [hput]
      exact ⟨Cache.keeps_put_archive hid _,
        fun name hname => Cache.readReference_put (Cache.archive_not_prefix_snapshot hname id), rfl⟩
  · cases h

/-- Fetching keeps every cached subsession and both snapshots, and leaves the store. -/
theorem fetchAll_keeps {ids : List Int64} : ∀ {r r' : Report} {m m' : Machine},
    (fetchAll ids).exec r m = ((.ok (), r'), m') →
    Cache.Keeps m.files m'.files ∧ SnapshotsKept m.files m'.files ∧ m'.store = m.store := by
  induction ids with
  | nil =>
    intro r r' m m' h
    rw [fetchAll_nil, Job.exec_pure] at h
    cases h
    exact ⟨Cache.Keeps.refl _, SnapshotsKept.refl _, rfl⟩
  | cons id rest ih =>
    intro r r' m m' h
    rw [fetchAll_cons, Job.exec_bind] at h
    split at h
    · next r₁ m₁ h₁ =>
      obtain ⟨hk₁, hs₁, hst₁⟩ := fetchOne_keeps h₁
      obtain ⟨hk, hs, hst⟩ := ih h
      exact ⟨hk₁.trans hk, hs₁.trans hs, hst.trans hst₁⟩
    · cases h

/-- A successful fetch-and-store keeps every cached subsession and both snapshots, and stores the
rows of the cached payloads of some subsessions, in order. -/
theorem fetchAndIngest_rows {found : Discovery.Found}
    (h : (fetchAndIngest found).exec r m = ((.ok (), r'), m')) :
    Cache.Keeps m.files m'.files ∧ SnapshotsKept m.files m'.files ∧
      ∃ (ids : List Int64) (rs : List Rows), ids.mapM (cachedRows m'.files) = .ok rs ∧
        m.store.insertAll rs = .ok m'.store := by
  rw [fetchAndIngest_eq] at h
  simp only [Job.exec_bind, Job.exec_note, Job.exec_getMachine] at h
  split at h
  · next r₁ m₁ h₁ =>
    obtain ⟨hk, hs, hst⟩ := fetchAll_keeps h₁
    obtain ⟨hfiles, rs, hmap, hall⟩ := ingestAll_rows h
    rw [hst] at hall
    rw [hfiles]
    exact ⟨hk, hs, _, rs, hmap, hall⟩
  · cases h

/-! ## Storing in bulk -/

/-- One step of storing in bulk: stop when the context is cancelled, keeping the committed
checkpoints; otherwise read the cached payload and store it through the ingester, and on a
failure keep the committed checkpoints, count them, and stop. -/
def bulkStep (ctx : Context) (files : Files.Tree) (id : Int64) (b : Ingester) :
    Job (ForInStep Ingester) := do
  if ctx.cancelled b.total then
    Job.change ({ · with store := b.abort })
    throw cancellation
  match Cache.read files id >>= b.ingest with
  | .ok (_, next) => pure (.yield next)
  | .error f => do
    Job.change ({ · with store := b.abort })
    Job.note fun r => { r with ingested := b.committedCount }
    throw f
    pure (.yield b)

theorem bulkIngest_eq (plan : Plan) (ctx : Context) (ids : List Int64) : bulkIngest plan ctx ids = (do
    let m ← getThe Machine
    let b ← forIn ids (Ingester.start m.store plan.checkpoint) (bulkStep ctx m.files)
    Job.change ({ · with store := b.close })
    Job.note fun r => { r with ingested := b.total }) := rfl

variable {ctx : Context} {files : Files.Tree} {id : Int64} {b : Ingester}

theorem exec_bulkStep_cancelled (hc : ctx.cancelled b.total) (r : Report) (m : Machine) :
    (bulkStep ctx files id b).exec r m = ((.error cancellation, r), { m with store := b.abort }) := by
  simp only [bulkStep, hc, if_true, Job.exec_bind, Job.exec_change]
  rfl

theorem exec_bulkStep_ok {b' : Ingester} {rows : Rows} (hc : ctx.cancelled b.total = false)
    (h : Cache.read files id >>= b.ingest = .ok (rows, b')) (r : Report) (m : Machine) :
    (bulkStep ctx files id b).exec r m = ((.ok (.yield b'), r), m) := by
  simp only [bulkStep, hc, Bool.false_eq_true, if_false, h]
  rfl

theorem exec_bulkStep_error {f : Failure} (h : Cache.read files id >>= b.ingest = .error f)
    (r : Report) (m : Machine) :
    ∃ f' r' m', (bulkStep ctx files id b).exec r m = ((.error f', r'), m') := by
  by_cases hc : ctx.cancelled b.total
  · exact ⟨_, _, _, exec_bulkStep_cancelled hc r m⟩
  · simp only [bulkStep, hc, Bool.false_eq_true, if_false, h]
    exact ⟨_, _, _, rfl⟩

/-- The bulk loop over cached subsessions whose rows can all be stored in order, under a context
that each check finds live, runs through, leaving the report and the machine, with the
ingester's working store holding them all. -/
theorem bulkLoop_of_rows : ∀ {ids : List Int64} {rs : List Rows} {b : Ingester} {w : Store},
    (∀ k < ids.length, ctx.cancelled (b.total + k) = false) →
    ids.mapM (cachedRows files) = .ok rs → b.working.insertAll rs = .ok w →
    ∃ b', (forIn ids b (bulkStep ctx files)).exec r m = ((.ok b', r), m) ∧ b'.working = w ∧
      b'.total = b.total + ids.length
  | [], rs, b, w, _, hmap, hall => by
    cases List.forall₂_nil_left_iff.mp (mapM_ok_iff.mp hmap)
    cases hall
    exact ⟨b, rfl, rfl, rfl⟩
  | id :: ids, rs, b, w, hlive, hmap, hall => by
    obtain ⟨rows, rest, rfl, hrows, hrest⟩ := mapM_cons_inv hmap
    rw [Store.insertAll_cons] at hall
    obtain ⟨w₁, hw₁, hall⟩ := Except.bind_eq_ok.mp hall
    obtain ⟨b₁, hb₁, hwork, htotal⟩ := Ingester.insert_ok hw₁
    have hstep : Cache.read files id >>= b.ingest = .ok (rows, b₁) :=
      read_ingestWith_ok.mpr ⟨hrows, hb₁⟩
    have hnow : ctx.cancelled b.total = false := by simpa using hlive 0 (by simp)
    -- the later checks are those of the rest, one subsession further on
    have hlater : ∀ k < ids.length, ctx.cancelled (b₁.total + k) = false := fun k hk => by
      rw [htotal, Nat.add_assoc, Nat.add_comm 1 k]
      exact hlive (k + 1) (by simp [hk])
    rw [← hwork] at hall
    obtain ⟨b', hloop, hwork', htotal'⟩ := bulkLoop_of_rows hlater hrest hall
    refine ⟨b', ?_, hwork', by rw [htotal', htotal, List.length_cons]; omega⟩
    rw [List.forIn_cons, Job.exec_bind, exec_bulkStep_ok hnow hstep]
    exact hloop

/-- A bulk loop that runs through found the context live at each check, leaves the report and
the machine, and its working store holds the rows of every cached payload it read, stored in
order. -/
theorem rows_of_bulkLoop : ∀ {ids : List Int64} {b b' : Ingester} {r r' : Report} {m m' : Machine},
    (forIn ids b (bulkStep ctx files)).exec r m = ((.ok b', r'), m') →
    (∀ k < ids.length, ctx.cancelled (b.total + k) = false) ∧
    r' = r ∧ m' = m ∧ b'.total = b.total + ids.length ∧
      ∃ rs, ids.mapM (cachedRows files) = .ok rs ∧ b.working.insertAll rs = .ok b'.working
  | [], b, b', r, r', m, m', h => by
    rw [List.forIn_nil, Job.exec_pure] at h
    cases h
    exact ⟨fun k hk => absurd hk (Nat.not_lt_zero k), rfl, rfl, rfl, [], rfl, rfl⟩
  | id :: ids, b, b', r, r', m, m', h => by
    rw [List.forIn_cons, Job.exec_bind] at h
    cases hstep : Cache.read files id >>= b.ingest with
    | error f =>
      -- a failed step stops the loop
      obtain ⟨f', r₁, m₁, hexec⟩ := @exec_bulkStep_error ctx files id b _ hstep r m
      rw [hexec] at h
      cases h
    | ok got =>
      obtain ⟨rows, b₁⟩ := got
      by_cases hc : ctx.cancelled b.total
      · rw [exec_bulkStep_cancelled hc] at h
        cases h
      rw [Bool.not_eq_true] at hc
      rw [exec_bulkStep_ok hc hstep] at h
      obtain ⟨hrows, hb₁⟩ := read_ingestWith_ok.mp hstep
      obtain ⟨hw₁, htotal⟩ := Ingester.insert_ok_inv hb₁
      obtain ⟨hlive, rfl, rfl, htotal', rs, hrest, hall⟩ := rows_of_bulkLoop h
      refine ⟨fun k hk => ?_, rfl, rfl, by rw [htotal', htotal, List.length_cons]; omega, rows :: rs,
        mapM_cons_ok hrows hrest, ?_⟩
      · -- the first check is this step's, the others the rest's
        cases k with
        | zero => simpa using hc
        | succ k =>
          have := hlive k (by simpa using hk)
          rwa [htotal, Nat.add_assoc, Nat.add_comm 1 k] at this
      · rw [Store.insertAll_cons, hw₁]
        exact hall

/-- **Storing in bulk succeeds exactly when the context is live at every check and storing the
cached rows in order does**, and then the store is what storing them one after another leaves,
and every subsession asked for is counted. -/
theorem bulkIngest_ok {plan : Plan} {ids : List Int64} :
    (bulkIngest plan ctx ids).exec r m = ((.ok (), r'), m') ↔
      (∀ k < ids.length, ctx.cancelled k = false) ∧
      ∃ rs w, ids.mapM (cachedRows m.files) = .ok rs ∧ m.store.insertAll rs = .ok w ∧
        r' = { r with ingested := ids.length } ∧ m' = { m with store := w } := by
  rw [bulkIngest_eq]
  simp only [Job.exec_bind, Job.exec_getMachine]
  constructor
  · intro h
    split at h
    · next b r₁ m₁ hloop =>
      obtain ⟨hlive, rfl, rfl, htotal, rs, hmap, hall⟩ := rows_of_bulkLoop hloop
      simp only [Job.exec_change, Job.exec_note] at h
      cases h
      refine ⟨fun k hk => by simpa [Ingester.start] using hlive k hk, rs, b.working, hmap, hall, ?_, rfl⟩
      simp [htotal, Ingester.start]
    · cases h
  · rintro ⟨hlive, rs, w, hmap, hall, rfl, rfl⟩
    obtain ⟨b', hloop, hwork, htotal⟩ := bulkLoop_of_rows (b := Ingester.start m.store plan.checkpoint)
      (r := r) (m := m) (by simpa [Ingester.start] using hlive) hmap hall
    rw [hloop]
    simp only [Job.exec_change, Job.exec_note, Ingester.close, hwork, htotal]
    simp [Ingester.start]

/-! ## Runs that succeed -/

namespace Job

variable {α : Type} (r : Report) (m : Machine)

theorem exec_tryCatch (j : Job α) (handler : Failure → Job α) :
    (tryCatch j handler).exec r m = match j.exec r m with
      | ((.ok a, r'), m') => ((.ok a, r'), m')
      | ((.error f, r'), m') => (handler f).exec r' m' := by
  unfold Job.exec
  show (((ExceptT.tryCatch j handler).run).run r).run m = _
  simp only [ExceptT.tryCatch, ExceptT.run, ExceptT.mk, StateT.run, bind, StateT.bind]
  rcases j r m with ⟨⟨_ | _, _⟩, _⟩ <;> rfl
end Job

theorem run_ok {job target : String} {body : Job Unit} {m₁ : Machine}
    (h : (run job target body).run m = ((r, none), m₁)) :
    ∃ r' m', body.exec { job, target } m = ((.ok (), r'), m') ∧
      r = r'.stamp (m.clock.readings 0) (m.clock.readings 1) ∧ m₁.files = m'.files ∧ m₁.store = m'.store := by
  rw [run_eq] at h
  rcases hb : body.exec { job, target } m with ⟨⟨_ | ⟨⟩, r₁⟩, m'⟩ <;> rw [hb] at h
  · cases h
  · simp only at h
    obtain ⟨⟨rfl, -⟩, rfl⟩ := h
    refine ⟨r₁, m', rfl, rfl, ?_, ?_⟩ <;> split <;> rfl

theorem exec_reloadSnapshot_missing {name : String} {load : ByteArray → Job Nat} {f : Failure}
    (h : Cache.readReference m.files name = .error f) (hf : f.isOf .fileMissing) :
    (reloadSnapshot name load).exec r m = ((.ok (), r), m) := by
  simp only [reloadSnapshot, Job.exec_bind, Job.exec_getMachine, h, hf, if_true, Job.exec_pure]

theorem exec_reloadSnapshot_ok {name : String} {load : ByteArray → Job Nat} {raw : ByteArray} {n : Nat}
    (h : Cache.readReference m.files name = .ok raw) (hload : (load raw).exec r m = ((.ok n, r'), m')) :
    (reloadSnapshot name load).exec r m = ((.ok (), r'), m') := by
  simp only [reloadSnapshot, Job.exec_bind, Job.exec_getMachine, h, Job.exec_tryCatch, hload,
    Job.exec_pure]

theorem exec_loadTracks {raw : ByteArray} {entries : Array Catalog.TrackEntry} {s : Store}
    (hread : Catalog.readTracks raw = .ok entries) (hrep : m.store.replaceTracks entries.toList = .ok s) :
    (loadTracks raw).exec r m = ((.ok entries.size, r), { m with store := s }) := by
  simp only [loadTracks, Job.exec_bind, Job.exec_of, hread, Job.exec_getMachine, hrep, Job.exec_change,
    Job.exec_pure]

theorem exec_loadCars {raw : ByteArray} {cars : Option (Array Catalog.Car)} {s : Store}
    (hread : Catalog.readCars raw = .ok cars) (hrep : m.store.replaceCars (cars.getD #[]).toList = .ok s) :
    (loadCars raw).exec r m = ((.ok (cars.getD #[]).toList.length, r), { m with store := s }) := by
  simp only [loadCars, Job.exec_bind, Job.exec_of, hread, Job.exec_getMachine, hrep, Job.exec_change,
    Job.exec_pure]

theorem keepSnapshot_ok {name : String} {raw : ByteArray}
    (h : (keepSnapshot name raw).exec r m = ((.ok (), r'), m')) :
    r' = r ∧ ∃ files, Cache.writeReference m.files name raw = (.ok (), files) ∧ m' = { m with files } := by
  simp only [keepSnapshot, Job.exec_bind, Job.exec_getMachine, Job.exec_change, Job.exec_of] at h
  rcases hw : Cache.writeReference m.files name raw with ⟨_ | ⟨⟩, files⟩ <;> rw [hw] at h
  · cases h
  · cases h
    exact ⟨rfl, files, rfl, rfl⟩

theorem loadTracks_ok {raw : ByteArray} {n : Nat} (h : (loadTracks raw).exec r m = ((.ok n, r'), m')) :
    r' = r ∧ ∃ entries s, Catalog.readTracks raw = .ok entries ∧
      m.store.replaceTracks entries.toList = .ok s ∧ m' = { m with store := s } := by
  cases hread : Catalog.readTracks raw with
  | error f => simp [loadTracks, hread, Job.exec_bind] at h
  | ok entries =>
    cases hrep : m.store.replaceTracks entries.toList with
    | error f =>
      simp only [loadTracks, Job.exec_bind, Job.exec_of, hread, Job.exec_getMachine, hrep] at h
      cases h
    | ok s =>
      rw [exec_loadTracks hread hrep] at h
      cases h
      exact ⟨rfl, entries, s, rfl, hrep, rfl⟩

theorem loadCars_ok {raw : ByteArray} {n : Nat} (h : (loadCars raw).exec r m = ((.ok n, r'), m')) :
    r' = r ∧ ∃ cars s, Catalog.readCars raw = .ok cars ∧
      m.store.replaceCars (cars.getD #[]).toList = .ok s ∧ m' = { m with store := s } := by
  cases hread : Catalog.readCars raw with
  | error f => simp [loadCars, hread, Job.exec_bind] at h
  | ok cars =>
    cases hrep : m.store.replaceCars (cars.getD #[]).toList with
    | error f =>
      simp only [loadCars, Job.exec_bind, Job.exec_of, hread, Job.exec_getMachine, hrep] at h
      cases h
    | ok s =>
      rw [exec_loadCars hread hrep] at h
      cases h
      exact ⟨rfl, cars, s, rfl, hrep, rfl⟩

/-- The body shared by the track and car refreshes: fetch a snapshot, keep it, load it. -/
def refresh (online : Bool) (fetch : Remote.Link (Except Failure ByteArray)) (name : String)
    (load : ByteArray → Job Nat) : Job Unit := do
  if !online then throw noRemote
  let raw ← Job.remote fetch
  Job.note fun r => { r with fetched := 1 }
  keepSnapshot name raw
  let n ← load raw
  Job.note fun r => { r with ingested := n }

theorem syncTracks_eq (plan : Plan) :
    syncTracks plan = run "tracks" "" (refresh plan.online Remote.tracks Cache.tracksSnapshot loadTracks) := rfl

theorem syncCars_eq (plan : Plan) :
    syncCars plan = run "cars" "" (refresh plan.online Remote.cars Cache.carsSnapshot loadCars) := rfl

/-- A refresh that succeeds kept the fetched snapshot and loaded it into the machine it left. -/
theorem refresh_ok {online : Bool} {fetch : Remote.Link (Except Failure ByteArray)} {name : String}
    {load : ByteArray → Job Nat} (h : (refresh online fetch name load).exec r m = ((.ok (), r'), m')) :
    ∃ raw files n r₁ r₂, Cache.writeReference m.files name raw = (.ok (), files) ∧
      (load raw).exec r₁ { m with files, wire := (fetch.run m.wire).2 } = ((.ok n, r₂), m') := by
  cases online
  · simp [refresh] at h
  · simp only [refresh, Bool.not_true, Bool.false_eq_true, if_false, Job.exec_bind, Job.exec_remote,
      Job.exec_note] at h
    cases hfetch : (fetch.run m.wire).1 with
    | error f => rw [hfetch] at h; cases h
    | ok raw =>
      rw [hfetch] at h
      dsimp only at h
      split at h
      · next r₁ m₁ hkeep =>
        obtain ⟨rfl, files, hwrite, rfl⟩ := keepSnapshot_ok hkeep
        split at h
        · next n r₂ m₂ hload =>
          cases h
          exact ⟨raw, files, n, _, _, hwrite, hload⟩
        · cases h
      · cases h

theorem exec_refresh_ok {fetch : Remote.Link (Except Failure ByteArray)} {name : String}
    {load : ByteArray → Job Nat} {raw : ByteArray} {w : Remote.Wire} {files : Files.Tree} {n : Nat}
    {r₁ : Report} {m₁ : Machine} (hfetch : fetch.run m.wire = (.ok raw, w))
    (hwrite : Cache.writeReference m.files name raw = (.ok (), files))
    (hload : (load raw).exec { r with fetched := 1 } { m with wire := w, files } = ((.ok n, r₁), m₁)) :
    (refresh true fetch name load).exec r m = ((.ok (), { r₁ with ingested := n }), m₁) := by
  simp only [refresh, Bool.not_true, Bool.false_eq_true, if_false, Job.exec_bind, Job.exec_pure,
    Job.exec_remote, hfetch, Job.exec_note, keepSnapshot, Job.exec_getMachine, hwrite, Job.exec_change,
    Job.exec_of, hload]

/-- A successful run of a discovery and a fetch-and-store keeps every cached subsession and both
snapshots, and stores the rows of the cached payloads of some subsessions, in order. -/
theorem run_discovered_rows {d : Job Discovery.Found} {job target : String} {m₁ : Machine}
    (hd : Finds d) (h : (run job target (d >>= fetchAndIngest)).run m = ((r, none), m₁)) :
    Cache.Keeps m.files m₁.files ∧ SnapshotsKept m.files m₁.files ∧
      ∃ (ids : List Int64) (rs : List Rows), ids.mapM (cachedRows m₁.files) = .ok rs ∧
        m.store.insertAll rs = .ok m₁.store := by
  rcases hfind : d.exec { job, target } m with ⟨⟨_ | found, r₀⟩, m₀⟩
  · rw [run_eq, Job.exec_bind, hfind] at h
    cases h
  · obtain ⟨r', m', hfi, -, hfiles, hstore⟩ := run_found_ok hfind h
    -- the discovery only talks to the remote service
    have hm₀ := hd.machine { job, target } m
    rw [hfind] at hm₀
    have hf₀ : m₀.files = m.files := by simpa using congrArg Machine.files hm₀
    have hs₀ : m₀.store = m.store := by simpa using congrArg Machine.store hm₀
    obtain ⟨hk, hs, ids, rs, hmap, hall⟩ := fetchAndIngest_rows hfi
    rw [hf₀] at hk hs
    rw [hs₀] at hall
    rw [hfiles, hstore]
    exact ⟨hk, hs, ids, rs, hmap, hall⟩

theorem update_rows {plan : Plan} {ctx : Context} {m₁ : Machine}
    (h : (update plan ctx).run m = ((r, none), m₁)) :
    m₁.files = m.files ∧ ∃ (ids : List Int64) (rs : List Rows),
      ids.mapM (cachedRows m.files) = .ok rs ∧ m.store.insertAll rs = .ok m₁.store := by
  obtain ⟨r', m', hbody, -, hfiles, hstore⟩ := run_ok h
  simp only [Job.exec_bind, Job.exec_getMachine, Job.exec_note] at hbody
  obtain ⟨-, rs, w, hmap, hall, -, rfl⟩ := bulkIngest_ok.mp hbody
  exact ⟨hfiles, _, rs, hmap, by rw [hstore]; exact hall⟩

/-- A successful track refresh writes the fetched snapshot and replaces the track tables with the
ones it lists, leaving every other table. -/
theorem syncTracks_ok {plan : Plan} {m₁ : Machine} (h : (syncTracks plan).run m = ((r, none), m₁)) :
    ∃ raw entries t, Cache.writeReference m.files Cache.tracksSnapshot raw = (.ok (), m₁.files) ∧
      Catalog.readTracks raw = .ok entries ∧ ({} : Store).replaceTracks entries.toList = .ok t ∧
      m₁.store = { m.store with tracks := t.tracks, trackConfigs := t.trackConfigs } := by
  rw [syncTracks_eq] at h
  obtain ⟨r', m', hbody, -, hfiles, hstore⟩ := run_ok h
  obtain ⟨raw, files, n, r₁, r₂, hwrite, hload⟩ := refresh_ok hbody
  obtain ⟨-, entries, s, hread, hrep, rfl⟩ := loadTracks_ok hload
  rw [Store.replaceTracks_eq] at hrep
  cases ht : ({} : Store).replaceTracks entries.toList with
  | error f => rw [ht] at hrep; cases hrep
  | ok t =>
    rw [ht] at hrep
    cases hrep
    exact ⟨raw, entries, t, hfiles ▸ hwrite, hread, ht, hstore⟩

/-- A successful car refresh writes the fetched snapshot and replaces the car table with the one
it lists, leaving every other table. -/
theorem syncCars_ok {plan : Plan} {m₁ : Machine} (h : (syncCars plan).run m = ((r, none), m₁)) :
    ∃ raw cars c, Cache.writeReference m.files Cache.carsSnapshot raw = (.ok (), m₁.files) ∧
      Catalog.readCars raw = .ok cars ∧ ({} : Store).replaceCars (cars.getD #[]).toList = .ok c ∧
      m₁.store = { m.store with cars := c.cars } := by
  rw [syncCars_eq] at h
  obtain ⟨r', m', hbody, -, hfiles, hstore⟩ := run_ok h
  obtain ⟨raw, files, n, r₁, r₂, hwrite, hload⟩ := refresh_ok hbody
  obtain ⟨-, cars, s, hread, hrep, rfl⟩ := loadCars_ok hload
  rw [Store.replaceCars_eq] at hrep
  cases hc : ({} : Store).replaceCars (cars.getD #[]).toList with
  | error f => rw [hc] at hrep; cases hrep
  | ok c =>
    rw [hc] at hrep
    cases hrep
    exact ⟨raw, cars, c, hfiles ▸ hwrite, hread, hc, hstore⟩

end RaceArchive.Sync
