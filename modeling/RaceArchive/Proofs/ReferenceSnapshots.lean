import Mathlib
import RaceArchive.Proofs.Rebuild
import RaceArchive.Proofs.Retries

/-!
# The reference tables and their snapshots

A track or car refresh fetches a snapshot, keeps it in the cache, and only then loads it into
the store. The store's reference tables agree with the cache (`SnapshotsAgree`) when each is the
one its cached snapshot lists; a rebuild then reloads exactly them (`SnapshotsAgree.reload`).

`refreshes_keep_snapshots`: every history of refreshes, each of which succeeds or fails without
writing to the cache, keeps the agreement. The condition is needed: a refresh that fails after
keeping its snapshot leaves the store's tables as they were and a snapshot in the cache that no
store agrees with (`SnapshotsAgree.refresh`), so a later rebuild cannot load it.
-/

namespace RaceArchive.Sync

open Store

variable {m m' : Machine} {r r' : Report} {f : Failure}

/-! ## What a failed refresh leaves -/

theorem run_error {job target : String} {body : Job Unit} {m₁ : Machine}
    (h : (run job target body).run m = ((r, some f), m₁)) :
    ∃ r' m', body.exec { job, target } m = ((.error f, r'), m') ∧ m₁.files = m'.files ∧
      m₁.store = m'.store := by
  rw [run_eq] at h
  rcases hb : body.exec { job, target } m with ⟨⟨f' | ⟨⟩, r₁⟩, m'⟩ <;> rw [hb] at h
  · obtain ⟨⟨-, rfl⟩, rfl⟩ := h
    exact ⟨r₁, m', rfl, rfl, rfl⟩
  · simp only at h
    split at h <;> cases h

theorem keepSnapshot_error {name : String} {raw : ByteArray}
    (h : (keepSnapshot name raw).exec r m = ((.error f, r'), m')) : m' = m := by
  simp only [keepSnapshot, Job.exec_bind, Job.exec_getMachine, Job.exec_change, Job.exec_of] at h
  rcases hw : Cache.writeReference m.files name raw with ⟨_ | ⟨⟩, files⟩ <;> rw [hw] at h
  · cases h
    -- a refused write leaves the files as they were
    have hsame := Cache.writeReference_error (show (Cache.writeReference m.files name raw).1 = .error _ by rw [hw])
    rw [hw] at hsame
    subst hsame
    rfl
  · cases h

/-- A failed refresh either failed before keeping its snapshot, touching only the wire, or kept
the snapshot and then failed to load it. -/
theorem refresh_error {online : Bool} {fetch : Remote.Link (Except Failure ByteArray)} {name : String}
    {load : ByteArray → Job Nat} (h : (refresh online fetch name load).exec r m = ((.error f, r'), m')) :
    (m'.files = m.files ∧ m'.store = m.store) ∨
      ∃ raw files r₁ r₂ f', Cache.writeReference m.files name raw = (.ok (), files) ∧
        (load raw).exec r₁ { m with files, wire := (fetch.run m.wire).2 } = ((.error f', r₂), m') := by
  cases online
  · -- offline: nothing was fetched
    simp only [refresh, Bool.not_false, if_true, Job.exec_bind, Job.exec_throw] at h
    cases h
    exact .inl ⟨rfl, rfl⟩
  · simp only [refresh, Bool.not_true, Bool.false_eq_true, if_false, Job.exec_bind, Job.exec_remote,
      Job.exec_note] at h
    cases hfetch : (fetch.run m.wire).1 with
    | error f₁ =>
      rw [hfetch] at h
      cases h
      exact .inl ⟨rfl, rfl⟩
    | ok raw =>
      rw [hfetch] at h
      dsimp only at h
      split at h
      · next r₁ m₁ hkeep =>
        obtain ⟨rfl, files, hwrite, rfl⟩ := keepSnapshot_ok hkeep
        split at h
        · cases h
        · next hload =>
          cases h
          exact .inr ⟨raw, files, _, _, _, hwrite, hload⟩
      · next f₁ r₁ m₁ hkeep =>
        cases h
        rw [keepSnapshot_error hkeep]
        exact .inl ⟨rfl, rfl⟩

/-- A track load that fails leaves the machine, and the snapshot lists no track tables. -/
theorem loadTracks_error {raw : ByteArray} (h : (loadTracks raw).exec r m = ((.error f, r'), m')) :
    m' = m ∧ ∀ entries, Catalog.readTracks raw = .ok entries →
      ∀ t, ({} : Store).replaceTracks entries.toList ≠ .ok t := by
  cases hread : Catalog.readTracks raw with
  | error f₁ =>
    simp only [loadTracks, Job.exec_bind, Job.exec_of, hread] at h
    cases h
    exact ⟨rfl, fun _ he => by cases he⟩
  | ok entries =>
    cases hrep : m.store.replaceTracks entries.toList with
    | error f₁ =>
      simp only [loadTracks, Job.exec_bind, Job.exec_of, hread, Job.exec_getMachine, hrep] at h
      cases h
      refine ⟨rfl, fun entries' he t ht => ?_⟩
      cases he
      -- the store's replacement fails exactly when the one from the empty store does
      rw [Store.replaceTracks_eq, ht] at hrep
      cases hrep
    | ok s =>
      rw [exec_loadTracks hread hrep] at h
      cases h

/-- A car load that fails leaves the machine, and the snapshot lists no car table. -/
theorem loadCars_error {raw : ByteArray} (h : (loadCars raw).exec r m = ((.error f, r'), m')) :
    m' = m ∧ ∀ cars, Catalog.readCars raw = .ok cars →
      ∀ c, ({} : Store).replaceCars (cars.getD #[]).toList ≠ .ok c := by
  cases hread : Catalog.readCars raw with
  | error f₁ =>
    simp only [loadCars, Job.exec_bind, Job.exec_of, hread] at h
    cases h
    exact ⟨rfl, fun _ he => by cases he⟩
  | ok cars =>
    cases hrep : m.store.replaceCars (cars.getD #[]).toList with
    | error f₁ =>
      simp only [loadCars, Job.exec_bind, Job.exec_of, hread, Job.exec_getMachine, hrep] at h
      cases h
      refine ⟨rfl, fun cars' he c hc => ?_⟩
      cases he
      rw [Store.replaceCars_eq, hc] at hrep
      cases hrep
    | ok s =>
      rw [exec_loadCars hread hrep] at h
      cases h

theorem not_tracksFrom {files : Files.Tree} {raw : ByteArray}
    (hraw : Cache.readReference files Cache.tracksSnapshot = .ok raw)
    (hbad : ∀ entries, Catalog.readTracks raw = .ok entries →
      ∀ t, ({} : Store).replaceTracks entries.toList ≠ .ok t) (db : Store) : ¬TracksFrom files db := by
  unfold TracksFrom
  rw [hraw]
  rintro ⟨entries, t, hread, ht, -⟩
  exact hbad entries hread t ht

theorem not_carsFrom {files : Files.Tree} {raw : ByteArray}
    (hraw : Cache.readReference files Cache.carsSnapshot = .ok raw)
    (hbad : ∀ cars, Catalog.readCars raw = .ok cars →
      ∀ c, ({} : Store).replaceCars (cars.getD #[]).toList ≠ .ok c) (db : Store) : ¬CarsFrom files db := by
  unfold CarsFrom
  rw [hraw]
  rintro ⟨cars, c, hread, hc, -⟩
  exact hbad cars hread c hc

/-- A failed refresh run leaves the store's tables. It leaves the cache's files too, unless it
kept a snapshot that its load refused. -/
theorem run_refresh_error {job : String} {online : Bool} {fetch : Remote.Link (Except Failure ByteArray)}
    {name : String} {load : ByteArray → Job Nat} {Refused : ByteArray → Prop}
    (hload : ∀ raw r₁ r₂ f' (m₁ m₂ : Machine), (load raw).exec r₁ m₁ = ((.error f', r₂), m₂) →
      m₂ = m₁ ∧ Refused raw)
    {m₁ : Machine} (h : (run job "" (refresh online fetch name load)).run m = ((r, some f), m₁)) :
    m₁.store = m.store ∧
      (m₁.files = m.files ∨ ∃ raw, Cache.readReference m₁.files name = .ok raw ∧ Refused raw) := by
  obtain ⟨r', m', hbody, hfiles, hstore⟩ := run_error h
  rw [hfiles, hstore]
  rcases refresh_error hbody with ⟨hf, hs⟩ | ⟨raw, files, r₁, r₂, f', hwrite, hfail⟩
  · exact ⟨hs, .inl hf⟩
  · obtain ⟨rfl, hbad⟩ := hload _ _ _ _ _ _ hfail
    exact ⟨rfl, .inr ⟨raw, Cache.readReference_writeReference hwrite, hbad⟩⟩

theorem syncTracks_error {plan : Plan} {m₁ : Machine} (h : (syncTracks plan).run m = ((r, some f), m₁)) :
    m₁.store = m.store ∧ (m₁.files = m.files ∨ ∀ db, ¬TracksFrom m₁.files db) := by
  rw [syncTracks_eq] at h
  obtain ⟨hs, hf⟩ := run_refresh_error (fun _ _ _ _ _ _ hfail => loadTracks_error hfail) h
  exact ⟨hs, hf.imp_right fun ⟨_, hraw, hbad⟩ => not_tracksFrom hraw hbad⟩

theorem syncCars_error {plan : Plan} {m₁ : Machine} (h : (syncCars plan).run m = ((r, some f), m₁)) :
    m₁.store = m.store ∧ (m₁.files = m.files ∨ ∀ db, ¬CarsFrom m₁.files db) := by
  rw [syncCars_eq] at h
  obtain ⟨hs, hf⟩ := run_refresh_error (fun _ _ _ _ _ _ hfail => loadCars_error hfail) h
  exact ⟨hs, hf.imp_right fun ⟨_, hraw, hbad⟩ => not_carsFrom hraw hbad⟩

/-! ## Agreement -/

/-- The store's reference tables are the ones the cached snapshots list. -/
structure SnapshotsAgree (m : Machine) : Prop where
  tracks : TracksFrom m.files m.store
  cars : CarsFrom m.files m.store

/-- One track or car refresh, with the failure it ended with, if any. -/
inductive Refresh : Machine → Option Failure → Machine → Prop
  | tracks {m m' : Machine} {r : Report} {e : Option Failure} (plan : Plan) :
      (syncTracks plan).run m = ((r, e), m') → Refresh m e m'
  | cars {m m' : Machine} {r : Report} {e : Option Failure} (plan : Plan) :
      (syncCars plan).run m = ((r, e), m') → Refresh m e m'

/-- A refresh that succeeds, or that fails and leaves the cache's files as they were. -/
def Refresh.Clean (m m' : Machine) : Prop :=
  ∃ e, Refresh m e m' ∧ (e = none ∨ m'.files = m.files)

theorem SnapshotsAgree.of_unchanged (h : SnapshotsAgree m) (hf : m'.files = m.files)
    (hs : m'.store = m.store) : SnapshotsAgree m' := by
  constructor <;> rw [hf, hs]
  · exact h.tracks
  · exact h.cars

/-- **A refresh keeps the agreement, or breaks the cache.** A track or car refresh from a
machine whose tables agree with the cache leaves one whose tables agree with the cache, unless it
failed: then it left the store's tables as they were, and the cache holds a snapshot that agrees
with no store. -/
theorem SnapshotsAgree.refresh (h : SnapshotsAgree m) {e : Option Failure} (hr : Refresh m e m') :
    SnapshotsAgree m' ∨ (∃ f, e = some f) ∧ m'.store = m.store ∧
      ((∀ db, ¬TracksFrom m'.files db) ∨ ∀ db, ¬CarsFrom m'.files db) := by
  cases hr with
  | tracks plan hrun =>
    cases e with
    | none =>
      obtain ⟨raw, entries, t, hwrite, hread, ht, hstore⟩ := syncTracks_ok hrun
      left
      constructor <;> rw [hstore]
      · exact tracksFrom_write hwrite hread ht
      · exact h.cars.writeTracks hwrite rfl
    | some f =>
      obtain ⟨hs, hf | hbad⟩ := syncTracks_error hrun
      · exact .inl (h.of_unchanged hf hs)
      · exact .inr ⟨⟨f, rfl⟩, hs, .inl hbad⟩
  | cars plan hrun =>
    cases e with
    | none =>
      obtain ⟨raw, cars, c, hwrite, hread, hc, hstore⟩ := syncCars_ok hrun
      left
      constructor <;> rw [hstore]
      · exact h.tracks.writeCars hwrite rfl rfl
      · exact carsFrom_write hwrite hread hc
    | some f =>
      obtain ⟨hs, hf | hbad⟩ := syncCars_error hrun
      · exact .inl (h.of_unchanged hf hs)
      · exact .inr ⟨⟨f, rfl⟩, hs, .inr hbad⟩

theorem SnapshotsAgree.clean (h : SnapshotsAgree m) (hc : Refresh.Clean m m') : SnapshotsAgree m' := by
  obtain ⟨e, hr, hkept⟩ := hc
  rcases h.refresh hr with hagree | ⟨⟨f, rfl⟩, hs, -⟩
  · exact hagree
  · -- a failed refresh that kept the files kept the store's tables too
    rcases hkept with hnone | hf
    · cases hnone
    · exact h.of_unchanged hf hs

/-- Reloading both snapshots into an emptied store, as a rebuild does first, restores exactly the
reference tables that agree with them. -/
theorem SnapshotsAgree.reload (h : SnapshotsAgree m) (r : Report) :
    (do reloadSnapshot Cache.tracksSnapshot loadTracks; reloadSnapshot Cache.carsSnapshot loadCars).exec r
        { m with store := {} } =
      ((.ok (), r), { m with store :=
        { tracks := m.store.tracks, trackConfigs := m.store.trackConfigs, cars := m.store.cars } }) := by
  rw [Job.exec_bind, exec_reloadTracks h.tracks]
  exact exec_reloadCars (s := { tracks := m.store.tracks, trackConfigs := m.store.trackConfigs }) h.cars rfl r

/-- **Refreshes that succeed, or fail without writing, keep the reference tables those of the
snapshots.** Take a machine whose reference tables agree with the cached snapshots, and any
history of track and car refreshes, each of which succeeds or fails before it keeps its snapshot.
The machine it leaves agrees with the cached snapshots, and reloading them into the emptied
store, as a rebuild does first, succeeds and restores exactly its reference tables. -/
theorem refreshes_keep_snapshots {m₀ m : Machine} (h₀ : SnapshotsAgree m₀)
    (hrun : Relation.ReflTransGen Refresh.Clean m₀ m) :
    SnapshotsAgree m ∧ ∀ r,
      (do reloadSnapshot Cache.tracksSnapshot loadTracks; reloadSnapshot Cache.carsSnapshot loadCars).exec r
          { m with store := {} } =
        ((.ok (), r), { m with store :=
          { tracks := m.store.tracks, trackConfigs := m.store.trackConfigs, cars := m.store.cars } }) := by
  -- the agreement is carried refresh by refresh
  have h : SnapshotsAgree m := by
    induction hrun with
    | refl => exact h₀
    | tail _ hc ih => exact ih.clean hc
  exact ⟨h, h.reload⟩

/-! ## A refresh that fetches and keeps a snapshot -/

/-- The answer at the car list's address: a link to the list. -/
def carsLink : ByteArray := "\x7b\"link\":\"/c\"\x7d".toUTF8

/-- A car list of one car. -/
def oneCarSnapshot : ByteArray := "[\x7b\"car_id\":1,\"car_name\":\"MX-5\"\x7d]".toUTF8

/-- A server that links the car list to `/c` and answers it with one car. -/
def oneCarWire : Remote.Wire :=
  { session := { settings := {} },
    server := { routes := #[{ url := "/data/car/get", replies := [{ body := carsLink }] },
      { url := "/c", replies := [{ body := oneCarSnapshot }] }] } }

/-- A new cache and an empty store, with a client of that server. -/
def oneCarMachine : Machine := { wire := oneCarWire }

/-- The car list is fetched through its link. -/
theorem cars_oneCarWire : ∃ w, Remote.cars.run oneCarWire = (.ok oneCarSnapshot, w) := by
  have hf₁ : (Remote.fetch "/data/car/get").run oneCarWire =
      (.ok (200, carsLink), ((Remote.fetch "/data/car/get").run oneCarWire).2) :=
    Prod.ext (Except.eq_ok_of_toOption (by decide +kernel)) rfl
  have hf₂ : (Remote.fetch "/c").run ((Remote.fetch "/data/car/get").run oneCarWire).2 =
      (.ok (200, oneCarSnapshot),
        ((Remote.fetch "/c").run ((Remote.fetch "/data/car/get").run oneCarWire).2).2) :=
    Prod.ext (Except.eq_ok_of_toOption (by decide +kernel)) rfl
  -- name the wires between the exchanges, so that no later step runs them again
  generalize ((Remote.fetch "/data/car/get").run oneCarWire).2 = w₁ at hf₁ hf₂
  generalize ((Remote.fetch "/c").run w₁).2 = w₂ at hf₂
  have hc₁ : Json.checkDocument carsLink = .ok true := by decide +kernel
  have hc₂ : Json.checkDocument oneCarSnapshot = .ok true := by decide +kernel
  have hlink : Json.decode (Json.Reader.record [Remote.textField "link" "Link" id fun _ v => v]) ""
      carsLink = .ok "/c" := by decide +kernel
  have h₁ := @Remote.getDocument_answered "/data/car/get" [] oneCarWire w₁ carsLink hf₁ hc₁
  have h₂ := @Remote.getDocument_answered "/c" [] w₁ w₂ oneCarSnapshot hf₂ hc₂
  have hind := @Remote.getIndirect_answered "/data/car/get" _ _ [] _ _ _ _ _ (by decide) h₁ hlink rfl h₂
  exact ⟨w₂, by rw [Remote.cars, Remote.Link.run_bind, hind]; rfl⟩

/-- A car refresh of the new cache fetches the one-car list, keeps it and loads its car. -/
theorem syncCars_oneCarMachine :
    ∃ r m, (syncCars { lastSeasonYear := 2024 }).run oneCarMachine = ((r, none), m) ∧
      Cache.readReference m.files Cache.carsSnapshot = .ok oneCarSnapshot ∧ m.store.cars.length = 1 := by
  obtain ⟨w, hfetch⟩ := cars_oneCarWire
  have hread : Catalog.readCars oneCarSnapshot =
      .ok (some #[{ carId := 1, carName := Utf8.octetsOf "MX-5" }]) :=
    Except.eq_ok_of_toOption (by decide +kernel)
  have hwrite := Cache.writeReference_layout (.inr rfl) oneCarSnapshot
  have hbody : (refresh ({ lastSeasonYear := 2024 } : Plan).online Remote.cars Cache.carsSnapshot
      loadCars).exec { job := "cars", target := "" } oneCarMachine = _ :=
    exec_refresh_ok (m := oneCarMachine) hfetch hwrite
      (exec_loadCars (s := { cars := [{ carId := 1, carName := Utf8.octetsOf "MX-5" }] }) hread rfl)
  obtain ⟨hreport, hfiles, hstore⟩ := run_of_exec_ok hbody
  rw [syncCars_eq]
  generalize (run "cars" "" (refresh ({ lastSeasonYear := 2024 } : Plan).online Remote.cars
    Cache.carsSnapshot loadCars)).run oneCarMachine = first at hreport hfiles hstore
  obtain ⟨⟨r, e⟩, m⟩ := first
  obtain ⟨rfl, rfl⟩ := Prod.mk.inj hreport
  refine ⟨_, m, rfl, ?_, ?_⟩
  · rw [hfiles]
    exact Cache.readReference_writeReference hwrite
  · rw [hstore]
    rfl

/-- A new cache refreshed once, fetching a car list and keeping it. -/
theorem refreshes_keep_fetched_cars :
    SnapshotsAgree oneCarMachine ∧ ∃ m, Relation.ReflTransGen Refresh.Clean oneCarMachine m ∧
      Cache.readReference m.files Cache.carsSnapshot = .ok oneCarSnapshot ∧ m.store.cars.length = 1 ∧
      SnapshotsAgree m ∧ ∀ r,
        (do reloadSnapshot Cache.tracksSnapshot loadTracks; reloadSnapshot Cache.carsSnapshot loadCars).exec r
            { m with store := {} } =
          ((.ok (), r), { m with store :=
            { tracks := m.store.tracks, trackConfigs := m.store.trackConfigs, cars := m.store.cars } }) := by
  have hempty := rebuildable_empty (Cache.layout_lacks (.inl rfl)) (Cache.layout_lacks (.inr rfl))
  have h₀ : SnapshotsAgree oneCarMachine := ⟨hempty.tracks, hempty.cars⟩
  obtain ⟨r, m, hrun, hkept, hcars⟩ := syncCars_oneCarMachine
  have hstep : Relation.ReflTransGen Refresh.Clean oneCarMachine m := .single ⟨none, .cars _ hrun, .inl rfl⟩
  exact ⟨h₀, m, hstep, hkept, hcars, refreshes_keep_snapshots h₀ hstep⟩

end RaceArchive.Sync
