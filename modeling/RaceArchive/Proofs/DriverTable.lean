import Mathlib
import RaceArchive.Proofs.FirstSightings
import RaceArchive.Proofs.Keys

/-!
# The driver table

The stores that storing payloads reaches (`Store.Ingested`), one at a time or through a bulk
ingester, keep their driver table in step with the results (`Store.DriverTable`):

* the drivers stored are exactly the drivers of the stored results;
* no two drivers hold one display name;
* the history of the store is a chain of steps (`Store.Step`) in which every stored payload
  adds the drivers it first sights that are not stored yet, after the stored ones, each with the
  name of its first line in the payload, or without one when a driver stored before it holds
  that name (`Store.TakesIn`); a driver row, once added, never changes;
* the rating history and the car and track usage of a name read the results of one driver only.

The main statement is `Store.Ingested.driverTable`. Storing a subsession takes in its drivers by
the rule (`insert_takesIn`), flattening lists a payload's first sightings (`flatten_sightings`),
and a bulk run stores what storing one at a time stores (`Ingester.Follows`).
-/

namespace RaceArchive.Store

open Results

namespace Store

variable {db db' : Store} {rows : Rows} {raw : ByteArray}

/-! ## The naming rule -/

/-- How a driver table takes in the drivers sighted in a stored payload: those not held yet are
added after the held ones, in the order sighted, each with its sighted name, or without one when
a driver before it already holds that name. The rows held stay as they are. -/
def TakesIn (held : List StoredDriver) (sighted : List DriverRow) (held' : List StoredDriver) : Prop :=
  ∃ new, held' = held ++ new ∧
    new.map (·.custId) = (sighted.map (·.custId)).filter (fun c => !held.any (·.custId == c)) ∧
    ∀ pre x post, new = pre ++ x :: post → ∀ d ∈ sighted, d.custId = x.custId →
      x.name = if (held ++ pre).any (·.name == some d.displayName) then none else some d.displayName

theorem addSimsession_drivers {s : SimsessionRow} (h : db.addSimsession s = .ok db') :
    db'.drivers = db.drivers := by
  unfold addSimsession at h
  split at h
  · cases h
  · split at h
    · cases h
    · cases h; rfl

theorem addResult_drivers {r : ResultRow} (h : db.addResult r = .ok db') : db'.drivers = db.drivers := by
  unfold addResult at h
  split at h
  · cases h
  · split at h
    · cases h
    · cases h; rfl

section Upsert

variable {held final : List StoredDriver} {d : DriverRow} {rest : List DriverRow}

theorem TakesIn.cons_held (h : TakesIn held rest final) (hknown : held.any (·.custId == d.custId) = true) :
    TakesIn held (d :: rest) final := by
  obtain ⟨new, hfinal, hmap, hnames⟩ := h
  refine ⟨new, hfinal, ?_, fun pre x post hx d' hd' hid => ?_⟩
  · rw [hmap, List.map_cons, List.filter_cons]
    simp [hknown]
  · rcases List.mem_cons.mp hd' with rfl | hd'
    · -- an added driver is not held, so it is not `d`
      have hx' : x.custId ∈ new.map (·.custId) := List.mem_map_of_mem (by simp [hx])
      rw [hmap, List.mem_filter, ← hid, hknown] at hx'
      exact absurd hx'.2 (by decide)
    · exact hnames pre x post hx d' hd' hid

/-- A sighted driver who is new is added first, named unless a held driver has the name. -/
theorem TakesIn.cons_new (hknown : held.any (·.custId == d.custId) = false)
    (hd : d.custId ∉ rest.map (·.custId))
    (h : TakesIn (held ++ [⟨d.custId,
      if held.any (·.name == some d.displayName) then none else some d.displayName⟩]) rest final) :
    TakesIn held (d :: rest) final := by
  obtain ⟨new, hfinal, hmap, hnames⟩ := h
  refine ⟨⟨d.custId, if held.any (·.name == some d.displayName) then none else some d.displayName⟩ :: new,
    by rw [hfinal]; simp, ?_, fun pre x post hx d' hd' hid => ?_⟩
  · -- the drivers after `d` differ from it, so `d`'s row changes nothing of their filter
    simp only [List.map_cons]
    rw [hmap, List.filter_cons_of_pos (by simp [hknown])]
    congr 1
    apply List.filter_congr
    intro c hc
    have hne : d.custId ≠ c := fun e => hd (e ▸ hc)
    simp [List.any_append, hne]
  · -- a driver sighted with `x`'s id is `d` itself when `x` is `d`'s row, and one of `rest`
    -- otherwise, since the ids of `rest` differ from `d`'s
    cases pre with
    | nil =>
      obtain ⟨rfl, -⟩ := List.cons_eq_cons.mp hx
      rcases List.mem_cons.mp hd' with rfl | hd'
      · simp
      · exact absurd (List.mem_map.mpr ⟨d', hd', hid⟩) hd
    | cons y pre =>
      obtain ⟨rfl, hnew⟩ := List.cons_eq_cons.mp hx
      rcases List.mem_cons.mp hd' with rfl | hd'
      · have hx' : x.custId ∈ new.map (·.custId) := List.mem_map_of_mem (by simp [hnew])
        rw [hmap, List.mem_filter, ← hid] at hx'
        exact absurd hx'.1 hd
      · simpa using hnames pre x post hnew d' hd' hid

end Upsert

/-- The driver upsert over drivers listed once each takes them in by the naming rule. -/
theorem addDrivers_takesIn (ds : List DriverRow) (hnodup : (ds.map (·.custId)).Nodup) (acc : Store) :
    TakesIn acc.drivers ds (ds.foldl addDriver acc).drivers := by
  induction ds generalizing acc with
  | nil => exact ⟨[], by simp, rfl, fun pre x post h => by simp at h⟩
  | cons d rest ih =>
    rw [List.map_cons, List.nodup_cons] at hnodup
    obtain ⟨hd, hrest⟩ := hnodup
    rw [List.foldl_cons]
    cases hknown : acc.drivers.any (·.custId == d.custId) with
    | true =>
      have hsame : acc.addDriver d = acc := by simp [addDriver, hknown]
      rw [hsame]
      exact (ih hrest acc).cons_held hknown
    | false =>
      have hadd : (acc.addDriver d).drivers = acc.drivers ++ [⟨d.custId,
          if acc.drivers.any (·.name == some d.displayName) then none else some d.displayName⟩] := by
        unfold addDriver
        rw [if_neg (by simp [hknown])]
        split <;> simp_all
      have hnext := ih hrest (acc.addDriver d)
      rw [hadd] at hnext
      exact TakesIn.cons_new hknown hd hnext

/-! ## Storing a subsession -/

theorem insert_fresh_of_ok (hi : db.insert rows = .ok db') :
    db.hasSubsession rows.subsession.subsessionId = false := by
  cases hS : db.hasSubsession rows.subsession.subsessionId
  · rfl
  · rw [insert_eq, if_pos hS] at hi
    cases hi

/-- A stored subsession of rows that hang together was fresh, and the store gained its rows. -/
theorem insert_gains (hl : db.Linked) (hw : rows.WellFormed) (hi : db.insert rows = .ok db') :
    Gains db db' rows := by
  have hS := insert_fresh_of_ok hi
  -- sessions with a number held twice would have been refused
  have hn : (rows.simsessions.toList.map (·.number)).Nodup := by
    by_contra hn
    obtain ⟨n, -, herr⟩ := insert_fresh_taken hl hw hS hn
    rw [herr] at hi
    cases hi
  obtain ⟨db'', hi', hg⟩ := insert_fresh_ok hl hw hS hn
  rw [hi] at hi'
  cases hi'
  exact hg

/-- Storing a subsession takes its listed drivers in by the naming rule. -/
theorem insert_takesIn (hw : rows.WellFormed) (hi : db.insert rows = .ok db') :
    TakesIn db.drivers rows.drivers.toList db'.drivers := by
  rw [insert_fresh hw (insert_fresh_of_ok hi)] at hi
  obtain ⟨db₂, h₂, h₃⟩ := Except.bind_eq_ok.mp hi
  -- the sessions of the subsession and the results leave the drivers alone
  have d₂ : db₂.drivers = db.drivers := by
    refine foldlM_keeps (fun s : Store => s.drivers = db.drivers) (fun _ _ _ _ hs hstep => ?_) ?_ h₂
    · exact (addSimsession_drivers (Except.mapError_eq_ok.mp hstep)).trans hs
    · rfl
  have d₃ : db'.drivers = (rows.drivers.toList.foldl addDriver db₂).drivers := by
    refine foldlM_keeps (fun s : Store => s.drivers = (rows.drivers.toList.foldl addDriver db₂).drivers)
      (fun _ _ _ _ hs hstep => ?_) rfl h₃
    exact (addResult_drivers (Except.mapError_eq_ok.mp hstep)).trans hs
  rw [d₃, ← d₂]
  exact addDrivers_takesIn _ hw.drivers db₂

/-! ## The stores that storing payloads reaches -/

/-- The stores that storing payloads reaches from the empty one: a payload ingested on its own,
flattened payloads fed to a bulk ingester that is then closed or aborted, and the reference
tables replaced. A refused payload leaves the store as it was. -/
inductive Ingested : Store → Prop
  | empty : Ingested {}
  | ingest {db db' : Store} {raw : ByteArray} {rows : Rows} :
      Ingested db → db.ingest raw = .ok (rows, db') → Ingested db'
  | close {db : Store} (c : Int) (rs : List Rows) :
      Ingested db → (∀ rows ∈ rs, ∃ raw, flatten raw = .ok rows) →
      Ingested ((Ingester.start db c).feed rs).close
  | abort {db : Store} (c : Int) (rs : List Rows) :
      Ingested db → (∀ rows ∈ rs, ∃ raw, flatten raw = .ok rows) →
      Ingested ((Ingester.start db c).feed rs).abort
  | replaceTracks {db db' : Store} {entries : List Catalog.TrackEntry} :
      Ingested db → db.replaceTracks entries = .ok db' → Ingested db'
  | replaceCars {db db' : Store} {cars : List Catalog.Car} :
      Ingested db → db.replaceCars cars = .ok db' → Ingested db'

theorem Ingested.reachable (h : db.Ingested) : db.Reachable := by
  induction h with
  | empty => exact .empty
  | ingest _ hi ih => exact .insert ih (ingest_ok hi).2
  | close c rs _ _ ih => exact .close c rs ih
  | abort c rs _ _ ih => exact .abort c rs ih
  | replaceTracks _ hr ih => exact .replaceTracks ih hr
  | replaceCars _ hr ih => exact .replaceCars ih hr

theorem Ingested.ingestEach : ∀ {db : Store} {raws : List ByteArray} {db' : Store},
    db.Ingested → db.ingestEach raws = .ok db' → db'.Ingested
  | _, [], _, h, he => by cases he; exact h
  | db, raw :: raws, _, h, he => by
    rw [Store.ingestEach, List.foldlM_cons] at he
    cases hi : db.ingest raw with
    | error f => rw [hi] at he; cases he
    | ok got => rw [hi] at he; exact Ingested.ingestEach (.ingest h hi) he

theorem mem_of_mem_accepted {rs : List Rows} (h : rows ∈ db.accepted rs) : rows ∈ rs := by
  induction rs generalizing db with
  | nil => exact absurd h List.not_mem_nil
  | cons r rest ih =>
    cases hi : db.insert r with
    | ok db₁ =>
      rw [accepted_cons_ok hi] at h
      rcases List.mem_cons.mp h with rfl | h
      · exact List.mem_cons_self
      · exact List.mem_cons_of_mem _ (ih h)
    | error f =>
      rw [accepted_cons_error hi] at h
      exact List.mem_cons_of_mem _ (ih h)

/-- What a bulk run leaves, closed or aborted, is what storing some of its subsessions one at a
time leaves. -/
theorem feed_insertEach (db : Store) (c : Int) (rs : List Rows) :
    ∃ done, (∀ rows ∈ done, rows ∈ rs) ∧ ((Ingester.start db c).feed rs).close = db.insertEach done ∧
      ∃ kept, (∀ rows ∈ kept, rows ∈ rs) ∧ ((Ingester.start db c).feed rs).abort = db.insertEach kept := by
  obtain ⟨hrun, _⟩ := (Ingester.follows_start db c).feed rs
  exact ⟨rs, fun _ h => h, hrun.working, _, fun _ h => mem_of_mem_accepted (List.mem_of_mem_take h),
    hrun.committed⟩

/-! ## Every driver has a result -/

/-- Every stored driver has a result. -/
def Listed (db : Store) : Prop := ∀ c ∈ db.drivers.map (·.custId), c ∈ db.results.map (·.custId)

theorem listed_empty : ({} : Store).Listed := by simp [Listed]

theorem Listed.insert (h : db.Listed) (hl : db.Linked) (hf : flatten raw = .ok rows)
    (hi : db.insert rows = .ok db') : db'.Listed := by
  have hg := insert_gains hl (flatten_wellFormed hf) hi
  obtain ⟨-, -, -, hlisted⟩ := flatten_sightings hf
  intro c hc
  rw [hg.results, List.map_append, List.mem_append]
  rcases (hg.custId_mem c).mp hc with hc | hc
  · exact .inl (h c hc)
  · exact .inr (hlisted c hc)

theorem Listed.insertEach {rs : List Rows} (h : db.Listed) (hl : db.Linked)
    (hf : ∀ rows ∈ rs, ∃ raw, flatten raw = .ok rows) : (db.insertEach rs).Listed := by
  induction rs generalizing db with
  | nil => exact h
  | cons rows rest ih =>
    have hrest := fun r hr => hf r (List.mem_cons_of_mem rows hr)
    cases hi : db.insert rows with
    | ok db₁ =>
      obtain ⟨raw, hraw⟩ := hf rows List.mem_cons_self
      rw [insertEach_cons_ok hi]
      exact ih (h.insert hl hraw hi) (hl.insert hi) hrest
    | error f =>
      rw [insertEach_cons_error hi]
      exact ih h hl hrest

theorem Listed.of_facts (h : db.Listed) (hf : db'.facts = db.facts) : db'.Listed := by
  simp only [facts, Prod.mk.injEq] at hf
  intro c hc
  rw [hf.2.2.2.2]
  exact h c (hf.1 ▸ hc)

theorem Ingested.listed (h : db.Ingested) : db.Listed := by
  induction h with
  | empty => exact listed_empty
  | ingest hdb hi ih =>
    obtain ⟨hf, hi⟩ := ingest_ok hi
    exact ih.insert hdb.reachable.linked hf hi
  | @close db c rs hdb hf ih =>
    obtain ⟨done, hdone, hclose, -⟩ := feed_insertEach db c rs
    rw [hclose]
    exact ih.insertEach hdb.reachable.linked fun r hr => hf r (hdone r hr)
  | @abort db c rs hdb hf ih =>
    obtain ⟨-, -, -, kept, hkept, habort⟩ := feed_insertEach db c rs
    rw [habort]
    exact ih.insertEach hdb.reachable.linked fun r hr => hf r (hkept r hr)
  | replaceTracks _ hr ih => exact ih.of_facts (replaceTracks_facts hr)
  | replaceCars _ hr ih => exact ih.of_facts (replaceCars_facts hr)

/-! ## The history of the driver table -/

/-- A step of a store's history: a payload stored, whose first sightings the driver table takes
in by the naming rule, or a reference table replaced. -/
inductive Step : Store → Store → Prop
  | stored {db db' : Store} {raw : ByteArray} {rows : Rows} {p : Payload} :
      db.ingest raw = .ok (rows, db') → Json.decode Payload.reader {} raw = .ok p →
      TakesIn db.drivers (firstSightings p.lines) db'.drivers → Step db db'
  | replaceTracks {db db' : Store} {entries : List Catalog.TrackEntry} :
      db.replaceTracks entries = .ok db' → Step db db'
  | replaceCars {db db' : Store} {cars : List Catalog.Car} :
      db.replaceCars cars = .ok db' → Step db db'

theorem Step.of_insert (hf : flatten raw = .ok rows) (hi : db.insert rows = .ok db') : Step db db' := by
  obtain ⟨p, hp, hsighted, -⟩ := flatten_sightings hf
  have ht := insert_takesIn (flatten_wellFormed hf) hi
  rw [hsighted] at ht
  exact .stored (by rw [ingest_of_flatten hf, hi]) hp ht

theorem steps_insertEach {rs : List Rows} (hf : ∀ rows ∈ rs, ∃ raw, flatten raw = .ok rows) :
    Relation.ReflTransGen Step db (db.insertEach rs) := by
  induction rs generalizing db with
  | nil => exact .refl
  | cons rows rest ih =>
    have hrest := fun r hr => hf r (List.mem_cons_of_mem rows hr)
    cases hi : db.insert rows with
    | ok db₁ =>
      obtain ⟨raw, hraw⟩ := hf rows List.mem_cons_self
      rw [insertEach_cons_ok hi]
      exact .head (Step.of_insert hraw hi) (ih hrest)
    | error f =>
      rw [insertEach_cons_error hi]
      exact ih hrest

theorem Ingested.steps (h : db.Ingested) : Relation.ReflTransGen Step {} db := by
  induction h with
  | empty => exact .refl
  | ingest _ hi ih =>
    obtain ⟨hf, hi⟩ := ingest_ok hi
    exact ih.tail (Step.of_insert hf hi)
  | @close db c rs _ hf ih =>
    obtain ⟨done, hdone, hclose, -⟩ := feed_insertEach db c rs
    rw [hclose]
    exact ih.trans (steps_insertEach fun r hr => hf r (hdone r hr))
  | @abort db c rs _ hf ih =>
    obtain ⟨-, -, -, kept, hkept, habort⟩ := feed_insertEach db c rs
    rw [habort]
    exact ih.trans (steps_insertEach fun r hr => hf r (hkept r hr))
  | replaceTracks _ hr ih => exact ih.tail (.replaceTracks hr)
  | replaceCars _ hr ih => exact ih.tail (.replaceCars hr)

/-! ## The questions about a name -/

/-- The store with the results of driver `c` alone. -/
def onlyResultsOf (db : Store) (c : Int64) : Store :=
  { db with results := db.results.filter (·.custId == c) }

theorem resultsOf_onlyResultsOf (db : Store) (c : Int64) :
    (db.onlyResultsOf c).resultsOf c = db.resultsOf c := by
  simp only [resultsOf, onlyResultsOf, List.filter_filter, Bool.and_self]

theorem usageTerms_onlyResultsOf (db : Store) (c : Int64) :
    (db.onlyResultsOf c).usageTerms c = db.usageTerms c := by
  unfold usageTerms
  rw [resultsOf_onlyResultsOf]
  rfl

section Questions

variable {n : Octets} {c : Int64}

theorem driverNamed_eq_none_iff : db.driverNamed n = none ↔ ∀ d ∈ db.drivers, d.name ≠ some n := by
  refine ⟨fun hn d hd hname => ?_, driverNamed_eq_none⟩
  have := List.find?_eq_none.mp (Option.map_eq_none_iff.mp hn) d hd
  simp [hname] at this

theorem ratingHistory_onlyResultsOf (h : ∀ c', db.driverNamed n = some c' → c' = c) :
    (db.onlyResultsOf c).ratingHistory n = db.ratingHistory n := by
  unfold ratingHistory
  rw [show (db.onlyResultsOf c).driverNamed n = db.driverNamed n from rfl]
  cases hn : db.driverNamed n with
  | none => rfl
  | some c' =>
    obtain rfl := h c' hn
    simp only [resultsOf_onlyResultsOf]
    rfl

theorem carTrackUsage_onlyResultsOf (h : ∀ c', db.driverNamed n = some c' → c' = c) :
    (db.onlyResultsOf c).carTrackUsage n = db.carTrackUsage n := by
  unfold carTrackUsage
  rw [show (db.onlyResultsOf c).driverNamed n = db.driverNamed n from rfl]
  cases hn : db.driverNamed n with
  | none => rfl
  | some c' =>
    obtain rfl := h c' hn
    simp only [usageTerms_onlyResultsOf]

/-- In a keyed store one driver at most holds a name, and the questions about the name read that
driver's results alone. -/
theorem Distinct.one_holder (hd : db.Distinct) (n : Octets) :
    ∃ c, (∀ d ∈ db.drivers, d.name = some n → d.custId = c) ∧
      db.ratingHistory n = (db.onlyResultsOf c).ratingHistory n ∧
      db.carTrackUsage n = (db.onlyResultsOf c).carTrackUsage n := by
  cases hn : db.driverNamed n with
  | none =>
    -- nobody holds the name, so any driver will do
    have hnone := driverNamed_eq_none_iff.mp hn
    have hq : ∀ c', db.driverNamed n = some c' → c' = 0 := by simp [hn]
    exact ⟨0, fun d hd hname => absurd hname (hnone d hd),
      (ratingHistory_onlyResultsOf hq).symm, (carTrackUsage_onlyResultsOf hq).symm⟩
  | some c =>
    have hq : ∀ c', db.driverNamed n = some c' → c' = c := by simp [hn]
    refine ⟨c, fun d hd' hname => ?_, (ratingHistory_onlyResultsOf hq).symm,
      (carTrackUsage_onlyResultsOf hq).symm⟩
    have hmem : (⟨d.custId, some n⟩ : StoredDriver) ∈ db.drivers := by
      rw [← hname]
      exact hd'
    exact hd.holder_unique hmem (driverNamed_holder hn)

end Questions

/-! ## The driver table -/

/-- What the driver table of a store is: its drivers are those of its results, no two hold one
name, its history takes in every stored payload's drivers by the naming rule, and the questions
about a name read the results of one driver at most. -/
structure DriverTable (db : Store) : Prop where
  results : ∀ c, c ∈ db.drivers.map (·.custId) ↔ c ∈ db.results.map (·.custId)
  names : (db.drivers.filterMap (·.name)).Nodup
  history : Relation.ReflTransGen Step {} db
  one_holder : ∀ n, ∃ c, (∀ d ∈ db.drivers, d.name = some n → d.custId = c) ∧
    db.ratingHistory n = (db.onlyResultsOf c).ratingHistory n ∧
    db.carTrackUsage n = (db.onlyResultsOf c).carTrackUsage n

/-- **The driver table invariant.** Every store that storing payloads reaches, one at a time or
in bulk runs closed or aborted, with the reference tables replaced in between, keeps its driver
table in step with its results and its history. -/
theorem Ingested.driverTable (h : db.Ingested) : db.DriverTable := by
  have hl := h.reachable.linked
  have hd := h.reachable.distinct
  refine ⟨fun c => ⟨h.listed c, fun hc => ?_⟩, hd.names, h.steps, hd.one_holder⟩
  -- every result's driver is stored
  obtain ⟨r, hr, rfl⟩ := List.mem_map.mp hc
  obtain ⟨d, hdm, he⟩ := List.any_eq_true.mp (hl.result_driver r hr)
  exact List.mem_map.mpr ⟨d, hdm, beq_iff_eq.mp he⟩

/-- The driver table of three races, one of whose drivers finds the name held by another. -/
theorem driverTable_threeRaces : Ingested threeRaces ∧ DriverTable threeRaces :=
  have h : Ingested threeRaces := Ingested.empty.ingestEach ingestEach_threeRaces.1
  ⟨h, Ingested.driverTable h⟩

end Store

end RaceArchive.Store
