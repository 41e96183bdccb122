import Mathlib
import RaceArchive.Proofs.ReferenceReplacement
import RaceArchive.Proofs.BulkReports

/-!
# Runs fail in words

A run records its report with the text of the failure that ended it, and the status of the jobs
counts a run as failed exactly when that text is not empty. So a run must never end in a failure
without words, and its body must never write the report's failure text itself.

Every run the syncer makes is honest in that sense (`Job.Honest`). Each failure a run can end in
is worded (`Failure.Worded`): it is a sentence of its own, or it wraps what it passes on in
words about what was being done. That holds of the results service's endpoints, the driver
search, the session cache, flattening and storing a payload, and the reference snapshots; the
notes a body makes change the report's counts and target only. So a run's report is failed
exactly when the run failed (`run_reports_failure`).
-/

namespace RaceArchive

/-! ## Worded failures -/

/-- A worded failure: its text is not empty. -/
def Failure.Worded (f : Failure) : Prop := f.message ≠ ""

namespace Failure

theorem worded_within (context : String) (f : Failure) : (within context f).Worded := by
  simp [Worded, within, message]

theorem worded_wrap {k : Option Fault} {before after : String} (inner : Failure) (h : before ≠ "") :
    (wrap k before after inner).Worded := by
  intro hm
  simp only [message, String.append_eq_empty_iff] at hm
  exact h hm.1.1

theorem worded_cause {k : Option Fault} {m : String} (h : m ≠ "") : (cause k m).Worded := h

end Failure

/-- Every failure that `x` can end in is worded. -/
def Except.Worded {α : Type} (x : Except Failure α) : Prop := ∀ f, x = .error f → f.Worded

namespace Except

variable {α β : Type}

theorem worded_ok (a : α) : Except.Worded (.ok a : Except Failure α) := fun _ h => nomatch h

theorem worded_error {f : Failure} (h : f.Worded) : Except.Worded (.error f : Except Failure α) := by
  rintro _ ⟨⟩
  exact h

theorem Worded.bind {x : Except Failure α} {k : α → Except Failure β} (hx : Except.Worded x)
    (hk : ∀ a, Except.Worded (k a)) : Except.Worded (x >>= k) := by
  cases x with
  | error f => exact worded_error (hx f rfl)
  | ok a => exact hk a

theorem worded_mapError {ε : Type} (x : Except ε α) {g : ε → Failure} (hg : ∀ e, (g e).Worded) :
    Except.Worded (x.mapError g) := by
  cases x with
  | error e => exact worded_error (hg e)
  | ok a => exact worded_ok a

theorem Worded.map {x : Except Failure α} (hx : Except.Worded x) (g : α → β) :
    Except.Worded (g <$> x) := by
  cases x with
  | error f => exact worded_error (hx f rfl)
  | ok a => exact worded_ok _

theorem worded_foldlM {σ : Type} {step : σ → α → Except Failure σ}
    (hstep : ∀ s a, Except.Worded (step s a)) : ∀ (xs : List α) (s : σ), Except.Worded (xs.foldlM step s)
  | [], s => worded_ok s
  | a :: rest, s => by
    rw [List.foldlM_cons]
    exact Worded.bind (hstep s a) fun s' => worded_foldlM hstep rest s'

/-- Mapping with a function that fails only in words fails only so. -/
theorem worded_mapM {f : α → Except Failure β} (hf : ∀ a, Except.Worded (f a)) :
    ∀ xs : List α, Except.Worded (xs.mapM f)
  | [] => worded_ok []
  | a :: rest => by
    rw [List.mapM_cons]
    exact Worded.bind (hf a) fun b => Worded.bind (worded_mapM hf rest) fun bs => worded_ok (b :: bs)

end Except

/-! ## Reading the cache and storing payloads -/

namespace Cache

open Files

theorem read_worded (t : Tree) (id : Int64) : Except.Worded (read t id) := by
  unfold read
  lift_lets
  intro n p jp
  -- once the file is read, every step on the archive wraps its failure in words
  have hjp : ∀ raw, Except.Worded (jp raw) := by
    intro raw
    refine Except.Worded.bind (Except.worded_mapError _ fun _ => Failure.worded_within _ _) fun entries => ?_
    split
    · exact Except.Worded.bind (Except.worded_mapError _ fun _ => Failure.worded_within _ _) fun body =>
        Except.worded_mapError _ fun _ => Failure.worded_within _ _
    · exact Except.worded_error (Failure.worded_cause (by simp))
  split
  · exact Except.Worded.bind (Except.worded_ok _) hjp
  · split
    · exact Except.Worded.bind (Except.worded_error (Failure.worded_wrap _ (by simp))) hjp
    · exact Except.Worded.bind (Except.worded_error (Failure.worded_within _ _)) hjp

theorem keep_worded (t : Tree) (id : Int64) (fault : Option WriteFault) {o : Except Failure ByteArray}
    (ho : Except.Worded o) : Except.Worded (keep t id fault o).1 := by
  cases o with
  | error f => exact Except.worded_error (ho f rfl)
  | ok data =>
    simp only [keep]
    split
    · exact Except.worded_error (Failure.worded_within _ _)
    · exact Except.worded_ok _

theorem writeReference_worded (t : Tree) (name : String) (data : ByteArray) (fault : Option WriteFault) :
    Except.Worded (writeReference t name data fault).1 :=
  Except.worded_mapError _ fun _ => Failure.worded_within _ _

theorem readReference_worded (t : Tree) (name : String) : Except.Worded (readReference t name) :=
  Except.worded_mapError _ fun _ => Failure.worded_within _ _

end Cache

namespace Results

theorem Gathered.add_worded (g : Gathered) (subsession sim team : Int64) (d : DriverLine) :
    Except.Worded (g.add subsession sim team d) := by
  unfold Gathered.add
  split
  · exact Except.worded_error (Failure.worded_cause (by simp))
  · exact Except.worded_ok _

theorem Gathered.addParticipant_worded (g : Gathered) (subsession sim : Int64) (part : Participant) :
    Except.Worded (g.addParticipant subsession sim part) := by
  cases part with
  | solo d => exact Gathered.add_worded _ _ _ _ _
  | team t =>
    simp only [Gathered.addParticipant]
    split
    · exact Except.worded_error (Failure.worded_wrap _ (by simp))
    · exact Except.worded_foldlM (fun _ _ => Gathered.add_worded _ _ _ _ _) _ _

theorem Payload.toRows_worded (p : Payload) (start : Int) : Except.Worded (p.toRows start) := by
  unfold Payload.toRows
  refine Except.Worded.bind ?_ fun g => Except.worded_ok _
  exact Except.worded_foldlM (fun _ _ => Except.worded_foldlM
    (fun _ _ => Gathered.addParticipant_worded _ _ _ _) _ _) _ _

theorem flatten_worded (raw : ByteArray) : Except.Worded (flatten raw) := by
  unfold flatten
  split
  · exact Except.worded_error (Failure.worded_within _ _)
  · split
    · exact Except.worded_error (Failure.worded_within _ _)
    · exact Payload.toRows_worded _ _

end Results

namespace Store

theorem ingestWith_worded {σ : Type} (store : Results.Rows → Except Failure σ) (raw : ByteArray) :
    Except.Worded (ingestWith store raw) := by
  unfold ingestWith
  refine Except.Worded.bind (Results.flatten_worded raw) fun rows => ?_
  split
  · exact Except.worded_ok _
  · exact Except.worded_error (Failure.worded_within _ _)

theorem Inserted.worded {α σ : Type} {key : α → Int64} {state : List α → σ} {refuse : α → Failure}
    (hrefuse : ∀ a, (refuse a).Worded) {xs : List α} {out : Except Failure σ}
    (h : Inserted key state refuse xs out) : Except.Worded out := by
  cases h with
  | all => exact Except.worded_ok _
  | refused _ a _ _ _ => exact Except.worded_error (hrefuse a)

theorem Store.replaceTracks_worded (db : Store) (entries : List Catalog.TrackEntry) :
    Except.Worded (db.replaceTracks entries) :=
  Inserted.worded (fun _ => Failure.worded_wrap _ (by simp)) (Store.replaceTracks_inserted db entries)

theorem Store.replaceCars_worded (db : Store) (cars : List Catalog.Car) :
    Except.Worded (db.replaceCars cars) :=
  Inserted.worded (fun _ => Failure.worded_wrap _ (by simp)) (Store.replaceCars_inserted db cars)

end Store

namespace Catalog

theorem readTracks_worded (raw : ByteArray) : Except.Worded (readTracks raw) := by
  unfold readTracks
  split
  · exact Except.worded_ok _
  · exact Except.worded_error (Failure.worded_within _ _)

theorem readCars_worded (raw : ByteArray) : Except.Worded (readCars raw) := by
  unfold readCars
  split
  · exact Except.worded_ok _
  · exact Except.worded_error (Failure.worded_within _ _)

end Catalog

/-! ## The results service and the driver search -/

namespace Remote

/-- Every failure a client exchange can end in is worded, whatever the wire. -/
def Link.Worded {α : Type} (x : Link (Except Failure α)) : Prop := ∀ w, Except.Worded (x.run w).1

variable {α β γ : Type}

theorem Link.worded_pure {o : Except Failure α} (h : Except.Worded o) : Link.Worded (pure o) := fun _ => h

theorem Link.worded_bind {x : Link γ} {k : γ → Link (Except Failure β)} (hk : ∀ c, Link.Worded (k c)) :
    Link.Worded (x >>= k) := by
  intro w
  rw [Link.run_bind]
  exact hk _ _

theorem Link.Worded.bind {x : Link (Except Failure α)} {k : Except Failure α → Link (Except Failure β)}
    (hx : Link.Worded x) (hk : ∀ o, Except.Worded o → Link.Worded (k o)) : Link.Worded (x >>= k) := by
  intro w
  rw [Link.run_bind]
  exact hk _ (hx w) _

theorem Link.Worded.pass {x : Link (Except Failure α)} {k : Except Failure α → Link (Except Failure β)}
    (hx : Link.Worded x) (herr : ∀ f, k (.error f) = pure (.error f))
    (hk : ∀ a, Link.Worded (k (.ok a))) : Link.Worded (x >>= k) :=
  hx.bind fun o ho => by
    cases o with
    | error f =>
      rw [herr]
      exact Link.worded_pure (Except.worded_error (ho f rfl))
    | ok a => exact hk a

theorem Link.worded_within {x : Link (Except Failure γ)} {k : Except Failure γ → Link (Except Failure β)}
    (herr : ∀ f, ∃ context, k (.error f) = pure (.error (.within context f)))
    (hk : ∀ a, Link.Worded (k (.ok a))) : Link.Worded (x >>= k) := by
  refine Link.worded_bind fun o => ?_
  cases o with
  | error f =>
    obtain ⟨context, hcontext⟩ := herr f
    rw [hcontext]
    exact Link.worded_pure (Except.worded_error (Failure.worded_within _ _))
  | ok a => exact hk a

theorem wrapped_worded (x : Link (Except Failure ByteArray)) (context : String) :
    Link.Worded (do
      match ← x with
      | .error f => pure (.error (.within context f))
      | .ok body => pure (.ok body)) :=
  Link.worded_within (fun _ => ⟨_, rfl⟩) fun _ => Link.worded_pure (Except.worded_ok _)

theorem subsessionResult_worded (id : Int64) : Link.Worded (subsessionResult id) :=
  wrapped_worded _ _

theorem tracks_worded : Link.Worded tracks := wrapped_worded _ _

theorem cars_worded : Link.Worded cars := wrapped_worded _ _

theorem responseFailure_worded (endpoint : String) (inner : Failure) :
    (responseFailure endpoint inner).Worded :=
  Failure.worded_wrap _ (by simp)

theorem lookupDrivers_worded (term : String) : Link.Worded (lookupDrivers term) := by
  unfold lookupDrivers
  refine Link.worded_within (fun _ => ⟨_, rfl⟩) fun body => ?_
  dsimp only
  split
  · exact Link.worded_pure (Except.worded_error (responseFailure_worded _ _))
  · exact Link.worded_pure (Except.worded_ok _)

theorem memberSinceYear_worded (date : Octets) : Except.Worded (memberSinceYear date) := by
  unfold memberSinceYear
  dsimp only
  split
  · exact Except.worded_error (responseFailure_worded _ _)
  · split
    · exact Except.worded_ok _
    · exact Except.worded_error (responseFailure_worded _ _)

theorem memberSince_worded (custId : Int64) : Link.Worded (memberSince custId) := by
  unfold memberSince
  refine Link.worded_within (fun _ => ⟨_, rfl⟩) fun body => ?_
  dsimp only
  split
  · exact Link.worded_pure (Except.worded_error (responseFailure_worded _ _))
  · split
    · exact Link.worded_pure (Except.worded_error (responseFailure_worded _ _))
    · exact Link.worded_pure (memberSinceYear_worded _)

theorem searchSeries_worded (q : SeriesQuery) : Link.Worded (searchSeries q) := by
  unfold searchSeries
  refine Link.worded_within (fun _ => ⟨_, rfl⟩) fun items => Link.worded_pure ?_
  -- each hit that does not read is refused in the words of the search's answer
  rw [Array.mapM_eq_mapM_toList]
  exact Except.Worded.map (Except.worded_mapM (fun _ => Except.worded_mapError _ fun _ =>
    responseFailure_worded _ _) _) _

end Remote

namespace Discovery

open Remote

theorem choose_worded (cfg : Config) (identifier : String) (hits : Array DriverMatch) :
    Except.Worded (choose cfg identifier hits) := by
  unfold choose
  split
  · exact Except.worded_error (Failure.worded_within _ _)
  · exact Except.worded_ok _
  · split
    · exact Except.worded_ok _
    · split
      · exact Except.worded_error (Failure.worded_cause (by simp))
      · exact Except.worded_ok _

theorem resolveDriver_worded (cfg : Config) (identifier : String) :
    Link.Worded (resolveDriver cfg identifier) := by
  unfold resolveDriver
  exact (lookupDrivers_worded _).pass (fun _ => rfl) fun hits => Link.worded_pure (choose_worded _ _ _)

theorem searchAll_worded : ∀ (qs : List SeriesQuery) (ids : Array Int64), Link.Worded (searchAll qs ids)
  | [], ids => Link.worded_pure (Except.worded_ok ids)
  | q :: qs, ids => by
    unfold searchAll
    exact (searchSeries_worded q).pass (fun _ => rfl) fun more => searchAll_worded qs _

theorem searchYears_worded (custId : Int64) :
    ∀ (year : Int) (n : Nat) (ids : Array Int64), Link.Worded (searchYears custId year n ids)
  | _, 0, ids => Link.worded_pure (Except.worded_ok ids)
  | year, n + 1, ids => by
    unfold searchYears
    exact (searchAll_worded _ _).pass (fun _ => rfl) fun more => searchYears_worded custId _ n _

theorem neverEnds_worded (loop : String) : Link.Worded (neverEnds loop : Link (Except Failure α)) := by
  unfold neverEnds
  refine Link.worded_bind fun _ => Link.worded_pure (Except.worded_error (Failure.worded_cause ?_))
  show loop ++ " never ends" ≠ ""
  intro h
  exact absurd (String.append_eq_empty_iff.mp h).2 (by decide)

theorem findCustomer_worded (cfg : Config) (cached : Int64 → Bool) (custId : Int64) :
    Link.Worded (findCustomer cfg cached custId) := by
  unfold findCustomer
  refine (memberSince_worded _).pass (fun _ => rfl) fun since => ?_
  refine (searchYears_worded _ _ _ _).pass (fun _ => rfl) fun ids => ?_
  -- a grid that never runs out ends in words too
  dsimp only
  split
  · exact neverEnds_worded _
  · exact Link.worded_pure (Except.worded_ok _)

theorem findSeason_worded (cached : Int64 → Bool) (year quarter : Int) (week : Option Int) :
    Link.Worded (findSeason cached year quarter week) := by
  unfold findSeason
  split
  · exact Link.worded_pure (Except.worded_error (Failure.worded_cause (by simp)))
  · exact (searchSeries_worded _).pass (fun _ => rfl) fun ids => Link.worded_pure (Except.worded_ok _)

end Discovery

/-! ## Honest jobs -/

namespace Sync

open Store

/-- An honest job leaves the failure text of the report and the status of the jobs alone, and
fails only in words. -/
structure Job.Honest {α : Type} (j : Job α) : Prop where
  keeps : ∀ r m, (j.exec r m).1.2.error = r.error
  status : ∀ r m, (j.exec r m).2.status = m.status
  worded : ∀ r m, Except.Worded (j.exec r m).1.1

namespace Job

variable {α β : Type}

theorem honest_pure (a : α) : (pure a : Job α).Honest :=
  ⟨fun _ _ => rfl, fun _ _ => rfl, fun _ _ => Except.worded_ok a⟩

theorem Honest.run {j : Job α} (h : j.Honest) (r : Report) (m : Machine) :
    (j.exec r m).1.2.error = r.error ∧ (j.exec r m).2.status = m.status ∧
      Except.Worded (j.exec r m).1.1 :=
  ⟨h.keeps r m, h.status r m, h.worded r m⟩

theorem Honest.of_run {j : Job α}
    (h : ∀ r m, (j.exec r m).1.2.error = r.error ∧ (j.exec r m).2.status = m.status ∧
      Except.Worded (j.exec r m).1.1) : j.Honest :=
  ⟨fun r m => (h r m).1, fun r m => (h r m).2.1, fun r m => (h r m).2.2⟩

theorem Honest.bind {j : Job α} {k : α → Job β} (hj : j.Honest) (hk : ∀ a, (k a).Honest) :
    (j >>= k).Honest := by
  refine Honest.of_run fun r m => ?_
  have hfirst := hj.run r m
  rw [exec_bind]
  rcases hjr : j.exec r m with ⟨⟨f | a, r'⟩, m'⟩ <;> rw [hjr] at hfirst
  · -- a failure ends the run where the first job left it
    exact ⟨hfirst.1, hfirst.2.1, Except.worded_error (hfirst.2.2 f rfl)⟩
  · obtain ⟨hkeep, hstatus, hworded⟩ := (hk a).run r' m'
    exact ⟨hkeep.trans hfirst.1, hstatus.trans hfirst.2.1, hworded⟩

theorem honest_of {x : Except Failure α} (hx : Except.Worded x) : (Job.of x).Honest :=
  ⟨fun r m => by rw [exec_of], fun r m => by rw [exec_of], fun r m => by rw [exec_of]; exact hx⟩

theorem honest_remote {act : Remote.Link (Except Failure α)} (h : Remote.Link.Worded act) :
    (remote act).Honest :=
  ⟨fun r m => by rw [exec_remote], fun r m => by rw [exec_remote],
    fun r m => by rw [exec_remote]; exact h m.wire⟩

theorem honest_note (f : Report → Report) (hf : ∀ r, (f r).error = r.error) : (note f).Honest :=
  ⟨fun r m => by rw [exec_note]; exact hf r, fun _ _ => rfl, fun _ _ => Except.worded_ok ()⟩

theorem honest_change (f : Machine → Machine) (hf : ∀ m, (f m).status = m.status) :
    (change f).Honest :=
  ⟨fun _ _ => rfl, fun _ m => hf m, fun _ _ => Except.worded_ok ()⟩

theorem honest_getMachine : (getThe Machine : Job Machine).Honest :=
  ⟨fun _ _ => rfl, fun _ _ => rfl, fun _ m => Except.worded_ok m⟩

theorem honest_throw {f : Failure} (hf : f.Worded) : (throw f : Job α).Honest :=
  ⟨fun _ _ => rfl, fun _ _ => rfl, fun _ _ => Except.worded_error hf⟩

theorem Honest.forIn {σ : Type} {step : α → σ → Job (ForInStep σ)} (hstep : ∀ a s, (step a s).Honest) :
    ∀ (xs : List α) (s : σ), (forIn xs s step).Honest
  | [], s => by
    rw [List.forIn_nil]
    exact honest_pure s
  | a :: rest, s => by
    rw [List.forIn_cons]
    refine (hstep a s).bind fun c => ?_
    cases c with
    | done s' => exact honest_pure s'
    | yield s' => exact Honest.forIn hstep rest s'

theorem Honest.tryCatch {j : Job α} {handler : Failure → Job α} (hj : j.Honest)
    (hh : ∀ f, (handler f).Honest) : (tryCatch j handler).Honest := by
  refine Honest.of_run fun r m => ?_
  have hfirst := hj.run r m
  rw [exec_tryCatch]
  rcases hjr : j.exec r m with ⟨⟨f | a, r'⟩, m'⟩ <;> rw [hjr] at hfirst
  · -- a failure goes to the handler, where the job left the run
    obtain ⟨hkeep, hstatus, hworded⟩ := (hh f).run r' m'
    exact ⟨hkeep.trans hfirst.1, hstatus.trans hfirst.2.1, hworded⟩
  · exact ⟨hfirst.1, hfirst.2.1, Except.worded_ok a⟩

end Job

theorem noRemote_worded : noRemote.Worded := Failure.worded_cause (by decide)

/-! ## The jobs of the runs -/

theorem cachedNow_honest : cachedNow.Honest :=
  Job.honest_getMachine.bind fun _ => Job.honest_pure _

theorem getOrFetch_worded (id : Int64) (m : Machine) :
    Except.Worded ((Cache.getOrFetch (some fun id => exchange (Remote.subsessionResult id)) m.files
      id).run m).1.1 := by
  rw [getOrFetch_run]
  dsimp only
  split
  · exact Cache.read_worded _ _
  · exact Cache.keep_worded _ _ _ (Remote.subsessionResult_worded id m.wire)

theorem fetchOne_honest (id : Int64) : (fetchOne id).Honest := by
  refine Job.Honest.of_run fun r m => ?_
  have hgot := getOrFetch_worded id m
  -- getting the subsession changes the cache and the wire, never the status
  have hstatus : ((Cache.getOrFetch (some fun id => exchange (Remote.subsessionResult id)) m.files
      id).run m).2.status = m.status := by
    rw [getOrFetch_run]
    dsimp only
    split <;> rfl
  rw [exec_fetchOne]
  dsimp only
  split
  · exact ⟨rfl, hstatus, Except.worded_ok ()⟩
  · next f hf =>
    rw [hf] at hgot
    exact ⟨rfl, hstatus, Except.worded_error (hgot f rfl)⟩

theorem fetchAll_honest : ∀ ids : List Int64, (fetchAll ids).Honest
  | [] => Job.honest_pure ()
  | id :: ids => by
    rw [fetchAll_cons]
    exact (fetchOne_honest id).bind fun _ => fetchAll_honest ids

theorem ingestCached_honest (id : Int64) : (ingestCached id).Honest := by
  refine Job.Honest.of_run fun r m => ?_
  have hgot : Except.Worded (Cache.read m.files id >>= m.store.ingest) :=
    Except.Worded.bind (Cache.read_worded _ _) fun _ => Store.ingestWith_worded _ _
  rw [exec_ingestCached]
  split
  · exact ⟨rfl, rfl, Except.worded_ok ()⟩
  · next f hf =>
    rw [hf] at hgot
    exact ⟨rfl, rfl, Except.worded_error (hgot f rfl)⟩

theorem ingestAll_honest : ∀ ids : List Int64, (ingestAll ids).Honest
  | [] => Job.honest_pure ()
  | id :: ids => by
    rw [ingestAll_cons]
    exact (ingestCached_honest id).bind fun _ => ingestAll_honest ids

theorem fetchAndIngest_honest (found : Discovery.Found) : (fetchAndIngest found).Honest := by
  rw [fetchAndIngest_eq]
  -- the notes set the counts, never the failure text
  refine (Job.honest_note _ (by intro; rfl)).bind fun _ => (fetchAll_honest _).bind fun _ =>
    Job.honest_getMachine.bind fun _ => (Job.honest_note _ (by intro; rfl)).bind fun _ =>
      ingestAll_honest _

theorem unlessOnline_honest {k : PUnit → Job α} (hk : ∀ u, (k u).Honest) (online : Bool) :
    (if !online then throw noRemote >>= k else k ()).Honest := by
  split
  · exact (Job.honest_throw noRemote_worded).bind hk
  · exact hk ()

theorem driverDiscovery_honest (plan : Plan) (identifier : String) :
    (driverDiscovery plan identifier).Honest := by
  unfold driverDiscovery
  lift_lets
  intro rest
  refine unlessOnline_honest (fun _ => ?_) _
  refine (Job.honest_remote (Discovery.resolveDriver_worded _ _)).bind fun driver => ?_
  refine (Job.honest_note _ (by intro; rfl)).bind fun _ => cachedNow_honest.bind fun cached => ?_
  exact Job.honest_remote (Discovery.findCustomer_worded _ _ _)

theorem seasonDiscovery_honest (plan : Plan) (year quarter : Int) (week : Option Int) :
    (seasonDiscovery plan year quarter week).Honest := by
  unfold seasonDiscovery
  lift_lets
  intro rest
  refine unlessOnline_honest (fun _ => cachedNow_honest.bind fun cached => ?_) _
  exact Job.honest_remote (Discovery.findSeason_worded _ _ _ _)

theorem keepSnapshot_honest (name : String) (raw : ByteArray) : (keepSnapshot name raw).Honest := by
  unfold keepSnapshot
  refine Job.honest_getMachine.bind fun m => ?_
  exact (Job.honest_change _ (by intro; rfl)).bind fun _ =>
    Job.honest_of (Cache.writeReference_worded m.files name raw none)

theorem loadTracks_honest (raw : ByteArray) : (loadTracks raw).Honest := by
  unfold loadTracks
  exact (Job.honest_of (Catalog.readTracks_worded raw)).bind fun _ => Job.honest_getMachine.bind fun _ =>
    (Job.honest_of (Store.Store.replaceTracks_worded _ _)).bind fun _ =>
      (Job.honest_change _ (by intro; rfl)).bind fun _ => Job.honest_pure _

theorem loadCars_honest (raw : ByteArray) : (loadCars raw).Honest := by
  unfold loadCars
  exact (Job.honest_of (Catalog.readCars_worded raw)).bind fun _ => Job.honest_getMachine.bind fun _ =>
    (Job.honest_of (Store.Store.replaceCars_worded _ _)).bind fun _ =>
      (Job.honest_change _ (by intro; rfl)).bind fun _ => Job.honest_pure _

theorem refresh_honest {online : Bool} {fetch : Remote.Link (Except Failure ByteArray)} {name : String}
    {load : ByteArray → Job Nat} (hfetch : Remote.Link.Worded fetch) (hload : ∀ raw, (load raw).Honest) :
    (refresh online fetch name load).Honest := by
  unfold refresh
  lift_lets
  intro rest
  refine unlessOnline_honest (fun _ => (Job.honest_remote hfetch).bind fun raw => ?_) _
  refine (Job.honest_note _ (by intro; rfl)).bind fun _ => (keepSnapshot_honest _ _).bind fun _ => ?_
  exact (hload raw).bind fun _ => Job.honest_note _ (by intro; rfl)

theorem reloadSnapshot_honest (name : String) {load : ByteArray → Job Nat}
    (hload : ∀ raw, (load raw).Honest) : (reloadSnapshot name load).Honest := by
  unfold reloadSnapshot
  refine Job.honest_getMachine.bind fun m => ?_
  split
  · next f hf =>
    split
    · exact Job.honest_pure ()
    · exact Job.honest_throw (Cache.readReference_worded _ _ f hf)
  · exact Job.Honest.tryCatch ((hload _).bind fun _ => Job.honest_pure ())
      fun _ => Job.honest_throw (Failure.worded_within _ _)

theorem cancellation_worded : cancellation.Worded := Failure.worded_cause (by decide)

theorem bulkStep_honest (ctx : Context) (files : Files.Tree) (id : Int64) (b : Ingester) :
    (bulkStep ctx files id b).Honest := by
  refine Job.Honest.of_run fun r m => ?_
  by_cases hc : ctx.cancelled b.total
  · rw [exec_bulkStep_cancelled hc]
    exact ⟨rfl, rfl, Except.worded_error cancellation_worded⟩
  rw [Bool.not_eq_true] at hc
  have hgot : Except.Worded (Cache.read files id >>= b.ingest) :=
    Except.Worded.bind (Cache.read_worded _ _) fun _ => Store.ingestWith_worded _ _
  cases hstep : Cache.read files id >>= b.ingest with
  | ok got =>
    rw [exec_bulkStep_ok hc hstep]
    exact ⟨rfl, rfl, Except.worded_ok _⟩
  | error f =>
    rw [exec_bulkStep_stop hc hstep]
    rw [hstep] at hgot
    exact ⟨rfl, rfl, Except.worded_error (hgot f rfl)⟩

theorem bulkIngest_honest (plan : Plan) (ctx : Context) (ids : List Int64) :
    (bulkIngest plan ctx ids).Honest := by
  rw [bulkIngest_eq]
  exact Job.honest_getMachine.bind fun m =>
    (Job.Honest.forIn (fun id b => bulkStep_honest ctx m.files id b) ids _).bind fun _ =>
      (Job.honest_change _ (by intro; rfl)).bind fun _ => Job.honest_note _ (by intro; rfl)

/-! ## Recording an honest run -/

/-- **A run's report is failed exactly when the run failed.** A run of an honest body leaves the
status of the jobs as it found it, with the run's report recorded under its status key. -/
theorem run_reports_failure {job target : String} {body : Job Unit} (hb : body.Honest)
    (m : Machine) :
    ((run job target body).run m).1.1.failed = ((run job target body).run m).1.2.isSome ∧
      ((run job target body).run m).2.status =
        m.status.record (statusKey job target) ((run job target body).run m).1.1 := by
  obtain ⟨hkeep, hstatus, hworded⟩ := hb.run { job, target } m
  rw [run_eq]
  rcases hexec : body.exec { job, target } m with ⟨⟨f | ⟨⟩, r⟩, m'⟩ <;>
    (rw [hexec] at hkeep hstatus hworded; dsimp only at hkeep hstatus hworded)
  · -- the report of a failed run carries the failure's text, which is not empty
    have hf : f.message ≠ "" := hworded f rfl
    exact ⟨by simp [Report.failed, hf], by simp [hstatus]⟩
  · -- a run that went through keeps the empty failure text it started with
    refine ⟨by simp [Report.failed, hkeep], ?_⟩
    dsimp only
    split <;> simp [hstatus]

end Sync

end RaceArchive
