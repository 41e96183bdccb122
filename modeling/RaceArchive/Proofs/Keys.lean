import Mathlib
import RaceArchive.Proofs.StoreOrder
import RaceArchive.Store.Query

/-!
# Every key names one row

Each table of the store keeps its key (`Store.Distinct`): a session id, a subsession id, a
session of a subsession by subsession and number, a result by driver, team, subsession and
session number, a customer id, and a track package, configuration or car id each name at most
one row, and a display name belongs to at most one driver. Storing a subsession checks each key
before it adds a row and keeps a driver whose name is held without one; replacing the reference
tables skips a repeated package and refuses a repeated configuration or car. So every store that
the store's operations reach keeps its keys (`Store.Reachable.distinct`).

Looking a row up by its key in a keyed table finds the one row with that key (`find?_of_key`);
the questions to the store rely on it.
-/

namespace RaceArchive

section Keyed

variable {α κ : Type} {k : α → κ} {l : List α} {x : α}

theorem nodup_map_concat (h : (l.map k).Nodup) (hx : ∀ y ∈ l, k y ≠ k x) :
    ((l ++ [x]).map k).Nodup := by
  rw [List.map_append, List.map_singleton, ← List.concat_eq_append]
  refine h.concat fun hmem => ?_
  obtain ⟨y, hy, he⟩ := List.mem_map.mp hmem
  exact hx y hy he

theorem any_key [BEq κ] [LawfulBEq κ] {a : κ} (hx : x ∈ l) (he : k x = a) :
    l.any (fun y => k y == a) = true :=
  List.any_eq_true.mpr ⟨x, hx, beq_iff_eq.mpr he⟩

theorem eq_of_key (h : (l.map k).Nodup) {y : α} (hx : x ∈ l) (hy : y ∈ l) (he : k x = k y) :
    x = y := by
  induction l with
  | nil => cases hx
  | cons z rest ih =>
    rw [List.map_cons, List.nodup_cons] at h
    rcases List.mem_cons.mp hx with rfl | hx' <;> rcases List.mem_cons.mp hy with rfl | hy'
    · rfl
    · exact absurd (he ▸ List.mem_map_of_mem hy') h.1
    · exact absurd (he.symm ▸ List.mem_map_of_mem hx') h.1
    · exact ih h.2 hx' hy'

/-- Two rows of a list whose present values are distinct, with one present value, are one row. -/
theorem eq_of_filterMap_nodup {β : Type} {f : α → Option β} {b : β} (h : (l.filterMap f).Nodup)
    {y : α} (hx : x ∈ l) (hy : y ∈ l) (hfx : f x = some b) (hfy : f y = some b) : x = y := by
  induction l with
  | nil => cases hx
  | cons z rest ih =>
    -- the head's value, when present, is met nowhere further on
    have hnot : ∀ w ∈ rest, f z = some b → f w = some b → False := by
      intro w hw hz hw'
      rw [List.filterMap_cons, hz, List.nodup_cons] at h
      exact h.1 (List.mem_filterMap.mpr ⟨w, hw, hw'⟩)
    have hrest : (rest.filterMap f).Nodup := by
      rw [List.filterMap_cons] at h
      split at h
      · exact h
      · exact (List.nodup_cons.mp h).2
    rcases List.mem_cons.mp hx with rfl | hx' <;> rcases List.mem_cons.mp hy with rfl | hy'
    · rfl
    · exact (hnot y hy' hfx hfy).elim
    · exact (hnot x hx' hfy hfx).elim
    · exact ih hrest hx' hy'

theorem find?_of_unique {p : α → Bool} (hx : x ∈ l) (hpx : p x = true)
    (huniq : ∀ y ∈ l, p y = true → y = x) : l.find? p = some x := by
  induction l with
  | nil => cases hx
  | cons y rest ih =>
    by_cases hpy : p y = true
    · rw [List.find?_cons_of_pos hpy, huniq y List.mem_cons_self hpy]
    · rw [List.find?_cons_of_neg hpy]
      rcases List.mem_cons.mp hx with rfl | hx'
      · exact absurd hpx hpy
      · exact ih hx' fun z hz => huniq z (List.mem_cons_of_mem _ hz)

theorem find?_of_key {p : α → Bool} (h : (l.map k).Nodup) (hx : x ∈ l)
    (hp : ∀ y ∈ l, p y = true ↔ k y = k x) : l.find? p = some x :=
  find?_of_unique hx ((hp x hx).mpr rfl) fun y hy hpy => eq_of_key h hy hx ((hp y hy).mp hpy)

end Keyed

namespace Results

/-- The key of a session of a subsession: the subsession and the number. -/
def SimsessionRow.key (s : SimsessionRow) : Int64 × Int64 := (s.subsessionId, s.number)

/-- The key of a result: the driver, the team, the subsession and the session number. -/
def ResultRow.key (r : ResultRow) : Int64 × Int64 × Int64 × Int64 :=
  (r.custId, r.teamId, r.subsessionId, r.simsessionNumber)

end Results

namespace Store

open Results

namespace Store

/-- Every key of the store names one row, and every display name one driver. -/
structure Distinct (db : Store) : Prop where
  sessions : (db.sessions.map (·.sessionId)).Nodup
  subsessions : (db.subsessions.map (·.subsessionId)).Nodup
  simsessions : (db.simsessions.map SimsessionRow.key).Nodup
  results : (db.results.map ResultRow.key).Nodup
  drivers : (db.drivers.map (·.custId)).Nodup
  names : (db.drivers.filterMap (·.name)).Nodup
  tracks : (db.tracks.map (·.packageId)).Nodup
  trackConfigs : (db.trackConfigs.map (·.trackId)).Nodup
  cars : (db.cars.map (·.carId)).Nodup

variable {db db' : Store}

theorem distinct_empty : ({} : Store).Distinct := by
  constructor <;> exact List.nodup_nil

/-! ## Each step keeps the keys -/

theorem Distinct.addSession (h : db.Distinct) (s : SessionRow) : (db.addSession s).Distinct := by
  rw [addSession_eq]
  split
  · exact h
  · next hfree =>
    exact { h with sessions := nodup_map_concat h.sessions fun y hy he => hfree (any_key hy he) }

theorem Distinct.placeSubsession {s : SubsessionRow} (h : db.Distinct)
    (hs : db.placeSubsession s = .ok db') : db'.Distinct := by
  unfold Store.placeSubsession Store.addSubsession at hs
  split at hs <;> try cases hs
  rename_i hok
  split at hok
  · cases hok
  · next hfree =>
    split at hok
    · cases hok
    · cases hok
      exact { h with subsessions := nodup_map_concat h.subsessions fun y hy he => hfree (any_key hy he) }

theorem Distinct.addSimsession {s : SimsessionRow} (h : db.Distinct)
    (hs : db.addSimsession s = .ok db') : db'.Distinct := by
  unfold Store.addSimsession at hs
  split at hs
  · cases hs
  · next hfree =>
    split at hs
    · cases hs
    · cases hs
      refine { h with simsessions := nodup_map_concat h.simsessions fun y hy he => hfree ?_ }
      simp only [SimsessionRow.key, Prod.mk.injEq] at he
      simp only [hasSimsession, List.any_eq_true, Bool.and_eq_true, beq_iff_eq]
      exact ⟨y, hy, he⟩

theorem Distinct.addDriver (h : db.Distinct) (d : DriverRow) : (db.addDriver d).Distinct := by
  unfold Store.addDriver
  split
  · exact h
  · next hnew =>
    have hkeys : ∀ name, ((db.drivers ++ [(⟨d.custId, name⟩ : StoredDriver)]).map (·.custId)).Nodup := fun _ =>
      nodup_map_concat h.drivers fun y hy he => hnew (any_key hy he)
    split
    · -- the name is held: the driver is kept without one
      refine { h with drivers := hkeys _, names := ?_ }
      rw [List.filterMap_append]
      simpa using h.names
    · next hname =>
      refine { h with drivers := hkeys _, names := ?_ }
      rw [List.filterMap_append]
      show (db.drivers.filterMap (·.name) ++ [d.displayName]).Nodup
      rw [← List.concat_eq_append]
      refine h.names.concat fun hmem => hname ?_
      obtain ⟨y, hy, hn⟩ := List.mem_filterMap.mp hmem
      exact any_key hy hn

theorem Distinct.addResult {r : ResultRow} (h : db.Distinct) (hr : db.addResult r = .ok db') :
    db'.Distinct := by
  unfold Store.addResult at hr
  split at hr
  · cases hr
  · next hfree =>
    split at hr
    · cases hr
    · cases hr
      refine { h with results := nodup_map_concat h.results fun y hy he => hfree ?_ }
      simp only [ResultRow.key, Prod.mk.injEq] at he
      simp only [List.any_eq_true, Bool.and_eq_true, beq_iff_eq]
      exact ⟨y, hy, ⟨⟨he.1, he.2.1⟩, he.2.2.1⟩, he.2.2.2⟩

theorem Distinct.addDrivers (h : db.Distinct) (ds : List DriverRow) :
    (ds.foldl Store.addDriver db).Distinct := by
  induction ds generalizing db with
  | nil => exact h
  | cons d rest ih => exact ih (h.addDriver d)

theorem Distinct.insert {rows : Rows} (h : db.Distinct) (hi : db.insert rows = .ok db') :
    db'.Distinct := by
  rw [insert_eq] at hi
  split at hi
  · cases hi
  · obtain ⟨db₁, h₁, hi⟩ := Except.bind_eq_ok.mp hi
    obtain ⟨db₂, h₂, h₃⟩ := Except.bind_eq_ok.mp hi
    have d₁ : db₁.Distinct := (h.addSession _).placeSubsession h₁
    have d₂ : db₂.Distinct := foldlM_keeps Distinct
      (fun _ _ _ _ hd hs => hd.addSimsession (Except.mapError_eq_ok.mp hs)) d₁ h₂
    exact foldlM_keeps Distinct (fun _ _ _ _ hd hs => hd.addResult (Except.mapError_eq_ok.mp hs))
      (d₂.addDrivers _) h₃

theorem Distinct.insertEach (h : db.Distinct) (rs : List Rows) : (db.insertEach rs).Distinct := by
  induction rs generalizing db with
  | nil => exact h
  | cons rows rest ih =>
    cases hi : db.insert rows with
    | ok db' => rw [insertEach_cons_ok hi]; exact ih (h.insert hi)
    | error f => rw [insertEach_cons_error hi]; exact ih h

/-! ## Replacing the reference data -/

/-- The track tables that replacing them leaves are keyed. -/
theorem replaceTracks_keyed {entries : List Catalog.TrackEntry} (h : db.replaceTracks entries = .ok db') :
    (db'.tracks.map (·.packageId)).Nodup ∧ (db'.trackConfigs.map (·.trackId)).Nodup := by
  dsimp only [Store.replaceTracks] at h
  refine foldlM_keeps (fun acc : Store => (acc.tracks.map (·.packageId)).Nodup ∧
    (acc.trackConfigs.map (·.trackId)).Nodup) ?_ ?_ h
  · intro e _ acc acc' ⟨htracks, hconfigs⟩ hstep
    by_cases h₁ : acc.tracks.any (·.packageId == e.track.packageId) = true <;>
      by_cases h₂ : acc.trackConfigs.any (·.trackId == e.config.trackId) = true <;>
      simp only [h₁, h₂, if_true, if_false, Bool.false_eq_true] at hstep
    -- a package seen before is skipped; a configuration seen before is refused
    · cases hstep
    · cases hstep
      exact ⟨htracks, nodup_map_concat hconfigs fun y hy he =>
        h₂ (any_key hy he)⟩
    · cases hstep
    · cases hstep
      exact ⟨nodup_map_concat htracks fun y hy he => h₁ (any_key hy he),
        nodup_map_concat hconfigs fun y hy he => h₂ (any_key hy he)⟩
  · exact ⟨List.nodup_nil, List.nodup_nil⟩

theorem replaceCars_keyed {cars : List Catalog.Car} (h : db.replaceCars cars = .ok db') :
    (db'.cars.map (·.carId)).Nodup := by
  dsimp only [Store.replaceCars] at h
  refine foldlM_keeps (fun acc : Store => (acc.cars.map (·.carId)).Nodup) ?_ ?_ h
  · intro c _ acc acc' hcars hstep
    split at hstep
    · cases hstep
    · next hfree =>
      cases hstep
      exact nodup_map_concat hcars fun y hy he => hfree (any_key hy he)
  · exact List.nodup_nil

theorem Distinct.replaceTracks {entries : List Catalog.TrackEntry} (h : db.Distinct)
    (hr : db.replaceTracks entries = .ok db') : db'.Distinct := by
  obtain ⟨htracks, hconfigs⟩ := replaceTracks_keyed hr
  rw [replaceTracks_eq] at hr
  cases ht : ({} : Store).replaceTracks entries with
  | error f => rw [ht] at hr; cases hr
  | ok t =>
    rw [ht] at hr
    cases hr
    exact { h with tracks := htracks, trackConfigs := hconfigs }

theorem Distinct.replaceCars {cars : List Catalog.Car} (h : db.Distinct)
    (hr : db.replaceCars cars = .ok db') : db'.Distinct := by
  have hcars := replaceCars_keyed hr
  rw [replaceCars_eq] at hr
  cases hc : ({} : Store).replaceCars cars with
  | error f => rw [hc] at hr; cases hr
  | ok c =>
    rw [hc] at hr
    cases hr
    exact { h with cars := hcars }

/-- **Every reachable store keeps its keys**, and gives each display name to one driver. -/
theorem Reachable.distinct (h : db.Reachable) : db.Distinct := by
  induction h with
  | empty => exact distinct_empty
  | insert _ hi ih => exact ih.insert hi
  | @close db c rs _ ih =>
    obtain ⟨hrun, _⟩ := (Ingester.follows_start db c).feed rs
    rw [Ingester.close, hrun.working]
    exact ih.insertEach _
  | @abort db c rs _ ih =>
    obtain ⟨hrun, _⟩ := (Ingester.follows_start db c).feed rs
    rw [Ingester.abort, hrun.committed]
    exact ih.insertEach _
  | replaceTracks _ hr ih => exact ih.replaceTracks hr
  | replaceCars _ hr ih => exact ih.replaceCars hr

/-! ## Looking rows up -/

variable {c : Int64} {n : Octets} {r : ResultRow} {sub : SubsessionRow} {ses : SessionRow}

theorem driverNamed_holder (hn : db.driverNamed n = some c) : ⟨c, some n⟩ ∈ db.drivers := by
  unfold driverNamed at hn
  obtain ⟨⟨c', name⟩, hd, rfl⟩ := Option.map_eq_some_iff.mp hn
  have hname : name = some n := by simpa using List.find?_some hd
  rw [← hname]
  exact List.mem_of_find?_eq_some hd

theorem Distinct.driverNamed_eq (h : db.Distinct) (hc : ⟨c, some n⟩ ∈ db.drivers) :
    db.driverNamed n = some c := by
  unfold driverNamed
  -- another driver with the name would be the holder itself
  rw [find?_of_unique hc (by simp) fun d hd hdn =>
    eq_of_filterMap_nodup h.names hd hc (by simpa using hdn) rfl]
  rfl

theorem driverNamed_eq_none (hn : ∀ d ∈ db.drivers, d.name ≠ some n) : db.driverNamed n = none := by
  unfold driverNamed
  rw [List.find?_eq_none.mpr fun d hd => by simpa using hn d hd]
  rfl

theorem Distinct.holder_unique {c₁ c₂ : Int64} (h : db.Distinct) (h₁ : ⟨c₁, some n⟩ ∈ db.drivers)
    (h₂ : ⟨c₂, some n⟩ ∈ db.drivers) : c₁ = c₂ :=
  congrArg StoredDriver.custId (eq_of_filterMap_nodup h.names h₁ h₂ rfl rfl)

theorem mem_resultsOf : r ∈ db.resultsOf c ↔ r ∈ db.results ∧ r.custId = c := by
  simp [resultsOf]

theorem resultsOf_perm (db : Store) (c : Int64) :
    (db.resultsOf c).Perm (db.results.filter (·.custId == c)) :=
  List.mergeSort_perm _ _

theorem Distinct.resultsOf_nodup (h : db.Distinct) (c : Int64) : (db.resultsOf c).Nodup :=
  (resultsOf_perm db c).nodup_iff.mpr (h.results.of_map _ |>.filter _)

theorem joined_some (h : db.joined r = some (sub, ses)) :
    sub ∈ db.subsessions ∧ sub.subsessionId = r.subsessionId ∧
      ses ∈ db.sessions ∧ ses.sessionId = sub.sessionId := by
  simp only [joined, bind, Option.bind_eq_some_iff, pure, Option.some.injEq, Prod.mk.injEq] at h
  obtain ⟨-, -, sub', hsub, ses', hses, rfl, rfl⟩ := h
  exact ⟨List.mem_of_find?_eq_some hsub, by simpa using List.find?_some hsub,
    List.mem_of_find?_eq_some hses, by simpa using List.find?_some hses⟩

/-- A result whose session of the subsession is stored is joined to its stored subsession and
session. -/
theorem Distinct.joined_eq (h : db.Distinct)
    (hsim : db.hasSimsession r.subsessionId r.simsessionNumber = true) (hsub : sub ∈ db.subsessions)
    (hsid : sub.subsessionId = r.subsessionId) (hses : ses ∈ db.sessions)
    (hsesid : ses.sessionId = sub.sessionId) : db.joined r = some (sub, ses) := by
  obtain ⟨s, hs⟩ := Option.isSome_iff_exists.mp (List.find?_isSome.mpr (List.any_eq_true.mp hsim))
  have hsub' : db.subsessions.find? (·.subsessionId == r.subsessionId) = some sub :=
    find?_of_key h.subsessions hsub fun y _ => by simp [hsid]
  have hses' : db.sessions.find? (·.sessionId == sub.sessionId) = some ses :=
    find?_of_key h.sessions hses fun y _ => by simp [hsesid]
  simp [joined, hs, hsub', hses']

end Store

end Store

end RaceArchive
