import Mathlib
import RaceArchive.Proofs.ReferenceSnapshots
import RaceArchive.Proofs.FirstSightings

/-!
# Replacing the reference tables

Replacing the tracks empties both track tables and then takes the snapshot's entries in order:
an entry's package is added unless a package of that id is there already, and its configuration is
added unless a configuration of that id is there already, which refuses the whole replacement.
Replacing the cars empties the car table and adds the cars in order, refusing a car whose id is
there already.

`Inserted` says what such a run of keyed insertions ends in, for any list of items: the tables of
all of them when no two share a key, and otherwise the refusal of the first item whose key an
earlier item has (`foldlM_inserted`). So a replacement succeeds exactly when the configuration ids,
or the car ids, are distinct (`Inserted.ok_iff`); it then holds each package once with the name of
its first entry, every configuration and every car, and the fact tables as they were. A load that
is refused leaves the whole machine as it was, its reference tables included
(`reference_replacement_all_or_nothing`).
-/

namespace RaceArchive

section Inserted

variable {ε σ α κ : Type}

/-- What inserting the items of a list one at a time, under a key that no two rows may share,
ends in: the state after all of them when their keys are distinct, and otherwise the refusal of
the first item whose key an earlier item has. -/
inductive Inserted (key : α → κ) (state : List α → σ) (refuse : α → ε) :
    List α → Except ε σ → Prop
  | all {xs : List α} : (xs.map key).Nodup → Inserted key state refuse xs (.ok (state xs))
  | refused (pre : List α) (a : α) (post : List α) : (pre.map key).Nodup → key a ∈ pre.map key →
      Inserted key state refuse (pre ++ a :: post) (.error (refuse a))

variable {key : α → κ} {state : List α → σ} {refuse : α → ε}

theorem Inserted.ok_iff {xs : List α} {out : Except ε σ} (h : Inserted key state refuse xs out) :
    (∃ s, out = .ok s) ↔ (xs.map key).Nodup := by
  cases h with
  | all hxs => exact ⟨fun _ => hxs, fun _ => ⟨_, rfl⟩⟩
  | refused pre a post _ ha =>
    refine ⟨fun ⟨_, he⟩ => (by cases he), fun hnd => ?_⟩
    -- the refused item's key stands twice: at an earlier item and at the item itself
    rw [List.map_append, List.map_cons, List.nodup_append] at hnd
    exact (hnd.2.2 _ ha _ List.mem_cons_self rfl).elim

/-- A fold whose step refuses an item whose key an earlier item has, and otherwise moves to the
state of the longer prefix, ends as `Inserted` says, from any prefix of distinct keys. -/
theorem foldlM_inserted [DecidableEq κ] (key : α → κ) (state : List α → σ) (refuse : α → ε)
    {step : σ → α → Except ε σ}
    (hstep : ∀ pre a, step (state pre) a =
      if key a ∈ pre.map key then .error (refuse a) else .ok (state (pre ++ [a]))) :
    ∀ (xs pre : List α), (pre.map key).Nodup →
      Inserted key state refuse (pre ++ xs) (xs.foldlM step (state pre))
  | [], pre, hpre => by
    rw [List.append_nil]
    exact Inserted.all hpre
  | a :: rest, pre, hpre => by
    rw [List.foldlM_cons, hstep]
    by_cases ha : key a ∈ pre.map key
    · rw [if_pos ha]
      exact Inserted.refused pre a rest hpre ha
    · rw [if_neg ha]
      have hlonger : ((pre ++ [a]).map key).Nodup := by
        rw [List.map_append, List.map_singleton, ← List.concat_eq_append]
        exact hpre.concat ha
      have hrest := foldlM_inserted key state refuse hstep rest (pre ++ [a]) hlonger
      rwa [List.append_assoc, List.singleton_append] at hrest

end Inserted

namespace Store
namespace Store

/-! ## The tables a replacement leaves -/

/-- `db` with the track tables of `entries`: each package once, with the name of its first entry,
and the configuration of every entry. -/
def withTracks (db : Store) (entries : List Catalog.TrackEntry) : Store :=
  { db with tracks := (entries.map (·.track)).eraseDupsBy (·.packageId == ·.packageId),
            trackConfigs := entries.map (·.config) }

/-- `db` with the car table `cars`. -/
def withCars (db : Store) (cars : List Catalog.Car) : Store := { db with cars }

/-- The refusal of an entry whose configuration id is taken. -/
def configTaken (e : Catalog.TrackEntry) : Failure :=
  writing ("inserting track config " ++ toString e.config.trackId.toInt)
    (Refusal.keyTaken ["track_config.track_id"]).failure

/-- The refusal of a car whose id is taken. -/
def carTaken (c : Catalog.Car) : Failure :=
  writing ("inserting car " ++ toString c.carId.toInt) (Refusal.keyTaken ["car.car_id"]).failure

theorem packages_concat (pre : List Catalog.TrackEntry) (e : Catalog.TrackEntry) :
    (pre.map (·.track) ++ [e.track]).eraseDupsBy (·.packageId == ·.packageId) =
      if ((pre.map (·.track)).eraseDupsBy (·.packageId == ·.packageId)).any
          (·.packageId == e.track.packageId) then
        (pre.map (·.track)).eraseDupsBy (·.packageId == ·.packageId)
      else (pre.map (·.track)).eraseDupsBy (·.packageId == ·.packageId) ++ [e.track] := by
  rw [eraseDupsBy_concat]
  have hsym : (fun b : Catalog.Track => e.track.packageId == b.packageId) =
      (·.packageId == e.track.packageId) := funext fun _ => Bool.beq_comm
  rw [hsym]

/-- Replacing the tracks is a run of keyed insertions by configuration id. -/
theorem replaceTracks_inserted (db : Store) (entries : List Catalog.TrackEntry) :
    Inserted (·.config.trackId) db.withTracks configTaken entries (db.replaceTracks entries) := by
  unfold replaceTracks
  refine foldlM_inserted (·.config.trackId) db.withTracks configTaken ?_ entries [] List.nodup_nil
  intro pre e
  have hcfg : (e.config.trackId ∈ pre.map (·.config.trackId)) ↔
      ∃ x ∈ pre, x.config.trackId = e.config.trackId := List.mem_map
  -- the package step and the configuration step are decided apart
  by_cases hid : e.config.trackId ∈ pre.map (·.config.trackId)
  · by_cases hpkg : ((pre.map (·.track)).eraseDupsBy (·.packageId == ·.packageId)).any
        (·.packageId == e.track.packageId) <;>
      simp [withTracks, hpkg, hcfg.mp hid, configTaken]
  · have hfree : ¬∃ x ∈ pre, x.config.trackId = e.config.trackId := fun h => hid (hcfg.mpr h)
    by_cases hpkg : ((pre.map (·.track)).eraseDupsBy (·.packageId == ·.packageId)).any
        (·.packageId == e.track.packageId) <;>
      simp [withTracks, hpkg, hid, hfree, packages_concat]

/-- Replacing the cars is a run of keyed insertions by car id. -/
theorem replaceCars_inserted (db : Store) (cars : List Catalog.Car) :
    Inserted (·.carId) db.withCars carTaken cars (db.replaceCars cars) := by
  unfold replaceCars
  refine foldlM_inserted (·.carId) db.withCars carTaken ?_ cars [] List.nodup_nil
  intro pre c
  have hmem : c.carId ∈ pre.map (·.carId) ↔ ∃ x ∈ pre, x.carId = c.carId := List.mem_map
  by_cases hid : c.carId ∈ pre.map (·.carId)
  · simp [withCars, hmem.mp hid, carTaken]
  · have hfree : ¬∃ x ∈ pre, x.carId = c.carId := fun h => hid (hmem.mpr h)
    simp [withCars, hid, hfree]

/-- **Replacing the reference tables is all or nothing.** For every store and every list of
track entries, the replacement holds each package once with the name of its first entry and the
configuration of every entry, with the other tables as they were, when no two entries share a
configuration id, and otherwise refuses the first entry whose configuration id an earlier entry
has; the cars are replaced the same way by car id. A load whose reading or replacement is refused
leaves the machine, its store included, as it was. -/
theorem reference_replacement_all_or_nothing (db : Store) (entries : List Catalog.TrackEntry)
    (cars : List Catalog.Car) :
    Inserted (·.config.trackId) db.withTracks configTaken entries (db.replaceTracks entries) ∧
      Inserted (·.carId) db.withCars carTaken cars (db.replaceCars cars) ∧
      ∀ (raw : ByteArray) (r r' : Sync.Report) (m m' : Sync.Machine) (f : Failure),
        ((Sync.loadTracks raw).exec r m = ((.error f, r'), m') → m' = m) ∧
          ((Sync.loadCars raw).exec r m = ((.error f, r'), m') → m' = m) :=
  ⟨replaceTracks_inserted db entries, replaceCars_inserted db cars,
    fun _ _ _ _ _ _ => ⟨fun h => (Sync.loadTracks_error h).1, fun h => (Sync.loadCars_error h).1⟩⟩

end Store
end Store

end RaceArchive
