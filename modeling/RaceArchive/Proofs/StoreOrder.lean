import Mathlib
import RaceArchive.Proofs.SyncRuns

/-!
# The order in which subsessions are stored

Storing a subsession reads and writes the fact tables alone (`Store.insert_withRefs`), and
replacing the tracks or the cars reads nothing of the store (`Store.replaceTracks_eq`). So the
fact tables and the reference tables can be rebuilt apart.

Storing a batch of subsessions one after another (`Store.insertAll`) succeeds exactly when no
subsession of the batch is stored, no two share an id, and the sessions of each carry distinct
numbers (`Store.Storable`). The store then gains the batch's rows (`Store.Adds`). Those
conditions do not depend on the batch's order, so storing the batch in another order also
succeeds. The result holds the same subsessions, sessions of subsessions and results, and the
same sessions and drivers by key (`Store.insertAll_perm`).

What does depend on the order is the names. A session keeps the series of the first subsession
that named it, and a display name belongs to the first driver seen with it. Two drivers of one
name therefore swap who holds it when their races are stored the other way round
(`Store.storing_order_decides_names`).
-/

namespace RaceArchive

theorem foldlM_map_comm {ε σ τ α : Type} {step : σ → α → Except ε σ} {step' : τ → α → Except ε τ}
    (f : σ → τ) (h : ∀ s a, step' (f s) a = (step s a).map f) :
    ∀ (xs : List α) (s : σ), xs.foldlM step' (f s) = (xs.foldlM step s).map f
  | [], _ => rfl
  | x :: xs, s => by
    rw [List.foldlM_cons, List.foldlM_cons, h]
    cases step s x with
    | error e => rfl
    | ok s' => exact foldlM_map_comm f h xs s'

theorem Except.map_bind {ε α β γ : Type} (x : Except ε α) (g : α → Except ε β) (f : β → γ) :
    (x >>= g).map f = x >>= fun a => (g a).map f := by
  cases x <;> rfl

theorem Except.bind_map {ε α β γ : Type} (x : Except ε α) (f : α → β) (g : β → Except ε γ) :
    x.map f >>= g = x >>= fun a => g (f a) := by
  cases x <;> rfl

end RaceArchive

namespace RaceArchive.Store
open Results
namespace Store

/-! ## Fact tables and reference tables -/

/-- The fact tables of `db` with the reference tables of `ref`. -/
def withRefs (db ref : Store) : Store :=
  { db with tracks := ref.tracks, trackConfigs := ref.trackConfigs, cars := ref.cars }

variable {db ref : Store}

@[simp] theorem withRefs_drivers : (db.withRefs ref).drivers = db.drivers := rfl
@[simp] theorem withRefs_sessions : (db.withRefs ref).sessions = db.sessions := rfl
@[simp] theorem withRefs_subsessions : (db.withRefs ref).subsessions = db.subsessions := rfl
@[simp] theorem withRefs_simsessions : (db.withRefs ref).simsessions = db.simsessions := rfl
@[simp] theorem withRefs_results : (db.withRefs ref).results = db.results := rfl
@[simp] theorem withRefs_tracks : (db.withRefs ref).tracks = ref.tracks := rfl
@[simp] theorem withRefs_trackConfigs : (db.withRefs ref).trackConfigs = ref.trackConfigs := rfl
@[simp] theorem withRefs_cars : (db.withRefs ref).cars = ref.cars := rfl
@[simp] theorem withRefs_self (db : Store) : db.withRefs db = db := rfl
@[simp] theorem withRefs_withRefs (db r r' : Store) : (db.withRefs r).withRefs r' = db.withRefs r' := rfl
@[simp] theorem hasSimsession_withRefs (a n : Int64) :
    (db.withRefs ref).hasSimsession a n = db.hasSimsession a n := rfl
@[simp] theorem hasSubsession_withRefs (id : Int64) : (db.withRefs ref).hasSubsession id = db.hasSubsession id := rfl

theorem addSession_withRefs (s : SessionRow) : (db.withRefs ref).addSession s = (db.addSession s).withRefs ref := by
  rw [addSession_eq, addSession_eq]; rfl

theorem addSubsession_withRefs (s : SubsessionRow) :
    (db.withRefs ref).addSubsession s = (db.addSubsession s).map (·.withRefs ref) := by
  unfold addSubsession
  by_cases h₁ : db.hasSubsession s.subsessionId
  · simp [h₁]; rfl
  · by_cases h₂ : db.sessions.any (·.sessionId == s.sessionId)
    · simp [h₁, h₂]; rfl
    · simp [h₁, h₂]; rfl

theorem placeSubsession_withRefs (s : SubsessionRow) :
    (db.withRefs ref).placeSubsession s = (db.placeSubsession s).map (·.withRefs ref) := by
  unfold placeSubsession
  rw [addSubsession_withRefs]
  rcases db.addSubsession s with (_ | _) | _ <;> rfl

theorem simStep_withRefs (S : Int64) (s : SimsessionRow) :
    simStep S (db.withRefs ref) s = (simStep S db s).map (·.withRefs ref) := by
  unfold simStep addSimsession
  by_cases h₁ : db.hasSimsession s.subsessionId s.number
  · simp [h₁]; rfl
  · by_cases h₂ : db.hasSubsession s.subsessionId
    · simp [h₁, h₂]; rfl
    · simp [h₁, h₂]; rfl

theorem addDriver_withRefs (d : DriverRow) : (db.withRefs ref).addDriver d = (db.addDriver d).withRefs ref := by
  unfold addDriver
  by_cases h₁ : db.drivers.any (·.custId == d.custId)
  · simp [h₁]
  · by_cases h₂ : db.drivers.any (·.name == some d.displayName)
    · simp [h₁, h₂]; rfl
    · simp [h₁, h₂]; rfl

theorem resultStep_withRefs (S : Int64) (r : ResultRow) :
    resultStep S (db.withRefs ref) r = (resultStep S db r).map (·.withRefs ref) := by
  unfold resultStep addResult
  by_cases h₁ : db.results.any (fun x => x.custId == r.custId && x.teamId == r.teamId &&
      x.subsessionId == r.subsessionId && x.simsessionNumber == r.simsessionNumber)
  · simp [h₁]; rfl
  · by_cases h₂ : !db.drivers.any (·.custId == r.custId) || !db.hasSimsession r.subsessionId r.simsessionNumber
    · simp only [withRefs_results, withRefs_drivers, hasSimsession_withRefs, h₁, h₂]; rfl
    · simp only [withRefs_results, withRefs_drivers, hasSimsession_withRefs, h₁, h₂]; rfl

/-- Storing a subsession reads and writes the fact tables alone. -/
theorem insert_withRefs (db ref : Store) (rows : Rows) :
    (db.withRefs ref).insert rows = (db.insert rows).map (·.withRefs ref) := by
  rw [insert_eq, insert_eq, hasSubsession_withRefs]
  split
  · rfl
  · rw [addSession_withRefs, placeSubsession_withRefs, Except.bind_map, Except.map_bind]
    congr 1
    funext db₁
    rw [foldlM_map_comm (fun s : Store => s.withRefs ref) (fun _ _ => simStep_withRefs _ _),
      Except.bind_map, Except.map_bind]
    congr 1
    funext db₂
    rw [List.foldl_hom (fun s : Store => s.withRefs ref) (fun _ _ => addDriver_withRefs _),
      foldlM_map_comm (fun s : Store => s.withRefs ref) (fun _ _ => resultStep_withRefs _ _)]

theorem replaceTracks_eq (db : Store) (entries : List Catalog.TrackEntry) :
    db.replaceTracks entries = (({} : Store).replaceTracks entries).map fun t =>
      { db with tracks := t.tracks, trackConfigs := t.trackConfigs } := by
  unfold replaceTracks
  dsimp only
  refine foldlM_map_comm (fun t : Store => { db with tracks := t.tracks, trackConfigs := t.trackConfigs })
    ?_ entries { ({} : Store) with tracks := [], trackConfigs := [] }
  intro acc e
  by_cases h₁ : acc.tracks.any (·.packageId == e.track.packageId)
  · by_cases h₂ : acc.trackConfigs.any (·.trackId == e.config.trackId) <;> simp [h₁, h₂] <;> rfl
  · by_cases h₂ : acc.trackConfigs.any (·.trackId == e.config.trackId) <;> simp [h₁, h₂] <;> rfl

theorem replaceCars_eq (db : Store) (cars : List Catalog.Car) :
    db.replaceCars cars = (({} : Store).replaceCars cars).map fun t => { db with cars := t.cars } := by
  unfold replaceCars
  dsimp only
  refine foldlM_map_comm (fun t : Store => { db with cars := t.cars }) ?_ cars { ({} : Store) with cars := [] }
  intro acc c
  by_cases h : acc.cars.any (·.carId == c.carId) <;> simp [h] <;> rfl

/-! ## Storing many subsessions -/

/-- Stores subsessions one after another; the first refusal refuses them all. -/
def insertAll (db : Store) (rs : List Rows) : Except Failure Store := rs.foldlM insert db

@[simp] theorem insertAll_nil (db : Store) : db.insertAll [] = .ok db := rfl

theorem insertAll_cons (db : Store) (rows : Rows) (rest : List Rows) :
    db.insertAll (rows :: rest) = db.insert rows >>= fun db₁ => db₁.insertAll rest := rfl

theorem insertAll_subsessions {db w : Store} {rs : List Rows} (h : db.insertAll rs = .ok w) :
    w.subsessions = db.subsessions ++ rs.map (·.subsession) := by
  induction rs generalizing db with
  | nil => cases h; simp
  | cons rows rest ih =>
    rw [insertAll_cons] at h
    obtain ⟨db₁, h₁, h⟩ := Except.bind_eq_ok.mp h
    rw [ih h, insert_subsessions h₁, List.map_cons, List.append_assoc, List.singleton_append]

theorem ingestEach_ok : ∀ {db : Store} {raws : List ByteArray} {db' : Store},
    db.ingestEach raws = .ok db' →
      ∃ rs, List.Forall₂ (fun raw rows => flatten raw = .ok rows) raws rs ∧ db.insertAll rs = .ok db'
  | _, [], _, he => by cases he; exact ⟨[], .nil, rfl⟩
  | db, raw :: raws, _, he => by
    rw [ingestEach, List.foldlM_cons] at he
    cases hi : db.ingest raw with
    | error f => rw [hi] at he; cases he
    | ok got =>
      rw [hi] at he
      obtain ⟨hf, hins⟩ := ingest_ok hi
      obtain ⟨rs, hrs, hall⟩ := ingestEach_ok he
      exact ⟨got.1 :: rs, .cons hf hrs, by rw [insertAll_cons, hins]; exact hall⟩

theorem insertAll_append (db : Store) (rs rs' : List Rows) :
    db.insertAll (rs ++ rs') = db.insertAll rs >>= fun db₁ => db₁.insertAll rs' :=
  List.foldlM_append

theorem insertAll_withRefs (db ref : Store) (rs : List Rows) :
    (db.withRefs ref).insertAll rs = (db.insertAll rs).map (·.withRefs ref) :=
  foldlM_map_comm (fun s : Store => s.withRefs ref) (fun s rows => insert_withRefs s ref rows) rs db

theorem insertAll_refs {db db' : Store} {rs : List Rows} (h : db.insertAll rs = .ok db') :
    db'.withRefs db = db' := by
  have := insertAll_withRefs db db rs
  rw [withRefs_self, h] at this
  exact (Except.ok.inj this).symm

/-- Every session and every driver is stored once. -/
structure Keyed (db : Store) : Prop where
  sessions : (db.sessions.map (·.sessionId)).Nodup
  drivers : (db.drivers.map (·.custId)).Nodup

theorem keyed_empty (ref : Store) : (({} : Store).withRefs ref).Keyed := ⟨.nil, .nil⟩

theorem linked_withRefs_empty (ref : Store) : (({} : Store).withRefs ref).Linked := linked_empty.of_facts rfl

/-- Subsessions that can all be stored in `db`: none is stored, no two share an id, and the sessions
of each carry distinct numbers. -/
structure Storable (db : Store) (rs : List Rows) : Prop where
  fresh : ∀ rows ∈ rs, db.hasSubsession rows.subsession.subsessionId = false
  distinct : (rs.map (·.subsession.subsessionId)).Nodup
  numbers : ∀ rows ∈ rs, (rows.simsessions.toList.map (·.number)).Nodup

/-- What storing the subsessions `rs` in `db` leaves: their subsessions, sessions of subsessions and
results after the stored ones, in order; the sessions and drivers stored before or named by one of
them, by key; and the reference tables of `db`. -/
structure Adds (db : Store) (rs : List Rows) (s : Store) : Prop where
  subsessions : s.subsessions = db.subsessions ++ rs.map (·.subsession)
  simsessions : s.simsessions = db.simsessions ++ rs.flatMap (·.simsessions.toList)
  results : s.results = db.results ++ rs.flatMap (·.results.toList)
  sessionIds : ∀ x, x ∈ s.sessions.map (·.sessionId) ↔
    x ∈ db.sessions.map (·.sessionId) ∨ ∃ rows ∈ rs, rows.session.sessionId = x
  driverIds : ∀ x, x ∈ s.drivers.map (·.custId) ↔
    x ∈ db.drivers.map (·.custId) ∨ ∃ rows ∈ rs, x ∈ rows.drivers.toList.map (·.custId)
  refs : s.withRefs db = s

section Gains

variable {db db' : Store} {rows : Rows}

theorem Gains.sessionId_mem (h : Gains db db' rows) (x : Int64) :
    x ∈ db'.sessions.map (·.sessionId) ↔
      x ∈ db.sessions.map (·.sessionId) ∨ rows.session.sessionId = x := by
  rw [h.sessions]
  split
  · next hany =>
    -- the session was stored, so naming it adds nothing
    refine ⟨.inl, fun hx => hx.elim id fun hid => ?_⟩
    obtain ⟨s, hs, hsid⟩ := List.any_eq_true.mp hany
    exact List.mem_map.mpr ⟨s, hs, (beq_iff_eq.mp hsid).trans hid⟩
  · simp [eq_comm]

theorem Gains.custId_mem (h : Gains db db' rows) (x : Int64) :
    x ∈ db'.drivers.map (·.custId) ↔
      x ∈ db.drivers.map (·.custId) ∨ x ∈ rows.drivers.toList.map (·.custId) := by
  obtain ⟨new, hdrivers, hnew, -⟩ := h.drivers
  rw [hdrivers, List.map_append, List.mem_append, hnew, List.mem_filter]
  constructor
  · rintro (hx | ⟨hx, -⟩)
    · exact .inl hx
    · exact .inr hx
  · rintro (hx | hx)
    · exact .inl hx
    · by_cases hheld : x ∈ db.drivers.map (·.custId)
      · exact .inl hheld
      · refine .inr ⟨hx, ?_⟩
        simpa [List.mem_map] using hheld

theorem Gains.keyed (h : Gains db db' rows) (hk : db.Keyed) (hw : rows.WellFormed) : db'.Keyed := by
  constructor
  · rw [h.sessions]
    split
    · exact hk.sessions
    · next hany =>
      rw [List.map_append, List.nodup_append]
      refine ⟨hk.sessions, by simp, ?_⟩
      intro a ha b hb hab
      rw [List.map_singleton, List.mem_singleton] at hb
      obtain ⟨s, hs, rfl⟩ := List.mem_map.mp ha
      exact hany (List.any_eq_true.mpr ⟨s, hs, beq_iff_eq.mpr (hab.trans hb)⟩)
  · obtain ⟨new, hdrivers, hnew, -⟩ := h.drivers
    rw [hdrivers, List.map_append, List.nodup_append, hnew]
    refine ⟨hk.drivers, hw.drivers.filter _, ?_⟩
    intro a ha b hb hab
    rw [List.mem_filter] at hb
    subst hab
    obtain ⟨d, hd, rfl⟩ := List.mem_map.mp ha
    simp only [Bool.not_eq_true', List.any_eq_false, beq_iff_eq] at hb
    exact hb.2 d hd rfl

end Gains

section Batch

variable {db s : Store} {rs : List Rows}

theorem Storable.tail {rows : Rows} {db₁ : Store} (h : Storable db (rows :: rest))
    (hg : Gains db db₁ rows) : Storable db₁ rest := by
  obtain ⟨hfresh, hdistinct, hnumbers⟩ := h
  rw [List.map_cons, List.nodup_cons] at hdistinct
  refine ⟨fun r hr => ?_, hdistinct.2, fun r hr => hnumbers r (List.mem_cons_of_mem _ hr)⟩
  -- a later subsession is neither stored before nor the one just stored
  have hne : r.subsession.subsessionId ≠ rows.subsession.subsessionId :=
    fun e => hdistinct.1 (e ▸ List.mem_map_of_mem hr)
  have hold := hfresh r (List.mem_cons_of_mem _ hr)
  simp only [hasSubsession, hg.subsessions, List.any_append, List.any_cons, List.any_nil,
    Bool.or_false, Bool.or_eq_false_iff, beq_eq_false_iff_ne] at hold ⊢
  exact ⟨hold, hne.symm⟩

/-- **Storing a storable batch succeeds**, and the store gains exactly the batch's rows. -/
theorem insertAll_ok (hl : db.Linked) (hk : db.Keyed) (hw : ∀ rows ∈ rs, rows.WellFormed)
    (h : Storable db rs) : ∃ s, db.insertAll rs = .ok s ∧ Adds db rs s ∧ s.Keyed := by
  induction rs generalizing db with
  | nil => exact ⟨db, rfl, ⟨by simp, by simp, by simp, by simp, by simp, rfl⟩, hk⟩
  | cons rows rest ih =>
    have hw₀ := hw rows List.mem_cons_self
    obtain ⟨db₁, hins, hg⟩ := insert_fresh_ok hl hw₀ (h.fresh rows List.mem_cons_self)
      (h.numbers rows List.mem_cons_self)
    obtain ⟨s, hrest, hadds, hks⟩ := ih (hl.insert hins) (hg.keyed hk hw₀)
      (fun r hr => hw r (List.mem_cons_of_mem _ hr)) (h.tail hg)
    have hall : db.insertAll (rows :: rest) = .ok s := by rw [insertAll_cons, hins]; exact hrest
    refine ⟨s, hall, ⟨?_, ?_, ?_, fun x => ?_, fun x => ?_, insertAll_refs hall⟩, hks⟩
    · rw [hadds.subsessions, hg.subsessions]; simp
    · rw [hadds.simsessions, hg.simsessions]; simp
    · rw [hadds.results, hg.results]; simp
    · rw [hadds.sessionIds, hg.sessionId_mem]
      simp only [List.mem_cons, exists_eq_or_imp]
      tauto
    · rw [hadds.driverIds, hg.custId_mem]
      simp only [List.mem_cons, exists_eq_or_imp]
      tauto

/-- A batch that is stored whole was storable. -/
theorem storable_of_insertAll (hl : db.Linked) (hw : ∀ rows ∈ rs, rows.WellFormed)
    (h : db.insertAll rs = .ok s) : Storable db rs := by
  induction rs generalizing db with
  | nil => exact ⟨by simp, .nil, by simp⟩
  | cons rows rest ih =>
    have hw₀ := hw rows List.mem_cons_self
    rw [insertAll_cons] at h
    obtain ⟨db₁, hins, hrest⟩ := Except.bind_eq_ok.mp h
    -- a stored subsession is refused, and so are sessions with a number held twice
    have hS : db.hasSubsession rows.subsession.subsessionId = false := by
      cases hS : db.hasSubsession rows.subsession.subsessionId
      · rfl
      · rw [insert_eq, if_pos hS] at hins; cases hins
    have hn : (rows.simsessions.toList.map (·.number)).Nodup := by
      by_contra hn
      obtain ⟨n, -, herr⟩ := insert_fresh_taken hl hw₀ hS hn
      rw [herr] at hins; cases hins
    obtain ⟨fresh, distinct, numbers⟩ := ih (hl.insert hins) (fun r hr => hw r (List.mem_cons_of_mem _ hr)) hrest
    have hsubs := insert_subsessions hins
    refine ⟨fun r hr => ?_, ?_, fun r hr => ?_⟩
    · rcases List.mem_cons.mp hr with rfl | hr
      · exact hS
      · have := fresh r hr
        simp only [hasSubsession, hsubs, List.any_append, Bool.or_eq_false_iff] at this ⊢
        exact this.1
    · rw [List.map_cons, List.nodup_cons]
      refine ⟨fun hmem => ?_, distinct⟩
      obtain ⟨r, hr, hid⟩ := List.mem_map.mp hmem
      have := fresh r hr
      simp [hasSubsession, hsubs, hid] at this
    · rcases List.mem_cons.mp hr with rfl | hr
      · exact hn
      · exact numbers r hr

/-- Two stores hold the same subsessions, sessions of subsessions and results up to order, the
same sessions and drivers by key, and the same reference tables. -/
structure Alike (s s' : Store) : Prop where
  subsessions : s.subsessions.Perm s'.subsessions
  simsessions : s.simsessions.Perm s'.simsessions
  results : s.results.Perm s'.results
  sessionIds : (s.sessions.map (·.sessionId)).Perm (s'.sessions.map (·.sessionId))
  driverIds : (s.drivers.map (·.custId)).Perm (s'.drivers.map (·.custId))
  tracks : s.tracks = s'.tracks
  trackConfigs : s.trackConfigs = s'.trackConfigs
  cars : s.cars = s'.cars

/-- Storing two orderings of one batch leaves alike stores. -/
theorem Adds.alike {rs' : List Rows} {s' : Store} (h : Adds db rs s) (h' : Adds db rs' s')
    (hperm : rs.Perm rs') (hk : s.Keyed) (hk' : s'.Keyed) : Alike s s' := by
  refine ⟨?_, ?_, ?_, ?_, ?_, ?_, ?_, ?_⟩
  · rw [h.subsessions, h'.subsessions]; exact (hperm.map _).append_left _
  · rw [h.simsessions, h'.simsessions]; exact (hperm.flatMap_right _).append_left _
  · rw [h.results, h'.results]; exact (hperm.flatMap_right _).append_left _
  · -- keyed lists with the same members are orderings of each other
    refine (List.perm_ext_iff_of_nodup hk.sessions hk'.sessions).mpr fun x => ?_
    rw [h.sessionIds, h'.sessionIds]
    simp only [hperm.mem_iff]
  · refine (List.perm_ext_iff_of_nodup hk.drivers hk'.drivers).mpr fun x => ?_
    rw [h.driverIds, h'.driverIds]
    simp only [hperm.mem_iff]
  · rw [← h.refs, ← h'.refs]; rfl
  · rw [← h.refs, ← h'.refs]; rfl
  · rw [← h.refs, ← h'.refs]; rfl

/-- **Storing a batch in another order** succeeds whenever the batch was stored whole, and leaves
a store alike to the first. -/
theorem insertAll_perm {rs' : List Rows} (hl : db.Linked) (hk : db.Keyed)
    (hw : ∀ rows ∈ rs, rows.WellFormed) (hperm : rs.Perm rs') (h : db.insertAll rs = .ok s) :
    ∃ s', db.insertAll rs' = .ok s' ∧ Alike s s' := by
  have hst := storable_of_insertAll hl hw h
  have hw' : ∀ rows ∈ rs', rows.WellFormed := fun r hr => hw r (hperm.mem_iff.mpr hr)
  -- the conditions for storing a batch do not depend on its order
  have hst' : Storable db rs' :=
    ⟨fun r hr => hst.fresh r (hperm.mem_iff.mpr hr), (hperm.map _).nodup_iff.mp hst.distinct,
      fun r hr => hst.numbers r (hperm.mem_iff.mpr hr)⟩
  obtain ⟨s₀, h₀, hadds, hks⟩ := insertAll_ok hl hk hw hst
  obtain ⟨s', h', hadds', hks'⟩ := insertAll_ok hl hk hw' hst'
  rw [h] at h₀
  cases h₀
  exact ⟨s', h', hadds.alike hadds' hperm hks hks'⟩

end Batch

/-! ## The order decides names -/

/-- A race in session 1 won by one driver, whose display name is `Sam`. -/
def sameNameRace (subsession custId : Int64) (series : Octets) : Rows where
  session := ⟨1, series⟩
  subsession := ⟨subsession, 1, 0, 2, 47⟩
  simsessions := #[⟨subsession, 0, 6⟩]
  drivers := #[⟨custId, [83, 97, 109]⟩]
  results := #[⟨custId, 0, subsession, 0, 1500, 0, 1, 0, 0⟩]

/-- Two drivers named `Sam` race in session 1, under series `A` in subsession 200 and `B` in
subsession 100. Stored in that order, driver 2 holds the name and the session is of series `A`;
stored by ascending subsession, driver 1 holds the name and the session is of series `B`. -/
theorem storing_order_decides_names :
    (({} : Store).insertAll [sameNameRace 200 2 [65], sameNameRace 100 1 [66]]).map
        (fun s => (s.drivers, s.sessions)) =
      .ok ([⟨2, some [83, 97, 109]⟩, ⟨1, none⟩], [⟨1, [65]⟩]) ∧
    (({} : Store).insertAll [sameNameRace 100 1 [66], sameNameRace 200 2 [65]]).map
        (fun s => (s.drivers, s.sessions)) =
      .ok ([⟨1, some [83, 97, 109]⟩, ⟨2, none⟩], [⟨1, [66]⟩]) :=
  ⟨by rfl, by rfl⟩
end Store

end RaceArchive.Store
