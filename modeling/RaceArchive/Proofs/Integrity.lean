import RaceArchive.Proofs.BulkRefinement
import RaceArchive.Proofs.Flatten

/-!
# Referential integrity of the store

The references between stored rows always hold (`Store.Linked`): a subsession's session is
stored, a session of a subsession belongs to a stored subsession, and a result to a stored driver
and a stored session of a subsession. The store checks each reference as it adds a row, and the
reference tables are replaced without touching the others, so every store that the store's
operations reach from the empty one is linked (`Store.Reachable.linked`).

`Store.insert_eq` writes storing a subsession as its steps, so that later proofs can take them
one at a time.
-/

namespace RaceArchive.Store

open Results

@[simp] theorem Except.mapError_ok {ε ε' α : Type} (a : α) (g : ε → ε') :
    (Except.ok a : Except ε α).mapError g = .ok a := rfl

@[simp] theorem Except.mapError_error {ε ε' α : Type} (e : ε) (g : ε → ε') :
    (Except.error e : Except ε α).mapError g = .error (g e) := rfl

theorem Except.mapError_eq_ok {ε ε' α : Type} {x : Except ε α} {g : ε → ε'} {a : α} :
    x.mapError g = .ok a ↔ x = .ok a := by
  cases x with
  | error e => exact ⟨fun h => (nomatch h), fun h => (nomatch h)⟩
  | ok b => exact ⟨fun h => by cases h; rfl, fun h => by cases h; rfl⟩

namespace Store

/-! ## Storing a subsession, step by step -/

/-- Adds a session of subsession `id`, reporting a refusal in its context. -/
def simStep (id : Int64) (db : Store) (s : SimsessionRow) : Except Failure Store :=
  (db.addSimsession s).mapError fun r =>
    writing ("inserting simsession " ++ toString id.toInt ++ "/" ++ toString s.number.toInt) r.failure

/-- Adds a result of subsession `id`, reporting a refusal in its context. -/
def resultStep (id : Int64) (db : Store) (r : ResultRow) : Except Failure Store :=
  (db.addResult r).mapError fun f =>
    writing ("inserting result of driver " ++ toString r.custId.toInt ++ " in subsession " ++
      toString id.toInt) f.failure

/-- Adds a subsession; a taken id is a stored subsession. -/
def placeSubsession (db : Store) (s : SubsessionRow) : Except Failure Store :=
  match db.addSubsession s with
  | .ok db => pure db
  | .error (.keyTaken _) => throw (duplicate s.subsessionId)
  | .error r => throw (writing ("inserting subsession " ++ toString s.subsessionId.toInt) r.failure)

/-- Storing a subsession: the duplicate check, the session and the subsession, its sessions, its
drivers, then its results. -/
theorem insert_eq (db : Store) (rows : Rows) : db.insert rows =
    if db.hasSubsession rows.subsession.subsessionId then .error (duplicate rows.subsession.subsessionId)
    else (db.addSession rows.session).placeSubsession rows.subsession >>= fun db₁ =>
      rows.simsessions.toList.foldlM (simStep rows.subsession.subsessionId) db₁ >>= fun db₂ =>
      rows.results.toList.foldlM (resultStep rows.subsession.subsessionId)
        (rows.drivers.toList.foldl addDriver db₂) := by
  simp only [insert, Array.foldlM_toList, Array.foldl_toList]
  split
  · rfl
  · unfold placeSubsession
    cases (db.addSession rows.session).addSubsession rows.subsession with
    | ok => rfl
    | error r => cases r <;> rfl

/-! ## The invariant -/

/-- The fact tables of a store: drivers, sessions, subsessions, their sessions and results. -/
def facts (db : Store) :
    List StoredDriver × List SessionRow × List SubsessionRow × List SimsessionRow × List ResultRow :=
  (db.drivers, db.sessions, db.subsessions, db.simsessions, db.results)

/-- The references between stored rows hold. -/
structure Linked (db : Store) : Prop where
  subsession : ∀ s ∈ db.subsessions, db.sessions.any (·.sessionId == s.sessionId)
  simsession : ∀ s ∈ db.simsessions, db.hasSubsession s.subsessionId
  result_driver : ∀ r ∈ db.results, db.drivers.any (·.custId == r.custId)
  result_simsession : ∀ r ∈ db.results, db.hasSimsession r.subsessionId r.simsessionNumber

variable {db db' : Store}

theorem linked_empty : ({} : Store).Linked := ⟨by simp, by simp, by simp, by simp⟩

theorem Linked.of_facts (h : db.Linked) (hf : db'.facts = db.facts) : db'.Linked := by
  simp only [facts, Prod.mk.injEq] at hf
  obtain ⟨hd, hs, hsub, hsim, hr⟩ := hf
  refine ⟨?_, ?_, ?_, ?_⟩ <;> simp only [hasSubsession, hasSimsession, hd, hs, hsub, hsim, hr]
  · exact h.subsession
  · exact h.simsession
  · exact h.result_driver
  · exact h.result_simsession

/-! ## Each step keeps the references -/

theorem Linked.addSession (h : db.Linked) (s : SessionRow) : (db.addSession s).Linked := by
  unfold Store.addSession
  split
  · exact h
  · refine ⟨fun x hx => ?_, h.simsession, h.result_driver, h.result_simsession⟩
    simp only [List.any_append, h.subsession x hx, Bool.true_or]

theorem Linked.placeSubsession {s : SubsessionRow} (h : db.Linked)
    (hs : db.placeSubsession s = .ok db') : db'.Linked := by
  unfold Store.placeSubsession Store.addSubsession at hs
  split at hs <;> try cases hs
  rename_i hok
  split at hok
  · cases hok
  · split at hok
    · cases hok
    · next hsession =>
      cases hok
      refine ⟨fun x hx => ?_, fun x hx => ?_, h.result_driver, h.result_simsession⟩
      · simp only [List.mem_append, List.mem_singleton] at hx
        rcases hx with hx | rfl
        · exact h.subsession x hx
        · simpa using hsession
      · simp only [hasSubsession, List.any_append, Bool.or_eq_true]
        exact .inl (h.simsession x hx)

theorem Linked.addSimsession {s : SimsessionRow} (h : db.Linked) (hs : db.addSimsession s = .ok db') :
    db'.Linked := by
  unfold Store.addSimsession at hs
  split at hs
  · cases hs
  · split at hs
    · cases hs
    · next hsub =>
      cases hs
      refine ⟨h.subsession, fun x hx => ?_, h.result_driver, fun r hr => ?_⟩
      · simp only [List.mem_append, List.mem_singleton] at hx
        rcases hx with hx | rfl
        · exact h.simsession x hx
        · simpa [hasSubsession] using hsub
      · simp only [hasSimsession, List.any_append, Bool.or_eq_true]
        exact .inl (h.result_simsession r hr)

theorem Linked.addDriver (h : db.Linked) (d : DriverRow) : (db.addDriver d).Linked := by
  unfold Store.addDriver
  split
  · exact h
  · split <;>
    · refine ⟨h.subsession, h.simsession, fun r hr => ?_, h.result_simsession⟩
      simp only [List.any_append, h.result_driver r hr, Bool.true_or]

theorem Linked.addResult {r : ResultRow} (h : db.Linked) (hr : db.addResult r = .ok db') :
    db'.Linked := by
  unfold Store.addResult at hr
  split at hr
  · cases hr
  · split at hr
    · cases hr
    · next hrefs =>
      cases hr
      simp only [Bool.or_eq_true, Bool.not_eq_true', not_or, Bool.not_eq_false] at hrefs
      refine ⟨h.subsession, h.simsession, fun x hx => ?_, fun x hx => ?_⟩ <;>
        simp only [List.mem_append, List.mem_singleton] at hx <;> rcases hx with hx | rfl
      · exact h.result_driver x hx
      · exact hrefs.1
      · exact h.result_simsession x hx
      · exact hrefs.2

theorem Linked.addDrivers (h : db.Linked) (ds : List DriverRow) : (ds.foldl Store.addDriver db).Linked := by
  induction ds generalizing db with
  | nil => exact h
  | cons d rest ih => exact ih (h.addDriver d)

theorem Linked.insert {rows : Rows} (h : db.Linked) (hi : db.insert rows = .ok db') : db'.Linked := by
  rw [insert_eq] at hi
  split at hi
  · cases hi
  · obtain ⟨db₁, h₁, hi⟩ := Except.bind_eq_ok.mp hi
    obtain ⟨db₂, h₂, h₃⟩ := Except.bind_eq_ok.mp hi
    have l₁ : db₁.Linked := (h.addSession _).placeSubsession h₁
    have l₂ : db₂.Linked := foldlM_keeps Linked
      (fun _ _ _ _ hd hs => hd.addSimsession (Except.mapError_eq_ok.mp hs)) l₁ h₂
    exact foldlM_keeps Linked (fun _ _ _ _ hd hs => hd.addResult (Except.mapError_eq_ok.mp hs))
      (l₂.addDrivers _) h₃

theorem Linked.insertEach (h : db.Linked) (rs : List Rows) : (db.insertEach rs).Linked := by
  induction rs generalizing db with
  | nil => exact h
  | cons rows rest ih =>
    cases hi : db.insert rows with
    | ok db' => rw [insertEach_cons_ok hi]; exact ih (h.insert hi)
    | error f => rw [insertEach_cons_error hi]; exact ih h

/-! ## Replacing the reference data -/

theorem replaceTracks_facts {entries : List Catalog.TrackEntry}
    (h : db.replaceTracks entries = .ok db') : db'.facts = db.facts := by
  dsimp only [Store.replaceTracks] at h
  -- the fold starts from the store with its track tables emptied
  refine foldlM_keeps (fun acc : Store => acc.facts = db.facts) ?_ ?_ h
  · intro e _ acc acc' hacc hstep
    -- a known or a new track package: either way only the track tables change
    split at hstep <;> split at hstep <;> cases hstep <;> exact hacc
  · rfl

/-- Replacing the cars leaves the fact tables as they were. -/
theorem replaceCars_facts {cars : List Catalog.Car} (h : db.replaceCars cars = .ok db') :
    db'.facts = db.facts := by
  dsimp only [Store.replaceCars] at h
  refine foldlM_keeps (fun acc : Store => acc.facts = db.facts) ?_ ?_ h
  · intro c _ acc acc' hacc hstep
    split at hstep
    · cases hstep
    · cases hstep
      exact hacc
  · rfl

/-! ## Reachable stores -/

/-- The stores that the store's operations reach from the empty one: storing a subsession, a bulk
run that is closed or aborted, and replacing the tracks or the cars. A refused operation leaves
the store as it was. -/
inductive Reachable : Store → Prop
  | empty : Reachable {}
  | insert {db db' : Store} {rows : Rows} : Reachable db → db.insert rows = .ok db' → Reachable db'
  | close {db : Store} (c : Int) (rs : List Rows) :
      Reachable db → Reachable ((Ingester.start db c).feed rs).close
  | abort {db : Store} (c : Int) (rs : List Rows) :
      Reachable db → Reachable ((Ingester.start db c).feed rs).abort
  | replaceTracks {db db' : Store} {entries : List Catalog.TrackEntry} :
      Reachable db → db.replaceTracks entries = .ok db' → Reachable db'
  | replaceCars {db db' : Store} {cars : List Catalog.Car} :
      Reachable db → db.replaceCars cars = .ok db' → Reachable db'

/-- **Every reachable store is linked.** A bulk run leaves what storing its subsessions one at a
time leaves, after closing, or after its committed subsessions, after aborting. -/
theorem Reachable.linked (h : db.Reachable) : db.Linked := by
  induction h with
  | empty => exact linked_empty
  | insert _ hi ih => exact ih.insert hi
  | @close db c rs _ ih =>
    obtain ⟨hrun, _⟩ := (Ingester.follows_start db c).feed rs
    rw [Ingester.close, hrun.working]
    exact ih.insertEach _
  | @abort db c rs _ ih =>
    obtain ⟨hrun, _⟩ := (Ingester.follows_start db c).feed rs
    rw [Ingester.abort, hrun.committed]
    exact ih.insertEach _
  | replaceTracks _ hr ih => exact ih.of_facts (replaceTracks_facts hr)
  | replaceCars _ hr ih => exact ih.of_facts (replaceCars_facts hr)

end Store

end RaceArchive.Store
