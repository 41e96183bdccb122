import RaceArchive.Results.Rows

/-!
# What flattening guarantees

Flattening a payload gives rows that hang together (`Rows.WellFormed`): every session of the
subsession and every result belong to the subsession, each result to one of its sessions and to
a driver, drivers are listed once, and no driver has two results for one team in one session.
Storing relies on these facts never to refuse a flattened subsession for a key or a reference.

The main statement is `flatten_wellFormed`; `Gathered.Sound` is the invariant of the walk over
the sessions and their participants.
-/

namespace RaceArchive

theorem Except.bind_eq_ok {ε α β : Type} {x : Except ε α} {f : α → Except ε β} {b : β} :
    x >>= f = .ok b ↔ ∃ a, x = .ok a ∧ f a = .ok b := by
  cases x <;> simp [bind, Except.bind]

theorem Except.eq_ok_of_toOption {ε α : Type} {x : Except ε α} {a : α} (h : x.toOption = some a) :
    x = .ok a := by
  cases x with
  | error e => cases h
  | ok b => cases h; rfl

/-- What holds at the start of a fold in `Except` and is kept by each successful step holds at
its end. -/
theorem foldlM_keeps {ε σ α : Type} (P : σ → Prop) {step : σ → α → Except ε σ} {xs : List α}
    (hstep : ∀ a ∈ xs, ∀ s s', P s → step s a = .ok s' → P s') :
    ∀ {s s' : σ}, P s → xs.foldlM step s = .ok s' → P s' := by
  induction xs with
  | nil => intro s s' hs h; cases h; exact hs
  | cons a rest ih =>
    intro s s' hs h
    rw [List.foldlM_cons] at h
    obtain ⟨mid, hmid, hrest⟩ := Except.bind_eq_ok.mp h
    exact ih (fun b hb => hstep b (List.mem_cons_of_mem _ hb)) (hstep a List.mem_cons_self s mid hs hmid)
      hrest

namespace Results

/-- Where a result sits in its subsession: the driver, the team and the session. -/
def ResultRow.slot (r : ResultRow) : Int64 × Int64 × Int64 := (r.custId, r.teamId, r.simsessionNumber)

/-- The rows of a subsession hang together: they all belong to the subsession, the subsession to
the session, each result to one of the sessions of the subsession and to a listed driver; drivers
are listed once, and each driver has at most one result per team and session. -/
structure Rows.WellFormed (rows : Rows) : Prop where
  session : rows.session.sessionId = rows.subsession.sessionId
  simsessions : ∀ s ∈ rows.simsessions.toList, s.subsessionId = rows.subsession.subsessionId
  result_subsession : ∀ r ∈ rows.results.toList, r.subsessionId = rows.subsession.subsessionId
  result_simsession :
    ∀ r ∈ rows.results.toList, r.simsessionNumber ∈ rows.simsessions.toList.map (·.number)
  result_driver : ∀ r ∈ rows.results.toList, r.custId ∈ rows.drivers.toList.map (·.custId)
  slots : (rows.results.toList.map ResultRow.slot).Nodup
  drivers : (rows.drivers.toList.map (·.custId)).Nodup

/-- The rows gathered so far for subsession `S`, whose sessions are numbered among `sims`, hang
together, and what has been seen is what has been gathered. -/
structure Gathered.Sound (g : Gathered) (S : Int64) (sims : List Int64) : Prop where
  subsession : ∀ r ∈ g.results.toList, r.subsessionId = S
  simsession : ∀ r ∈ g.results.toList, r.simsessionNumber ∈ sims
  driver : ∀ r ∈ g.results.toList, r.custId ∈ g.drivers.toList.map (·.custId)
  slots : (g.results.toList.map ResultRow.slot).Nodup
  drivers : (g.drivers.toList.map (·.custId)).Nodup
  seenResults : ∀ k, k ∈ g.seenResults ↔ k ∈ g.results.toList.map ResultRow.slot
  seenDrivers : ∀ c, c ∈ g.seenDrivers ↔ c ∈ g.drivers.toList.map (·.custId)

namespace Gathered

variable {g g' : Gathered} {S sim team : Int64} {sims : List Int64}

theorem sound_empty (S : Int64) (sims : List Int64) : ({} : Gathered).Sound S sims := by
  constructor <;> simp

/-- The drivers after a driver line: a driver seen before keeps their first line, a new one
is listed at the end. -/
theorem Sound.drivers_add (hg : g.Sound S sims) (d : DriverLine) :
    let seen := g.seenDrivers.contains d.custId
    let drivers := if seen then g.drivers else g.drivers.push ⟨d.custId, d.displayName⟩
    let seenDrivers := if seen then g.seenDrivers else d.custId :: g.seenDrivers
    (drivers.toList.map (·.custId)).Nodup ∧ d.custId ∈ drivers.toList.map (·.custId) ∧
      (∀ c ∈ g.drivers.toList.map (·.custId), c ∈ drivers.toList.map (·.custId)) ∧
      ∀ c, c ∈ seenDrivers ↔ c ∈ drivers.toList.map (·.custId) := by
  intro seen drivers seenDrivers
  by_cases hseen : d.custId ∈ g.seenDrivers
  · have hs : seen = true := by simpa [seen] using hseen
    simp only [drivers, seenDrivers, hs, if_true]
    exact ⟨hg.drivers, (hg.seenDrivers _).mp hseen, fun _ hc => hc, hg.seenDrivers⟩
  · have hs : seen = false := by simpa [seen] using hseen
    have hnew : d.custId ∉ g.drivers.toList.map (·.custId) := by rwa [← hg.seenDrivers]
    simp only [drivers, seenDrivers, hs, Bool.false_eq_true, if_false, Array.toList_push,
      List.map_append, List.map_cons, List.map_nil, List.mem_append, List.mem_singleton]
    refine ⟨?_, by simp, fun _ hc => .inl hc, fun c => ?_⟩
    · rw [List.nodup_append]
      refine ⟨hg.drivers, by simp, ?_⟩
      intro a ha b hb hab
      rw [List.mem_singleton] at hb
      exact hnew (hb ▸ hab ▸ ha)
    · rw [List.mem_cons, hg.seenDrivers c, or_comm]

/-- Adding a driver line of a session numbered among `sims` keeps the rows together. -/
theorem Sound.add {d : DriverLine} (hg : g.Sound S sims) (hsim : sim ∈ sims)
    (h : g.add S sim team d = .ok g') : g'.Sound S sims := by
  unfold Gathered.add at h
  split at h
  · cases h
  · next hfresh =>
    cases h
    obtain ⟨hnodup, hmem, hkeep, hseen⟩ := hg.drivers_add d
    have hslot : (d.custId, team, sim) ∉ g.results.toList.map ResultRow.slot := by
      rw [← hg.seenResults]; simpa using hfresh
    refine ⟨?_, ?_, ?_, ?_, hnodup, ?_, hseen⟩ <;>
      simp only [Array.toList_push, List.mem_append, List.mem_singleton, List.map_append,
        List.map_cons, List.map_nil]
    · rintro r (hr | rfl)
      · exact hg.subsession r hr
      · rfl
    · rintro r (hr | rfl)
      · exact hg.simsession r hr
      · exact hsim
    · rintro r (hr | rfl)
      · exact hkeep _ (hg.driver r hr)
      · exact hmem
    · rw [List.nodup_append]
      refine ⟨hg.slots, by simp, ?_⟩
      intro a ha b hb hab
      rw [List.mem_singleton] at hb
      subst hab hb
      exact hslot ha
    · intro k; rw [List.mem_cons, hg.seenResults k]; simp [ResultRow.slot, or_comm]

theorem Sound.addParticipant {part : Participant} (hg : g.Sound S sims) (hsim : sim ∈ sims)
    (h : g.addParticipant S sim part = .ok g') : g'.Sound S sims := by
  cases part with
  | solo d => exact hg.add hsim h
  | team t =>
    simp only [Gathered.addParticipant] at h
    split at h
    · cases h
    · exact foldlM_keeps (Sound · S sims) (fun _ _ _ _ hs hstep => hs.add hsim hstep) hg h

theorem sound_gather {S : Int64} {sessions : List SessionLine}
    (h : sessions.foldlM (fun g s => (s.results.getD #[]).toList.foldlM
      (fun g part => g.addParticipant S s.number part) g) ({} : Gathered) = .ok g') :
    g'.Sound S (sessions.map (·.number)) := by
  refine foldlM_keeps (Sound · S (sessions.map (·.number))) ?_ (sound_empty _ _) h
  intro s hs _ _ hg hstep
  exact foldlM_keeps (Sound · S _)
    (fun _ _ _ _ hg' hpart => hg'.addParticipant (List.mem_map_of_mem hs) hpart) hg hstep

end Gathered

theorem Payload.toRows_wellFormed {p : Payload} {start : Int} {rows : Rows}
    (h : p.toRows start = .ok rows) : rows.WellFormed := by
  unfold Payload.toRows at h
  obtain ⟨g, hg, hrows⟩ := Except.bind_eq_ok.mp h
  cases hrows
  have hsound := Gathered.sound_gather hg
  refine ⟨rfl, ?_, hsound.subsession, ?_, hsound.driver, hsound.slots, hsound.drivers⟩
  · simp
  · simpa [List.map_map, Function.comp_def] using hsound.simsession

/-- **Flattened rows hang together.** -/
theorem flatten_wellFormed {raw : ByteArray} {rows : Rows} (h : flatten raw = .ok rows) :
    rows.WellFormed := by
  unfold flatten at h
  split at h
  · cases h
  · split at h
    · cases h
    · exact Payload.toRows_wellFormed h

end Results

end RaceArchive
