import Mathlib
import RaceArchive.Proofs.Flatten

/-!
# The drivers a payload names

Flattening walks the driver lines of a payload session by session, participant by participant,
and a team's drivers in order (`Payload.lines`). It lists each driver once, at their first line:
the drivers of the rows are the first line of each customer id, in the order first met
(`firstSightings`), and each of them has a result (`flatten_sightings`).

`Gathered.Sighted` is the invariant of the walk; `foldlM_walks` carries it through a fold while
keeping track of the lines walked so far.
-/

namespace RaceArchive

theorem foldlM_walks {ε σ α β : Type} (P : List β → σ → Prop) (f : α → List β)
    {step : σ → α → Except ε σ} {xs : List α}
    (hstep : ∀ a ∈ xs, ∀ w s s', P w s → step s a = .ok s' → P (w ++ f a) s') :
    ∀ {w : List β} {s s' : σ}, P w s → xs.foldlM step s = .ok s' → P (w ++ xs.flatMap f) s' := by
  induction xs with
  | nil => intro w s s' hs h; cases h; simpa using hs
  | cons a rest ih =>
    intro w s s' hs h
    rw [List.foldlM_cons] at h
    obtain ⟨mid, hmid, hrest⟩ := Except.bind_eq_ok.mp h
    have := ih (fun b hb => hstep b (List.mem_cons_of_mem _ hb))
      (hstep a List.mem_cons_self w s mid hs hmid) hrest
    simpa [List.flatMap_cons, List.append_assoc] using this

theorem eraseDupsBy_loop_append {α : Type} (r : α → α → Bool) (l l' bs : List α) :
    List.eraseDupsBy.loop r (l ++ l') bs =
      List.eraseDupsBy.loop r l' (List.eraseDupsBy.loop r l bs).reverse := by
  induction l generalizing bs with
  | nil => simp [List.eraseDupsBy.loop]
  | cons a l ih =>
    simp only [List.cons_append, List.eraseDupsBy.loop]
    split <;> exact ih _

theorem eraseDupsBy_concat {α : Type} (r : α → α → Bool) (l : List α) (a : α) :
    (l ++ [a]).eraseDupsBy r =
      if (l.eraseDupsBy r).any (r a) then l.eraseDupsBy r else l.eraseDupsBy r ++ [a] := by
  unfold List.eraseDupsBy
  rw [eraseDupsBy_loop_append]
  simp only [List.eraseDupsBy.loop, List.any_reverse]
  split <;> simp_all

namespace Results

/-- The driver lines of a participant: the driver's own, or the team's drivers in order. -/
def Participant.lines : Participant → List DriverLine
  | .solo d => [d]
  | .team t => (t.driverResults.getD #[]).toList

/-- The driver lines of a session of a subsession, participant by participant. -/
def SessionLine.lines (s : SessionLine) : List DriverLine :=
  (s.results.getD #[]).toList.flatMap Participant.lines

/-- The driver lines of a payload in the order flattening walks them, session by session. -/
def Payload.lines (p : Payload) : List DriverLine :=
  (p.sessions.getD #[]).toList.flatMap SessionLine.lines

/-- The drivers of some lines, each once with the name of their first line, in the order first
met. -/
def firstSightings (lines : List DriverLine) : List DriverRow :=
  (lines.eraseDupsBy fun a b => a.custId == b.custId).map fun d => ⟨d.custId, d.displayName⟩

theorem firstSightings_concat (lines : List DriverLine) (d : DriverLine) :
    firstSightings (lines ++ [d]) =
      if d.custId ∈ (firstSightings lines).map (·.custId) then firstSightings lines
      else firstSightings lines ++ [⟨d.custId, d.displayName⟩] := by
  have hany : ((lines.eraseDupsBy fun a b => a.custId == b.custId).any fun b => d.custId == b.custId) =
      true ↔ d.custId ∈ (firstSightings lines).map (·.custId) := by
    simp only [List.any_eq_true, beq_iff_eq, firstSightings, List.map_map, List.mem_map,
      Function.comp_def]
    constructor <;> rintro ⟨x, hx, he⟩ <;> exact ⟨x, hx, he.symm⟩
  rw [firstSightings, eraseDupsBy_concat]
  simp only [hany]
  split
  · rfl
  · simp [firstSightings]

/-- What is gathered after walking some lines: the drivers are their first sightings, the
customer ids seen are theirs, and each listed driver has a result. -/
structure Gathered.Sighted (g : Gathered) (walked : List DriverLine) : Prop where
  drivers : g.drivers.toList = firstSightings walked
  seen : ∀ c, c ∈ g.seenDrivers ↔ c ∈ (firstSightings walked).map (·.custId)
  listed : ∀ c ∈ g.drivers.toList.map (·.custId), c ∈ g.results.toList.map (·.custId)

namespace Gathered

variable {g g' : Gathered} {walked : List DriverLine} {S sim team : Int64}

theorem sighted_empty : ({} : Gathered).Sighted [] := ⟨rfl, by simp [firstSightings], by simp⟩

/-- A driver line is listed when its customer id is new, and gets a result either way. -/
theorem Sighted.add {d : DriverLine} (hg : g.Sighted walked) (h : g.add S sim team d = .ok g') :
    g'.Sighted (walked ++ [d]) := by
  unfold Gathered.add at h
  split at h
  · cases h
  · cases h
    have hseen : g.seenDrivers.contains d.custId =
        decide (d.custId ∈ (firstSightings walked).map (·.custId)) := by
      simp [hg.seen]
    have hfirst := firstSightings_concat walked d
    rw [hseen]
    by_cases hnew : d.custId ∈ (firstSightings walked).map (·.custId)
    · -- a customer met before keeps their first line
      simp only [hnew, decide_true, ↓reduceIte] at hfirst ⊢
      refine ⟨by rw [hfirst]; exact hg.drivers, fun c => by rw [hfirst]; exact hg.seen c, ?_⟩
      intro c hc
      simp only [Array.toList_push, List.map_append, List.mem_append]
      exact .inl (hg.listed c hc)
    · simp only [hnew, decide_false, Bool.false_eq_true, ↓reduceIte] at hfirst ⊢
      refine ⟨by simp [hfirst, hg.drivers], fun c => by simp [hfirst, hg.seen c, or_comm], ?_⟩
      intro c hc
      simp only [Array.toList_push, List.map_append, List.mem_append, List.map_cons, List.map_nil,
        List.mem_singleton] at hc ⊢
      rcases hc with hc | rfl
      · exact .inl (hg.listed c hc)
      · exact .inr rfl

theorem Sighted.addParticipant {part : Participant} (hg : g.Sighted walked)
    (h : g.addParticipant S sim part = .ok g') : g'.Sighted (walked ++ part.lines) := by
  cases part with
  | solo d => exact hg.add h
  | team t =>
    simp only [Gathered.addParticipant] at h
    split at h
    · cases h
    · have := foldlM_walks (fun w g => g.Sighted w) (fun d => [d])
        (fun _ _ _ _ _ hs hstep => hs.add hstep) hg h
      simpa [Participant.lines] using this

theorem sighted_gather {sessions : List SessionLine}
    (h : sessions.foldlM (fun g s => (s.results.getD #[]).toList.foldlM
      (fun g part => g.addParticipant S s.number part) g) ({} : Gathered) = .ok g') :
    g'.Sighted (sessions.flatMap SessionLine.lines) := by
  have := foldlM_walks (fun w g => g.Sighted w) SessionLine.lines
    (fun s _ w _ _ hg hstep => foldlM_walks (fun w g => g.Sighted w) Participant.lines
      (fun _ _ _ _ _ hg' hpart => hg'.addParticipant hpart) hg hstep) sighted_empty h
  simpa using this

end Gathered

theorem Payload.toRows_sightings {p : Payload} {start : Int} {rows : Rows}
    (h : p.toRows start = .ok rows) :
    rows.drivers.toList = firstSightings p.lines ∧
      ∀ c ∈ rows.drivers.toList.map (·.custId), c ∈ rows.results.toList.map (·.custId) := by
  unfold Payload.toRows at h
  obtain ⟨g, hg, hrows⟩ := Except.bind_eq_ok.mp h
  cases hrows
  have hs := Gathered.sighted_gather hg
  exact ⟨hs.drivers, hs.listed⟩

/-- **The drivers of a flattened payload are its first sightings**, each with a result. -/
theorem flatten_sightings {raw : ByteArray} {rows : Rows} (h : flatten raw = .ok rows) :
    ∃ p, Json.decode Payload.reader {} raw = .ok p ∧ rows.drivers.toList = firstSightings p.lines ∧
      ∀ c ∈ rows.drivers.toList.map (·.custId), c ∈ rows.results.toList.map (·.custId) := by
  unfold flatten at h
  split at h
  · cases h
  · next p hp =>
    split at h
    · cases h
    · exact ⟨p, hp, Payload.toRows_sightings h⟩

end Results

end RaceArchive
