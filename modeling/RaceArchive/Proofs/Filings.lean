import Mathlib
import RaceArchive.Proofs.FirstSightings

/-!
# The filings of a payload

Flattening walks a payload session by session and participant by participant, and files each
driver line under a team in a session: a solo driver under team 0, a team's drivers under the
team's id (`Payload.filings`). A team without an id is met as such. The walk refuses the first
filing that is a team without an id or a line whose key (driver, team, session) an earlier line
has, and it fails with the failure of that filing (`Filing.failure`).

The main statement is `flatten_accepts_clean_payloads`: flattening succeeds exactly on a payload
that reads, whose start time reads, and whose filings are lines with distinct keys
(`Payload.Clean`), and its rows are then the payload's own (`Payload.rowsAt`): one simsession per
session in order, one result per line in walking order, and the drivers at their first sighting.
A payload that does not read fails on that, then one whose start time does not read, and
otherwise the walk fails with its first refused filing (`Payload.FirstRefused`).

The argument: the nested walk is one fold over the filings (`Payload.toRows_eq`), and
`Gathered.Walked` says what that fold has gathered after each prefix of them.
-/

namespace RaceArchive

theorem List.foldlM_flatMap {m : Type → Type} [Monad m] [LawfulMonad m] {σ α β : Type}
    (step : σ → β → m σ) (f : α → List β) (xs : List α) (s : σ) :
    (xs.flatMap f).foldlM step s = xs.foldlM (fun s x => (f x).foldlM step s) s := by
  induction xs generalizing s with
  | nil => rfl
  | cons x rest ih => simp [List.flatMap_cons, List.foldlM_append, ih]

namespace Results

open Json

/-- What the walk over a payload meets: a driver line filed under a team in a session, or a team
without an id. -/
inductive Filing where
  | line (sim team : Int64) (d : DriverLine)
  | unnamedTeam (name : Octets)

namespace Filing

/-- The key of a line: the driver, the team and the session. -/
def key : Filing → Option (Int64 × Int64 × Int64)
  | .line sim team d => some (d.custId, team, sim)
  | .unnamedTeam _ => none

/-- The result row of a line of a subsession: the driver's own figures, filed under the team and
the session. -/
def row (subsession : Int64) : Filing → Option ResultRow
  | .line sim team d =>
    some ⟨d.custId, team, subsession, sim, d.newiRating, d.incidents, d.lapsComplete,
      d.averageLap, d.carId⟩
  | .unnamedTeam _ => none

/-- The walk refuses a team without an id, and a line whose key a filing before it has. -/
def Refused (before : List Filing) : Filing → Prop
  | .line sim team d => (d.custId, team, sim) ∈ before.filterMap key
  | .unnamedTeam _ => True

/-- The failure of a refused filing: a duplicate result naming its key, or an invalid team id
naming the team. -/
def failure (subsession : Int64) : Filing → Failure
  | .line sim team d =>
    .cause (some .duplicateResult)
      ("subsession " ++ toString subsession.toInt ++ ": duplicate result for cust_id " ++
        toString d.custId.toInt ++ " (team " ++ toString team.toInt ++ ", simsession " ++
        toString sim.toInt ++ ")")
  | .unnamedTeam name =>
    .wrap none
      ("subsession " ++ toString subsession.toInt ++ ": team " ++ Text.quoteUtf8 name ++ ": ") ""
      (.cause (some .invalidField) "invalid team_id \"null\"")

/-- One step of the walk: a line is added, a team without an id is refused. -/
def step (subsession : Int64) (g : Gathered) : Filing → Except Failure Gathered
  | .line sim team d => g.add subsession sim team d
  | .unnamedTeam name => .error ((Filing.unnamedTeam name).failure subsession)

end Filing

/-- The filings of a participant of a session: a solo driver's line under team 0, a team's lines
under its id, or the team itself when it has none. -/
def Participant.filings (sim : Int64) : Participant → List Filing
  | .solo d => [.line sim soloTeamId d]
  | .team t =>
    match t.teamId with
    | none => [.unnamedTeam t.displayName]
    | some id => (t.driverResults.getD #[]).toList.map (.line sim id)

/-- The filings of a session, participant by participant. -/
def SessionLine.filings (s : SessionLine) : List Filing :=
  (s.results.getD #[]).toList.flatMap (Participant.filings s.number)

/-- The filings of a payload in walking order, session by session. -/
def Payload.filings (p : Payload) : List Filing :=
  (p.sessions.getD #[]).toList.flatMap SessionLine.filings

/-- A payload is clean when every filing is a line and no two lines share a key. -/
structure Payload.Clean (p : Payload) : Prop where
  lines : ∀ f ∈ p.filings, f.key.isSome
  keys : (p.filings.filterMap Filing.key).Nodup

/-- The first filing the walk refuses: the filings before it are lines with distinct keys. -/
def Payload.FirstRefused (p : Payload) (f : Filing) : Prop :=
  ∃ pre post, p.filings = pre ++ f :: post ∧ (∀ g ∈ pre, g.key.isSome) ∧
    (pre.filterMap Filing.key).Nodup ∧ f.Refused pre

/-- The rows of a clean payload whose start time reads as `start`: the session and subsession of
its header, one simsession per session in order, the drivers at their first sighting, and one
result per line in walking order. -/
def Payload.rowsAt (p : Payload) (start : Int) : Rows where
  session := ⟨p.sessionId, p.seriesName⟩
  subsession := ⟨p.subsessionId, p.sessionId, Int64.ofInt start, p.licenseCategoryId, p.trackId⟩
  simsessions :=
    ((p.sessions.getD #[]).toList.map fun s => ⟨p.subsessionId, s.number, s.kind⟩).toArray
  drivers := (firstSightings p.lines).toArray
  results := (p.filings.filterMap (Filing.row p.subsessionId)).toArray

/-! ## The walk as one fold -/

theorem Gathered.addParticipant_eq (g : Gathered) (S sim : Int64) (part : Participant) :
    g.addParticipant S sim part = (part.filings sim).foldlM (Filing.step S) g := by
  cases part with
  | solo d => simp [Gathered.addParticipant, Participant.filings, Filing.step]
  | team t =>
    rcases ht : t.teamId with _ | id
    · simp [Gathered.addParticipant, Participant.filings, Filing.step, ht]; rfl
    · simp only [Gathered.addParticipant, Participant.filings, ht, List.foldlM_map]
      rfl

/-- Flattening a read payload is one fold of the walk over its filings. -/
theorem Payload.toRows_eq (p : Payload) (start : Int) :
    p.toRows start = (do
      let g ← p.filings.foldlM (Filing.step p.subsessionId) {}
      pure { session := ⟨p.sessionId, p.seriesName⟩
             subsession := ⟨p.subsessionId, p.sessionId, Int64.ofInt start, p.licenseCategoryId,
               p.trackId⟩
             simsessions := ((p.sessions.getD #[]).toList.map fun s =>
               (⟨p.subsessionId, s.number, s.kind⟩ : SimsessionRow)).toArray
             drivers := g.drivers
             results := g.results }) := by
  simp only [Payload.toRows, Payload.filings, SessionLine.filings, List.foldlM_flatMap,
    Gathered.addParticipant_eq]

/-! ## What the walk gathers -/

/-- What the walk has gathered after some filings, all lines: their result rows in order, and
their keys as the keys seen, each once. -/
structure Gathered.Walked (g : Gathered) (S : Int64) (walked : List Filing) : Prop where
  results : g.results.toList = walked.filterMap (Filing.row S)
  seen : ∀ k, k ∈ g.seenResults ↔ k ∈ walked.filterMap Filing.key
  nodup : (walked.filterMap Filing.key).Nodup

namespace Gathered.Walked

variable {g : Gathered} {S : Int64} {walked : List Filing}

theorem empty (S : Int64) : ({} : Gathered).Walked S [] := ⟨rfl, by simp, List.nodup_nil⟩

/-- A line with a new key is added. -/
theorem add (h : g.Walked S walked) {sim team : Int64} {d : DriverLine}
    (hnew : (d.custId, team, sim) ∉ walked.filterMap Filing.key) :
    ∃ g', g.add S sim team d = .ok g' ∧ g'.Walked S (walked ++ [.line sim team d]) := by
  have hunseen : g.seenResults.contains (d.custId, team, sim) = false := by
    simpa [h.seen] using hnew
  simp only [Gathered.add, hunseen, Bool.false_eq_true, if_false]
  refine ⟨_, rfl, ?_, ?_, ?_⟩
  · simp [h.results, Filing.row]
  · intro k
    simp [h.seen, Filing.key, or_comm]
  · rw [List.filterMap_append, List.nodup_append]
    refine ⟨h.nodup, by simp [Filing.key], fun a ha b hb hab => ?_⟩
    simp [Filing.key] at hb
    exact hnew (hb ▸ hab ▸ ha)

theorem add_seen (h : g.Walked S walked) {sim team : Int64} {d : DriverLine}
    (hseen : (d.custId, team, sim) ∈ walked.filterMap Filing.key) :
    g.add S sim team d = .error ((Filing.line sim team d).failure S) := by
  have : (d.custId, team, sim) ∈ g.seenResults := (h.seen _).mpr hseen
  simp [Gathered.add, this, Filing.failure]

/-- A walk over lines with new, distinct keys succeeds and gathers them. -/
theorem walk_ok (h : g.Walked S walked) {fs : List Filing} (hlines : ∀ f ∈ fs, f.key.isSome)
    (hkeys : ((walked ++ fs).filterMap Filing.key).Nodup) :
    ∃ g', fs.foldlM (Filing.step S) g = .ok g' ∧ g'.Walked S (walked ++ fs) := by
  induction fs generalizing g walked with
  | nil => exact ⟨g, rfl, by simpa using h⟩
  | cons f rest ih =>
    obtain ⟨sim, team, d, rfl⟩ : ∃ sim team d, f = .line sim team d := by
      have := hlines f List.mem_cons_self
      cases f with
      | line sim team d => exact ⟨sim, team, d, rfl⟩
      | unnamedTeam _ => simp [Filing.key] at this
    have hnew : (d.custId, team, sim) ∉ walked.filterMap Filing.key := by
      intro hk
      simp only [List.filterMap_append, List.filterMap_cons, Filing.key, List.nodup_append,
        List.nodup_cons] at hkeys
      exact hkeys.2.2 _ hk _ List.mem_cons_self rfl
    obtain ⟨g₁, hg₁, hw₁⟩ := h.add hnew
    obtain ⟨g', hg', hw'⟩ := ih hw₁ (fun f hf => hlines f (List.mem_cons_of_mem _ hf))
      (by simpa using hkeys)
    refine ⟨g', ?_, by simpa using hw'⟩
    rw [List.foldlM_cons, Filing.step, hg₁]
    exact hg'

/-- A walk that succeeds went over lines with new, distinct keys, and gathered them. -/
theorem of_walk_ok (h : g.Walked S walked) {fs : List Filing} {g' : Gathered}
    (hwalk : fs.foldlM (Filing.step S) g = .ok g') :
    (∀ f ∈ fs, f.key.isSome) ∧ ((walked ++ fs).filterMap Filing.key).Nodup ∧
      g'.Walked S (walked ++ fs) := by
  induction fs generalizing g walked with
  | nil => cases hwalk; exact ⟨by simp, by simpa using h.nodup, by simpa using h⟩
  | cons f rest ih =>
    rw [List.foldlM_cons] at hwalk
    obtain ⟨g₁, hg₁, hrest⟩ := Except.bind_eq_ok.mp hwalk
    cases f with
    | unnamedTeam name => cases hg₁
    | line sim team d =>
      by_cases hseen : (d.custId, team, sim) ∈ walked.filterMap Filing.key
      · rw [Filing.step, h.add_seen hseen] at hg₁
        cases hg₁
      · obtain ⟨g₂, hg₂, hw₂⟩ := h.add hseen
        rw [Filing.step, hg₂] at hg₁
        cases hg₁
        obtain ⟨hlines, hkeys, hw'⟩ := ih hw₂ hrest
        refine ⟨?_, by simpa using hkeys, by simpa using hw'⟩
        intro f hf
        rcases List.mem_cons.mp hf with rfl | hf
        · rfl
        · exact hlines f hf

/-- A walk whose first refused filing follows lines with new, distinct keys fails with it. -/
theorem walk_refused (h : g.Walked S walked) {pre post : List Filing} {f : Filing}
    (hlines : ∀ f ∈ pre, f.key.isSome) (hkeys : ((walked ++ pre).filterMap Filing.key).Nodup)
    (hf : f.Refused (walked ++ pre)) :
    (pre ++ f :: post).foldlM (Filing.step S) g = .error (f.failure S) := by
  obtain ⟨g₁, hg₁, hw₁⟩ := h.walk_ok hlines hkeys
  rw [List.foldlM_append, hg₁]
  change (f :: post).foldlM (Filing.step S) g₁ = _
  rw [List.foldlM_cons]
  cases f with
  | unnamedTeam name => rfl
  | line sim team d =>
    rw [Filing.step, hw₁.add_seen hf]
    rfl

end Gathered.Walked

/-! ## Flattening -/

/-- A read payload flattens exactly when it is clean, to its own rows. -/
theorem Payload.toRows_ok_iff (p : Payload) (start : Int) (rows : Rows) :
    p.toRows start = .ok rows ↔ p.Clean ∧ rows = p.rowsAt start := by
  constructor
  · intro h
    have hsightings := (Payload.toRows_sightings h).1
    rw [Payload.toRows_eq] at h
    obtain ⟨g, hg, hrows⟩ := Except.bind_eq_ok.mp h
    cases hrows
    obtain ⟨hlines, hkeys, hw⟩ := (Gathered.Walked.empty p.subsessionId).of_walk_ok hg
    refine ⟨⟨hlines, by simpa using hkeys⟩, ?_⟩
    simp only [List.nil_append] at hw
    simp only [Payload.rowsAt, ← hw.results, ← hsightings, Array.toArray_toList]
  · rintro ⟨hclean, rfl⟩
    obtain ⟨g, hg, hw⟩ := (Gathered.Walked.empty p.subsessionId).walk_ok hclean.lines
      (by simpa using hclean.keys)
    have hok : p.toRows start =
        .ok { p.rowsAt start with drivers := g.drivers, results := g.results } := by
      rw [Payload.toRows_eq, hg]
      rfl
    have hsightings := (Payload.toRows_sightings hok).1
    rw [hok]
    simp only [List.nil_append] at hw
    simp only [Payload.rowsAt] at hsightings ⊢
    rw [← hw.results, ← hsightings, Array.toArray_toList, Array.toArray_toList]

theorem Payload.toRows_firstRefused {p : Payload} {f : Filing} (h : p.FirstRefused f)
    (start : Int) : p.toRows start = .error (f.failure p.subsessionId) := by
  obtain ⟨pre, post, hsplit, hlines, hkeys, hf⟩ := h
  rw [Payload.toRows_eq, hsplit,
    (Gathered.Walked.empty p.subsessionId).walk_refused hlines (by simpa using hkeys)
      (by simpa using hf)]
  rfl

/-- **Flattening's structural law.** Flattening succeeds exactly on a payload that reads, whose
start time reads, and whose filings are lines with distinct keys, and gives its rows; a payload
that does not read fails with the decoding failure, then one whose start time does not read fails
with that, and otherwise the walk fails with its first refused filing. -/
theorem flatten_accepts_clean_payloads (raw : ByteArray) :
    (∀ rows, flatten raw = .ok rows ↔ ∃ p start, decode Payload.reader {} raw = .ok p ∧
      parseStartTime p.startTime = .ok start ∧ p.Clean ∧ rows = p.rowsAt start) ∧
    (∀ e, decode Payload.reader {} raw = .error e →
      flatten raw = .error
        (.within ("decoding subsession " ++ toString (peekSubsessionId raw).toInt) (.ofDecode e))) ∧
    (∀ p f, decode Payload.reader {} raw = .ok p → parseStartTime p.startTime = .error f →
      flatten raw = .error (.within ("subsession " ++ toString p.subsessionId.toInt) f)) ∧
    (∀ p start f, decode Payload.reader {} raw = .ok p → parseStartTime p.startTime = .ok start →
      p.FirstRefused f → flatten raw = .error (f.failure p.subsessionId)) := by
  refine ⟨fun rows => ?_, fun e he => by simp [flatten, he],
    fun p f hp hf => by simp [flatten, hp, hf], fun p start f hp hs hf => ?_⟩
  · unfold flatten
    constructor
    · intro h
      split at h
      · cases h
      · next p hp =>
        split at h
        · cases h
        · next start hs => exact ⟨p, start, hp, hs, (Payload.toRows_ok_iff p start rows).mp h⟩
    · rintro ⟨p, start, hp, hs, hrows⟩
      simp only [hp, hs]
      exact (Payload.toRows_ok_iff p start rows).mpr hrows
  · simp only [flatten, hp, hs]
    exact Payload.toRows_firstRefused hf start

end Results

end RaceArchive
