import Mathlib
import RaceArchive.Proofs.RunFailures
import RaceArchive.Proofs.AlertEpisodes

/-!
# Failure streaks in the status of the jobs

The status of the jobs keeps, per status key, the report of the last run, the finish of the last
run that went through, and the number of failed runs in a row. Recording a report changes the
entries of its key only, so from an empty status, after any log of recorded reports, the status
says for every key what the log says (`Status.Follows`, kept by `Status.Follows.record`): the
count is the number of failed reports of that key since its last success or since the start, the
last poll the finish of that success, and the last run the key's last report.

The syncer records each run under the status key of its job and of the target asked for, which
tells the targets of the six jobs apart (`Request.key_inj`), and a run's report is failed exactly
when the run failed (`run_reports_failure`). So after any sequence of runs from an empty status,
each key's count is its number of failed runs since its last successful one, and the status is
healthy for a limit exactly when every streak is below the limit, or below one when the limit is
not positive (`status_counts_failure_streaks`).
-/

namespace RaceArchive.Sync

/-! ## What a log of reports says about a key -/

section Log

variable (log : List (String × Report)) (key : String)

/-- The reports recorded under `key`, the last first. -/
def recent : List Report := (log.filter (·.1 == key)).reverse.map (·.2)

/-- The number of failed reports under `key` since its last report that went through. -/
def streak : Nat := ((recent log key).takeWhile (·.failed)).length

/-- The last report recorded under `key`. -/
def lastRun : Option Report := (recent log key).head?

/-- The last report under `key` that went through. -/
def lastSuccess : Option Report := (recent log key).find? (!·.failed)

variable {log key}

@[simp] theorem recent_nil : recent [] key = [] := rfl

@[simp] theorem recent_concat (k : String) (r : Report) :
    recent (log ++ [(k, r)]) key = if k = key then r :: recent log key else recent log key := by
  by_cases hk : k = key <;> simp [recent, hk]

theorem recent_eq_nil_iff : recent log key = [] ↔ key ∉ log.map (·.1) := by
  simp only [recent, List.map_eq_nil_iff, List.reverse_eq_nil_iff, List.filter_eq_nil_iff,
    beq_iff_eq, List.mem_map, not_exists, not_and]

theorem streak_eq_zero_of_not_mem (h : key ∉ log.map (·.1)) : streak log key = 0 := by
  rw [streak, recent_eq_nil_iff.mpr h, List.takeWhile_nil, List.length_nil]

end Log

/-! ## The status follows the log -/

/-- The status holds, for every key, what the log of the reports recorded so far says of it. -/
structure Status.Follows (s : Status) (log : List (String × Report)) : Prop where
  runs : ∀ key, s.runs.find? key = lastRun log key
  lastPoll : ∀ key, s.lastPoll.find? key = (lastSuccess log key).map (·.finishedAt)
  failures : ∀ key,
    s.failures.find? key = if key ∈ log.map (·.1) then some (streak log key : Int) else none
  ordered : s.failures.Ordered

namespace Status.Follows

variable {s : Status} {log : List (String × Report)}

theorem empty : ({} : Status).Follows [] where
  runs _ := rfl
  lastPoll _ := rfl
  failures _ := rfl
  ordered := List.Pairwise.nil

/-- Recording a report keeps the status in step with the log that ends with it. -/
theorem record (h : s.Follows log) (k : String) (r : Report) :
    (s.record k r).Follows (log ++ [(k, r)]) := by
  refine ⟨fun key => ?_, fun key => ?_, fun key => ?_, Status.ordered_record h.ordered k r⟩
  · have hruns := h.runs key
    unfold Status.record
    split <;> by_cases hk : k = key <;> simp [lastRun, hk, hruns]
  · have hpoll := h.lastPoll key
    unfold Status.record
    split <;> by_cases hk : k = key <;> simp_all [lastSuccess]
  · have hfail := h.failures key
    unfold Status.record
    by_cases hk : k = key
    · subst hk
      -- the key's own count goes one up on a failure and back to zero on a success
      have hcount : (s.failures.find? k).getD 0 = (streak log k : Int) := by
        by_cases hmem : k ∈ log.map (·.1)
        · simp [hfail, hmem]
        · simp [hfail, hmem, streak_eq_zero_of_not_mem hmem]
      split <;> simp_all [Table.alter, streak]
    · -- the other keys keep their counts, and whether the log has them
      have hmem : key ∈ (log ++ [(k, r)]).map (·.1) ↔ key ∈ log.map (·.1) := by
        simp [Ne.symm hk]
      split <;> simp only [Table.alter, Table.find?_insert, hk, if_false, hfail, hmem, streak,
        recent_concat]

end Status.Follows

/-- Under a status that follows a log, the status is healthy for a limit exactly when every key
of the log has a streak below the limit, or below one when the limit is not positive. -/
theorem Status.Follows.healthy_iff {s : Status} {log : List (String × Report)} (h : s.Follows log)
    (limit : Int) :
    s.healthy limit = true ↔ ∀ key ∈ log.map (·.1), (streak log key : Int) < max limit 1 := by
  have hlimit : (if limit ≤ 0 then 1 else limit) = max limit 1 := by omega
  simp only [Status.healthy, hlimit, List.all_eq_true]
  constructor
  · intro hall key hkey
    have hfind : s.failures.find? key = some (streak log key : Int) := by
      rw [h.failures key, if_pos hkey]
    obtain ⟨pre, post, hsplit, -⟩ := Table.find?_eq_some hfind
    exact of_decide_eq_true (hall _ (hsplit ▸ List.mem_append_right pre List.mem_cons_self))
  · rintro hall ⟨key, n⟩ hmem
    have hfind := h.ordered.find?_of_mem hmem
    rw [h.failures key] at hfind
    by_cases hkey : key ∈ log.map (·.1)
    · rw [if_pos hkey, Option.some.injEq] at hfind
      exact decide_eq_true (hfind ▸ hall key hkey)
    · rw [if_neg hkey] at hfind
      cases hfind

/-! ## Status keys -/

/-- A separator that neither head holds splits a list at its first occurrence. -/
theorem append_sep_inj {c : Char} {z₁ z₂ : List Char} :
    ∀ {x₁ x₂ : List Char}, c ∉ x₁ → c ∉ x₂ → x₁ ++ c :: z₁ = x₂ ++ c :: z₂ → x₁ = x₂ ∧ z₁ = z₂
  | [], [], _, _, h => ⟨rfl, List.cons_injective h⟩
  | [], b :: x₂, _, h₂, h => by
    rw [List.nil_append, List.cons_append, List.cons.injEq] at h
    exact absurd (h.1 ▸ List.mem_cons_self) h₂
  | a :: x₁, [], h₁, _, h => by
    rw [List.nil_append, List.cons_append, List.cons.injEq] at h
    exact absurd (h.1 ▸ List.mem_cons_self) h₁
  | a :: x₁, b :: x₂, h₁, h₂, h => by
    rw [List.cons_append, List.cons_append, List.cons.injEq] at h
    obtain ⟨rfl, hrest⟩ := h
    obtain ⟨rfl, rfl⟩ := append_sep_inj (List.not_mem_of_not_mem_cons h₁)
      (List.not_mem_of_not_mem_cons h₂) hrest
    exact ⟨rfl, rfl⟩

theorem statusKey_empty (job : String) : statusKey job "" = job := rfl

theorem toList_statusKey {target : String} (job : String) (h : target ≠ "") :
    (statusKey job target).toList = job.toList ++ ':' :: target.toList := by
  simp [statusKey, String.isEmpty_iff, h]

/-- The status key of a job whose name has no colon tells the job and the target apart. -/
theorem statusKey_inj {job job' target target' : String} (h : ':' ∉ job.toList)
    (h' : ':' ∉ job'.toList) :
    statusKey job target = statusKey job' target' ↔ job = job' ∧ target = target' := by
  refine ⟨fun heq => ?_, fun ⟨hj, ht⟩ => hj ▸ ht ▸ rfl⟩
  -- a key with a target holds a colon, and a job name alone does not
  by_cases ht : target = "" <;> by_cases ht' : target' = ""
  · rw [ht, ht', statusKey_empty, statusKey_empty] at heq
    exact ⟨heq, ht.trans ht'.symm⟩
  · rw [ht, statusKey_empty] at heq
    have hcolon : ':' ∈ job.toList := by
      rw [heq, toList_statusKey job' ht']
      exact List.mem_append_right _ List.mem_cons_self
    exact absurd hcolon h
  · rw [ht', statusKey_empty] at heq
    have hcolon : ':' ∈ job'.toList := by
      rw [← heq, toList_statusKey job ht]
      exact List.mem_append_right _ List.mem_cons_self
    exact absurd hcolon h'
  · have hlists := congrArg String.toList heq
    rw [toList_statusKey job ht, toList_statusKey job' ht'] at hlists
    obtain ⟨hjob, htarget⟩ := append_sep_inj h h' hlists
    exact ⟨String.toList_inj.mp hjob, String.toList_inj.mp htarget⟩

/-! ## The runs of the syncer -/

/-- A run the syncer is asked for: the subsessions of a driver or of a season, a refresh of the
tracks or of the cars, a rebuild of the store from the cache, or an update that stores the cached
subsessions the store lacks. -/
inductive Request where
  | driver (identifier : String)
  | season (year quarter : Int) (week : Option Int)
  | tracks
  | cars
  | rebuild
  | update

namespace Request

/-- The job a run is recorded for. -/
def job : Request → String
  | driver _ => "driver"
  | season .. => "season"
  | tracks => "tracks"
  | cars => "cars"
  | rebuild => "rebuild"
  | update => "update"

/-- The target a run is asked for: the driver as named in the request, not as found. -/
def target : Request → String
  | driver identifier => identifier
  | season year quarter week => seasonTarget year quarter week
  | _ => ""

/-- The status key a run's report is recorded under. -/
def key (q : Request) : String := statusKey q.job q.target

/-- Makes the run asked for. -/
def run (plan : Plan) : Request → Run (Report × Option Failure)
  | driver identifier => syncDriver plan identifier
  | season year quarter week => syncSeason plan year quarter week
  | tracks => syncTracks plan
  | cars => syncCars plan
  | rebuild => Sync.rebuild plan
  | update => Sync.update plan

/-- The log of a sequence of runs: each report under the key of the run asked for. -/
def log (reqs : List Request) (outs : List (Report × Option Failure)) : List (String × Report) :=
  List.zipWith (fun q o => (q.key, o.1)) reqs outs

theorem colon_not_mem_job (q : Request) : ':' ∉ q.job.toList := by
  cases q <;> simp only [job] <;> decide

theorem key_inj (q q' : Request) : q.key = q'.key ↔ q.job = q'.job ∧ q.target = q'.target :=
  statusKey_inj (colon_not_mem_job q) (colon_not_mem_job q')

/-- Every run is an honest body run under its job and the target asked for. -/
theorem run_eq_honest (plan : Plan) (q : Request) :
    ∃ body : Job Unit, body.Honest ∧ q.run plan = Sync.run q.job q.target body := by
  cases q with
  | driver identifier =>
    exact ⟨_, (driverDiscovery_honest plan identifier).bind fetchAndIngest_honest,
      syncDriver_eq plan identifier⟩
  | season year quarter week =>
    exact ⟨_, (seasonDiscovery_honest plan year quarter week).bind fetchAndIngest_honest,
      syncSeason_eq plan year quarter week⟩
  | tracks => exact ⟨_, refresh_honest Remote.tracks_worded loadTracks_honest, syncTracks_eq plan⟩
  | cars => exact ⟨_, refresh_honest Remote.cars_worded loadCars_honest, syncCars_eq plan⟩
  | rebuild =>
    refine ⟨_, ?_, rfl⟩
    exact (reloadSnapshot_honest _ loadTracks_honest).bind fun _ =>
      (reloadSnapshot_honest _ loadCars_honest).bind fun _ => Job.honest_getMachine.bind fun _ =>
        (Job.honest_note _ (by intro; rfl)).bind fun _ => bulkIngest_honest plan _ _
  | update =>
    refine ⟨_, ?_, rfl⟩
    exact Job.honest_getMachine.bind fun _ =>
      (Job.honest_note _ (by intro; rfl)).bind fun _ => bulkIngest_honest plan _ _

theorem run_records (plan : Plan) (q : Request) (m : Machine) :
    ((q.run plan).run m).1.1.failed = ((q.run plan).run m).1.2.isSome ∧
      ((q.run plan).run m).2.status = m.status.record q.key ((q.run plan).run m).1.1 := by
  obtain ⟨body, hb, hrun⟩ := run_eq_honest plan q
  rw [hrun]
  exact run_reports_failure hb m

/-- A sequence of runs gives a report per run, each failed exactly when its run failed, and
keeps the status in step with the log it extends. -/
theorem mapM_follows (plan : Plan) :
    ∀ (reqs : List Request) (m : Machine) (past : List (String × Report)), m.status.Follows past →
      ((reqs.mapM (Request.run plan)).run m).1.length = reqs.length ∧
        (∀ o ∈ ((reqs.mapM (Request.run plan)).run m).1, o.1.failed = o.2.isSome) ∧
        ((reqs.mapM (Request.run plan)).run m).2.status.Follows
          (past ++ log reqs ((reqs.mapM (Request.run plan)).run m).1)
  | [], m, past, h => by
    have hnil : (([] : List Request).mapM (Request.run plan)).run m = ([], m) := rfl
    rw [hnil, log, List.zipWith_nil_left, List.append_nil]
    exact ⟨rfl, fun _ ho => (by cases ho), h⟩
  | q :: rest, m, past, h => by
    obtain ⟨hfailed, hstatus⟩ := run_records plan q m
    have hfirst := hstatus ▸ h.record q.key ((q.run plan).run m).1.1
    obtain ⟨hlen, hall, hrest⟩ := mapM_follows plan rest _ _ hfirst
    have hcons : ((q :: rest).mapM (Request.run plan)).run m =
        (((q.run plan).run m).1 :: ((rest.mapM (Request.run plan)).run ((q.run plan).run m).2).1,
          ((rest.mapM (Request.run plan)).run ((q.run plan).run m).2).2) := by
      rw [List.mapM_cons]
      rfl
    rw [hcons]
    refine ⟨by rw [List.length_cons, List.length_cons, hlen], ?_, ?_⟩
    · rintro o (_ | ⟨_, ho⟩)
      · exact hfailed
      · exact hall o ho
    · rw [List.append_assoc, List.singleton_append] at hrest
      exact hrest

/-- A log of as many reports as runs has the runs' keys. -/
theorem log_keys : ∀ {reqs : List Request} {outs : List (Report × Option Failure)},
    outs.length = reqs.length → (log reqs outs).map (·.1) = reqs.map key
  | [], [], _ => rfl
  | q :: rest, o :: outs, h => by
    have hrest : (log rest outs).map (·.1) = rest.map key := log_keys (Nat.succ.inj h)
    rw [log, List.zipWith_cons_cons, List.map_cons, List.map_cons, ← log, hrest]
  | [], _ :: _, h => by simp at h
  | _ :: _, [], h => by simp at h

end Request

/-- **The status counts failure streaks.** Run any sequence of requests against a machine whose
status is empty. Each run's report is failed exactly when the run failed, and the status then
holds, for every key, the last report recorded under it, the finish of its last run that went
through, and the number of its failed runs since that run or since the start. Runs share a key
exactly when they share their job and the target asked for, so no two targets share a streak.
The status is healthy for a limit exactly when every run's streak is below the limit, or below
one when the limit is not positive. -/
theorem status_counts_failure_streaks (plan : Plan) (reqs : List Request) (m : Machine) :
    let out := (reqs.mapM (Request.run plan)).run { m with status := {} }
    (∀ o ∈ out.1, o.1.failed = o.2.isSome) ∧
      out.2.status.Follows (Request.log reqs out.1) ∧
      (∀ q q' : Request, q.key = q'.key ↔ q.job = q'.job ∧ q.target = q'.target) ∧
      ∀ limit, out.2.status.healthy limit = true ↔
        ∀ q ∈ reqs, (streak (Request.log reqs out.1) q.key : Int) < max limit 1 := by
  intro out
  obtain ⟨hlen, hfailed, hfollows⟩ :=
    Request.mapM_follows plan reqs { m with status := {} } [] Status.Follows.empty
  rw [List.nil_append] at hfollows
  refine ⟨hfailed, hfollows, Request.key_inj, fun limit => ?_⟩
  rw [hfollows.healthy_iff, Request.log_keys hlen, List.forall_mem_map]

end RaceArchive.Sync
