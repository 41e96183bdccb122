import Mathlib
import RaceArchive.Proofs.Keys

/-!
# The rating history is exact

The rating history of a display name shows the rated road results of the driver holding the
name: one point for each result row of that driver whose rating changed and whose subsession is a
road race, with the start time of its subsession, the rating and the series of its session, each
row once and nothing else, ordered by start time and then by session number. A name that nobody
holds has an empty history. The main statement is `Store.ratingHistory_exact`.

The query joins each result to its session of the subsession, its subsession, its session and
its driver. In a reachable store each result has all of them (`Store.Linked`) and each key names
one row (`Store.Distinct`), so the join neither drops nor repeats a result, and one driver at most
holds the name.
-/

namespace RaceArchive.Store

open Results

namespace Store

variable {db : Store} {c : Int64} {n : Octets}

/-! ## What the history shows -/

/-- A result of driver `c` with its subsession and session that the rating history shows: the
subsession and the session are the stored ones of the result, the rating changed, and the race
is a road race. -/
structure Rated (db : Store) (c : Int64) (x : ResultRow × SubsessionRow × SessionRow) : Prop where
  result : x.1 ∈ db.results
  driver : x.1.custId = c
  subsession : x.2.1 ∈ db.subsessions
  subsession_id : x.2.1.subsessionId = x.1.subsessionId
  session : x.2.2 ∈ db.sessions
  session_id : x.2.2.sessionId = x.2.1.sessionId
  rated : x.1.newiRating ≠ noRatingChange
  road : x.2.1.licenseCategoryId = categoryRoad

/-- A rated result comes no later than another: by start time, then by session number. -/
def RatedBefore (x y : ResultRow × SubsessionRow × SessionRow) : Prop :=
  x.2.1.startTime < y.2.1.startTime ∨
    (x.2.1.startTime = y.2.1.startTime ∧ x.1.simsessionNumber ≤ y.1.simsessionNumber)

/-- The point a rated result shows: the start time of its subsession, the rating and the series
of its session. -/
def toPoint (x : ResultRow × SubsessionRow × SessionRow) : RatingPoint :=
  ⟨x.2.1.startTime, x.1.newiRating, x.2.2.seriesName⟩

/-! ## The query, step by step -/

/-- A result with its subsession and session, when the history shows it. -/
def rated (db : Store) (r : ResultRow) : Option (ResultRow × SubsessionRow × SessionRow) := do
  let (sub, ses) ← db.joined r
  if r.newiRating != noRatingChange && sub.licenseCategoryId == categoryRoad then some (r, sub, ses)
  else none

/-- The order of the history. -/
def ratedBefore (x y : ResultRow × SubsessionRow × SessionRow) : Bool :=
  x.2.1.startTime < y.2.1.startTime ||
    (x.2.1.startTime == y.2.1.startTime && x.1.simsessionNumber ≤ y.1.simsessionNumber)

/-- The rating history of a name that a driver holds: that driver's rated results, sorted. -/
theorem ratingHistory_eq (hn : db.driverNamed n = some c) :
    db.ratingHistory n = (((db.resultsOf c).filterMap db.rated).mergeSort ratedBefore).map toPoint := by
  -- the query sorts the rated results tagged with their sort keys, then drops the keys
  let tag (x : ResultRow × SubsessionRow × SessionRow) : (Int64 × Int64) × RatingPoint :=
    ((x.2.1.startTime, x.1.simsessionNumber), toPoint x)
  let before (a b : (Int64 × Int64) × RatingPoint) : Bool :=
    a.1.1 < b.1.1 || (a.1.1 == b.1.1 && a.1.2 ≤ b.1.2)
  have hsort : (((db.resultsOf c).filterMap db.rated).mergeSort ratedBefore).map tag =
      (((db.resultsOf c).filterMap db.rated).map tag).mergeSort before :=
    List.map_mergeSort fun _ _ _ _ => rfl
  have hpoints : (((db.resultsOf c).filterMap db.rated).mergeSort ratedBefore).map toPoint =
      ((((db.resultsOf c).filterMap db.rated).mergeSort ratedBefore).map tag).map Prod.snd := by
    rw [List.map_map]
    rfl
  rw [hpoints, hsort, List.map_filterMap]
  unfold ratingHistory
  rw [hn]
  dsimp only
  congr 3
  funext r
  unfold rated
  cases db.joined r with
  | none => rfl
  | some j => dsimp only [bind, Option.bind]; split <;> rfl

theorem ratingHistory_unheld (hn : ∀ d ∈ db.drivers, d.name ≠ some n) : db.ratingHistory n = [] := by
  unfold ratingHistory
  rw [driverNamed_eq_none hn]

/-! ## The rated results -/

theorem rated_fst {r : ResultRow} {x : ResultRow × SubsessionRow × SessionRow}
    (h : db.rated r = some x) : x.1 = r := by
  unfold rated at h
  cases hj : db.joined r with
  | none => simp [hj, bind] at h
  | some j =>
    simp only [hj, bind, Option.bind] at h
    split at h
    · cases h; rfl
    · cases h

/-- In a linked and keyed store, the rated results of driver `c` are exactly those the history
shows. -/
theorem mem_rated (hl : db.Linked) (hd : db.Distinct) {x : ResultRow × SubsessionRow × SessionRow} :
    x ∈ (db.resultsOf c).filterMap db.rated ↔ Rated db c x := by
  constructor
  · intro hx
    obtain ⟨r, hr, hrx⟩ := List.mem_filterMap.mp hx
    obtain ⟨hres, hc⟩ := mem_resultsOf.mp hr
    unfold rated at hrx
    cases hj : db.joined r with
    | none => simp [hj, bind] at hrx
    | some j =>
      obtain ⟨hsub, hsid, hses, hsesid⟩ := joined_some hj
      simp only [hj, bind, Option.bind] at hrx
      split at hrx
      · next hcond =>
        cases hrx
        simp only [Bool.and_eq_true, bne_iff_ne, ne_eq, beq_iff_eq] at hcond
        exact ⟨hres, hc, hsub, hsid, hses, hsesid, hcond.1, hcond.2⟩
      · cases hrx
  · rintro ⟨hres, hc, hsub, hsid, hses, hsesid, hrated, hroad⟩
    refine List.mem_filterMap.mpr ⟨x.1, mem_resultsOf.mpr ⟨hres, hc⟩, ?_⟩
    -- the result's session of the subsession is stored, so the join finds its rows
    have hj := hd.joined_eq (hl.result_simsession _ hres) hsub hsid hses hsesid
    unfold rated
    simp only [hj, bind, Option.bind]
    rw [if_pos (by simp [hrated, hroad])]

theorem Distinct.rated_nodup (hd : db.Distinct) (c : Int64) :
    (((db.resultsOf c).filterMap db.rated).map (·.1)).Nodup := by
  rw [List.map_filterMap]
  refine (hd.resultsOf_nodup c).filterMap fun r r' y hy hy' => ?_
  obtain ⟨x, hx, rfl⟩ := Option.map_eq_some_iff.mp hy
  obtain ⟨x', hx', hxx⟩ := Option.map_eq_some_iff.mp hy'
  rw [← rated_fst hx, ← rated_fst hx', hxx]

/-! ## The order -/

theorem ratedBefore_iff (x y : ResultRow × SubsessionRow × SessionRow) :
    ratedBefore x y = true ↔ RatedBefore x y := by
  simp [ratedBefore, RatedBefore]

theorem RatedBefore.trans {x y z : ResultRow × SubsessionRow × SessionRow} (h₁ : RatedBefore x y)
    (h₂ : RatedBefore y z) : RatedBefore x z := by
  simp only [RatedBefore, Int64.lt_iff_toInt_lt, Int64.le_iff_toInt_le, ← Int64.toInt_inj] at *
  omega

theorem RatedBefore.total (x y : ResultRow × SubsessionRow × SessionRow) :
    RatedBefore x y ∨ RatedBefore y x := by
  simp only [RatedBefore, Int64.lt_iff_toInt_lt, Int64.le_iff_toInt_le, ← Int64.toInt_inj]
  omega

theorem pairwise_ratedBefore (l : List (ResultRow × SubsessionRow × SessionRow)) :
    (l.mergeSort ratedBefore).Pairwise RatedBefore := by
  refine (List.pairwise_mergeSort (fun x y z h₁ h₂ => ?_) (fun x y => ?_) l).imp fun h => ?_
  · rw [ratedBefore_iff] at *
    exact h₁.trans h₂
  · simpa only [Bool.or_eq_true, ratedBefore_iff] using RatedBefore.total x y
  · exact (ratedBefore_iff _ _).mp h

/-! ## The history -/

/-- What the rating history of a name is: empty when nobody holds the name; for the driver `c`
holding it, the points of a list holding each rated road result row of `c` once and nothing else,
ordered by start time and then by session number. -/
def HistoryExact (db : Store) (n : Octets) : Prop :=
  ((∀ d ∈ db.drivers, d.name ≠ some n) → db.ratingHistory n = []) ∧
  ∀ c, ⟨c, some n⟩ ∈ db.drivers → ∃ L : List (ResultRow × SubsessionRow × SessionRow),
    (∀ x, x ∈ L ↔ Rated db c x) ∧ (L.map (·.1)).Nodup ∧ L.Pairwise RatedBefore ∧
    db.ratingHistory n = L.map toPoint

/-- **The rating history is exact** in every reachable store, for every name. -/
theorem ratingHistory_exact {db : Store} (h : db.Reachable) (n : Octets) : db.HistoryExact n := by
  have hl := h.linked
  have hd := h.distinct
  refine ⟨ratingHistory_unheld, fun c hc => ?_⟩
  have hperm := List.mergeSort_perm ((db.resultsOf c).filterMap db.rated) ratedBefore
  refine ⟨_, fun x => ?_, ?_, pairwise_ratedBefore _, ratingHistory_eq (hd.driverNamed_eq hc)⟩
  · rw [hperm.mem_iff, mem_rated hl hd]
  · exact (hperm.map _).nodup_iff.mpr (hd.rated_nodup c)

/-- The history of the name Ann Apex among three races: driver 11's two results, in the order the
races were run and not the order they were stored, and nothing of driver 13, who raced under the
same name after driver 11 held it. -/
theorem ratingHistory_exact_threeRaces :
    Reachable threeRaces ∧ threeRaces.HistoryExact [65, 110, 110, 32, 65, 112, 101, 120] :=
  ⟨threeRaces_reachable, ratingHistory_exact threeRaces_reachable _⟩

end Store

end RaceArchive.Store
