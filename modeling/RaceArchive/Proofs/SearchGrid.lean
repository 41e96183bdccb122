import Mathlib
import RaceArchive.Proofs.Resync

/-!
# The search grid of a driver

A driver's subsessions are found by one series search per quarter of every year from the year
they joined to the last season year (`gridQueries`): every search names the driver and no week,
the years come in order and the quarters 1 to 4 within each year. The searches run in order and
the first failure ends them (`Searched`). The ids found are then sorted, their repeats dropped,
and those the cache lacks are the uncached ones.

The main statement is `findCustomer_grid_law`. A failed join-year lookup is the answer. Otherwise
the searches of the grid are asked in order up to the first failure, which is the answer. When
none fails, the answer is the ids found, strictly ascending, each id of an answer once, unless
the grid never runs out: when the last season year is the largest 64-bit integer, the year after
it wraps around below it, and the search goes on without end.

The loop runs the grid year by year (`searchYears`); `searchYears_eq` shows it runs the searches
of the whole grid in order.
-/

namespace RaceArchive.Discovery

open Remote

/-! ## The queries of the grid -/

/-- The searches of a driver's grid from a first year to a last: the four quarters of every year,
one year after the other. -/
def gridQueries (custId : Int64) (first last : Int) : List SeriesQuery :=
  (List.range (last + 1 - first).toNat).flatMap fun (k : Nat) => yearQueries custId (first + k)

theorem mem_yearQueries {q : SeriesQuery} {custId : Int64} {year : Int} :
    q ∈ yearQueries custId year ↔
      q.year = year ∧ 1 ≤ q.quarter ∧ q.quarter ≤ 4 ∧ q.custId = some custId ∧ q.week = none := by
  obtain ⟨y, quarter, c, week⟩ := q
  simp only [yearQueries, List.map_cons, List.map_nil, List.mem_cons, List.not_mem_nil,
    SeriesQuery.mk.injEq, or_false]
  constructor
  · rintro (⟨rfl, rfl, rfl, rfl⟩ | ⟨rfl, rfl, rfl, rfl⟩ | ⟨rfl, rfl, rfl, rfl⟩ |
      ⟨rfl, rfl, rfl, rfl⟩) <;> simp
  · rintro ⟨rfl, h1, h4, rfl, rfl⟩
    have : quarter = 1 ∨ quarter = 2 ∨ quarter = 3 ∨ quarter = 4 := by omega
    rcases this with rfl | rfl | rfl | rfl <;> simp

theorem length_gridQueries (custId : Int64) (first last : Int) :
    (gridQueries custId first last).length = 4 * (last + 1 - first).toNat := by
  simp [gridQueries, yearQueries, List.length_flatMap, Nat.mul_comm]

theorem mem_gridQueries {q : SeriesQuery} {custId : Int64} {first last : Int} :
    q ∈ gridQueries custId first last ↔
      first ≤ q.year ∧ q.year ≤ last ∧ 1 ≤ q.quarter ∧ q.quarter ≤ 4 ∧
        q.custId = some custId ∧ q.week = none := by
  simp only [gridQueries, List.mem_flatMap, List.mem_range, mem_yearQueries]
  constructor
  · rintro ⟨k, hk, hy, hq⟩
    exact ⟨by omega, by omega, hq⟩
  · rintro ⟨h1, h2, hq⟩
    exact ⟨(q.year - first).toNat, by omega, by omega, hq⟩

/-- The order of the grid: by year, then by quarter. -/
def QueryBefore (a b : SeriesQuery) : Prop :=
  a.year < b.year ∨ (a.year = b.year ∧ a.quarter < b.quarter)

theorem yearQueries_pairwise (custId : Int64) (year : Int) :
    (yearQueries custId year).Pairwise QueryBefore := by
  simp [yearQueries, QueryBefore]

theorem gridQueries_pairwise (custId : Int64) (first last : Int) :
    (gridQueries custId first last).Pairwise QueryBefore := by
  rw [gridQueries, List.pairwise_flatMap]
  refine ⟨fun k _ => yearQueries_pairwise custId _, ?_⟩
  refine List.pairwise_lt_range.imp fun hjk a ha b hb => ?_
  rw [mem_yearQueries] at ha hb
  left
  omega

/-! ## Running searches -/

theorem searchAll_append (qs rs : List SeriesQuery) (ids : Array Int64) :
    searchAll (qs ++ rs) ids = (do
      match ← searchAll qs ids with
      | .error f => pure (.error f)
      | .ok ids => searchAll rs ids) := by
  induction qs generalizing ids with
  | nil => simp [searchAll]
  | cons q qs ih =>
    simp only [List.cons_append, searchAll, bind_assoc]
    congr 1
    funext r
    cases r with
    | error f => simp
    | ok more => simp [ih]

/-- The year-by-year loop runs the searches of the years in turn. -/
theorem searchYears_eq (custId : Int64) (n : Nat) (year : Int) (ids : Array Int64) :
    searchYears custId year n ids =
      searchAll ((List.range n).flatMap fun (k : Nat) => yearQueries custId (year + k)) ids := by
  induction n generalizing year ids with
  | zero => rfl
  | succ n ih =>
    -- the first year, then the loop from the next, whose years are shifted by one
    have hshift :
        ((List.range n).map Nat.succ).flatMap (fun (k : Nat) => yearQueries custId (year + k)) =
          (List.range n).flatMap fun (k : Nat) => yearQueries custId (year + 1 + k) := by
      simp only [List.flatMap_map, Nat.succ_eq_add_one, Nat.cast_add, Nat.cast_one]
      congr 1
      funext k
      rw [add_comm (k : Int) 1, add_assoc]
    rw [List.range_succ_eq_map, List.flatMap_cons, hshift, searchAll_append, Nat.cast_zero,
      add_zero, searchYears]
    congr 1
    funext r
    cases r with
    | error f => rfl
    | ok ids => exact ih (year + 1) ids

theorem searchYears_grid (custId : Int64) (first last : Int) (ids : Array Int64) :
    searchYears custId first (last + 1 - first).toNat ids =
      searchAll (gridQueries custId first last) ids :=
  searchYears_eq custId _ first ids

/-- How a run of searches goes: the queries are asked in order, each on the wire the one before
left, and the first failure ends the run; the answers are those of the queries asked. -/
inductive Searched : List SeriesQuery → Wire → Except Failure (List (Array Int64)) → Wire → Prop
  | done (w : Wire) : Searched [] w (.ok []) w
  | failed {q : SeriesQuery} {qs : List SeriesQuery} {w w' : Wire} {f : Failure} :
      (searchSeries q).run w = (.error f, w') → Searched (q :: qs) w (.error f) w'
  | answered {q : SeriesQuery} {qs : List SeriesQuery} {w w₁ w₂ : Wire} {ids : Array Int64}
      {r : Except Failure (List (Array Int64))} :
      (searchSeries q).run w = (.ok ids, w₁) → Searched qs w₁ r w₂ →
      Searched (q :: qs) w (r.map (ids :: ·)) w₂

theorem searchAll_searched (qs : List SeriesQuery) (acc : Array Int64) (w : Wire) :
    ∃ r, Searched qs w r ((searchAll qs acc).run w).2 ∧
      ((searchAll qs acc).run w).1 = r.map fun answers => answers.foldl (· ++ ·) acc := by
  induction qs generalizing acc w with
  | nil => exact ⟨.ok [], .done w, rfl⟩
  | cons q qs ih =>
    rw [searchAll, Link.run_bind]
    rcases hq : (searchSeries q).run w with ⟨_ | ids, w₁⟩
    · exact ⟨_, .failed hq, rfl⟩
    · obtain ⟨r, hs, hr⟩ := ih (acc ++ ids) w₁
      refine ⟨r.map (ids :: ·), .answered hq hs, ?_⟩
      rw [hr]
      cases r <;> rfl

theorem toList_foldl_append (answers : List (Array Int64)) (acc : Array Int64) :
    (answers.foldl (· ++ ·) acc).toList = acc.toList ++ (answers.map Array.toList).flatten := by
  induction answers generalizing acc with
  | nil => simp
  | cons a rest ih => simp [ih]

/-! ## Sorting the ids found -/

section Found

variable {cached : Int64 → Bool}

theorem mem_dropRepeats {x : Int64} {l : List Int64} : x ∈ dropRepeats l ↔ x ∈ l := by
  fun_induction dropRepeats l with
  | case1 b rest ih => simp [ih]
  | case2 a b rest _ ih => simp [ih]
  | case3 l _ => rfl

/-- Dropping the repeats of an ascending list leaves it strictly ascending. -/
theorem dropRepeats_pairwise {l : List Int64} (h : l.Pairwise (· ≤ ·)) :
    (dropRepeats l).Pairwise (· < ·) := by
  fun_induction dropRepeats l with
  | case1 b rest ih => exact ih (List.pairwise_cons.1 h).2
  | case2 a b rest hab ih =>
    obtain ⟨hab', hrest⟩ := List.pairwise_cons.1 h
    refine List.pairwise_cons.2 ⟨fun c hc => ?_, ih hrest⟩
    have hb : b ≤ c := by
      rcases List.mem_cons.1 (mem_dropRepeats.1 hc) with hcb | hc'
      · exact hcb ▸ Int64.le_refl b
      · exact (List.pairwise_cons.1 hrest).1 c hc'
    have hac := Int64.le_iff_toInt_le.1 (hab' b List.mem_cons_self)
    have hbc := Int64.le_iff_toInt_le.1 hb
    have hne : a.toInt ≠ b.toInt := fun he => hab (Int64.toInt_inj.1 he)
    exact Int64.lt_iff_toInt_lt.2 (by omega)
  | case3 l hl =>
    match l, hl with
    | [], _ => exact List.Pairwise.nil
    | [_], _ => exact List.pairwise_singleton _ _
    | a :: b :: rest, hl => exact (hl a b rest rfl).elim

theorem found_all_pairwise (ids : Array Int64) :
    (found cached ids).all.toList.Pairwise (· < ·) := by
  apply dropRepeats_pairwise
  refine (List.pairwise_mergeSort ?_ ?_ _).imp fun h => of_decide_eq_true h
  · intro a b c hab hbc
    exact decide_eq_true (Int64.le_trans (of_decide_eq_true hab) (of_decide_eq_true hbc))
  · intro a b
    rcases Int64.le_total a b with h | h <;> simp [h]

/-- The ids found are those of the search answers. -/
theorem mem_found_all {x : Int64} (ids : Array Int64) :
    x ∈ (found cached ids).all.toList ↔ x ∈ ids.toList := by
  simp only [found, List.toList_toArray, mem_dropRepeats]
  exact (List.mergeSort_perm _ _).mem_iff

end Found

/-! ## The law of the search -/

/-- The search of a driver's grid. A failed lookup of the year they joined is the answer.
Otherwise the grid from that year to the last season year is asked, in order, up to the first
failure: `4 * (last + 1 - since)` searches (none when the join year is later), each for the
driver and no week, by year and then by quarter. A failure is the answer. When every search
answers, the subsessions found are strictly ascending and are exactly the ids of the answers,
and the uncached ones are those among them that the cache lacks, in the same order; but when the
last season year is the largest 64-bit integer, the grid wraps around and never runs out, and no
answer comes. -/
theorem findCustomer_grid_law (cfg : Config) (cached : Int64 → Bool) (custId : Int64) (w : Wire) :
    let run := (findCustomer cfg cached custId).run w
    match (memberSince custId).run w with
    | (.error f, w₁) => run = (.error f, w₁)
    | (.ok since, w₁) =>
      let grid := gridQueries custId since cfg.lastSeasonYear
      grid.length = 4 * (cfg.lastSeasonYear + 1 - since).toNat ∧
      (∀ q, q ∈ grid ↔ since ≤ q.year ∧ q.year ≤ cfg.lastSeasonYear ∧ 1 ≤ q.quarter ∧
        q.quarter ≤ 4 ∧ q.custId = some custId ∧ q.week = none) ∧
      grid.Pairwise QueryBefore ∧
      ∃ r w₂, Searched grid w₁ r w₂ ∧
        match r with
        | .error f => run = (.error f, w₂)
        | .ok answers =>
          if cfg.gridNeverEnds since then
            run = (.error (.plain (Crash.endless "the search grid").message),
              { w₂ with crash := some (.endless "the search grid") })
          else
            ∃ F : Found, run = (.ok F, w₂) ∧ F.all.toList.Pairwise (· < ·) ∧
              (∀ x, x ∈ F.all.toList ↔ ∃ a ∈ answers, x ∈ a.toList) ∧
              F.uncached.toList = F.all.toList.filter fun id => !cached id := by
  intro run
  have hrun : run = (findCustomer cfg cached custId).run w := rfl
  rcases hm : (memberSince custId).run w with ⟨_ | since, w₁⟩
  · rw [hrun, findCustomer, Link.run_bind, hm]
    rfl
  · dsimp only
    refine ⟨length_gridQueries _ _ _, fun q => mem_gridQueries, gridQueries_pairwise _ _ _, ?_⟩
    obtain ⟨r, hs, hr⟩ := searchAll_searched (gridQueries custId since cfg.lastSeasonYear) #[] w₁
    refine ⟨r, _, hs, ?_⟩
    rw [hrun, findCustomer, Link.run_bind, hm]
    dsimp only
    rw [searchYears_grid, Link.run_bind, hr]
    cases r with
    | error f => rfl
    | ok answers =>
      dsimp only [Except.map]
      split
      · exact neverEnds_run _ _
      · refine ⟨_, rfl, found_all_pairwise _, fun x => ?_, found_uncached cached _⟩
        rw [mem_found_all, toList_foldl_append]
        simp

end RaceArchive.Discovery
