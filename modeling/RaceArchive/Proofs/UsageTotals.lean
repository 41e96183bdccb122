import Mathlib
import RaceArchive.Proofs.UsageTable
import RaceArchive.Proofs.DriverTable
import RaceArchive.Proofs.RunEffects
import RaceArchive.Api

/-!
# The car and track usage of a name

The usage question answers a name with a failure or with rows whose table (`Store.ShowsUsage`)
has as cars and tracks the car abbreviations and track names of the results its holder drove
with stored references, each once; whose cell is empty exactly when no such result drove that car
on that track; and whose cell otherwise holds the laps times average lap of exactly those results,
summed and wrapped to 64 bits, whenever each of those products fits in 64 bits. The main
statement is `Store.carTrackUsage_shows`; the usage page is built on it.

The exact total needs that condition and the wrapping, and `Store.usage_total_wraps` shows why:
the database sums a car and a package exactly, but the table adds up the sums of cars that share
an abbreviation as 64-bit integers, so two sums of 5·10^18 show as −8446744073709551616. A product
past 64 bits makes the database sum doubles instead, and the total is no longer exact.

The argument: each result counts as one term (`Store.usageTerm`); terms are grouped by car and
package (`Store.Grouped`), and the names of a term are those of its car and package, so a group
holds all the terms of its names' pair that share its key; an integer sum is exact or fails
(`Store.Sum.Exact`); a sum over the groups of a pair is a sum over the pair's terms
(`Store.sum_fibers`); and the table tabulates the groups (`Usage.Matrix.ofRows_tabulates`).
-/

namespace RaceArchive.Store

open Results

namespace Store

variable {db : Store} {r : ResultRow} {u : UsageTerm}

/-! ## What a result counts -/

/-- The time a result was driven, exactly: its laps times its average lap. -/
def exactTime (r : ResultRow) : Int := r.lapsComplete.toInt * r.averageLap.toInt

/-- What a result counts towards usage, when its car, track configuration and package are
stored. -/
def usageTerm (db : Store) (r : ResultRow) : Option UsageTerm := do
  let (sub, _) ← db.joined r
  let config ← db.trackConfigs.find? (·.trackId == sub.trackId)
  let track ← db.tracks.find? (·.packageId == config.packageId)
  let car ← db.cars.find? (·.carId == r.carId)
  pure ⟨r.carId, track.packageId, car.carNameAbbreviated, track.trackName, sub.startTime,
    product r.lapsComplete r.averageLap⟩

theorem usageTerms_eq (db : Store) (c : Int64) :
    db.usageTerms c = (db.resultsOf c).filterMap db.usageTerm := rfl

theorem usageTerm_eq_some : db.usageTerm r = some u ↔
    ∃ sub ses cfg pkg car, db.joined r = some (sub, ses) ∧
      db.trackConfigs.find? (·.trackId == sub.trackId) = some cfg ∧
      db.tracks.find? (·.packageId == cfg.packageId) = some pkg ∧
      db.cars.find? (·.carId == r.carId) = some car ∧
      u = ⟨r.carId, pkg.packageId, car.carNameAbbreviated, pkg.trackName, sub.startTime,
        product r.lapsComplete r.averageLap⟩ := by
  unfold usageTerm
  cases hj : db.joined r with
  | none => simp [bind]
  | some j =>
    obtain ⟨sub, ses⟩ := j
    simp only [bind, Option.bind_some, Option.bind_eq_some_iff, pure, Option.some.injEq]
    constructor
    · rintro ⟨cfg, hcfg, pkg, hpkg, car, hcar, rfl⟩
      exact ⟨sub, ses, cfg, pkg, car, rfl, hcfg, hpkg, hcar, rfl⟩
    · rintro ⟨sub', ses', cfg, pkg, car, hsub, hcfg, hpkg, hcar, rfl⟩
      cases hsub
      exact ⟨cfg, hcfg, pkg, hpkg, car, hcar, rfl⟩

/-- The abbreviation of a stored car. -/
def carNamed (db : Store) (carId : Int64) : Option Octets :=
  (db.cars.find? (·.carId == carId)).map (·.carNameAbbreviated)

/-- The name of a stored track package. -/
def trackNamed (db : Store) (packageId : Int64) : Option Octets :=
  (db.tracks.find? (·.packageId == packageId)).map (·.trackName)

/-- The car and the package of a term, by which terms are grouped. -/
def UsageTerm.key (u : UsageTerm) : Int64 × Int64 := (u.carId, u.packageId)

/-- The car and the package of a group. -/
def UsageGroup.key (g : UsageGroup) : Int64 × Int64 := (g.carId, g.packageId)

/-- A term is named after its car and its package. -/
def Named (db : Store) (u : UsageTerm) : Prop :=
  db.carNamed u.carId = some u.car ∧ db.trackNamed u.packageId = some u.track

theorem usageTerm_named (h : db.usageTerm r = some u) : db.Named u := by
  obtain ⟨sub, ses, cfg, pkg, car, -, -, hpkg, hcar, rfl⟩ := usageTerm_eq_some.mp h
  -- the package found for the configuration carries the configuration's package id
  have hid : pkg.packageId = cfg.packageId := by simpa using List.find?_some hpkg
  refine ⟨by simp [carNamed, hcar], ?_⟩
  simp only [trackNamed, hid, hpkg, Option.map_some]

theorem Named.names_eq {u' : UsageTerm} (h : db.Named u) (h' : db.Named u') (hk : u.key = u'.key) :
    u.car = u'.car ∧ u.track = u'.track := by
  simp only [UsageTerm.key, Prod.mk.injEq] at hk
  obtain ⟨hc, ht⟩ := h
  obtain ⟨hc', ht'⟩ := h'
  rw [hk.1] at hc
  rw [hk.2] at ht
  exact ⟨Option.some.inj (hc.symm.trans hc'), Option.some.inj (ht.symm.trans ht')⟩

/-- The time of a term as an integer, when it is one. -/
def Number.intValue : Number → Int
  | .int n => n.toInt
  | .real _ => 0

@[simp] theorem Number.intValue_int (n : Int64) : (Number.int n).intValue = n.toInt := rfl

theorem product_of_fits {a b : Int64} (h : fits (a.toInt * b.toInt) = true) :
    product a b = .int (Int64.ofInt (a.toInt * b.toInt)) ∧
      (product a b).intValue = a.toInt * b.toInt := by
  have hb : -2 ^ 63 ≤ a.toInt * b.toInt ∧ a.toInt * b.toInt < 2 ^ 63 := by
    simp only [fits, Bool.and_eq_true, decide_eq_true_eq] at h
    omega
  have hp : product a b = .int (Int64.ofInt (a.toInt * b.toInt)) := by simp only [product, h, if_true]
  refine ⟨hp, ?_⟩
  rw [hp]
  exact Int64.toInt_ofInt_of_le hb.1 hb.2

theorem usageTerm_time_of_fits (h : db.usageTerm r = some u) (hfit : fits (exactTime r) = true) :
    u.time = .int (Int64.ofInt (exactTime r)) ∧ u.time.intValue = exactTime r := by
  obtain ⟨sub, ses, cfg, pkg, car, -, -, -, -, rfl⟩ := usageTerm_eq_some.mp h
  exact product_of_fits hfit

/-! ## Integer sums -/

namespace Sum

theorem stepInt_flags (s : Sum) (i : Int) :
    (s.stepInt i).approximate = s.approximate ∧ (s.stepInt i).overflowed = s.overflowed := by
  unfold stepInt
  split <;> exact ⟨rfl, rfl⟩

theorem start_approximate (s : Sum) (i : Int) : (s.start i).approximate = true := by
  unfold start
  split <;> rfl

/-- A sum of integers so far: exact and within 64 bits, or overflowed for good. -/
def Exact (s : Sum) (S : Int) : Prop :=
  (s.approximate = false ∧ s.int = S ∧ fits S = true) ∨ (s.approximate = true ∧ s.overflowed = true)

theorem exact_empty : ({} : Sum).Exact 0 := .inl ⟨rfl, rfl, by decide⟩

theorem Exact.add {s : Sum} {S : Int} (h : s.Exact S) (n : Int64) : (s.add (.int n)).Exact (S + n.toInt) := by
  unfold Sum.add
  rcases h with ⟨happ, hint, -⟩ | ⟨happ, hover⟩
  · simp only [happ, Bool.false_eq_true, if_false]
    split
    · next hfits => exact .inl ⟨rfl, by rw [hint], by rw [← hint]; exact hfits⟩
    · -- the integer sum leaves 64 bits: it goes on as doubles, marked overflowed
      exact .inr ⟨((s.start s.int).stepInt_flags n.toInt).1.trans (start_approximate s s.int), rfl⟩
  · simp only [happ, if_true]
    exact .inr ⟨(stepInt_flags s n.toInt).1.trans happ, (stepInt_flags s n.toInt).2.trans hover⟩

theorem Exact.foldl {s : Sum} {S : Int} (h : s.Exact S) :
    ∀ xs : List Number, (∀ x ∈ xs, ∃ n, x = .int n) →
      (xs.foldl Sum.add s).Exact (S + (xs.map Number.intValue).sum)
  | [], _ => by simpa using h
  | x :: xs, hx => by
    obtain ⟨n, rfl⟩ := hx x List.mem_cons_self
    have := (h.add n).foldl xs fun y hy => hx y (List.mem_cons_of_mem _ hy)
    simpa [Number.intValue, add_assoc] using this

/-- The value of an exact sum is the sum itself. -/
theorem Exact.value {s : Sum} {S : Int} {num : Number} (h : s.Exact S) (hv : s.value = .ok num) :
    num = .int (Int64.ofInt S) ∧ fits S = true := by
  unfold Sum.value at hv
  rcases h with ⟨happ, hint, hfits⟩ | ⟨happ, hover⟩
  · simp only [happ, Bool.not_false, if_true] at hv
    cases hv
    exact ⟨by rw [hint], hfits⟩
  · simp [happ, hover] at hv

end Sum

/-! ## Grouping the terms -/

/-- The groups after adding the terms `done`: one per key, each named as a term of its key, and
summing the times of the terms of its key in order. -/
structure Grouped (done : List UsageTerm) (groups : List UsageGroup) : Prop where
  keys : (groups.map UsageGroup.key).Nodup
  named : ∀ g ∈ groups, ∃ u ∈ done, u.key = g.key ∧ u.car = g.car ∧ u.track = g.track
  sum : ∀ g ∈ groups, g.sum = ((done.filter (·.key == g.key)).map (·.time)).foldl Sum.add {}
  covers : ∀ u ∈ done, ∃ g ∈ groups, g.key = u.key

theorem grouped_empty : Grouped [] [] := ⟨.nil, by simp, by simp, by simp⟩

/-- A group with one more term of its key. -/
def UsageGroup.take (g : UsageGroup) (t : UsageTerm) : UsageGroup :=
  { g with first := if t.startTime < g.first then t.startTime else g.first, sum := g.sum.add t.time }

/-- The group a term of a new key opens. -/
def UsageGroup.ofTerm (t : UsageTerm) : UsageGroup :=
  ⟨t.carId, t.packageId, t.car, t.track, t.startTime, ({} : Sum).add t.time⟩

theorem addTerm_eq (groups : List UsageGroup) (t : UsageTerm) :
    Store.addTerm groups t =
      if groups.any (·.key == t.key) then groups.map fun g => if g.key == t.key then g.take t else g
      else groups ++ [.ofTerm t] := rfl

section Grouping

variable {done : List UsageTerm} {groups : List UsageGroup}

/-- A term of a key that has a group adds its time to that group; every group keeps its key and
names. -/
theorem Grouped.take (h : Grouped done groups) {t : UsageTerm} (hany : groups.any (·.key == t.key) = true) :
    Grouped (done ++ [t]) (groups.map fun g => if g.key == t.key then g.take t else g) := by
  have hkey : ∀ g : UsageGroup, (if g.key == t.key then g.take t else g).key = g.key := fun g => by
    split <;> rfl
  refine ⟨?_, fun g' hg' => ?_, fun g' hg' => ?_, fun u hu => ?_⟩
  · rw [List.map_map]
    convert h.keys using 1
    exact List.map_congr_left fun g _ => hkey g
  · obtain ⟨g, hg, rfl⟩ := List.mem_map.mp hg'
    obtain ⟨u, hu, hk, hc, ht⟩ := h.named g hg
    refine ⟨u, List.mem_append_left _ hu, hk.trans (hkey g).symm, ?_⟩
    split <;> exact ⟨hc, ht⟩
  · obtain ⟨g, hg, rfl⟩ := List.mem_map.mp hg'
    rw [hkey]
    by_cases hm : g.key = t.key
    · simp [hm, UsageGroup.take, h.sum g hg, List.filter_append]
    · simp [hm, Ne.symm hm, h.sum g hg, List.filter_append]
  · rcases List.mem_append.mp hu with hu | hu
    · obtain ⟨g, hg, hk⟩ := h.covers u hu
      exact ⟨_, List.mem_map_of_mem hg, (hkey g).trans hk⟩
    · obtain ⟨g, hg, hm⟩ := List.any_eq_true.mp hany
      rw [List.mem_singleton.mp hu]
      exact ⟨_, List.mem_map_of_mem hg, (hkey g).trans (beq_iff_eq.mp hm)⟩

/-- A term of a new key opens a group that holds it alone, as no term before has the key. -/
theorem Grouped.fresh (h : Grouped done groups) {t : UsageTerm} (hnone : ¬groups.any (·.key == t.key) = true) :
    Grouped (done ++ [t]) (groups ++ [.ofTerm t]) := by
  have hfresh : ∀ g ∈ groups, g.key ≠ t.key := fun g hg he =>
    hnone (List.any_eq_true.mpr ⟨g, hg, beq_iff_eq.mpr he⟩)
  have hdone : ∀ u ∈ done, u.key ≠ t.key := fun u hu he => by
    obtain ⟨g, hg, hk⟩ := h.covers u hu
    exact hfresh g hg (hk.trans he)
  refine ⟨?_, fun g hg => ?_, fun g hg => ?_, fun u hu => ?_⟩
  · rw [List.map_append, List.map_singleton, ← List.concat_eq_append]
    exact h.keys.concat fun hmem => by
      obtain ⟨g, hg, hk⟩ := List.mem_map.mp hmem
      exact hfresh g hg hk
  · rcases List.mem_append.mp hg with hg | hg
    · obtain ⟨u, hu, hk⟩ := h.named g hg
      exact ⟨u, List.mem_append_left _ hu, hk⟩
    · rw [List.mem_singleton.mp hg]
      exact ⟨t, by simp, rfl, rfl, rfl⟩
  · rw [List.filter_append, List.filter_singleton]
    rcases List.mem_append.mp hg with hg | hg
    · have hne : (t.key == g.key) = false := beq_eq_false_iff_ne.mpr fun he => hfresh g hg he.symm
      rw [h.sum g hg, hne]
      simp
    · rw [List.mem_singleton.mp hg]
      have hnil : done.filter (·.key == (UsageGroup.ofTerm t).key) = [] :=
        List.filter_eq_nil_iff.mpr fun u hu hk => hdone u hu (beq_iff_eq.mp hk)
      rw [hnil]
      simp [UsageGroup.ofTerm, UsageGroup.key, UsageTerm.key]
  · rcases List.mem_append.mp hu with hu | hu
    · obtain ⟨g, hg, hk⟩ := h.covers u hu
      exact ⟨g, List.mem_append_left _ hg, hk⟩
    · rw [List.mem_singleton.mp hu]
      exact ⟨_, List.mem_append_right _ (List.mem_singleton_self _), rfl⟩

theorem Grouped.addTerm (h : Grouped done groups) (t : UsageTerm) :
    Grouped (done ++ [t]) (Store.addTerm groups t) := by
  rw [addTerm_eq]
  split
  · next hany => exact h.take hany
  · next hnone => exact h.fresh hnone

end Grouping

theorem grouped_foldl : ∀ (terms : List UsageTerm) {done : List UsageTerm} {groups : List UsageGroup},
    Grouped done groups → Grouped (done ++ terms) (terms.foldl Store.addTerm groups)
  | [], _, _, h => by simpa using h
  | t :: terms, _, _, h => by simpa using grouped_foldl terms (h.addTerm t)

/-! ## Sums over groups -/

theorem sum_fibers {α κ : Type} [BEq κ] [LawfulBEq κ] (key : α → κ) (x : α → Int) :
    ∀ (ks : List κ) (l : List α), ks.Nodup → (∀ u ∈ l, key u ∈ ks) →
      (ks.map fun k => ((l.filter (key · == k)).map x).sum).sum = (l.map x).sum := by
  intro ks l hks hl
  -- the shares under the keys are the list itself, rearranged
  rw [← ((Usage.flatMap_filter_perm key hks hl).map x).sum_eq, List.map_flatMap, List.flatMap,
    List.sum_flatten, List.map_map]
  rfl

theorem ofInt_sum : ∀ l : List Int, (l.map Int64.ofInt).sum = Int64.ofInt l.sum
  | [] => rfl
  | a :: l => by rw [List.map_cons, List.sum_cons, List.sum_cons, ofInt_sum l, Int64.ofInt_add]

theorem forall₂_mem_left {α β : Type} {R : α → β → Prop} :
    ∀ {as : List α} {bs : List β}, List.Forall₂ R as bs → ∀ a ∈ as, ∃ b ∈ bs, R a b
  | [], [], .nil, _, ha => absurd ha List.not_mem_nil
  | _ :: _, b :: _, .cons h t, a, ha => by
    rcases List.mem_cons.mp ha with rfl | ha
    · exact ⟨b, List.mem_cons_self, h⟩
    · obtain ⟨b', hb', hR⟩ := forall₂_mem_left t a ha
      exact ⟨b', List.mem_cons_of_mem _ hb', hR⟩

theorem forall₂_mem_right {α β : Type} {R : α → β → Prop} :
    ∀ {as : List α} {bs : List β}, List.Forall₂ R as bs → ∀ b ∈ bs, ∃ a ∈ as, R a b
  | [], [], .nil, _, hb => absurd hb List.not_mem_nil
  | a :: _, _ :: _, .cons h t, b, hb => by
    rcases List.mem_cons.mp hb with rfl | hb
    · exact ⟨a, List.mem_cons_self, h⟩
    · obtain ⟨a', ha', hR⟩ := forall₂_mem_right t b hb
      exact ⟨a', List.mem_cons_of_mem _ ha', hR⟩

theorem forall₂_zip {α β γ : Type} {R₁ : α → β → Prop} {R₂ : β × α → γ → Prop} :
    ∀ {as : List α} {bs : List β} {cs : List γ}, List.Forall₂ R₁ as bs →
      List.Forall₂ R₂ (bs.zip as) cs → List.Forall₂ (fun a c => ∃ b, R₁ a b ∧ R₂ (b, a) c) as cs
  | [], [], _, .nil, h => by cases h; exact .nil
  | _ :: _, _ :: _, _, .cons h₁ t₁, h => by
    cases h with
    | cons h₂ t₂ => exact .cons ⟨_, h₁, h₂⟩ (forall₂_zip t₁ t₂)

/-! ## The rows of the question -/

/-- A row of the question for a group: its names and the total its sum reads back as. -/
def RowOf (g : UsageGroup) (row : Usage.Row) : Prop :=
  row.car = g.car ∧ row.track = g.track ∧ ∃ num, g.sum.value = .ok num ∧ num.toTotal = .ok row.totalTime

/-- The rows the usage question gives for a name: one per group of the holder's terms, in some
order. -/
theorem carTrackUsage_rows {n : Octets} {c : Int64} {rows : List Usage.Row}
    (hn : db.driverNamed n = some c) (h : db.carTrackUsage n = .ok rows) :
    ∃ ordered : List UsageGroup, ordered.Perm ((db.usageTerms c).foldl Store.addTerm []) ∧
      List.Forall₂ RowOf ordered rows := by
  unfold carTrackUsage at h
  rw [hn] at h
  dsimp only at h
  obtain ⟨totals, htotals, hrows⟩ := Except.bind_eq_ok.mp h
  refine ⟨_, ?_, (forall₂_zip (mapM_ok_iff.mp htotals) (mapM_ok_iff.mp hrows)).imp fun g row => ?_⟩
  · exact List.mergeSort_perm _ _
  · rintro ⟨num, hnum, hrow⟩
    obtain ⟨t, ht, hrow⟩ := Except.bind_eq_ok.mp hrow
    cases hrow
    exact ⟨rfl, rfl, num, Except.mapError_eq_ok.mp hnum, ht⟩

/-- The terms of a pair of names: those with that car abbreviation and that track name. -/
def onPair (a t : Octets) (u : UsageTerm) : Bool := u.car == a && u.track == t

/-- The rows that the groups of some named terms give. -/
structure RowsOf (db : Store) (terms : List UsageTerm) (rows : List Usage.Row) : Prop where
  named : ∀ u ∈ terms, db.Named u
  groups : ∃ groups ordered, Grouped terms groups ∧ ordered.Perm groups ∧ List.Forall₂ RowOf ordered rows

section RowsOf

variable {terms : List UsageTerm} {rows : List Usage.Row} {a t : Octets}

theorem RowsOf.group_names (h : RowsOf db terms rows) {groups : List UsageGroup}
    (hg : Grouped terms groups) {g : UsageGroup} (hgm : g ∈ groups) {u : UsageTerm} (hu : u ∈ terms)
    (hk : u.key = g.key) : u.car = g.car ∧ u.track = g.track := by
  obtain ⟨u', hu', hk', hc, ht⟩ := hg.named g hgm
  obtain ⟨hc', ht'⟩ := (h.named u hu).names_eq (h.named u' hu') (hk.trans hk'.symm)
  exact ⟨hc'.trans hc, ht'.trans ht⟩

/-- The rows name the pairs the terms name. -/
theorem RowsOf.mem_pair (h : RowsOf db terms rows) :
    (∃ row ∈ rows, row.car = a ∧ row.track = t) ↔ ∃ u ∈ terms, u.car = a ∧ u.track = t := by
  obtain ⟨groups, ordered, hg, hperm, hrows⟩ := h.groups
  constructor
  · rintro ⟨row, hrow, rfl, rfl⟩
    obtain ⟨g, hgo, hR⟩ := forall₂_mem_right hrows row hrow
    obtain ⟨u, hu, -, hc, ht⟩ := hg.named g (hperm.subset hgo)
    exact ⟨u, hu, hc.trans hR.1.symm, ht.trans hR.2.1.symm⟩
  · rintro ⟨u, hu, rfl, rfl⟩
    obtain ⟨g, hgm, hk⟩ := hg.covers u hu
    obtain ⟨row, hrow, hR⟩ := forall₂_mem_left hrows g (hperm.symm.subset hgm)
    obtain ⟨hc, ht⟩ := h.group_names hg hgm hu hk.symm
    exact ⟨row, hrow, hR.1.trans hc.symm, hR.2.1.trans ht.symm⟩

end RowsOf

section Pair

variable {terms : List UsageTerm} {rows : List Usage.Row} {a t : Octets}

theorem RowsOf.onPair_of_key (h : RowsOf db terms rows) {groups : List UsageGroup}
    (hg : Grouped terms groups) {g : UsageGroup} (hgm : g ∈ groups) (hgp : (g.car == a && g.track == t) = true)
    {u : UsageTerm} (hu : u ∈ terms) (hk : u.key = g.key) : onPair a t u = true := by
  obtain ⟨hc, ht⟩ := h.group_names hg hgm hu hk
  simp only [onPair, Bool.and_eq_true, beq_iff_eq] at hgp ⊢
  exact ⟨hc.trans hgp.1, ht.trans hgp.2⟩

/-- A row of a group whose terms are all integers shows their exact sum, wrapped to 64 bits. -/
theorem Grouped.row_total {groups : List UsageGroup} (hg : Grouped terms groups) {g : UsageGroup}
    (hgm : g ∈ groups) (hint : ∀ u ∈ terms, u.key = g.key → ∃ k, u.time = .int k) {row : Usage.Row}
    (hrow : RowOf g row) :
    row.totalTime = Int64.ofInt ((terms.filter (·.key == g.key)).map (·.time.intValue)).sum := by
  obtain ⟨-, -, num, hv, htot⟩ := hrow
  -- the group's running sum never left the integers
  have hexact := Sum.exact_empty.foldl ((terms.filter (·.key == g.key)).map (·.time)) fun x hx => by
    obtain ⟨u, hu, rfl⟩ := List.mem_map.mp hx
    obtain ⟨hut, hk⟩ := List.mem_filter.mp hu
    exact hint u hut (beq_iff_eq.mp hk)
  rw [← hg.sum g hgm, List.map_map, zero_add] at hexact
  obtain ⟨rfl, -⟩ := hexact.value hv
  exact (Except.ok.inj htot).symm

/-- The groups of a pair share out the pair's terms: their exact sums add up to the exact sum of
the pair's terms. -/
theorem RowsOf.sum_pair_groups (h : RowsOf db terms rows) {groups : List UsageGroup}
    (hg : Grouped terms groups) :
    ((groups.filter fun g => g.car == a && g.track == t).map fun g =>
        ((terms.filter (·.key == g.key)).map (·.time.intValue)).sum).sum =
      ((terms.filter (onPair a t)).map (·.time.intValue)).sum := by
  let p (g : UsageGroup) : Bool := g.car == a && g.track == t
  -- the keys of the groups of the pair cover the pair's terms, each once
  have hcover : ∀ u ∈ terms.filter (onPair a t), u.key ∈ (groups.filter p).map UsageGroup.key := by
    intro u hu
    obtain ⟨hut, hup⟩ := List.mem_filter.mp hu
    obtain ⟨g, hgm, hk⟩ := hg.covers u hut
    obtain ⟨hc, ht⟩ := h.group_names hg hgm hut hk.symm
    simp only [onPair, Bool.and_eq_true, beq_iff_eq] at hup
    refine List.mem_map.mpr ⟨g, List.mem_filter.mpr ⟨hgm, ?_⟩, hk⟩
    simp [p, ← hc, ← ht, hup.1, hup.2]
  have hshare : ∀ g ∈ groups.filter p,
      ((terms.filter (·.key == g.key)).map (·.time.intValue)).sum =
        (((terms.filter (onPair a t)).filter (·.key == g.key)).map (·.time.intValue)).sum := by
    intro g hg'
    obtain ⟨hgm, hgp⟩ := List.mem_filter.mp hg'
    rw [List.filter_filter]
    congr 2
    refine List.filter_congr fun u hu => ?_
    by_cases hk : u.key = g.key
    · simp [hk, h.onPair_of_key hg hgm hgp hu hk]
    · simp [hk]
  have hfibers := sum_fibers UsageTerm.key (·.time.intValue) ((groups.filter p).map UsageGroup.key)
    (terms.filter (onPair a t)) (hg.keys.sublist ((List.filter_sublist).map _)) hcover
  rw [List.map_map] at hfibers
  rw [← hfibers, List.map_congr_left hshare]
  rfl

/-- **The rows of a pair add up to the exact total of its terms**, wrapped to 64 bits, when every
term of the pair is an integer: each group of the pair sums its terms exactly, and the groups of
the pair share out its terms. -/
theorem RowsOf.total_eq (h : RowsOf db terms rows)
    (hint : ∀ u ∈ terms, onPair a t u = true → ∃ k, u.time = .int k)
    (hex : ∃ u ∈ terms, onPair a t u = true) :
    Usage.total rows a t = some (Int64.ofInt ((terms.filter (onPair a t)).map (·.time.intValue)).sum) := by
  obtain ⟨groups, ordered, hg, hperm, hrows⟩ := h.groups
  let S (g : UsageGroup) : Int := ((terms.filter (·.key == g.key)).map (·.time.intValue)).sum
  let p (g : UsageGroup) : Bool := g.car == a && g.track == t
  -- a row of a group of the pair shows the group's exact sum, as its terms are the pair's
  have htime : ∀ g ∈ ordered, p g = true → ∀ row, RowOf g row → row.totalTime = Int64.ofInt (S g) :=
    fun g hgo hgp row hrow => hg.row_total (hperm.subset hgo)
      (fun u hu hk => hint u hu (h.onPair_of_key hg (hperm.subset hgo) hgp hu hk)) hrow
  have hfilter : List.Forall₂ RowOf (ordered.filter p) (rows.filter fun r => r.car == a && r.track == t) :=
    List.rel_filter (fun g row hR => by simp only [p, hR.1, hR.2.1]) hrows
  have hmap : (rows.filter fun r => r.car == a && r.track == t).map (·.totalTime) =
      (ordered.filter p).map fun g => Int64.ofInt (S g) := by
    have hkept : List.Forall₂ (fun g row => (g ∈ ordered ∧ p g = true) ∧ RowOf g row)
        (ordered.filter p) (rows.filter fun r => r.car == a && r.track == t) :=
      (List.forall₂_and_left _ _).mpr ⟨fun g hg => List.mem_filter.mp hg, hfilter⟩
    rw [← List.forall₂_eq_eq_eq, List.forall₂_map_left_iff, List.forall₂_map_right_iff]
    exact List.Forall₂.flip (hkept.imp fun g row ⟨⟨hgo, hgp⟩, hR⟩ => htime g hgo hgp row hR)
  have hany : rows.any (fun r => r.car == a && r.track == t) = true := by
    obtain ⟨row, hrow, hc, ht⟩ := h.mem_pair.mpr (by simpa [onPair] using hex)
    exact List.any_eq_true.mpr ⟨row, hrow, by simp [hc, ht]⟩
  unfold Usage.total
  rw [if_pos hany, hmap]
  calc some ((ordered.filter p).map fun g => Int64.ofInt (S g)).sum
      = some (Int64.ofInt ((ordered.filter p).map S).sum) := by rw [← ofInt_sum, List.map_map]; rfl
    _ = some (Int64.ofInt ((groups.filter p).map S).sum) := by rw [((hperm.filter p).map S).sum_eq]
    _ = _ := by rw [h.sum_pair_groups hg]

theorem RowsOf.total_eq_none (h : RowsOf db terms rows) :
    Usage.total rows a t = none ↔ ¬∃ u ∈ terms, onPair a t u = true := by
  rw [Usage.total_eq_none, h.mem_pair]
  simp [onPair]

end Pair

/-! ## The results a name counts -/

/-- A result's references are stored and name car `a` and track `t`: its session of the
subsession, its subsession and its session are stored, its subsession's track configuration
belongs to a stored package named `t`, and its stored car is abbreviated `a`. -/
structure Joins (db : Store) (a t : Octets) (r : ResultRow) : Prop where
  simsession : ∃ s ∈ db.simsessions, s.subsessionId = r.subsessionId ∧ s.number = r.simsessionNumber
  track : ∃ sub ∈ db.subsessions, sub.subsessionId = r.subsessionId ∧
    (∃ ses ∈ db.sessions, ses.sessionId = sub.sessionId) ∧
    ∃ cfg ∈ db.trackConfigs, cfg.trackId = sub.trackId ∧
      ∃ pkg ∈ db.tracks, pkg.packageId = cfg.packageId ∧ pkg.trackName = t
  car : ∃ car ∈ db.cars, car.carId = r.carId ∧ car.carNameAbbreviated = a

/-- A result that the usage of name `n` counts for car `a` on track `t`: a result of the driver
holding `n` whose references are stored and name that car and that track. -/
structure DrivesWith (db : Store) (n a t : Octets) (r : ResultRow) : Prop where
  result : r ∈ db.results
  holder : ⟨r.custId, some n⟩ ∈ db.drivers
  joins : Joins db a t r

/-- Whether a result counts for car `a` on track `t`. -/
def countsFor (db : Store) (a t : Octets) (r : ResultRow) : Bool := (db.usageTerm r).any (onPair a t)

/-- In a keyed and linked store, a stored result counts for a pair exactly when its references
are stored and name the pair. -/
theorem countsFor_iff (hl : db.Linked) (hd : db.Distinct) (hr : r ∈ db.results) {a t : Octets} :
    db.countsFor a t r = true ↔ Joins db a t r := by
  have hsim := hasSimsession_iff.mp (hl.result_simsession r hr)
  constructor
  · intro hc
    obtain ⟨u, hu, hp⟩ := (Option.any_eq_true _ _).mp hc
    obtain ⟨sub, ses, cfg, pkg, car, hj, hcfg, hpkg, hcar, rfl⟩ := usageTerm_eq_some.mp hu
    obtain ⟨hsub, hsid, hses, hsesid⟩ := joined_some hj
    simp only [onPair, Bool.and_eq_true, beq_iff_eq] at hp
    refine ⟨hsim, ⟨sub, hsub, hsid, ⟨ses, hses, hsesid⟩, cfg, List.mem_of_find?_eq_some hcfg,
      by simpa using List.find?_some hcfg, pkg, List.mem_of_find?_eq_some hpkg,
      by simpa using List.find?_some hpkg, hp.2⟩,
      car, List.mem_of_find?_eq_some hcar, by simpa using List.find?_some hcar, hp.1⟩
  · rintro ⟨-, ⟨sub, hsub, hsid, ⟨ses, hses, hsesid⟩, cfg, hcfg, hcfgid, pkg, hpkg, hpkgid, htrack⟩,
      car, hcar, hcarid, hname⟩
    -- the stored rows are the ones each lookup finds, as every key names one row
    have hj := hd.joined_eq (hasSimsession_iff.mpr hsim) hsub hsid hses hsesid
    have hcfg' : db.trackConfigs.find? (·.trackId == sub.trackId) = some cfg :=
      find?_of_key hd.trackConfigs hcfg fun y _ => by simp [hcfgid]
    have hpkg' : db.tracks.find? (·.packageId == cfg.packageId) = some pkg :=
      find?_of_key hd.tracks hpkg fun y _ => by simp [hpkgid]
    have hcar' : db.cars.find? (·.carId == r.carId) = some car :=
      find?_of_key hd.cars hcar fun y _ => by simp [hcarid]
    have hu := usageTerm_eq_some.mpr ⟨sub, ses, cfg, pkg, car, hj, hcfg', hpkg', hcar', rfl⟩
    simp [countsFor, hu, onPair, hname, htrack]

/-- What the terms of name `n` are: a term of a pair for each result of its holder that counts
for the pair, and the result's exact time when that fits in 64 bits. -/
structure TermsOf (db : Store) (n : Octets) (terms : List UsageTerm) : Prop where
  pair : ∀ a t, (∃ u ∈ terms, onPair a t u = true) ↔ ∃ r, DrivesWith db n a t r
  exact : ∀ a t, (∀ r, DrivesWith db n a t r → fits (exactTime r) = true) →
    (∀ u ∈ terms, onPair a t u = true → ∃ k, u.time = .int k) ∧
    ∃ L : List ResultRow, (∀ r, r ∈ L ↔ DrivesWith db n a t r) ∧ L.Nodup ∧
      ((terms.filter (onPair a t)).map (·.time.intValue)).sum = (L.map exactTime).sum

theorem sum_filterMap_filter {α β : Type} {f : α → Option β} {p : β → Bool} {g : β → Int} {h : α → Int} :
    ∀ l : List α, (∀ x ∈ l, ∀ y, f x = some y → p y = true → g y = h x) →
      (((l.filterMap f).filter p).map g).sum = ((l.filter fun x => (f x).any p).map h).sum
  | [], _ => rfl
  | x :: l, hfg => by
    have ih := sum_filterMap_filter l fun x' hx' => hfg x' (List.mem_cons_of_mem _ hx')
    cases hf : f x with
    | none => simp [hf, ih]
    | some y =>
      by_cases hp : p y = true
      · simp [hf, hp, ih, hfg x List.mem_cons_self y hf hp]
      · simp [hf, hp, ih]

/-- The terms of a name held by driver `c` are those of `c`'s results. -/
theorem termsOf_holder (hl : db.Linked) (hd : db.Distinct) {n : Octets} {c : Int64}
    (hc : db.driverNamed n = some c) : TermsOf db n (db.usageTerms c) := by
  -- a result drives for the name when it is `c`'s and counts for the pair
  have hdrives : ∀ a t r, DrivesWith db n a t r ↔ r ∈ db.resultsOf c ∧ db.countsFor a t r = true := by
    intro a t r
    rw [mem_resultsOf]
    constructor
    · rintro ⟨hr, hholder, hjoins⟩
      exact ⟨⟨hr, hd.holder_unique hholder (driverNamed_holder hc)⟩, (countsFor_iff hl hd hr).mpr hjoins⟩
    · rintro ⟨⟨hr, rfl⟩, hcounts⟩
      exact ⟨hr, driverNamed_holder hc, (countsFor_iff hl hd hr).mp hcounts⟩
  have hterm : ∀ a t r u, r ∈ db.resultsOf c → db.usageTerm r = some u → onPair a t u = true →
      DrivesWith db n a t r :=
    fun a t r u hr hru hp => (hdrives a t r).mpr ⟨hr, by simp [countsFor, hru, hp]⟩
  refine ⟨fun a t => ?_, fun a t hfits => ⟨fun u hu hp => ?_, ?_⟩⟩
  · rw [usageTerms_eq]
    constructor
    · rintro ⟨u, hu, hp⟩
      obtain ⟨r, hr, hru⟩ := List.mem_filterMap.mp hu
      exact ⟨r, hterm a t r u hr hru hp⟩
    · rintro ⟨r, hdr⟩
      obtain ⟨hr, hcounts⟩ := (hdrives a t r).mp hdr
      obtain ⟨u, hu, hp⟩ := (Option.any_eq_true _ _).mp hcounts
      exact ⟨u, List.mem_filterMap.mpr ⟨r, hr, hu⟩, hp⟩
  · rw [usageTerms_eq] at hu
    obtain ⟨r, hr, hru⟩ := List.mem_filterMap.mp hu
    exact ⟨_, (usageTerm_time_of_fits hru (hfits r (hterm a t r u hr hru hp))).1⟩
  · refine ⟨(db.resultsOf c).filter (db.countsFor a t), fun r => ?_, (hd.resultsOf_nodup c).filter _, ?_⟩
    · rw [List.mem_filter, hdrives]
    · rw [usageTerms_eq]
      exact sum_filterMap_filter _ fun r hr u hru hp =>
        (usageTerm_time_of_fits hru (hfits r (hterm a t r u hr hru hp))).2

/-- A name that nobody holds has no terms. -/
theorem termsOf_unheld {n : Octets} (hn : db.driverNamed n = none) : TermsOf db n [] := by
  have hno : ∀ a t r, ¬DrivesWith db n a t r := fun a t r hdr =>
    driverNamed_eq_none_iff.mp hn _ hdr.holder rfl
  refine ⟨fun a t => ?_, fun a t _ => ⟨by simp, [], fun r => ?_, .nil, rfl⟩⟩
  · simp only [List.not_mem_nil, false_and, exists_false, false_iff, not_exists]
    exact hno a t
  · simp only [List.not_mem_nil, false_iff]
    exact hno a t r

/-! ## The table of a name -/

/-- What the usage table of name `n` shows: its cars and tracks are the car abbreviations and
track names of the results the holder of `n` drove with stored references, each once; it has a
line per track and a cell per car in each; a cell is empty exactly when no such result drove its
car on its track; and otherwise, when each of those results' laps times average lap fits in 64
bits, the cell holds their exact total, wrapped to 64 bits. -/
structure ShowsUsage (db : Store) (n : Octets) (m : Usage.Matrix) : Prop where
  cars : m.cars.toList.Nodup ∧ ∀ a, a ∈ m.cars ↔ ∃ t r, DrivesWith db n a t r
  tracks : m.tracks.toList.Nodup ∧ ∀ t, t ∈ m.tracks ↔ ∃ a r, DrivesWith db n a t r
  lines : m.cells.size = m.tracks.size
  width : ∀ ln ∈ m.cells, ln.size = m.cars.size
  empty : ∀ i j (hi : i < m.tracks.size) (hj : j < m.cars.size),
    m.cell i j = none ↔ ¬∃ r, DrivesWith db n m.cars[j] m.tracks[i] r
  total : ∀ i j (hi : i < m.tracks.size) (hj : j < m.cars.size),
    (∀ r, DrivesWith db n m.cars[j] m.tracks[i] r → fits (exactTime r) = true) →
    ∃ L : List ResultRow, (∀ r, r ∈ L ↔ DrivesWith db n m.cars[j] m.tracks[i] r) ∧ L.Nodup ∧
      ∀ v, m.cell i j = some v → v = Int64.ofInt (L.map exactTime).sum

/-- The table of the rows of a name's terms shows the name's usage. -/
theorem ShowsUsage.of_rows {n : Octets} {terms : List UsageTerm} {rows : List Usage.Row}
    (ht : TermsOf db n terms) (hr : RowsOf db terms rows) : ShowsUsage db n (Usage.Matrix.ofRows rows) := by
  have htab := Usage.Matrix.ofRows_tabulates rows
  -- a pair is named by the rows exactly when a result drives it
  have hpair : ∀ a t, (∃ row ∈ rows, row.car = a ∧ row.track = t) ↔ ∃ r, DrivesWith db n a t r := by
    intro a t
    rw [hr.mem_pair, ← ht.pair]
    simp [onPair]
  refine ⟨⟨htab.cars.1, fun a => ?_⟩, ⟨htab.tracks.1, fun t => ?_⟩, htab.lines, htab.width,
    fun i j hi hj => ?_, fun i j hi hj hfits => ?_⟩
  · rw [htab.cars.2]
    constructor
    · rintro ⟨row, hrow, rfl⟩
      exact ⟨row.track, (hpair _ _).mp ⟨row, hrow, rfl, rfl⟩⟩
    · rintro ⟨t, hdr⟩
      obtain ⟨row, hrow, hc, -⟩ := (hpair a t).mpr hdr
      exact ⟨row, hrow, hc⟩
  · rw [htab.tracks.2]
    constructor
    · rintro ⟨row, hrow, rfl⟩
      exact ⟨row.car, (hpair _ _).mp ⟨row, hrow, rfl, rfl⟩⟩
    · rintro ⟨a, hdr⟩
      obtain ⟨row, hrow, -, htr⟩ := (hpair a t).mpr hdr
      exact ⟨row, hrow, htr⟩
  · rw [htab.cell i j hi hj, hr.total_eq_none, ht.pair]
  · obtain ⟨hint, L, hL, hnodup, hsum⟩ := ht.exact _ _ hfits
    refine ⟨L, hL, hnodup, fun v hv => ?_⟩
    rw [htab.cell i j hi hj] at hv
    have hex : ∃ u ∈ terms, onPair (Usage.Matrix.ofRows rows).cars[j] (Usage.Matrix.ofRows rows).tracks[i] u = true := by
      by_contra hno
      rw [← hr.total_eq_none] at hno
      rw [hno] at hv
      cases hv
    rw [hr.total_eq hint hex, hsum] at hv
    exact (Option.some.inj hv).symm

/-- **The usage question answers with the usage of the name** in every reachable store: it fails,
or its rows make a table that shows the usage of the name. -/
theorem carTrackUsage_shows {db : Store} (h : db.Reachable) (n : Octets) :
    (∃ f, db.carTrackUsage n = .error f) ∨
      ∃ rows, db.carTrackUsage n = .ok rows ∧ db.ShowsUsage n (Usage.Matrix.ofRows rows) := by
  have hl := h.linked
  have hd := h.distinct
  cases hq : db.carTrackUsage n with
  | error f => exact .inl ⟨f, rfl⟩
  | ok rows =>
    refine .inr ⟨rows, rfl, ?_⟩
    cases hn : db.driverNamed n with
    | none =>
      -- nobody holds the name: no rows
      have hrows : rows = [] := by
        unfold carTrackUsage at hq
        rw [hn] at hq
        cases hq
        rfl
      subst hrows
      exact ShowsUsage.of_rows (termsOf_unheld hn)
        ⟨by simp, [], [], grouped_empty, .nil, .nil⟩
    | some c =>
      obtain ⟨ordered, hperm, hrows⟩ := carTrackUsage_rows hn hq
      refine ShowsUsage.of_rows (termsOf_holder hl hd hn) ⟨fun u hu => ?_, _, ordered,
        by simpa using grouped_foldl (db.usageTerms c) grouped_empty, hperm, hrows⟩
      rw [usageTerms_eq] at hu
      obtain ⟨r, -, hru⟩ := List.mem_filterMap.mp hu
      exact usageTerm_named hru

/-! ## Totals wrap

The rows sum each car and track package exactly, but the table adds the rows that share a car
abbreviation and a track name in 64 bits, and that sum wraps. -/

/-- Two cars abbreviated `S`. -/
def twinCars : List Catalog.Car := [⟨1, [], [83]⟩, ⟨2, [], [83]⟩]

/-- Track 47, a configuration of package 12, named `T`. -/
def twinTracks : List Catalog.TrackEntry := [⟨⟨12, [84]⟩, { trackId := 47, packageId := 12 }⟩]

/-- Subsession 7 on track 47, in whose two sessions driver 11, `A`, drove one lap of
5·10¹⁸ in car 1 and then in car 2. -/
def twinRace : Rows where
  session := ⟨1, [66]⟩
  subsession := ⟨7, 1, 0, categoryRoad, 47⟩
  simsessions := #[⟨7, 0, 6⟩, ⟨7, 1, 6⟩]
  drivers := #[⟨11, [65]⟩]
  results := #[⟨11, 0, 7, 0, 0, 0, 1, 5000000000000000000, 1⟩,
    ⟨11, 0, 7, 1, 0, 0, 1, 5000000000000000000, 2⟩]

/-- The store holding `twinCars`, `twinTracks` and `twinRace`. -/
def twinStore : Store where
  drivers := [⟨11, some [65]⟩]
  sessions := [⟨1, [66]⟩]
  subsessions := [⟨7, 1, 0, categoryRoad, 47⟩]
  simsessions := [⟨7, 0, 6⟩, ⟨7, 1, 6⟩]
  results := [⟨11, 0, 7, 0, 0, 0, 1, 5000000000000000000, 1⟩,
    ⟨11, 0, 7, 1, 0, 0, 1, 5000000000000000000, 2⟩]
  tracks := [⟨12, [84]⟩]
  trackConfigs := [{ trackId := 47, packageId := 12 }]
  cars := twinCars

theorem twinStore_reachable : Reachable twinStore :=
  .insert
    (.replaceTracks (.replaceCars .empty (show ({} : Store).replaceCars twinCars = .ok { cars := twinCars } from rfl))
      (show ({ cars := twinCars } : Store).replaceTracks twinTracks =
        .ok { cars := twinCars, tracks := [⟨12, [84]⟩], trackConfigs := [{ trackId := 47, packageId := 12 }] } from rfl))
    (show Store.insert _ twinRace = .ok twinStore from rfl)

-- The sorts of the question are well-founded recursions, which the kernel does not unfold: the
-- lists are shown sorted instead.
theorem twinStore_resultsOf : twinStore.resultsOf 11 = twinStore.results := by
  unfold resultsOf
  rw [List.mergeSort_of_pairwise (by decide +kernel)]
  decide +kernel

theorem twinStore_usageTerms : twinStore.usageTerms 11 =
    [⟨1, 12, [83], [84], 0, .int 5000000000000000000⟩, ⟨2, 12, [83], [84], 0, .int 5000000000000000000⟩] := by
  rw [usageTerms, twinStore_resultsOf]
  rfl

theorem twinStore_usage : twinStore.carTrackUsage [65] =
    .ok [⟨[83], [84], 5000000000000000000⟩, ⟨[83], [84], 5000000000000000000⟩] := by
  have hn : twinStore.driverNamed [65] = some 11 := by decide +kernel
  unfold carTrackUsage
  rw [hn]
  dsimp only
  rw [twinStore_usageTerms, List.mergeSort_of_pairwise (by decide +kernel)]
  rfl

/-- **Usage totals are not exact.** In `twinStore`, the results that driver `A` drove in a car
abbreviated `S` on track `T` are its two results, and each one's laps times average lap,
5·10¹⁸, fits in 64 bits. Their exact total is 10¹⁹, but the table's one cell holds that total
wrapped to 64 bits. -/
theorem usage_total_wraps :
    Reachable twinStore ∧ (∀ r, DrivesWith twinStore [65] [83] [84] r ↔ r ∈ twinStore.results) ∧
      (∀ r ∈ twinStore.results, fits (exactTime r) = true) ∧
      (twinStore.results.map exactTime).sum = 10000000000000000000 ∧
      ∃ rows, twinStore.carTrackUsage [65] = .ok rows ∧
        (Usage.Matrix.ofRows rows).cars = #[[83]] ∧ (Usage.Matrix.ofRows rows).tracks = #[[84]] ∧
        ∃ v, (Usage.Matrix.ofRows rows).cell 0 0 = some v ∧ v.toInt = -8446744073709551616 := by
  have hl := twinStore_reachable.linked
  have hd := twinStore_reachable.distinct
  have hdrives : ∀ r ∈ twinStore.results,
      ⟨r.custId, some [65]⟩ ∈ twinStore.drivers ∧ twinStore.countsFor [83] [84] r = true := by
    decide +kernel
  refine ⟨twinStore_reachable, fun r => ⟨DrivesWith.result, fun hr => ?_⟩, by decide +kernel,
    by decide +kernel, _, twinStore_usage, by decide +kernel, by decide +kernel, Int64.ofInt (-8446744073709551616),
    by decide +kernel, ?_⟩
  · obtain ⟨hholder, hcounts⟩ := hdrives r hr
    exact ⟨hr, hholder, (countsFor_iff hl hd hr).mp hcounts⟩
  · decide +kernel

end Store

end RaceArchive.Store
