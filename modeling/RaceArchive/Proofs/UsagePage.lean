import Mathlib
import RaceArchive.Proofs.UsageTotals

/-!
# The usage page

`Api.usage_page_shows_usage`: in every reachable store the usage page answers each name with an
internal error or with a table that shows the usage of the name (`Store.ShowsUsage`). It answers
with the table whenever the holder's times are small (`Store.TimesFit`), that is, when the
absolute values of their laps times average lap add up to at most the largest 64-bit integer.
Then no product and no running sum of the question leaves 64 bits (`Sum.foldl_within`), so the
question succeeds (`Store.carTrackUsage_ok`).
-/

namespace RaceArchive.Store

open Results

namespace Store

variable {db : Store}

/-! ## Sums that stay within 64 bits -/

theorem fits_of_abs_le {x : Int} (h : |x| ≤ 2 ^ 63 - 1) : fits x = true := by
  obtain ⟨hlo, hhi⟩ := abs_le.mp h
  simp only [fits, Bool.and_eq_true, decide_eq_true_eq]
  constructor <;> linarith


namespace Sum

/-- Adding integers whose absolute values, with the sum so far, add up to at most the largest
64-bit integer keeps the integer sum: no running sum leaves 64 bits. -/
theorem foldl_within {s : Sum} (hs : s.approximate = false) :
    ∀ xs : List Number, (∀ x ∈ xs, ∃ n, x = .int n) →
      |s.int| + (xs.map fun x => |x.intValue|).sum ≤ 2 ^ 63 - 1 →
      (xs.foldl Sum.add s).approximate = false ∧
        (xs.foldl Sum.add s).int = s.int + (xs.map Number.intValue).sum
  | [], _, _ => by simpa using hs
  | x :: xs, hx, hb => by
    obtain ⟨n, rfl⟩ := hx x List.mem_cons_self
    simp only [List.map_cons, List.sum_cons, Number.intValue_int] at hb ⊢
    have hrest : 0 ≤ (xs.map fun x => |x.intValue|).sum :=
      List.sum_nonneg fun a ha => by
        obtain ⟨y, -, rfl⟩ := List.mem_map.mp ha
        exact abs_nonneg _
    -- the next running sum is within the bound, so it fits
    have hnext : |s.int + n.toInt| ≤ 2 ^ 63 - 1 := by
      have := abs_add_le s.int n.toInt
      linarith
    have hfits : fits (s.int + n.toInt) = true := fits_of_abs_le hnext
    have hadd : s.add (.int n) = { s with int := s.int + n.toInt } := by
      simp only [Sum.add, hs, hfits, Bool.false_eq_true, if_false, if_true]
    have ih := foldl_within (s := { s with int := s.int + n.toInt }) hs xs
      (fun y hy => hx y (List.mem_cons_of_mem _ hy)) (by dsimp only; linarith [abs_add_le s.int n.toInt])
    rw [List.foldl_cons, hadd]
    exact ⟨ih.1, by rw [ih.2, add_assoc]⟩

theorem value_of_int {s : Sum} (hs : s.approximate = false) :
    s.value = .ok (.int (Int64.ofInt s.int)) := by
  simp [Sum.value, hs]

end Sum

/-! ## The question succeeds on small times -/

theorem mapM_error {α β ε : Type} {f : α → Except ε β} {e : ε} :
    ∀ {as : List α}, as.mapM f = .error e → ∃ a ∈ as, ∃ e', f a = .error e'
  | [], h => by cases h
  | a :: as, h => by
    cases ha : f a with
    | error e' => exact ⟨a, List.mem_cons_self, e', ha⟩
    | ok b =>
      cases has : as.mapM f with
      | error e' =>
        obtain ⟨a', ha', e'', h'⟩ := mapM_error has
        exact ⟨a', List.mem_cons_of_mem _ ha', e'', h'⟩
      | ok bs =>
        rw [mapM_cons_ok ha has] at h
        cases h

theorem Except.bind_eq_error {ε α β : Type} {x : Except ε α} {k : α → Except ε β} {e : ε}
    (h : x >>= k = .error e) : x = .error e ∨ ∃ a, x = .ok a ∧ k a = .error e := by
  cases x with
  | error e' =>
    cases h
    exact .inl rfl
  | ok a => exact .inr ⟨a, rfl, h⟩

/-- A group whose terms are all integers, with absolute values adding up to at most the largest
64-bit integer, has an integer total. -/
theorem Grouped.value_int {done : List UsageTerm} {groups : List UsageGroup} (hg : Grouped done groups)
    {g : UsageGroup} (hgm : g ∈ groups) (hint : ∀ u ∈ done, ∃ k, u.time = .int k)
    (hb : (done.map fun u => |u.time.intValue|).sum ≤ 2 ^ 63 - 1) :
    ∃ v, g.sum.value = .ok (.int v) := by
  have hsub : ((done.filter (·.key == g.key)).map fun u => |u.time.intValue|).sum ≤
      (done.map fun u => |u.time.intValue|).sum :=
    ((List.filter_sublist).map _).sum_le_sum fun a ha => by
      obtain ⟨u, -, rfl⟩ := List.mem_map.mp ha
      exact abs_nonneg _
  have hw := Sum.foldl_within (s := {}) rfl ((done.filter (·.key == g.key)).map (·.time))
    (fun x hx => by
      obtain ⟨u, hu, rfl⟩ := List.mem_map.mp hx
      exact hint u (List.mem_filter.mp hu).1)
    (by simpa [List.map_map, Function.comp_def] using hsub.trans hb)
  rw [← hg.sum g hgm] at hw
  exact ⟨_, Sum.value_of_int hw.1⟩

/-- The question succeeds for a held name whose terms are integers with absolute values adding up
to at most the largest 64-bit integer. -/
theorem carTrackUsage_ok_of_terms {n : Octets} {c : Int64} (hn : db.driverNamed n = some c)
    (hint : ∀ u ∈ db.usageTerms c, ∃ k, u.time = .int k)
    (hb : ((db.usageTerms c).map fun u => |u.time.intValue|).sum ≤ 2 ^ 63 - 1) :
    ∃ rows, db.carTrackUsage n = .ok rows := by
  have hg := grouped_foldl (db.usageTerms c) grouped_empty
  rw [List.nil_append] at hg
  cases hq : db.carTrackUsage n with
  | ok rows => exact ⟨rows, rfl⟩
  | error f =>
    exfalso
    unfold carTrackUsage at hq
    rw [hn] at hq
    dsimp only at hq
    rcases Except.bind_eq_error hq with htotals | ⟨totals, htotals, hrows⟩
    · -- no group's total fails
      obtain ⟨g, hgo, e, hge⟩ := mapM_error htotals
      obtain ⟨v, hv⟩ := hg.value_int ((List.mergeSort_perm _ _).subset hgo) hint hb
      rw [hv] at hge
      cases hge
    · -- every total is an integer, which reads as a total
      obtain ⟨⟨total, g⟩, hp, e, hpe⟩ := mapM_error hrows
      obtain ⟨g', hg'o, hg'⟩ := forall₂_mem_right (mapM_ok_iff.mp htotals) total (List.of_mem_zip hp).1
      obtain ⟨v, hv⟩ := hg.value_int ((List.mergeSort_perm _ _).subset hg'o) hint hb
      rw [hv, Except.mapError_eq_ok] at hg'
      cases hg'
      cases hpe

/-- The times of the driver holding name `n` are small: the absolute values of their results'
laps times average lap add up to at most the largest 64-bit integer. -/
def TimesFit (db : Store) (n : Octets) : Prop :=
  ∀ c, ⟨c, some n⟩ ∈ db.drivers →
    ((db.results.filter (·.custId == c)).map fun r => |exactTime r|).sum ≤ 2 ^ 63 - 1

theorem sum_filterMap_le {α β : Type} {f : α → Option β} {g : β → Int} {h : α → Int} :
    ∀ l : List α, (∀ x ∈ l, ∀ y, f x = some y → g y = h x) → (∀ x ∈ l, 0 ≤ h x) →
      ((l.filterMap f).map g).sum ≤ (l.map h).sum
  | [], _, _ => le_rfl
  | x :: l, hfg, hh => by
    have ih := sum_filterMap_le l (fun x' hx' => hfg x' (List.mem_cons_of_mem _ hx'))
      (fun x' hx' => hh x' (List.mem_cons_of_mem _ hx'))
    have hx := hh x List.mem_cons_self
    cases hf : f x with
    | none =>
      simp only [List.filterMap_cons, hf, List.map_cons, List.sum_cons]
      linarith
    | some y =>
      simp only [List.filterMap_cons, hf, List.map_cons, List.sum_cons, hfg x List.mem_cons_self y hf]
      linarith

/-- Small times make the holder's terms integers, small in total. -/
theorem TimesFit.terms {n : Octets} {c : Int64} (h : db.TimesFit n) (hn : db.driverNamed n = some c) :
    (∀ u ∈ db.usageTerms c, ∃ k, u.time = .int k) ∧
      ((db.usageTerms c).map fun u => |u.time.intValue|).sum ≤ 2 ^ 63 - 1 := by
  have hbound : ((db.resultsOf c).map fun r => |exactTime r|).sum ≤ 2 ^ 63 - 1 := by
    rw [((resultsOf_perm db c).map _).sum_eq]
    exact h c (driverNamed_holder hn)
  -- each result's time is within the bound, so it fits
  have hfit : ∀ r ∈ db.resultsOf c, fits (exactTime r) = true := fun r hr =>
    fits_of_abs_le (le_trans (List.single_le_sum (fun a ha => by
      obtain ⟨r', -, rfl⟩ := List.mem_map.mp ha
      exact abs_nonneg _) _ (List.mem_map.mpr ⟨r, hr, rfl⟩)) hbound)
  rw [usageTerms_eq]
  refine ⟨fun u hu => ?_, (sum_filterMap_le _ (fun r hr u hru => ?_) fun r _ => abs_nonneg _).trans hbound⟩
  · obtain ⟨r, hr, hru⟩ := List.mem_filterMap.mp hu
    exact ⟨_, (usageTerm_time_of_fits hru (hfit r hr)).1⟩
  · rw [(usageTerm_time_of_fits hru (hfit r hr)).2]

/-- **The question succeeds on small times**: it answers a name whose holder's times are small,
and a name nobody holds. -/
theorem carTrackUsage_ok {n : Octets} (h : db.TimesFit n) : ∃ rows, db.carTrackUsage n = .ok rows := by
  cases hn : db.driverNamed n with
  | none =>
    refine ⟨[], ?_⟩
    unfold carTrackUsage
    rw [hn]
    rfl
  | some c =>
    obtain ⟨hint, hb⟩ := h.terms hn
    exact carTrackUsage_ok_of_terms hn hint hb

end Store

end RaceArchive.Store

namespace RaceArchive.Api

/-- **The usage page shows the usage of the driver named.** Whatever store a service reaches,
the usage page answers the name in its query with an internal error, or with a table that shows
the cars and tracks the holder of the name drove, and their exact totals, wrapped to 64 bits,
wherever each lap product fits in 64 bits. When the holder's times are small, it answers with
the table. -/
theorem usage_page_shows_usage {s : Service} (h : s.store.Reachable) (hs : List (String × String))
    (path : Url.Bytes) (query : String) :
    ∃ answer : Octets → Response, page s hs path query .usage = forDriver hs query answer ∧
      ∀ n, (answer n = internalError hs ∨
          ∃ m, answer n = json hs 200 m.toValue ∧ s.store.ShowsUsage n m) ∧
        (s.store.TimesFit n → ∃ m, answer n = json hs 200 m.toValue ∧ s.store.ShowsUsage n m) := by
  refine ⟨_, rfl, fun n => ⟨?_, fun hfit => ?_⟩⟩
  · rcases Store.Store.carTrackUsage_shows h n with ⟨f, hf⟩ | ⟨rows, hrows, hshows⟩
    · left
      simp only [hf]
    · right
      exact ⟨_, by simp only [hrows], hshows⟩
  · -- small times leave the question no way to fail
    obtain ⟨rows, hrows⟩ := Store.Store.carTrackUsage_ok hfit
    rcases Store.Store.carTrackUsage_shows h n with ⟨f, hf⟩ | ⟨rows', hrows', hshows⟩
    · rw [hrows] at hf
      cases hf
    · exact ⟨_, by simp only [hrows'], hshows⟩

/-- A service over `twinStore`. -/
def twinService : Service := { store := Store.Store.twinStore, status := {}, perMinute := 0, now := 0 }

theorem usage_page_twinService :
    ∃ answer : Octets → Response,
      page twinService [] [] "driver_name=A" .usage = forDriver [] "driver_name=A" answer ∧
      ∀ n, (answer n = internalError [] ∨
          ∃ m, answer n = json [] 200 m.toValue ∧ Store.Store.twinStore.ShowsUsage n m) ∧
        (Store.Store.twinStore.TimesFit n →
          ∃ m, answer n = json [] 200 m.toValue ∧ Store.Store.twinStore.ShowsUsage n m) :=
  usage_page_shows_usage Store.Store.twinStore_reachable [] [] "driver_name=A"

end RaceArchive.Api
