import Mathlib
import RaceArchive.Usage

/-!
# The usage table tabulates its rows

`Usage.Matrix.ofRows` numbers the cars and the tracks of its rows in the order they are first
named, each once, and lays out a line per track with a cell per car. A cell shows the total of the
rows naming its car and its track, summed as 64-bit integers are, and is empty when no row names
the pair (`Usage.total`). The main statement is `Usage.Matrix.ofRows_tabulates`; the invariant of
the fold that fills the cells is `Usage.Tallies`.

`Usage.Matrix.ofRows_pivots` adds the order and the arithmetic: the cars and the tracks come in the
order the rows first name them (`Usage.toList_foldl_number`), a cell's value is the integer sum of
its rows' times wrapped to 64 bits (`Usage.toInt_sum`), and the rows of the cells, pair by pair,
are the rows themselves, each once (`Usage.flatMap_filter_perm`): no row is lost or counted twice.
-/

namespace RaceArchive.Usage

/-- What a table shows for car `a` on track `t`: nothing when no row names the pair, else the sum
of the times of the rows that do, wrapping around as 64-bit integers do. -/
def total (rows : List Row) (a t : Octets) : Option Int64 :=
  if rows.any (fun r => r.car == a && r.track == t) then
    some ((rows.filter fun r => r.car == a && r.track == t).map (·.totalTime)).sum
  else none

/-- The cell in line `i` and column `j` of some lines of cells, when it is there and not empty. -/
def cellAt (cells : Array (Array (Option Int64))) (i j : Nat) : Option Int64 :=
  (cells[i]?.bind (·[j]?)).join

/-- The cell of a table on track `i` in car `j`, when it is there and not empty. -/
def Matrix.cell (m : Matrix) (i j : Nat) : Option Int64 := cellAt m.cells i j

/-! ## Totals -/

section Totals

variable {rows : List Row} {r : Row} {a t : Octets}

theorem total_eq_none : total rows a t = none ↔ ¬∃ r ∈ rows, r.car = a ∧ r.track = t := by
  unfold total
  split
  · next h => simpa using h
  · next h => simpa using h

theorem total_getD :
    (total rows a t).getD 0 = ((rows.filter fun r => r.car == a && r.track == t).map (·.totalTime)).sum := by
  unfold total
  split
  · rfl
  · next h =>
    -- no row names the pair, so nothing is summed
    rw [List.filter_eq_nil_iff.mpr fun x hx hp => h (List.any_eq_true.mpr ⟨x, hx, hp⟩)]
    rfl

theorem total_concat_of_ne (h : ¬(r.car = a ∧ r.track = t)) : total (rows ++ [r]) a t = total rows a t := by
  have hr : (r.car == a && r.track == t) = false := by
    simpa [Bool.and_eq_false_iff, beq_eq_false_iff_ne, not_and_or] using h
  simp only [total, List.any_append, List.filter_append, List.any_cons, List.any_nil, hr,
    Bool.or_false, List.filter_cons, Bool.false_eq_true, if_false, List.filter_nil, List.append_nil]

theorem total_concat_self (rows : List Row) (r : Row) :
    total (rows ++ [r]) r.car r.track = some ((total rows r.car r.track).getD 0 + r.totalTime) := by
  rw [total_getD]
  simp [total, List.filter_append, List.sum_append]

end Totals

/-! ## Numbering the names -/

theorem mem_number {ns : Array Octets} {x a : Octets} : a ∈ number ns x ↔ a ∈ ns ∨ a = x := by
  unfold number
  split
  · next h =>
    have hx : x ∈ ns := by simpa using h
    constructor
    · exact .inl
    · rintro (ha | rfl)
      · exact ha
      · exact hx
  · exact Array.mem_push

theorem nodup_number {ns : Array Octets} (h : ns.toList.Nodup) (x : Octets) :
    (number ns x).toList.Nodup := by
  unfold number
  split
  · exact h
  · next hx =>
    rw [Array.toList_push, ← List.concat_eq_append]
    exact h.concat fun hmem => hx (by simpa using hmem)

theorem mem_foldl_number (a : Octets) :
    ∀ (l : List Octets) (ns : Array Octets), a ∈ l.foldl number ns ↔ a ∈ ns ∨ a ∈ l
  | [], ns => by simp
  | x :: l, ns => by
    rw [List.foldl_cons, mem_foldl_number a l, mem_number, List.mem_cons]
    tauto

theorem nodup_foldl_number :
    ∀ (l : List Octets) {ns : Array Octets}, ns.toList.Nodup → (l.foldl number ns).toList.Nodup
  | [], _, h => h
  | x :: l, _, h => nodup_foldl_number l (nodup_number h x)

theorem numbering_spec (rows : List Row) (name : Row → Octets) :
    (rows.foldl (fun ns r => number ns (name r)) #[]).toList.Nodup ∧
      ∀ a, a ∈ rows.foldl (fun ns r => number ns (name r)) #[] ↔ ∃ r ∈ rows, name r = a := by
  rw [← List.foldl_map]
  refine ⟨nodup_foldl_number _ List.nodup_nil, fun a => ?_⟩
  rw [mem_foldl_number]
  simp

theorem index_eq_of_nodup {ns : Array Octets} (h : ns.toList.Nodup) {i j : Nat} (hi : i < ns.size)
    (hj : j < ns.size) (he : ns[i] = ns[j]) : i = j := by
  rw [← Array.getElem_toList, ← Array.getElem_toList] at he
  exact (h.getElem_inj_iff).mp he

theorem findIdx?_of_mem {ns : Array Octets} {x : Octets} (h : x ∈ ns) :
    ∃ i, ∃ hi : i < ns.size, ns.findIdx? (· == x) = some i ∧ ns[i] = x := by
  have hs : ns.findIdx? (· == x) = some (ns.findIdx (· == x)) :=
    Array.findIdx?_eq_some_of_exists ⟨x, h, beq_self_eq_true x⟩
  obtain ⟨hi, hp, -⟩ := Array.findIdx?_eq_some_iff_getElem.mp hs
  exact ⟨_, hi, hs, beq_iff_eq.mp hp⟩

/-! ## Filling in the cells -/

/-- The cells after adding the rows `done`: a line per track, a cell per car in each, and each
cell showing the total of its pair. -/
structure Tallies (cars tracks : Array Octets) (done : List Row) (cells : Array (Array (Option Int64))) :
    Prop where
  lines : cells.size = tracks.size
  width : ∀ (i : Nat) (ln : Array (Option Int64)), cells[i]? = some ln → ln.size = cars.size
  cell : ∀ i j (hi : i < tracks.size) (hj : j < cars.size), cellAt cells i j = total done cars[j] tracks[i]

section Tallies

variable {cars tracks : Array Octets}

theorem tallies_empty (cars tracks : Array Octets) :
    Tallies cars tracks [] (Array.replicate tracks.size (Array.replicate cars.size none)) := by
  refine ⟨Array.size_replicate, fun i ln h => ?_, fun i j hi hj => ?_⟩
  · rw [Array.getElem?_replicate] at h
    split at h
    · cases h
      exact Array.size_replicate
    · cases h
  · simp [cellAt, hi, hj, total]

theorem Tallies.line {done : List Row} {cells : Array (Array (Option Int64))}
    (h : Tallies cars tracks done cells) {i j : Nat} (hi : i < tracks.size) (hj : j < cars.size) :
    ∃ ln : Array (Option Int64), cells[i]? = some ln ∧
      ∃ v, ln[j]? = some v ∧ v = total done cars[j] tracks[i] := by
  have hl : cells[i]?.isSome := by simp [h.lines, hi]
  obtain ⟨ln, hline⟩ := Option.isSome_iff_exists.mp hl
  have hw : ln[j]?.isSome := by simp [h.width i ln hline, hj]
  obtain ⟨v, hv⟩ := Option.isSome_iff_exists.mp hw
  have hcell := h.cell i j hi hj
  simp only [cellAt, hline, hv, Option.bind_some, Option.join_some] at hcell
  exact ⟨ln, hline, v, hv, hcell⟩

/-- Adding a row whose car and track are numbered adds its time to its own cell and leaves the
others. -/
theorem Tallies.addTo {done : List Row} {cells : Array (Array (Option Int64))} {r : Row}
    (h : Tallies cars tracks done cells) (hc : cars.toList.Nodup) (ht : tracks.toList.Nodup)
    (hrc : r.car ∈ cars) (hrt : r.track ∈ tracks) :
    Tallies cars tracks (done ++ [r]) (Usage.addTo cars tracks cells r) := by
  obtain ⟨ti, hti, hfindt, htrack⟩ := findIdx?_of_mem hrt
  obtain ⟨ci, hci, hfindc, hcar⟩ := findIdx?_of_mem hrc
  unfold Usage.addTo
  rw [hfindt, hfindc]
  dsimp only
  refine ⟨by rw [Array.size_modify, h.lines], fun i ln hl => ?_, fun i j hi hj => ?_⟩
  · rw [Array.getElem?_modify] at hl
    split at hl
    · obtain ⟨ln₀, hl₀, rfl⟩ := Option.map_eq_some_iff.mp hl
      rw [Array.size_modify]
      exact h.width i ln₀ hl₀
    · exact h.width i ln hl
  · obtain ⟨ln, hline, v, hv, hval⟩ := h.line hi hj
    unfold cellAt
    rw [Array.getElem?_modify]
    by_cases hit : ti = i
    · -- the row's line: only the row's car changes
      subst hit
      rw [if_pos rfl, hline, Option.map_some, Option.bind_some, Array.getElem?_modify]
      by_cases hcj : ci = j
      · subst hcj
        rw [if_pos rfl, hv, Option.map_some, Option.join_some, hcar, htrack, total_concat_self,
          ← hcar, ← htrack, ← hval]
      · rw [if_neg hcj, hv, Option.join_some, hval, total_concat_of_ne]
        rintro ⟨hcar', -⟩
        exact hcj (index_eq_of_nodup hc hci hj (hcar.trans hcar'))
    · rw [if_neg hit, hline, Option.bind_some, hv, Option.join_some, hval, total_concat_of_ne]
      rintro ⟨-, htrack'⟩
      exact hit (index_eq_of_nodup ht hti hi (htrack.trans htrack'))

theorem Tallies.foldl {done : List Row} {cells : Array (Array (Option Int64))}
    (h : Tallies cars tracks done cells) (hc : cars.toList.Nodup) (ht : tracks.toList.Nodup) :
    ∀ rest : List Row, (∀ r ∈ rest, r.car ∈ cars ∧ r.track ∈ tracks) →
      Tallies cars tracks (done ++ rest) (rest.foldl (Usage.addTo cars tracks) cells)
  | [], _ => by simpa using h
  | r :: rest, hin => by
    have hr := hin r List.mem_cons_self
    have := (h.addTo hc ht hr.1 hr.2).foldl hc ht rest fun x hx => hin x (List.mem_cons_of_mem r hx)
    simpa using this

end Tallies

/-! ## The table -/

/-- A table tabulates some rows: its cars and its tracks are the names in the rows, each once; it
has a line per track and a cell per car in each; and each cell shows the total of its pair. -/
structure Matrix.Tabulates (m : Matrix) (rows : List Row) : Prop where
  cars : m.cars.toList.Nodup ∧ ∀ a, a ∈ m.cars ↔ ∃ r ∈ rows, r.car = a
  tracks : m.tracks.toList.Nodup ∧ ∀ t, t ∈ m.tracks ↔ ∃ r ∈ rows, r.track = t
  lines : m.cells.size = m.tracks.size
  width : ∀ ln ∈ m.cells, ln.size = m.cars.size
  cell : ∀ i j (hi : i < m.tracks.size) (hj : j < m.cars.size), m.cell i j = total rows m.cars[j] m.tracks[i]

/-- **The usage table tabulates its rows.** -/
theorem Matrix.ofRows_tabulates (rows : List Row) : (Matrix.ofRows rows).Tabulates rows := by
  obtain ⟨hcn, hcm⟩ := numbering_spec rows (·.car)
  obtain ⟨htn, htm⟩ := numbering_spec rows (·.track)
  have hall := (tallies_empty (rows.foldl (fun ns r => number ns r.car) #[])
    (rows.foldl (fun ns r => number ns r.track) #[])).foldl hcn htn rows
    fun r hr => ⟨(hcm r.car).mpr ⟨r, hr, rfl⟩, (htm r.track).mpr ⟨r, hr, rfl⟩⟩
  refine ⟨⟨hcn, hcm⟩, ⟨htn, htm⟩, hall.lines, fun ln hline => ?_, hall.cell⟩
  obtain ⟨i, hi⟩ := Array.mem_iff_getElem?.mp hline
  exact hall.width i ln hi

/-! ## Order, sums and the rows of the cells -/

theorem toList_number (ns : Array Octets) (x : Octets) :
    (number ns x).toList = if x ∈ ns.toList then ns.toList else ns.toList ++ [x] := by
  unfold number
  split
  · next h => rw [if_pos (by simpa using h)]
  · next h => rw [if_neg (by simpa using h), Array.toList_push]

theorem toList_foldl_number (l : List Octets) : (l.foldl number #[]).toList = l.eraseDups := by
  induction l using List.reverseRecOn with
  | nil => rfl
  | append_singleton l x ih =>
    rw [List.foldl_append, List.foldl_cons, List.foldl_nil, toList_number, ih, List.eraseDups_append]
    -- the name adds itself exactly when it was not named before
    by_cases hx : x ∈ l
    · simp [List.removeAll, hx, List.mem_eraseDups]
    · simp [List.removeAll, hx, List.mem_eraseDups, List.eraseDups_cons]

/-- Items taken key by key, for distinct keys that cover all of their keys, are the items
themselves, each once. -/
theorem flatMap_filter_perm {α κ : Type} [BEq κ] [LawfulBEq κ] (key : α → κ) :
    ∀ {ks : List κ} {l : List α}, ks.Nodup → (∀ u ∈ l, key u ∈ ks) →
      (ks.flatMap fun k => l.filter (key · == k)).Perm l
  | [], l, _, hl => by
    have hnil : l = [] := List.eq_nil_iff_forall_not_mem.mpr fun u hu => by simpa using hl u hu
    simp [hnil]
  | k :: ks, l, hks, hl => by
    rw [List.nodup_cons] at hks
    -- the items of the other keys are the items not of `k`
    have hrest := flatMap_filter_perm key (l := l.filter fun u => !(key u == k)) hks.2 fun u hu => by
      obtain ⟨hu, hk⟩ := List.mem_filter.mp hu
      rcases List.mem_cons.mp (hl u hu) with he | he
      · simp [he] at hk
      · exact he
    have hshare : ∀ k' ∈ ks,
        (l.filter fun u => !(key u == k)).filter (key · == k') = l.filter (key · == k') := by
      intro k' hk'
      have hk'k : k' ≠ k := fun h => hks.1 (h ▸ hk')
      rw [List.filter_filter]
      refine List.filter_congr fun u _ => ?_
      by_cases he : key u = k'
      · simp [he, hk'k]
      · simp [he]
    rw [List.flatMap_cons, List.flatMap_congr hshare] at *
    exact ((List.perm_append_left_iff _).mpr hrest).trans (List.filter_append_perm _ l)

theorem toInt_sum : ∀ l : List Int64, l.sum.toInt = ((l.map Int64.toInt).sum).bmod (2 ^ 64)
  | [] => rfl
  | a :: l => by
    rw [List.sum_cons, Int64.toInt_add, toInt_sum l, List.map_cons, List.sum_cons, Int.add_bmod_bmod]

/-- A table pivots some rows: its cars and its tracks are the names of the rows in the order first
named, each once; it has a line per track and a cell per car in each; a cell is empty exactly when
no row names its track and its car, and otherwise holds the times of those rows summed and wrapped
to 64 bits; and the rows of the cells, line by line and car by car, are the rows, each once. -/
structure Matrix.Pivots (m : Matrix) (rows : List Row) : Prop where
  cars : m.cars.toList = (rows.map (·.car)).eraseDups
  tracks : m.tracks.toList = (rows.map (·.track)).eraseDups
  lines : m.cells.size = m.tracks.size
  width : ∀ ln ∈ m.cells, ln.size = m.cars.size
  empty : ∀ i j (hi : i < m.tracks.size) (hj : j < m.cars.size),
    m.cell i j = none ↔ ¬∃ r ∈ rows, r.track = m.tracks[i] ∧ r.car = m.cars[j]
  sum : ∀ i j (hi : i < m.tracks.size) (hj : j < m.cars.size) (v : Int64), m.cell i j = some v →
    v.toInt = (((rows.filter fun r => r.track == m.tracks[i] && r.car == m.cars[j]).map
      fun r : Row => r.totalTime.toInt).sum).bmod (2 ^ 64)
  each_once : ((m.tracks.toList ×ˢ m.cars.toList).flatMap fun p =>
    rows.filter fun r => r.track == p.1 && r.car == p.2).Perm rows

/-- **The usage table pivots its rows.** -/
theorem Matrix.ofRows_pivots (rows : List Row) : (Matrix.ofRows rows).Pivots rows := by
  have htab := Matrix.ofRows_tabulates rows
  have hpair : ∀ (a t : Octets), (fun r : Row => r.car == a && r.track == t) =
      fun r => r.track == t && r.car == a := fun a t => funext fun r => Bool.and_comm _ _
  refine ⟨?cars, ?tracks, htab.lines, htab.width, fun i j hi hj => ?_, fun i j hi hj v hv => ?_, ?_⟩
  case cars =>
    show (rows.foldl (fun ns r => number ns r.car) #[]).toList = _
    rw [← List.foldl_map, toList_foldl_number]
  case tracks =>
    show (rows.foldl (fun ns r => number ns r.track) #[]).toList = _
    rw [← List.foldl_map, toList_foldl_number]
  · rw [htab.cell i j hi hj, total_eq_none]
    exact not_congr ⟨fun ⟨r, hr, hc, ht⟩ => ⟨r, hr, ht, hc⟩, fun ⟨r, hr, ht, hc⟩ => ⟨r, hr, hc, ht⟩⟩
  · rw [htab.cell i j hi hj, total] at hv
    split at hv
    · cases hv
      rw [toInt_sum, List.map_map, hpair]
      rfl
    · cases hv
  · -- every row's pair is a pair of the table, and the pairs are distinct
    have hnodup := htab.tracks.1.product htab.cars.1
    have hkeys : ∀ r ∈ rows, (r.track, r.car) ∈
        (Matrix.ofRows rows).tracks.toList ×ˢ (Matrix.ofRows rows).cars.toList := fun r hr =>
      List.mem_product.mpr ⟨Array.mem_def.mp ((htab.tracks.2 _).mpr ⟨r, hr, rfl⟩),
        Array.mem_def.mp ((htab.cars.2 _).mpr ⟨r, hr, rfl⟩)⟩
    have hsame : (fun p : Octets × Octets => rows.filter fun r => r.track == p.1 && r.car == p.2) =
        fun p => rows.filter ((fun r : Row => (r.track, r.car)) · == p) := by
      funext p
      congr
    rw [hsame]
    exact flatMap_filter_perm _ hnodup hkeys

/-- Car `B` on track `Y`, then car `A` on `X` twice and on `Y`: the first line is track `Y`, the
first column car `B`, and `A` on `X` shows the two times added. -/
example : (Matrix.ofRows [⟨[66], [89], 5⟩, ⟨[65], [88], 100⟩, ⟨[65], [88], 50⟩, ⟨[65], [89], 7⟩]).cells.toList.map
    Array.toList = [[some 5, some 7], [none, some 150]] := by
  decide +kernel

end RaceArchive.Usage
