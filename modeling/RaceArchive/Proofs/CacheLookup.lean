import Mathlib
import RaceArchive.Proofs.AtomicWrite

/-!
# Listing the session cache against looking it up

Looking a subsession up goes to one path, the archive named by the decimal numeral of its id:
it is cached when anything is there (`Cache.has`), and reading it fails as "not cached" exactly
when nothing is (`Cache.NotCached`). Listing the cache goes the other way: it reads every file of
the session directory whose name ends in `.session.zip` and whose stem reads as a 64-bit integer,
and sorts what it reads.

The main statement is `Cache.listing_law`, for a session directory that exists and holds each
name once (`Files.Tree.Distinct`): the listing is sorted, and lists an id exactly when some file
there is named for it; a subsession is cached exactly when something is at its archive's path,
and is refused as not cached exactly when nothing is. The two sides meet when every archive name
is the numeral of its id (`Cache.Canonical`): the listing is then strictly ascending and lists
exactly the ids whose archive is a file. They part in two ways: a directory at an archive's path
counts as cached but is never listed, and a name such as `07.session.zip` is listed as `7`
(once more beside `7.session.zip`) but never looked up.
-/

namespace RaceArchive

namespace Files

variable {t : Tree} {p q : Path} {dir : Path} {name : String}

/-- No two nodes of a tree share a path, as no directory holds two entries of one name. -/
def Tree.Distinct (t : Tree) : Prop := (t.nodes.map Prod.fst).Nodup

instance (t : Tree) : Decidable t.Distinct := inferInstanceAs (Decidable (List.Nodup _))

/-- Putting a node keeps the paths distinct: it replaces the nodes at its path, or adds one at a
new path. -/
theorem Tree.Distinct.put (h : t.Distinct) (p : Path) (n : Node) : (t.put p n).Distinct := by
  unfold Tree.put
  split
  · -- every node keeps its path
    have hpaths : (t.nodes.map fun e => if e.1 == p then (p, n) else e).map Prod.fst =
        t.nodes.map Prod.fst := by
      rw [List.map_map]
      refine List.map_congr_left fun e _ => ?_
      by_cases he : e.1 = p <;> simp [he]
    unfold Tree.Distinct
    rw [hpaths]
    exact h
  · next hp =>
    have hnew : p ∉ t.nodes.map Prod.fst := by simpa using hp
    unfold Tree.Distinct
    rw [List.map_append]
    refine List.nodup_append.mpr ⟨h, List.nodup_singleton _, fun a ha b hb => ?_⟩
    simp only [List.map_cons, List.map_nil, List.mem_singleton] at hb
    rintro rfl
    exact hnew (hb ▸ ha)

theorem Tree.node_of_mem (h : t.Distinct) {n : Node} (hm : (q, n) ∈ t.nodes) (hq : q ≠ []) :
    t.node q = some n := by
  obtain ⟨e, he⟩ : ∃ e, t.nodes.find? (·.1 == q) = some e :=
    Option.isSome_iff_exists.mp (List.find?_isSome.mpr ⟨(q, n), hm, by simp⟩)
  have heq : e.1 = q := by simpa using List.find?_some he
  have hsame : e = (q, n) :=
    List.inj_on_of_nodup_map h (List.mem_of_find?_eq_some he) hm heq
  unfold Tree.node
  rw [if_neg (by simpa using hq), he, hsame]
  rfl

theorem Tree.mem_of_node {n : Node} (hq : q ≠ []) (h : t.node q = some n) : (q, n) ∈ t.nodes := by
  unfold Files.Tree.node at h
  rw [if_neg (by simpa using hq)] at h
  obtain ⟨e, he, rfl⟩ := Option.map_eq_some_iff.mp h
  have hpath : e.1 = q := by simpa using List.find?_some he
  exact hpath ▸ List.mem_of_find?_eq_some he

theorem Tree.node_eq_some_iff (h : t.Distinct) {n : Node} (hq : q ≠ []) :
    t.node q = some n ↔ (q, n) ∈ t.nodes :=
  ⟨Tree.mem_of_node hq, fun hm => Tree.node_of_mem h hm hq⟩

theorem eq_append_getLast {d : Path} (hlen : q.length = d.length + 1) (htake : q.take d.length = d) :
    q = d ++ [q.getLast?.getD ""] := by
  obtain ⟨init, last, rfl⟩ : ∃ init last, q = init ++ [last] :=
    ⟨q.dropLast, q.getLast (by rintro rfl; simp at hlen), (List.dropLast_append_getLast _).symm⟩
  have hinit : init.length = d.length := by simpa using hlen
  rw [List.take_left' hinit] at htake
  simp [htake]

/-- The entries of a directory, read from the nodes of a tree: what the listing shows of a node is
its name and whether it is a directory. -/
theorem mem_list {b : Bool} :
    (name, b) ∈ t.list dir ↔ ∃ n, (dir ++ [name], n) ∈ t.nodes ∧
      b = match n with | .directory => true | .file _ => false := by
  unfold Tree.list
  rw [List.mem_mergeSort, List.mem_filterMap]
  constructor
  · rintro ⟨⟨q, n⟩, hm, hsome⟩
    simp only [Bool.and_eq_true, beq_iff_eq] at hsome
    split at hsome
    · next hq =>
      cases hsome
      exact ⟨n, eq_append_getLast hq.1 hq.2 ▸ hm, rfl⟩
    · cases hsome
  · rintro ⟨n, hm, rfl⟩
    refine ⟨_, hm, ?_⟩
    cases n <;> simp

/-- A list without repeats keeps none under a map that is one-to-one on its members. -/
theorem nodup_filterMap_of_injOn {α β : Type} {f : α → Option β} :
    ∀ {l : List α}, l.Nodup → (∀ a ∈ l, ∀ a' ∈ l, ∀ b, f a = some b → f a' = some b → a = a') →
      (l.filterMap f).Nodup
  | [], _, _ => List.nodup_nil
  | a :: l, hl, hinj => by
    rw [List.nodup_cons] at hl
    have hrest := nodup_filterMap_of_injOn hl.2 fun x hx y hy => hinj x (.tail _ hx) y (.tail _ hy)
    rw [List.filterMap_cons]
    split
    · exact hrest
    · next b hb =>
      refine List.nodup_cons.mpr ⟨fun hmem => ?_, hrest⟩
      obtain ⟨a', ha', hb'⟩ := List.mem_filterMap.mp hmem
      exact hl.1 (hinj a List.mem_cons_self a' (.tail _ ha') b hb hb' ▸ ha')

/-- The names of a directory's entries in a tree with distinct paths are distinct. -/
theorem Tree.Distinct.nodup_names (h : t.Distinct) : ((t.list dir).map Prod.fst).Nodup := by
  unfold Tree.list
  refine ((List.mergeSort_perm _ _).map Prod.fst).nodup_iff.mpr ?_
  rw [List.map_filterMap]
  refine nodup_filterMap_of_injOn (h.of_map _) fun ⟨q, n⟩ he ⟨q', n'⟩ he' name hb hb' => ?_
  -- both nodes are one name below the directory, so they share their path
  simp only [Bool.and_eq_true, beq_iff_eq] at hb hb'
  split at hb <;> split at hb' <;> simp only [Option.map_some, Option.map_none, Option.some.injEq,
    reduceCtorEq] at hb hb'
  next h₁ h₂ =>
    have hq : q = q' := by
      rw [eq_append_getLast h₁.1 h₁.2, eq_append_getLast h₂.1 h₂.2, hb, hb']
    exact List.inj_on_of_nodup_map h he he' hq

theorem Tree.read_error_fileMissing {f : Failure} (h : t.read p = .error f) :
    f.isOf .fileMissing = true ↔ t.find p = .missing := by
  unfold Tree.read at h
  split at h <;> cases h
  · next hf => simp [hf, refusal, Failure.isOf]
  · next hf => simp [hf, refusal, Failure.isOf]
  · next hf => simp [hf, refusal, Failure.isOf]

/-- A read fails as the system refuses it, never as an uncached subsession. -/
theorem Tree.read_error_notCached {f : Failure} (h : t.read p = .error f) :
    f.isOf .notCached = false := by
  unfold Tree.read at h
  split at h <;> cases h <;> simp [refusal, Failure.isOf]

end Files

namespace Cache

open Files

variable {t : Tree} {id : Int64}

/-! ## Looking up -/

/-- Reading a subsession fails as not cached. -/
def NotCached (t : Tree) (id : Int64) : Prop := ∃ f, read t id = .error f ∧ f.isOf .notCached = true

/-- Once an archive's file is read, every failure is a problem of the archive, of no kind. -/
theorem read_error_of_file {raw : ByteArray} {f : Failure} (hraw : t.read (pathOf id) = .ok raw)
    (h : read t id = .error f) : f.isOf .notCached = false := by
  unfold read at h
  dsimp only at h
  rw [hraw] at h
  simp only [pure_bind] at h
  cases hz : Zip.entries raw with
  | error z => simp only [hz, Store.Except.mapError_error, Except.error_bind] at h; cases h; rfl
  | ok es =>
    simp only [hz, Store.Except.mapError_ok, Except.ok_bind] at h
    cases he : es[0]? with
    | none => simp only [he] at h; cases h; rfl
    | some e =>
      simp only [he] at h
      cases ho : e.open raw with
      | error z => simp only [ho, Store.Except.mapError_error, Except.error_bind] at h; cases h; rfl
      | ok body =>
        simp only [ho, Store.Except.mapError_ok, Except.ok_bind] at h
        cases hr : e.read raw body with
        | error z => simp only [hr, Store.Except.mapError_error] at h; cases h; rfl
        | ok d => simp only [hr, Store.Except.mapError_ok] at h; cases h

/-- When the archive's file cannot be read, reading fails as not cached exactly when the file is
missing. -/
theorem read_error_of_refusal {g f : Failure} (hraw : t.read (pathOf id) = .error g)
    (h : read t id = .error f) : f.isOf .notCached = g.isOf .fileMissing := by
  unfold read at h
  dsimp only at h
  rw [hraw] at h
  dsimp only at h
  split at h
  · next hg =>
    simp only [throw, throwThe, MonadExceptOf.throw, Except.error_bind] at h
    cases h
    simp [hg]
    rfl
  · next hg =>
    simp only [throw, throwThe, MonadExceptOf.throw, Except.error_bind] at h
    cases h
    simpa [hg, Failure.within, Failure.isOf] using Tree.read_error_notCached hraw

/-- A subsession is refused as not cached exactly when nothing is found at its archive's path. -/
theorem notCached_iff_missing : NotCached t id ↔ t.find (pathOf id) = .missing := by
  constructor
  · rintro ⟨f, hf, hkind⟩
    cases hraw : t.read (pathOf id) with
    | ok raw => rw [read_error_of_file hraw hf] at hkind; cases hkind
    | error g =>
      rw [read_error_of_refusal hraw hf] at hkind
      exact (Tree.read_error_fileMissing hraw).mp hkind
  · intro hmissing
    have hraw : t.read (pathOf id) = .error (refusal "open" (pathOf id) "no such file or directory") := by
      unfold Tree.read
      rw [hmissing]
    refine ⟨.wrap none ("subsession " ++ toString id.toInt ++ ": ") "" notCached, ?_, rfl⟩
    unfold read
    dsimp only
    rw [hraw]
    dsimp only
    rw [if_pos (by simp [refusal, Failure.isOf])]
    rfl

theorem find_pathOf_missing (hdir : t.node sessionDir = some .directory) :
    t.find (pathOf id) = .missing ↔ t.node (pathOf id) = none := by
  obtain ⟨name, hp⟩ : ∃ name, pathOf id = ["sessions", name] := ⟨_, rfl⟩
  have hroot : t.node [] = some .directory := rfl
  unfold Tree.find
  simp only [hp, List.length_cons, List.length_nil, List.range_succ, List.range_zero,
    List.nil_append, List.cons_append, List.map_cons, List.map_nil, List.take_zero,
    List.take_succ_cons, List.any_cons, List.any_nil, hroot]
  rw [show ["sessions"] = sessionDir from rfl, hdir]
  rcases t.node ["sessions", name] with _ | _ | _ <;> simp

theorem notCached_iff (hdir : t.node sessionDir = some .directory) :
    NotCached t id ↔ t.node (pathOf id) = none :=
  notCached_iff_missing.trans (find_pathOf_missing hdir)

/-! ## Listing -/

theorem mem_ids_iff : id ∈ ids t ↔
    ∃ name data, (sessionDir ++ [name], Node.file data) ∈ t.nodes ∧ idOfName name = some id := by
  unfold ids
  rw [List.mem_mergeSort, List.mem_filterMap]
  constructor
  · rintro ⟨⟨name, isDir⟩, hm, hid⟩
    obtain ⟨n, hn, rfl⟩ := mem_list.mp hm
    cases n with
    | directory => cases hid
    | file data => exact ⟨name, data, hn, hid⟩
  · rintro ⟨name, data, hn, hid⟩
    exact ⟨(name, false), mem_list.mpr ⟨_, hn, rfl⟩, hid⟩

theorem ids_sorted (t : Tree) : (ids t).Pairwise (· ≤ ·) := by
  unfold ids
  refine (List.pairwise_mergeSort ?_ ?_ _).imp fun h => of_decide_eq_true h
  · intro a b c hab hbc
    exact decide_eq_true (Int64.le_trans (of_decide_eq_true hab) (of_decide_eq_true hbc))
  · intro a b
    rcases Int64.le_total a b with h | h <;> simp [h]

/-- Every file of the session directory whose name reads as an id is named by the numeral of that
id: no other spelling of a numeral stands for an archive. -/
def Canonical (t : Tree) : Prop :=
  ∀ name data id, t.node (sessionDir ++ [name]) = some (.file data) → idOfName name = some id →
    name = toString id.toInt ++ suffix

theorem node_archive_iff (ht : t.Distinct) {name : String} {n : Node} :
    t.node (sessionDir ++ [name]) = some n ↔ (sessionDir ++ [name], n) ∈ t.nodes :=
  Tree.node_eq_some_iff ht (by simp [sessionDir])

/-- With canonical names, the listing repeats no id. -/
theorem nodup_ids (ht : t.Distinct) (hc : Canonical t) : (ids t).Nodup := by
  unfold ids
  refine (List.mergeSort_perm _ _).nodup_iff.mpr (nodup_filterMap_of_injOn ?_ ?_)
  · exact ht.nodup_names.of_map _
  · rintro ⟨name, isDir⟩ hm ⟨name', isDir'⟩ hm' k hk hk'
    obtain ⟨n, hn, rfl⟩ := mem_list.mp hm
    obtain ⟨n', hn', rfl⟩ := mem_list.mp hm'
    cases n with
    | directory => cases hk
    | file data =>
      cases n' with
      | directory => cases hk'
      | file data' =>
        -- both names are the numeral of the one id they read as
        have hname := hc name data k ((node_archive_iff ht).mpr hn) hk
        have hname' := hc name' data' k ((node_archive_iff ht).mpr hn') hk'
        subst hname hname'
        rfl

/-- **What the listing and the lookups of the session cache say.** -/
structure Listing (t : Tree) : Prop where
  sorted : (ids t).Pairwise (· ≤ ·)
  mem_ids : ∀ id, id ∈ ids t ↔ ∃ name data, t.node (sessionDir ++ [name]) = some (.file data) ∧
    idOfName name = some id
  has : ∀ id, has t id = true ↔ (t.node (pathOf id)).isSome
  notCached : ∀ id, NotCached t id ↔ t.node (pathOf id) = none
  uncached : ∀ wanted, uncached t wanted = wanted.filter fun id => (t.node (pathOf id)).isNone
  canonical : Canonical t → (ids t).Pairwise (· < ·) ∧
    ∀ id, id ∈ ids t ↔ ∃ data, t.node (pathOf id) = some (.file data)

/-- **The listing law of the session cache.** For a session directory that exists and holds each
name once, the listing is sorted and lists the ids that its files are named for; a subsession is
cached exactly when something is at its archive's path, refused as not cached exactly when nothing
is, and missing from a request's ids exactly then; and when every archive name is the numeral of
its id, the listing is strictly ascending and lists exactly the ids whose archive is a file. -/
theorem listing_law (ht : t.Distinct) (hdir : t.node sessionDir = some .directory) : Listing t := by
  have hhas : ∀ id, has t id = true ↔ (t.node (pathOf id)).isSome := fun id =>
    (has_iff t id).trans ⟨fun h => h.2, fun h => ⟨hdir, h⟩⟩
  refine ⟨ids_sorted t, fun id => ?_, hhas, fun id => notCached_iff hdir, fun wanted => ?_, fun hc => ?_⟩
  · simp only [mem_ids_iff, node_archive_iff ht]
  · unfold uncached
    refine List.filter_congr fun id _ => ?_
    rw [Bool.eq_iff_iff, Bool.not_eq_true', Option.isNone_iff_eq_none, ← Bool.not_eq_true, hhas id,
      Option.not_isSome_iff_eq_none]
  · refine ⟨(ids_sorted t).imp₂ (fun _ _ => Int64.lt_of_le_of_ne) (nodup_ids ht hc), fun id => ?_⟩
    simp only [mem_ids_iff, ← node_archive_iff ht]
    constructor
    · rintro ⟨name, data, hn, hid⟩
      -- the file that reads as `id` is named by its numeral, so it is the archive of `id`
      refine ⟨data, ?_⟩
      rw [pathOf, ← hc name data id hn hid]
      exact hn
    · rintro ⟨data, hd⟩
      exact ⟨_, data, hd, idOfName_name id⟩

/-- A cache whose session directory holds a directory where the archive of subsession `7` would
be. -/
def archiveDirectory : Tree := layout.put (pathOf 7) .directory

/-- At a directory in an archive's place, subsession `7` counts as cached and is not refused as not
cached, yet the listing is empty. -/
theorem listing_law_archiveDirectory :
    archiveDirectory.Distinct ∧ archiveDirectory.node sessionDir = some .directory ∧
      Listing archiveDirectory ∧ has archiveDirectory 7 = true ∧ ¬NotCached archiveDirectory 7 ∧
      ids archiveDirectory = [] := by
  have hlaw := listing_law (t := archiveDirectory) (by decide) rfl
  have hnode : (archiveDirectory.node (pathOf 7)).isSome := by decide
  refine ⟨by decide, rfl, hlaw, (hlaw.has 7).mpr hnode, fun h => ?_, by decide +kernel⟩
  rw [hlaw.notCached 7] at h
  simp [h] at hnode

end Cache

end RaceArchive
