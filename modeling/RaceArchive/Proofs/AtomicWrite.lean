import Mathlib
import RaceArchive.Proofs.CacheListing
import RaceArchive.Proofs.Integrity
import RaceArchive.Proofs.OneEntryArchive

/-!
# An atomic write leaves nothing behind but its target

An atomic write (`Files.Tree.replace`) creates a temporary file beside its target, writes,
flushes and closes it, renames it over the target, and removes it whatever happened. Nothing is
at the temporary path when the write starts (`Files.Tree.tempFor_vacant`): its name is longer than
every name in the tree. Putting nodes at a vacant path and removing it again gives the tree back
(`Files.Tree.remove_put_vacant`), and removing it commutes with putting the target
(`Files.Tree.remove_put_comm`). So every write ends in one of two ways
(`Files.Tree.replace_cases`): it fails, whichever call the system refused, and leaves the tree
exactly as it was; or it succeeds, and the tree is the old one with the file put at its target.

The cache's writes inherit both: a get that fails, at the fetch or at the write, leaves the tree
as it was (`Cache.keep_error`), and so does a snapshot write that fails
(`Cache.writeReference_error`). An archive the cache writes reads back as the payload it holds
(`Cache.read_put_archive`), for every payload under 2 GiB.
-/

namespace RaceArchive

namespace Files

variable {t t' : Tree} {p q : Path}

/-! ## Putting and removing -/

/-- No node of the tree is at `q`. -/
def Tree.Vacant (t : Tree) (q : Path) : Prop := ∀ e ∈ t.nodes, e.1 ≠ q

theorem Tree.tempFor_vacant (t : Tree) (p : Path) : t.Vacant (t.tempFor p) := by
  intro e he heq
  have hle : (e.1.getLast?.getD "").length ≤ (t.nodes.map fun e => (e.1.getLast?.getD "").length).sum :=
    List.le_sum_of_mem (List.mem_map_of_mem he)
  rw [List.sum, List.foldr_map] at hle
  rw [heq] at hle
  simp [Tree.tempFor, Path.split] at hle
  omega

theorem Tree.tempFor_not_prefix (t : Tree) (p : Path) : ¬t.tempFor p <+: p := by
  intro h
  rcases List.eq_nil_or_concat p with rfl | ⟨dir, name, rfl⟩
  · simpa [Tree.tempFor] using h.length_le
  · rw [List.concat_eq_append] at h
    have heq := h.eq_of_length (by simp [Tree.tempFor, Path.split])
    simp [Tree.tempFor, Path.split] at heq
    have hlen := congrArg String.length heq
    simp at hlen
    omega

theorem Tree.put_vacant (h : t.Vacant q) (n : Node) : t.put q n = { nodes := t.nodes ++ [(q, n)] } := by
  have hany : t.nodes.any (·.1 == q) = false := by simpa [Tree.Vacant] using h
  simp [Tree.put, hany]

/-- Putting twice at one path leaves the second node. -/
theorem Tree.put_put (t : Tree) (q : Path) (n n' : Node) : (t.put q n).put q n' = t.put q n' := by
  unfold Tree.put
  by_cases h : t.nodes.any (·.1 == q) = true
  · have hmap : (t.nodes.map fun e => if e.1 == q then (q, n) else e).any (·.1 == q) = true := by
      obtain ⟨e, he, heq⟩ := List.any_eq_true.mp h
      exact List.any_eq_true.mpr ⟨_, List.mem_map_of_mem he, by simp [heq]⟩
    simp only [h, if_true, hmap, List.map_map]
    congr 1
    apply List.map_congr_left
    intro e _
    by_cases he : e.1 = q <;> simp [he]
  · have happ : (t.nodes ++ [(q, n)]).any (·.1 == q) = true := by simp
    simp only [h, Bool.false_eq_true, if_false, happ, if_true, List.map_append, List.map_cons,
      List.map_nil, beq_self_eq_true]
    congr 2
    refine (List.map_congr_left fun e he => ?_).trans (List.map_id _)
    have hne : (e.1 == q) = false := by
      simp only [Bool.not_eq_true, List.any_eq_false] at h
      simpa using h e he
    simp [hne]

theorem Tree.remove_vacant (h : t.Vacant q) : t.remove q = t := by
  unfold Tree.remove
  rw [List.filter_eq_self.mpr fun e he => by simpa using h e he]

theorem Tree.remove_put_vacant (h : t.Vacant q) (n : Node) : (t.put q n).remove q = t := by
  rw [Tree.put_vacant h]
  unfold Tree.remove
  rw [List.filter_append, List.filter_eq_self.mpr fun e he => by simpa using h e he]
  simp

/-- Removing one path commutes with putting a node at another. -/
theorem Tree.remove_put_comm (hne : q ≠ p) (n : Node) : (t.put p n).remove q = (t.remove q).put p n := by
  have hq : ((p, n).1 != q) = true := by simpa using hne.symm
  -- the nodes at `p` are kept by the removal, and the others are what it looks at
  have hany : (t.nodes.filter (·.1 != q)).any (·.1 == p) = t.nodes.any (·.1 == p) := by
    rw [Bool.eq_iff_iff, List.any_eq_true, List.any_eq_true]
    constructor
    · rintro ⟨e, he, hp⟩
      exact ⟨e, (List.mem_filter.mp he).1, hp⟩
    · rintro ⟨e, he, hp⟩
      refine ⟨e, List.mem_filter.mpr ⟨he, ?_⟩, hp⟩
      have : e.1 = p := by simpa using hp
      simpa [this] using hne.symm
  unfold Tree.put Tree.remove
  rw [hany]
  split
  · simp only [Tree.mk.injEq, List.filter_map]
    congr 1
    apply List.filter_congr
    intro e _
    by_cases he : e.1 = p
    · simp [he]
    · simp [he]
  · simp [List.filter_append, hq]

theorem Tree.remove_remove (t : Tree) (q : Path) : (t.remove q).remove q = t.remove q := by
  simp [Tree.remove, List.filter_filter]

/-! ## One write -/

variable {data : ByteArray} {fault : Option WriteFault}

/-- **Every atomic write fails without a trace or puts its file.** Whatever call the system
refuses, a failed write leaves the tree exactly as it was, temporary file included; with no call
refused, it fails only for a missing directory or a directory target. A successful one went into
an existing directory, at a target that is neither the root nor a directory, with no call
refused, and the tree it leaves is the old one with the file put at its target. -/
theorem Tree.replace_cases (t : Tree) (p : Path) (data : ByteArray) (fault : Option WriteFault) :
    (∃ e, t.replace p data fault = (.error e, t) ∧
        (fault = none → t.find p.dropLast = .directory → t.find p = .directory)) ∨
      (t.replace p data fault = (.ok (), t.put p (.file data)) ∧ p ≠ [] ∧
        t.find p.dropLast = .directory ∧ fault = none ∧ t.find p ≠ .directory) := by
  have hvacant := t.tempFor_vacant p
  -- whatever the temporary file holds when the write stops, its removal gives the tree back
  have hgone : ∀ n n', ((t.put (t.tempFor p) n).put (t.tempFor p) n').remove (t.tempFor p) = t :=
    fun n n' => by rw [Tree.put_put, Tree.remove_put_vacant hvacant]
  have hfind : ∀ n n', ((t.put (t.tempFor p) n).put (t.tempFor p) n').find p = t.find p :=
    fun n n' => by rw [Tree.put_put, Tree.find_put _ (t.tempFor_not_prefix p)]
  unfold Tree.replace
  split
  · next hdir => exact .inl ⟨_, rfl, fun _ h => by rw [hdir] at h; cases h⟩
  · next hdir => exact .inl ⟨_, rfl, fun _ h => by rw [hdir] at h; cases h⟩
  · next hdir => exact .inl ⟨_, rfl, fun _ h => by rw [hdir] at h; cases h⟩
  · next hdir =>
    cases fault with
    | some f => exact .inl ⟨_, by dsimp only; rw [hgone], fun h => by cases h⟩
    | none =>
      dsimp only
      rw [hfind]
      split
      · next hisdir => exact .inl ⟨_, by rw [hgone], fun _ _ => hisdir⟩
      · next hnot =>
        -- the root is a directory, so a write there is refused before the rename
        have hp : p ≠ [] := by
          rintro rfl
          exact hnot Tree.find_nil
        have hne : t.tempFor p ≠ p := fun h => t.tempFor_not_prefix p (by rw [h])
        refine .inr ⟨?_, hp, hdir, rfl, hnot⟩
        rw [Tree.remove_remove, Tree.remove_put_comm hne, Tree.put_put, Tree.remove_put_vacant hvacant]

/-- A failed atomic write leaves the tree exactly as it was. -/
theorem Tree.replace_error {e : Failure} (h : (t.replace p data fault).1 = .error e) :
    (t.replace p data fault).2 = t := by
  rcases t.replace_cases p data fault with ⟨e', he, -⟩ | ⟨hok, -⟩
  · rw [he]
  · rw [hok] at h
    cases h

theorem Tree.replace_ok (h : t.replace p data fault = (.ok (), t')) :
    p ≠ [] ∧ t.find p.dropLast = .directory ∧ t' = t.put p (.file data) := by
  rcases t.replace_cases p data fault with ⟨e, he, -⟩ | ⟨hok, hp, hdir, -, -⟩
  · rw [he] at h
    cases h
  · rw [hok] at h
    cases h
    exact ⟨hp, hdir, rfl⟩

theorem Tree.replace_refused (hdir : t.find p.dropLast = .directory) (f : WriteFault) :
    t.replace p data (some f) = (.error (f.failure p), t) := by
  unfold Tree.replace
  rw [hdir]
  dsimp only
  rw [Tree.put_put, Tree.remove_put_vacant (t.tempFor_vacant p)]

theorem Tree.replace_clean (hdir : t.find p.dropLast = .directory) (hnot : t.find p ≠ .directory) :
    t.replace p data none = (.ok (), t.put p (.file data)) := by
  rcases t.replace_cases p data none with ⟨e, -, hwhy⟩ | ⟨hok, -⟩
  · exact absurd (hwhy rfl hdir) hnot
  · exact hok

/-- A file written atomically reads back. -/
theorem Tree.read_replace (h : t.replace p data fault = (.ok (), t')) : t'.read p = .ok data := by
  obtain ⟨hp, hdir, rfl⟩ := Tree.replace_ok h
  unfold Tree.read
  rw [Tree.find_put_file hp (Tree.node_of_find_directory hdir)]

end Files

namespace Cache

open Files

variable {t t' : Tree} {id j : Int64} {fault : Option WriteFault}

/-! ## Caching a payload -/

/-- The caching step of getting a subsession, once the fetcher answered. -/
def keep (t : Tree) (id : Int64) (fault : Option WriteFault) :
    Except Failure ByteArray → Except Failure ByteArray × Tree
  | .error e => (.error e, t)
  | .ok data =>
    match t.replace (pathOf id) (Zip.write [(entryName, data)]) fault with
    | (.error e, t') => (.error (.within ("caching subsession " ++ toString id.toInt) e), t')
    | (.ok (), t') => (.ok data, t')

/-- Getting a subsession reads a cached one, and otherwise keeps what the fetcher answers. -/
theorem getOrFetch_some {m : Type → Type} [Monad m] [LawfulMonad m]
    (f : Int64 → m (Except Failure ByteArray)) (t : Tree) (id : Int64) (fault : Option WriteFault) :
    getOrFetch (some f) t id fault = if has t id then pure (read t id, t) else keep t id fault <$> f id := by
  unfold getOrFetch
  split
  · rfl
  · dsimp only
    rw [map_eq_pure_bind]
    congr 1
    funext o
    cases o with
    | error e => rfl
    | ok data =>
      simp only [keep]
      rcases t.replace (pathOf id) (Zip.write [(entryName, data)]) fault with ⟨_ | ⟨⟩, t'⟩ <;> rfl

theorem keep_error {o : Except Failure ByteArray} {e : Failure} (h : (keep t id fault o).1 = .error e) :
    (keep t id fault o).2 = t := by
  cases o with
  | error e' => rfl
  | ok data =>
    simp only [keep] at h ⊢
    rcases t.replace_cases (pathOf id) (Zip.write [(entryName, data)]) fault with ⟨e', he, -⟩ | ⟨hok, -⟩
    · rw [he]
    · rw [hok] at h
      cases h

/-- A successful caching step put the archive of the payload the fetcher answered, under the
session directory. -/
theorem keep_ok {o : Except Failure ByteArray} {data : ByteArray} (h : keep t id fault o = (.ok data, t')) :
    o = .ok data ∧ t.node sessionDir = some .directory ∧
      t' = t.put (pathOf id) (.file (Zip.write [(entryName, data)])) := by
  cases o with
  | error e => cases h
  | ok d =>
    simp only [keep] at h
    split at h
    · cases h
    · next t₁ hrep =>
      cases h
      obtain ⟨-, hdir, rfl⟩ := Tree.replace_ok hrep
      exact ⟨rfl, (find_sessionDir t).mp hdir, rfl⟩

/-- What a get does to the tree: nothing, or it cached the payload it returned under an id the
cache did not hold. -/
theorem get_cases (t : Tree) (id : Int64) (fault : Option WriteFault) (o : Except Failure ByteArray) :
    (if has t id then (read t id, t) else keep t id fault o).2 = t ∨
      ∃ data, (if has t id then (read t id, t) else keep t id fault o).1 = .ok data ∧ has t id = false ∧
        (if has t id then (read t id, t) else keep t id fault o).2 =
          t.put (pathOf id) (.file (Zip.write [(entryName, data)])) := by
  by_cases hid : has t id
  · rw [if_pos hid]
    exact .inl rfl
  · rw [if_neg hid]
    rcases hk : keep t id fault o with ⟨_ | data, t'⟩
    · have hsame := keep_error (show (keep t id fault o).1 = .error _ by rw [hk])
      rw [hk] at hsame
      exact .inl hsame
    · obtain ⟨-, -, rfl⟩ := keep_ok hk
      exact .inr ⟨data, rfl, by simpa using hid, rfl⟩

theorem getOrFetch_ok {o : Except Failure ByteArray} {data : ByteArray}
    (h : (if has t id then (read t id, t) else keep t id fault o) = (.ok data, t')) :
    has t' id = true ∧ ∀ j, has t j = true → has t' j = true := by
  split at h
  · next hid =>
    obtain ⟨-, rfl⟩ := Prod.mk.inj h
    exact ⟨hid, fun _ hj => hj⟩
  · obtain ⟨-, hdir, rfl⟩ := keep_ok h
    exact ⟨(has_put hdir _).mpr (.inl rfl), fun j hj => (has_put hdir _).mpr (.inr hj)⟩

/-! ## Reading a cached payload back -/

theorem Except.ok_bind {ε α β : Type} (a : α) (f : α → Except ε β) : (Except.ok a >>= f) = f a := rfl

theorem Except.error_bind {ε α β : Type} (e : ε) (f : α → Except ε β) :
    (Except.error e >>= f) = .error e := rfl

/-- The archive the cache writes for a payload reads back as the payload: it lists one entry,
which opens and reads as the payload. -/
def ArchiveReadsBack (data : ByteArray) : Prop :=
  ∃ e : Zip.Entry, Zip.entries (Zip.write [(entryName, data)]) = .ok #[e] ∧
    ∃ body, e.open (Zip.write [(entryName, data)]) = .ok body ∧
      e.read (Zip.write [(entryName, data)]) body = .ok data

theorem plain_entryName {data : ByteArray} (hd : data.size < 2 ^ 31) : Zip.Plain entryName data :=
  ⟨by decide, by decide +kernel, by decide, hd⟩

theorem archiveReadsBack_of_lt {data : ByteArray} (hd : data.size < 2 ^ 31) : ArchiveReadsBack data := by
  obtain ⟨e, hentries, -, body, hopen, hread⟩ := Zip.read_write_single (plain_entryName hd)
  exact ⟨e, hentries, body, hopen, hread⟩

theorem node_sessionDir_put (hdir : t.node sessionDir = some .directory) (n : Node) :
    (t.put (pathOf id) n).node sessionDir = some .directory :=
  (Tree.node_put_of_ne _ (by simp [sessionDir, pathOf])).trans hdir

/-- The archive the cache writes for a payload reads back as the payload. -/
theorem read_put_archive (hdir : t.node sessionDir = some .directory) {data : ByteArray}
    (hzip : ArchiveReadsBack data) :
    read (t.put (pathOf id) (.file (Zip.write [(entryName, data)]))) id = .ok data := by
  have hroom : ∀ a, a <+: (pathOf id).dropLast → t.node a = some .directory := by
    rw [show (pathOf id).dropLast = sessionDir from List.dropLast_concat]
    exact Tree.node_of_find_directory ((find_sessionDir t).mpr hdir)
  have hfile : (t.put (pathOf id) (.file (Zip.write [(entryName, data)]))).read (pathOf id) =
      .ok (Zip.write [(entryName, data)]) := by
    unfold Tree.read
    rw [Tree.find_put_file (by simp [pathOf]) hroom]
  obtain ⟨e, hentries, body, hopen, hread⟩ := hzip
  unfold read
  simp only [hfile, pure_bind, hentries, Except.ok_bind, List.getElem?_toArray, List.getElem?_cons_zero,
    Store.Except.mapError_ok, hopen, hread]

/-! ## Writing a snapshot -/

variable {name : String} {data : ByteArray}

theorem writeReference_replace :
    writeReference t name data fault =
      (((t.replace (referenceDir.join name) data fault).1).mapError
        (.within ("writing reference snapshot " ++ name)), (t.replace (referenceDir.join name) data fault).2) :=
  rfl

theorem writeReference_error {e : Failure} (h : (writeReference t name data fault).1 = .error e) :
    (writeReference t name data fault).2 = t := by
  rw [writeReference_replace] at h ⊢
  cases hr : (t.replace (referenceDir.join name) data fault).1 with
  | error e' => exact Tree.replace_error hr
  | ok u => rw [hr] at h; cases h

theorem writeReference_replace_ok (h : writeReference t name data fault = (.ok (), t')) :
    t.replace (referenceDir.join name) data fault = (.ok (), t') := by
  rw [writeReference_replace] at h
  rcases hr : t.replace (referenceDir.join name) data fault with ⟨_ | ⟨⟩, t₁⟩ <;> rw [hr] at h
  · cases h
  · cases h
    rfl

theorem writeReference_ok (h : writeReference t name data fault = (.ok (), t')) :
    t' = t.put (referenceDir.join name) (.file data) :=
  (Tree.replace_ok (writeReference_replace_ok h)).2.2

theorem writeReference_layout (hname : name = tracksSnapshot ∨ name = carsSnapshot) (data : ByteArray) :
    writeReference layout name data = (.ok (), layout.put (referenceDir.join name) (.file data)) := by
  have hpath : referenceDir.join name = ["ref", "tracks.json"] ∨ referenceDir.join name = ["ref", "cars.json"] := by
    rcases hname with rfl | rfl
    · exact .inl tracksPath
    · exact .inr carsPath
  have hdir : layout.find (referenceDir.join name).dropLast = .directory := by
    rcases hpath with h | h <;> rw [h] <;> rfl
  have hnot : layout.find (referenceDir.join name) ≠ .directory := by
    rcases hpath with h | h <;> rw [h] <;> intro hd <;> cases hd
  rw [writeReference_replace, Tree.replace_clean hdir hnot]
  rfl

theorem readReference_writeReference (h : writeReference t name data fault = (.ok (), t')) :
    readReference t' name = .ok data := by
  simp only [readReference, Tree.read_replace (writeReference_replace_ok h)]
  rfl

end Cache

end RaceArchive
