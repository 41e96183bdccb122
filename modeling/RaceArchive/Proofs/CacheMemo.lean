import Mathlib
import RaceArchive.Proofs.CacheLookup

/-!
# The cache as a memo table

Getting subsessions one after another from the cache behaves as a memo table in front of the
fetcher (`Memo.get`): an id the cache holds answers what reading its archive gives, and the
fetcher is not asked; any other id is asked for. A payload the fetcher answers is held from then
on and reads back as it came, unless the system refuses a call of the archive's write: the get then
reports the refusal and holds nothing. A failed get, at the fetch or at any call of the write,
leaves the tree exactly as it was, and a successful one changes it only at the archive of the id
it fetched.

The fetcher is a script (`ask`): it notes each id it is asked for and answers from the ids asked
before, so every sequence of answers is one script; the calls the system refuses are a script of
the same kind. The tree is seen through `view`: what each id answers without the fetcher. One get
moves the view as one get from the memo table moves the table (`get_view`), and so does every
run of gets (`getEach_view`). The archive of a payload is assumed to read back as the payload
(`ArchiveReadsBack`), which the archive's own proofs give for every payload under 2 GiB.
-/

namespace RaceArchive

namespace Cache

open Files

/-! ## Runs of gets -/

/-- A fetcher following a script: it notes the id asked for, and answers as `answer` says from the
ids asked before. -/
def ask (answer : List Int64 → Int64 → Except Failure ByteArray) (id : Int64) :
    StateM (List Int64) (Except Failure ByteArray) :=
  modifyGet fun asked => (answer asked id, asked ++ [id])

/-- Gets the ids one after another, each from the tree the get before left; `refuse` says which
call of the archive's write the system refuses, from the ids asked before and the id. -/
def getEach (fetch : Option (Int64 → StateM (List Int64) (Except Failure ByteArray)))
    (refuse : List Int64 → Int64 → Option WriteFault) :
    Tree → List Int64 → StateM (List Int64) (List (Except Failure ByteArray) × Tree)
  | t, [] => pure ([], t)
  | t, id :: ids => do
    let (r, t) ← getOrFetch fetch t id (refuse (← get) id)
    let (rs, t) ← getEach fetch refuse t ids
    pure (r :: rs, t)

/-- What the cache answers for an id without its fetcher: the reading of the archive, when one is
there. -/
def view (t : Tree) (id : Int64) : Option (Except Failure ByteArray) :=
  if has t id then some (read t id) else none

/-- The failure of a get whose archive write the system refused with `f`. -/
def refusedWrite (id : Int64) (f : WriteFault) : Failure :=
  .within ("caching subsession " ++ toString id.toInt) (f.failure (pathOf id))

/-! ## The memo table -/

/-- A memo table: what each held id answers. -/
abbrev Memo := Int64 → Option (Except Failure ByteArray)

/-- The table after the fetcher's answer for `id`: a payload is held, a failure is not. -/
def Memo.hold (m : Memo) (id : Int64) : Except Failure ByteArray → Memo
  | .ok data => Function.update m id (some (.ok data))
  | .error _ => m

/-- What a get of an id the table lacks gives, from the fetcher's answer and the call of the
archive's write the system refuses: a payload whose write is refused is reported as the refusal
and not held. -/
def Memo.settle (m : Memo) (id : Int64) : Except Failure ByteArray → Option WriteFault →
    Except Failure ByteArray × Memo
  | .ok _, some f => (.error (refusedWrite id f), m)
  | a, _ => (a, m.hold id a)

/-- A get from a memo table in front of the fetcher: a held id answers from the table; any other
is asked for. -/
def Memo.get (answer : List Int64 → Int64 → Except Failure ByteArray)
    (refuse : List Int64 → Int64 → Option WriteFault) (m : Memo) (id : Int64) :
    StateM (List Int64) (Except Failure ByteArray × Memo) :=
  match m id with
  | some r => pure (r, m)
  | none => do
    let asked ← getThe (List Int64)
    let a ← ask answer id
    pure (m.settle id a (refuse asked id))

/-- Gets the ids one after another from a memo table. -/
def Memo.getEach (answer : List Int64 → Int64 → Except Failure ByteArray)
    (refuse : List Int64 → Int64 → Option WriteFault) :
    Memo → List Int64 → StateM (List Int64) (List (Except Failure ByteArray) × Memo)
  | m, [] => pure ([], m)
  | m, id :: ids => do
    let (r, m) ← Memo.get answer refuse m id
    let (rs, m) ← Memo.getEach answer refuse m ids
    pure (r :: rs, m)

variable {answer : List Int64 → Int64 → Except Failure ByteArray}
  {refuse : List Int64 → Int64 → Option WriteFault} {m : Memo} {t : Tree} {id : Int64}
  {r : Except Failure ByteArray}

theorem Memo.getEach_cons (m : Memo) (id : Int64) (ids asked : List Int64) :
    (Memo.getEach answer refuse m (id :: ids)).run asked =
      let a := (Memo.get answer refuse m id).run asked
      let b := (Memo.getEach answer refuse a.1.2 ids).run a.2
      ((a.1.1 :: b.1.1, b.1.2), b.2) := rfl

theorem Memo.get_held (h : m id = some r) (asked : List Int64) :
    (Memo.get answer refuse m id).run asked = ((r, m), asked) := by
  simp only [Memo.get, h]
  rfl

theorem Memo.get_new (h : m id = none) (asked : List Int64) :
    (Memo.get answer refuse m id).run asked =
      (m.settle id (answer asked id) (refuse asked id), asked ++ [id]) := by
  simp only [Memo.get, h]
  rfl

theorem Memo.settle_of_ne {j : Int64} (h : j ≠ id) (a : Except Failure ByteArray) (o : Option WriteFault) :
    (m.settle j a o).2 id = m id := by
  rcases a with e | data <;> rcases o with _ | f
  all_goals first
    | rfl
    | exact Function.update_of_ne h.symm _ _

/-- A held id stays held through every run: each get of it answers what the table holds, and the
fetcher is never asked for it. -/
theorem Memo.getEach_held (answer : List Int64 → Int64 → Except Failure ByteArray)
    (refuse : List Int64 → Int64 → Option WriteFault) (h : m id = some r) (ids asked : List Int64) :
    let out := (Memo.getEach answer refuse m ids).run asked
    out.1.2 id = some r ∧ (∀ k : Nat, ids[k]? = some id → out.1.1[k]? = some r) ∧
      ∃ more, out.2 = asked ++ more ∧ id ∉ more := by
  induction ids generalizing m asked with
  | nil => exact ⟨h, by simp, [], (List.append_nil asked).symm, by simp⟩
  | cons j ids ih =>
    rw [Memo.getEach_cons]
    cases hj : m j with
    | some r' =>
      -- a held id answers from the table and leaves it and the log as they were
      rw [Memo.get_held hj]
      obtain ⟨hkept, hanswers, more, hlog, hmore⟩ := ih h asked
      refine ⟨hkept, ?_, more, hlog, hmore⟩
      rintro (_ | k) hk
      · have hjid : j = id := by simpa using hk
        rw [hjid, h] at hj
        simpa using hj.symm
      · exact hanswers k (by simpa using hk)
    | none =>
      -- a new id is asked for; it is not the held one, whose entry the answer leaves
      have hne : j ≠ id := fun e => by rw [e, h] at hj; cases hj
      rw [Memo.get_new hj]
      obtain ⟨hkept, hanswers, more, hlog, hmore⟩ :=
        ih (by rw [Memo.settle_of_ne hne, h] :
          (m.settle j (answer asked j) (refuse asked j)).2 id = some r) (asked ++ [j])
      refine ⟨hkept, ?_, j :: more, by simpa using hlog, ?_⟩
      · rintro (_ | k) hk
        · exact absurd (by simpa using hk) hne
        · exact hanswers k (by simpa using hk)
      · simp only [List.mem_cons, not_or]
        exact ⟨hne.symm, hmore⟩

/-! ## One get through the view -/

theorem getOrFetch_ask (t : Tree) (id : Int64) (fault : Option WriteFault) (asked : List Int64) :
    (getOrFetch (some (ask answer)) t id fault).run asked =
      (if has t id then (read t id, t) else keep t id fault (answer asked id),
        if has t id then asked else asked ++ [id]) := by
  rw [getOrFetch_some]
  split <;> rfl

/-- Caching a payload under an id the cache did not hold holds it in the view and leaves every
other id. -/
theorem view_put_archive (hdir : t.node sessionDir = some .directory) {data : ByteArray}
    (hzip : ArchiveReadsBack data) :
    view (t.put (pathOf id) (.file (Zip.write [(entryName, data)]))) =
      Function.update (view t) id (some (.ok data)) := by
  funext j
  by_cases hj : j = id
  · subst hj
    rw [Function.update_self]
    simp only [view, (has_put hdir _).mpr (.inl rfl), read_put_archive hdir hzip, ↓reduceIte]
  · rw [Function.update_of_ne hj]
    have hne : ¬pathOf id <+: pathOf j := fun h => hj (pathOf_prefix_eq h).symm
    simp only [view, has, Tree.has_put _ hne, read_put hne]
    rfl

/-- Under the session directory, the archive of an id the cache does not hold is written when the
system refuses no call, and otherwise the write reports the refusal and leaves the tree. -/
theorem keep_new (hdir : t.node sessionDir = some .directory) (hid : has t id = false)
    (data : ByteArray) (fault : Option WriteFault) :
    keep t id fault (.ok data) = match fault with
      | some f => (.error (refusedWrite id f), t)
      | none => (.ok data, t.put (pathOf id) (.file (Zip.write [(entryName, data)]))) := by
  have hdir' : t.find (pathOf id).dropLast = .directory := (find_sessionDir t).mpr hdir
  cases fault with
  | some f => simp only [keep, Tree.replace_refused hdir' f, refusedWrite]
  | none =>
    have hnot : t.find (pathOf id) ≠ .directory := fun h => by
      simp only [has, Tree.has, h] at hid
      cases hid
    simp only [keep, Tree.replace_clean hdir' hnot]

/-- One get moves the view as one get from the memo table moves the table. -/
theorem get_view (hdir : t.node sessionDir = some .directory)
    (hzip : ∀ asked id data, answer asked id = .ok data → ArchiveReadsBack data) (id : Int64)
    (asked : List Int64) :
    let run := (getOrFetch (some (ask answer)) t id (refuse asked id)).run asked
    (Memo.get answer refuse (view t) id).run asked = ((run.1.1, view run.1.2), run.2) := by
  rw [getOrFetch_ask]
  by_cases hid : has t id
  · -- a held id answers its reading and leaves the tree
    have hview : view t id = some (read t id) := by simp only [view, hid, ↓reduceIte]
    rw [Memo.get_held hview]
    simp only [hid, ↓reduceIte]
  · -- another is asked for; a payload is cached unless its write is refused
    have hid' : has t id = false := by simpa using hid
    have hview : view t id = none := by simp only [view, hid', Bool.false_eq_true, ↓reduceIte]
    rw [Memo.get_new hview]
    simp only [hid', Bool.false_eq_true, ↓reduceIte]
    cases ha : answer asked id with
    | error e => rfl
    | ok data =>
      rw [keep_new hdir hid']
      cases refuse asked id with
      | some f => rfl
      | none => simp only [Memo.settle, Memo.hold, view_put_archive hdir (hzip asked id data ha)]

theorem get_tree (answer : List Int64 → Int64 → Except Failure ByteArray) (fault : Option WriteFault)
    (id : Int64) (asked : List Int64) :
    let run := (getOrFetch (some (ask answer)) t id fault).run asked
    run.1.2 = t ∨ ∃ data, run.1.1 = .ok data ∧ has t id = false ∧
      run.1.2 = t.put (pathOf id) (.file (Zip.write [(entryName, data)])) := by
  rw [getOrFetch_ask]
  exact get_cases t id fault (answer asked id)

theorem get_error_tree {e : Failure} (fault : Option WriteFault) (id : Int64) (asked : List Int64)
    (h : ((getOrFetch (some (ask answer)) t id fault).run asked).1.1 = .error e) :
    ((getOrFetch (some (ask answer)) t id fault).run asked).1.2 = t := by
  rcases get_tree answer fault id asked with hsame | ⟨data, hok, -, -⟩
  · exact hsame
  · rw [hok] at h
    cases h

/-! ## Runs through the view -/

theorem getEach_cons (fetch : Option (Int64 → StateM (List Int64) (Except Failure ByteArray)))
    (refuse : List Int64 → Int64 → Option WriteFault) (t : Tree) (id : Int64) (ids asked : List Int64) :
    (getEach fetch refuse t (id :: ids)).run asked =
      let a := (getOrFetch fetch t id (refuse asked id)).run asked
      let b := (getEach fetch refuse a.1.2 ids).run a.2
      ((a.1.1 :: b.1.1, b.1.2), b.2) := rfl

theorem get_keeps (answer : List Int64 → Int64 → Except Failure ByteArray) (fault : Option WriteFault)
    (hdir : t.node sessionDir = some .directory) (id : Int64) (asked : List Int64) :
    let t' := ((getOrFetch (some (ask answer)) t id fault).run asked).1.2
    t'.node sessionDir = some .directory ∧ ∀ j, has t j = true → has t' j = true := by
  rcases get_tree answer fault id asked with hsame | ⟨data, -, -, hput⟩
  · rw [hsame]
    exact ⟨hdir, fun j hj => hj⟩
  · rw [hput]
    exact ⟨node_sessionDir_put hdir _, fun j hj => (has_put hdir _).mpr (.inr hj)⟩

/-- Every run of gets moves the view as the same run moves the memo table. -/
theorem getEach_view (hzip : ∀ asked id data, answer asked id = .ok data → ArchiveReadsBack data)
    (ids : List Int64) :
    ∀ (t : Tree) (asked : List Int64), t.node sessionDir = some .directory →
      (Memo.getEach answer refuse (view t) ids).run asked =
        let run := (getEach (some (ask answer)) refuse t ids).run asked
        ((run.1.1, view run.1.2), run.2) := by
  -- induction on the ids; the step is one get, which keeps the session directory
  induction ids with
  | nil => intro t asked _; rfl
  | cons id ids ih =>
    intro t asked hdir
    rw [Memo.getEach_cons, getEach_cons, get_view hdir hzip]
    dsimp only
    rw [ih _ _ (get_keeps answer _ hdir id asked).1]

/-- A run of gets changes the tree only at the archives of ids the cache did not hold. -/
theorem getEach_frame (ids : List Int64) :
    ∀ (t : Tree) (asked : List Int64), t.node sessionDir = some .directory → ∀ q,
      ((getEach (some (ask answer)) refuse t ids).run asked).1.2.node q ≠ t.node q →
        ∃ id ∈ ids, q = pathOf id ∧ has t id = false := by
  induction ids with
  | nil => intro t asked _ q h; exact absurd rfl h
  | cons id ids ih =>
    intro t asked hdir q hq
    rw [getEach_cons] at hq
    obtain ⟨hdir', hkeeps⟩ := get_keeps answer (refuse asked id) hdir id asked
    by_cases hstep : ((getOrFetch (some (ask answer)) t id (refuse asked id)).run asked).1.2.node q = t.node q
    · -- the change came later in the run, at an id not held then, so not held before either
      obtain ⟨j, hj, rfl, hnew⟩ := ih _ _ hdir' q (fun h => hq (h.trans hstep))
      refine ⟨j, List.mem_cons_of_mem id hj, rfl, ?_⟩
      cases hold : has t j with
      | false => rfl
      | true => rw [hkeeps j hold] at hnew; cases hnew
    · -- the change came from the get itself, which cached the id
      rcases get_tree answer (refuse asked id) id asked with hsame | ⟨data, -, hid, hput⟩
      · exact absurd (hsame ▸ rfl) hstep
      · refine ⟨id, List.mem_cons_self, ?_, hid⟩
        by_contra hne
        exact hstep (hput ▸ Tree.node_put_of_ne _ hne)

/-- Getting subsessions one after another from a cache with its session directory, whatever the
fetcher answers and whichever calls of the archives' writes the system refuses, as long as an
archive reads back as its payload: every run is the run of a memo table seen through the view,
so an id the cache holds is answered from its archive and the fetcher is asked only for the
others, and a payload whose write is refused is reported and not held. A failed get, at the
fetch or at any call of the write, leaves the tree exactly as it was, and a run changes the tree
only at the archives of ids not held at its start. Once an id is held, with a payload fetched or
read, every later get of it answers the same, it reads the same at the end, and the fetcher is
never asked for it. -/
theorem getEach_memoizes (hdir : t.node sessionDir = some .directory)
    (hzip : ∀ asked id data, answer asked id = .ok data → ArchiveReadsBack data)
    (refuse : List Int64 → Int64 → Option WriteFault) (ids asked : List Int64) :
    let run := (getEach (some (ask answer)) refuse t ids).run asked
    (Memo.getEach answer refuse (view t) ids).run asked = ((run.1.1, view run.1.2), run.2) ∧
    (∀ id fault e, ((getOrFetch (some (ask answer)) t id fault).run asked).1.1 = .error e →
      ((getOrFetch (some (ask answer)) t id fault).run asked).1.2 = t) ∧
    (∀ q, run.1.2.node q ≠ t.node q → ∃ id ∈ ids, q = pathOf id ∧ has t id = false) ∧
    ∀ id r, view t id = some r → view run.1.2 id = some r ∧
      (∀ k : Nat, ids[k]? = some id → run.1.1[k]? = some r) ∧ ∃ more, run.2 = asked ++ more ∧ id ∉ more := by
  have hview := @getEach_view answer refuse hzip ids t asked hdir
  refine ⟨hview, fun id fault e h => get_error_tree fault id asked h, getEach_frame ids t asked hdir, ?_⟩
  intro id r hid
  have hheld := Memo.getEach_held answer refuse hid ids asked
  rw [hview] at hheld
  exact hheld

/-- A fetcher that fails the first time it is asked, and answers one octet after that. -/
def flaky (asked : List Int64) (_ : Int64) : Except Failure ByteArray :=
  if asked.isEmpty then .error (.plain "unavailable") else .ok ⟨#[7]⟩

/-- A disk that refuses to flush the archive written after the first answer. -/
def failingSync (asked : List Int64) (_ : Int64) : Option WriteFault :=
  if asked.length = 1 then some (.sync "input/output error") else none

/-- A new cache in front of the flaky fetcher and the failing disk, getting subsession `7` four
times: the fetch fails, then the write is refused, then the payload is cached, then it is read
from the cache. -/
theorem getEach_memoizes_flaky :
    layout.node sessionDir = some .directory ∧
    (∀ asked id data, flaky asked id = .ok data → ArchiveReadsBack data) ∧
    let run := (getEach (some (ask flaky)) failingSync layout [7, 7, 7, 7]).run []
    (Memo.getEach flaky failingSync (view layout) [7, 7, 7, 7]).run [] = ((run.1.1, view run.1.2), run.2) ∧
    (∀ id fault e, ((getOrFetch (some (ask flaky)) layout id fault).run []).1.1 = .error e →
      ((getOrFetch (some (ask flaky)) layout id fault).run []).1.2 = layout) ∧
    (∀ q, run.1.2.node q ≠ layout.node q → ∃ id ∈ [7, 7, 7, 7], q = pathOf id ∧ has layout id = false) ∧
    ∀ id r, view layout id = some r → view run.1.2 id = some r ∧
      (∀ k : Nat, [7, 7, 7, 7][k]? = some id → run.1.1[k]? = some r) ∧
        ∃ more, run.2 = [] ++ more ∧ id ∉ more := by
  have hzip : ∀ asked id data, flaky asked id = .ok data → ArchiveReadsBack data := by
    intro asked id data h
    unfold flaky at h
    split at h
    · cases h
    · cases h
      exact archiveReadsBack_of_lt (by decide)
  exact ⟨rfl, hzip, getEach_memoizes rfl hzip failingSync [7, 7, 7, 7] []⟩

end Cache

end RaceArchive
