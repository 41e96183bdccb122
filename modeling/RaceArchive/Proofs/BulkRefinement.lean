import RaceArchive.Store.Bulk

/-!
# Bulk storing refines storing one at a time

A bulk ingester holds one long transaction, stores each subsession in a savepoint of its own and
commits every `checkpoint` stored subsessions. Against storing the same subsessions one at a
time with `Store.insert`, from the same store:

* each call answers what the call one at a time answers, and a refused call leaves the ingester
  as it was;
* the ingester counts the accepted subsessions, and the committed ones are the largest multiple
  of the checkpoint not above that count, or none when the checkpoint is not positive;
* closing leaves the store that storing one at a time leaves, and aborting leaves the store after
  the committed subsessions alone.

`Ingester.Follows` is the invariant carried from call to call; the main statement is
`Ingester.run_refines_sequential`.
-/

namespace RaceArchive.Store

open Results

namespace Store

/-- Stores subsessions one at a time; a refused subsession leaves the store as it was. -/
def insertEach (db : Store) : List Rows → Store
  | [] => db
  | rows :: rest =>
    match db.insert rows with
    | .ok db' => db'.insertEach rest
    | .error _ => db.insertEach rest

/-- The subsessions that storing one at a time accepts, in order. -/
def accepted (db : Store) : List Rows → List Rows
  | [] => []
  | rows :: rest =>
    match db.insert rows with
    | .ok db' => rows :: db'.accepted rest
    | .error _ => db.accepted rest

/-- The answers of storing one at a time, call by call. -/
def answers (db : Store) : List Rows → List (Except Failure Unit)
  | [] => []
  | rows :: rest =>
    match db.insert rows with
    | .ok db' => .ok () :: db'.answers rest
    | .error f => .error f :: db.answers rest

section OneAtATime

variable {db db' : Store} {rows : Rows} {f : Failure}

theorem insertEach_cons_ok (h : db.insert rows = .ok db') (rest : List Rows) :
    db.insertEach (rows :: rest) = db'.insertEach rest := by
  simp [insertEach, h]

theorem insertEach_cons_error (h : db.insert rows = .error f) (rest : List Rows) :
    db.insertEach (rows :: rest) = db.insertEach rest := by
  simp [insertEach, h]

theorem accepted_cons_ok (h : db.insert rows = .ok db') (rest : List Rows) :
    db.accepted (rows :: rest) = rows :: db'.accepted rest := by
  simp [accepted, h]

theorem accepted_cons_error (h : db.insert rows = .error f) (rest : List Rows) :
    db.accepted (rows :: rest) = db.accepted rest := by
  simp [accepted, h]

theorem insertEach_append (db : Store) (xs ys : List Rows) :
    db.insertEach (xs ++ ys) = (db.insertEach xs).insertEach ys := by
  induction xs generalizing db with
  | nil => rfl
  | cons rows rest ih =>
    cases h : db.insert rows with
    | ok db' => rw [List.cons_append, insertEach_cons_ok h, insertEach_cons_ok h, ih]
    | error f => rw [List.cons_append, insertEach_cons_error h, insertEach_cons_error h, ih]

theorem accepted_append (db : Store) (xs ys : List Rows) :
    db.accepted (xs ++ ys) = db.accepted xs ++ (db.insertEach xs).accepted ys := by
  induction xs generalizing db with
  | nil => rfl
  | cons rows rest ih =>
    cases h : db.insert rows with
    | ok db' =>
      rw [List.cons_append, accepted_cons_ok h, accepted_cons_ok h, insertEach_cons_ok h, ih,
        List.cons_append]
    | error f =>
      rw [List.cons_append, accepted_cons_error h, accepted_cons_error h, insertEach_cons_error h,
        ih]

theorem insertEach_accepted (db : Store) (rs : List Rows) :
    db.insertEach (db.accepted rs) = db.insertEach rs := by
  induction rs generalizing db with
  | nil => rfl
  | cons rows rest ih =>
    cases h : db.insert rows with
    | ok db' => rw [accepted_cons_ok h, insertEach_cons_ok h, insertEach_cons_ok h, ih]
    | error f => rw [accepted_cons_error h, insertEach_cons_error h, ih]

theorem insertEach_concat_ok {xs : List Rows} (h : (db.insertEach xs).insert rows = .ok db') :
    db.insertEach (xs ++ [rows]) = db' := by
  rw [insertEach_append, insertEach_cons_ok h]; rfl

theorem insertEach_concat_error {xs : List Rows} (h : (db.insertEach xs).insert rows = .error f) :
    db.insertEach (xs ++ [rows]) = db.insertEach xs := by
  rw [insertEach_append, insertEach_cons_error h]; rfl

theorem accepted_concat_ok {xs : List Rows} (h : (db.insertEach xs).insert rows = .ok db') :
    db.accepted (xs ++ [rows]) = db.accepted xs ++ [rows] := by
  rw [accepted_append, accepted_cons_ok h]; rfl

theorem accepted_concat_error {xs : List Rows} (h : (db.insertEach xs).insert rows = .error f) :
    db.accepted (xs ++ [rows]) = db.accepted xs := by
  rw [accepted_append, accepted_cons_error h]; exact List.append_nil _

end OneAtATime

end Store

namespace Ingester

/-- One call of a bulk ingester: its answer and the ingester after it. A refused subsession is
rolled back to its savepoint, so the ingester stays as it was. -/
def call (b : Ingester) (rows : Rows) : Except Failure Unit × Ingester :=
  match b.insert rows with
  | .ok b' => (.ok (), b')
  | .error f => (.error f, b)

/-- The ingester after a sequence of calls. -/
def feed (b : Ingester) : List Rows → Ingester
  | [] => b
  | rows :: rest => (b.call rows).2.feed rest

/-- The answers of a sequence of calls. -/
def answers (b : Ingester) : List Rows → List (Except Failure Unit)
  | [] => []
  | rows :: rest => (b.call rows).1 :: (b.call rows).2.answers rest

section Calls

variable {b : Ingester} {rows : Rows} {w : Store} {f : Failure}

theorem call_of_error (h : b.working.insert rows = .error f) : b.call rows = (.error f, b) := by
  simp [call, Ingester.insert, h, bind, Except.bind]

theorem call_of_commit (h : b.working.insert rows = .ok w) (hc : 0 < b.checkpoint)
    (hp : b.checkpoint ≤ (b.pending : Int) + 1) :
    b.call rows =
      (.ok (), { b with committed := w, working := w, pending := 0, total := b.total + 1 }) := by
  simp [call, Ingester.insert, h, bind, Except.bind, pure, Except.pure, hc, hp]

theorem call_of_hold (h : b.working.insert rows = .ok w)
    (hc : ¬(0 < b.checkpoint ∧ b.checkpoint ≤ (b.pending : Int) + 1)) :
    b.call rows =
      (.ok (), { b with working := w, pending := b.pending + 1, total := b.total + 1 }) := by
  have : ¬(decide (0 < b.checkpoint) && decide (b.checkpoint ≤ (b.pending : Int) + 1)) = true := by
    simpa using hc
  simp only [call, Ingester.insert, h, bind, Except.bind, pure, Except.pure]
  rw [if_neg (by simpa using this)]

theorem feed_append (b : Ingester) (xs ys : List Rows) :
    b.feed (xs ++ ys) = (b.feed xs).feed ys := by
  induction xs generalizing b with
  | nil => rfl
  | cons rows rest ih => exact ih _

theorem answers_append (b : Ingester) (xs ys : List Rows) :
    b.answers (xs ++ ys) = b.answers xs ++ (b.feed xs).answers ys := by
  induction xs generalizing b with
  | nil => rfl
  | cons rows rest ih => simp only [List.cons_append, answers, feed, ih]

end Calls

/-- The ingester started on `db` with checkpoint `c`, after the calls `done`: it holds the
store that storing `done` one at a time leaves, counts the accepted subsessions, keeps fewer
than `c` of them pending, and commits a multiple of `c` of them, whose store it keeps. -/
structure Follows (b : Ingester) (db : Store) (c : Int) (done : List Rows) : Prop where
  checkpoint : b.checkpoint = c
  working : b.working = db.insertEach done
  total : b.total = (db.accepted done).length
  pending_le : b.pending ≤ b.total
  pending_lt : 0 < c → (b.pending : Int) < c
  pending_all : c ≤ 0 → b.pending = b.total
  dvd : c ∣ (b.committedCount : Int)
  committed : b.committed = db.insertEach ((db.accepted done).take b.committedCount)

theorem follows_start (db : Store) (c : Int) : (start db c).Follows db c [] where
  checkpoint := rfl
  working := rfl
  total := rfl
  pending_le := Nat.le_refl 0
  pending_lt := id
  pending_all _ := rfl
  dvd := Int.dvd_zero c
  committed := rfl

section Step

variable {b : Ingester} {db : Store} {c : Int} {done : List Rows} {rows : Rows}

theorem Follows.of_refused (hb : b.Follows db c done)
    (h : (db.insertEach done).insert rows = .error f) : b.Follows db c (done ++ [rows]) := by
  have hacc := Store.accepted_concat_error h
  exact { hb with
    working := hb.working.trans (Store.insertEach_concat_error h).symm
    total := by rw [hacc]; exact hb.total
    committed := by rw [hacc]; exact hb.committed }

/-- A stored subsession that does not reach the checkpoint stays pending. -/
theorem Follows.of_held (hb : b.Follows db c done) (h : (db.insertEach done).insert rows = .ok w)
    (hc : ¬(0 < b.checkpoint ∧ b.checkpoint ≤ (b.pending : Int) + 1)) :
    Follows { b with working := w, pending := b.pending + 1, total := b.total + 1 } db c
      (done ++ [rows]) := by
  have hacc := Store.accepted_concat_ok h
  have hcount : b.total + 1 - (b.pending + 1) = b.committedCount := by
    simp only [committedCount]; omega
  refine ⟨hb.checkpoint, (Store.insertEach_concat_ok h).symm, ?_, ?_, ?_, ?_, ?_, ?_⟩
  · simp [hacc, hb.total]
  · simpa using hb.pending_le
  · intro hc0; rw [← hb.checkpoint] at hc0 ⊢; push_cast; omega
  · intro hc0; simpa using hb.pending_all hc0
  · simpa [committedCount, hcount] using hb.dvd
  · have hle : b.total - b.pending ≤ (db.accepted done).length := by rw [← hb.total]; omega
    show b.committed = db.insertEach ((db.accepted (done ++ [rows])).take (b.total + 1 - (b.pending + 1)))
    rw [hacc, show b.total + 1 - (b.pending + 1) = b.total - b.pending by omega,
      List.take_append_of_le_length hle]
    exact hb.committed

/-- A stored subsession that reaches the checkpoint commits everything stored so far. -/
theorem Follows.of_commit (hb : b.Follows db c done) (h : (db.insertEach done).insert rows = .ok w)
    (hc : 0 < b.checkpoint) (hp : b.checkpoint ≤ (b.pending : Int) + 1) :
    Follows { b with committed := w, working := w, pending := 0, total := b.total + 1 } db c
      (done ++ [rows]) := by
  have hacc := Store.accepted_concat_ok h
  have hlt := hb.pending_lt (hb.checkpoint ▸ hc)
  rw [hb.checkpoint] at hc hp
  -- the pending subsessions and this one make exactly one more checkpoint
  have hfull : (b.pending : Int) + 1 = c := by omega
  have hstep : ((b.total + 1 - 0 : Nat) : Int) = b.committedCount + c := by
    simp only [committedCount]; have := hb.pending_le; omega
  refine ⟨hb.checkpoint, (Store.insertEach_concat_ok h).symm, ?_, Nat.zero_le _, ?_, ?_, ?_, ?_⟩
  · simp [hacc, hb.total]
  · intro _; exact hc
  · intro hc0; omega
  · simp only [committedCount]; rw [hstep]; exact Int.dvd_add hb.dvd (Int.dvd_refl c)
  · have hlen : (db.accepted (done ++ [rows])).length = b.total + 1 := by simp [hacc, hb.total]
    simp only [committedCount, Nat.sub_zero]
    rw [← hlen, List.take_length, Store.insertEach_accepted, Store.insertEach_concat_ok h]

/-- One call keeps the invariant and answers what the call one at a time answers. -/
theorem Follows.call (hb : b.Follows db c done) (rows : Rows) :
    (b.call rows).2.Follows db c (done ++ [rows]) ∧ ∀ rest : List Rows,
      (db.insertEach done).answers (rows :: rest) =
        (b.call rows).1 :: (db.insertEach (done ++ [rows])).answers rest := by
  cases h : (db.insertEach done).insert rows with
  | error f =>
    have hw : b.working.insert rows = .error f := hb.working ▸ h
    rw [call_of_error hw, Store.insertEach_concat_error h]
    exact ⟨hb.of_refused h, fun rest => by simp [Store.answers, h]⟩
  | ok w =>
    have hw : b.working.insert rows = .ok w := hb.working ▸ h
    rw [Store.insertEach_concat_ok h]
    by_cases hc : 0 < b.checkpoint ∧ b.checkpoint ≤ (b.pending : Int) + 1
    · rw [call_of_commit hw hc.1 hc.2]
      exact ⟨hb.of_commit h hc.1 hc.2, fun rest => by simp [Store.answers, h]⟩
    · rw [call_of_hold hw hc]
      exact ⟨hb.of_held h hc, fun rest => by simp [Store.answers, h]⟩

/-- A run of calls keeps the invariant and answers what storing one at a time answers. -/
theorem Follows.feed (hb : b.Follows db c done) (rs : List Rows) :
    (b.feed rs).Follows db c (done ++ rs) ∧ b.answers rs = (db.insertEach done).answers rs := by
  induction rs generalizing b done with
  | nil => exact ⟨by rw [List.append_nil]; exact hb, rfl⟩
  | cons rows rest ih =>
    obtain ⟨hnext, hanswer⟩ := hb.call rows
    obtain ⟨hfeed, hrest⟩ := ih hnext
    refine ⟨by rw [← List.singleton_append, ← List.append_assoc]; exact hfeed, ?_⟩
    rw [hanswer, answers, hrest]

/-- The committed subsessions are the largest multiple of a positive checkpoint not above the
count, and none for a checkpoint that is not positive. -/
theorem Follows.committedCount_eq (hb : b.Follows db c done) :
    (b.committedCount : Int) = if 0 < c then c * ((b.total : Int) / c) else 0 := by
  have hle := hb.pending_le
  split
  · next hc =>
    obtain ⟨m, hm⟩ := hb.dvd
    have htotal : (b.total : Int) = b.pending + c * m := by
      simp only [committedCount] at hm; omega
    have hpending : (b.pending : Int) / c = 0 :=
      Int.ediv_eq_zero_of_lt (Int.natCast_nonneg _) (hb.pending_lt hc)
    rw [htotal, Int.add_mul_ediv_left _ _ (Int.ne_of_gt hc), hpending, Int.zero_add, ← hm]
  · next hc =>
    have := hb.pending_all (Int.not_lt.mp hc)
    simp only [committedCount]; omega

end Step

theorem call_refused {b : Ingester} {rows : Rows} {f : Failure} (h : (b.call rows).1 = .error f) :
    (b.call rows).2 = b := by
  cases hb : b.insert rows <;> simp_all [call]

theorem feed_refused (b : Ingester) (rs : List Rows) {i : Nat} {f : Failure}
    (h : (b.answers rs)[i]? = some (.error f)) : b.feed (rs.take (i + 1)) = b.feed (rs.take i) := by
  induction rs generalizing b i with
  | nil => simp [answers] at h
  | cons rows rest ih =>
    cases i with
    | zero => exact call_refused (by simpa [answers] using h)
    | succ i => exact ih (b.call rows).2 (by simpa [answers] using h)

/-- **Bulk storing refines storing one at a time.** From any store and with any checkpoint `c`,
a run of calls answers call by call what storing one at a time answers, and a refused call
leaves the ingester as it was; the ingester counts the `k` accepted subsessions and has
committed `c * ⌊k / c⌋` of them (none when `c ≤ 0`); closing leaves the store that storing one
at a time leaves, and aborting the store after the committed subsessions alone. -/
theorem run_refines_sequential (db : Store) (c : Int) (rs : List Rows) :
    (start db c).answers rs = db.answers rs ∧
    (∀ i f, (db.answers rs)[i]? = some (.error f) →
      (start db c).feed (rs.take (i + 1)) = (start db c).feed (rs.take i)) ∧
    ((start db c).feed rs).total = (db.accepted rs).length ∧
    (((start db c).feed rs).committedCount : Int) =
      (if 0 < c then c * (((db.accepted rs).length : Int) / c) else 0) ∧
    ((start db c).feed rs).close = db.insertEach rs ∧
    ((start db c).feed rs).abort =
      db.insertEach ((db.accepted rs).take ((start db c).feed rs).committedCount) := by
  obtain ⟨hrun, hanswers⟩ := (follows_start db c).feed rs
  rw [List.nil_append] at hrun
  refine ⟨hanswers, fun i f h => feed_refused _ rs (hanswers ▸ h), hrun.total, ?_, hrun.working,
    hrun.committed⟩
  rw [hrun.committedCount_eq, hrun.total]

end Ingester

end RaceArchive.Store
