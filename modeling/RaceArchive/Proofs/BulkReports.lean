import Mathlib
import RaceArchive.Proofs.RunEffects

/-!
# What a bulk run reports

A bulk run reads the cached payloads in order and stores them through one ingester, which
commits every `checkpoint` subsessions. It stops at the first payload it cannot read, flatten or
store: the ingester is then aborted, so the store keeps the committed checkpoints alone, and the
report counts those.

`bulkIngest_error` says where such a run stopped and what it kept: after `k` payloads stored,
the largest multiple of the checkpoint not above `k`. `bulkIngest_reports_stored` joins it with
the successful run (`bulkIngest_ok`): whatever the outcome, the count of stored subsessions the
report gives is the number the run added to the store. `update_reports_stored` adds what an
update notes before it stores: the cached subsessions the store lacks, and the others.

The invariant of the loop is `Ingester.Follows`, the ingester's agreement with storing one
subsession at a time; in a run that stops at the first failure nothing was refused before it.
-/

namespace RaceArchive

namespace Store

open Results

namespace Store

variable {db w : Store} {rs : List Rows}

theorem insertEach_of_insertAll (h : db.insertAll rs = .ok w) :
    db.accepted rs = rs ∧ db.insertEach rs = w := by
  induction rs generalizing db with
  | nil => cases h; exact ⟨rfl, rfl⟩
  | cons rows rest ih =>
    rw [insertAll_cons] at h
    obtain ⟨db₁, h₁, h⟩ := Except.bind_eq_ok.mp h
    obtain ⟨hacc, heach⟩ := ih h
    exact ⟨by rw [accepted_cons_ok h₁, hacc], by rw [insertEach_cons_ok h₁, heach]⟩

theorem length_accepted_le (db : Store) (rs : List Rows) :
    (db.accepted rs).length ≤ rs.length := by
  induction rs generalizing db with
  | nil => exact le_rfl
  | cons rows rest ih =>
    cases h : db.insert rows with
    | ok db' =>
      rw [accepted_cons_ok h, List.length_cons, List.length_cons]
      exact Nat.succ_le_succ (ih db')
    | error f => rw [accepted_cons_error h, List.length_cons]; exact Nat.le_succ_of_le (ih db)

/-- When storing one at a time refuses nothing, storing in order goes through. -/
theorem insertAll_of_accepted (h : db.accepted rs = rs) :
    db.insertAll rs = .ok (db.insertEach rs) := by
  induction rs generalizing db with
  | nil => rfl
  | cons rows rest ih =>
    cases hi : db.insert rows with
    | ok db' =>
      rw [accepted_cons_ok hi, List.cons.injEq] at h
      rw [insertAll_cons, hi, insertEach_cons_ok hi]
      exact ih h.2
    | error f =>
      -- a refusal would leave fewer accepted subsessions than asked for
      have hle := length_accepted_le db rest
      rw [accepted_cons_error hi] at h
      have := congrArg List.length h
      simp only [List.length_cons] at this
      omega

theorem insertAll_of_append {xs ys : List Rows} (h : db.insertAll (xs ++ ys) = .ok w) :
    db.insertAll xs = .ok (db.insertEach xs) := by
  rw [insertAll_append] at h
  obtain ⟨w₁, h₁, -⟩ := Except.bind_eq_ok.mp h
  rw [h₁, (insertEach_of_insertAll h₁).2]

end Store

namespace Ingester

variable {b : Ingester} {rows : Rows} {f : Failure}

theorem insert_error :
    b.insert rows = .error f ↔ b.working.insert rows = .error f := by
  unfold Ingester.insert
  cases b.working.insert rows with
  | error f₀ => simp only [bind, Except.bind, Except.error.injEq]
  | ok w =>
    simp only [bind, Except.bind]
    split <;> simp [pure, Except.pure]

/-- Storing a payload through an ingester fails exactly as storing it in the ingester's working
store does. -/
theorem ingest_error {raw : ByteArray} :
    b.ingest raw = .error f ↔ b.working.ingest raw = .error f := by
  unfold Ingester.ingest Store.ingest ingestWith
  cases flatten raw with
  | error f₀ => simp only [bind, Except.bind, Except.error.injEq]
  | ok rows =>
    simp only [bind, Except.bind]
    cases hw : b.working.insert rows with
    | error f₀ =>
      rw [insert_error.mpr hw]
      simp [throw, throwThe, MonadExceptOf.throw]
    | ok w =>
      obtain ⟨b', hb', -⟩ := insert_ok hw
      rw [hb']
      simp [pure, Except.pure]

theorem call_of_insert {b' : Ingester} (h : b.insert rows = .ok b') :
    b.call rows = (.ok (), b') := by
  simp [Ingester.call, h]

end Ingester

end Store

namespace Sync

open Store Results

variable {files : Files.Tree} {r r' : Report} {m m' : Machine} {f : Failure}

theorem Plan.checkpoint_pos (plan : Plan) : 0 < plan.checkpoint := by
  unfold Plan.checkpoint
  split <;> omega

variable {ctx : Context}

theorem Context.cancelledAfter_eq {n : Nat} (hlive : ∀ k < n, ctx.cancelled k = false)
    (hc : ctx.cancelled n) : ctx.cancelledAfter = some n := by
  unfold Context.cancelled at hlive hc
  cases hk : ctx.cancelledAfter with
  | none => simp [hk] at hc
  | some k =>
    simp only [hk, decide_eq_true_eq] at hc
    -- a cancellation before the `n`-th check would have been found there
    have hnot : ¬ k < n := fun hlt => by simpa [hk] using hlive k hlt
    rw [Nat.le_antisymm hc (Nat.not_lt.mp hnot)]

theorem exec_bulkStep_stop {id : Int64} {b : Ingester} (hc : ctx.cancelled b.total = false)
    (h : Cache.read files id >>= b.ingest = .error f) :
    (bulkStep ctx files id b).exec r m =
      ((.error f, { r with ingested := b.committedCount }), { m with store := b.abort }) := by
  simp only [bulkStep, hc, Bool.false_eq_true, if_false, h]
  rfl

/-- A bulk loop that fails stops at the first check that finds the context cancelled or at the
first cached subsession it cannot store, whichever comes first. Until then it stored the rows of
the payloads before it, in order, and the ingester it stops with follows them. A cancelled run
leaves the report as it was; a failed one counts the committed checkpoints. -/
theorem bulkLoop_error {S : Store} {c : Int} :
    ∀ {ids : List Int64} {b : Ingester} {done : List Rows},
    b.Follows S c done → S.accepted done = done →
    (forIn ids b (bulkStep ctx files)).exec r m = ((.error f, r'), m') →
    ∃ pre id post rs, ∃ b' : Ingester, ids = pre ++ id :: post ∧
      pre.mapM (cachedRows files) = .ok rs ∧
      b'.Follows S c (done ++ rs) ∧ S.accepted (done ++ rs) = done ++ rs ∧
      (∀ k < pre.length, ctx.cancelled (b.total + k) = false) ∧ m' = { m with store := b'.abort } ∧
      ((ctx.cancelled b'.total ∧ f = cancellation ∧ r' = r) ∨
        (ctx.cancelled b'.total = false ∧ (Cache.read files id >>= b'.ingest) = .error f ∧
          r' = { r with ingested := b'.committedCount }))
  | [], b, done, _, _, h => by rw [List.forIn_nil, Job.exec_pure] at h; cases h
  | id :: ids, b, done, hb, hacc, h => by
    rw [List.forIn_cons, Job.exec_bind] at h
    have hnone : ∀ k < ([] : List Int64).length, ctx.cancelled (b.total + k) = false :=
      fun k hk => absurd hk (Nat.not_lt_zero k)
    by_cases hc : ctx.cancelled b.total
    · rw [exec_bulkStep_cancelled hc] at h
      obtain ⟨⟨rfl, rfl⟩, rfl⟩ := h
      exact ⟨[], id, ids, [], b, rfl, rfl, by simpa using hb, by simpa using hacc, hnone, rfl,
        .inl ⟨hc, rfl, rfl⟩⟩
    rw [Bool.not_eq_true] at hc
    cases hstep : Cache.read files id >>= b.ingest with
    | error f₀ =>
      rw [exec_bulkStep_stop hc hstep] at h
      obtain ⟨⟨rfl, rfl⟩, rfl⟩ := h
      exact ⟨[], id, ids, [], b, rfl, rfl, by simpa using hb, by simpa using hacc, hnone, rfl,
        .inr ⟨hc, hstep, rfl⟩⟩
    | ok got =>
      obtain ⟨rows, b₁⟩ := got
      rw [exec_bulkStep_ok hc hstep] at h
      obtain ⟨hrows, hb₁⟩ := read_ingestWith_ok.mp hstep
      have hnext := (hb.call rows).1
      rw [Ingester.call_of_insert hb₁] at hnext
      have htotal := (Ingester.insert_ok_inv hb₁).2
      have hacc₁ : S.accepted (done ++ [rows]) = done ++ [rows] := by
        have hw := (Ingester.insert_ok_inv hb₁).1
        rw [hb.working] at hw
        rw [Store.accepted_concat_ok hw, hacc]
      obtain ⟨pre, id', post, rs, b', rfl, hpre, hb', hacc', hlive, rfl, hout⟩ :=
        bulkLoop_error hnext hacc₁ h
      refine ⟨id :: pre, id', post, rows :: rs, b', rfl, mapM_cons_ok hrows hpre, ?_, ?_, ?_, rfl,
        hout⟩
      · simpa using hb'
      · simpa using hacc'
      · -- the first check is this step's, the others the rest's
        intro k hk
        cases k with
        | zero => simpa using hc
        | succ k =>
          have := hlive k (by simpa using hk)
          rwa [htotal, Nat.add_assoc, Nat.add_comm 1 k] at this

theorem committed_bounds (plan : Plan) (k : Nat) :
    0 ≤ plan.checkpoint * ((k : Int) / plan.checkpoint) ∧
      plan.checkpoint * ((k : Int) / plan.checkpoint) ≤ k := by
  have hc := Plan.checkpoint_pos plan
  exact ⟨Int.mul_nonneg hc.le (Int.ediv_nonneg (Int.natCast_nonneg _) hc.le),
    Int.mul_ediv_self_le (ne_of_gt hc)⟩

/-- **A bulk run that fails left stored what it committed.** It stops at the first check that
finds the context cancelled or at the first cached subsession whose payload cannot be read,
flattened or stored, whichever comes first, after storing the ones before it. The store keeps
the subsessions of the checkpoints committed before that, the largest multiple of the checkpoint
not above the number stored. A failed read or store counts them in the report; a cancellation
leaves the report as it was. -/
theorem bulkIngest_error {plan : Plan} {ids : List Int64}
    (h : (bulkIngest plan ctx ids).exec r m = ((.error f, r'), m')) :
    ∃ pre id post rs w, ids = pre ++ id :: post ∧
      pre.mapM (cachedRows m.files) = .ok rs ∧ m.store.insertAll rs = .ok w ∧
      (∀ k < pre.length, ctx.cancelled k = false) ∧
      m.store.insertAll (rs.take (plan.checkpoint * ((pre.length : Int) / plan.checkpoint)).toNat) =
        .ok m'.store ∧ m' = { m with store := m'.store } ∧
      ((ctx.cancelled pre.length ∧ f = cancellation ∧ r' = r) ∨
        (ctx.cancelled pre.length = false ∧ (Cache.read m.files id >>= w.ingest) = .error f ∧
          r' = { r with ingested := plan.checkpoint * ((pre.length : Int) / plan.checkpoint) })) := by
  rw [bulkIngest_eq] at h
  simp only [Job.exec_bind, Job.exec_getMachine] at h
  split at h
  · simp only [Job.exec_change, Job.exec_note] at h
    cases h
  · next hloop =>
    cases h
    obtain ⟨pre, id, post, rs, b, rfl, hpre, hb, hacc, hlive, rfl, hout⟩ :=
      bulkLoop_error (Ingester.follows_start m.store plan.checkpoint) rfl hloop
    rw [List.nil_append] at hb hacc
    have hlen : rs.length = pre.length := ((mapM_ok_iff.mp hpre).length_eq).symm
    have htotal : b.total = pre.length := by rw [hb.total, hacc, hlen]
    have hcount := hb.committedCount_eq
    rw [if_pos (Plan.checkpoint_pos plan), htotal] at hcount
    have hall := Store.insertAll_of_accepted hacc
    have hstart : (Ingester.start m.store plan.checkpoint).total = 0 := rfl
    refine ⟨pre, id, post, rs, _, rfl, hpre, hall, fun k hk => by simpa [hstart] using hlive k hk, ?_,
      rfl, ?_⟩
    · -- the committed checkpoints are a prefix of the rows stored
      rw [← List.take_append_drop b.committedCount rs] at hall
      rw [← hcount, Int.toNat_natCast]
      show m.store.insertAll (rs.take b.committedCount) = .ok b.committed
      rw [hb.committed, hacc]
      exact Store.insertAll_of_append hall
    · rw [htotal] at hout
      rcases hout with ⟨hc, hf, hr⟩ | ⟨hc, hfail, hr⟩
      · exact .inl ⟨hc, hf, hr⟩
      · refine .inr ⟨hc, ?_, by rw [hr, hcount]⟩
        cases hread : Cache.read m.files id with
        | error e =>
          rw [hread] at hfail
          simp only [bind, Except.bind, Except.error.injEq] at hfail ⊢
          exact hfail
        | ok raw =>
          rw [hread] at hfail
          rw [← hb.working]
          exact Ingester.ingest_error.mp hfail

theorem subsessionCount_take {db w : Store} {rs : List Rows} {n : Nat} (hn : n ≤ rs.length)
    (h : db.insertAll (rs.take n) = .ok w) : w.subsessionCount = db.subsessionCount + n := by
  simp only [Store.subsessionCount, Store.insertAll_subsessions h, List.length_append,
    List.length_map, List.length_take, Nat.min_eq_left hn]

/-- **What an update reports and what it stores.** The cached subsessions the store lacks count
as discovered and the others as skipped. A successful update stores them all and counts them as
ingested. Otherwise it stopped at the first lacking subsession after `pre` that it could not
store, or at the first check that found the context cancelled, with `pre` stored; either way the
store keeps the committed checkpoints, the largest multiple of the checkpoint not above the
length of `pre`. A failed read or store counts those as ingested; a cancellation counts none. -/
theorem update_reports_stored (plan : Plan) (ctx : Context) (m : Machine) :
    let ids := Cache.ids m.files
    let missing := m.store.missing ids
    let c := plan.checkpoint
    let run := (update plan ctx).run m
    run.1.1.discovered = missing.length ∧ run.1.1.skipped = ids.length - missing.length ∧
      (run.1.2 = none → run.1.1.ingested = missing.length ∧
        run.2.store.subsessionCount = m.store.subsessionCount + missing.length) ∧
      ∀ f, run.1.2 = some f → ∃ pre id post rs w, missing = pre ++ id :: post ∧
        pre.mapM (cachedRows m.files) = .ok rs ∧ m.store.insertAll rs = .ok w ∧
        (run.2.store.subsessionCount : Int) = m.store.subsessionCount + c * ((pre.length : Int) / c) ∧
        ((ctx.cancelledAfter = some pre.length ∧ f = cancellation ∧ run.1.1.ingested = 0) ∨
          (ctx.cancelled pre.length = false ∧ (Cache.read m.files id >>= w.ingest) = .error f ∧
            run.1.1.ingested = c * ((pre.length : Int) / c))) := by
  intro ids missing c run
  let noted : Report :=
    { job := "update", target := "", discovered := missing.length,
      skipped := ids.length - missing.length }
  have hrun : run = _ := run_eq "update" "" _ m
  simp only [Job.exec_bind, Job.exec_getMachine, Job.exec_note] at hrun
  rcases hb : (bulkIngest plan ctx missing).exec noted m with ⟨⟨res, r'⟩, m'⟩
  rw [hb] at hrun
  rcases res with f | ⟨⟩
  · obtain ⟨pre, id, post, rs, w, hsplit, hpre, hall, hlive, hkept, -, hout⟩ := bulkIngest_error hb
    have hlen : rs.length = pre.length := ((mapM_ok_iff.mp hpre).length_eq).symm
    obtain ⟨hnn, hle⟩ := committed_bounds plan pre.length
    have hcount : (m'.store.subsessionCount : Int) = m.store.subsessionCount + c * ((pre.length : Int) / c) := by
      rw [subsessionCount_take (by rw [hlen]; omega) hkept, Nat.cast_add, Int.toNat_of_nonneg hnn]
    -- a cancelled run keeps the report noted before it, a failed one counts the checkpoints
    have hr' : r'.discovered = missing.length ∧ r'.skipped = ids.length - missing.length := by
      rcases hout with ⟨-, -, rfl⟩ | ⟨-, -, rfl⟩ <;> exact ⟨rfl, rfl⟩
    simp only [hrun]
    refine ⟨hr'.1, hr'.2, (fun h => nomatch h), fun f' hf => ?_⟩
    cases hf
    refine ⟨pre, id, post, rs, w, hsplit, hpre, hall, hcount, ?_⟩
    rcases hout with ⟨hc, hf, rfl⟩ | ⟨hc, hfail, rfl⟩
    · exact .inl ⟨Context.cancelledAfter_eq hlive hc, hf, rfl⟩
    · exact .inr ⟨hc, hfail, rfl⟩
  · obtain ⟨-, rs, w, hmap, hall, rfl, rfl⟩ := bulkIngest_ok.mp hb
    have hlen : rs.length = missing.length := ((mapM_ok_iff.mp hmap).length_eq).symm
    simp only [hrun]
    refine ⟨rfl, rfl, fun _ => ⟨rfl, ?_⟩, (fun f' hf => nomatch hf)⟩
    split <;>
    · simp only [Store.subsessionCount, Store.insertAll_subsessions hall, List.length_append,
        List.length_map, hlen]

-- stated over any machine holding the archives, so that the kernel never runs the fixture's reads
theorem cancelled_update_of_threeArchives {m : Machine} (hfiles : m.files = threeArchives)
    (hempty : m.store = {}) :
    ∃ r m', (update { lastSeasonYear := 2024, checkpointEvery := 1 } { cancelledAfter := some 1 }).run m =
      ((r, some cancellation), m') ∧ r.ingested = 0 ∧ m'.store.subsessionCount = 1 := by
  let plan : Plan := { lastSeasonYear := 2024, checkpointEvery := 1 }
  let ctx : Context := { cancelledAfter := some 1 }
  obtain ⟨rs, hread, hall⟩ := cachedRows_threeArchives hfiles
  obtain ⟨rows, rest, rfl, hrows, -⟩ := mapM_cons_inv hread
  rw [Store.insertAll_cons] at hall
  obtain ⟨w₁, hw₁, -⟩ := Except.bind_eq_ok.mp hall
  -- the checkpoint is one, so the first race is committed as soon as it is stored
  have hb₁ : (Ingester.start m.store plan.checkpoint).insert rows = .ok ⟨w₁, w₁, 1, 0, 1⟩ := by
    rw [hempty]
    unfold Ingester.insert
    rw [show (Ingester.start {} plan.checkpoint).working = {} from rfl, hw₁]
    rfl
  have hstep := read_ingestWith_ok.mpr ⟨hrows, hb₁⟩
  -- the second check finds one race stored and the context cancelled
  have hbulk : ∀ r, (bulkIngest plan ctx [7, 8, 9]).exec r m =
      ((.error cancellation, r), { m with store := w₁ }) := by
    intro r
    rw [bulkIngest_eq]
    simp only [Job.exec_bind, Job.exec_getMachine]
    rw [List.forIn_cons, Job.exec_bind, exec_bulkStep_ok rfl hstep]
    dsimp only
    rw [List.forIn_cons, Job.exec_bind, exec_bulkStep_cancelled rfl]
    rfl
  have hcount : w₁.subsessionCount = 1 := by
    have hone : ({} : Store).insertAll [rows] = .ok w₁ := by
      rw [Store.insertAll_cons, hw₁]
      rfl
    simp only [Store.subsessionCount, Store.insertAll_subsessions hone, List.length_append,
      List.length_map, List.length_cons, List.length_nil]
  have hids : Cache.ids m.files = [7, 8, 9] := by rw [hfiles]; exact ids_threeArchives
  have hmissing : m.store.missing [7, 8, 9] = [7, 8, 9] := by rw [hempty]; rfl
  unfold update
  rw [run_eq]
  simp only [Job.exec_bind, Job.exec_getMachine, Job.exec_note]
  rw [hids, hmissing, hbulk]
  exact ⟨_, _, rfl, rfl, hcount⟩

/-- An update of the three cached races that commits every subsession, under a context that is
cancelled once one is stored: the run stops with the cancellation and reports none ingested,
though the first race stays committed in the store. -/
theorem cancelled_update_reports_none :
    ∃ r m, (update { lastSeasonYear := 2024, checkpointEvery := 1 } { cancelledAfter := some 1 }).run
        threeCached = ((r, some cancellation), m) ∧ r.ingested = 0 ∧ m.store.subsessionCount = 1 :=
  cancelled_update_of_threeArchives rfl rfl

end Sync

end RaceArchive
