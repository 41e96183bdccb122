import RaceArchive.Proofs.Integrity

/-!
# The contract of ingesting a subsession

Ingesting reads a payload into rows and stores them. On any store that the store's operations
reach, and for any payload that flattens, storing fails in exactly two ways: the subsession is
stored already, or two sessions of the subsession carry one number. Otherwise it succeeds, and
the store gains exactly the rows of the subsession (`Store.Gains`): flattening keeps every key
and reference of the results in order (`Rows.WellFormed`), the upsert of drivers always leaves a
row for each driver, and a linked store holds nothing of a subsession it does not hold
(`Store.Linked.fresh`).

The main statement is `Store.ingest_contract`.
-/

namespace RaceArchive.Store

open Results

/-- The failure of a session of a subsession whose number is taken. -/
def simsessionTaken (id n : Int64) : Failure :=
  writing ("inserting simsession " ++ toString id.toInt ++ "/" ++ toString n.toInt)
    (Refusal.keyTaken ["simsession.subsession_id", "simsession.simsession_number"]).failure

/-- A failure to store subsession `id`, as ingesting reports it. -/
def storing (id : Int64) (f : Failure) : Failure := .within ("storing subsession " ++ toString id.toInt) f

theorem duplicate_isOf (id : Int64) : (storing id (duplicate id)).isOf .duplicateSubsession = true := by
  simp [storing, duplicate, Failure.within, Failure.isOf]

theorem simsessionTaken_isOf (id n : Int64) :
    (storing id (simsessionTaken id n)).isOf .duplicateSubsession = false ∧
      (storing id (simsessionTaken id n)).isOf .database = true := by
  simp [storing, simsessionTaken, writing, Refusal.failure, Failure.within, Failure.isOf]

namespace Store

variable {db acc : Store} {S : Int64}

theorem hasSimsession_iff {a n : Int64} :
    db.hasSimsession a n = true ↔ ∃ s ∈ db.simsessions, s.subsessionId = a ∧ s.number = n := by
  simp [hasSimsession]

theorem Linked.fresh (h : db.Linked) (hS : db.hasSubsession S = false) :
    (∀ s ∈ db.simsessions, s.subsessionId ≠ S) ∧ ∀ r ∈ db.results, r.subsessionId ≠ S := by
  have hsim : ∀ s ∈ db.simsessions, s.subsessionId ≠ S := by
    rintro s hs rfl
    simp [h.simsession s hs] at hS
  refine ⟨hsim, fun r hr hr' => ?_⟩
  obtain ⟨s, hs, hsub, -⟩ := hasSimsession_iff.mp (h.result_simsession r hr)
  exact hsim s hs (hsub.trans hr')

/-! ## The steps of storing a fresh subsession -/

theorem placeSubsession_eq {s : SubsessionRow} (hS : db.hasSubsession s.subsessionId = false)
    (hsession : db.sessions.any (·.sessionId == s.sessionId) = true) :
    db.placeSubsession s = .ok { db with subsessions := db.subsessions ++ [s] } := by
  simp [placeSubsession, addSubsession, hS, hsession, pure, Except.pure]

/-- Sessions of a stored subsession with fresh, distinct numbers are all added, in order. -/
theorem simStep_fold_ok {xs : List SimsessionRow} (hsub : acc.hasSubsession S = true)
    (hall : ∀ x ∈ xs, x.subsessionId = S) (hfresh : ∀ x ∈ xs, acc.hasSimsession S x.number = false)
    (hnodup : (xs.map (·.number)).Nodup) :
    xs.foldlM (simStep S) acc = .ok { acc with simsessions := acc.simsessions ++ xs } := by
  induction xs generalizing acc with
  | nil => simp [pure, Except.pure]
  | cons x rest ih =>
    rw [List.map_cons, List.nodup_cons] at hnodup
    obtain ⟨hx, hrest⟩ := hnodup
    have hstep : simStep S acc x = .ok { acc with simsessions := acc.simsessions ++ [x] } := by
      have hfx := hfresh x List.mem_cons_self
      simp [simStep, addSimsession, hall x List.mem_cons_self, hfx, hsub]
    rw [List.foldlM_cons, hstep]
    -- the next sessions are fresh in the grown store too, their numbers differing from `x`'s
    have := @ih { acc with simsessions := acc.simsessions ++ [x] } hsub
      (fun y hy => hall y (List.mem_cons_of_mem _ hy)) (fun y hy => ?_) hrest
    · simpa [bind, Except.bind] using this
    · have hne : x.number ≠ y.number := fun e => hx (e ▸ List.mem_map_of_mem hy)
      simpa [hasSimsession, hne] using hfresh y (List.mem_cons_of_mem _ hy)

/-- Sessions of a stored subsession whose numbers repeat, counting the numbers already stored
for it: adding them fails at a number held twice. -/
theorem simStep_fold_taken {xs : List SimsessionRow} {seen : List Int64}
    (hsub : acc.hasSubsession S = true) (hall : ∀ x ∈ xs, x.subsessionId = S)
    (hseen : ∀ n, acc.hasSimsession S n = true ↔ n ∈ seen) (hseenNodup : seen.Nodup)
    (hdup : ¬(seen ++ xs.map (·.number)).Nodup) :
    ∃ n, 2 ≤ (seen ++ xs.map (·.number)).count n ∧
      xs.foldlM (simStep S) acc = .error (simsessionTaken S n) := by
  induction xs generalizing acc seen with
  | nil => simp [hseenNodup] at hdup
  | cons x rest ih =>
    have hx := hall x List.mem_cons_self
    by_cases htaken : x.number ∈ seen
    · -- the first session whose number is held already
      refine ⟨x.number, ?_, ?_⟩
      · have : 1 ≤ seen.count x.number := List.count_pos_iff.mpr htaken
        simp only [List.map_cons, List.count_append, List.count_cons_self]
        omega
      · have hheld : acc.hasSimsession S x.number = true := (hseen _).mpr htaken
        simp [List.foldlM_cons, simStep, addSimsession, hx, hheld, bind,
          Except.bind, simsessionTaken]
    · have hstep : simStep S acc x = .ok { acc with simsessions := acc.simsessions ++ [x] } := by
        have hfx : acc.hasSimsession S x.number = false := by
          simpa using mt (hseen x.number).mp htaken
        simp [simStep, addSimsession, hx, hfx, hsub]
      have hseen' : ∀ n, ({ acc with simsessions := acc.simsessions ++ [x] } : Store).hasSimsession
          S n = true ↔ n ∈ seen ++ [x.number] := by
        intro n
        rw [List.mem_append, List.mem_singleton, ← hseen n]
        simp only [hasSimsession, List.any_append, List.any_cons, List.any_nil, Bool.or_false,
          Bool.or_eq_true, hx, beq_self_eq_true, Bool.true_and, beq_iff_eq]
        exact or_congr Iff.rfl eq_comm
      have hnodup' : (seen ++ [x.number]).Nodup := by
        rw [List.nodup_append]
        refine ⟨hseenNodup, by simp, ?_⟩
        intro a ha b hb hab
        rw [List.mem_singleton] at hb
        exact htaken (hb ▸ hab ▸ ha)
      obtain ⟨n, hcount, hfold⟩ := @ih { acc with simsessions := acc.simsessions ++ [x] } _
        hsub (fun y hy => hall y (List.mem_cons_of_mem _ hy)) hseen' hnodup'
        (by simpa using hdup)
      refine ⟨n, by simpa using hcount, ?_⟩
      rw [List.foldlM_cons, hstep]
      simpa [bind, Except.bind] using hfold

theorem addDriver_new {d : DriverRow} (hd : acc.drivers.any (·.custId == d.custId) = false) :
    ∃ name, (name = none ∨ name = some d.displayName) ∧
      acc.addDriver d = { acc with drivers := acc.drivers ++ [⟨d.custId, name⟩] } := by
  unfold addDriver
  rw [if_neg (by simp [hd])]
  split
  · exact ⟨none, .inl rfl, rfl⟩
  · exact ⟨some d.displayName, .inr rfl, rfl⟩

/-- The driver upsert over drivers listed once each: the stored drivers stay, and each listed
driver not stored yet is added after them, in order, with its display name or without one. -/
theorem addDrivers_spec (ds : List DriverRow) (hnodup : (ds.map (·.custId)).Nodup) (acc : Store) :
    ∃ new, ds.foldl addDriver acc = { acc with drivers := acc.drivers ++ new } ∧
      new.map (·.custId) = (ds.map (·.custId)).filter (fun c => !acc.drivers.any (·.custId == c)) ∧
      ∀ x ∈ new, x.name = none ∨ ∃ d ∈ ds, d.custId = x.custId ∧ x.name = some d.displayName := by
  induction ds generalizing acc with
  | nil => exact ⟨[], by simp, rfl, by simp⟩
  | cons d rest ih =>
    rw [List.map_cons, List.nodup_cons] at hnodup
    obtain ⟨hd, hrest⟩ := hnodup
    cases hknown : acc.drivers.any (·.custId == d.custId) with
    | true =>
      have hsame : acc.addDriver d = acc := by simp [addDriver, hknown]
      obtain ⟨new, hfold, hmap, hnames⟩ := ih hrest acc
      refine ⟨new, by rw [List.foldl_cons, hsame, hfold], ?_, ?_⟩
      · rw [hmap, List.map_cons, List.filter_cons]; simp [hknown]
      · intro x hx
        rcases hnames x hx with hnone | ⟨d', hd', hid, hname⟩
        · exact .inl hnone
        · exact .inr ⟨d', List.mem_cons_of_mem _ hd', hid, hname⟩
    | false =>
      obtain ⟨name, hname, hadd⟩ := addDriver_new hknown
      obtain ⟨new, hfold, hmap, hnames⟩ := ih hrest { acc with drivers := acc.drivers ++ [⟨d.custId, name⟩] }
      refine ⟨⟨d.custId, name⟩ :: new, ?_, ?_, ?_⟩
      · rw [List.foldl_cons, hadd, hfold]; simp
      · -- the drivers after `d` differ from it, so `d`'s row changes nothing of their filter
        simp only [List.map_cons]
        rw [hmap, List.filter_cons, if_pos (by simp [hknown])]
        congr 1
        apply List.filter_congr
        intro c hc
        have hne : d.custId ≠ c := fun e => hd (e ▸ hc)
        simp [List.any_append, hne]
      · intro x hx
        rcases List.mem_cons.mp hx with rfl | hx
        · rcases hname with hnone | hsome
          · exact .inl hnone
          · exact .inr ⟨d, List.mem_cons_self, rfl, hsome⟩
        · rcases hnames x hx with hnone | ⟨d', hd', hid, hname'⟩
          · exact .inl hnone
          · exact .inr ⟨d', List.mem_cons_of_mem _ hd', hid, hname'⟩

/-- Results whose keys are free, with their drivers and sessions stored, are all added, in
order. -/
theorem resultStep_fold_ok {xs : List ResultRow}
    (hfresh : ∀ r ∈ acc.results, ∀ x ∈ xs, ¬(r.slot = x.slot ∧ r.subsessionId = x.subsessionId))
    (hslots : (xs.map ResultRow.slot).Nodup)
    (hdriver : ∀ x ∈ xs, acc.drivers.any (·.custId == x.custId) = true)
    (hsim : ∀ x ∈ xs, acc.hasSimsession x.subsessionId x.simsessionNumber = true) :
    xs.foldlM (resultStep S) acc = .ok { acc with results := acc.results ++ xs } := by
  induction xs generalizing acc with
  | nil => simp [pure, Except.pure]
  | cons x rest ih =>
    rw [List.map_cons, List.nodup_cons] at hslots
    obtain ⟨hx, hrest⟩ := hslots
    have hkey : (acc.results.any fun y => y.custId == x.custId && y.teamId == x.teamId &&
        y.subsessionId == x.subsessionId && y.simsessionNumber == x.simsessionNumber) = false := by
      rw [List.any_eq_false]
      intro y hy hmatch
      simp only [Bool.and_eq_true, beq_iff_eq] at hmatch
      obtain ⟨⟨⟨hc, ht⟩, hsub⟩, hn⟩ := hmatch
      exact hfresh y hy x List.mem_cons_self ⟨by simp [ResultRow.slot, hc, ht, hn], hsub⟩
    have hstep : resultStep S acc x = .ok { acc with results := acc.results ++ [x] } := by
      simp [resultStep, addResult, hkey, hdriver x List.mem_cons_self, hsim x List.mem_cons_self]
    rw [List.foldlM_cons, hstep]
    -- `x` now stands among the stored results; the later ones sit elsewhere
    have hfresh' : ∀ r ∈ acc.results ++ [x], ∀ y ∈ rest,
        ¬(r.slot = y.slot ∧ r.subsessionId = y.subsessionId) := by
      intro r hr y hy
      rcases List.mem_append.mp hr with hr | hr
      · exact hfresh r hr y (List.mem_cons_of_mem _ hy)
      · rw [List.mem_singleton] at hr
        subst hr
        exact fun hs => hx (hs.1 ▸ List.mem_map_of_mem hy)
    have := @ih { acc with results := acc.results ++ [x] } hfresh' hrest
      (fun y hy => hdriver y (List.mem_cons_of_mem _ hy)) (fun y hy => hsim y (List.mem_cons_of_mem _ hy))
    simpa [bind, Except.bind] using this

/-! ## Storing a subsession -/

/-- What storing the rows of a subsession adds to a store: the session unless its id is taken (a
stored session keeps its series), the subsession, its sessions and its results after the rows
already there, and a row for each listed driver not stored yet, in the order listed, with its
display name or without one. The reference tables stay. -/
structure Gains (db db' : Store) (rows : Rows) : Prop where
  sessions : db'.sessions =
    if db.sessions.any (·.sessionId == rows.session.sessionId) then db.sessions
    else db.sessions ++ [rows.session]
  subsessions : db'.subsessions = db.subsessions ++ [rows.subsession]
  simsessions : db'.simsessions = db.simsessions ++ rows.simsessions.toList
  drivers : ∃ new, db'.drivers = db.drivers ++ new ∧
    new.map (·.custId) =
      (rows.drivers.toList.map (·.custId)).filter (fun c => !db.drivers.any (·.custId == c)) ∧
    ∀ x ∈ new, x.name = none ∨
      ∃ d ∈ rows.drivers.toList, d.custId = x.custId ∧ x.name = some d.displayName
  results : db'.results = db.results ++ rows.results.toList
  tracks : db'.tracks = db.tracks
  trackConfigs : db'.trackConfigs = db.trackConfigs
  cars : db'.cars = db.cars

theorem addSession_eq (db : Store) (s : SessionRow) :
    db.addSession s =
      { db with
        sessions :=
          if db.sessions.any (·.sessionId == s.sessionId) then db.sessions else db.sessions ++ [s] } := by
  unfold addSession
  split <;> rfl

/-- The store once the session, unless its id is taken, and the subsession of `rows` are in. -/
def placed (db : Store) (rows : Rows) : Store :=
  { db with
    sessions := if db.sessions.any (·.sessionId == rows.session.sessionId) then db.sessions
      else db.sessions ++ [rows.session]
    subsessions := db.subsessions ++ [rows.subsession] }

/-- Storing a subsession that is not stored: its session and the subsession go in at once, then
the sessions of the subsession, the drivers and the results. -/
theorem insert_fresh {rows : Rows} (hw : rows.WellFormed)
    (hS : db.hasSubsession rows.subsession.subsessionId = false) :
    db.insert rows =
      rows.simsessions.toList.foldlM (simStep rows.subsession.subsessionId) (db.placed rows) >>=
        fun db₂ => rows.results.toList.foldlM (resultStep rows.subsession.subsessionId)
          (rows.drivers.toList.foldl addDriver db₂) := by
  have hsession : (db.addSession rows.session).sessions.any
      (·.sessionId == rows.subsession.sessionId) = true := by
    rw [← hw.session, addSession_eq]
    split
    · assumption
    · simp
  have hfree : (db.addSession rows.session).hasSubsession rows.subsession.subsessionId = false := by
    simpa [addSession_eq, hasSubsession] using hS
  rw [insert_eq, if_neg (by simp [hS]), placeSubsession_eq hfree hsession]
  simp only [addSession_eq, placed]
  rfl

/-- A fresh subsession whose sessions carry distinct numbers is stored, and the store gains
exactly its rows. -/
theorem insert_fresh_ok {rows : Rows} (h : db.Linked) (hw : rows.WellFormed)
    (hS : db.hasSubsession rows.subsession.subsessionId = false)
    (hn : (rows.simsessions.toList.map (·.number)).Nodup) :
    ∃ db', db.insert rows = .ok db' ∧ Gains db db' rows := by
  obtain ⟨hsimFresh, hresFresh⟩ := h.fresh hS
  rw [insert_fresh hw hS, simStep_fold_ok (by simp [placed, hasSubsession])
    hw.simsessions (fun x _ => by
      simpa [placed, hasSimsession] using
        fun s hs hsub => absurd hsub (hsimFresh s hs)) hn]
  obtain ⟨new, hfold, hmap, hnames⟩ := addDrivers_spec rows.drivers.toList hw.drivers
    { db.placed rows with simsessions := (db.placed rows).simsessions ++ rows.simsessions.toList }
  simp only [bind, Except.bind]
  rw [hfold, resultStep_fold_ok]
  · exact ⟨_, rfl, rfl, rfl, rfl, ⟨new, rfl, hmap, hnames⟩, rfl, rfl, rfl, rfl⟩
  · -- stored results belong to other subsessions
    intro r hr x hx hsame
    exact hresFresh r hr (hsame.2.trans (hw.result_subsession x hx))
  · exact hw.slots
  · -- each result's driver is listed, so it was stored before or is among the new rows
    intro x hx
    dsimp only [placed] at hmap ⊢
    have hlisted := hw.result_driver x hx
    cases hknown : db.drivers.any (·.custId == x.custId) with
    | true => simp only [List.any_append, hknown, Bool.true_or]
    | false =>
      have : x.custId ∈ new.map (·.custId) := by
        rw [hmap, List.mem_filter]
        exact ⟨hlisted, by simp [hknown]⟩
      obtain ⟨y, hy, hyid⟩ := List.mem_map.mp this
      simp only [List.any_append, Bool.or_eq_true, List.any_eq_true, beq_iff_eq]
      exact .inr ⟨y, hy, hyid⟩
  · -- each result's session is among the subsession's sessions
    intro x hx
    obtain ⟨s, hs, hnum⟩ := List.mem_map.mp (hw.result_simsession x hx)
    simp only [hasSimsession, List.any_append, Bool.or_eq_true, List.any_eq_true, Bool.and_eq_true,
      beq_iff_eq]
    exact .inr ⟨s, hs, (hw.simsessions s hs).trans (hw.result_subsession x hx).symm, hnum⟩

/-- A fresh subsession two of whose sessions carry one number is refused at a repeated number. -/
theorem insert_fresh_taken {rows : Rows} (h : db.Linked) (hw : rows.WellFormed)
    (hS : db.hasSubsession rows.subsession.subsessionId = false)
    (hn : ¬(rows.simsessions.toList.map (·.number)).Nodup) :
    ∃ n, 2 ≤ (rows.simsessions.toList.map (·.number)).count n ∧
      db.insert rows = .error (simsessionTaken rows.subsession.subsessionId n) := by
  obtain ⟨hsimFresh, -⟩ := h.fresh hS
  -- no session of the subsession is stored yet, so the numbers held start empty
  obtain ⟨n, hcount, hfold⟩ := @simStep_fold_taken (db.placed rows) rows.subsession.subsessionId
    rows.simsessions.toList [] (by simp [placed, hasSubsession]) hw.simsessions
    (fun m => by
      simpa [placed, hasSimsession] using
        fun s hs hsub => absurd hsub (hsimFresh s hs))
    List.nodup_nil (by simpa using hn)
  refine ⟨n, by simpa using hcount, ?_⟩
  rw [insert_fresh hw hS, hfold]
  rfl

/-! ## Ingesting a payload -/

theorem ingest_of_flatten {raw : ByteArray} {rows : Rows} (hf : flatten raw = .ok rows) :
    db.ingest raw = match db.insert rows with
      | .ok db' => .ok (rows, db')
      | .error f => .error (storing rows.subsession.subsessionId f) := by
  simp only [Store.ingest, ingestWith, hf, bind, Except.bind]
  cases db.insert rows <;> rfl

theorem ingest_ok {raw : ByteArray} {rows : Rows} {db' : Store} (h : db.ingest raw = .ok (rows, db')) :
    flatten raw = .ok rows ∧ db.insert rows = .ok db' := by
  cases hf : flatten raw with
  | error e => simp [Store.ingest, ingestWith, hf, bind, Except.bind] at h
  | ok rows' =>
    rw [ingest_of_flatten hf] at h
    split at h
    · next db'' hi => cases h; exact ⟨rfl, hi⟩
    · cases h

/-- What ingesting a payload does to a store: a payload that does not flatten is refused as
flattening refuses it. One that flattens is refused as a duplicate when its subsession is stored;
otherwise it is refused at the key of its sessions when two of them carry one number, at a number
held twice; otherwise it is stored and the store gains exactly its rows. -/
def IngestContract (db : Store) (raw : ByteArray) : Prop :=
  (∀ e, flatten raw = .error e → db.ingest raw = .error e) ∧
  ∀ rows, flatten raw = .ok rows →
    let id := rows.subsession.subsessionId
    let numbers := rows.simsessions.toList.map (·.number)
    (db.hasSubsession id = true → db.ingest raw = .error (storing id (duplicate id))) ∧
    (db.hasSubsession id = false → numbers.Nodup →
      ∃ db', db.ingest raw = .ok (rows, db') ∧ Gains db db' rows) ∧
    (db.hasSubsession id = false → ¬numbers.Nodup →
      ∃ n, 2 ≤ numbers.count n ∧ db.ingest raw = .error (storing id (simsessionTaken id n)))

/-- **The ingest contract.** On every store that the store's operations reach, ingesting any
payload fails only as flattening fails, as a duplicate of a stored subsession, or at a session
number held twice; it never fails on a key or a reference of the results, the drivers or the
subsession, and when it succeeds the store gains exactly the payload's rows. -/
theorem ingest_contract {db : Store} (hdb : db.Reachable) (raw : ByteArray) : db.IngestContract raw := by
  refine ⟨fun e hf => by simp [Store.ingest, ingestWith, hf, bind, Except.bind], fun rows hf => ?_⟩
  have hw := flatten_wellFormed hf
  have h := hdb.linked
  refine ⟨fun hS => ?_, fun hS hn => ?_, fun hS hn => ?_⟩
  · rw [ingest_of_flatten hf, insert_eq, if_pos hS]
  · obtain ⟨db', hi, hgains⟩ := insert_fresh_ok h hw hS hn
    exact ⟨db', by rw [ingest_of_flatten hf, hi], hgains⟩
  · obtain ⟨n, hcount, hi⟩ := insert_fresh_taken h hw hS hn
    exact ⟨n, hcount, by rw [ingest_of_flatten hf, hi]⟩

/-- Stores payloads one after another, each into the store the one before left. -/
def ingestEach (db : Store) (raws : List ByteArray) : Except Failure Store :=
  raws.foldlM (fun s raw => Prod.snd <$> s.ingest raw) db

theorem Reachable.ingestEach : ∀ {db : Store} {raws : List ByteArray} {db' : Store},
    db.Reachable → db.ingestEach raws = .ok db' → db'.Reachable
  | _, [], _, h, he => by cases he; exact h
  | db, raw :: raws, _, h, he => by
    rw [Store.ingestEach, List.foldlM_cons] at he
    cases hi : db.ingest raw with
    | error f => rw [hi] at he; cases he
    | ok got => rw [hi] at he; exact Reachable.ingestEach (.insert h (ingest_ok hi).2) he

/-- A race of subsession 7, in session 1 of the Skip Barber series on 10 January 2024, won by
driver 11, Ann Apex. -/
def oneRace : ByteArray :=
  ("\x7b\"subsession_id\":7,\"session_id\":1,\"series_name\":\"Skip Barber\"," ++
    "\"start_time\":\"2024-01-10T10:00:00Z\",\"license_category_id\":2," ++
    "\"track\":\x7b\"track_id\":47\x7d,\"session_results\":[\x7b\"simsession_number\":0," ++
    "\"simsession_type\":6,\"results\":[\x7b\"cust_id\":11,\"display_name\":\"Ann Apex\"\x7d]\x7d]\x7d").toUTF8

/-- A race of subsession 8, in session 2, run a week before `oneRace`: Ann Apex rated 1480 and
driver 12, Bo Brake, rated 1320. -/
def rematch : ByteArray :=
  ("\x7b\"subsession_id\":8,\"session_id\":2,\"series_name\":\"Skip Barber\"," ++
    "\"start_time\":\"2024-01-03T10:00:00Z\",\"license_category_id\":2," ++
    "\"track\":\x7b\"track_id\":47\x7d,\"session_results\":[\x7b\"simsession_number\":0," ++
    "\"simsession_type\":6,\"results\":[\x7b\"cust_id\":11,\"display_name\":\"Ann Apex\"," ++
    "\"newi_rating\":1480\x7d,\x7b\"cust_id\":12,\"display_name\":\"Bo Brake\",\"newi_rating\":1320\x7d]\x7d]\x7d").toUTF8

/-- A race of subsession 9, in session 1 under the Mazda Cup series, won by driver 13, who is also
named Ann Apex. -/
def namesake : ByteArray :=
  ("\x7b\"subsession_id\":9,\"session_id\":1,\"series_name\":\"Mazda Cup\"," ++
    "\"start_time\":\"2024-01-10T10:00:00Z\",\"license_category_id\":2," ++
    "\"track\":\x7b\"track_id\":47\x7d,\"session_results\":[\x7b\"simsession_number\":0," ++
    "\"simsession_type\":6,\"results\":[\x7b\"cust_id\":13,\"display_name\":\"Ann Apex\"," ++
    "\"newi_rating\":1700\x7d]\x7d]\x7d").toUTF8

/-- The store that storing `oneRace`, `rematch` and `namesake` in that order reaches: the earlier
race `rematch` is stored after `oneRace`, driver 13 finds the name Ann Apex held by driver 11, and
session 1 keeps the series of the race stored first. -/
@[irreducible] def threeRaces : Store :=
  match ({} : Store).ingestEach [oneRace, rematch, namesake] with
  | .ok db => db
  | .error _ => {}

theorem ingestEach_threeRaces :
    ({} : Store).ingestEach [oneRace, rematch, namesake] = .ok threeRaces ∧
      threeRaces.subsessions.map (·.subsessionId) = [7, 8, 9] := by
  have hok : (({} : Store).ingestEach [oneRace, rematch, namesake]).toOption.map
      (fun db => db.subsessions.map (·.subsessionId)) = some [7, 8, 9] := by decide +kernel
  unfold threeRaces
  split
  · next db hdb =>
    rw [hdb] at hok
    exact ⟨hdb, Option.some.inj hok⟩
  · next f hf => rw [hf] at hok; cases hok

theorem threeRaces_reachable : Reachable threeRaces := Reachable.empty.ingestEach ingestEach_threeRaces.1

/-- The contract at a store of three races, for every payload: ingesting `oneRace` again takes
the branch of a stored subsession. -/
theorem ingest_contract_threeRaces : Reachable threeRaces ∧ ∀ raw, IngestContract threeRaces raw :=
  ⟨threeRaces_reachable, ingest_contract threeRaces_reachable⟩

end Store

end RaceArchive.Store
