import Mathlib
import RaceArchive.Proofs.Retries
import RaceArchive.Proofs.RunEffects

/-!
# Chunked searches

A search answers with a pointer document whose `data.chunk_info` names a base URL and a list of
chunk files; the items of the search are the arrays of the chunk files joined in the order they are
listed. `SearchesChunked` writes down how such a search goes, from the wire before it to its result
and the wire after it: one request for the pointer document; a failure there, or a pointer that
cannot be read, ends the search; an empty base URL means no results; otherwise the chunks are
read one after another (`ReadsChunks`): each at the base URL followed by its name, each read as a
list (a `null` list holds no items), the first fetch that fails or body that is no list ending the
reading with nothing more fetched and no items returned.

The main statement is `Remote.chunked_search_law`: every chunked search goes as `SearchesChunked`
says, whatever the server answers, and a series search finds exactly the subsession ids of the
items of its chunked search, in order. Its loop lemma is `Remote.readsChunks_foldlM`: a fold whose
step passes a failure on untouched and otherwise reads one more chunk follows `ReadsChunks`.
-/

namespace RaceArchive

namespace Remote

open Json

/-- How the chunk files `names` of a search answer with base URL `base` are read, from the wire
before to the items and the wire after: each name in turn is fetched at `base` followed by the
name and its body read as a list; the first fetch that fails, or body that is no list, ends the
reading with that failure and fetches nothing more; otherwise the items of all chunks are joined
in order. -/
inductive ReadsChunks (path base : String) :
    List String → Wire → Except Failure (Array ByteArray) → Wire → Prop
  | done (w : Wire) : ReadsChunks path base [] w (.ok #[]) w
  | unreachable {name : String} {names : List String} {w w' : Wire} {f : Failure}
      (fetched : (getDocument (base ++ name) []).run w = (.error f, w')) :
      ReadsChunks path base (name :: names) w
        (.error (.within ("fetching chunk " ++ name ++ " of " ++ path) f)) w'
  | malformed {name : String} {names : List String} {w w' : Wire} {chunk : ByteArray}
      {e : DecodeError}
      (fetched : (getDocument (base ++ name) []).run w = (.ok chunk, w'))
      (unread : decode rawList none chunk = .error e) :
      ReadsChunks path base (name :: names) w (.error (responseFailure (base ++ name) (.ofDecode e))) w'
  | chunk {name : String} {names : List String} {w w₁ w₂ : Wire} {chunk : ByteArray}
      {more : Option (Array ByteArray)} {r : Except Failure (Array ByteArray)}
      (fetched : (getDocument (base ++ name) []).run w = (.ok chunk, w₁))
      (read : decode rawList none chunk = .ok more)
      (rest : ReadsChunks path base names w₁ r w₂) :
      ReadsChunks path base (name :: names) w (r.map (more.getD #[] ++ ·)) w₂

/-- How a chunked search of `path` with `params` goes, from the wire before to its items and the
wire after. -/
inductive SearchesChunked (path : String) (params : List (String × List String)) (w : Wire) :
    Except Failure (Array ByteArray) → Wire → Prop
  | unreachable {w' : Wire} {f : Failure}
      (fetched : (getDocument (w.session.settings.baseUrl ++ path) params).run w = (.error f, w')) :
      SearchesChunked path params w (.error f) w'
  | malformed {w' : Wire} {body : ByteArray} {e : DecodeError}
      (fetched : (getDocument (w.session.settings.baseUrl ++ path) params).run w = (.ok body, w'))
      (unread : decode ChunkInfo.reader {} body = .error e) :
      SearchesChunked path params w (.error (responseFailure path (.ofDecode e))) w'
  | noResults {w' : Wire} {body : ByteArray} {info : ChunkInfo}
      (fetched : (getDocument (w.session.settings.baseUrl ++ path) params).run w = (.ok body, w'))
      (read : decode ChunkInfo.reader {} body = .ok info) (empty : info.baseDownloadUrl = "") :
      SearchesChunked path params w (.ok #[]) w'
  | chunks {w₁ w₂ : Wire} {body : ByteArray} {info : ChunkInfo} {r : Except Failure (Array ByteArray)}
      (fetched : (getDocument (w.session.settings.baseUrl ++ path) params).run w = (.ok body, w₁))
      (read : decode ChunkInfo.reader {} body = .ok info) (listed : info.baseDownloadUrl ≠ "")
      (chunks : ReadsChunks path info.baseDownloadUrl (info.chunkFileNames.getD #[]).toList w₁ r w₂) :
      SearchesChunked path params w r w₂

/-! ## The loop over the chunk files -/

section Loop

variable {path base : String}
  {step : Except Failure (Array ByteArray) → String → Link (Except Failure (Array ByteArray))}

theorem foldlM_failed (hstop : ∀ f name w, (step (.error f) name).run w = (.error f, w))
    (f : Failure) : ∀ (names : List String) (w : Wire), (names.foldlM step (.error f)).run w = (.error f, w)
  | [], _ => rfl
  | name :: names, w => by
    rw [List.foldlM_cons, Link.run_bind, hstop]
    exact foldlM_failed hstop f names w

/-- A fold whose step passes a failure on untouched, and otherwise fetches and reads one more chunk
and adds its items, reads the chunks as `ReadsChunks` says, after the items it started with. -/
theorem readsChunks_foldlM (hstop : ∀ f name w, (step (.error f) name).run w = (.error f, w))
    (hfail : ∀ items name w w' f, (getDocument (base ++ name) []).run w = (.error f, w') →
      (step (.ok items) name).run w = (.error (.within ("fetching chunk " ++ name ++ " of " ++ path) f), w'))
    (hbad : ∀ items name w w' chunk e, (getDocument (base ++ name) []).run w = (.ok chunk, w') →
      decode rawList none chunk = .error e →
      (step (.ok items) name).run w = (.error (responseFailure (base ++ name) (.ofDecode e)), w'))
    (hgood : ∀ items name w w' chunk more, (getDocument (base ++ name) []).run w = (.ok chunk, w') →
      decode rawList none chunk = .ok more →
      (step (.ok items) name).run w = (.ok (items ++ more.getD #[]), w')) :
    ∀ (names : List String) (items : Array ByteArray) (w : Wire), ∃ r,
      ReadsChunks path base names w r ((names.foldlM step (.ok items)).run w).2 ∧
        ((names.foldlM step (.ok items)).run w).1 = r.map (items ++ ·)
  | [], items, w => ⟨.ok #[], .done w, congrArg Except.ok (Array.append_empty : items ++ #[] = items).symm⟩
  | name :: names, items, w => by
    rw [List.foldlM_cons, Link.run_bind]
    -- the chunk's fetch and reading decide whether the reading goes on
    rcases hdoc : (getDocument (base ++ name) []).run w with ⟨_ | chunk, w'⟩
    · next f =>
      rw [hfail items name w w' f hdoc, foldlM_failed hstop]
      exact ⟨_, .unreachable hdoc, rfl⟩
    · cases hread : decode rawList none chunk with
      | error e =>
        rw [hbad items name w w' chunk e hdoc hread, foldlM_failed hstop]
        exact ⟨_, .malformed hdoc hread, rfl⟩
      | ok more =>
        rw [hgood items name w w' chunk more hdoc hread]
        obtain ⟨r, hr, heq⟩ := readsChunks_foldlM hstop hfail hbad hgood names (items ++ more.getD #[]) w'
        refine ⟨_, .chunk hdoc hread hr, ?_⟩
        rw [heq]
        cases r with
        | error f => rfl
        | ok rest => exact congrArg Except.ok Array.append_assoc

end Loop

/-! ## A whole search -/

/-- A listed search ends as its chunk reading does, started from no items. -/
theorem SearchesChunked.of_reads {path : String} {params : List (String × List String)}
    {w w₁ : Wire} {body : ByteArray} {info : ChunkInfo} {x : Except Failure (Array ByteArray) × Wire}
    (fetched : (getDocument (w.session.settings.baseUrl ++ path) params).run w = (.ok body, w₁))
    (read : decode ChunkInfo.reader {} body = .ok info) (listed : info.baseDownloadUrl ≠ "")
    (reads : ∃ r, ReadsChunks path info.baseDownloadUrl (info.chunkFileNames.getD #[]).toList w₁ r x.2 ∧
      x.1 = r.map (#[] ++ ·)) :
    SearchesChunked path params w x.1 x.2 := by
  obtain ⟨r, hr, heq⟩ := reads
  have hid : r.map (#[] ++ ·) = r := by
    cases r with
    | error f => rfl
    | ok items => exact congrArg Except.ok Array.empty_append
  rw [heq, hid]
  exact .chunks fetched read listed hr

/-- A chunked search goes as `SearchesChunked` says. -/
theorem getChunked_searches (path : String) (params : List (String × List String)) (w : Wire) :
    SearchesChunked path params w ((getChunked path params).run w).1 ((getChunked path params).run w).2 := by
  unfold getChunked
  rw [Link.run_get_bind]
  dsimp only
  rw [Link.run_bind]
  rcases hdoc : (getDocument (w.session.settings.baseUrl ++ path) params).run w with ⟨_ | body, w₁⟩
  · exact .unreachable hdoc
  · dsimp only
    cases hinfo : decode ChunkInfo.reader {} body with
    | error e => exact .malformed hdoc hinfo
    | ok info =>
      dsimp only
      by_cases hempty : info.baseDownloadUrl = ""
      · rw [if_pos (by simp [hempty])]
        exact .noResults hdoc hinfo hempty
      · rw [if_neg (by simpa using hempty)]
        apply SearchesChunked.of_reads hdoc hinfo hempty
        refine readsChunks_foldlM ?_ ?_ ?_ ?_ _ #[] w₁
        · intro f name w
          rfl
        · intro items name w w' f hdoc
          dsimp only
          rw [Link.run_bind, hdoc]
          rfl
        · intro items name w w' chunk e hdoc hread
          dsimp only
          rw [Link.run_bind, hdoc]
          dsimp only
          rw [hread]
          rfl
        · intro items name w w' chunk more hdoc hread
          dsimp only
          rw [Link.run_bind, hdoc]
          dsimp only
          rw [hread]
          rfl

/-! ## Series searches -/

section Hits

variable {α β ε ε' : Type}

theorem array_mapM_ok_iff {f : α → Except ε β} {as : Array α} {bs : Array β} :
    as.mapM f = .ok bs ↔ List.Forall₂ (fun a b => f a = .ok b) as.toList bs.toList := by
  rw [Array.mapM_eq_mapM_toList, ← mapM_ok_iff]
  cases as.toList.mapM f with
  | error e => exact ⟨fun h => (nomatch h), fun h => (nomatch h)⟩
  | ok l =>
    show Except.ok l.toArray = .ok bs ↔ _
    simp only [Except.ok.injEq]
    exact ⟨fun h => h ▸ rfl, fun h => h ▸ Array.toArray_toList⟩

theorem mapError_eq_ok {g : ε → ε'} {e : Except ε α} {a : α} : e.mapError g = .ok a ↔ e = .ok a := by
  cases e <;> simp

end Hits

/-- A series search finds exactly the subsession ids of the items of its chunked search, in
order: it succeeds when that search does and every item reads as a hit. -/
theorem searchSeries_ok_iff (q : SeriesQuery) (w w' : Wire) (ids : Array Int64) :
    (searchSeries q).run w = (.ok ids, w') ↔
      ∃ items, (getChunked "/data/results/search_series" q.params).run w = (.ok items, w') ∧
        List.Forall₂ (fun item id => decode subsessionHit 0 item = .ok id) items.toList ids.toList := by
  unfold searchSeries
  dsimp only
  rw [Link.run_bind]
  rcases hch : (getChunked "/data/results/search_series" q.params).run w with ⟨_ | items, w₁⟩
  · -- a failed chunked search fails the series search
    constructor
    · intro h
      cases h
    · rintro ⟨_, h, _⟩
      cases h
  · show (items.mapM _, w₁) = (Except.ok ids, w') ↔ _
    constructor
    · intro h
      obtain ⟨hmap, rfl⟩ := Prod.mk.inj h
      exact ⟨items, rfl, (array_mapM_ok_iff.mp hmap).imp fun _ _ => mapError_eq_ok.mp⟩
    · rintro ⟨_, h, hall⟩
      obtain ⟨hitems, rfl⟩ := Prod.mk.inj h
      cases hitems
      rw [array_mapM_ok_iff.mpr (hall.imp fun _ _ => mapError_eq_ok.mpr)]

/-- The law of chunked searches: every chunked search goes as `SearchesChunked` says, whatever
the server answers, and a series search finds exactly the subsession ids of the items of its
chunked search, in order. -/
theorem chunked_search_law :
    (∀ (path : String) (params : List (String × List String)) (w : Wire),
      SearchesChunked path params w ((getChunked path params).run w).1
        ((getChunked path params).run w).2) ∧
    ∀ (q : SeriesQuery) (w w' : Wire) (ids : Array Int64),
      (searchSeries q).run w = (.ok ids, w') ↔
        ∃ items, (getChunked "/data/results/search_series" q.params).run w = (.ok items, w') ∧
          List.Forall₂ (fun item id => decode subsessionHit 0 item = .ok id) items.toList ids.toList :=
  ⟨getChunked_searches, searchSeries_ok_iff⟩

end Remote

end RaceArchive
