import Mathlib
import RaceArchive.Proofs.SessionCache

/-!
# Listing the session cache, and what a write leaves alone

An archive is named by the decimal numeral of its id, and the numeral of a 64-bit integer reads
back as that integer (`Decimal.parseInt64_toString`). So the name of an archive gives back its
id (`Cache.idOfName_name`): no two ids share an archive, and every archive found as a file is
listed under its own id (`Cache.mem_ids`).

What is found at a path depends only on the nodes at the path and above it
(`Files.Tree.find_congr`), so putting a node at a path that is no prefix of another leaves what is
found there. Archives sit side by side in the session directory and snapshots in the reference
directory: caching a new archive or writing a snapshot keeps every cached archive as it reads
(`Cache.Keeps`), and writing one snapshot leaves the other.
-/

namespace RaceArchive

namespace Decimal

/-- Digits whose value stays within the bound are read in full. -/
theorem accumulate_digits {bound : Nat} {cs : List Char} :
    ∀ {n : Nat}, (∀ c ∈ cs, c.isDigit) → Nat.ofDigitChars 10 cs n ≤ bound →
      accumulate bound cs n = .ok (Nat.ofDigitChars 10 cs n) := by
  induction cs with
  | nil => intro n _ _; rw [Nat.ofDigitChars_nil]; rfl
  | cons c cs ih =>
    intro n hdigits hbound
    have hc : c.isDigit = true := hdigits c List.mem_cons_self
    have hstep : Nat.ofDigitChars 10 (c :: cs) n =
        Nat.ofDigitChars 10 cs (n * 10 + digitValue c) := by
      rw [Nat.ofDigitChars_cons, Nat.mul_comm]; rfl
    -- the value read so far never passes the value of the whole numeral
    have hgrow : n * 10 + digitValue c ≤ Nat.ofDigitChars 10 cs (n * 10 + digitValue c) := by
      rw [Nat.ofDigitChars_eq_ofDigitChars_zero]
      have := Nat.le_mul_of_pos_left (n * 10 + digitValue c)
        (Nat.pow_pos (n := cs.length) (by decide : 0 < 10))
      omega
    rw [hstep] at hbound ⊢
    have hfits : ¬n * 10 + digitValue c > bound := by omega
    simp only [accumulate, hc, if_true, hfits, if_false]
    exact ih (fun d hd => hdigits d (List.mem_cons_of_mem _ hd)) hbound

theorem accumulate_toDigits {bound k : Nat} (h : k ≤ bound) :
    accumulate bound (Nat.toDigits 10 k) 0 = .ok k := by
  have hdigits : ∀ c ∈ Nat.toDigits 10 k, c.isDigit := fun c hc =>
    Nat.isDigit_of_mem_toDigits (by decide) (by decide) hc
  rw [accumulate_digits hdigits (by rwa [Nat.ofDigitChars_ten_toDigits]),
    Nat.ofDigitChars_ten_toDigits]

/-- The decimal numeral of an integer in the signed 64-bit range reads back as the integer. -/
theorem parseInt64_toString {i : Int} (hlo : -2 ^ 63 ≤ i) (hhi : i < 2 ^ 63) :
    parseInt64 (toString i) = .ok i := by
  cases i with
  | ofNat k =>
    -- a numeral without a sign: its first digit is neither sign
    obtain ⟨c, rest, hcs⟩ := List.exists_cons_of_ne_nil (Nat.toDigits_ne_nil (b := 10) (n := k))
    have hc : c.isDigit :=
      Nat.isDigit_of_mem_toDigits (by decide) (by decide) (hcs ▸ List.mem_cons_self)
    have hs : (toString (Int.ofNat k)).toList = c :: rest := by
      simp [Int.toString_eq_repr, Int.repr, Nat.repr, hcs]
    have hk : k < 2 ^ 63 := by rw [Int.ofNat_eq_natCast] at hhi; omega
    have hplus : c ≠ '+' := by rintro rfl; exact absurd hc (by decide)
    have hminus : c ≠ '-' := by rintro rfl; exact absurd hc (by decide)
    unfold parseInt64
    rw [hs]
    split
    next neg body hsplit =>
    split at hsplit
    · next r h => exact absurd (List.cons.inj h).1 hplus
    · next r h => exact absurd (List.cons.inj h).1 hminus
    · obtain ⟨rfl, rfl⟩ := Prod.mk.inj hsplit
      rw [← hcs, accumulate_toDigits (by rw [Nat.pow_eq]; omega)]
      have hfits : ¬k ≥ 2 ^ 63 := by omega
      simp only [List.isEmpty_iff, Nat.toDigits_ne_nil, Bool.false_eq_true, if_false, Nat.pow_eq,
        hfits, Int.ofNat_eq_natCast]
  | negSucc k =>
    have hs : (toString (Int.negSucc k)).toList = '-' :: Nat.toDigits 10 (k + 1) := by
      simp [Int.toString_eq_repr, Int.repr, Nat.repr]
    have hk : k + 1 ≤ 2 ^ 63 := by rw [Int.negSucc_eq] at hlo; omega
    unfold parseInt64
    rw [hs]
    split
    next neg body hsplit =>
    split at hsplit
    · next r h => exact absurd (List.cons.inj h).1 (by decide)
    · next r h =>
      obtain ⟨rfl, rfl⟩ := Prod.mk.inj hsplit
      rw [← (List.cons.inj h).2, accumulate_toDigits (by rw [Nat.pow_eq]; omega)]
      have hfits : ¬k + 1 > 2 ^ 63 := by omega
      simp only [List.isEmpty_iff, Nat.toDigits_ne_nil, if_false, Nat.pow_eq, if_true, hfits]
      rfl
    · next _ hsign => exact (hsign _ rfl).elim

end Decimal

namespace Files

variable {t t' : Tree} {p q : Path}

theorem Tree.find_congr (h : ∀ a, a <+: p → t'.node a = t.node a) : t'.find p = t.find p := by
  -- every ancestor looked at is a prefix of `p`
  have hanc : ∀ k, t'.node (p.take k) = t.node (p.take k) := fun k => h _ (List.take_prefix k p)
  unfold Tree.find
  simp only [List.any_map, Function.comp_def, hanc, h p (List.prefix_refl p)]

theorem Tree.node_put_of_ne (n : Node) (h : q ≠ p) : (t.put p n).node q = t.node q := by
  rw [Tree.node_put, if_neg h]
  split
  · next hq => rw [List.isEmpty_iff.mp hq]; rfl
  · rfl

theorem Tree.find_put (n : Node) (h : ¬p <+: q) : (t.put p n).find q = t.find q :=
  Tree.find_congr fun _ ha => Tree.node_put_of_ne n fun e => h (e ▸ ha)

theorem Tree.read_put (n : Node) (h : ¬p <+: q) : (t.put p n).read q = t.read q := by
  unfold Tree.read; rw [Tree.find_put n h]

theorem Tree.has_put (n : Node) (h : ¬p <+: q) : (t.put p n).has q = t.has q := by
  unfold Tree.has; rw [Tree.find_put n h]

theorem Tree.node_of_find {data : ByteArray} (h : t.find p = .file data) :
    t.node p = some (.file data) := by
  unfold Tree.find at h
  dsimp only at h
  split at h
  · cases h
  · split at h
    · cases h
    · split at h
      · cases h
      · cases h
      · cases h
        assumption

theorem Tree.find_of_read {data : ByteArray} (h : t.read p = .ok data) : t.find p = .file data := by
  unfold Tree.read at h
  split at h <;> cases h
  assumption

/-- Where a directory is found, every prefix of its path is a directory node. -/
theorem Tree.node_of_find_directory (h : t.find q = .directory) :
    ∀ a, a <+: q → t.node a = some .directory := by
  unfold Tree.find at h
  dsimp only at h
  split at h
  · cases h
  · next hfile =>
    split at h
    · cases h
    · next hnone =>
      intro a ha
      rcases Nat.lt_or_ge a.length q.length with hlt | hge
      · -- a proper prefix is one of the ancestors looked through
        have hmem : a ∈ (List.range q.length).map fun k => q.take k :=
          List.mem_map.2 ⟨a.length, List.mem_range.2 hlt, (List.prefix_iff_eq_take.1 ha).symm⟩
        simp only [List.any_eq_true, not_exists, not_and, Bool.not_eq_true] at hfile hnone
        have hf := hfile a hmem
        have hn := hnone a hmem
        cases hna : t.node a with
        | none => simp [hna] at hn
        | some n => cases n with
          | directory => rfl
          | file _ => simp [hna] at hf
      · rw [ha.eq_of_length (Nat.le_antisymm ha.length_le hge)]
        split at h
        · cases h
        · assumption
        · cases h

/-- A file put in an existing directory is found there. -/
theorem Tree.find_put_file {d : ByteArray} (hp : p ≠ [])
    (hdir : ∀ a, a <+: p.dropLast → t.node a = some .directory) :
    (t.put p (.file d)).find p = .file d := by
  -- every ancestor of `p` is a prefix of its directory, and none of them is `p` itself
  have hanc : ∀ a ∈ (List.range p.length).map (p.take ·), (t.put p (.file d)).node a = some .directory := by
    simp only [List.mem_map, List.mem_range]
    rintro _ ⟨k, hk, rfl⟩
    have hne : p.take k ≠ p := fun e => by
      have := congrArg List.length e
      simp only [List.length_take] at this
      omega
    rw [Tree.node_put_of_ne _ hne]
    apply hdir
    rw [List.dropLast_eq_take]
    exact List.take_prefix_take_left (by omega)
  have hself : (t.put p (.file d)).node p = some (.file d) := by
    rw [Tree.node_put]
    simp [hp]
  unfold Tree.find
  dsimp only
  rw [List.any_eq_false.2 fun a ha => by simp [hanc a ha], List.any_eq_false.2 fun a ha => by simp [hanc a ha],
    hself]
  rfl

theorem Tree.find_nil : t.find [] = .directory := by
  simp [Tree.find, Tree.node]

end Files

namespace Cache

open Files

variable {t t' t'' : Tree} {id k : Int64}

theorem idOfName_name (id : Int64) : idOfName (toString id.toInt ++ suffix) = some id := by
  have hends : (toString id.toInt ++ suffix).endsWith suffix = true := by
    rw [String.endsWith_eq_endsWith_toSlice, String.Slice.endsWith_string_iff, String.copy_toSlice,
      String.toList_append]
    exact List.suffix_append _ _
  have hstem : String.ofList ((toString id.toInt ++ suffix).toList.take
      ((toString id.toInt ++ suffix).length - suffix.length)) = toString id.toInt := by
    simp [String.toList_append, ← String.length_toList, String.ofList_toList]
  rw [idOfName, if_pos hends, hstem, Decimal.parseInt64_toString id.le_toInt id.toInt_lt]
  exact congrArg some id.ofInt_toInt

theorem pathOf_inj {a b : Int64} (h : pathOf a = pathOf b) : a = b := by
  have hname : toString a.toInt ++ suffix = toString b.toInt ++ suffix := by
    simpa [pathOf, sessionDir] using h
  have := idOfName_name a
  rw [hname, idOfName_name] at this
  exact (Option.some.inj this).symm

theorem pathOf_prefix_eq {a b : Int64} (h : pathOf a <+: pathOf b) : a = b :=
  pathOf_inj (h.eq_of_length (by simp [pathOf]))

theorem tracksPath : referenceDir.join tracksSnapshot = ["ref", "tracks.json"] := by
  simp +decide [Path.join, referenceDir, tracksSnapshot, String.splitOn, String.splitOnAux]

theorem carsPath : referenceDir.join carsSnapshot = ["ref", "cars.json"] := by
  simp +decide [Path.join, referenceDir, carsSnapshot, String.splitOn, String.splitOnAux]

theorem snapshot_not_prefix_archive {name : String} (hname : name = tracksSnapshot ∨ name = carsSnapshot)
    (id : Int64) : ¬referenceDir.join name <+: pathOf id := by
  rcases hname with rfl | rfl <;> simp [tracksPath, carsPath, pathOf, sessionDir]

theorem archive_not_prefix_snapshot {name : String} (hname : name = tracksSnapshot ∨ name = carsSnapshot)
    (id : Int64) : ¬pathOf id <+: referenceDir.join name := by
  rcases hname with rfl | rfl <;> simp [tracksPath, carsPath, pathOf, sessionDir]

theorem tracks_not_prefix_cars : ¬referenceDir.join tracksSnapshot <+: referenceDir.join carsSnapshot := by
  rw [tracksPath, carsPath]
  intro h
  have := h.eq_of_length rfl
  simp at this

theorem cars_not_prefix_tracks : ¬referenceDir.join carsSnapshot <+: referenceDir.join tracksSnapshot := by
  rw [tracksPath, carsPath]
  intro h
  have := h.eq_of_length rfl
  simp at this

theorem ids_layout : ids layout = [] := by
  simp [ids, Tree.list, layout, sessionDir, referenceDir]

/-- The cache holds no snapshot `name`: reading it fails as a missing file. -/
def Lacks (t : Tree) (name : String) : Prop :=
  ∃ f, readReference t name = .error f ∧ f.isOf .fileMissing = true

theorem layout_lacks {name : String} (hname : name = tracksSnapshot ∨ name = carsSnapshot) :
    Lacks layout name := by
  unfold Lacks
  rcases hname with rfl | rfl
  · rw [readReference, tracksPath]
    exact ⟨_, rfl, by decide⟩
  · rw [readReference, carsPath]
    exact ⟨_, rfl, by decide⟩

/-! ## What reading an archive looks at -/

theorem read_of_ok {raw : ByteArray} (h : read t id = .ok raw) :
    ∃ data, t.read (pathOf id) = .ok data := by
  cases hr : t.read (pathOf id) with
  | ok data => exact ⟨data, rfl⟩
  | error f =>
    unfold read at h
    simp only [hr] at h
    split at h <;> cases h

theorem has_of_read {raw : ByteArray} (h : read t id = .ok raw) : has t id = true := by
  obtain ⟨data, hd⟩ := read_of_ok h
  unfold has Tree.has
  rw [Tree.find_of_read hd]

theorem read_put {n : Node} {p : Path} (h : ¬p <+: pathOf id) : read (t.put p n) id = read t id := by
  simp only [read, Tree.read_put n h]

theorem readReference_put {n : Node} {p : Path} {name : String} (h : ¬p <+: referenceDir.join name) :
    readReference (t.put p n) name = readReference t name := by
  simp only [readReference, Tree.read_put n h]

theorem Lacks.put_archive {name : String} (hname : name = tracksSnapshot ∨ name = carsSnapshot)
    (h : Lacks t name) (id : Int64) (n : Node) : Lacks (t.put (pathOf id) n) name := by
  unfold Lacks
  rw [readReference_put (archive_not_prefix_snapshot hname id)]
  exact h

/-! ## Listing -/

/-- An archive found as a file is listed under its id. -/
theorem mem_ids {data : ByteArray} (h : t.node (pathOf id) = some (.file data)) : id ∈ ids t := by
  have hmem : (pathOf id, Node.file data) ∈ t.nodes := by
    unfold Files.Tree.node at h
    rw [if_neg (by simp [pathOf, sessionDir])] at h
    obtain ⟨e, he, hdata⟩ := Option.map_eq_some_iff.mp h
    have hpath : e.1 = pathOf id := by simpa using List.find?_some he
    rw [← hpath, ← hdata]
    exact List.mem_of_find?_eq_some he
  have hlisted : (toString id.toInt ++ suffix, false) ∈ t.list sessionDir := by
    unfold Tree.list
    rw [List.mem_mergeSort, List.mem_filterMap]
    exact ⟨_, hmem, by simp [pathOf, sessionDir]⟩
  unfold ids
  rw [List.mem_mergeSort, List.mem_filterMap]
  exact ⟨_, hlisted, idOfName_name id⟩

theorem mem_ids_of_read {raw : ByteArray} (h : read t id = .ok raw) : id ∈ ids t := by
  obtain ⟨data, hd⟩ := read_of_ok h
  exact mem_ids (Tree.node_of_find (Tree.find_of_read hd))

/-! ## Writes that keep the cached archives -/

/-- Every archive that `t` holds, `t'` holds too, and reads as in `t`. -/
def Keeps (t t' : Tree) : Prop := ∀ id, has t id = true → has t' id = true ∧ read t' id = read t id

theorem Keeps.refl (t : Tree) : Keeps t t := fun _ h => ⟨h, rfl⟩

theorem Keeps.trans (h₁ : Keeps t t') (h₂ : Keeps t' t'') : Keeps t t'' := by
  intro id hid
  obtain ⟨hid', hread'⟩ := h₁ id hid
  obtain ⟨hid'', hread''⟩ := h₂ id hid'
  exact ⟨hid'', hread''.trans hread'⟩

theorem keeps_put {p : Path} (h : ∀ id, has t id = true → ¬p <+: pathOf id) (n : Node) :
    Keeps t (t.put p n) := by
  intro id hid
  refine ⟨?_, read_put (h id hid)⟩
  unfold has
  rw [Tree.has_put n (h id hid)]
  exact hid

theorem keeps_put_archive (hk : has t k = false) (n : Node) : Keeps t (t.put (pathOf k) n) :=
  keeps_put (fun id hid hp => by rw [pathOf_prefix_eq hp, hid] at hk; cases hk) n

theorem keeps_put_snapshot {name : String} (hname : name = tracksSnapshot ∨ name = carsSnapshot)
    (n : Node) : Keeps t (t.put (referenceDir.join name) n) :=
  keeps_put (fun id _ => snapshot_not_prefix_archive hname id) n

end Cache

end RaceArchive
