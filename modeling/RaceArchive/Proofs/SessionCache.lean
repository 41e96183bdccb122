import RaceArchive.Cache

/-!
# What the session cache holds

A session archive sits right under the session directory, so a subsession is cached exactly when
the session directory is a directory and something is at the archive's path (`Cache.has_iff`).
Putting a node at one path leaves every other path as it was (`Files.Tree.node_put`), and
putting one at an archive's path under the session directory caches that subsession and keeps
every other (`Cache.has_put`).
-/

namespace RaceArchive

namespace Files

/-- Looking a path up after the nodes at `p` were replaced by `n`. -/
theorem find?_put_map (l : List (Path × Node)) (p q : Path) (n : Node) :
    ((l.map fun e => if e.1 == p then (p, n) else e).find? (·.1 == q)).map (·.2) =
      if q = p then (if l.any (·.1 == p) then some n else none) else (l.find? (·.1 == q)).map (·.2) := by
  induction l with
  | nil => simp
  | cons e l ih =>
    rw [List.map_cons, List.find?_cons, List.find?_cons, List.any_cons]
    by_cases he : e.1 = p
    · by_cases hq : q = p
      · subst hq; simp [he]
      · have hpq : (p == q) = false := by simp [Ne.symm hq]
        simp only [he, beq_self_eq_true, if_true, hpq, hq, if_false] at ih ⊢
        exact ih
    · have hep : (e.1 == p) = false := by simp [he]
      simp only [hep, Bool.false_eq_true, if_false, Bool.false_or]
      by_cases hq : e.1 = q
      · subst hq; simp [he]
      · have heq : (e.1 == q) = false := by simp [hq]
        simp only [heq]
        exact ih

theorem find?_put_append (l : List (Path × Node)) (p q : Path) (n : Node)
    (hl : l.any (·.1 == p) = false) :
    ((l ++ [(p, n)]).find? (·.1 == q)).map (·.2) =
      if q = p then some n else (l.find? (·.1 == q)).map (·.2) := by
  rw [List.find?_append]
  by_cases hq : q = p
  · subst hq
    have : l.find? (·.1 == q) = none := by simpa using hl
    simp [this]
  · cases l.find? (·.1 == q) <;> simp [hq, Ne.symm hq]

/-- Putting a node at `p` changes the node at `p` and no other. -/
theorem Tree.node_put (t : Tree) (p : Path) (n : Node) (q : Path) :
    (t.put p n).node q = if q.isEmpty then some .directory else if q = p then some n else t.node q := by
  unfold Tree.node Tree.put
  split
  · rfl
  · split
    · next hany =>
      rw [find?_put_map]
      by_cases hq : q = p <;> simp [hq, hany]
    · next hany => rw [find?_put_append _ _ _ _ (Bool.of_not_eq_true hany)]

end Files

namespace Cache

open Files

variable {t t' : Tree} {id j : Int64}

theorem has_iff (t : Tree) (id : Int64) :
    has t id = true ↔ t.node sessionDir = some .directory ∧ (t.node (pathOf id)).isSome := by
  -- an archive's only ancestors are the root and the session directory
  obtain ⟨name, hp⟩ : ∃ name, pathOf id = ["sessions", name] := ⟨_, rfl⟩
  unfold has Tree.has Tree.find
  simp only [hp, sessionDir, List.length_cons, List.length_nil, List.range_succ, List.range_zero,
    List.nil_append, List.cons_append, List.map_cons, List.map_nil, List.take_zero,
    List.take_succ_cons, List.any_cons, List.any_nil]
  have hroot : t.node [] = some .directory := rfl
  rw [hroot]
  rcases t.node ["sessions"] with _ | _ | _ <;> rcases t.node ["sessions", name] with _ | _ | _ <;>
    simp

theorem find_sessionDir (t : Tree) :
    t.find sessionDir = .directory ↔ t.node sessionDir = some .directory := by
  unfold Tree.find
  simp only [sessionDir, List.length_cons, List.length_nil, List.range_succ, List.range_zero,
    List.nil_append, List.map_cons, List.map_nil, List.take_zero, List.any_cons, List.any_nil]
  have hroot : t.node [] = some .directory := rfl
  rw [hroot]
  rcases t.node ["sessions"] with _ | _ | _ <;> simp

theorem has_put (hdir : t.node sessionDir = some .directory) (n : Node) :
    has (t.put (pathOf id) n) j = true ↔ pathOf j = pathOf id ∨ has t j = true := by
  have hne : sessionDir ≠ pathOf id := by simp [sessionDir, pathOf]
  have hj : (pathOf j).isEmpty = false := by simp [pathOf, sessionDir]
  rw [has_iff, has_iff, Tree.node_put, Tree.node_put, if_neg (by simp [sessionDir]), if_neg hne, hj]
  by_cases hjid : pathOf j = pathOf id <;> simp [hjid, hdir]

end Cache

end RaceArchive
