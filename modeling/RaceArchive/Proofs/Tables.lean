import Mathlib
import RaceArchive.Table

/-!
# Lookups in tables

What a lookup finds after a table is changed: inserting a key sets its value and leaves every
other key alone, erasing it removes it alone (`find?_insert`, `find?_erase`). Every change keeps
the keys in increasing order (`Table.Ordered`), and in an ordered table a key stands once, so the
value found is the one stored with it (`Ordered.find?_of_mem`).
-/

namespace RaceArchive

namespace Table

variable {α : Type} {t : Table α} {k k' : String} {v : α}

/-- The keys of a table stand in strictly increasing order, so each key is there once. -/
def Ordered (t : Table α) : Prop := t.Pairwise fun a b => a.1 < b.1

theorem find?_nil (k : String) : find? ([] : Table α) k = none := rfl

theorem find?_cons (e : String × α) (t : Table α) (k : String) :
    find? (e :: t) k = if e.1 = k then some e.2 else find? t k := by
  by_cases h : e.1 = k <;> simp [find?, h]

@[simp] theorem find?_insert (t : Table α) (k k' : String) (v : α) :
    (t.insert k v).find? k' = if k = k' then some v else t.find? k' := by
  induction t with
  | nil => simp [insert, find?_cons, find?_nil]
  | cons e rest ih =>
    obtain ⟨k₀, v₀⟩ := e
    unfold insert
    by_cases h₀ : k = k₀
    · subst h₀; by_cases hk : k = k' <;> simp [find?_cons, hk]
    · by_cases hlt : k < k₀
      · rw [if_neg h₀, if_pos hlt, find?_cons, find?_cons]
      · rw [if_neg h₀, if_neg hlt, find?_cons, find?_cons, ih]
        by_cases hk : k = k' <;> by_cases hk₀ : k₀ = k' <;> simp_all

@[simp] theorem find?_erase (t : Table α) (k k' : String) :
    (t.erase k).find? k' = if k = k' then none else t.find? k' := by
  induction t with
  | nil => simp [erase, find?_nil]
  | cons e rest ih =>
    simp only [erase, List.filter_cons] at ih ⊢
    by_cases he : e.1 = k
    · by_cases hk : k = k' <;> simp_all [find?_cons]
    · by_cases hk : k = k' <;> simp_all [find?_cons]

theorem mem_insert {e : String × α} (h : e ∈ t.insert k v) : e = (k, v) ∨ e ∈ t := by
  induction t with
  | nil => simpa [insert] using h
  | cons e₀ rest ih =>
    unfold insert at h
    split_ifs at h with h₀ hlt
    · rcases List.mem_cons.mp h with rfl | h
      · exact .inl rfl
      · exact .inr (List.mem_cons_of_mem _ h)
    · rcases List.mem_cons.mp h with rfl | h
      · exact .inl rfl
      · exact .inr h
    · rcases List.mem_cons.mp h with rfl | h
      · exact .inr List.mem_cons_self
      · rcases ih h with h | h
        · exact .inl h
        · exact .inr (List.mem_cons_of_mem _ h)

/-- Inserting keeps the keys in order. -/
theorem Ordered.insert (h : t.Ordered) : (t.insert k v).Ordered := by
  induction t with
  | nil => simp [Table.insert, Ordered]
  | cons e rest ih =>
    obtain ⟨k₀, v₀⟩ := e
    have hrest : ∀ e ∈ rest, k₀ < e.1 := (List.pairwise_cons.mp h).1
    unfold Table.insert
    split_ifs with h₀ hlt
    · subst h₀
      exact List.pairwise_cons.mpr ⟨hrest, (List.pairwise_cons.mp h).2⟩
    · refine List.pairwise_cons.mpr ⟨fun e he => ?_, h⟩
      rcases List.mem_cons.mp he with rfl | he
      · exact hlt
      · exact hlt.trans (hrest e he)
    · have hgt : k₀ < k := lt_of_le_of_ne (not_lt.mp hlt) (Ne.symm h₀)
      refine List.pairwise_cons.mpr ⟨fun e he => ?_, ih (List.pairwise_cons.mp h).2⟩
      rcases mem_insert he with rfl | he
      · exact hgt
      · exact hrest e he

theorem Ordered.find?_of_mem (h : t.Ordered) (he : (k, v) ∈ t) : t.find? k = some v := by
  induction t with
  | nil => simp at he
  | cons e rest ih =>
    rw [find?_cons]
    rcases List.mem_cons.mp he with rfl | he
    · simp
    · have hne : e.1 ≠ k := ne_of_lt ((List.pairwise_cons.mp h).1 _ he)
      simp only [hne, if_false]
      exact ih (List.pairwise_cons.mp h).2 he

/-- A key found in a table stands there after entries of other keys only. -/
theorem find?_eq_some (h : t.find? k = some v) :
    ∃ pre post, t = pre ++ (k, v) :: post ∧ ∀ e ∈ pre, e.1 ≠ k := by
  induction t with
  | nil => simp [find?_nil] at h
  | cons e rest ih =>
    rw [find?_cons] at h
    split_ifs at h with hk
    · cases h
      exact ⟨[], rest, by simp [← hk], by simp⟩
    · obtain ⟨pre, post, rfl, hpre⟩ := ih h
      exact ⟨e :: pre, post, rfl, by simpa [hk] using hpre⟩

end Table

end RaceArchive
