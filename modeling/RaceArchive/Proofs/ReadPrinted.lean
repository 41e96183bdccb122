import Mathlib
import RaceArchive.Proofs.JsonText

/-!
# Reading printed values back

The typed readers of `Json.Read` read what the printer of `Value` writes. For each reader this
module says what it makes of the printed text of a value, wherever the text stands in a document
and whatever closes it there (`Closes`): an integer reader reads a printed 64-bit integer as
itself (`int_reads`), the octet reader reads a printed text as the octets of the text it quotes
(`octets_reads`), and the optional, list and record readers read printed options, lists and
objects member by member (`optional_reads`, `list_reads`, `record_reads`).

A record finds the field of a printed key by matching the key against its sorted keys an octet at
a time; a key of plain octets selects the first key it leaves possible (`selectKey_plain`), so
which field a key selects is a computation on the key and the fields (`selectsKey_of_plain`).
The keys of a printed object, read only to be looked at, are its keys in order
(`objectKeys_reads`), and a value that reads itself from its own text is handed the whole text
(`decode_delegate`).

What a reader does to its state is part of each statement: `Reads r v f` says that `r` reads the
text of `v` whole and takes the state `s` to `f s`, and so decodes the text of `v` on its own from
`start` to `f start` (`decode_reads`).
-/

namespace RaceArchive.Json

open Utf8 Doc

variable {d : Doc} {i : Nat} {s t : List UInt8}

/-! ## What closes a value -/

/-- What may follow a value in printed text: a comma, a closing brace or bracket, or the end. -/
def Closes (t : List UInt8) : Prop :=
  t.headD 0 = 0x2C ∨ t.headD 0 = 0x7D ∨ t.headD 0 = 0x5D ∨ t.headD 0 = 0

namespace Closes

theorem not_digit (h : Closes t) : isDigit (t.headD 0) = false := by
  rcases h with h | h | h | h <;> rw [h] <;> decide

theorem not_numberPart (h : Closes t) : isNumberPart (t.headD 0) = false := by
  rcases h with h | h | h | h <;> rw [h] <;> decide

theorem comma (t : List UInt8) : Closes (0x2C :: t) := .inl rfl

theorem brace (t : List UInt8) : Closes (0x7D :: t) := .inr (.inl rfl)

theorem bracket (t : List UInt8) : Closes (0x5D :: t) := .inr (.inr (.inl rfl))

theorem nil : Closes [] := .inr (.inr (.inr rfl))

end Closes

/-- A reader reads the printed text of `v` whole, wherever it stands and whatever closes it,
taking its state `s` to `f s`. -/
def Reads {σ : Type} (r : Reader σ) (v : Value) (f : σ → σ) : Prop :=
  ∀ (d : Doc) (n i : Nat) (t : List UInt8) (s : σ), d.rest i = octetsOf v.render ++ t → Closes t →
    r d n i s = .ok (i + (octetsOf v.render).length) (f s)

theorem Reads.congr {σ : Type} {r : Reader σ} {v : Value} {f g : σ → σ} (h : Reads r v f)
    (hfg : ∀ s, f s = g s) : Reads r v g := by
  intro d n i t s hd ht
  rw [← hfg s]
  exact h d n i t s hd ht

/-! ## Integers -/

theorem foldl_figures (cs : List Char) (hcs : ∀ c ∈ cs, c.isDigit) (acc : Nat) :
    (cs.map fun ch => ch.toNat.toUInt8).foldl (fun acc o => acc * 10 + (o.toNat - 0x30)) acc =
      Nat.ofDigitChars 10 cs acc := by
  induction cs generalizing acc with
  | nil => rfl
  | cons c cs ih =>
    have hc := toNat_lt_of_isDigit (hcs c List.mem_cons_self)
    have hbyte : c.toNat.toUInt8.toNat = c.toNat := by
      simp only [Nat.toUInt8_eq, UInt8.toNat_ofNat']
      omega
    rw [List.map_cons, List.foldl_cons, Nat.ofDigitChars_cons, hbyte, Nat.mul_comm acc 10]
    exact ih (fun c' hc' => hcs c' (List.mem_cons_of_mem c hc')) _

theorem map_at_range {l : List UInt8} (h : d.rest i = l ++ t) :
    (List.range l.length).map (fun k => d.at (i + k)) = l :=
  List.ext_getElem (by simp) fun k hk _ => by
    rw [List.getElem_map, List.getElem_range]
    exact octet_of_drop h (by simpa using hk)

/-- The figures of a number where they stand read as the number. -/
theorem wrapDigits_figures {m : Nat} (h : d.rest i = (Nat.toDigits 10 m).map (fun ch => ch.toNat.toUInt8) ++ t)
    (hm : m < 2 ^ 64) (negative : Bool) :
    Reader.wrapDigits d i (i + (Nat.toDigits 10 m).length) negative =
      if negative then -Int64.ofNat m else Int64.ofNat m := by
  have hat := map_at_range h
  rw [List.length_map] at hat
  have hvalue : (List.range (Nat.toDigits 10 m).length).foldl
      (fun acc k => acc * 10 + ((d.at (i + k)).toNat - 0x30)) 0 = m := by
    rw [← List.foldl_map (f := fun k => d.at (i + k)) (g := fun acc o => acc * 10 + (UInt8.toNat o - 0x30)),
      hat, foldl_figures _ (fun c hc => Nat.isDigit_of_mem_toDigits (by decide)
      (by decide) hc), Nat.ofDigitChars_ten_toDigits]
  unfold Reader.wrapDigits
  dsimp only
  rw [Nat.add_sub_cancel_left, hvalue, Nat.pow_eq, Nat.mod_eq_of_lt hm]

/-- A positive number's numeral does not start with a zero. -/
theorem head_toDigits_ne_zero {m : Nat} (hm : 0 < m) : (Nat.toDigits 10 m).head? ≠ some '0' := by
  induction m using Nat.strong_induction_on with
  | _ m ih =>
    rw [Nat.toDigits_eq_if (by decide)]
    split
    · next hlt =>
      have hfig : m.digitChar ≠ '0' := by
        interval_cases m <;> decide
      simpa using hfig
    · next hge =>
      obtain ⟨c, cs, hcs⟩ := List.exists_cons_of_ne_nil (Nat.toDigits_ne_nil (b := 10) (n := m / 10))
      have hhead := ih (m / 10) (by omega) (by omega)
      rw [hcs] at hhead ⊢
      simpa using hhead

/-- The figures of a positive number open with a figure other than zero. -/
theorem figures_cons {m : Nat} (hm : m ≠ 0) : ∃ o os,
    (Nat.toDigits 10 m).map (fun ch => ch.toNat.toUInt8) = o :: os ∧
      isDigit o = true ∧ o ≠ 0x30 := by
  obtain ⟨c, cs, hcs⟩ := List.exists_cons_of_ne_nil (Nat.toDigits_ne_nil (b := 10) (n := m))
  have hc : c ≠ '0' := fun e =>
    head_toDigits_ne_zero (Nat.pos_of_ne_zero hm) (by rw [hcs, e]; rfl)
  have hfig := toNat_lt_of_isDigit (Nat.isDigit_of_mem_toDigits (by decide) (by decide)
    (hcs ▸ List.mem_cons_self))
  have hc0 : c.toNat ≠ 48 := fun e => hc (by rw [← Char.ofNat_toNat c, e])
  refine ⟨c.toNat.toUInt8, cs.map fun ch => ch.toNat.toUInt8, by rw [hcs, List.map_cons],
    isDigit_of_mem_toDigits (by rw [hcs]; exact List.mem_cons_self), ?_⟩
  simp only [ne_eq, ← UInt8.toNat_inj, Nat.toUInt8_eq, UInt8.toNat_ofNat', UInt8.reduceToNat]
  omega

/-- A printed 64-bit integer reads as itself. -/
theorem int_reads (x : Int64) (target : String) (place : Place) :
    Reads (Reader.int target place) (.ofInt64 x) (fun _ => x) := by
  intro d n i t s h ht
  have hrender : octetsOf (Value.ofInt64 x).render = octetsOf (toString x.toInt) := rfl
  rw [hrender] at h ⊢
  rw [octetsOf_toString_int] at h ⊢
  have hdig : ∀ o ∈ (Nat.toDigits 10 x.toInt.natAbs).map (fun ch => ch.toNat.toUInt8), isDigit o = true :=
    fun o ho => isDigit_of_mem_toDigits ho
  -- at most 19 figures: the magnitude is at most 2 ^ 63
  have hbound : x.toInt.natAbs ≤ 2 ^ 63 := by
    have := x.le_toInt
    have := x.toInt_lt
    omega
  have hshort : (Nat.toDigits 10 x.toInt.natAbs).length ≤ 19 :=
    (Nat.length_toDigits_le_iff (by decide) (by decide)).mpr (by omega)
  by_cases hneg : x.toInt < 0
  · rw [if_pos hneg] at h ⊢
    have h' : d.rest i = 0x2D :: ((Nat.toDigits 10 x.toInt.natAbs).map (fun ch => ch.toNat.toUInt8) ++ t) := by
      simpa using h
    have hskip := skipWhile_of_rest hdig ht.not_digit (i + 1) (rest_succ h')
    have hwrap := wrapDigits_figures (rest_succ h') (by omega) true
    rw [List.length_map] at hskip
    have hx : -Int64.ofNat x.toInt.natAbs = x := by
      rw [Int64.neg_ofNat, show -(x.toInt.natAbs : Int) = x.toInt by omega, Int64.ofInt_toInt]
    have hfits : ¬i + 1 + (Nat.toDigits 10 x.toInt.natAbs).length - (i + 1) > 19 := by omega
    simp only [Reader.int, skipBlank_of_rest h' (by decide), at_of_rest h', beq_self_eq_true,
      ↓reduceIte, hskip, hfits, hwrap, hx]
    simp only [List.length_append, List.length_cons, List.length_nil, List.length_map]
    rw [show i + (0 + 1 + (Nat.toDigits 10 x.toInt.natAbs).length) =
      i + 1 + (Nat.toDigits 10 x.toInt.natAbs).length by omega]
    rfl
  · rw [if_neg hneg] at h ⊢
    rw [List.nil_append] at h ⊢
    have hx : Int64.ofNat x.toInt.natAbs = x := by
      rw [← Int64.ofInt_eq_ofNat, show ((x.toInt.natAbs : Nat) : Int) = x.toInt by omega,
        Int64.ofInt_toInt]
    by_cases hzero : x.toInt.natAbs = 0
    · -- zero is the one figure `0`
      have hx0 : x = 0 := by rw [← hx, hzero]; rfl
      rw [hzero, Nat.toDigits_zero] at h ⊢
      have h' : d.rest i = 0x30 :: t := by simpa using h
      simp only [Reader.int, skipBlank_of_rest h' (by decide), at_of_rest h']
      rw [hx0]
      rfl
    · obtain ⟨o, os, hos, hodig, ho0⟩ := figures_cons hzero
      have hskip := skipWhile_of_rest hdig ht.not_digit i h
      have hwrap := wrapDigits_figures h (by omega) false
      rw [List.length_map] at hskip
      have hfits : ¬i + (Nat.toDigits 10 x.toInt.natAbs).length - i > 19 := by omega
      have h' : d.rest i = o :: (os ++ t) := by rw [hos] at h; exact h
      -- the first figure is neither a sign nor a zero
      have hminus : (o == 0x2D) = false := by
        have := isDigit_iff.1 hodig
        simp only [beq_eq_false_iff_ne, ne_eq, ← UInt8.toNat_inj, UInt8.reduceToNat]
        omega
      simp only [Reader.int, skipBlank_of_rest h' (isBlank_of_isDigit hodig), at_of_rest h',
        hminus, beq_eq_false_iff_ne.2 ho0, hodig, Bool.false_eq_true, ↓reduceIte, hskip, hfits,
        hwrap, hx]
      simp only [List.length_map]
      rfl

/-! ## Texts -/

theorem Quoted.rest_cons {q : List UInt8} {str : String} (hq : Quoted q str) (h : d.rest i = q ++ t) :
    ∃ t', d.rest i = 0x22 :: t' := by
  obtain ⟨ss, -, rfl⟩ := hq
  exact ⟨_, by simpa using h⟩

theorem octets_quoted {q : List UInt8} {str : String} (hq : Quoted q str) (h : d.rest i = q ++ t)
    (place : Place) (n : Nat) (s : Octets) :
    Reader.octets place d n i s = .ok (i + q.length) (octetsOf str) := by
  obtain ⟨t', h'⟩ := hq.rest_cons h
  obtain ⟨b, hb, hread⟩ := hq.readStringBody h
  simp only [Reader.octets, skipBlank_of_rest h' (by decide), at_of_rest h', hread]
  rw [← hb, ← toList_eq_data]
  rfl

theorem octets_reads (o : Octets) (place : Place) :
    Reads (Reader.octets place) (.octets o) (fun _ => octetsOf (lossy o)) := by
  intro d n i t s h _
  have hrender : octetsOf (Value.octets o).render = octetsOf (quoteOctets o) := by rw [Value.render]
  rw [hrender] at h ⊢
  exact octets_quoted (quoted_quoteOctets o) h place n s

theorem string_quoted (str : String) (h : d.rest i = octetsOf (quoteText str) ++ t) (place : Place)
    (n : Nat) (s : String) :
    Reader.string place d n i s = .ok (i + (octetsOf (quoteText str)).length) str := by
  unfold Reader.string Reader.focus
  rw [octets_quoted (quoted_quoteText str) h place n]
  simp only [lossy_octetsOf]

/-! ## Parts, options and lists -/

theorem bind_of_ok {ε σ α β : Type} {x : EStateM ε σ α} {f : α → EStateM ε σ β} {s s' : σ} {a : α}
    (h : x s = .ok a s') : (x >>= f) s = f a s' := by
  show (x >>= f).run s = (f a).run s'
  rw [EStateM.run_bind, show x.run s = .ok a s' from h]

theorem Reads.focus {σ α : Type} {get : σ → α} {put : σ → α → σ} {r : Reader α} {v : Value}
    {g : α → α} (h : Reads r v g) : Reads (Reader.focus get put r) v (fun s => put s (g (get s))) := by
  intro d n i t s hd ht
  unfold Reader.focus
  rw [h d n i t (get s) hd ht]

theorem null_of_rest {σ : Type} (h : d.rest i = octetsOf Value.null.render ++ t) (s : σ) :
    Reader.null d i s = .ok (i + 4) s := by
  rw [octetsOf_render_null] at h
  unfold Reader.null
  rw [checkWord_of_rest (w := "null") (by rw [octetsOf_eq_flatMap]; decide)
    (by rw [octetsOf_eq_flatMap]; exact h)]
  rfl

theorem optional_reads_null {α : Type} (r : Reader α) (zero : α) :
    Reads (Reader.optional r zero) .null (fun _ => none) := by
  intro d n i t s h _
  have h' : d.rest i = 0x6E :: ([0x75, 0x6C, 0x6C] ++ t) := by
    rw [octetsOf_render_null] at h
    simpa using h
  have hnull := null_of_rest h s
  rw [octetsOf_render_null]
  simp only [Reader.optional, skipBlank_of_rest h' (by decide), at_of_rest h', beq_self_eq_true,
    ↓reduceIte]
  rw [bind_of_ok hnull]
  rfl

theorem fresh_reads {σ α : Type} {r : Reader α} {v : Value} {g : α → α} (h : Reads r v g)
    (hd : d.rest i = octetsOf v.render ++ t) (ht : Closes t) (start : α) (n : Nat) (s : σ) :
    Reader.fresh r start d n i s = .ok (g start, i + (octetsOf v.render).length) s := by
  unfold Reader.fresh
  rw [h d n i t start hd ht]

theorem optional_reads {α : Type} {r : Reader α} {zero : α} {v : Value} {g : α → α} (h : Reads r v g)
    {c : UInt8} {rest : List UInt8} (hv : octetsOf v.render = c :: rest) (hc : isBlank c = false)
    (hn : c ≠ 0x6E) : Reads (Reader.optional r zero) v (fun s => some (g (s.getD zero))) := by
  intro d n i t s hd ht
  have h' : d.rest i = c :: (rest ++ t) := by rw [hd, hv]; rfl
  have hget : (get : EStateM DecodeError (Option α) (Option α)) s = .ok s s := rfl
  have hn' : (c == 0x6E) = false := beq_eq_false_iff_ne.mpr hn
  simp only [Reader.optional, skipBlank_of_rest h' hc, at_of_rest h', hn', Bool.false_eq_true,
    ↓reduceIte]
  rw [bind_of_ok hget, bind_of_ok (fresh_reads h hd ht (s.getD zero) n s)]
  rfl

theorem list_reads_null {α : Type} (r : Reader α) (zero : α) (target : String) (place : Place) :
    Reads (Reader.list r zero target place) .null (fun _ => none) := by
  intro d n i t s h _
  have h' : d.rest i = 0x6E :: ([0x75, 0x6C, 0x6C] ++ t) := by
    rw [octetsOf_render_null] at h
    simpa using h
  have hnull := null_of_rest h s
  rw [octetsOf_render_null]
  simp only [Reader.list, skipBlank_of_rest h' (by decide), at_of_rest h', beq_self_eq_true,
    ↓reduceIte]
  rw [bind_of_ok hnull]
  rfl

/-- Items of a list that each start with an octet that is no blank and no closing bracket. -/
def Opens (items : List Value) : Prop :=
  ∀ v ∈ items, ∃ c rest, octetsOf v.render = c :: rest ∧ isBlank c = false ∧ c ≠ 0x5D

theorem octetsOf_renderItems_cons_cons (v w : Value) (rest : List Value) :
    octetsOf (renderItems (v :: w :: rest)) = octetsOf v.render ++ 0x2C :: octetsOf (renderItems (w :: rest)) := by
  rw [renderItems, octetsOf_append, octetsOf_append, octetsOf_comma]
  · simp
  · simp

/-- Every item writes at least one octet. -/
theorem length_le_renderItems {items : List Value} (ho : Opens items) :
    items.length ≤ (octetsOf (renderItems items)).length := by
  induction items with
  | nil => simp
  | cons v rest ih =>
    obtain ⟨c, cs, hv, -, -⟩ := ho v List.mem_cons_self
    have ih' := ih fun u hu => ho u (List.mem_cons_of_mem v hu)
    cases rest with
    | nil => simp [renderItems, hv]
    | cons w rest =>
      rw [octetsOf_renderItems_cons_cons, hv]
      simp only [List.length_cons, List.cons_append, List.length_append] at ih' ⊢
      omega

/-- The items of a printed list, up to its closing bracket, are read one by one, each from scratch
when each reads the same from any start. -/
theorem elements_reads {α β : Type} {r : Reader α} {zero : α} {toV : β → Value} {a : β → α} {n : Nat}
    {old : Array α} :
    ∀ (xs : List β), xs ≠ [] → (∀ x ∈ xs, Reads r (toV x) (fun _ => a x)) →
      ∀ (j : Nat) (acc : Array α) (fuel : Nat) (s : Option (Array α)), xs.length ≤ fuel →
      d.rest j = octetsOf (renderItems (xs.map toV)) ++ 0x5D :: t →
      Reader.list.elements r zero d n old j acc fuel s =
        .ok (acc ++ (xs.map a).toArray, j + (octetsOf (renderItems (xs.map toV))).length + 1) s
  | [], hne, _, _, _, _, _, _, _ => absurd rfl hne
  | [x], _, hr, j, acc, fuel, s, hfuel, h => by
    obtain ⟨fuel, rfl⟩ : ∃ f, fuel = f + 1 := ⟨fuel - 1, by simp at hfuel; omega⟩
    simp only [List.map_cons, List.map_nil] at h ⊢
    rw [renderItems] at h ⊢
    have hclose := rest_add h
    rw [Reader.list.elements, bind_of_ok (fresh_reads (hr x List.mem_cons_self) h (.bracket t) _ n s)]
    simp only [skipBlank_of_rest hclose (by decide), at_of_rest hclose, beq_self_eq_true, ↓reduceIte]
    rfl
  | x :: y :: rest, _, hr, j, acc, fuel, s, hfuel, h => by
    obtain ⟨fuel, rfl⟩ : ∃ f, fuel = f + 1 := ⟨fuel - 1, by simp at hfuel; omega⟩
    simp only [List.map_cons] at h ⊢
    rw [octetsOf_renderItems_cons_cons] at h ⊢
    rw [List.append_assoc, List.cons_append] at h
    have hcomma := rest_add h
    have hnext := @elements_reads α β r zero toV a n old (y :: rest) (by simp)
      (fun u hu => hr u (List.mem_cons_of_mem x hu))
      (j + (octetsOf (toV x).render).length + 1) (acc.push (a x)) fuel s (by simp at hfuel ⊢; omega)
      (by rw [List.map_cons]; exact rest_succ hcomma)
    rw [List.map_cons] at hnext
    rw [Reader.list.elements, bind_of_ok (fresh_reads (hr x List.mem_cons_self) h (.comma _) _ n s)]
    simp only [skipBlank_of_rest hcomma (by decide), at_of_rest hcomma,
      show ((0x2C : UInt8) == 0x5D) = false by decide, Bool.false_eq_true, ↓reduceIte,
      beq_self_eq_true]
    rw [hnext]
    simp only [List.map_cons, List.length_append, List.length_cons]
    congr 2
    · simp
    · omega

theorem renderItems_cons (v : Value) (rest : List Value) :
    ∃ u, octetsOf (renderItems (v :: rest)) = octetsOf v.render ++ u := by
  cases rest with
  | nil => exact ⟨[], by simp [renderItems]⟩
  | cons w rest => exact ⟨_, octetsOf_renderItems_cons_cons v w rest⟩

/-- A printed list whose items each read the same from any start is read as the list of what they
read. -/
theorem list_reads {α β : Type} {r : Reader α} {zero : α} {xs : List β} {toV : β → Value} {a : β → α}
    (hr : ∀ x ∈ xs, Reads r (toV x) (fun _ => a x)) (ho : Opens (xs.map toV)) (target : String)
    (place : Place) :
    Reads (Reader.list r zero target place) (.arr (xs.map toV)) (fun _ => some (xs.map a).toArray) := by
  intro d n i t s h _
  rw [octetsOf_render_arr] at h ⊢
  have h' : d.rest i = 0x5B :: (octetsOf (renderItems (xs.map toV)) ++ 0x5D :: t) := by simpa using h
  have hin := rest_succ h'
  have hopen : ((0x5B : UInt8) == 0x6E) = false := by decide
  cases xs with
  | nil =>
    -- `[]`: the bracket closes at once
    have hin' : d.rest (i + 1) = 0x5D :: t := by simpa [renderItems, octetsOf_eq_flatMap] using hin
    simp only [Reader.list, skipBlank_of_rest h' (by decide), at_of_rest h', hopen, beq_self_eq_true,
      Bool.false_eq_true, ↓reduceIte, skipBlank_of_rest hin' (by decide), at_of_rest hin']
    simp [renderItems, octetsOf_eq_flatMap]
    rfl
  | cons x rest =>
    obtain ⟨c, cs, hv, hc, hc'⟩ := ho (toV x) List.mem_cons_self
    obtain ⟨u, hu⟩ := renderItems_cons (toV x) (rest.map toV)
    rw [List.map_cons] at hin h' ⊢
    have hfirst : d.rest (i + 1) = c :: (cs ++ u ++ 0x5D :: t) := by rw [hin, hu, hv]; simp
    -- every item takes an octet, so the fuel of the loop suffices
    have hfuel : (x :: rest).length ≤ d.size + 1 := by
      have := length_le_renderItems ho
      have := length_rest d (i + 1)
      rw [hin, List.length_append] at this
      simp only [List.length_map, List.map_cons, List.length_cons] at *
      omega
    have hget : (get : EStateM DecodeError (Option (Array α)) (Option (Array α))) s = .ok s s := rfl
    have hclose : (c == 0x5D) = false := beq_eq_false_iff_ne.mpr hc'
    simp only [Reader.list, skipBlank_of_rest h' (by decide), at_of_rest h', hopen, beq_self_eq_true,
      Bool.false_eq_true, ↓reduceIte, skipBlank_of_rest hfirst hc, at_of_rest hfirst, hclose]
    rw [bind_of_ok hget, bind_of_ok (elements_reads (x :: rest) (by simp) hr (i + 1) #[] _ s hfuel
      (by rw [List.map_cons]; exact hin))]
    simp only [List.map_cons, List.length_cons, List.length_append, List.length_nil, Array.empty_append]
    rw [show i + 1 + (octetsOf (renderItems (toV x :: rest.map toV))).length + 1 =
      i + ((octetsOf (renderItems (toV x :: rest.map toV))).length + 1 + 1) by omega]
    rfl

/-! ## Records -/

theorem narrowAll_cons {keys : Array ByteArray} {alive a : List Nat} {k : Nat} {c : UInt8}
    (cs : List UInt8) (ha : Reader.narrowBy keys alive k c = a) (hne : a ≠ []) :
    Reader.narrowAll keys alive k (c :: cs) = Reader.narrowAll keys a (k + 1) cs := by
  rw [Reader.narrowAll, ha]
  cases a with
  | nil => exact absurd rfl hne
  | cons => rfl

/-- Over the plain octets of a key the matching narrows the keys still possible, an octet a step. -/
theorem selectKey_go_plain {keys : Array ByteArray} :
    ∀ {ks : List UInt8}, (∀ o ∈ ks, o ≠ 0x22 ∧ o ≠ 0x5C ∧ o ≠ 0) →
    ∀ (p k : Nat) (alive alive' : List Nat) (k' fuel : Nat), d.rest p = ks ++ t →
      Reader.narrowAll keys alive k ks = some (alive', k') →
      Reader.selectKey.go keys d i p k alive (fuel + ks.length) =
        Reader.selectKey.go keys d i (p + ks.length) k' alive' fuel
  | [], _, p, k, alive, alive', k', fuel, _, h => by
    simp only [Reader.narrowAll, Option.some.injEq, Prod.mk.injEq] at h
    obtain ⟨rfl, rfl⟩ := h
    rfl
  | c :: cs, hs, p, k, alive, alive', k', fuel, hd, h => by
    obtain ⟨h₁, h₂, h₃⟩ := hs c List.mem_cons_self
    have hd' : d.rest p = c :: (cs ++ t) := hd
    cases ha : Reader.narrowBy keys alive k c with
    | nil => rw [Reader.narrowAll, ha] at h; contradiction
    | cons a as =>
      rw [narrowAll_cons cs ha (List.cons_ne_nil a as)] at h
      have hone : Reader.narrowAll keys alive k [c] = some (a :: as, k + 1) := by
        rw [narrowAll_cons [] ha (List.cons_ne_nil a as)]
        rfl
      rw [show fuel + (c :: cs).length = fuel + cs.length + 1 by simp; omega, Reader.selectKey.go]
      simp only [at_of_rest hd', beq_eq_false_iff_ne.mpr h₁, beq_eq_false_iff_ne.mpr h₃,
        beq_eq_false_iff_ne.mpr h₂, Bool.false_eq_true, ↓reduceIte, hone]
      rw [selectKey_go_plain (fun o ho => hs o (List.mem_cons_of_mem c ho)) (p + 1) (k + 1) _ alive' k'
        fuel (rest_succ hd') h]
      simp only [List.length_cons]
      congr 1
      omega


theorem selectKey_go_close {keys : Array ByteArray} {p k idx fuel : Nat} {alive : List Nat}
    {key : ByteArray} (hd : d.at p = 0x22) (hk : keys[idx]? = some key)
    (hsize : key.size ≤ p - (i + 1)) :
    Reader.selectKey.go keys d i p k (idx :: alive) (fuel + 1) = .ok (some idx, p + 1) := by
  simp only [Reader.selectKey.go, hd, beq_self_eq_true, ↓reduceIte, List.head?_cons, hk,
    Nat.not_lt.mpr hsize]

/-- A key of plain octets selects the first of the keys it leaves possible, when it is no shorter
than that key. -/
theorem selectKey_plain {keys : Array ByteArray} {ks : List UInt8} {idx k : Nat} {alive : List Nat}
    {key : ByteArray} (hs : ∀ o ∈ ks, o ≠ 0x22 ∧ o ≠ 0x5C ∧ o ≠ 0) (hne : ks ≠ [])
    (hn : Reader.narrowAll keys (List.range (if keys.size ≤ 8 then 8 else 16)) 0 ks = some (idx :: alive, k))
    (hk : keys[idx]? = some key) (hsize : key.size ≤ ks.length)
    (h : d.rest i = 0x22 :: ks ++ 0x22 :: t) :
    Reader.selectKey keys d i = .ok (some idx, i + ks.length + 2) := by
  obtain ⟨c, cs, rfl⟩ := List.exists_cons_of_ne_nil hne
  obtain ⟨hc₁, -, hc₃⟩ := hs c List.mem_cons_self
  have hin : d.rest (i + 1) = c :: cs ++ 0x22 :: t := rest_succ h
  have hclose : d.rest (i + 1 + (c :: cs).length) = 0x22 :: t := rest_add hin
  -- the key and both its quotes lie within the document
  have hroom := length_rest d i
  rw [h] at hroom
  simp only [List.cons_append, List.length_cons, List.length_append] at hroom
  unfold Reader.selectKey
  simp only [at_of_rest hin, beq_eq_false_iff_ne.mpr hc₁, beq_eq_false_iff_ne.mpr hc₃,
    Bool.false_eq_true, ↓reduceIte]
  rw [show d.size + 1 = (d.size - (c :: cs).length) + 1 + (c :: cs).length by simp; omega,
    selectKey_go_plain hs (i + 1) 0 _ _ k _ hin hn,
    selectKey_go_close (at_of_rest hclose) hk (by omega)]
  simp only [List.length_cons]
  congr 2
  omega

/-- The keys `keys` select the one at `idx` for the printed key `str`, wherever it stands. -/
def SelectsKey (keys : Array ByteArray) (str : String) (idx : Nat) : Prop :=
  ∀ (d : Doc) (i : Nat) (t : List UInt8), d.rest i = octetsOf (quoteText str) ++ t →
    Reader.selectKey keys d i = .ok (some idx, i + (octetsOf (quoteText str)).length)

/-- A printed key of plain octets selects the first key it leaves possible. Each hypothesis is a
computation on the key and the keys. -/
theorem selectsKey_of_plain {keys : Array ByteArray} {str : String} {idx k : Nat}
    {alive : List Nat} {key : ByteArray}
    (hq : octetsOf (quoteText str) = 0x22 :: octetsOf str ++ [0x22])
    (hs : (octetsOf str).all (fun o => o != 0x22 && o != 0x5C && o != 0))
    (hne : octetsOf str ≠ [])
    (hn : Reader.narrowAll keys (List.range (if keys.size ≤ 8 then 8 else 16)) 0 (octetsOf str) =
      some (idx :: alive, k))
    (hk : keys[idx]? = some key) (hsize : key.size ≤ (octetsOf str).length) :
    SelectsKey keys str idx := by
  intro d i t h
  have hplain : ∀ o ∈ octetsOf str, o ≠ 0x22 ∧ o ≠ 0x5C ∧ o ≠ 0 := by
    intro o ho
    have := List.all_eq_true.mp hs o ho
    simp only [Bool.and_eq_true, bne_iff_ne, ne_eq] at this
    exact ⟨this.1.1, this.1.2, this.2⟩
  rw [hq] at h ⊢
  rw [selectKey_plain hplain hne hn hk hsize (by simpa using h)]
  simp
  omega

/-- Among the fields of a record, the printed key `key` selects `f`. -/
def SelectsField {σ : Type} (fields : List (Reader.Field σ)) (key : String) (f : Reader.Field σ) : Prop :=
  ∃ idx, SelectsKey ((Reader.record.sorted fields).map (·.key.toUTF8)) key idx ∧
    (Reader.record.sorted fields)[idx]? = some f

/-- What the members of a printed object do to a record's state, member by member: each key
selects a field, whose reader reads the member's value. -/
inductive ReadsMembers {σ : Type} (fields : List (Reader.Field σ)) :
    List (String × Value) → (σ → σ) → Prop
  | nil : ReadsMembers fields [] id
  | cons {key : String} {v : Value} {f : Reader.Field σ} {g : σ → σ} {ms : List (String × Value)}
      {h : σ → σ} : SelectsField fields key f → Reads f.read v g → ReadsMembers fields ms h →
      ReadsMembers fields ((key, v) :: ms) (h ∘ g)

section Members

variable {σ : Type} {fields : List (Reader.Field σ)} {n j : Nat}

/-- One member, read from its key to the comma or brace after its value. -/
theorem member_step {key : String} {v : Value} {f : Reader.Field σ} {g : σ → σ} {c : UInt8}
    (hsel : SelectsField fields key f) (hr : Reads f.read v g)
    (h : d.rest j = memberOctets (key, v) ++ c :: t) (hc : c = 0x2C ∨ c = 0x7D) (fuel : Nat) (s : σ) :
    Reader.record.members fields d n j (fuel + 1) s =
      (if c = 0x7D then (pure (j + (memberOctets (key, v)).length + 1) : EStateM DecodeError σ Nat)
        else Reader.record.members fields d n (j + (memberOctets (key, v)).length + 1) fuel) (g s) := by
  obtain ⟨idx, hkey, hidx⟩ := hsel
  rw [memberOctets, List.append_assoc, List.cons_append] at h
  obtain ⟨t', h'⟩ := (quoted_quoteText key).rest_cons h
  have hcolon := rest_add h
  have hval := rest_succ hcolon
  have hend := rest_add hval
  have hcloses : Closes (c :: t) := by
    rcases hc with rfl | rfl
    · exact .comma t
    · exact .brace t
  rw [Reader.record.members]
  simp only [skipBlank_of_rest h' (by decide), at_of_rest h', bne_self_eq_false, Bool.false_eq_true,
    ↓reduceIte, hkey d j _ h, Reader.scan, pure_bind, skipBlank_of_rest hcolon (by decide),
    at_of_rest hcolon, Option.bind_some, hidx]
  rw [bind_of_ok (hr d n _ (c :: t) s hval hcloses)]
  have hlen : j + (memberOctets (key, v)).length =
      j + (octetsOf (quoteText key)).length + 1 + (octetsOf v.render).length := by
    simp only [memberOctets, List.length_append, List.length_cons]
    omega
  rw [hlen]
  rcases hc with rfl | rfl
  · simp only [skipBlank_of_rest hend (by decide), at_of_rest hend,
      show ((0x2C : UInt8) == 0x7D) = false by decide, beq_self_eq_true, Bool.false_eq_true,
      ↓reduceIte, show (0x2C : UInt8) ≠ 0x7D by decide]
  · simp only [skipBlank_of_rest hend (by decide), at_of_rest hend, beq_self_eq_true, ↓reduceIte]

/-- The members of a printed object, up to its closing brace, are read one by one into the state. -/
theorem members_reads {ms : List (String × Value)} {F : σ → σ} (hm : ReadsMembers fields ms F)
    (hne : ms ≠ []) (j fuel : Nat) (s : σ) (hfuel : ms.length ≤ fuel)
    (h : d.rest j = octetsOf (renderMembers ms) ++ 0x7D :: t) :
    Reader.record.members fields d n j fuel s =
      .ok (j + (octetsOf (renderMembers ms)).length + 1) (F s) := by
  induction hm generalizing j fuel s with
  | nil => exact absurd rfl hne
  | @cons key v f g ms H hsel hr hms ih =>
    obtain ⟨fuel, rfl⟩ : ∃ k, fuel = k + 1 := ⟨fuel - 1, by simp at hfuel; omega⟩
    cases ms with
    | nil =>
      -- the last member: its value is closed by the brace
      cases hms
      rw [octetsOf_renderMembers_single] at h ⊢
      rw [member_step hsel hr h (.inr rfl), if_pos rfl]
      rfl
    | cons m rest =>
      rw [octetsOf_renderMembers_cons_cons] at h ⊢
      rw [List.append_assoc, List.cons_append] at h
      have hnext := rest_succ (rest_add h)
      rw [member_step hsel hr h (.inl rfl), if_neg (by decide),
        ih (by simp) _ fuel (g s) (by simp at hfuel ⊢; omega) hnext]
      simp only [Function.comp_apply, List.length_append, List.length_cons]
      congr 1
      omega

/-- Every member writes at least one octet. -/
theorem length_le_renderMembers (ms : List (String × Value)) :
    ms.length ≤ (octetsOf (renderMembers ms)).length := by
  induction ms with
  | nil => simp
  | cons m rest ih =>
    have hkey : 1 ≤ (memberOctets m).length := by
      simp only [memberOctets, List.length_append, List.length_cons]
      omega
    cases rest with
    | nil => rw [octetsOf_renderMembers_single]; simpa using hkey
    | cons m' rest =>
      rw [octetsOf_renderMembers_cons_cons]
      simp only [List.length_cons, List.length_append] at ih ⊢
      omega

end Members

theorem renderMembers_cons_quote (m : String × Value) (rest : List (String × Value)) :
    ∃ u, octetsOf (renderMembers (m :: rest)) = 0x22 :: u := by
  obtain ⟨ss, -, hq⟩ := quoted_quoteText m.1
  cases rest with
  | nil => exact ⟨_, by rw [octetsOf_renderMembers_single, memberOctets, hq]; rfl⟩
  | cons m' rest => exact ⟨_, by rw [octetsOf_renderMembers_cons_cons, memberOctets, hq]; rfl⟩

/-- A printed object whose members each select a field and are read by it is read member by
member. -/
theorem record_reads {σ : Type} {fields : List (Reader.Field σ)} {ms : List (String × Value)}
    {F : σ → σ} (hm : ReadsMembers fields ms F) : Reads (Reader.record fields) (.obj ms) F := by
  intro d n i t s h _
  rw [octetsOf_render_obj] at h ⊢
  have h' : d.rest i = 0x7B :: (octetsOf (renderMembers ms) ++ 0x7D :: t) := by simpa using h
  have hin := rest_succ h'
  have hopen : ((0x7B : UInt8) == 0x6E) = false := by decide
  cases ms with
  | nil =>
    -- `{}`: the brace closes at once
    cases hm
    have hin' : d.rest (i + 1) = 0x7D :: t := by simpa [renderMembers, octetsOf_eq_flatMap] using hin
    simp only [Reader.record, skipBlank_of_rest h' (by decide), at_of_rest h', hopen,
      bne_self_eq_false, Bool.false_eq_true, ↓reduceIte, skipBlank_of_rest hin' (by decide),
      at_of_rest hin', beq_self_eq_true]
    simp [renderMembers, octetsOf_eq_flatMap]
    rfl
  | cons m rest =>
    obtain ⟨u, hu⟩ := renderMembers_cons_quote m rest
    have hfirst : d.rest (i + 1) = 0x22 :: (u ++ 0x7D :: t) := by rw [hin, hu]; rfl
    -- every member takes an octet, so the fuel of the loop suffices
    have hfuel : (m :: rest).length ≤ d.size + 1 := by
      have := length_le_renderMembers (m :: rest)
      have := length_rest d (i + 1)
      rw [hin, List.length_append] at this
      omega
    simp only [Reader.record, skipBlank_of_rest h' (by decide), at_of_rest h', hopen,
      bne_self_eq_false, Bool.false_eq_true, ↓reduceIte, skipBlank_of_rest hfirst (by decide),
      at_of_rest hfirst, show ((0x22 : UInt8) == 0x7D) = false by decide]
    rw [members_reads hm (by simp) (i + 1) _ s hfuel hin]
    simp only [List.length_cons, List.length_append, List.length_nil]
    congr 1
    omega

/-! ## Keys of an object -/

section ObjectKeys

variable {n k : Nat}

/-- One member, from its key to the comma or brace after its tidy value, adds its key. -/
theorem objectKeys_step {key : String} {v : Value} {c : UInt8} (hv : v.Tidy k)
    (hk : n + k ≤ nestingLimit) (h : d.rest i = memberOctets (key, v) ++ c :: t)
    (hc : c = 0x2C ∨ c = 0x7D) (acc : Array String) (fuel : Nat) (s : Option (Array String)) :
    Reader.objectKeys.members d n i acc (fuel + 1) s =
      (if c = 0x7D then (pure (acc.push key, i + (memberOctets (key, v)).length + 1) :
          EStateM DecodeError (Option (Array String)) (Array String × Nat))
        else Reader.objectKeys.members d n (i + (memberOctets (key, v)).length + 1) (acc.push key) fuel) s := by
  rw [memberOctets, List.append_assoc, List.cons_append] at h
  have hcolon := rest_add h
  have hval := rest_succ hcolon
  have hend := rest_add hval
  have hcloses : Closes (c :: t) := by
    rcases hc with rfl | rfl
    · exact .comma t
    · exact .brace t
  have hkey : Reader.fresh (Reader.string {}) "" d n i s =
      .ok (key, i + (octetsOf (quoteText key)).length) s := by
    unfold Reader.fresh
    rw [string_quoted key h {} n ""]
  rw [Reader.objectKeys.members, bind_of_ok hkey]
  simp only [skipBlank_of_rest hcolon (by decide), at_of_rest hcolon, bne_self_eq_false,
    Bool.false_eq_true, ↓reduceIte, skipValue_render hv hk hval hcloses.not_numberPart, Reader.scan,
    pure_bind]
  have hlen : i + (memberOctets (key, v)).length =
      i + (octetsOf (quoteText key)).length + 1 + (octetsOf v.render).length := by
    simp only [memberOctets, List.length_append, List.length_cons]
    omega
  rw [hlen]
  rcases hc with rfl | rfl
  · simp only [skipBlank_of_rest hend (by decide), at_of_rest hend,
      show ((0x2C : UInt8) == 0x7D) = false by decide, beq_self_eq_true, Bool.false_eq_true,
      ↓reduceIte, show (0x2C : UInt8) ≠ 0x7D by decide]
  · simp only [skipBlank_of_rest hend (by decide), at_of_rest hend, beq_self_eq_true, ↓reduceIte]

/-- The members of a printed object with tidy values, up to its closing brace, add their keys in
order. -/
theorem objectKeys_members (hk : n + k ≤ nestingLimit) :
    ∀ (ms : List (String × Value)), ms ≠ [] → (∀ m ∈ ms, m.2.Tidy k) →
      ∀ (j : Nat) (acc : Array String) (fuel : Nat) (s : Option (Array String)), ms.length ≤ fuel →
      d.rest j = octetsOf (renderMembers ms) ++ 0x7D :: t →
      Reader.objectKeys.members d n j acc fuel s =
        .ok (acc ++ (ms.map Prod.fst).toArray, j + (octetsOf (renderMembers ms)).length + 1) s
  | [], hne, _, _, _, _, _, _, _ => absurd rfl hne
  | [(key, v)], _, hv, j, acc, fuel, s, hfuel, h => by
    obtain ⟨fuel, rfl⟩ : ∃ f, fuel = f + 1 := ⟨fuel - 1, by simp at hfuel; omega⟩
    rw [octetsOf_renderMembers_single] at h ⊢
    rw [objectKeys_step (hv _ List.mem_cons_self) hk h (.inr rfl), if_pos rfl]
    simp
    rfl
  | (key, v) :: m :: rest, _, hv, j, acc, fuel, s, hfuel, h => by
    obtain ⟨fuel, rfl⟩ : ∃ f, fuel = f + 1 := ⟨fuel - 1, by simp at hfuel; omega⟩
    rw [octetsOf_renderMembers_cons_cons] at h ⊢
    rw [List.append_assoc, List.cons_append] at h
    have hnext := rest_succ (rest_add h)
    rw [objectKeys_step (hv _ List.mem_cons_self) hk h (.inl rfl), if_neg (by decide),
      objectKeys_members hk (m :: rest) (by simp) (fun u hu => hv u (List.mem_cons_of_mem _ hu))
        _ _ fuel s (by simp at hfuel ⊢; omega) hnext]
    simp only [List.map_cons, List.length_append, List.length_cons]
    congr 2
    · simp
    · omega

/-- The keys of a printed object with tidy values, read to be looked at, are its keys in order. -/
theorem objectKeys_reads {ms : List (String × Value)} (hv : ∀ m ∈ ms, m.2.Tidy k)
    (hk : n + 1 + k ≤ nestingLimit) (h : d.rest i = octetsOf (Value.obj ms).render ++ t)
    (s : Option (Array String)) :
    Reader.objectKeys d n i s =
      .ok (i + (octetsOf (Value.obj ms).render).length) (some (ms.map Prod.fst).toArray) := by
  rw [octetsOf_render_obj] at h ⊢
  have h' : d.rest i = 0x7B :: (octetsOf (renderMembers ms) ++ 0x7D :: t) := by simpa using h
  have hin := rest_succ h'
  have hsize : d.size ≠ 0 := Nat.pos_iff_ne_zero.mp (Nat.lt_of_le_of_lt (Nat.zero_le i) (lt_size_of_rest h'))
  have hset : ∀ a : Option (Array String),
      (set a : EStateM DecodeError (Option (Array String)) PUnit) s = .ok ⟨⟩ a := fun _ => rfl
  cases ms with
  | nil =>
    have hin' : d.rest (i + 1) = 0x7D :: t := by simpa [renderMembers, octetsOf_eq_flatMap] using hin
    simp only [Reader.objectKeys, skipBlank_of_rest h' (by decide), at_of_rest h', hsize,
      show ((0x7B : UInt8) == 0x6E) = false by decide, bne_self_eq_false, Bool.false_eq_true,
      ↓reduceIte, skipBlank_of_rest hin' (by decide), at_of_rest hin', beq_self_eq_true]
    rw [bind_of_ok (hset _)]
    simp [renderMembers, octetsOf_eq_flatMap]
    rfl
  | cons m rest =>
    obtain ⟨u, hu⟩ := renderMembers_cons_quote m rest
    have hfirst : d.rest (i + 1) = 0x22 :: (u ++ 0x7D :: t) := by rw [hin, hu]; rfl
    have hfuel : (m :: rest).length ≤ d.size + 1 := by
      have := length_le_renderMembers (m :: rest)
      have := length_rest d (i + 1)
      rw [hin, List.length_append] at this
      omega
    simp only [Reader.objectKeys, skipBlank_of_rest h' (by decide), at_of_rest h', hsize,
      show ((0x7B : UInt8) == 0x6E) = false by decide, bne_self_eq_false, Bool.false_eq_true,
      ↓reduceIte, skipBlank_of_rest hfirst (by decide), at_of_rest hfirst,
      show ((0x22 : UInt8) == 0x7D) = false by decide]
    rw [bind_of_ok (objectKeys_members hk (m :: rest) (by simp) hv (i + 1) #[] _ s hfuel hin),
      bind_of_ok (hset _)]
    simp only [List.length_cons, List.length_append, List.length_nil, Array.empty_append]
    rw [show i + 1 + (octetsOf (renderMembers (m :: rest))).length + 1 =
      i + ((octetsOf (renderMembers (m :: rest))).length + 1 + 1) by omega]
    rfl

end ObjectKeys

/-! ## Whole documents -/

theorem rest_toUTF8 (str : String) : Doc.rest str.toUTF8 0 = octetsOf str ++ [] := by
  rw [rest, List.drop_zero, List.append_nil, octetsOf, toList_eq_data]

theorem size_toUTF8 (str : String) : str.toUTF8.size = (octetsOf str).length := by
  rw [octetsOf, toList_eq_data, Array.length_toList]
  rfl

theorem decode_of_run {σ : Type} {r : Reader σ} {start s : σ} (h : r d 0 0 start = .ok d.size s) :
    decode r start d = .ok s := by
  have hnil : d.rest d.size = [] := by
    rw [← List.length_eq_zero_iff, length_rest, Nat.sub_self]
  have hend : checkEnd d d.size = .ok () := by
    simp only [checkEnd, skipBlank_of_rest_nil hnil, at_of_rest_nil hnil, beq_self_eq_true, ↓reduceIte]
  simp only [decode, decodePartial, h, hend]

theorem decode_reads {σ : Type} {r : Reader σ} {v : Value} {f : σ → σ} (h : Reads r v f) (start : σ) :
    decode r start v.render.toUTF8 = .ok (f start) := by
  apply decode_of_run
  rw [h _ 0 0 [] start (rest_toUTF8 v.render) .nil, size_toUTF8, Nat.zero_add]

/-- A value read from its own text decodes a printed tidy value by reading the whole text. -/
theorem decode_delegate {α : Type} {read : Doc → α → Except DecodeError α} {v : Value} {k : Nat}
    (hv : v.Tidy k) (hk : k ≤ nestingLimit) {c : UInt8} {rest : List UInt8}
    (hc : octetsOf v.render = c :: rest) (hb : isBlank c = false) (start : α) :
    decode (Reader.delegate read) start v.render.toUTF8 = read v.render.toUTF8 start := by
  have h := rest_toUTF8 v.render
  have h' : Doc.rest v.render.toUTF8 0 = c :: (rest ++ []) := by rw [h, hc]; rfl
  have hskip := skipValue_render hv (show 0 + k ≤ nestingLimit by omega) h (t := []) rfl
  rw [← size_toUTF8, Nat.zero_add] at hskip
  have hget : (get : EStateM DecodeError α α) start = .ok start start := rfl
  -- the delegate skips the value, hands its text to `read`, and keeps what `read` gives
  cases hr : read v.render.toUTF8 start with
  | ok a =>
    apply decode_of_run
    simp only [Reader.delegate, skipBlank_of_rest h' hb, hskip, Reader.scan, pure_bind]
    rw [bind_of_ok hget, ByteArray.extract_zero_size, hr]
    rfl
  | error e =>
    have hrun : Reader.delegate read v.render.toUTF8 0 0 start = .error e start := by
      simp only [Reader.delegate, skipBlank_of_rest h' hb, hskip, Reader.scan, pure_bind]
      rw [bind_of_ok hget, ByteArray.extract_zero_size, hr]
      rfl
    simp only [decode, decodePartial, hrun]

end RaceArchive.Json
