import Mathlib
import RaceArchive.Json.Read
import RaceArchive.Json.Value
import RaceArchive.Proofs.Octets

/-!
# Compact text, scanned

The printer of `Value` writes compact text and the scanner steps through it. This module shows
that the two fit: every character stands in a quoted text in one of three shapes (`Escaped`), so
what the printer quotes is a literal for the text it quotes (`quoted_quoteText`), or for the text
its octets read as (`quoted_quoteOctets`); a literal is stepped over by `skipString` and read back
by `readStringBody` as the octets of its text (`Quoted.skipString`, `Quoted.readStringBody`); and
a printed value is stepped over whole by `skipValue` (`skipValue_render`), from one lemma per kind
of value that the first octet picks (`skipValue_word`, `skipValue_number`, `skipValue_quoted`,
`skipValue_bracketed`).

Positions are handled through `Doc.rest`, the octets from a position on: a lemma about the text at
position `i` assumes `d.rest i = text ++ t`, with `t` what follows it.
-/

namespace RaceArchive.Json

open Utf8

/-! ## Positions -/

namespace Doc

/-- The octets of a document from position `i` on. -/
def rest (d : Doc) (i : Nat) : List UInt8 := d.data.toList.drop i

variable {d : Doc} {i : Nat} {s t : List UInt8} {c : UInt8}

theorem length_rest (d : Doc) (i : Nat) : (d.rest i).length = d.size - i := by
  rw [rest, List.length_drop]
  rfl

theorem rest_add (h : d.rest i = s ++ t) : d.rest (i + s.length) = t := by
  rw [rest, ← List.drop_drop, ← rest, h, List.drop_left]

theorem rest_succ (h : d.rest i = c :: t) : d.rest (i + 1) = t :=
  rest_add (s := [c]) h

theorem at_of_rest (h : d.rest i = c :: t) : d.at i = c := by
  show octet d i = c
  simpa using octet_of_drop (b := d) (l := [c]) (k := 0) h (by simp)

theorem at_of_rest_nil (h : d.rest i = []) : d.at i = 0 := by
  have : octet d i = ([] : List UInt8).headD 0 := by
    rw [octet_eq_headD]
    exact congrArg (List.headD · 0) h
  exact this

theorem lt_size_of_rest (h : d.rest i = c :: t) : i < d.size := by
  have := length_rest d i
  rw [h] at this
  simp at this
  omega

theorem getElem_eq_at (h : i < d.size) : d[i] = d.at i := by
  simp [Doc.at, h]

end Doc

open Doc

variable {d : Doc} {i j : Nat} {s t : List UInt8} {c : UInt8}

theorem skipBlank_of_rest (h : d.rest i = c :: t) (hc : isBlank c = false) : skipBlank d i = i := by
  rw [skipBlank, dif_pos (lt_size_of_rest h), getElem_eq_at, at_of_rest h, hc]
  rfl

theorem skipBlank_of_rest_nil (h : d.rest i = []) : skipBlank d i = i := by
  rw [skipBlank, dif_neg]
  have := length_rest d i
  rw [h] at this
  simp at this
  omega

/-! ## String literals -/

/-- Octets that may stand between the quotes of a string literal: octets other than the quote,
the backslash and NUL, and escapes, a backslash followed by any octet but NUL. -/
inductive Literal : List UInt8 → Prop
  | nil : Literal []
  | plain {c : UInt8} {t : List UInt8} : c ≠ 0x22 → c ≠ 0x5C → c ≠ 0 → Literal t → Literal (c :: t)
  | escape {e : UInt8} {t : List UInt8} : e ≠ 0 → Literal t → Literal (0x5C :: e :: t)

theorem Literal.append (hs : Literal s) (ht : Literal t) : Literal (s ++ t) := by
  induction hs with
  | nil => exact ht
  | plain hq hb hz _ ih => exact .plain hq hb hz ih
  | escape he _ ih => exact .escape he ih

theorem Literal.of_plain (h : ∀ o ∈ s, o ≠ 0x22 ∧ o ≠ 0x5C ∧ o ≠ 0) : Literal s := by
  induction s with
  | nil => exact .nil
  | cons o s ih =>
    obtain ⟨hq, hb, hz⟩ := h o (by simp)
    exact .plain hq hb hz (ih fun o ho => h o (by simp [ho]))

theorem Literal.flatten {ss : List (List UInt8)} (h : ∀ s ∈ ss, Literal s) : Literal ss.flatten := by
  induction ss with
  | nil => exact .nil
  | cons s ss ih => exact (h s (by simp)).append (ih fun s hs => h s (by simp [hs]))

/-- `skipString` steps over a literal to just past its closing quote. -/
theorem skipString_go_literal {what : String} (hs : Literal s) :
    ∀ j fuel, d.rest j = s ++ 0x22 :: t → (d.rest j).length < fuel →
      skipString.go d what j fuel = .ok (j + s.length + 1) := by
  induction hs with
  | nil =>
    intro j fuel h hf
    obtain ⟨fuel, rfl⟩ : ∃ f, fuel = f + 1 := ⟨fuel - 1, by omega⟩
    simp only [List.nil_append] at h
    simp [skipString.go, at_of_rest h]
  | @plain o s hq hb hz _ ih =>
    intro j fuel h hf
    obtain ⟨fuel, rfl⟩ : ∃ f, fuel = f + 1 := ⟨fuel - 1, by omega⟩
    have hrest := rest_succ h
    have hf' : (d.rest (j + 1)).length < fuel := by
      rw [hrest]
      rw [h] at hf
      simp at hf ⊢
      omega
    rw [skipString.go, at_of_rest h, ih (j + 1) fuel hrest hf']
    simp [hq, hb, hz]
    omega
  | @escape e s he _ ih =>
    intro j fuel h hf
    obtain ⟨fuel, rfl⟩ : ∃ f, fuel = f + 1 := ⟨fuel - 1, by omega⟩
    have h1 := rest_succ h
    have hrest := rest_succ h1
    have hf' : (d.rest (j + 1 + 1)).length < fuel := by
      rw [hrest]
      rw [h] at hf
      simp at hf ⊢
      omega
    rw [skipString.go, at_of_rest h, at_of_rest h1, ih (j + 1 + 1) fuel hrest hf']
    simp [he]
    omega

theorem skipString_literal {what : String} (hs : Literal s) (h : d.rest i = 0x22 :: s ++ 0x22 :: t) :
    skipString d i what = .ok (i + s.length + 2) := by
  have hf := length_rest d (i + 1)
  rw [skipString, skipString_go_literal hs (i + 1) _ (rest_succ h) (by omega)]
  congr 1
  omega

/-! ## How a character is quoted -/

theorem octetsOf_eq_flatMap (s : String) : octetsOf s = s.toList.flatMap String.utf8EncodeChar := by
  rw [← octetsOf_ofList, String.ofList_toList]

theorem le_of_mem_utf8EncodeChar {ch : Char} (hc : 0x80 ≤ ch.toNat) :
    ∀ o ∈ String.utf8EncodeChar ch, 0x80 ≤ o.toNat := by
  have hv : ch.toNat < 0x110000 := by
    have : ch.toNat < 0xD800 ∨ 0xDFFF < ch.toNat ∧ ch.toNat < 0x110000 := ch.valid
    omega
  rw [utf8EncodeChar_eq]
  split_ifs <;> simp [Nat.toUInt8_eq] <;> omega

theorem hexFixed_four (n : Nat) :
    Text.hexFixed 4 n = String.ofList [Text.hexDigit (n / 4096 % 16), Text.hexDigit (n / 256 % 16),
      Text.hexDigit (n / 16 % 16), Text.hexDigit (n % 16)] := by
  simp [Text.hexFixed, List.range_succ]

theorem hexFixed_two (n : Nat) :
    Text.hexFixed 2 n = String.ofList [Text.hexDigit (n / 16 % 16), Text.hexDigit (n % 16)] := by
  simp [Text.hexFixed, List.range_succ]

/-- How a character stands inside a quoted text: a backslash and a letter, a backslash, `u` and
the four hexadecimal digits of its code, or its own octets, none of them a quote, a backslash or
NUL. -/
inductive Escaped : Char → List UInt8 → Prop
  | letter {ch : Char} {e : UInt8} : ch.toNat < 0x80 → simpleEscape? e = some ch.toNat.toUInt8 →
      Escaped ch [0x5C, e]
  | unicode {ch : Char} : ch.toNat < 0x10000 →
      Escaped ch (0x5C :: 0x75 :: octetsOf (Text.hexFixed 4 ch.toNat))
  | raw {ch : Char} : (∀ o ∈ String.utf8EncodeChar ch, o ≠ 0x22 ∧ o ≠ 0x5C ∧ o ≠ 0) →
      Escaped ch (String.utf8EncodeChar ch)

theorem utf8EncodeChar_hexDigit {k : Nat} (hk : k < 16) :
    String.utf8EncodeChar (Text.hexDigit k) = [(Text.hexDigit k).toNat.toUInt8] := by
  have hascii : ∀ k : Fin 16, (Text.hexDigit k).toNat < 0x80 := by decide
  exact utf8EncodeChar_of_lt (hascii ⟨k, hk⟩)

theorem Escaped.literal {ch : Char} (h : Escaped ch s) : Literal s := by
  cases h with
  | letter _ he =>
    refine .escape ?_ .nil
    rintro rfl
    simp [simpleEscape?] at he
  | unicode hlt =>
    refine .escape (by decide) (.of_plain fun o ho => ?_)
    have hplain : ∀ k : Fin 16, (Text.hexDigit k).toNat.toUInt8 ≠ 0x22 ∧
        (Text.hexDigit k).toNat.toUInt8 ≠ 0x5C ∧ (Text.hexDigit k).toNat.toUInt8 ≠ 0 := by decide
    rw [hexFixed_four, octetsOf_ofList] at ho
    simp only [List.flatMap_cons, List.flatMap_nil, List.append_nil, List.mem_append,
      utf8EncodeChar_hexDigit (Nat.mod_lt _ (by omega : 16 > 0)), List.mem_singleton] at ho
    rcases ho with rfl | rfl | rfl | rfl <;> exact hplain ⟨_, Nat.mod_lt _ (by omega)⟩
  | raw hplain => exact .of_plain hplain

/-- `escapeChar` writes each character in one of the three shapes. -/
theorem escaped_escapeChar (ch : Char) : Escaped ch (octetsOf (escapeChar ch)) := by
  unfold escapeChar
  split
  · rw [show octetsOf "\\\"" = [0x5C, 0x22] by rw [octetsOf_eq_flatMap]; decide]
    exact .letter (by decide) (by decide)
  · rw [show octetsOf "\\\\" = [0x5C, 0x5C] by rw [octetsOf_eq_flatMap]; decide]
    exact .letter (by decide) (by decide)
  · rw [show octetsOf "\\n" = [0x5C, 0x6E] by rw [octetsOf_eq_flatMap]; decide]
    exact .letter (by decide) (by decide)
  · rw [show octetsOf "\\r" = [0x5C, 0x72] by rw [octetsOf_eq_flatMap]; decide]
    exact .letter (by decide) (by decide)
  · rw [show octetsOf "\\t" = [0x5C, 0x74] by rw [octetsOf_eq_flatMap]; decide]
    exact .letter (by decide) (by decide)
  · rw [show octetsOf "\\u003c" = 0x5C :: 0x75 :: octetsOf (Text.hexFixed 4 '<'.toNat) by
      rw [octetsOf_eq_flatMap, octetsOf_eq_flatMap]; decide]
    exact .unicode (by decide)
  · rw [show octetsOf "\\u003e" = 0x5C :: 0x75 :: octetsOf (Text.hexFixed 4 '>'.toNat) by
      rw [octetsOf_eq_flatMap, octetsOf_eq_flatMap]; decide]
    exact .unicode (by decide)
  · rw [show octetsOf "\\u0026" = 0x5C :: 0x75 :: octetsOf (Text.hexFixed 4 '&'.toNat) by
      rw [octetsOf_eq_flatMap, octetsOf_eq_flatMap]; decide]
    exact .unicode (by decide)
  · next hq hb _ _ _ _ _ _ =>
    split_ifs with hlow hsep
    · -- a control character: two zero digits, then its own two
      have hfour : octetsOf (Text.hexFixed 4 ch.toNat) =
          octetsOf "00" ++ octetsOf (Text.hexFixed 2 ch.toNat) := by
        rw [hexFixed_four, hexFixed_two, Nat.div_eq_of_lt (by omega : ch.toNat < 4096),
          Nat.div_eq_of_lt (by omega : ch.toNat < 256)]
        simp only [octetsOf_ofList, octetsOf_eq_flatMap "00"]
        rfl
      rw [octetsOf_append,
        show octetsOf "\\u00" = 0x5C :: 0x75 :: octetsOf "00" by
          rw [octetsOf_eq_flatMap, octetsOf_eq_flatMap]; decide,
        List.cons_append, List.cons_append, ← hfour]
      exact .unicode (by omega)
    · rw [octetsOf_append, show octetsOf "\\u" = [0x5C, 0x75] by rw [octetsOf_eq_flatMap]; decide]
      exact .unicode (by omega)
    · rw [show octetsOf ch.toString = String.utf8EncodeChar ch by
        rw [octetsOf_eq_flatMap]; simp]
      refine .raw fun o ho => ?_
      by_cases hc : ch.toNat < 0x80
      · rw [utf8EncodeChar_of_lt hc, List.mem_singleton] at ho
        subst ho
        have h34 : ch.toNat ≠ 0x22 := fun h => hq (by rw [← Char.ofNat_toNat ch, h])
        have h92 : ch.toNat ≠ 0x5C := fun h => hb (by rw [← Char.ofNat_toNat ch, h])
        simp only [ne_eq, ← UInt8.toNat_inj, Nat.toUInt8_eq, UInt8.toNat_ofNat', UInt8.reduceToNat]
        omega
      · have := le_of_mem_utf8EncodeChar (by omega) o ho
        simp only [ne_eq, ← UInt8.toNat_inj]
        simp only [UInt8.reduceToNat]
        omega

/-! ## Reading a string literal back -/

theorem hexValue?_hexDigit {k : Nat} (hk : k < 16) :
    hexValue? (Text.hexDigit k).toNat.toUInt8 = some k := by
  have h : ∀ k : Fin 16, hexValue? (Text.hexDigit k).toNat.toUInt8 = some k := by decide
  exact h ⟨k, hk⟩

theorem octetsOf_hexFixed_four (n : Nat) :
    octetsOf (Text.hexFixed 4 n) = [(Text.hexDigit (n / 4096 % 16)).toNat.toUInt8,
      (Text.hexDigit (n / 256 % 16)).toNat.toUInt8, (Text.hexDigit (n / 16 % 16)).toNat.toUInt8,
      (Text.hexDigit (n % 16)).toNat.toUInt8] := by
  rw [hexFixed_four, octetsOf_ofList]
  simp [utf8EncodeChar_hexDigit, Nat.mod_lt]

theorem hex4_of_rest {n : Nat} (hn : n < 0x10000)
    (h : d.rest j = 0x75 :: octetsOf (Text.hexFixed 4 n) ++ t) : hex4 d j = .ok n := by
  rw [octetsOf_hexFixed_four] at h
  have h1 := rest_succ h
  have h2 := rest_succ h1
  have h3 := rest_succ h2
  have h4 := rest_succ h3
  simp only [hex4, List.foldlM_cons, List.foldlM_nil, at_of_rest h1, at_of_rest h2, at_of_rest h3, at_of_rest h4,
    hexValue?_hexDigit (Nat.mod_lt _ (by omega : 16 > 0))]
  simp only [bind, Except.bind, pure, Except.pure, Except.ok.injEq]
  omega

theorem encodePoint_toNat (ch : Char) : (encodePoint ch.toNat).data.toList = String.utf8EncodeChar ch := by
  have hv : ch.toNat < 0xD800 ∨ 0xDFFF < ch.toNat ∧ ch.toNat < 0x110000 := ch.valid
  rw [encodePoint, if_neg (by omega), Char.ofNat_toNat, ← toList_eq_data, ← octetsOf]
  rw [octetsOf_eq_flatMap]
  simp

/-- Octets other than the quote, the backslash and NUL are taken over one by one. -/
theorem readStringBody_go_plain (hs : ∀ o ∈ s, o ≠ 0x22 ∧ o ≠ 0x5C ∧ o ≠ 0) :
    ∀ j acc fuel, d.rest j = s ++ t → s.length ≤ fuel →
      ∃ acc', acc'.data.toList = acc.data.toList ++ s ∧
        readStringBody.go d j acc fuel = readStringBody.go d (j + s.length) acc' (fuel - s.length) := by
  induction s with
  | nil => intro j acc fuel _ _; exact ⟨acc, by simp, by simp⟩
  | cons o s ih =>
    intro j acc fuel h hf
    obtain ⟨fuel, rfl⟩ : ∃ f, fuel = f + 1 := ⟨fuel - 1, by simp at hf; omega⟩
    obtain ⟨hq, hb, hz⟩ := hs o (by simp)
    obtain ⟨acc', hacc, hgo⟩ := ih (fun o ho => hs o (by simp [ho])) (j + 1) (acc.push o) fuel
      (rest_succ h) (by simp at hf; omega)
    refine ⟨acc', by simp [hacc], ?_⟩
    rw [readStringBody.go, at_of_rest h]
    simp only [hq, hb, hz, beq_iff_eq, if_false, hgo, List.length_cons]
    congr 1 <;> omega

/-- One character in any of its three shapes reads as its octets. -/
theorem readStringBody_go_escaped {ch : Char} (he : Escaped ch s) (h : d.rest j = s ++ t)
    (hf : (d.rest j).length < fuel) (acc : ByteArray) :
    ∃ fuel' acc', (d.rest (j + s.length)).length < fuel' ∧
      acc'.data.toList = acc.data.toList ++ String.utf8EncodeChar ch ∧
      readStringBody.go d j acc fuel = readStringBody.go d (j + s.length) acc' fuel' := by
  have hlen := rest_add h
  rw [h] at hf
  simp only [List.length_append] at hf
  cases he with
  | @letter e hc hesc =>
    obtain ⟨fuel, rfl⟩ : ∃ f, fuel = f + 1 := ⟨fuel - 1, by simp at hf; omega⟩
    have h1 := rest_succ h
    refine ⟨fuel, acc.push ch.toNat.toUInt8, by rw [hlen]; simp at hf ⊢; omega,
      by simp [utf8EncodeChar_of_lt hc], ?_⟩
    rw [readStringBody.go, at_of_rest h, at_of_rest h1]
    simp +decide only [hesc, List.length_cons, List.length_nil, if_true, if_false, Nat.zero_add,
      Nat.reduceAdd]
  | unicode hc =>
    obtain ⟨fuel, rfl⟩ : ∃ f, fuel = f + 1 := ⟨fuel - 1, by simp at hf; omega⟩
    have h1 := rest_succ h
    have hsize := add_length_le_of_drop (b := d) (i := j) (l := 0x5C :: 0x75 :: octetsOf (Text.hexFixed 4 ch.toNat)) h (by simp)
    have hv : ch.toNat < 0xD800 ∨ 0xDFFF < ch.toNat ∧ ch.toNat < 0x110000 := ch.valid
    have hdigits : (octetsOf (Text.hexFixed 4 ch.toNat)).length = 4 := by
      rw [octetsOf_hexFixed_four]; rfl
    simp only [List.length_cons, hdigits] at hsize hf hlen ⊢
    refine ⟨fuel, acc ++ encodePoint ch.toNat, by rw [hlen]; omega,
      by simp [encodePoint_toNat], ?_⟩
    rw [readStringBody.go, at_of_rest h, at_of_rest h1, hex4_of_rest hc h1]
    simp +decide only [beq_iff_eq, if_true, if_false, show simpleEscape? 0x75 = none by decide]
    rw [if_neg (by omega), if_neg (by omega), show j + (4 + 1 + 1) = j + 6 by omega]
  | raw hplain =>
    obtain ⟨acc', hacc, hgo⟩ := readStringBody_go_plain hplain j acc fuel h (by omega)
    exact ⟨fuel - (String.utf8EncodeChar ch).length, acc', by rw [hlen]; omega, hacc, hgo⟩

/-- Characters in their shapes, then the closing quote, read as the characters' octets. -/
theorem readStringBody_go_pieces {cs : List Char} {ss : List (List UInt8)}
    (hcs : List.Forall₂ Escaped cs ss) :
    ∀ j acc fuel, d.rest j = ss.flatten ++ 0x22 :: t → (d.rest j).length < fuel →
      ∃ b : ByteArray, b.data.toList = acc.data.toList ++ cs.flatMap String.utf8EncodeChar ∧
        readStringBody.go d j acc fuel = .ok (b, j + ss.flatten.length + 1) := by
  induction hcs with
  | nil =>
    intro j acc fuel h hf
    obtain ⟨fuel, rfl⟩ : ∃ f, fuel = f + 1 := ⟨fuel - 1, by omega⟩
    simp only [List.flatten_nil, List.nil_append] at h
    refine ⟨acc, by simp, ?_⟩
    rw [readStringBody.go, at_of_rest h]
    simp
  | @cons ch s cs ss he _ ih =>
    intro j acc fuel h hf
    rw [List.flatten_cons, List.append_assoc] at h
    obtain ⟨fuel', acc', hf', hacc, hgo⟩ := readStringBody_go_escaped he h hf acc
    obtain ⟨b, hb, hgo'⟩ := ih (j + s.length) acc' fuel' (rest_add h) hf'
    refine ⟨b, by rw [hb, hacc, List.flatMap_cons, List.append_assoc], ?_⟩
    rw [hgo, hgo', List.flatten_cons, List.length_append]
    congr 2
    omega

theorem literal_of_pieces {cs : List Char} {ss : List (List UInt8)}
    (hcs : List.Forall₂ Escaped cs ss) : Literal ss.flatten := by
  induction hcs with
  | nil => exact .nil
  | cons he _ ih => exact he.literal.append ih

theorem readStringBody_of_pieces {cs : List Char} {ss : List (List UInt8)}
    (hcs : List.Forall₂ Escaped cs ss) (h : d.rest i = 0x22 :: ss.flatten ++ 0x22 :: t) :
    ∃ b : ByteArray, b.data.toList = cs.flatMap String.utf8EncodeChar ∧
      readStringBody d i = .ok (b, i + ss.flatten.length + 2) := by
  have hf := length_rest d (i + 1)
  obtain ⟨b, hb, hgo⟩ :=
    readStringBody_go_pieces hcs (i + 1) ByteArray.empty (d.size + 1) (rest_succ h) (by omega)
  refine ⟨b, by simpa using hb, ?_⟩
  rw [readStringBody, hgo]
  congr 2
  omega

/-! ## The two quoted forms -/

theorem octetsOf_join (l : List String) : octetsOf (String.join l) = (l.map octetsOf).flatten := by
  induction l with
  | nil => simp [octetsOf_eq_flatMap]
  | cons s l ih => simp [String.join_cons, ih]

theorem octetsOf_quote : octetsOf "\"" = [0x22] := by
  rw [octetsOf_eq_flatMap]
  decide

theorem quoteText_pieces (s : String) :
    List.Forall₂ Escaped s.toList (s.toList.map fun ch => octetsOf (escapeChar ch)) ∧
      octetsOf (quoteText s) =
        0x22 :: (s.toList.map fun ch => octetsOf (escapeChar ch)).flatten ++ [0x22] := by
  refine ⟨List.forall₂_map_right_iff.2 (List.forall₂_same.2 fun ch _ => escaped_escapeChar ch), ?_⟩
  rw [quoteText, octetsOf_append, octetsOf_append, octetsOf_join, List.map_map, octetsOf_quote]
  rfl

/-- The body `quoteOctets` writes for the octets from `i` on: the characters they read as, each
escaped, with U+FFFD written `\ufffd`. -/
theorem quoteOctets_pieces (b : ByteArray) :
    ∀ fuel i, b.size - i < fuel → ∃ (cs : List Char) (ss : List (List UInt8)),
      List.Forall₂ Escaped cs ss ∧
      (∀ acc, octetsOf (quoteOctets.go b i acc fuel) = octetsOf acc ++ ss.flatten) ∧
      ∀ acc, decodeFrom b i acc = acc ++ String.ofList cs := by
  intro fuel
  induction fuel with
  | zero => intro i hi; omega
  | succ fuel ih =>
    intro i hi
    by_cases hlt : i < b.size
    · obtain ⟨cs, ss, hcs, hgo, hdec⟩ := ih (i + (charAt b i).2 + 1) (by omega)
      refine ⟨(charAt b i).1 :: cs, octetsOf (if (tailCount? b i).isSome
          then escapeChar (charAt b i).1 else "\\ufffd") :: ss, .cons ?_ hcs, fun acc => ?_,
        fun acc => ?_⟩
      · cases hk : tailCount? b i with
        | some k => simpa [hk] using escaped_escapeChar _
        | none =>
          simp only [charAt, hk, Option.isSome_none, Bool.false_eq_true, if_false]
          rw [show octetsOf "\\ufffd" = 0x5C :: 0x75 :: octetsOf (Text.hexFixed 4 '\uFFFD'.toNat) by
            rw [octetsOf_eq_flatMap, octetsOf_eq_flatMap]; decide]
          exact .unicode (by decide)
      · rw [quoteOctets.go, if_pos hlt]
        cases hk : tailCount? b i with
        | some k =>
          have h2 : (charAt b i).2 = k := by simp [charAt, hk]
          rw [h2] at hgo
          simp [hk, hgo, charAt]
        | none =>
          have h2 : (charAt b i).2 = 0 := by simp [charAt, hk]
          rw [h2] at hgo
          simp [hgo]
      · rw [decodeFrom, if_pos hlt, hdec, String.push_eq_append, String.append_assoc]
        simp
    · refine ⟨[], [], .nil, fun acc => ?_, fun acc => ?_⟩
      · rw [quoteOctets.go, if_neg hlt]
        simp
      · rw [decodeFrom, if_neg hlt]
        simp

/-- `q` is a string literal for the text `s`: the characters of `s` between quotes, each in one of
its shapes. -/
def Quoted (q : List UInt8) (s : String) : Prop :=
  ∃ ss : List (List UInt8), List.Forall₂ Escaped s.toList ss ∧ q = 0x22 :: ss.flatten ++ [0x22]

theorem quoted_quoteText (s : String) : Quoted (octetsOf (quoteText s)) s :=
  ⟨_, (quoteText_pieces s).1, (quoteText_pieces s).2⟩

theorem quoted_quoteOctets (o : Octets) : Quoted (octetsOf (quoteOctets o)) (lossy o) := by
  obtain ⟨cs, ss, hcs, hgo, hdec⟩ :=
    quoteOctets_pieces ⟨o.toArray⟩ ((⟨o.toArray⟩ : ByteArray).size + 1) 0 (by omega)
  have hs : lossy o = String.ofList cs := by
    rw [lossy, decodeLossy, hdec, String.empty_append]
  refine ⟨ss, by rw [hs, String.toList_ofList]; exact hcs, ?_⟩
  rw [quoteOctets, octetsOf_append, octetsOf_append, hgo, octetsOf_quote]
  simp [octetsOf_eq_flatMap]

namespace Quoted

variable {q : List UInt8} {str : String}

theorem ne_nil (hq : Quoted q str) : q ≠ [] := by
  obtain ⟨ss, -, rfl⟩ := hq
  simp

theorem at_eq (hq : Quoted q str) (h : d.rest i = q ++ t) : d.at i = 0x22 := by
  obtain ⟨ss, -, rfl⟩ := hq
  exact at_of_rest (by simpa using h)

theorem skipString (hq : Quoted q str) (h : d.rest i = q ++ t) (what : String) :
    Json.skipString d i what = .ok (i + q.length) := by
  obtain ⟨ss, hss, rfl⟩ := hq
  rw [skipString_literal (literal_of_pieces hss) (by simpa using h)]
  simp
  omega

theorem readStringBody (hq : Quoted q str) (h : d.rest i = q ++ t) :
    ∃ b : ByteArray, b.data.toList = octetsOf str ∧
      Json.readStringBody d i = .ok (b, i + q.length) := by
  obtain ⟨ss, hss, rfl⟩ := hq
  obtain ⟨b, hb, hread⟩ := readStringBody_of_pieces hss (by simpa using h)
  refine ⟨b, by rw [hb, octetsOf_eq_flatMap], ?_⟩
  rw [hread]
  simp
  omega

end Quoted

/-! ## Numerals -/

theorem toNat_lt_of_isDigit {ch : Char} (h : ch.isDigit) : 48 ≤ ch.toNat ∧ ch.toNat ≤ 57 := by
  simp only [Char.isDigit, Bool.and_eq_true, decide_eq_true_eq] at h
  exact ⟨h.1, h.2⟩

theorem flatMap_utf8EncodeChar_of_ascii {l : List Char} (h : ∀ ch ∈ l, ch.toNat < 0x80) :
    l.flatMap String.utf8EncodeChar = l.map fun ch => ch.toNat.toUInt8 := by
  induction l with
  | nil => rfl
  | cons ch l ih =>
    rw [List.flatMap_cons, utf8EncodeChar_of_lt (h ch (by simp)),
      ih fun c hc => h c (by simp [hc])]
    rfl

theorem octetsOf_repr (n : Nat) :
    octetsOf (Nat.repr n) = (Nat.toDigits 10 n).map fun ch => ch.toNat.toUInt8 := by
  rw [Nat.repr_eq_ofList_toDigits, octetsOf_ofList, flatMap_utf8EncodeChar_of_ascii]
  intro ch hch
  have := toNat_lt_of_isDigit (Nat.isDigit_of_mem_toDigits (by decide) (by decide) hch)
  omega

theorem octetsOf_toString_int (x : Int) :
    octetsOf (toString x) = (if x < 0 then [0x2D] else []) ++
      (Nat.toDigits 10 x.natAbs).map fun ch => ch.toNat.toUInt8 := by
  cases x with
  | ofNat m =>
    show octetsOf (Nat.repr m) = _
    simp [octetsOf_repr]
  | negSucc m =>
    show octetsOf ("-" ++ Nat.repr (m + 1)) = _
    rw [octetsOf_append, octetsOf_repr, show octetsOf "-" = [0x2D] by rw [octetsOf_eq_flatMap]; decide]
    simp [Int.negSucc_lt_zero]

theorem isDigit_iff {o : UInt8} : isDigit o = true ↔ 0x30 ≤ o.toNat ∧ o.toNat ≤ 0x39 := by
  simp only [isDigit, Bool.and_eq_true, decide_eq_true_eq, UInt8.le_iff_toNat_le, UInt8.reduceToNat]

theorem isBlank_of_isDigit {o : UInt8} (h : isDigit o = true) : isBlank o = false := by
  rw [isDigit_iff] at h
  simp only [isBlank, Bool.or_eq_false_iff, beq_eq_false_iff_ne, ne_eq, ← UInt8.toNat_inj,
    UInt8.reduceToNat]
  omega

theorem isDigit_of_mem_toDigits {o : UInt8} {n : Nat}
    (h : o ∈ (Nat.toDigits 10 n).map fun ch => ch.toNat.toUInt8) : isDigit o = true := by
  obtain ⟨ch, hch, rfl⟩ := List.mem_map.1 h
  have := toNat_lt_of_isDigit (Nat.isDigit_of_mem_toDigits (by decide) (by decide) hch)
  simp only [isDigit_iff, Nat.toUInt8_eq, UInt8.toNat_ofNat']
  omega

theorem numeral_octet {x : Int} {o : UInt8} (h : o ∈ octetsOf (toString x)) :
    o = 0x2D ∨ isDigit o = true := by
  rw [octetsOf_toString_int, List.mem_append] at h
  rcases h with h | h
  · split_ifs at h <;> simp_all
  · exact .inr (isDigit_of_mem_toDigits h)

theorem numeral_cons (x : Int) :
    ∃ o rest, octetsOf (toString x) = o :: rest ∧ (o = 0x2D ∨ isDigit o = true) := by
  obtain ⟨o, rest, hor⟩ := List.exists_cons_of_ne_nil (show octetsOf (toString x) ≠ [] by
    rw [octetsOf_toString_int]
    simp [Nat.toDigits_ne_nil])
  exact ⟨o, rest, hor, numeral_octet (by rw [hor]; exact List.mem_cons_self)⟩

/-! ## Stepping over printed values -/

/-- A value whose numbers are integer numerals and whose lists and objects nest at most `k` deep.
What the printer writes of such a value is stepped over whole (`skipValue_render`). -/
inductive Value.Tidy : Nat → Value → Prop
  | null {k : Nat} : Value.Tidy k .null
  | bool {k : Nat} (b : Bool) : Value.Tidy k (.bool b)
  | int {k : Nat} (x : Int) : Value.Tidy k (.number (toString x))
  | str {k : Nat} (s : String) : Value.Tidy k (.str s)
  | octets {k : Nat} (o : Octets) : Value.Tidy k (.octets o)
  | arr {k : Nat} {items : List Value} :
      (∀ v ∈ items, Value.Tidy k v) → Value.Tidy (k + 1) (.arr items)
  | obj {k : Nat} {members : List (String × Value)} :
      (∀ m ∈ members, Value.Tidy k m.2) → Value.Tidy (k + 1) (.obj members)

/-- An octet that the bracket walk passes over on its own: no bracket, quote or NUL. -/
def Unbracketed (o : UInt8) : Prop :=
  o ≠ 0x7B ∧ o ≠ 0x5B ∧ o ≠ 0x7D ∧ o ≠ 0x5D ∧ o ≠ 0x22 ∧ o ≠ 0

instance : DecidablePred Unbracketed := fun o =>
  inferInstanceAs (Decidable (o ≠ 0x7B ∧ o ≠ 0x5B ∧ o ≠ 0x7D ∧ o ≠ 0x5D ∧ o ≠ 0x22 ∧ o ≠ 0))

/-- The two kinds of bracket a skipped value can open with, and their closing partners. -/
def Brackets (openC closeC : UInt8) : Prop :=
  (openC = 0x7B ∧ closeC = 0x7D) ∨ (openC = 0x5B ∧ closeC = 0x5D)

/-- The bracket walk of `skipNested` goes from `j` to `j'` and arrives as many brackets open and
as deep as it started, given fuel beyond the octets left. -/
def Walks (d : Doc) (openC closeC : UInt8) (what : String) (j j' count : Nat) (level : Int) :
    Prop :=
  ∀ fuel, (d.rest j).length < fuel → ∃ fuel', (d.rest j').length < fuel' ∧
    skipNested.go d openC closeC what j count level fuel =
      skipNested.go d openC closeC what j' count level fuel'

namespace Walks

variable {openC closeC : UInt8} {what : String} {j₁ j₂ j₃ count : Nat} {level : Int}

theorem refl : Walks d openC closeC what j₁ j₁ count level :=
  fun fuel hf => ⟨fuel, hf, rfl⟩

theorem trans (h₁ : Walks d openC closeC what j₁ j₂ count level)
    (h₂ : Walks d openC closeC what j₂ j₃ count level) :
    Walks d openC closeC what j₁ j₃ count level := by
  intro fuel hf
  obtain ⟨fuel₁, hf₁, he₁⟩ := h₁ fuel hf
  obtain ⟨fuel₂, hf₂, he₂⟩ := h₂ fuel₁ hf₁
  exact ⟨fuel₂, hf₂, he₁.trans he₂⟩

/-- Octets other than brackets, quotes and NUL are passed one by one. -/
theorem plain (hb : Brackets openC closeC) (hs : ∀ o ∈ s, Unbracketed o) :
    ∀ j, d.rest j = s ++ t → Walks d openC closeC what j (j + s.length) count level := by
  induction s with
  | nil => intro j _; exact refl
  | cons o s ih =>
    intro j h
    obtain ⟨h1, h2, h3, h4, h5, h6⟩ := hs o (by simp)
    have hnext := ih (fun o ho => hs o (by simp [ho])) (j + 1) (rest_succ h)
    have hclose : o ≠ closeC := by rcases hb with ⟨-, rfl⟩ | ⟨-, rfl⟩ <;> assumption
    refine trans (fun fuel hf => ?_) (by simpa [Nat.add_assoc, Nat.add_comm 1] using hnext)
    obtain ⟨fuel, rfl⟩ : ∃ f, fuel = f + 1 := ⟨fuel - 1, by omega⟩
    refine ⟨fuel, ?_, ?_⟩
    · rw [rest_succ h]
      rw [h] at hf
      simp at hf ⊢
      omega
    · rw [skipNested.go, at_of_rest h]
      simp [h1, h2, h3, h4, h5, h6, hclose]

/-- A string literal is passed in one step. -/
theorem quoted (hb : Brackets openC closeC) {q : List UInt8} {str : String} (hq : Quoted q str)
    (h : d.rest j₁ = q ++ t) : Walks d openC closeC what j₁ (j₁ + q.length) count level := by
  have hclose : (0x22 : UInt8) ≠ closeC := by rcases hb with ⟨-, rfl⟩ | ⟨-, rfl⟩ <;> decide
  intro fuel hf
  obtain ⟨fuel, rfl⟩ : ∃ f, fuel = f + 1 := ⟨fuel - 1, by omega⟩
  have hne := hq.ne_nil
  refine ⟨fuel, ?_, ?_⟩
  · rw [rest_add h]
    rw [h] at hf
    simp at hf
    have := List.length_pos_of_ne_nil hne
    omega
  · rw [skipNested.go, hq.at_eq h, hq.skipString h]
    simp [hclose]

end Walks

namespace Walks

variable {openC closeC o c : UInt8} {what : String} {j j' count : Nat} {level : Int}
  {t' : List UInt8}

/-- A bracketed value: its opening bracket goes one level deeper (and opens one more bracket of
the walk's own kind), and its closing bracket undoes both. -/
theorem bracketed (hb : Brackets openC closeC) (hpair : Brackets o c) (hcount : 1 ≤ count)
    (hlevel : level + 1 ≤ nestingLimit) (ho : d.rest j = o :: t)
    (hin : Walks d openC closeC what (j + 1) j' (if o = openC then count + 1 else count)
      (level + 1))
    (hc : d.rest j' = c :: t') :
    Walks d openC closeC what j (j' + 1) count level := by
  intro fuel hf
  obtain ⟨fuel, rfl⟩ : ∃ f, fuel = f + 1 := ⟨fuel - 1, by omega⟩
  have hf1 : (d.rest (j + 1)).length < fuel := by
    rw [rest_succ ho]
    rw [ho] at hf
    simp at hf
    omega
  obtain ⟨fuel', hf', hgo⟩ := hin fuel hf1
  obtain ⟨fuel', rfl⟩ : ∃ f, fuel' = f + 1 := ⟨fuel' - 1, by rw [hc] at hf'; simp at hf'; omega⟩
  refine ⟨fuel', by rw [rest_succ hc]; rw [hc] at hf'; simp at hf'; omega, ?_⟩
  have hopen : skipNested.go d openC closeC what j count level (fuel + 1) =
      skipNested.go d openC closeC what (j + 1) (if o = openC then count + 1 else count)
        (level + 1) fuel := by
    rw [skipNested.go, at_of_rest ho, if_pos (by rcases hpair with ⟨rfl, -⟩ | ⟨rfl, -⟩ <;> decide),
      if_neg (by omega)]
    simp
  rw [hopen, hgo, skipNested.go, at_of_rest hc, show level + 1 - 1 = level by omega]
  rcases hb with ⟨rfl, rfl⟩ | ⟨rfl, rfl⟩ <;> rcases hpair with ⟨rfl, rfl⟩ | ⟨rfl, rfl⟩ <;>
    simp <;> omega

theorem bracketed_text (hb : Brackets openC closeC) (hpair : Brackets o c) (hcount : 1 ≤ count)
    (hlevel : level + 1 ≤ nestingLimit) (h : d.rest j = o :: s ++ c :: t)
    (hin : Walks d openC closeC what (j + 1) (j + 1 + s.length)
      (if o = openC then count + 1 else count) (level + 1)) :
    Walks d openC closeC what j (j + (o :: s ++ [c]).length) count level := by
  have hlen : j + (o :: s ++ [c]).length = j + 1 + s.length + 1 := by simp; omega
  rw [hlen]
  exact bracketed hb hpair hcount hlevel h hin (rest_add (rest_succ h))

end Walks

theorem octetsOf_render_arr (items : List Value) :
    octetsOf (Value.arr items).render = 0x5B :: octetsOf (renderItems items) ++ [0x5D] := by
  rw [Value.render, octetsOf_append, octetsOf_append,
    show octetsOf "[" = [0x5B] by rw [octetsOf_eq_flatMap]; decide,
    show octetsOf "]" = [0x5D] by rw [octetsOf_eq_flatMap]; decide]
  rfl

theorem octetsOf_render_obj (members : List (String × Value)) :
    octetsOf (Value.obj members).render = 0x7B :: octetsOf (renderMembers members) ++ [0x7D] := by
  rw [Value.render, octetsOf_append, octetsOf_append,
    show octetsOf "\x7b" = [0x7B] by rw [octetsOf_eq_flatMap]; decide,
    show octetsOf "\x7d" = [0x7D] by rw [octetsOf_eq_flatMap]; decide]
  rfl

theorem octetsOf_comma : octetsOf "," = [0x2C] := by
  rw [octetsOf_eq_flatMap]
  decide

theorem octetsOf_colon : octetsOf ":" = [0x3A] := by
  rw [octetsOf_eq_flatMap]
  decide

section WalkValues

variable {openC closeC : UInt8} {what : String}

/-- Items that each walk, written with commas between them, walk. -/
theorem walks_items {count : Nat} {level : Int} (hb : Brackets openC closeC) :
    ∀ items : List Value, (∀ v ∈ items, ∀ j t, d.rest j = octetsOf v.render ++ t →
      Walks d openC closeC what j (j + (octetsOf v.render).length) count level) →
    ∀ j, d.rest j = octetsOf (renderItems items) ++ t →
      Walks d openC closeC what j (j + (octetsOf (renderItems items)).length) count level
  | [], _, j, _ => by simpa [renderItems, octetsOf_eq_flatMap] using Walks.refl
  | [v], hv, j, h => by
    rw [renderItems] at h ⊢
    exact hv v (by simp) j t h
  | v :: w :: rest, hv, j, h => by
    have htext : octetsOf (renderItems (v :: w :: rest)) =
        octetsOf v.render ++ 0x2C :: octetsOf (renderItems (w :: rest)) := by
      rw [renderItems, octetsOf_append, octetsOf_append, octetsOf_comma]
      · simp
      · simp
    rw [htext] at ⊢
    rw [htext, List.append_assoc, List.cons_append] at h
    have hrest := rest_add h
    have h₁ := hv v (by simp) j _ h
    have h₃ := walks_items hb (w :: rest) (fun u hu => hv u (by simp_all)) _ (rest_succ hrest)
    rw [List.length_append, List.length_cons, ← Nat.add_assoc, Nat.add_comm _ 1, ← Nat.add_assoc]
    exact h₁.trans ((Walks.plain hb (s := [0x2C]) (by simp [Unbracketed]) _ hrest).trans h₃)

/-- The text of one member of an object: its quoted key, a colon and its value. -/
def memberOctets (m : String × Value) : List UInt8 :=
  octetsOf (quoteText m.1) ++ 0x3A :: octetsOf m.2.render

theorem octetsOf_renderMembers_cons_cons (m m' : String × Value) (rest : List (String × Value)) :
    octetsOf (renderMembers (m :: m' :: rest)) =
      memberOctets m ++ 0x2C :: octetsOf (renderMembers (m' :: rest)) := by
  obtain ⟨k, v⟩ := m
  rw [renderMembers]
  · simp [memberOctets, octetsOf_comma, octetsOf_colon]
  · simp

theorem octetsOf_renderMembers_single (m : String × Value) :
    octetsOf (renderMembers [m]) = memberOctets m := by
  obtain ⟨k, v⟩ := m
  simp [renderMembers, memberOctets, octetsOf_colon]

/-- Members whose values each walk, written with commas between them, walk. -/
theorem walks_members {count : Nat} {level : Int} (hb : Brackets openC closeC) :
    ∀ members : List (String × Value), (∀ m ∈ members, ∀ j t, d.rest j = octetsOf m.2.render ++ t →
      Walks d openC closeC what j (j + (octetsOf m.2.render).length) count level) →
    ∀ j, d.rest j = octetsOf (renderMembers members) ++ t →
      Walks d openC closeC what j (j + (octetsOf (renderMembers members)).length) count level := by
  have hmember : ∀ m : String × Value, (∀ j t, d.rest j = octetsOf m.2.render ++ t →
      Walks d openC closeC what j (j + (octetsOf m.2.render).length) count level) →
      ∀ j t, d.rest j = memberOctets m ++ t →
        Walks d openC closeC what j (j + (memberOctets m).length) count level := by
    intro m hv j t h
    rw [memberOctets, List.append_assoc, List.cons_append] at h
    have hkey := rest_add h
    have h₃ := hv _ _ (rest_succ hkey)
    rw [memberOctets, List.length_append, List.length_cons, ← Nat.add_assoc, Nat.add_comm _ 1,
      ← Nat.add_assoc]
    exact (Walks.quoted hb (quoted_quoteText m.1) h).trans
      ((Walks.plain hb (s := [0x3A]) (by simp [Unbracketed]) _ hkey).trans h₃)
  intro members
  induction members with
  | nil => intro _ j _; simpa [renderMembers, octetsOf_eq_flatMap] using Walks.refl
  | cons m rest ih =>
    intro hv j h
    cases rest with
    | nil =>
      rw [octetsOf_renderMembers_single] at h ⊢
      exact hmember m (hv m (by simp)) j t h
    | cons m' rest =>
      rw [octetsOf_renderMembers_cons_cons] at h ⊢
      rw [List.append_assoc, List.cons_append] at h
      have hrest := rest_add h
      have h₁ := hmember m (hv m (by simp)) j _ h
      have h₃ := ih (fun u hu => hv u (by simp_all)) _ (rest_succ hrest)
      rw [List.length_append, List.length_cons, ← Nat.add_assoc, Nat.add_comm _ 1,
        ← Nat.add_assoc]
      exact h₁.trans ((Walks.plain hb (s := [0x2C]) (by simp [Unbracketed]) _ hrest).trans h₃)

theorem octetsOf_null : octetsOf "null" = [0x6E, 0x75, 0x6C, 0x6C] := by
  rw [octetsOf_eq_flatMap]
  decide

theorem octetsOf_true : octetsOf "true" = [0x74, 0x72, 0x75, 0x65] := by
  rw [octetsOf_eq_flatMap]
  decide

theorem octetsOf_false : octetsOf "false" = [0x66, 0x61, 0x6C, 0x73, 0x65] := by
  rw [octetsOf_eq_flatMap]
  decide

theorem octetsOf_render_null : octetsOf Value.null.render = [0x6E, 0x75, 0x6C, 0x6C] := by
  rw [Value.render, octetsOf_null]

theorem octetsOf_render_bool (b : Bool) :
    octetsOf (Value.bool b).render = if b then octetsOf "true" else octetsOf "false" := by
  rw [Value.render]
  split <;> rfl

/-- A tidy value is walked over whole, when its nesting fits under the limit. -/
theorem Value.Tidy.walks {k : Nat} {v : Value} (hv : v.Tidy k) :
    ∀ {count : Nat} {level : Int} {j : Nat} {t : List UInt8}, Brackets openC closeC →
      1 ≤ count → level + k ≤ nestingLimit → d.rest j = octetsOf v.render ++ t →
      Walks d openC closeC what j (j + (octetsOf v.render).length) count level := by
  induction hv with
  | null =>
    intro count level j t hb _ _ h
    exact Walks.plain hb (by rw [octetsOf_render_null]; simp [Unbracketed]) j h
  | bool b =>
    intro count level j t hb _ _ h
    refine Walks.plain hb ?_ j h
    rw [octetsOf_render_bool]
    cases b <;> simp [octetsOf_true, octetsOf_false, Unbracketed]
  | int x =>
    intro count level j t hb _ _ h
    refine Walks.plain hb (fun o ho => ?_) j h
    rcases numeral_octet (x := x) (by simpa [Value.render] using ho) with rfl | hdig
    · decide
    · have := isDigit_iff.1 hdig
      simp only [Unbracketed, ne_eq, ← UInt8.toNat_inj, UInt8.reduceToNat]
      omega
  | str s =>
    intro count level j t hb _ _ h
    exact Walks.quoted hb (quoted_quoteText s) h
  | octets o =>
    intro count level j t hb _ _ h
    exact Walks.quoted hb (quoted_quoteOctets o) h
  | @arr k items _ ih =>
    intro count level j t hb hc hl h
    rw [octetsOf_render_arr] at h ⊢
    simp only [List.cons_append, List.append_assoc] at h
    exact Walks.bracketed_text hb (Or.inr ⟨rfl, rfl⟩) hc (by omega) h
      (walks_items hb items (fun v hv j t h' => ih v hv hb (by split_ifs <;> omega) (by omega) h')
        (j + 1) (rest_succ h))
  | @obj k members _ ih =>
    intro count level j t hb hc hl h
    rw [octetsOf_render_obj] at h ⊢
    simp only [List.cons_append, List.append_assoc] at h
    exact Walks.bracketed_text hb (Or.inl ⟨rfl, rfl⟩) hc (by omega) h
      (walks_members hb members
        (fun m hm j t h' => ih m hm hb (by split_ifs <;> omega) (by omega) h') (j + 1) (rest_succ h))

end WalkValues

/-! ## Whole values -/

/-- A run of octets that pass a test, before one that fails it, is skipped whole. -/
theorem skipWhile_of_rest {p : UInt8 → Bool} (hs : ∀ o ∈ s, p o = true)
    (ht : p (t.headD 0) = false) : ∀ j, d.rest j = s ++ t → skipWhile p d j = j + s.length := by
  induction s with
  | nil =>
    intro j h
    simp only [List.nil_append] at h
    rw [skipWhile]
    split
    · next hj =>
      cases t with
      | nil =>
        have := length_rest d j
        rw [h] at this
        simp at this
        omega
      | cons c t =>
        rw [getElem_eq_at, at_of_rest h]
        simp only [List.headD_cons] at ht
        simp [ht]
    · simp
  | cons o s ih =>
    intro j h
    have hlt := lt_size_of_rest h
    rw [skipWhile, dif_pos hlt, getElem_eq_at, at_of_rest h, if_pos (hs o (by simp)),
      ih (fun o ho => hs o (by simp [ho])) (j + 1) (rest_succ h)]
    simp
    omega

/-- A word spelled out where it stands passes `checkWord`. -/
theorem checkWord_of_rest {w : String} (hw : octetsOf w ≠ []) (h : d.rest i = octetsOf w ++ t) :
    checkWord d i w = .ok () := by
  have hsize := add_length_le_of_drop h hw
  have hws : w.toUTF8.data.toList = octetsOf w := by rw [octetsOf, toList_eq_data]
  have hlen : w.toUTF8.size = (octetsOf w).length := by
    rw [← hws]
    rfl
  unfold checkWord
  rw [if_neg (by omega), List.find?_eq_none.2]
  intro k hk
  simp only [List.mem_drop_iff_getElem, List.getElem_range] at hk
  obtain ⟨m, hm, rfl⟩ := hk
  have hk : 1 + m < (octetsOf w).length := by rw [List.length_range, hlen] at hm; omega
  have h₁ : d.at (i + (1 + m)) = (octetsOf w)[1 + m] := octet_of_drop h hk
  have h₂ : Doc.at w.toUTF8 (1 + m) = (octetsOf w)[1 + m] := by
    have := octet_of_drop (b := w.toUTF8) (i := 0) (t := []) (by rw [List.drop_zero, hws,
      List.append_nil]) hk
    rwa [Nat.zero_add] at this
  simp only [h₁, h₂, bne_self_eq_false, Bool.false_eq_true, not_false_eq_true]

namespace Walks

variable {openC closeC : UInt8} {what : String} {j count : Nat} {level : Int}

theorem close (hb : Brackets openC closeC) (h : d.rest j = closeC :: t)
    (hf : (d.rest j).length < fuel) :
    skipNested.go d openC closeC what j 1 level fuel = .ok (j + 1) := by
  obtain ⟨fuel, rfl⟩ : ∃ f, fuel = f + 1 := ⟨fuel - 1, by rw [h] at hf; simp at hf; omega⟩
  rw [skipNested.go, at_of_rest h]
  rcases hb with ⟨rfl, rfl⟩ | ⟨rfl, rfl⟩ <;> simp

theorem skipNested {depth : Int} {j' : Nat} (hb : Brackets openC closeC)
    (hin : Walks d openC closeC what (j + 1) j' 1 depth) (hc : d.rest j' = closeC :: t') :
    Json.skipNested d j depth openC closeC what = .ok (j' + 1) := by
  have hf := length_rest d (j + 1)
  obtain ⟨fuel', hf', hgo⟩ := hin (d.size + 1) (by omega)
  rw [Json.skipNested, hgo, close hb hc hf']

end Walks

theorem skipValue_quoted {q : List UInt8} {str : String} {depth : Nat} (hq : Quoted q str)
    (h : d.rest i = q ++ t) : skipValue d depth i = .ok (i + q.length) := by
  have hskip := hq.skipString h "string of object"
  obtain ⟨ss, -, hqs⟩ := hq
  have h' : d.rest i = 0x22 :: (ss.flatten ++ [0x22] ++ t) := by simpa [hqs] using h
  rw [skipValue, skipBlank_of_rest h' (by decide), at_of_rest h']
  simpa using hskip

theorem octetsOf_render_int (x : Int) : octetsOf (Value.number (toString x)).render = octetsOf (toString x) := by
  rw [Value.render]

theorem skipValue_word {w : String} {depth : Nat} (hw : w = "true" ∨ w = "false" ∨ w = "null")
    (h : d.rest i = octetsOf w ++ t) : skipValue d depth i = .ok (i + (octetsOf w).length) := by
  have hword := checkWord_of_rest (by
    rcases hw with rfl | rfl | rfl <;> simp [octetsOf_true, octetsOf_false, octetsOf_null]) h
  rcases hw with rfl | rfl | rfl <;>
  · simp only [octetsOf_true, octetsOf_false, octetsOf_null, List.cons_append] at h ⊢
    rw [skipValue, skipBlank_of_rest h (by decide), at_of_rest h]
    simp only [hword, isDigit]
    rfl

/-- A number that opens with a sign or a figure is skipped as a value, up to the first octet
that cannot continue it. -/
theorem skipValue_number {o : UInt8} {depth : Nat} (ho : o = 0x2D ∨ isDigit o = true)
    (hs : ∀ o' ∈ s, isNumberPart o' = true) (ht : isNumberPart (t.headD 0) = false)
    (h : d.rest i = o :: s ++ t) : skipValue d depth i = .ok (i + (o :: s).length) := by
  have hblank : isBlank o = false := by
    rcases ho with rfl | ho
    · rfl
    · exact isBlank_of_isDigit ho
  rw [skipValue, skipBlank_of_rest h hblank, at_of_rest h,
    skipWhile_of_rest hs ht (i + 1) (rest_succ h), List.length_cons,
    show i + (s.length + 1) = i + 1 + s.length by omega]
  rcases ho with rfl | ho
  · rfl
  · -- a figure is no bracket and no quote, so the number branch is the one taken
    have hfig := isDigit_iff.1 ho
    have hne : (o == 0x7B) = false ∧ (o == 0x5B) = false ∧ (o == 0x22) = false := by
      simp only [beq_eq_false_iff_ne, ne_eq, ← UInt8.toNat_inj, UInt8.reduceToNat]
      omega
    simp [hne.1, hne.2.1, hne.2.2, ho]

/-- A list or an object whose inside walks one level deeper is skipped as a value. -/
theorem skipValue_bracketed {depth : Nat} {openC closeC : UInt8} (hb : Brackets openC closeC)
    (hin : ∀ what, Walks d openC closeC what (i + 1) (i + 1 + s.length) 1 ((depth : Int) + 1))
    (h : d.rest i = openC :: s ++ closeC :: t) :
    skipValue d depth i = .ok (i + (openC :: s ++ [closeC]).length) := by
  have hc := rest_add (rest_succ h)
  have hlen : i + (openC :: s ++ [closeC]).length = i + 1 + s.length + 1 := by simp; omega
  rw [hlen, skipValue, skipBlank_of_rest h (by rcases hb with ⟨rfl, rfl⟩ | ⟨rfl, rfl⟩ <;> decide),
    at_of_rest h]
  rcases hb with ⟨rfl, rfl⟩ | ⟨rfl, rfl⟩
  · simp only [beq_self_eq_true, if_true]
    exact Walks.skipNested (Or.inl ⟨rfl, rfl⟩) (hin _) hc
  · simp only [beq_self_eq_true, if_true, if_false, Bool.false_eq_true,
      show ((0x5B : UInt8) == 0x7B) = false by decide]
    exact Walks.skipNested (Or.inr ⟨rfl, rfl⟩) (hin _) hc

/-- `skipValue` steps over a printed tidy value whole, when it nests shallow enough and what
follows cannot continue a number. -/
theorem skipValue_render {k depth : Nat} {v : Value} (hv : v.Tidy k)
    (hk : depth + k ≤ nestingLimit) (h : d.rest i = octetsOf v.render ++ t)
    (ht : isNumberPart (t.headD 0) = false) :
    skipValue d depth i = .ok (i + (octetsOf v.render).length) := by
  cases hv with
  | null => exact skipValue_word (.inr (.inr rfl)) h
  | bool b => cases b <;> exact skipValue_word (by simp [Value.render]) h
  | int x =>
    obtain ⟨o, rest, hor, ho⟩ := numeral_cons x
    have hnum : ∀ o' ∈ rest, isNumberPart o' = true := fun o' ho' => by
      rcases numeral_octet (x := x) (by rw [hor]; exact List.mem_cons_of_mem _ ho') with rfl | hdig
      · rfl
      · simp [isNumberPart, hdig]
    rw [octetsOf_render_int, hor] at h ⊢
    exact skipValue_number ho hnum ht h
  | str s =>
    have hr : octetsOf (Value.str s).render = octetsOf (quoteText s) := by rw [Value.render]
    rw [hr] at h ⊢
    exact skipValue_quoted (quoted_quoteText s) h
  | octets o =>
    have hr : octetsOf (Value.octets o).render = octetsOf (quoteOctets o) := by rw [Value.render]
    rw [hr] at h ⊢
    exact skipValue_quoted (quoted_quoteOctets o) h
  | @arr k items hitems =>
    rw [octetsOf_render_arr] at h ⊢
    simp only [List.cons_append, List.append_assoc] at h
    -- the items walk one level deeper, inside the one open bracket
    exact skipValue_bracketed (Or.inr ⟨rfl, rfl⟩) (fun _ => walks_items (Or.inr ⟨rfl, rfl⟩)
      items (fun v hv j t h' => (hitems v hv).walks (Or.inr ⟨rfl, rfl⟩) le_rfl (by omega) h')
      (i + 1) (rest_succ h)) h
  | @obj k members hmembers =>
    rw [octetsOf_render_obj] at h ⊢
    simp only [List.cons_append, List.append_assoc] at h
    exact skipValue_bracketed (Or.inl ⟨rfl, rfl⟩) (fun _ => walks_members (Or.inl ⟨rfl, rfl⟩)
      members (fun m hm j t h' =>
        (hmembers m hm).walks (Or.inl ⟨rfl, rfl⟩) le_rfl (by omega) h') (i + 1) (rest_succ h)) h

end RaceArchive.Json
