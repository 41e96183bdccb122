import Mathlib
import RaceArchive.Text.Utf8

/-!
# The octets of a text

`octetsOf` reads the UTF-8 encoding of a text off as a list of octets. It takes an append of texts
to an append of octets, and a text built from characters to the encodings of its characters, one
octet each for the characters below U+0080.

The buffer operations `slice` and `place` cut octet lists, so the kernel can run them; they are
`ByteArray.extract` and `ByteArray.copySlice` (`slice_eq_extract`, `place_eq_copySlice`).

Reading goes the other way: the octets of a character are a well-formed character of as many
continuation octets as its encoding has, and its code point is the character's code
(`tailCount?_codePoint_of_drop`), so reading the octets of a text gives the text back
(`lossy_octetsOf`).
-/

namespace RaceArchive.Utf8

theorem toList_loop (bs : ByteArray) (i : Nat) (r : List UInt8) :
    ByteArray.toList.loop bs i r = r.reverse ++ bs.data.toList.drop i := by
  fun_induction ByteArray.toList.loop bs i r with
  | case1 i r h ih =>
    have hi : i < bs.data.toList.length := by simpa using h
    rw [ih, List.drop_eq_getElem_cons hi]
    simp [ByteArray.get!, h]
  | case2 i r h =>
    rw [List.drop_eq_nil_of_le (by simpa using Nat.le_of_not_lt h)]
    simp

theorem toList_eq_data (bs : ByteArray) : bs.toList = bs.data.toList := by
  simp [ByteArray.toList, toList_loop]

theorem slice_eq_extract (b : ByteArray) (start stop : Nat) : slice b start stop = b.extract start stop := by
  apply ByteArray.ext
  rw [ByteArray.data_extract]
  apply Array.ext'
  simp only [slice, Array.toList_extract, List.extract_eq_take_drop, List.drop_take]

theorem place_eq_copySlice (src : ByteArray) (srcOff : Nat) (dest : ByteArray) (destOff len : Nat) :
    place src srcOff dest destOff len = src.copySlice srcOff dest destOff len := by
  rw [ByteArray.copySlice_eq_append, place, slice_eq_extract, slice_eq_extract, slice_eq_extract]
  rfl

@[simp] theorem octetsOf_append (s t : String) :
    octetsOf (s ++ t) = octetsOf s ++ octetsOf t := by
  simp [octetsOf, String.toUTF8, toList_eq_data, String.toByteArray_append, ByteArray.data_append]

theorem octetsOf_ofList (l : List Char) :
    octetsOf (String.ofList l) = l.flatMap String.utf8EncodeChar := by
  simp [octetsOf, String.toUTF8, toList_eq_data, String.toByteArray_ofList, List.utf8Encode]

/-- A character below U+0080 is the one octet of its code. -/
theorem utf8EncodeChar_of_lt {c : Char} (h : c.toNat < 128) :
    String.utf8EncodeChar c = [c.toNat.toUInt8] := by
  rw [String.utf8EncodeChar_eq_singleton]
  · rfl
  · have hv : c.val ≤ 127 := by
      rw [UInt32.le_iff_toNat_le]
      exact Nat.le_of_lt_succ h
    simp [Char.utf8Size, hv]

/-! ## Reading the octets of a text -/

section Reading

variable {b : ByteArray} {i : Nat}

theorem octet_eq_headD (b : ByteArray) (i : Nat) :
    octet b i = (b.data.toList.drop i).headD 0 := by
  unfold octet
  by_cases h : i < b.size
  · simp [h, List.head?_drop]
    rfl
  · simp [h, List.head?_drop]

theorem octet_of_drop {l t : List UInt8} (h : b.data.toList.drop i = l ++ t) {k : Nat}
    (hk : k < l.length) : octet b (i + k) = l[k] := by
  rw [octet_eq_headD, ← List.drop_drop, h, List.drop_append_of_le_length hk.le,
    List.drop_eq_getElem_cons hk, List.cons_append, List.headD_cons]

theorem octet_toNat_of_drop {l t : List UInt8} (h : b.data.toList.drop i = l ++ t) {k n : Nat}
    (hk : k < l.length) (hn : l[k] = n.toUInt8) : (octet b (i + k)).toNat = n % 256 := by
  rw [octet_of_drop h hk, hn, Nat.toUInt8_eq, UInt8.toNat_ofNat']

theorem add_length_le_of_drop {l t : List UInt8} (h : b.data.toList.drop i = l ++ t)
    (hl : l ≠ []) : i + l.length ≤ b.size := by
  have := congrArg List.length h
  simp only [List.length_drop, List.length_append, Array.length_toList] at this
  have := List.length_pos_of_ne_nil hl
  simp only [ByteArray.size]
  omega

theorem utf8EncodeChar_eq (c : Char) :
    String.utf8EncodeChar c =
      if c.toNat ≤ 0x7F then [c.toNat.toUInt8]
      else if c.toNat ≤ 0x7FF then
        [(c.toNat / 64 % 32 + 0xC0).toUInt8, (c.toNat % 64 + 0x80).toUInt8]
      else if c.toNat ≤ 0xFFFF then
        [(c.toNat / 4096 % 16 + 0xE0).toUInt8, (c.toNat / 64 % 64 + 0x80).toUInt8,
          (c.toNat % 64 + 0x80).toUInt8]
      else
        [(c.toNat / 262144 % 8 + 0xF0).toUInt8, (c.toNat / 4096 % 64 + 0x80).toUInt8,
          (c.toNat / 64 % 64 + 0x80).toUInt8, (c.toNat % 64 + 0x80).toUInt8] := rfl

theorem utf8Size_eq_ite (c : Char) :
    c.utf8Size = if c.toNat ≤ 0x7F then 1 else if c.toNat ≤ 0x7FF then 2
      else if c.toNat ≤ 0xFFFF then 3 else 4 := by
  simp only [Char.utf8Size, UInt32.le_iff_toNat_le]
  rfl

/-! The four shapes of a well-formed character, by its first octet. -/

theorem tailCount?_single (hs : i < b.size) (h0 : (octet b i).toNat < 0x80) :
    tailCount? b i = some 0 := by
  simp (disch := omega) only [tailCount?, UInt8.lt_iff_toNat_lt, UInt8.reduceToNat, ge_iff_le,
    if_pos, if_neg]

theorem tailCount?_double (hs : i + 2 ≤ b.size)
    (h0 : 0xC2 ≤ (octet b i).toNat ∧ (octet b i).toNat ≤ 0xDF)
    (h1 : 0x80 ≤ (octet b (i + 1)).toNat ∧ (octet b (i + 1)).toNat ≤ 0xBF) :
    tailCount? b i = some 1 := by
  simp (disch := omega) only [tailCount?, isTail, UInt8.lt_iff_toNat_lt, UInt8.le_iff_toNat_le,
    UInt8.reduceToNat, Bool.and_eq_true, decide_eq_true_eq, ge_iff_le, if_pos, if_neg]

theorem tailCount?_triple (hs : i + 3 ≤ b.size)
    (h0 : 0xE0 ≤ (octet b i).toNat ∧ (octet b i).toNat ≤ 0xEF)
    (h1 : (if (octet b i).toNat = 0xE0 then 0xA0 else 0x80) ≤ (octet b (i + 1)).toNat ∧
      (octet b (i + 1)).toNat ≤ (if (octet b i).toNat = 0xED then 0x9F else 0xBF))
    (h2 : 0x80 ≤ (octet b (i + 2)).toNat ∧ (octet b (i + 2)).toNat ≤ 0xBF) :
    tailCount? b i = some 2 := by
  simp (disch := omega) only [tailCount?, isTail, UInt8.lt_iff_toNat_lt, UInt8.le_iff_toNat_le,
    ← UInt8.toNat_inj, apply_ite UInt8.toNat, UInt8.reduceToNat, Bool.and_eq_true,
    decide_eq_true_eq, ge_iff_le, if_pos, if_neg]

theorem tailCount?_quadruple (hs : i + 4 ≤ b.size)
    (h0 : 0xF0 ≤ (octet b i).toNat ∧ (octet b i).toNat ≤ 0xF4)
    (h1 : (if (octet b i).toNat = 0xF0 then 0x90 else 0x80) ≤ (octet b (i + 1)).toNat ∧
      (octet b (i + 1)).toNat ≤ (if (octet b i).toNat = 0xF4 then 0x8F else 0xBF))
    (h2 : 0x80 ≤ (octet b (i + 2)).toNat ∧ (octet b (i + 2)).toNat ≤ 0xBF)
    (h3 : 0x80 ≤ (octet b (i + 3)).toNat ∧ (octet b (i + 3)).toNat ≤ 0xBF) :
    tailCount? b i = some 3 := by
  simp (disch := omega) only [tailCount?, isTail, UInt8.lt_iff_toNat_lt, UInt8.le_iff_toNat_le,
    ← UInt8.toNat_inj, apply_ite UInt8.toNat, UInt8.reduceToNat, Bool.and_eq_true,
    decide_eq_true_eq, ge_iff_le, if_pos, if_neg]

/-- The octets of a character read back as that character: a well-formed character with as many
continuation octets as its encoding has, whose code point is the character's code. -/
theorem tailCount?_codePoint_of_drop {c : Char} {t : List UInt8}
    (h : b.data.toList.drop i = String.utf8EncodeChar c ++ t) :
    tailCount? b i = some (c.utf8Size - 1) ∧ codePoint b i (c.utf8Size - 1) = c.toNat := by
  have hs := add_length_le_of_drop h String.utf8EncodeChar_ne_nil
  -- a character is no surrogate, which the bounds after `0xED` rely on
  have hv : c.toNat < 0xD800 ∨ 0xDFFF < c.toNat ∧ c.toNat < 0x110000 := c.valid
  rw [utf8EncodeChar_eq] at h hs
  rw [utf8Size_eq_ite]
  by_cases ha : c.toNat ≤ 0x7F
  · simp only [ha, if_true, List.length_cons, List.length_nil] at h hs ⊢
    have n0 : (octet b i).toNat = c.toNat % 256 :=
      octet_toNat_of_drop h (k := 0) (by simp) rfl
    refine ⟨tailCount?_single (by omega) (by omega), ?_⟩
    simp only [codePoint, Nat.add_zero, n0]
    omega
  by_cases hb : c.toNat ≤ 0x7FF
  · simp only [ha, hb, if_true, if_false, List.length_cons, List.length_nil] at h hs ⊢
    have n0 : (octet b i).toNat = (c.toNat / 64 % 32 + 0xC0) % 256 :=
      octet_toNat_of_drop h (k := 0) (by simp) rfl
    have n1 : (octet b (i + 1)).toNat = (c.toNat % 64 + 0x80) % 256 :=
      octet_toNat_of_drop h (k := 1) (by simp) rfl
    refine ⟨tailCount?_double (by omega) (by omega) (by omega), ?_⟩
    simp only [codePoint, Nat.add_zero, n0, n1]
    omega
  by_cases hc : c.toNat ≤ 0xFFFF
  · simp only [ha, hb, hc, if_true, if_false, List.length_cons, List.length_nil] at h hs ⊢
    have n0 : (octet b i).toNat = (c.toNat / 4096 % 16 + 0xE0) % 256 :=
      octet_toNat_of_drop h (k := 0) (by simp) rfl
    have n1 : (octet b (i + 1)).toNat = (c.toNat / 64 % 64 + 0x80) % 256 :=
      octet_toNat_of_drop h (k := 1) (by simp) rfl
    have n2 : (octet b (i + 2)).toNat = (c.toNat % 64 + 0x80) % 256 :=
      octet_toNat_of_drop h (k := 2) (by simp) rfl
    refine ⟨tailCount?_triple (by omega) (by omega) (by rw [n0]; split_ifs <;> omega) (by omega),
      ?_⟩
    simp only [codePoint, Nat.add_zero, n0, n1, n2]
    omega
  · simp only [ha, hb, hc, if_false, List.length_cons, List.length_nil] at h hs ⊢
    have n0 : (octet b i).toNat = (c.toNat / 262144 % 8 + 0xF0) % 256 :=
      octet_toNat_of_drop h (k := 0) (by simp) rfl
    have n1 : (octet b (i + 1)).toNat = (c.toNat / 4096 % 64 + 0x80) % 256 :=
      octet_toNat_of_drop h (k := 1) (by simp) rfl
    have n2 : (octet b (i + 2)).toNat = (c.toNat / 64 % 64 + 0x80) % 256 :=
      octet_toNat_of_drop h (k := 2) (by simp) rfl
    have n3 : (octet b (i + 3)).toNat = (c.toNat % 64 + 0x80) % 256 :=
      octet_toNat_of_drop h (k := 3) (by simp) rfl
    refine ⟨tailCount?_quadruple (by omega) (by omega) (by rw [n0]; split_ifs <;> omega)
      (by omega) (by omega), ?_⟩
    simp only [codePoint, Nat.reduceSub, Nat.add_zero, n0, n1, n2, n3]
    omega

theorem charAt_of_drop {c : Char} {t : List UInt8}
    (h : b.data.toList.drop i = String.utf8EncodeChar c ++ t) :
    charAt b i = (c, c.utf8Size - 1) := by
  obtain ⟨hk, hp⟩ := tailCount?_codePoint_of_drop h
  simp [charAt, hk, hp, Char.ofNat_toNat]

end Reading

/-- Reading the encodings of characters one after another gives those characters. -/
theorem decodeFrom_of_drop {b : ByteArray} (l : List Char) :
    ∀ (i : Nat) (acc : String), b.data.toList.drop i = l.flatMap String.utf8EncodeChar →
      decodeFrom b i acc = acc ++ String.ofList l := by
  induction l with
  | nil =>
    intro i acc h
    rw [decodeFrom, if_neg]
    · simp
    · simp only [List.flatMap_nil, List.drop_eq_nil_iff, Array.length_toList] at h
      simp only [ByteArray.size]
      omega
  | cons c l ih =>
    intro i acc h
    rw [List.flatMap_cons] at h
    have hs := add_length_le_of_drop h String.utf8EncodeChar_ne_nil
    have hrest : b.data.toList.drop (i + c.utf8Size) = l.flatMap String.utf8EncodeChar := by
      rw [← List.drop_drop, h, ← String.length_utf8EncodeChar, List.drop_left]
    have hpos := c.utf8Size_pos
    rw [String.length_utf8EncodeChar] at hs
    rw [decodeFrom, if_pos (by omega), charAt_of_drop h,
      show i + (c.utf8Size - 1) + 1 = i + c.utf8Size by omega, ih _ _ hrest,
      String.push_eq_append, String.append_assoc]
    simp

theorem lossy_octetsOf (s : String) : lossy (octetsOf s) = s := by
  have h : (⟨(octetsOf s).toArray⟩ : ByteArray).data.toList.drop 0 =
      s.toList.flatMap String.utf8EncodeChar := by
    rw [List.drop_zero, ← octetsOf_ofList, String.ofList_toList]
  rw [lossy, decodeLossy, decodeFrom_of_drop _ 0 "" h, String.ofList_toList, String.empty_append]

end RaceArchive.Utf8
