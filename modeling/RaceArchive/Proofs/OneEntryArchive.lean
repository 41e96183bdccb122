import Mathlib
import RaceArchive.Proofs.StoredDeflate

/-!
# An archive of one file reads back

`Zip.write [(name, data)]` lays out a local header, the name, the stored blocks of the data, one
directory header, the name again, and the end record. The main statement, `Zip.read_write_single`,
is that reading this archive gives the data back: the end record is found in the last 22 octets,
the directory holds one entry whose fields are the ones written, and that entry opens as deflated
data right after its local header and reads as the data. The name must be a file's, of fewer than
256 octets, and the data under 2 GiB, so that every size fits its field (`Zip.Plain`).

1. Little-endian fields: `le` reads back what `leBytes` wrote (`le_leBytes`), and reading in a row
   of records reads in the record the field falls in (`le_append_left`, `le_append_right`).
2. The octets of the archive as a row of records (`write_single_toList`).
3. The end record (`findEnd_single`, `readEnd_single`), the directory (`readHeader_single`,
   `entries_single`), and the entry (`open_single`, `read_single`).
-/

namespace RaceArchive

namespace Zip

/-! ## Little-endian fields -/

section Fields

theorem size_mk (L : List UInt8) : (ByteArray.mk L.toArray).size = L.length :=
  List.size_toArray

theorem getElem?_mk (L : List UInt8) (i : Nat) : (ByteArray.mk L.toArray)[i]? = L[i]? :=
  List.getElem?_toArray

/-- An array rebuilt from its octets. Stated for any array, so that using it never makes the
kernel unfold the array it is used at. -/
theorem mk_data_toList (b : ByteArray) : (ByteArray.mk b.data.toList.toArray) = b := rfl

theorem foldr_shift (g : Nat → Nat) :
    ∀ (l : List Nat) (init : Nat),
      l.foldr (fun k acc => acc * 256 + g k) init = init * 256 ^ l.length + l.foldr (fun k acc => acc * 256 + g k) 0
  | [], init => by simp
  | k :: l, init => by
    rw [List.foldr_cons, List.foldr_cons, foldr_shift g l init, List.length_cons, pow_succ]
    ring

theorem le_succ (b : ByteArray) (i n : Nat) :
    le b i (n + 1) = le b i n + 256 ^ n * (b[i + n]?.getD 0).toNat := by
  unfold le
  rw [List.range_succ, List.foldr_append, List.foldr_cons, List.foldr_nil, foldr_shift, List.length_range]
  ring

theorem le_congr {b b' : ByteArray} {i j : Nat} :
    ∀ {n : Nat}, (∀ k, k < n → b[i + k]? = b'[j + k]?) → le b i n = le b' j n
  | 0, _ => rfl
  | n + 1, h => by
    rw [le_succ, le_succ, le_congr (fun k hk => h k (by omega)), h n (by omega)]

theorem le_append_right {A C : List UInt8} {i n : Nat} (h : A.length ≤ i) :
    le ⟨(A ++ C).toArray⟩ i n = le ⟨C.toArray⟩ (i - A.length) n := by
  apply le_congr
  intro k _
  rw [getElem?_mk, getElem?_mk, List.getElem?_append_right (by omega)]
  congr 1
  omega

theorem le_append_left {A C : List UInt8} {i n : Nat} (h : i + n ≤ A.length) :
    le ⟨(A ++ C).toArray⟩ i n = le ⟨A.toArray⟩ i n := by
  apply le_congr
  intro k hk
  rw [getElem?_mk, getElem?_mk, List.getElem?_append_left (by omega)]

theorem le_leBytes (x : Nat) : ∀ n, le ⟨(leBytes x n).toArray⟩ 0 n = x % 256 ^ n
  | 0 => by simp [le, Nat.mod_one]
  | n + 1 => by
    have hsplit : leBytes x (n + 1) = leBytes x n ++ [((x >>> (8 * n)) % 256).toUInt8] := by
      simp [leBytes, List.range_succ]
    have hlast : ((x >>> (8 * n)) % 256).toUInt8.toNat = x / 256 ^ n % 256 := by
      rw [Nat.shiftRight_eq_div_pow, pow_mul]
      simp
    rw [le_succ, hsplit, le_append_left (by simp), le_leBytes x n, getElem?_mk, Nat.zero_add,
      List.getElem?_append_right (by simp), length_leBytes, Nat.sub_self]
    simp only [List.getElem?_cons_zero, Option.getD_some, hlast]
    rw [Nat.mod_pow_succ]

/-- A field in a row of octets, after a known front. -/
theorem le_of_toList {b : ByteArray} {X C : List UInt8} (h : b.data.toList = X ++ C) (j n : Nat) :
    le b (X.length + j) n = le ⟨C.toArray⟩ j n := by
  have hb : b = ⟨(X ++ C).toArray⟩ := by
    apply ByteArray.ext
    rw [← h]
  rw [hb, le_append_right (by omega), Nat.add_sub_cancel_left]

end Fields

/-! ## The layout of an archive of one file -/

section Layout

/-- The fields the local header and the directory header of a deflated file share: version,
flags, method (deflated), time, CRC, compressed size, size, name length, extra length. -/
def fileFields (crc packed size nameLen : Nat) : List UInt8 :=
  leBytes 20 2 ++ leBytes 0 2 ++ leBytes 8 2 ++ leBytes 0 4 ++ leBytes crc 4 ++ leBytes packed 4 ++
    leBytes size 4 ++ leBytes nameLen 2 ++ leBytes 0 2

/-- A local header with its file's fields. -/
def localRecord (fields : List UInt8) : List UInt8 := leBytes 0x04034b50 4 ++ fields

/-- A directory header with its file's fields, for a local header at `offset`. -/
def centralRecord (fields : List UInt8) (offset : Nat) : List UInt8 :=
  leBytes 0x02014b50 4 ++ leBytes 20 2 ++ fields ++ leBytes 0 2 ++ leBytes 0 2 ++ leBytes 0 2 ++
    leBytes 0 4 ++ leBytes offset 4

/-- The end record of a directory of `count` entries, of `size` octets at `offset`. -/
def endRecord (count size offset : Nat) : List UInt8 :=
  leBytes 0x06054b50 4 ++ leBytes 0 2 ++ leBytes 0 2 ++ leBytes count 2 ++ leBytes count 2 ++
    leBytes size 4 ++ leBytes offset 4 ++ leBytes 0 2

theorem length_fileFields (crc packed size nameLen : Nat) :
    (fileFields crc packed size nameLen).length = 26 := by
  simp [fileFields]

/-- The fields of the one file of an archive. -/
def singleFields (name : String) (data : ByteArray) : List UInt8 :=
  fileFields (Crc32.checksum data).toNat (storedBlocks data).size data.size name.toUTF8.size

theorem write_single_toList {name : String} (data : ByteArray) (hfile : name.endsWith "/" = false) :
    (write [(name, data)]).data.toList =
      localRecord (singleFields name data) ++ name.toUTF8.data.toList ++ (storedBlocks data).data.toList ++
        (centralRecord (singleFields name data) 0 ++ name.toUTF8.data.toList) ++
        endRecord 1 (46 + name.toUTF8.size) (30 + name.toUTF8.size + (storedBlocks data).size) := by
  simp only [write, List.foldl_cons, List.foldl_nil, hfile, Bool.false_eq_true, if_false]
  simp only [ByteArray.size_append, ByteArray.size_empty, size_mk, List.length_append, length_leBytes,
    ByteArray.data_append, Array.toList_append, List.length_singleton, localRecord, centralRecord,
    endRecord, singleFields, fileFields, ByteArray.data_empty, List.nil_append]

theorem endRecord_fields (count size offset : Nat) :
    le ⟨(endRecord count size offset).toArray⟩ 0 4 = 0x06054b50 ∧
      le ⟨(endRecord count size offset).toArray⟩ 10 2 = count % 256 ^ 2 ∧
      le ⟨(endRecord count size offset).toArray⟩ 12 4 = size % 256 ^ 4 ∧
      le ⟨(endRecord count size offset).toArray⟩ 16 4 = offset % 256 ^ 4 ∧
      le ⟨(endRecord count size offset).toArray⟩ 20 2 = 0 := by
  simp (disch := simp only [List.length_append, length_leBytes]; omega) only [endRecord,
    le_append_left, le_append_right, List.length_append, length_leBytes, le_leBytes, Nat.reduceAdd,
    Nat.reduceSub, Nat.reducePow, Nat.reduceMod, Nat.zero_mod, and_self]

theorem centralRecord_fields (crc packed size nameLen offset : Nat) :
    let r : ByteArray := ⟨(centralRecord (fileFields crc packed size nameLen) offset).toArray⟩
    le r 0 4 = 0x02014b50 ∧ le r 8 2 = 0 ∧ le r 10 2 = 8 ∧ le r 16 4 = crc % 256 ^ 4 ∧
      le r 20 4 = packed % 256 ^ 4 ∧ le r 24 4 = size % 256 ^ 4 ∧ le r 28 2 = nameLen % 256 ^ 2 ∧
      le r 30 2 = 0 ∧ le r 32 2 = 0 ∧ le r 42 4 = offset % 256 ^ 4 := by
  simp (disch := simp only [List.length_append, length_leBytes]; omega) only [centralRecord, fileFields,
    le_append_left, le_append_right, List.length_append, length_leBytes, le_leBytes, Nat.reduceAdd,
    Nat.reduceSub, Nat.reducePow, Nat.reduceMod, Nat.zero_mod, and_self]

theorem localRecord_fields (crc packed size nameLen : Nat) :
    let r : ByteArray := ⟨(localRecord (fileFields crc packed size nameLen)).toArray⟩
    le r 0 4 = 0x04034b50 ∧ le r 26 2 = nameLen % 256 ^ 2 ∧ le r 28 2 = 0 := by
  simp (disch := simp only [List.length_append, length_leBytes]; omega) only [localRecord, fileFields,
    le_append_left, le_append_right, List.length_append, length_leBytes, le_leBytes, Nat.reduceAdd,
    Nat.reduceSub, Nat.reducePow, Nat.reduceMod, Nat.zero_mod, and_self]

end Layout

/-! ## Reading the archive back -/

/-- A file whose archive every field can describe: a name of fewer than 256 octets that is a
file's (its text and its last octet end in no slash), and data under 2 GiB. -/
structure Plain (name : String) (data : ByteArray) : Prop where
  name_short : name.toUTF8.size < 256
  file : name.endsWith "/" = false
  no_slash : name.toUTF8.data.toList.getLast? ≠ some 47
  data_small : data.size < 2 ^ 31

section Reading

variable {name : String} {data : ByteArray}

theorem Plain.fits (hp : Plain name data) :
    30 + name.toUTF8.size + (storedBlocks data).size + (46 + name.toUTF8.size) + 22 < 2 ^ 32 - 1 := by
  have hn := hp.name_short
  have hd := hp.data_small
  rw [size_storedBlocks]
  unfold blockCount
  omega

theorem write_single_end (hp : Plain name data) :
    (write [(name, data)]).data.toList =
      (localRecord (singleFields name data) ++ name.toUTF8.data.toList ++ (storedBlocks data).data.toList ++
        (centralRecord (singleFields name data) 0 ++ name.toUTF8.data.toList)) ++
      endRecord 1 (46 + name.toUTF8.size) (30 + name.toUTF8.size + (storedBlocks data).size) :=
  write_single_toList data hp.file

/-- The length of an array's octets, said without unfolding the array. -/
theorem length_data_toList (b : ByteArray) : b.data.toList.length = b.size := by
  rw [Array.length_toList, ByteArray.size_data]

theorem length_front (name : String) (data : ByteArray) :
    (localRecord (singleFields name data) ++ name.toUTF8.data.toList ++ (storedBlocks data).data.toList ++
        (centralRecord (singleFields name data) 0 ++ name.toUTF8.data.toList)).length =
      30 + name.toUTF8.size + (storedBlocks data).size + (46 + name.toUTF8.size) := by
  simp only [List.length_append, localRecord, centralRecord, singleFields, length_fileFields,
    length_leBytes, length_data_toList]

/-- The end record is found in the last 22 octets. -/
theorem findEnd_single (hp : Plain name data) :
    findEnd (write [(name, data)]) =
      .ok (30 + name.toUTF8.size + (storedBlocks data).size + (46 + name.toUTF8.size)) := by
  have hlay := write_single_end hp
  have hsize := size_of_toList hlay
  have hfront := length_front name data
  have hend : (endRecord 1 (46 + name.toUTF8.size) (30 + name.toUTF8.size + (storedBlocks data).size)).length = 22 := by
    simp [endRecord]
  obtain ⟨hsig, -, -, -, hcomment⟩ :=
    endRecord_fields 1 (46 + name.toUTF8.size) (30 + name.toUTF8.size + (storedBlocks data).size)
  have hsig' := le_of_toList hlay 0 4
  have hcomment' := le_of_toList hlay 20 2
  rw [hsig, Nat.add_zero, hfront] at hsig'
  rw [hcomment, hfront] at hcomment'
  rw [hfront, hend] at hsize
  -- the scan starts at the last possible place of an end record, and finds it there
  have hpos : (write [(name, data)]).size - min 1024 (write [(name, data)]).size +
      (min 1024 (write [(name, data)]).size - 22) =
      30 + name.toUTF8.size + (storedBlocks data).size + (46 + name.toUTF8.size) := by
    omega
  have hwide : ¬min 1024 (write [(name, data)]).size < 22 := by omega
  unfold findEnd findIn
  simp only [endLength]
  have h20 : 30 + name.toUTF8.size + (storedBlocks data).size + (46 + name.toUTF8.size) + 22 - 2 =
      30 + name.toUTF8.size + (storedBlocks data).size + (46 + name.toUTF8.size) + 20 := by
    omega
  have hshort : ¬0 + 22 + (min 1024 (write [(name, data)]).size - 22) > min 1024 (write [(name, data)]).size := by
    omega
  simp only [hwide, ↓reduceIte, scanBlock, endLength, hpos, h20, hsig', hcomment', beq_self_eq_true, hshort]

theorem bind_ok_eq {ε α β : Type} (a : α) (f : α → Except ε β) : (Except.ok a >>= f) = f a := rfl

theorem bind_error_eq {ε α β : Type} (e : ε) (f : α → Except ε β) : (Except.error e >>= f) = .error e := rfl

/-- The end record says one entry, in a directory of 46 octets and the name, right after the
local header, the name and the blocks. -/
theorem readEnd_single (hp : Plain name data) :
    readEnd (write [(name, data)]) =
      .ok (⟨1, 46 + name.toUTF8.size, 30 + name.toUTF8.size + (storedBlocks data).size⟩,
        30 + name.toUTF8.size + (storedBlocks data).size + (46 + name.toUTF8.size)) := by
  have hlay := write_single_end hp
  have hfront := length_front name data
  have hfits := hp.fits
  obtain ⟨-, hrec, hdir, hoff, -⟩ :=
    endRecord_fields 1 (46 + name.toUTF8.size) (30 + name.toUTF8.size + (storedBlocks data).size)
  have h10 : le (write [(name, data)])
      (30 + name.toUTF8.size + (storedBlocks data).size + (46 + name.toUTF8.size) + 10) 2 = 1 := by
    rw [← hfront, le_of_toList hlay, hrec]
    norm_num
  have h12 : le (write [(name, data)])
      (30 + name.toUTF8.size + (storedBlocks data).size + (46 + name.toUTF8.size) + 12) 4 =
      46 + name.toUTF8.size := by
    rw [← hfront, le_of_toList hlay, hdir, Nat.mod_eq_of_lt (by omega)]
  have h16 : le (write [(name, data)])
      (30 + name.toUTF8.size + (storedBlocks data).size + (46 + name.toUTF8.size) + 16) 4 =
      30 + name.toUTF8.size + (storedBlocks data).size := by
    rw [← hfront, le_of_toList hlay, hoff, Nat.mod_eq_of_lt (by omega)]
  -- no field is at its limit, so no zip64 record is looked for
  have hlimits : ((1 == 0xffff) || (46 + name.toUTF8.size == 0xffff) ||
      (30 + name.toUTF8.size + (storedBlocks data).size == 0xffffffff)) = false := by
    have hn := hp.name_short
    simp only [Bool.or_eq_false_iff, beq_eq_false_iff_ne]
    omega
  unfold readEnd
  rw [findEnd_single hp, bind_ok_eq]
  simp only [h10, h12, h16, hlimits, Bool.false_eq_true, ↓reduceIte]
  rfl

theorem readFull_ok {b : ByteArray} {pos n : Nat} (h : pos + n ≤ b.size) :
    readFull b pos n = .ok (b.extract pos (pos + n)) := by
  unfold readFull
  by_cases hn : n = 0
  · subst hn
    simp only [beq_self_eq_true, ↓reduceIte, Nat.add_zero]
    exact congrArg Except.ok (ByteArray.extract_eq_empty_iff.mpr (by omega)).symm
  · simp only [beq_iff_eq, hn, ↓reduceIte, h]

theorem signed64_of_lt {x : Int} (h0 : 0 ≤ x) (h : x < 2 ^ 63) : signed64 x = x := by
  unfold signed64
  have hmod : x % (Nat.pow 2 64 : Int) = x := Int.emod_eq_of_lt h0 (by norm_num; omega)
  simp only [hmod]
  rw [if_neg (by norm_num; omega)]

/-- The entry of the one file, as its directory header describes it. -/
def singleEntry (name : String) (data : ByteArray) : Entry :=
  { name := name.toUTF8, flags := 0, method := 8, crc := (Crc32.checksum data).toNat,
    compressedSize := (storedBlocks data).size, size := data.size, headerOffset := 0 }

theorem write_single_central (hp : Plain name data) :
    (write [(name, data)]).data.toList =
      (localRecord (singleFields name data) ++ name.toUTF8.data.toList ++ (storedBlocks data).data.toList) ++
        centralRecord (singleFields name data) 0 ++
        (name.toUTF8.data.toList ++
          endRecord 1 (46 + name.toUTF8.size) (30 + name.toUTF8.size + (storedBlocks data).size)) := by
  rw [write_single_end hp]
  simp only [List.append_assoc]

theorem length_body (name : String) (data : ByteArray) :
    (localRecord (singleFields name data) ++ name.toUTF8.data.toList ++ (storedBlocks data).data.toList).length =
      30 + name.toUTF8.size + (storedBlocks data).size := by
  simp only [List.length_append, localRecord, singleFields, length_fileFields, length_leBytes,
    length_data_toList]

theorem length_centralRecord (fields : List UInt8) (offset : Nat) :
    (centralRecord fields offset).length = 20 + fields.length := by
  simp [centralRecord]
  omega

/-- The directory header reads as the entry of the file, and ends after the name. -/
theorem readHeader_single (hp : Plain name data) :
    readHeader (write [(name, data)]) (30 + name.toUTF8.size + (storedBlocks data).size) =
      .ok (singleEntry name data, 30 + name.toUTF8.size + (storedBlocks data).size + 46 + name.toUTF8.size) := by
  have hn := hp.name_short
  have hfits := hp.fits
  have hlay := write_single_central hp
  have hbody := length_body name data
  have hcentral : (centralRecord (singleFields name data) 0).length = 46 := by
    rw [length_centralRecord, singleFields, length_fileFields]
  have hsize := size_of_toList hlay
  simp only [List.length_append, hbody, hcentral, length_data_toList] at hsize
  have hhead : (write [(name, data)]).extract (30 + name.toUTF8.size + (storedBlocks data).size)
      (30 + name.toUTF8.size + (storedBlocks data).size + 46) =
      ⟨(centralRecord (fileFields (Crc32.checksum data).toNat (storedBlocks data).size data.size
        name.toUTF8.size) 0).toArray⟩ := by
    have h := extract_eq_of_toList hlay
    rwa [hbody, hcentral] at h
  have hlay' : (write [(name, data)]).data.toList =
      (localRecord (singleFields name data) ++ name.toUTF8.data.toList ++ (storedBlocks data).data.toList ++
        centralRecord (singleFields name data) 0) ++ name.toUTF8.data.toList ++
        endRecord 1 (46 + name.toUTF8.size) (30 + name.toUTF8.size + (storedBlocks data).size) := by
    rw [hlay]
    simp only [List.append_assoc]
  have hname : (write [(name, data)]).extract (30 + name.toUTF8.size + (storedBlocks data).size + 46)
      (30 + name.toUTF8.size + (storedBlocks data).size + 46 + name.toUTF8.size) = name.toUTF8 := by
    have h := extract_eq_of_toList hlay'
    rw [List.length_append, hbody, hcentral, length_data_toList] at h
    exact h.trans (mk_data_toList _)
  obtain ⟨hsig, hflags, hmethod, hcrc, hpacked, hsz, hnl, hel, hcl, hoff⟩ :=
    centralRecord_fields (Crc32.checksum data).toNat (storedBlocks data).size data.size name.toUTF8.size 0
  have hsmall : ∀ x, x < 2 ^ 32 → x % 256 ^ 4 = x := fun x hx => Nat.mod_eq_of_lt (by simpa using hx)
  rw [hsmall _ (UInt32.toNat_lt _)] at hcrc
  rw [hsmall _ (by omega)] at hpacked
  rw [hsmall _ (by have := hp.data_small; omega)] at hsz
  rw [Nat.mod_eq_of_lt (by simpa using (by omega : name.toUTF8.size < 65536))] at hnl
  unfold readHeader
  rw [readFull_ok (by unfold headerLength; omega)]
  simp only [headerLength]
  rw [hhead, bind_ok_eq]
  simp only [hsig, hnl, hel, hcl, hcrc, hflags, hmethod, hpacked, hsz, hoff, bne_self_eq_false,
    Bool.false_eq_true, ↓reduceIte, Nat.add_zero, Nat.zero_mod]
  rw [readFull_ok (by omega), hname, bind_ok_eq]
  -- there is no extra field, so no 64-bit size is pending
  have hextra : (name.toUTF8.extract name.toUTF8.size name.toUTF8.size).size = 0 := by simp
  have hpacked' : ((storedBlocks data).size == 4294967295) = false := by
    rw [beq_eq_false_iff_ne]
    omega
  have hoffset : (((0 : Nat) : Int) == 4294967295) = false := by decide
  simp only [hextra, Nat.zero_add, readExtras, Nat.ofNat_pos, ↓reduceIte, bind_ok_eq, hpacked', hoffset,
    Bool.false_or, Bool.false_eq_true, ByteArray.extract_zero_size]
  rfl

theorem size_write_single (hp : Plain name data) :
    (write [(name, data)]).size =
      30 + name.toUTF8.size + (storedBlocks data).size + (46 + name.toUTF8.size) + 22 := by
  rw [size_of_toList (write_single_end hp), length_front]
  simp [endRecord]

theorem readFull_truncated {b : ByteArray} {pos n : Nat} (h : pos < b.size) (h' : b.size < pos + n) :
    readFull b pos n = .error .truncated := by
  unfold readFull
  have hn : n ≠ 0 := by omega
  rw [if_neg (by simpa using hn), if_neg (by omega), if_neg (by omega)]

theorem readHeader_end (hp : Plain name data) :
    readHeader (write [(name, data)])
      (30 + name.toUTF8.size + (storedBlocks data).size + 46 + name.toUTF8.size) = .error .truncated := by
  have hsize := size_write_single hp
  unfold readHeader
  rw [readFull_truncated (by omega) (by unfold headerLength; omega), bind_error_eq]

theorem readHeaders_single (hp : Plain name data) (fuel : Nat) :
    readHeaders (write [(name, data)]) (fuel + 2) (30 + name.toUTF8.size + (storedBlocks data).size) #[] =
      .ok (#[singleEntry name data], .truncated) := by
  rw [readHeaders, readHeader_single hp]
  dsimp only
  rw [readHeaders, readHeader_end hp]
  rfl

/-- The entries of the archive are the one entry of the file. -/
theorem entries_single (hp : Plain name data) :
    entries (write [(name, data)]) = .ok #[singleEntry name data] := by
  have hsize := size_write_single hp
  have hfits := hp.fits
  unfold entries
  rw [readEnd_single hp, bind_ok_eq]
  dsimp only
  have hlimit : (decide (46 + name.toUTF8.size ≥ Nat.pow 2 63) ||
      decide (30 + name.toUTF8.size + (storedBlocks data).size ≥ Nat.pow 2 63)) = false := by
    simp only [Nat.pow_eq, Bool.or_eq_false_iff, decide_eq_false_iff_not]
    omega
  -- the directory is where the end record says, so the archive has no prefix
  have hbase : signed64
      (((30 + name.toUTF8.size + (storedBlocks data).size + (46 + name.toUTF8.size) : Nat) : Int) -
        ((46 + name.toUTF8.size : Nat) : Int) - ((30 + name.toUTF8.size + (storedBlocks data).size : Nat) : Int)) =
      0 := by
    rw [show ((30 + name.toUTF8.size + (storedBlocks data).size + (46 + name.toUTF8.size) : Nat) : Int) -
        ((46 + name.toUTF8.size : Nat) : Int) - ((30 + name.toUTF8.size + (storedBlocks data).size : Nat) : Int) =
        0 by omega]
    decide
  have hstart : signed64 (0 + ((30 + name.toUTF8.size + (storedBlocks data).size : Nat) : Int)) =
      ((30 + name.toUTF8.size + (storedBlocks data).size : Nat) : Int) := by
    rw [Int.zero_add, signed64_of_lt (by omega) (by omega)]
  have hinside : (decide (((30 + name.toUTF8.size + (storedBlocks data).size : Nat) : Int) < 0) ||
      decide (((30 + name.toUTF8.size + (storedBlocks data).size : Nat) : Int) ≥
        ((write [(name, data)]).size : Int))) = false := by
    simp only [Bool.or_eq_false_iff, decide_eq_false_iff_not]
    omega
  have hfuel : (write [(name, data)]).size / headerLength + 1 =
      ((write [(name, data)]).size / headerLength - 1) + 2 := by
    unfold headerLength
    omega
  simp only [hlimit, hbase, hstart, hinside, hfuel, Int.toNat_natCast, readHeaders_single hp,
    Bool.false_eq_true, ↓reduceIte, bind_ok_eq, gt_iff_lt, Int.lt_irrefl]
  have hcount : (#[singleEntry name data].size % 65536 != 1 % 65536) = false := rfl
  have hoffset : signed64 ((singleEntry name data).headerOffset + 0) = (singleEntry name data).headerOffset := by
    show signed64 (0 + 0) = 0
    decide
  simp only [hcount, Bool.false_eq_true, ↓reduceIte, List.map_toArray, List.map_cons, List.map_nil, hoffset]
  rfl

/-- The local header of the file, at the start of the archive, puts its data after the name. -/
theorem open_single (hp : Plain name data) :
    (singleEntry name data).open (write [(name, data)]) = .ok (.deflated ((30 + name.toUTF8.size : Nat) : Int)) := by
  have hsize := size_write_single hp
  have hn := hp.name_short
  have hlay : (write [(name, data)]).data.toList =
      [] ++ localRecord (singleFields name data) ++
        (name.toUTF8.data.toList ++ (storedBlocks data).data.toList ++
          (centralRecord (singleFields name data) 0 ++ name.toUTF8.data.toList) ++
          endRecord 1 (46 + name.toUTF8.size) (30 + name.toUTF8.size + (storedBlocks data).size)) := by
    rw [write_single_end hp]
    simp only [List.nil_append, List.append_assoc]
  have hlocal : (localRecord (singleFields name data)).length = 30 := by
    simp [localRecord, singleFields, length_fileFields]
  have hhead := extract_eq_of_toList hlay
  rw [List.length_nil, hlocal] at hhead
  obtain ⟨hsig, hnl, hel⟩ :=
    localRecord_fields (Crc32.checksum data).toNat (storedBlocks data).size data.size name.toUTF8.size
  rw [Nat.mod_eq_of_lt (by simpa using (by omega : name.toUTF8.size < 65536))] at hnl
  have hread : readAt (write [(name, data)]) (singleEntry name data).headerOffset 30 =
      .ok ⟨(localRecord (singleFields name data)).toArray⟩ := by
    unfold readAt
    rw [if_neg (by simp only [singleEntry]; decide), if_pos (by simp only [singleEntry]; omega)]
    exact congrArg Except.ok hhead
  have hslash : ((singleEntry name data).name.toList.getLast? == some 47) = false := by
    rw [beq_eq_false_iff_ne, Utf8.toList_eq_data]
    exact hp.no_slash
  have hstart : (singleEntry name data).headerOffset + 30 + (name.toUTF8.size : Int) + ((0 : Nat) : Int) =
      ((30 + name.toUTF8.size : Nat) : Int) := by
    simp only [singleEntry]
    omega
  have hmethod : (singleEntry name data).method = 8 := rfl
  unfold Entry.open Entry.bodyAt
  rw [hread, bind_ok_eq]
  simp only [singleFields] at *
  simp only [hsig, hnl, hel, bne_self_eq_false, Bool.false_eq_true, ↓reduceIte, pure_bind, hslash, hstart,
    hmethod, Nat.reduceBEq]
  rfl

/-- The data of the file inflates back from the blocks after its local header, and passes the
size and checksum checks. -/
theorem read_single (hp : Plain name data) :
    (singleEntry name data).read (write [(name, data)]) (.deflated ((30 + name.toUTF8.size : Nat) : Int)) =
      .ok data := by
  have hsize := size_write_single hp
  have hfits := hp.fits
  have hlay : (write [(name, data)]).data.toList =
      (localRecord (singleFields name data) ++ name.toUTF8.data.toList) ++ (storedBlocks data).data.toList ++
        (centralRecord (singleFields name data) 0 ++ name.toUTF8.data.toList ++
          endRecord 1 (46 + name.toUTF8.size) (30 + name.toUTF8.size + (storedBlocks data).size)) := by
    rw [write_single_end hp]
    simp only [List.append_assoc]
  have hfront : (localRecord (singleFields name data) ++ name.toUTF8.data.toList).length =
      30 + name.toUTF8.size := by
    simp [localRecord, singleFields, length_fileFields]
    omega
  have hblocks := extract_eq_of_toList hlay
  rw [hfront, length_data_toList] at hblocks
  have hslice : slice (write [(name, data)]) ((30 + name.toUTF8.size : Nat) : Int)
      (singleEntry name data).sectionLength = storedBlocks data := by
    have hlen : (singleEntry name data).sectionLength = (storedBlocks data).size := by
      simp only [Entry.sectionLength, singleEntry, Nat.pow_eq]
      exact if_neg (by omega)
    unfold slice
    rw [hlen, if_neg (by simp only [Bool.or_eq_true, decide_eq_true_eq]; omega), Int.toNat_natCast,
      Nat.min_eq_right (by omega)]
    exact hblocks.trans (mk_data_toList _)
  simp only [Entry.read, hslice]
  -- inflate the blocks before opening the check: opened around `inflate (storedBlocks data)`,
  -- the check makes the kernel unfold the blocks
  rw [Inflate.inflate_storedBlocks]
  unfold Entry.read.check
  dsimp only
  simp only [singleEntry, Nat.lt_irrefl, ↓reduceIte, bne_self_eq_false, Bool.and_false, Bool.false_eq_true,
    Nat.zero_and]
  rfl

/-- A file written alone into an archive reads back whole: the archive lists one entry, named as
the file, that opens and reads as the data. -/
theorem read_write_single (hp : Plain name data) :
    ∃ e : Entry, entries (write [(name, data)]) = .ok #[e] ∧ e.name = name.toUTF8 ∧
      ∃ body, e.open (write [(name, data)]) = .ok body ∧ e.read (write [(name, data)]) body = .ok data :=
  ⟨singleEntry name data, entries_single hp, rfl, _, open_single hp, read_single hp⟩

end Reading

end Zip

end RaceArchive
