import Mathlib
import RaceArchive.Codec.Zip
import RaceArchive.Proofs.Octets

/-!
# Stored blocks inflate to their data

`Zip.storedBlocks` cuts data into pieces of at most 65535 octets and writes each as a stored
block: one octet holding the final flag and the block kind (zero), the length and its complement
in two octets each, then the octets themselves. The main statement, `Inflate.inflate_storedBlocks`,
is that the inflater reads such a stream back whole: inflating the blocks of any data gives that
data and no problem.

1. Each primitive of the inflater is run on the states a stored stream leads to (`pull_ok`,
   `take_ok`, `takeBytes_ok`), and then one stored block (`storedBlock_ok`, `blocks_stored_step`).
2. The stream is the blocks of the pieces in order (`storedBlocks_eq`), so the octets of block `k`
   follow those of the blocks before it (`storedBlocks_toList`).
3. Block after block, the inflater adds each piece to its output (`blocks_stored`), and the pieces
   make up the data (`piece_append_rest`, `piece_last`); a run of the blocks that ends well is
   what `inflate` answers (`inflate_of_run`).
-/

namespace RaceArchive

/-! ## Octets laid out in a row -/

section Layout

variable {b : ByteArray} {A B C : List UInt8}

theorem getElem?_of_toList {x : UInt8} (h : b.data.toList = A ++ x :: C) : b[A.length]? = some x := by
  have : b.data[A.length]? = some x := by
    rw [← Array.getElem?_toList, h, List.getElem?_append_right (Nat.le_refl _), Nat.sub_self]
    rfl
  exact this

theorem extract_of_toList (h : b.data.toList = A ++ B ++ C) :
    (b.extract A.length (A.length + B.length)).data.toList = B := by
  rw [ByteArray.data_extract, Array.toList_extract, h, List.extract_eq_take_drop, List.append_assoc,
    List.drop_left, Nat.add_sub_cancel_left, List.take_left]

theorem extract_eq_of_toList (h : b.data.toList = A ++ B ++ C) :
    b.extract A.length (A.length + B.length) = ⟨B.toArray⟩ :=
  ByteArray.ext (Array.ext' (extract_of_toList h))

theorem size_of_toList (h : b.data.toList = A ++ C) : b.size = A.length + C.length := by
  show b.data.size = _
  rw [← Array.length_toList, h, List.length_append]

end Layout

namespace Inflate

/-! ## The inflater's primitives -/

theorem run_bind_ok {α β : Type} {x : Inflate α} {f : α → Inflate β} {s s' : Inflater} {a : α}
    (h : x.run s = .ok a s') : (x >>= f).run s = (f a).run s' := by
  rw [EStateM.run_bind, h]

theorem pull_ok {s : Inflater} {b : UInt8} (h : s.input[s.pos]? = some b) :
    pull.run s = .ok ()
      { s with pos := s.pos + 1, offset := s.offset + 1, bits := s.bits ||| (b.toNat <<< s.held),
               held := s.held + 8 } := by
  unfold pull
  rw [run_bind_ok (EStateM.run_get s)]
  simp only [h]
  rfl

theorem fillWith_held {n fuel : Nat} {s : Inflater} (h : n ≤ s.held) :
    (fillWith n fuel).run s = .ok () s := by
  cases fuel with
  | zero => rfl
  | succ fuel =>
    unfold fillWith
    rw [run_bind_ok (EStateM.run_get s), if_neg (by omega)]
    rfl

theorem take_ok {n : Nat} {s : Inflater} (h : n ≤ s.held) :
    (take n).run s = .ok (s.bits % Nat.pow 2 n) { s with bits := s.bits >>> n, held := s.held - n } := by
  unfold take fill
  rw [run_bind_ok (fillWith_held h), run_bind_ok (EStateM.run_get s), run_bind_ok (EStateM.run_set _ _)]
  rfl

theorem takeBytes_ok {n : Nat} {s : Inflater} (h : s.pos + n ≤ s.input.size) :
    (takeBytes n).run s =
      .ok (s.input.extract s.pos (s.pos + n)) { s with pos := s.pos + n, offset := s.offset + n } := by
  have havail : min n (s.input.size - s.pos) = n := by omega
  unfold takeBytes
  rw [run_bind_ok (EStateM.run_get s), run_bind_ok (EStateM.run_set _ _)]
  simp only [havail, Nat.lt_irrefl, if_false]
  rfl

theorem leBytes_two (x : Nat) : (Zip.leBytes x 2).map UInt8.toNat = [x % 256, x / 256 % 256] := by
  simp [Zip.leBytes, List.range_succ, Nat.shiftRight_eq_div_pow]

/-- A stored block at the current octet, after the bits of the block's first octet: the length
and its complement, then as many octets, which go to the output. -/
theorem storedBlock_ok {s : Inflater} {len : Nat} (hheld : s.held < 8)
    (hhead : (s.input.extract s.pos (s.pos + 4)).toList = Zip.leBytes len 2 ++ Zip.leBytes (65535 - len) 2)
    (hlen : len < 65536) (hroom : s.pos + 4 + len ≤ s.input.size) :
    storedBlock.run s = .ok ()
      { s with pos := s.pos + 4 + len, offset := s.offset + 4 + len, bits := 0, held := 0,
               out := s.out ++ s.input.extract (s.pos + 4) (s.pos + 4 + len) } := by
  -- no whole octet is held, so the four header octets are all taken from the input
  have hin : (s.held - s.held % 8) / 8 = 0 := by omega
  unfold storedBlock
  rw [run_bind_ok (EStateM.run_get s)]
  simp only [hin, Nat.zero_min, List.range_zero, List.map_nil, List.nil_append, Nat.sub_zero,
    Nat.add_zero]
  rw [run_bind_ok (EStateM.run_set _ _), run_bind_ok (takeBytes_ok (by dsimp only; omega))]
  dsimp only
  rw [hhead, List.map_append, leBytes_two, leBytes_two]
  have hn : len % 256 + 256 * (len / 256 % 256) = len := by omega
  have hnn : (65535 - len) % 256 + 256 * ((65535 - len) / 256 % 256) = 65535 - len := by omega
  simp only [List.cons_append, List.nil_append, List.getD_cons_zero, List.getD_cons_succ, hn, hnn,
    bne_self_eq_false, Bool.false_eq_true, if_false]
  rw [run_bind_ok (takeBytes_ok (by dsimp only; omega))]
  rfl

theorem fill_of_empty {n : Nat} {s : Inflater} {b : UInt8} (hn : 0 < n) (hn8 : n < 8) (hheld : s.held = 0)
    (h : s.input[s.pos]? = some b) :
    (fill n).run s = .ok ()
      { s with pos := s.pos + 1, offset := s.offset + 1, bits := s.bits ||| (b.toNat <<< s.held),
               held := s.held + 8 } := by
  have hfuel : n / 8 + 1 = 0 + 1 := by omega
  unfold fill
  rw [hfuel]
  unfold fillWith
  rw [run_bind_ok (EStateM.run_get s), if_pos (by omega), run_bind_ok (pull_ok h)]
  rfl

/-- One stored block: its first octet says whether it is the last and that it is stored; after
it the inflater stops if it was the last, and otherwise reads on. -/
theorem blocks_stored_step {s : Inflater} {len fuel : Nat} {last : Bool}
    (hbits : s.bits = 0) (hheld : s.held = 0)
    (hfirst : s.input[s.pos]? = some (if last then 1 else 0))
    (hhead : (s.input.extract (s.pos + 1) (s.pos + 1 + 4)).toList =
      Zip.leBytes len 2 ++ Zip.leBytes (65535 - len) 2)
    (hlen : len < 65536) (hroom : s.pos + 1 + 4 + len ≤ s.input.size) :
    (blocks (fuel + 1)).run s =
      (if !last then blocks fuel else pure ()).run
        { s with pos := s.pos + 1 + 4 + len, offset := s.offset + 1 + 4 + len, bits := 0, held := 0,
                 out := s.out ++ s.input.extract (s.pos + 1 + 4) (s.pos + 1 + 4 + len), final := last } := by
  -- the first octet is 1 or 0: its low bit is the final flag and the two bits above it are zero
  have hfinal : ((if last then (1 : UInt8) else 0).toNat % Nat.pow 2 1 == 1) = last := by
    cases last <;> rfl
  have hkind : (if last then (1 : UInt8) else 0).toNat >>> 1 % Nat.pow 2 2 = 0 := by
    cases last <;> rfl
  conv_lhs => unfold blocks
  rw [run_bind_ok (fill_of_empty (by omega) (by omega) hheld hfirst)]
  simp only [hbits, hheld, Nat.zero_or, Nat.shiftLeft_zero, Nat.zero_add]
  rw [run_bind_ok (take_ok (by dsimp only; omega))]
  dsimp only
  rw [hfinal, run_bind_ok (EStateM.run_modify _ _), run_bind_ok (take_ok (by dsimp only; omega))]
  dsimp only
  rw [hkind, run_bind_ok (EStateM.run_get _), if_pos (beq_self_eq_true 0),
    run_bind_ok (storedBlock_ok ?_ ?_ hlen ?_)]
  · dsimp only
    omega
  · exact hhead
  · exact hroom

end Inflate

/-! ## The stream of stored blocks -/

namespace Zip

@[simp] theorem length_leBytes (x n : Nat) : (leBytes x n).length = n := by
  simp [leBytes]

/-- The number of stored blocks of data of `n` octets: at least one. -/
def blockCount (n : Nat) : Nat := max 1 ((n + 65535 - 1) / 65535)

/-- The `k`-th piece of data, as `storedBlocks` cuts it. -/
def piece (data : ByteArray) (k : Nat) : ByteArray :=
  data.extract (k * 65535) (min data.size ((k + 1) * 65535))

/-- The first octet of the `k`-th stored block, then the length of its piece and the length's
complement. -/
def blockHeader (data : ByteArray) (k : Nat) : List UInt8 :=
  [if k + 1 == blockCount data.size then 1 else 0] ++ leBytes (piece data k).size 2 ++
    leBytes (65535 - (piece data k).size) 2

/-- The stored blocks of the first `k` pieces of data. -/
def blocksUpTo (data : ByteArray) (k : Nat) : ByteArray :=
  (List.range k).foldl (fun acc j => acc ++ ⟨(blockHeader data j).toArray⟩ ++ piece data j) .empty

theorem storedBlocks_eq (data : ByteArray) :
    storedBlocks data = blocksUpTo data (blockCount data.size) := rfl

theorem blocksUpTo_succ (data : ByteArray) (k : Nat) :
    blocksUpTo data (k + 1) = blocksUpTo data k ++ ⟨(blockHeader data k).toArray⟩ ++ piece data k := by
  rw [blocksUpTo, List.range_succ, List.foldl_append]
  rfl

theorem foldl_blocks (data : ByteArray) :
    ∀ (l : List Nat) (a : ByteArray),
      l.foldl (fun acc j => acc ++ ⟨(blockHeader data j).toArray⟩ ++ piece data j) a =
        a ++ l.foldl (fun acc j => acc ++ ⟨(blockHeader data j).toArray⟩ ++ piece data j) .empty
  | [], a => by simp
  | j :: l, a => by
    rw [List.foldl_cons, List.foldl_cons, foldl_blocks data l,
      foldl_blocks data l (ByteArray.empty ++ ⟨(blockHeader data j).toArray⟩ ++ piece data j)]
    simp only [ByteArray.empty_append, ByteArray.append_assoc]

theorem piece_size_le (data : ByteArray) (k : Nat) : (piece data k).size ≤ 65535 := by
  simp only [piece, ByteArray.size_extract]
  omega

/-- Block `k` of the stream comes right after the blocks before it. -/
theorem storedBlocks_toList {data : ByteArray} {k : Nat} (hk : k < blockCount data.size) :
    ∃ rest, (storedBlocks data).data.toList =
      (blocksUpTo data k).data.toList ++ (blockHeader data k ++ (piece data k).data.toList) ++ rest := by
  obtain ⟨m, hm⟩ : ∃ m, blockCount data.size = (k + 1) + m := ⟨_, (Nat.add_sub_of_le hk).symm⟩
  -- the stream is the first `k + 1` blocks followed by the others
  have hsplit : storedBlocks data = blocksUpTo data (k + 1) ++
      ((List.range m).map (k + 1 + ·)).foldl
        (fun acc j => acc ++ ⟨(blockHeader data j).toArray⟩ ++ piece data j) .empty := by
    rw [storedBlocks_eq, hm, blocksUpTo, List.range_add, List.foldl_append, foldl_blocks]
    rfl
  rw [hsplit, blocksUpTo_succ]
  simp only [ByteArray.data_append, Array.toList_append, List.append_assoc]
  exact ⟨_, rfl⟩

theorem size_blocksUpTo_succ (data : ByteArray) (k : Nat) :
    (blocksUpTo data (k + 1)).size = (blocksUpTo data k).size + 5 + (piece data k).size := by
  have hhead : (⟨(blockHeader data k).toArray⟩ : ByteArray).size = 5 := by
    show (blockHeader data k).toArray.size = 5
    simp [blockHeader, leBytes]
  rw [blocksUpTo_succ, ByteArray.size_append, ByteArray.size_append, hhead]

theorem size_blocksUpTo (data : ByteArray) : ∀ k, 5 * k ≤ (blocksUpTo data k).size
  | 0 => Nat.zero_le _
  | k + 1 => by
    rw [size_blocksUpTo_succ]
    have := size_blocksUpTo data k
    omega

theorem size_blocksUpTo_eq (data : ByteArray) : ∀ k, (blocksUpTo data k).size = 5 * k + min data.size (k * 65535)
  | 0 => by simp [blocksUpTo]
  | k + 1 => by
    rw [size_blocksUpTo_succ, size_blocksUpTo_eq data k, piece, ByteArray.size_extract]
    omega

theorem size_storedBlocks (data : ByteArray) :
    (storedBlocks data).size = 5 * blockCount data.size + data.size := by
  have hcover : data.size ≤ blockCount data.size * 65535 := by
    unfold blockCount
    omega
  rw [storedBlocks_eq, size_blocksUpTo_eq, Nat.min_eq_left hcover]

theorem piece_append_rest {data : ByteArray} {k : Nat} (hk : k + 1 < blockCount data.size) :
    piece data k ++ data.extract ((k + 1) * 65535) data.size = data.extract (k * 65535) data.size := by
  have hfull : (k + 1) * 65535 ≤ data.size := by
    unfold blockCount at hk
    omega
  have hstep : k * 65535 ≤ (k + 1) * 65535 := Nat.mul_le_mul_right _ (Nat.le_succ k)
  rw [piece, Nat.min_eq_right hfull,
    @ByteArray.extract_append_extract data (k * 65535) ((k + 1) * 65535) data.size,
    Nat.min_eq_left hstep, Nat.max_eq_right hfull]

theorem piece_last {data : ByteArray} {k : Nat} (hk : k + 1 = blockCount data.size) :
    piece data k = data.extract (k * 65535) data.size := by
  have hcover : data.size ≤ (k + 1) * 65535 := by
    unfold blockCount at hk
    omega
  rw [piece, Nat.min_eq_left hcover]

end Zip

namespace Inflate

open Zip

/-- Block `k` of the stream, read after the ones before it, adds piece `k` to the output. -/
theorem block_at {data : ByteArray} {k fuel : Nat} {s : Inflater} (hk : k + 1 ≤ blockCount data.size)
    (hin : s.input = storedBlocks data) (hpos : s.pos = (blocksUpTo data k).size)
    (hbits : s.bits = 0) (hheld : s.held = 0) :
    (blocks (fuel + 1)).run s =
      (if !(k + 1 == blockCount data.size) then blocks fuel else pure ()).run
        { s with pos := (blocksUpTo data (k + 1)).size, offset := s.offset + 1 + 4 + (piece data k).size,
                 bits := 0, held := 0, out := s.out ++ piece data k,
                 final := k + 1 == blockCount data.size } := by
  obtain ⟨rest, hlay⟩ := @storedBlocks_toList data k (by omega)
  rw [← hin] at hlay
  have hU : (blocksUpTo data k).data.toList.length = s.pos := by rw [hpos]; rfl
  have hP : (piece data k).data.toList.length = (piece data k).size := Array.length_toList
  have hcut : s.input.data.toList = (blocksUpTo data k).data.toList ++
      [if k + 1 == blockCount data.size then 1 else 0] ++
      (leBytes (piece data k).size 2 ++ leBytes (65535 - (piece data k).size) 2) ++
      ((piece data k).data.toList ++ rest) := by
    rw [hlay]
    simp [blockHeader]
  have hfirst : s.input[s.pos]? = some (if k + 1 == blockCount data.size then 1 else 0) := by
    rw [← hU]
    exact getElem?_of_toList (C := leBytes (piece data k).size 2 ++
      (leBytes (65535 - (piece data k).size) 2 ++ ((piece data k).data.toList ++ rest))) (by rw [hcut]; simp)
  have hhead : (s.input.extract (s.pos + 1) (s.pos + 1 + 4)).toList =
      leBytes (piece data k).size 2 ++ leBytes (65535 - (piece data k).size) 2 := by
    have h := extract_of_toList hcut
    simp only [List.length_append, List.length_singleton, length_leBytes, hU] at h
    rw [Utf8.toList_eq_data]
    exact h
  have hcut' : s.input.data.toList = ((blocksUpTo data k).data.toList ++
      [if k + 1 == blockCount data.size then 1 else 0] ++
      (leBytes (piece data k).size 2 ++ leBytes (65535 - (piece data k).size) 2)) ++
      (piece data k).data.toList ++ rest := by
    rw [hcut]
    simp only [List.append_assoc]
  have hpiece : s.input.extract (s.pos + 1 + 4) (s.pos + 1 + 4 + (piece data k).size) = piece data k := by
    have h := extract_of_toList hcut'
    simp only [List.length_append, List.length_singleton, length_leBytes, hU, hP] at h
    exact ByteArray.ext (Array.ext' h)
  have hroom : s.pos + 1 + 4 + (piece data k).size ≤ s.input.size := by
    have h := size_of_toList (by rw [hcut'])
    simp only [List.length_append, List.length_singleton, length_leBytes, hU, hP] at h
    omega
  have hnext : (blocksUpTo data (k + 1)).size = s.pos + 1 + 4 + (piece data k).size := by
    rw [size_blocksUpTo_succ, ← hpos]
  rw [Inflate.blocks_stored_step hbits hheld hfirst hhead (by have := piece_size_le data k; omega) hroom,
    hpiece, hnext]

/-- The blocks of the stream from the `k`-th on, read after the ones before it, add the data from
piece `k` on to the output. -/
theorem blocks_stored (data : ByteArray) :
    ∀ (j k fuel : Nat) (s : Inflater), k + j + 1 = blockCount data.size → j < fuel →
      s.input = storedBlocks data → s.pos = (blocksUpTo data k).size → s.bits = 0 → s.held = 0 →
      ∃ s', (blocks fuel).run s = .ok () s' ∧ s'.out = s.out ++ data.extract (k * 65535) data.size := by
  intro j
  induction j with
  | zero =>
    intro k fuel s hk hfuel hin hpos hbits hheld
    obtain ⟨f, rfl⟩ : ∃ f, fuel = f + 1 := ⟨fuel - 1, by omega⟩
    -- block `k` is the last one
    have hlast : (k + 1 == blockCount data.size) = true := beq_iff_eq.mpr (by omega)
    rw [block_at (by omega) hin hpos hbits hheld, hlast]
    refine ⟨_, rfl, ?_⟩
    show s.out ++ piece data k = _
    rw [piece_last (by omega)]
  | succ j ih =>
    intro k fuel s hk hfuel hin hpos hbits hheld
    obtain ⟨f, rfl⟩ : ∃ f, fuel = f + 1 := ⟨fuel - 1, by omega⟩
    -- block `k` is not the last one: the reading goes on at block `k + 1`
    have hlast : (k + 1 == blockCount data.size) = false := beq_eq_false_iff_ne.mpr (by omega)
    rw [block_at (by omega) hin hpos hbits hheld, hlast]
    obtain ⟨s', hrun, hout⟩ := ih (k + 1) f
      { s with pos := (blocksUpTo data (k + 1)).size, offset := s.offset + 1 + 4 + (piece data k).size,
               bits := 0, held := 0, out := s.out ++ piece data k, final := false }
      (by omega) (by omega) hin rfl rfl rfl
    refine ⟨s', hrun, ?_⟩
    rw [hout]
    show s.out ++ piece data k ++ _ = _
    rw [ByteArray.append_assoc, piece_append_rest (by omega)]

/-- A run of the blocks that ends well is what `inflate` answers. Stated for any input, so that
using it never makes the kernel unfold the input it is used at. -/
theorem inflate_of_run {input : ByteArray} {s : Inflater}
    (h : (blocks (8 * input.size + 2)).run { input } = .ok () s) : inflate input = (s.out, none) := by
  unfold inflate
  rw [h]

/-- Inflating the stored blocks of any data gives the data back, with no problem. -/
theorem inflate_storedBlocks (data : ByteArray) : inflate (storedBlocks data) = (data, none) := by
  have hcount : 0 < blockCount data.size := by
    unfold blockCount
    omega
  -- every block takes at least five octets, so the inflater's fuel covers all of them
  have hsize := size_blocksUpTo data (blockCount data.size)
  rw [← storedBlocks_eq] at hsize
  obtain ⟨s', hrun, hout⟩ := blocks_stored data (blockCount data.size - 1) 0
    (8 * (storedBlocks data).size + 2) { input := storedBlocks data } (by omega) (by omega) rfl rfl rfl rfl
  rw [inflate_of_run hrun, hout, Nat.zero_mul]
  exact congrArg (·, none) (ByteArray.empty_append.trans ByteArray.extract_zero_size)

end Inflate

end RaceArchive
