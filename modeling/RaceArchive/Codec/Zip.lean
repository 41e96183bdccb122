import RaceArchive.Codec.Crc32
import RaceArchive.Codec.Inflate
import RaceArchive.Text.Utf8

/-!
# Zip archives

Reading finds the end record of the central directory in the last kilobyte of the archive, or
else in the last 65 kilobytes, scanning from the end; an end record whose comment runs past the
end of the archive ends the search. A zip64 locator just before the end record points to the
zip64 end record, which then holds the directory's place and size. The directory is taken to
start at the end record less its size; when that differs from where the end record says it
starts, the difference is added to every offset, unless a directory header is found where the end
record says.

Directory headers are read until one cannot be read; the count read must agree with the count in
the end record modulo `2^16`, else the problem that stopped the reading is the archive's.

The first entry is opened at its local header and read as stored or deflated bytes. Its output
must not exceed the size in the directory, must reach it, and must match the directory's CRC
(when that is not zero, or when a data descriptor follows, whose CRC must match too).

Writing produces deflated entries made of stored blocks, with sizes and CRC in the headers.
-/

namespace RaceArchive.Zip

/-- Why an archive or one of its entries could not be read. -/
inductive Problem where
  /-- The archive is malformed. -/
  | format
  /-- The entry uses a compression method other than storing and deflating. -/
  | algorithm
  /-- The entry's CRC does not match its contents. -/
  | checksum
  /-- A read began at the end of the archive. -/
  | endOfInput
  /-- A read ran past the end of the archive. -/
  | truncated
  /-- A read at a position before the start of the archive. -/
  | negativeOffset
  /-- The deflated data is malformed or cut short. -/
  | inflate (p : Inflate.Problem)
  deriving DecidableEq, Repr

/-- The message of a problem with the archive at `path`. -/
def Problem.message (path : String) : Problem → String
  | .format => "zip: not a valid zip file"
  | .algorithm => "zip: unsupported compression algorithm"
  | .checksum => "zip: checksum error"
  | .endOfInput => "EOF"
  | .truncated => "unexpected EOF"
  | .negativeOffset => "readat " ++ path ++ ": negative offset"
  | .inflate p => p.message

/-- The unsigned little-endian number in `n` octets at `i`; octets past the end read as zero. -/
def le (b : ByteArray) (i n : Nat) : Nat :=
  (List.range n).foldr (fun k acc => acc * 256 + (b[i + k]?.getD 0).toNat) 0

def signed64 (x : Int) : Int :=
  let m := x % Nat.pow 2 64
  if m ≥ Nat.pow 2 63 then m - Nat.pow 2 64 else m

/-- Reads `n` octets at `pos` whole: none at all left is the end of the input, some but too few
is a truncation. -/
def readFull (b : ByteArray) (pos n : Nat) : Except Problem ByteArray :=
  if n == 0 then .ok ByteArray.empty
  else if pos + n ≤ b.size then .ok (b.extract pos (pos + n))
  else if pos ≥ b.size then .error .endOfInput
  else .error .truncated

/-- Reads `n` octets at a position that may be before the start, as a positioned read does: all of
them or the end of the input. -/
def readAt (b : ByteArray) (pos : Int) (n : Nat) : Except Problem ByteArray :=
  if pos < 0 then .error .negativeOffset
  else if pos.toNat + n ≤ b.size then .ok (b.extract pos.toNat (pos.toNat + n))
  else .error .endOfInput

/-- What the end record says: the count of entries, and the size and place of the directory. -/
structure DirectoryEnd where
  records : Nat
  size : Nat
  offset : Nat
  deriving Repr

/-- An entry of the directory. -/
structure Entry where
  name : ByteArray
  flags : Nat
  method : Nat
  crc : Nat
  compressedSize : Nat
  size : Nat
  headerOffset : Int

def endLength : Nat := 22

/-- Scans the last `len` octets of an archive from the end for the end record: `none` when there
is none, `some none` when the first found has a comment running past the end. -/
def scanBlock (b : ByteArray) (start len : Nat) : Nat → Nat → Option (Option Nat)
  | 0, _ => none
  | fuel + 1, i =>
    let p := start + i
    if le b p 4 == 0x06054b50 then
      let n := le b (p + endLength - 2) 2
      if n + endLength + i > len then some none else some (some p)
    else if i == 0 then none
    else scanBlock b start len fuel (i - 1)

def findIn (b : ByteArray) (len : Nat) : Option (Option Nat) :=
  let len := min len b.size
  if len < endLength then none
  else scanBlock b (b.size - len) len (len - endLength + 1) (len - endLength)

/-- The place of the end record. -/
def findEnd (b : ByteArray) : Except Problem Nat :=
  match findIn b 1024 with
  | some (some p) => .ok p
  | _ =>
    if b.size ≤ 1024 then .error .format
    else match findIn b (65 * 1024) with
      | some (some p) => .ok p
      | _ => .error .format

/-- The place of the zip64 end record named by a locator just before the end record, if any. -/
def zip64End (b : ByteArray) (endAt : Nat) : Option Int :=
  if endAt < 20 then none
  else
    let loc := endAt - 20
    if le b loc 4 != 0x07064b50 || le b (loc + 4) 4 != 0 || le b (loc + 16) 4 != 1 then none
    else
      let p := signed64 (le b (loc + 8) 8)
      if p < 0 then none else some p

/-- Reads the end record, following a zip64 end record when a field is at its limit: the record
and where it lies. -/
def readEnd (b : ByteArray) : Except Problem (DirectoryEnd × Nat) := do
  let p ← findEnd b
  let d : DirectoryEnd := ⟨le b (p + 10) 2, le b (p + 12) 4, le b (p + 16) 4⟩
  if d.records == 0xffff || d.size == 0xffff || d.offset == 0xffffffff then
    match zip64End b p with
    | none => pure (d, p)
    | some q =>
      let r ← readAt b q 56
      if le r 0 4 != 0x06064b50 then throw .format
      pure (⟨le r 32 8, le r 40 8, le r 48 8⟩, q.toNat)
  else pure (d, p)

/-- Reads the fields of the zip64 extra for the sizes and offset that are at their limit. -/
def zip64Fields (field : ByteArray) (e : Entry) (needU needC needH : Bool) :
    Except Problem (Entry × Bool × Bool × Bool) := do
  let mut e := e
  let mut off := 0
  if needU then
    if field.size < off + 8 then throw .format
    e := { e with size := le field off 8 }
    off := off + 8
  if needC then
    if field.size < off + 8 then throw .format
    e := { e with compressedSize := le field off 8 }
    off := off + 8
  if needH then
    if field.size < off + 8 then throw .format
    e := { e with headerOffset := signed64 (le field off 8) }
  pure (e, false, false, false)

/-- Reads the extra fields of an entry, at most `fuel` of them; only the zip64 field matters. -/
def readExtras (extra : ByteArray) : Nat → Nat → Entry → Bool → Bool → Bool →
    Except Problem (Entry × Bool × Bool)
  | 0, _, e, _, needC, needH => .ok (e, needC, needH)
  | fuel + 1, off, e, needU, needC, needH =>
    if extra.size < off + 4 then .ok (e, needC, needH)
    else
      let tag := le extra off 2
      let size := le extra (off + 2) 2
      if extra.size < off + 4 + size then .ok (e, needC, needH)
      else
        let field := extra.extract (off + 4) (off + 4 + size)
        if tag == 1 then do
          let (e, u, c, h) ← zip64Fields field e needU needC needH
          readExtras extra fuel (off + 4 + size) e u c h
        else readExtras extra fuel (off + 4 + size) e needU needC needH

/-- The length of a directory header without its name, extra field and comment. -/
def headerLength : Nat := 46

/-- Reads a directory header at `pos`: the entry and the place after the header. -/
def readHeader (b : ByteArray) (pos : Nat) : Except Problem (Entry × Nat) := do
  let h ← readFull b pos headerLength
  if le h 0 4 != 0x02014b50 then throw .format
  let nameLen := le h 28 2
  let extraLen := le h 30 2
  let commentLen := le h 32 2
  let rest ← readFull b (pos + headerLength) (nameLen + extraLen + commentLen)
  let e : Entry :=
    { name := rest.extract 0 nameLen, flags := le h 8 2, method := le h 10 2, crc := le h 16 4,
      compressedSize := le h 20 4, size := le h 24 4, headerOffset := le h 42 4 }
  let extra := rest.extract nameLen (nameLen + extraLen)
  let (e, needC, needH) ← readExtras extra (extra.size + 1) 0 e
    (e.size == 0xffffffff) (e.compressedSize == 0xffffffff) (e.headerOffset == 0xffffffff)
  if needC || needH then throw .format
  pure (e, pos + headerLength + nameLen + extraLen + commentLen)

/-- Reads directory headers from `pos` until one cannot be read, at most `fuel` of them: the
entries, and the problem that stopped the reading when it was a malformed header or a truncation;
any other problem is the archive's. -/
def readHeaders (b : ByteArray) : Nat → Nat → Array Entry → Except Problem (Array Entry × Problem)
  | 0, _, acc => .ok (acc, .format)
  | fuel + 1, pos, acc =>
    match readHeader b pos with
    | .ok (e, next) => readHeaders b fuel next (acc.push e)
    | .error .format => .ok (acc, .format)
    | .error .truncated => .ok (acc, .truncated)
    | .error p => .error p

/-- The entries of an archive. -/
def entries (b : ByteArray) : Except Problem (Array Entry) := do
  let (d, endAt) ← readEnd b
  if d.size ≥ Nat.pow 2 63 || d.offset ≥ Nat.pow 2 63 then throw .format
  let base := signed64 ((endAt : Int) - d.size - d.offset)
  let start := signed64 (base + d.offset)
  if start < 0 || start ≥ b.size then throw .format
  let base :=
    if base > 0 then
      match readHeader b d.offset with
      | .ok _ => 0
      | .error _ => base
    else base
  let (found, stop) ← readHeaders b (b.size / headerLength + 1) start.toNat #[]
  if found.size % 65536 != d.records % 65536 then throw stop
  pure (found.map fun e => { e with headerOffset := signed64 (e.headerOffset + base) })

def Entry.nameText (e : Entry) : String := Utf8.decodeLossy e.name

def Entry.bodyAt (b : ByteArray) (e : Entry) : Except Problem Int := do
  let h ← readAt b e.headerOffset 30
  if le h 0 4 != 0x04034b50 then throw .format
  pure (e.headerOffset + 30 + le h 26 2 + le h 28 2)

def slice (b : ByteArray) (start : Int) (len : Nat) : ByteArray :=
  if start < 0 || start ≥ b.size then ByteArray.empty
  else b.extract start.toNat (min b.size (start.toNat + len))

/-- Checks the data descriptor that follows the data of an entry. -/
def checkDescriptor (desc : ByteArray) (crc : Nat) : Except Problem Unit := do
  if desc.size < 4 then throw .truncated
  let first := le desc 0 4
  let (stored, need) := if first == 0x08074b50 then (le desc 4 4, 16) else (first, 12)
  if desc.size < need then throw .truncated
  if stored != crc then throw .checksum

/-- How an opened entry reads: as a directory of a recorded size, or as stored or deflated data
starting at a place. -/
inductive Body where
  | directory (size : Nat)
  | stored (start : Int)
  | deflated (start : Int)

/-- Opens an entry: its local header must be readable and its method known. -/
def Entry.open (b : ByteArray) (e : Entry) : Except Problem Body := do
  let start ← Entry.bodyAt b e
  if e.name.toList.getLast? == some 47 then return .directory e.size
  if e.method == 0 then pure (.stored start)
  else if e.method == 8 then pure (.deflated start)
  else throw .algorithm

/-- The compressed size of an entry as a section length: none past the signed 64-bit range. -/
def Entry.sectionLength (e : Entry) : Nat := if e.compressedSize ≥ Nat.pow 2 63 then 0 else e.compressedSize

/-- Reads the contents of an opened entry. -/
def Entry.read (b : ByteArray) (e : Entry) : Body → Except Problem ByteArray
  | .directory size => if size != 0 then .error .format else .ok ByteArray.empty
  | .stored start => check e b start (slice b start e.sectionLength, none)
  | .deflated start => check e b start (Inflate.inflate (slice b start e.sectionLength))
where
  /-- Checks the output of the data at `start` against the size and CRC of the entry. -/
  check (e : Entry) (b : ByteArray) (start : Int) (result : ByteArray × Option Inflate.Problem) :
      Except Problem ByteArray := do
    let (out, problem) := result
    if out.size > e.size then throw .format
    if let some p := problem then throw (.inflate p)
    if out.size != e.size then throw .truncated
    let sum := (Crc32.checksum out).toNat
    if e.flags &&& 8 != 0 then
      checkDescriptor (slice b (start + e.sectionLength) 16) e.crc
      if sum != e.crc then throw .checksum
    else if e.crc != 0 && sum != e.crc then throw .checksum
    pure out

/-! ## Writing -/

def leBytes (x n : Nat) : List UInt8 :=
  (List.range n).map fun k => ((x >>> (8 * k)) % 256).toUInt8

/-- Data as a deflate stream of stored blocks. -/
def storedBlocks (data : ByteArray) : ByteArray :=
  let limit := 65535
  let count := max 1 ((data.size + limit - 1) / limit)
  (List.range count).foldl (fun acc k =>
    let chunk := data.extract (k * limit) (min data.size ((k + 1) * limit))
    let header := [if k + 1 == count then 1 else 0] ++ leBytes chunk.size 2 ++
      leBytes (65535 - chunk.size) 2
    acc ++ ByteArray.mk header.toArray ++ chunk) ByteArray.empty

/-- An archive of deflated entries. An entry whose name ends in `/` is a directory: it is stored
empty, whatever data comes with it. -/
def write (files : List (String × ByteArray)) : ByteArray :=
  let step (acc : ByteArray × ByteArray) (file : String × ByteArray) :=
    let (body, directory) := acc
    let name := file.1.toUTF8
    let isDir := file.1.endsWith "/"
    let data := if isDir then ByteArray.empty else file.2
    let packed := if isDir then ByteArray.empty else storedBlocks data
    let crc := (Crc32.checksum data).toNat
    let method := if isDir then 0 else 8
    let common := leBytes 20 2 ++ leBytes 0 2 ++ leBytes method 2 ++ leBytes 0 4 ++ leBytes crc 4 ++
      leBytes packed.size 4 ++ leBytes data.size 4 ++ leBytes name.size 2 ++ leBytes 0 2
    let localHeader := leBytes 0x04034b50 4 ++ common
    let central := leBytes 0x02014b50 4 ++ leBytes 20 2 ++ common ++ leBytes 0 2 ++ leBytes 0 2 ++
      leBytes 0 2 ++ leBytes 0 4 ++ leBytes body.size 4
    (body ++ ByteArray.mk localHeader.toArray ++ name ++ packed,
      directory ++ ByteArray.mk central.toArray ++ name)
  let (body, directory) := files.foldl step (ByteArray.empty, ByteArray.empty)
  let finish := leBytes 0x06054b50 4 ++ leBytes 0 2 ++ leBytes 0 2 ++ leBytes files.length 2 ++
    leBytes files.length 2 ++ leBytes directory.size 4 ++ leBytes body.size 4 ++ leBytes 0 2
  body ++ directory ++ ByteArray.mk finish.toArray

end RaceArchive.Zip
