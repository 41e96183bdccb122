/-!
# CRC-32

The IEEE cyclic redundancy check used by zip archives: the reflected polynomial `0xEDB88320`, a
register started at all ones and inverted at the end. A byte enters the register as eight single
bit steps; the table holds the eight steps of each byte value, so a byte costs one lookup.
-/

namespace RaceArchive.Crc32

def polynomial : UInt32 := 0xEDB88320

def bitStep (c : UInt32) : UInt32 :=
  if c &&& 1 == 1 then (c >>> 1) ^^^ polynomial else c >>> 1

def bitSteps : Nat → UInt32 → UInt32
  | 0, c => c
  | n + 1, c => bitSteps n (bitStep c)

def table : Array UInt32 := (Array.range 256).map fun i => bitSteps 8 i.toUInt32

def feed (c : UInt32) (b : UInt8) : UInt32 :=
  (table.getD ((c ^^^ b.toUInt32) &&& 0xFF).toNat 0) ^^^ (c >>> 8)

def update (crc : UInt32) (data : ByteArray) : UInt32 :=
  data.foldl (fun c b => feed c b) (crc ^^^ 0xFFFFFFFF) ^^^ 0xFFFFFFFF

def checksum (data : ByteArray) : UInt32 := update 0 data

end RaceArchive.Crc32
