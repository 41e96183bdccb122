/-!
# UTF-8 octets and text

Payloads, response bodies and files are octet strings; names and messages are text. This module
turns one into the other. Reading follows the usual well-formedness rule of UTF-8 (no overlong
forms, no surrogates, nothing above U+10FFFF): an octet that does not start a well-formed
character stands for one U+FFFD, and reading resumes at the next octet. So every octet string
reads as some text.
-/

namespace RaceArchive

/-- Text as names travel in payloads: octets meant to be UTF-8 that need not be. They are kept,
compared and stored as they are, and only read as text where they are shown. -/
abbrev Octets := List UInt8

end RaceArchive

namespace RaceArchive.Utf8

def isTail (b : UInt8) : Bool := 0x80 ≤ b && b ≤ 0xBF

def octet (b : ByteArray) (i : Nat) : UInt8 := b[i]?.getD 0

/-- The octets from `start` up to `stop`, as `ByteArray.extract` takes them, cut from the list of
octets. -/
def slice (b : ByteArray) (start stop : Nat) : ByteArray := ⟨⟨(b.data.toList.take stop).drop start⟩⟩

/-- `dest` with the `len` octets of `src` from `srcOff` on written at `destOff`, as
`ByteArray.copySlice` writes them: `dest` grows when they run past its end. -/
def place (src : ByteArray) (srcOff : Nat) (dest : ByteArray) (destOff len : Nat) : ByteArray :=
  slice dest 0 destOff ++ slice src srcOff (srcOff + len) ++
    slice dest (destOff + min len (src.size - srcOff)) dest.size

/-- The number of continuation octets of the well-formed character starting at `i`, or `none`
when the octets there start none. The bounds of the second octet depend on the first, as UTF-8
prescribes. -/
def tailCount? (b : ByteArray) (i : Nat) : Option Nat :=
  let b0 := octet b i
  let b1 := octet b (i + 1)
  let b2 := octet b (i + 2)
  let b3 := octet b (i + 3)
  if i ≥ b.size then none
  else if b0 < 0x80 then some 0
  else if 0xC2 ≤ b0 && b0 ≤ 0xDF then
    if i + 2 ≤ b.size && isTail b1 then some 1 else none
  else if 0xE0 ≤ b0 && b0 ≤ 0xEF then
    let lo : UInt8 := if b0 = 0xE0 then 0xA0 else 0x80
    let hi : UInt8 := if b0 = 0xED then 0x9F else 0xBF
    if i + 3 ≤ b.size && lo ≤ b1 && b1 ≤ hi && isTail b2 then some 2 else none
  else if 0xF0 ≤ b0 && b0 ≤ 0xF4 then
    let lo : UInt8 := if b0 = 0xF0 then 0x90 else 0x80
    let hi : UInt8 := if b0 = 0xF4 then 0x8F else 0xBF
    if i + 4 ≤ b.size && lo ≤ b1 && b1 ≤ hi && isTail b2 && isTail b3 then some 3 else none
  else none

/-- How many octets a character whose first octet is `b0` takes; one for an octet that starts
none. -/
def width (b0 : UInt8) : Nat :=
  if b0 < 0xC2 then 1 else if b0 ≤ 0xDF then 2 else if b0 ≤ 0xEF then 3 else if b0 ≤ 0xF4 then 4
  else 1

/-- The bounds of the second octet of a character whose first octet is `b0`. -/
def secondBounds (b0 : UInt8) : UInt8 × UInt8 :=
  if b0 = 0xE0 then (0xA0, 0xBF) else if b0 = 0xED then (0x80, 0x9F)
  else if b0 = 0xF0 then (0x90, 0xBF) else if b0 = 0xF4 then (0x80, 0x8F) else (0x80, 0xBF)

/-- Whether the octets from `i` up to `e` are enough to tell the character at `i`: they hold all
of it, or already an octet that cannot continue it. Fewer octets leave it open, and so does
none at all. -/
def settledBefore (b : ByteArray) (i e : Nat) : Bool :=
  let n := e - i
  let b0 := octet b i
  let (lo, hi) := secondBounds b0
  let b1 := octet b (i + 1)
  if n == 0 then false
  else if width b0 ≤ n then true
  else if 1 < n && (b1 < lo || hi < b1) then true
  else 2 < n && !isTail (octet b (i + 2))

/-- The code point of the well-formed character with `k` continuation octets at `i`. -/
def codePoint (b : ByteArray) (i k : Nat) : Nat :=
  let o (j : Nat) : Nat := (octet b (i + j)).toNat
  match k with
  | 0 => o 0
  | 1 => (o 0 % 32) * 64 + o 1 % 64
  | 2 => (o 0 % 16) * 4096 + (o 1 % 64) * 64 + o 2 % 64
  | _ => (o 0 % 8) * 262144 + (o 1 % 64) * 4096 + (o 2 % 64) * 64 + o 3 % 64

/-- The character at `i` and the number of octets after its first; a bad octet reads as U+FFFD
with none after it. -/
def charAt (b : ByteArray) (i : Nat) : Char × Nat :=
  match tailCount? b i with
  | some k => (Char.ofNat (codePoint b i k), k)
  | none => ('\uFFFD', 0)

/-- Reads the octets from `i` on, replacing each bad octet by U+FFFD. -/
def decodeFrom (b : ByteArray) (i : Nat) (acc : String) : String :=
  if i < b.size then
    decodeFrom b (i + (charAt b i).2 + 1) (acc.push (charAt b i).1)
  else acc
termination_by b.size - i

def decodeLossy (b : ByteArray) : String := decodeFrom b 0 ""

def lossy (o : Octets) : String := decodeLossy ⟨o.toArray⟩

def octetsOf (s : String) : Octets := s.toUTF8.toList

/-- Whether every octet from `i` on belongs to a well-formed character. -/
def isValidFrom (b : ByteArray) (i : Nat) : Bool :=
  if i < b.size then
    match tailCount? b i with
    | some k => isValidFrom b (i + k + 1)
    | none => false
  else true
termination_by b.size - i

def isValid (b : ByteArray) : Bool := isValidFrom b 0

end RaceArchive.Utf8
