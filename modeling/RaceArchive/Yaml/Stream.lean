/-!
# The characters of a YAML stream

A stream is UTF-8 unless it starts with a byte order mark for UTF-16, in either order of octets; a
mark at the very start, for UTF-8 or UTF-16, is dropped. Every character must be well-formed in the
encoding and be one a YAML text may hold: tab, line feed, carriage return, printable ASCII, next
line, and everything from U+00A0 on but the surrogates, U+FFFE and U+FFFF. The first character
that fails stops the reading with its problem. What is read is handed on as UTF-8.
-/

namespace RaceArchive.Yaml

/-- The encodings a stream may be in. -/
inductive Encoding where
  | utf8
  | utf16le
  | utf16be
  deriving DecidableEq, Repr

def octetAt (b : ByteArray) (i : Nat) : UInt8 := b[i]?.getD 0

/-- The encoding a stream announces, and how many octets its mark takes. -/
def detectEncoding (b : ByteArray) : Encoding × Nat :=
  if b.size ≥ 2 && octetAt b 0 == 0xFF && octetAt b 1 == 0xFE then (.utf16le, 2)
  else if b.size ≥ 2 && octetAt b 0 == 0xFE && octetAt b 1 == 0xFF then (.utf16be, 2)
  else if b.size ≥ 3 && octetAt b 0 == 0xEF && octetAt b 1 == 0xBB && octetAt b 2 == 0xBF then
    (.utf8, 3)
  else (.utf8, 0)

/-- Whether a YAML text may hold a character. -/
def allowedPoint (n : Nat) : Bool :=
  n == 0x09 || n == 0x0A || n == 0x0D || (0x20 ≤ n && n ≤ 0x7E) || n == 0x85 ||
    (0xA0 ≤ n && n ≤ 0xD7FF) || (0xE000 ≤ n && n ≤ 0xFFFD) || (0x10000 ≤ n && n ≤ 0x10FFFF)

/-- The UTF-8 character at `i`, and its width. The width comes from the first octet alone; each
following octet must be a continuation octet, the value must need all of the width, and it must
be a Unicode scalar value. -/
def utf8Point (b : ByteArray) (i : Nat) : Except String (Nat × Nat) := do
  let o := octetAt b i
  let (width, lead) ←
    if o &&& 0x80 == 0 then pure (1, o.toNat)
    else if o &&& 0xE0 == 0xC0 then pure (2, (o &&& 0x1F).toNat)
    else if o &&& 0xF0 == 0xE0 then pure (3, (o &&& 0x0F).toNat)
    else if o &&& 0xF8 == 0xF0 then pure (4, (o &&& 0x07).toNat)
    else throw "invalid leading UTF-8 octet"
  if width > b.size - i then throw "incomplete UTF-8 octet sequence"
  let step (v k : Nat) : Except String Nat := do
    let t := octetAt b (i + k + 1)
    if t &&& 0xC0 != 0x80 then throw "invalid trailing UTF-8 octet"
    pure (v * 64 + (t &&& 0x3F).toNat)
  let value ← (List.range (width - 1)).foldlM step lead
  if !(width == 1 || (width == 2 && value ≥ 0x80) || (width == 3 && value ≥ 0x800) ||
      (width == 4 && value ≥ 0x10000)) then
    throw "invalid length of a UTF-8 sequence"
  if (0xD800 ≤ value && value ≤ 0xDFFF) || value > 0x10FFFF then throw "invalid Unicode character"
  pure (value, width)

/-- The UTF-16 character at `i`, its octets in the order `littleEndian` says, and its width: one
unit, or a high surrogate unit with the low surrogate unit after it. -/
def utf16Point (b : ByteArray) (i : Nat) (littleEndian : Bool) : Except String (Nat × Nat) := do
  let unit (j : Nat) : Nat :=
    if littleEndian then (octetAt b j).toNat + 256 * (octetAt b (j + 1)).toNat
    else 256 * (octetAt b j).toNat + (octetAt b (j + 1)).toNat
  if b.size - i < 2 then throw "incomplete UTF-16 character"
  let value := unit i
  if value / 1024 == 0xDC00 / 1024 then throw "unexpected low surrogate area"
  if value / 1024 == 0xD800 / 1024 then
    if b.size - i < 4 then throw "incomplete UTF-16 surrogate pair"
    let low := unit (i + 2)
    if low / 1024 != 0xDC00 / 1024 then throw "expected low surrogate area"
    pure (0x10000 + (value % 1024) * 1024 + low % 1024, 4)
  else pure (value, 2)

def utf8Octets (n : Nat) : ByteArray := (Char.ofNat n).toString.toUTF8

/-- Reads the characters of a stream from `i`, appending their UTF-8 octets to `acc`, with at
most `fuel` characters left. -/
def readPoints (b : ByteArray) (enc : Encoding) (i : Nat) (acc : ByteArray) :
    Nat → Except String ByteArray
  | 0 => .ok acc
  | fuel + 1 =>
    if i ≥ b.size then .ok acc
    else do
      let (value, width) ← match enc with
        | .utf8 => utf8Point b i
        | .utf16le => utf16Point b i true
        | .utf16be => utf16Point b i false
      if !allowedPoint value then throw "control characters are not allowed"
      let acc := match enc with
        | .utf8 => acc ++ b.extract i (i + width)
        | _ => acc ++ utf8Octets value
      readPoints b enc (i + width) acc fuel

/-- The characters of a stream as UTF-8, without the mark at its start, or the problem of its
first bad character. -/
def readStream (b : ByteArray) : Except String ByteArray :=
  let (enc, mark) := detectEncoding b
  readPoints b enc mark ByteArray.empty (b.size + 1)

end RaceArchive.Yaml
