import RaceArchive.Text.Printable
import RaceArchive.Text.Utf8

/-!
# Quoted text

Two ways of writing a text between double quotes, as error messages show values.

* `quote` keeps printable characters, writes the quote and the backslash with a backslash before
  them, uses the C escapes for the seven control characters that have one, `\xHH` for other
  characters below U+0080 that are not printable, and `\uHHHH` or `\UHHHHHHHH` for the rest.
* `quoteOctets` works on octets: everything from space to `~` and DEL stays, the quote and the
  backslash get a backslash, and every other octet (controls and all of non-ASCII) is `\xHH`.

Hexadecimal digits are lower case in both.
-/

namespace RaceArchive.Text

def hexDigit (n : Nat) : Char := "0123456789abcdef".toList.getD n '0'

def hexFixed (width n : Nat) : String :=
  String.ofList ((List.range width).reverse.map fun k => hexDigit (n / Nat.pow 16 k % 16))

/-- The escape a control character has by name in C, if any. -/
def namedEscape? (c : Char) : Option String :=
  match c.toNat with
  | 0x07 => some "\\a"
  | 0x08 => some "\\b"
  | 0x0C => some "\\f"
  | 0x0A => some "\\n"
  | 0x0D => some "\\r"
  | 0x09 => some "\\t"
  | 0x0B => some "\\v"
  | _ => none

/-- One character as it stands inside `quote`. -/
def quoteChar (c : Char) : String :=
  if c = '"' || c = '\\' then "\\" ++ c.toString
  else if Printable.isPrintable c then c.toString
  else match namedEscape? c with
    | some e => e
    | none =>
      if c.toNat < 0x80 then "\\x" ++ hexFixed 2 c.toNat
      else if c.toNat < 0x10000 then "\\u" ++ hexFixed 4 c.toNat
      else "\\U" ++ hexFixed 8 c.toNat

/-- A text between double quotes, with every character that is not printable escaped. -/
def quote (s : String) : String :=
  "\"" ++ String.join (s.toList.map quoteChar) ++ "\""

/-- Octets between double quotes as `quote` writes a text, each octet that is not part of a
well-formed UTF-8 character written as `\xHH`. -/
def quoteUtf8 (b : List UInt8) : String :=
  let bytes : ByteArray := ⟨b.toArray⟩
  "\"" ++ go bytes 0 "" (bytes.size + 1) ++ "\""
where
  /-- Escapes from position `i`, with at most `fuel` characters left. -/
  go (bytes : ByteArray) (i : Nat) (acc : String) : Nat → String
    | 0 => acc
    | fuel + 1 =>
      if i < bytes.size then
        match Utf8.tailCount? bytes i with
        | some k => go bytes (i + k + 1) (acc ++ quoteChar (Char.ofNat (Utf8.codePoint bytes i k))) fuel
        | none => go bytes (i + 1) (acc ++ "\\x" ++ hexFixed 2 (Utf8.octet bytes i).toNat) fuel
      else acc

/-- One octet as it stands inside `quoteOctets`. -/
def quoteOctet (b : UInt8) : String :=
  if b = 0x22 || b = 0x5C then "\\" ++ (Char.ofNat b.toNat).toString
  else if b < 0x20 || b ≥ 0x80 then "\\x" ++ hexFixed 2 b.toNat
  else (Char.ofNat b.toNat).toString

/-- Octets between double quotes, with control characters and every non-ASCII octet written as
`\xHH`. -/
def quoteBytes (b : List UInt8) : String :=
  "\"" ++ String.join (b.map quoteOctet) ++ "\""

/-- A text between double quotes, with control characters and every non-ASCII octet written as
`\xHH`. -/
def quoteOctets (s : String) : String := quoteBytes s.toUTF8.toList

end RaceArchive.Text
