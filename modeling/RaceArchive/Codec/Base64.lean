/-!
# Base64

The standard alphabet of RFC 4648 (`A`–`Z`, `a`–`z`, `0`–`9`, `+`, `/`) with `=` padding. Three
octets become four characters; a last group of one or two octets becomes two or three characters
and is padded to four.
-/

namespace RaceArchive.Base64

def alphabet : String := "ABCDEFGHIJKLMNOPQRSTUVWXYZabcdefghijklmnopqrstuvwxyz0123456789+/"

def charOf (n : Nat) : Char := alphabet.toList.getD n '='

/-- The six-bit value of a character of the alphabet. -/
def valueOf? (c : Char) : Option Nat :=
  if 'A' ≤ c ∧ c ≤ 'Z' then some (c.toNat - 'A'.toNat)
  else if 'a' ≤ c ∧ c ≤ 'z' then some (c.toNat - 'a'.toNat + 26)
  else if '0' ≤ c ∧ c ≤ '9' then some (c.toNat - '0'.toNat + 52)
  else if c = '+' then some 62
  else if c = '/' then some 63
  else none

/-- Encodes groups of three octets. -/
def encodeList : List UInt8 → List Char
  | [] => []
  | [a] =>
    let n := a.toNat * 65536
    [charOf (n / 262144), charOf (n / 4096 % 64), '=', '=']
  | [a, b] =>
    let n := a.toNat * 65536 + b.toNat * 256
    [charOf (n / 262144), charOf (n / 4096 % 64), charOf (n / 64 % 64), '=']
  | a :: b :: c :: rest =>
    let n := a.toNat * 65536 + b.toNat * 256 + c.toNat
    charOf (n / 262144) :: charOf (n / 4096 % 64) :: charOf (n / 64 % 64) :: charOf (n % 64) ::
      encodeList rest

def encode (b : ByteArray) : String := String.ofList (encodeList b.toList)

/-- Decodes groups of four characters; padding ends the text. -/
def decodeList : List Char → Option (List UInt8)
  | [] => some []
  | [a, b, '=', '='] => do
    let n := (← valueOf? a) * 262144 + (← valueOf? b) * 4096
    pure [(n / 65536).toUInt8]
  | [a, b, c, '='] => do
    let n := (← valueOf? a) * 262144 + (← valueOf? b) * 4096 + (← valueOf? c) * 64
    pure [(n / 65536).toUInt8, (n / 256 % 256).toUInt8]
  | a :: b :: c :: d :: rest => do
    let n := (← valueOf? a) * 262144 + (← valueOf? b) * 4096 + (← valueOf? c) * 64 + (← valueOf? d)
    let tail ← decodeList rest
    pure ((n / 65536).toUInt8 :: (n / 256 % 256).toUInt8 :: (n % 256).toUInt8 :: tail)
  | _ => none

def decode? (s : String) : Option ByteArray := (decodeList s.toList).map fun l => ⟨l.toArray⟩

end RaceArchive.Base64
