import RaceArchive.Decimal.Layout
import RaceArchive.Text.Quote

/-!
# Document values and their compact text

A document value is `null`, a boolean, a number held as the numeral that prints it, a text, a list
or an object with its members in order. Printing is compact: no blank between tokens.

Inside quotes a text keeps every character except these: the quote and the backslash take a
backslash; line feed, carriage return and tab are written `\n`, `\r`, `\t`; other control
characters are `\u00XX`; `<`, `>` and `&` are `\u003c`, `\u003e` and `\u0026`, so the text can sit
inside markup; U+2028 and U+2029 are `\u2028` and `\u2029`, so it can sit inside a script. A text
given as octets has each octet that does not start a well-formed UTF-8 character written
`\ufffd`.
-/

namespace RaceArchive.Json

/-- A document value. -/
inductive Value where
  | null
  | bool (b : Bool)
  /-- A number, held as the numeral that prints it. -/
  | number (numeral : String)
  | str (s : String)
  /-- A text given as octets, which need not be UTF-8. -/
  | octets (o : Octets)
  | arr (items : List Value)
  | obj (members : List (String × Value))
  deriving Repr, Inhabited

namespace Value

def ofInt (n : Int) : Value := .number (toString n)

def ofInt64 (n : Int64) : Value := .number (toString n.toInt)

def ofNat (n : Nat) : Value := .number (toString n)

def ofFloat (x : Float) : Value := .number (Decimal.forDocument x)

def ofOption {α : Type} (f : α → Value) : Option α → Value
  | some a => f a
  | none => .null

def ofStrings (xs : List String) : Value := .arr (xs.map .str)

end Value

/-- One character as it stands inside a quoted text. -/
def escapeChar (c : Char) : String :=
  match c with
  | '"' => "\\\""
  | '\\' => "\\\\"
  | '\n' => "\\n"
  | '\r' => "\\r"
  | '\t' => "\\t"
  | '<' => "\\u003c"
  | '>' => "\\u003e"
  | '&' => "\\u0026"
  | _ =>
    if c.toNat < 0x20 then "\\u00" ++ Text.hexFixed 2 c.toNat
    else if c.toNat = 0x2028 ∨ c.toNat = 0x2029 then "\\u" ++ Text.hexFixed 4 c.toNat
    else c.toString

def quoteText (s : String) : String :=
  "\"" ++ String.join (s.toList.map escapeChar) ++ "\""

/-- Octets between quotes: each well-formed UTF-8 character escaped as in `quoteText`, each octet
that starts none written `\ufffd`. -/
def quoteOctets (o : Octets) : String :=
  let b : ByteArray := ⟨o.toArray⟩
  "\"" ++ go b 0 "" (b.size + 1) ++ "\""
where
  /-- Escapes from position `i`, with at most `fuel` characters left. -/
  go (b : ByteArray) (i : Nat) (acc : String) : Nat → String
    | 0 => acc
    | fuel + 1 =>
      if i < b.size then
        match Utf8.tailCount? b i with
        | some k => go b (i + k + 1) (acc ++ escapeChar (Char.ofNat (Utf8.codePoint b i k))) fuel
        | none => go b (i + 1) (acc ++ "\\ufffd") fuel
      else acc

mutual

/-- The compact text of a value. -/
def Value.render : Value → String
  | .null => "null"
  | .bool b => if b then "true" else "false"
  | .number n => n
  | .str s => quoteText s
  | .octets o => quoteOctets o
  | .arr items => "[" ++ renderItems items ++ "]"
  | .obj members => "\x7b" ++ renderMembers members ++ "\x7d"

def renderItems : List Value → String
  | [] => ""
  | [v] => v.render
  | v :: rest => v.render ++ "," ++ renderItems rest

/-- Object members, separated by commas. -/
def renderMembers : List (String × Value) → String
  | [] => ""
  | [(k, v)] => quoteText k ++ ":" ++ v.render
  | (k, v) :: rest => quoteText k ++ ":" ++ v.render ++ "," ++ renderMembers rest

end

end RaceArchive.Json
