import RaceArchive.Text.Utf8

/-!
# Scanning YAML

The scanner turns the text of a YAML document into tokens: stream and document markers, the
starts and ends of block and flow collections, entry, key and value indicators, anchors, aliases,
tags and scalars.

Block structure comes from indentation. The scanner keeps a stack of indentation columns; a line
that starts further right than the current column opens a block collection, and one that starts
further left closes the collections it leaves. A scalar (or flow collection) may turn out to be a
*simple key* once a `:` follows it on the same line within 1024 characters; the scanner remembers
where each possible simple key started and, when the `:` comes, inserts the key token (and the
start of a block mapping, if needed) in front of it. A possible simple key that starts at the
current indentation of a block must be a key: a line there that is not a key is a problem.

Tokens are produced on demand. Before handing out the next token, the scanner makes sure at least
three are queued and that no possible simple key is waiting at the head of the queue, so that a
key token is never inserted in front of a token already handed out. Problems found while doing so
are reported at that moment, which decides which of two problems in a document is reported.

A problem carries the context it was found in, with the position where that context began, and
its own position; its message names the line of the context if that is past the first line, and
otherwise the line of the problem.
-/

namespace RaceArchive.Yaml

/-- A position in the text: characters read, line and column, all counted from zero. -/
structure Mark where
  index : Nat := 0
  line : Nat := 0
  column : Nat := 0
  deriving Repr, Inhabited, DecidableEq

/-- The stage that found a problem. -/
inductive Stage where
  | reader
  | scanner
  | parser
  deriving Repr, Inhabited, DecidableEq

/-- A problem found while reading a document. -/
structure Problem where
  stage : Stage
  context : String := ""
  contextMark : Mark := {}
  problem : String
  problemMark : Mark := {}
  deriving Repr, Inhabited

/-- The message of a problem, with the one-based line of its context or, failing that, of the
problem itself, when that line is not the first. A scanner stops before counting the line it
is on, so its lines are one further on. -/
def Problem.message (p : Problem) : String :=
  let bump := if p.stage == .scanner then 1 else 0
  let line :=
    if p.contextMark.line ≠ 0 then p.contextMark.line + bump
    else if p.problemMark.line ≠ 0 then p.problemMark.line + bump
    else 0
  "yaml: " ++ (if line ≠ 0 then "line " ++ toString line ++ ": " else "") ++ p.problem

/-- The kinds of token. -/
inductive TokenKind where
  | streamStart
  | streamEnd
  | versionDirective
  | tagDirective
  | documentStart
  | documentEnd
  | blockSequenceStart
  | blockMappingStart
  | blockEnd
  | flowSequenceStart
  | flowSequenceEnd
  | flowMappingStart
  | flowMappingEnd
  | blockEntry
  | flowEntry
  | key
  | value
  | alias
  | anchor
  | tag
  | scalar
  deriving Repr, Inhabited, DecidableEq

/-- How a scalar is written. -/
inductive Style where
  | plain
  | singleQuoted
  | doubleQuoted
  | literal
  | folded
  deriving Repr, Inhabited, DecidableEq

/-- A token and where it starts and stops. -/
structure Token where
  kind : TokenKind
  start : Mark
  stop : Mark
  /-- The text of a scalar, the name of an anchor or alias, or the handle of a tag. -/
  value : String := ""
  /-- The suffix of a tag, or the prefix of a tag directive. -/
  suffix : String := ""
  style : Style := .plain
  /-- The version of a version directive. -/
  major : Nat := 0
  minor : Nat := 0
  deriving Repr, Inhabited

/-- A place where a simple key may have started. -/
structure SimpleKey where
  possible : Bool := false
  required : Bool := false
  /-- The number of the token the key would be inserted before. -/
  tokenNumber : Nat := 0
  mark : Mark := {}
  deriving Repr, Inhabited

/-- The state of the scanner. -/
structure Scanner where
  input : ByteArray
  /-- The octet position of the next character. -/
  pos : Nat := 0
  mark : Mark := {}
  started : Bool := false
  ended : Bool := false
  flowLevel : Nat := 0
  /-- Tokens scanned and not yet handed out. -/
  queue : Array Token := #[]
  /-- Tokens handed out. -/
  parsed : Nat := 0
  available : Bool := false
  indent : Int := -1
  indents : List Int := []
  keyAllowed : Bool := false
  /-- The possible simple keys, one per flow level. -/
  keys : Array SimpleKey := #[]
  /-- Which entry of `keys` a token number belongs to. -/
  keyIndex : List (Nat × Nat) := []
  /-- Where the window of characters the scanner looks through begins. -/
  windowStart : Nat := 0
  /-- How many ends of text the window holds after the text. -/
  endsHeld : Nat := 0

abbrev Scan := StateT Scanner (Except Problem)

/-- The number of octets of the character starting with an octet. -/
def width (b : UInt8) : Nat :=
  if b < 0x80 then 1
  else if b &&& 0xE0 == 0xC0 then 2
  else if b &&& 0xF0 == 0xE0 then 3
  else if b &&& 0xF8 == 0xF0 then 4
  else 1

namespace Scanner

def byte (s : Scanner) (k : Nat) : UInt8 := s.input[s.pos + k]?.getD 0

def isZ (s : Scanner) (k : Nat) : Bool := s.byte k == 0

def isBlank (s : Scanner) (k : Nat) : Bool := s.byte k == 0x20 || s.byte k == 0x09

/-- A line break: carriage return, line feed, next line, line or paragraph separator. -/
def isBreak (s : Scanner) (k : Nat) : Bool :=
  s.byte k == 0x0D || s.byte k == 0x0A ||
  (s.byte k == 0xC2 && s.byte (k + 1) == 0x85) ||
  (s.byte k == 0xE2 && s.byte (k + 1) == 0x80 && (s.byte (k + 2) == 0xA8 || s.byte (k + 2) == 0xA9))

def isBreakZ (s : Scanner) (k : Nat) : Bool := s.isBreak k || s.isZ k

def isBlankZ (s : Scanner) (k : Nat) : Bool := s.isBlank k || s.isBreakZ k

def isDigit (s : Scanner) (k : Nat) : Bool := 0x30 ≤ s.byte k && s.byte k ≤ 0x39

def isHex (s : Scanner) (k : Nat) : Bool :=
  s.isDigit k || (0x41 ≤ s.byte k && s.byte k ≤ 0x46) || (0x61 ≤ s.byte k && s.byte k ≤ 0x66)

def hexValue (s : Scanner) (k : Nat) : Nat :=
  let b := s.byte k
  if b ≤ 0x39 then (b - 0x30).toNat else if b ≤ 0x46 then (b - 0x41).toNat + 10 else (b - 0x61).toNat + 10

def isAlpha (s : Scanner) (k : Nat) : Bool :=
  let b := s.byte k
  (0x30 ≤ b && b ≤ 0x39) || (0x41 ≤ b && b ≤ 0x5A) || (0x61 ≤ b && b ≤ 0x7A) || b == 0x5F || b == 0x2D

def isChar (s : Scanner) (c : Char) : Bool := s.byte 0 == c.toNat.toUInt8

/-- How many characters, at most `k`, are left from the current position. -/
def charsAhead (s : Scanner) (k : Nat) : Nat :=
  go s.pos k
where
  /-- Counts from `i` with at most `n` characters to go. -/
  go (i : Nat) : Nat → Nat
    | 0 => 0
    | n + 1 => if i < s.input.size then go (i + width (s.input[i]?.getD 0)) n + 1 else 0

/-- Whether the window begins with a byte order mark. The scanner looks there, wherever it
stands, when it decides to pass over a mark at the start of a line. -/
def windowStartsWithMark (s : Scanner) : Bool :=
  s.input[s.windowStart]? == some 0xEF && s.input[s.windowStart + 1]? == some 0xBB &&
    s.input[s.windowStart + 2]? == some 0xBF

/-- Whether a line starts here with three of a character and a blank: a document marker. -/
def atMarker (s : Scanner) (c : Char) : Bool :=
  s.mark.column == 0 && s.isChar c && s.byte 1 == c.toNat.toUInt8 && s.byte 2 == c.toNat.toUInt8 &&
    s.isBlankZ 3

end Scanner

def scanError {α : Type} (context : String) (contextMark : Mark) (problem : String) : Scan α := do
  throw { stage := .scanner, context, contextMark, problem, problemMark := (← get).mark }

/-- Makes sure `k` characters are in view. The window holds every character of the text ahead,
and an end of text more each time it is asked for more than it holds; when it is, it also moves
to begin at the current position. -/
def ensure (k : Nat) : Scan Unit := modify fun s =>
  if s.charsAhead k + s.endsHeld < k then
    { s with windowStart := s.pos, endsHeld := s.endsHeld + 1 }
  else s

def skip : Scan Unit := modify fun s =>
  { s with pos := s.pos + width (s.byte 0),
           mark := { s.mark with index := s.mark.index + 1, column := s.mark.column + 1 } }

/-- Moves past a line break. -/
def skipLine : Scan Unit := modify fun s =>
  if s.byte 0 == 0x0D && s.byte 1 == 0x0A then
    { s with pos := s.pos + 2, mark := ⟨s.mark.index + 2, s.mark.line + 1, 0⟩ }
  else if s.isBreak 0 then
    { s with pos := s.pos + width (s.byte 0), mark := ⟨s.mark.index + 1, s.mark.line + 1, 0⟩ }
  else s

/-- Moves past one character, adding it to a text. -/
def read (acc : String) : Scan String := do
  let c := (Utf8.charAt (← get).input (← get).pos).1
  skip
  pure (acc.push c)

/-- Moves past a line break, adding it to a text: a line feed for carriage returns, line feeds
and next-line characters, and the separator itself for a line or paragraph separator. -/
def readLine (acc : String) : Scan String := do
  let s ← get
  let next (octets chars : Nat) : Scanner :=
    { s with pos := s.pos + octets, mark := ⟨s.mark.index + chars, s.mark.line + 1, 0⟩ }
  if s.byte 0 == 0x0D && s.byte 1 == 0x0A then
    set (next 2 2)
    pure (acc.push '\n')
  else if s.byte 0 == 0x0D || s.byte 0 == 0x0A then
    set (next 1 1)
    pure (acc.push '\n')
  else if s.byte 0 == 0xC2 && s.byte 1 == 0x85 then
    set (next 2 1)
    pure (acc.push '\n')
  else if s.isBreak 0 then
    set (next 3 1)
    pure (acc.push (if s.byte 2 == 0xA8 then '\u2028' else '\u2029'))
  else pure acc

def skipWhile (p : Scanner → Bool) : Scan Unit := do
  let fuel := (← get).input.size + 1
  for _ in [0:fuel] do
    if p (← get) then skip else break

/-- Reads on while the scanner satisfies a test. -/
def readWhile (p : Scanner → Bool) (acc : String) : Scan String := do
  let fuel := (← get).input.size + 1
  let mut acc := acc
  for _ in [0:fuel] do
    if p (← get) then acc ← read acc else break
  pure acc

def appendToken (t : Token) : Scan Unit := modify fun s => { s with queue := s.queue.push t }

def insertToken (k : Nat) (t : Token) : Scan Unit := modify fun s =>
  { s with queue := (s.queue.toList.take k ++ t :: s.queue.toList.drop k).toArray }

def setKeyIndex (index : List (Nat × Nat)) (token i : Nat) : List (Nat × Nat) :=
  (token, i) :: index.filter (·.1 != token)

def dropKeyIndex (index : List (Nat × Nat)) (token : Nat) : List (Nat × Nat) :=
  index.filter (·.1 != token)

/-- Closes the block collections indented further than a column. -/
def unrollIndent (column : Int) (scanMark : Mark) : Scan Unit := do
  if (← get).flowLevel > 0 then return
  let blockMark := { scanMark with index := scanMark.index - 1 }
  let fuel := (← get).indents.length + 1
  for _ in [0:fuel] do
    let s ← get
    match s.indents with
    | top :: rest =>
      if s.indent > column then
        set { s with queue := s.queue.push { kind := .blockEnd, start := blockMark, stop := blockMark },
                     indent := top, indents := rest }
      else break
    | [] => break

/-- Opens a block collection at a column further right than the current one, putting its start
token at a token number or at the end of the queue. -/
def rollIndent (column : Int) (number : Option Nat) (kind : TokenKind) (mark : Mark) : Scan Unit := do
  let s ← get
  if s.flowLevel > 0 then return
  if s.indent < column then
    let s := { s with indents := s.indent :: s.indents, indent := column }
    set s
    if s.indents.length > 10000 then
      scanError "while increasing indent level" ((s.keys.back?.map (·.mark)).getD {})
        "exceeded max depth of 10000"
    let t : Token := { kind, start := mark, stop := mark }
    match number with
    | some n => insertToken (n - s.parsed) t
    | none => appendToken t

/-- Drops the possible simple key of the current flow level; a required one is a problem. -/
def removeSimpleKey : Scan Unit := do
  let s ← get
  match s.keys.back? with
  | some k =>
    if k.possible then
      if k.required then scanError "while scanning a simple key" k.mark "could not find expected ':'"
      else
        set { s with keys := s.keys.pop.push { k with possible := false },
                     keyIndex := dropKeyIndex s.keyIndex k.tokenNumber }
  | none => pure ()

/-- Remembers that a simple key may start here, if one may. -/
def saveSimpleKey : Scan Unit := do
  let s ← get
  let required := s.flowLevel == 0 && s.indent == (s.mark.column : Int)
  if s.keyAllowed then
    let key : SimpleKey :=
      { possible := true, required, tokenNumber := s.parsed + s.queue.size, mark := s.mark }
    removeSimpleKey
    modify fun s => { s with keys := s.keys.pop.push key,
                             keyIndex := setKeyIndex s.keyIndex key.tokenNumber (s.keys.size - 1) }

/-- Whether the possible simple key at an index of the stack is still possible: it must be on the
current line and within 1024 characters. One that no longer is stops being possible, and is a
problem if it was required. -/
def keyStillPossible (i : Nat) : Scan Bool := do
  let s ← get
  match s.keys[i]? with
  | none => pure false
  | some k =>
    if !k.possible then pure false
    else if k.mark.line < s.mark.line || k.mark.index + 1024 < s.mark.index then
      if k.required then scanError "while scanning a simple key" k.mark "could not find expected ':'"
      else
        set { s with keys := s.keys.modify i fun k => { k with possible := false } }
        pure false
    else pure true

/-- Enters a flow collection. -/
def increaseFlowLevel : Scan Unit := do
  let s ← get
  let s := { s with keys := s.keys.push { mark := s.mark }, flowLevel := s.flowLevel + 1 }
  set s
  if s.flowLevel > 10000 then
    scanError "while increasing flow level" s.mark "exceeded max depth of 10000"

/-- Leaves a flow collection. -/
def decreaseFlowLevel : Scan Unit := modify fun s =>
  if s.flowLevel > 0 then
    match s.keys.back? with
    | some k => { s with flowLevel := s.flowLevel - 1, keys := s.keys.pop,
                         keyIndex := dropKeyIndex s.keyIndex k.tokenNumber }
    | none => { s with flowLevel := s.flowLevel - 1 }
  else s

/-- Skips blanks, comments and line breaks up to the next token. Tabs are skipped only inside
flow collections or where no simple key may start; a line break in a block allows a simple key. -/
def scanToNextToken : Scan Unit := do
  let fuel := (← get).input.size + 1
  for _ in [0:fuel] do
    let s ← get
    if s.mark.column == 0 && s.windowStartsWithMark then skip
    ensure 1
    for _ in [0:fuel] do
      let s ← get
      if s.byte 0 == 0x20 || ((s.flowLevel > 0 || !s.keyAllowed) && s.byte 0 == 0x09) then
        skip
        ensure 1
      else break
    if (← get).isChar '#' then skipWhile fun s => !s.isBreakZ 0
    if (← get).isBreak 0 then
      ensure 2
      skipLine
      if (← get).flowLevel == 0 then modify fun s => { s with keyAllowed := true }
    else break

/-- Skips a comment that ends the line of the token just scanned, with the blanks before it. -/
def skipLineComment : Scan Unit := do
  let s ← get
  let fuel := s.input.size + 1
  let mut k := 0
  for _ in [0:fuel] do
    if s.isBlank k then k := k + 1 else break
  if s.byte k == 0x23 then skipWhile fun s => !s.isBreakZ 0

def fetchStreamStart : Scan Unit := do
  let s ← get
  set { s with indent := -1, keys := #[{}], keyIndex := [], keyAllowed := true, started := true,
               queue := s.queue.push { kind := .streamStart, start := s.mark, stop := s.mark } }

/-- The end of the stream, on a line of its own. -/
def fetchStreamEnd : Scan Unit := do
  let s ← get
  if s.mark.column != 0 then
    set { s with mark := { s.mark with column := 0, line := s.mark.line + 1 } }
  unrollIndent (-1) (← get).mark
  removeSimpleKey
  let s ← get
  set { s with keyAllowed := false,
               queue := s.queue.push { kind := .streamEnd, start := s.mark, stop := s.mark } }

/-- Reads the digits of a version number. -/
def scanVersionNumber (start : Mark) : Scan Nat := do
  let mut value := 0
  let mut length := 0
  for _ in [0:3] do
    let s ← get
    if s.isDigit 0 then
      length := length + 1
      if length > 2 then
        scanError "while scanning a %YAML directive" start "found extremely long version number"
      value := value * 10 + (s.byte 0 - 0x30).toNat
      skip
    else break
  if length == 0 then
    scanError "while scanning a %YAML directive" start "did not find expected version number"
  pure value

def tagError {α : Type} (directive : Bool) (start : Mark) (problem : String) : Scan α :=
  scanError (if directive then "while parsing a %TAG directive" else "while parsing a tag") start problem

/-- Reads a tag handle: `!`, then letters and digits, then possibly `!`. -/
def scanTagHandle (directive : Bool) (start : Mark) : Scan String := do
  if !(← get).isChar '!' then tagError directive start "did not find expected '!'"
  let s ← read ""
  let s ← readWhile (·.isAlpha 0) s
  if (← get).isChar '!' then read s
  else
    if directive && s != "!" then tagError directive start "did not find expected '!'"
    pure s

/-- Reads the octets of URI escapes making up one character. -/
def scanUriEscapes (directive : Bool) (start : Mark) (acc : ByteArray) : Scan ByteArray := do
  let mut acc := acc
  let mut left := 0
  let mut first := true
  for _ in [0:4] do
    let s ← get
    if !(s.isChar '%' && s.isHex 1 && s.isHex 2) then
      tagError directive start "did not find URI escaped octet"
    let octet : UInt8 := (s.hexValue 1 * 16 + s.hexValue 2).toUInt8
    if first then
      left := if octet &&& 0x80 == 0 then 1 else if octet &&& 0xE0 == 0xC0 then 2
        else if octet &&& 0xF0 == 0xE0 then 3 else if octet &&& 0xF8 == 0xF0 then 4 else 0
      if left == 0 then tagError directive start "found an incorrect leading UTF-8 octet"
      first := false
    else if octet &&& 0xC0 != 0x80 then
      tagError directive start "found an incorrect trailing UTF-8 octet"
    acc := acc.push octet
    skip; skip; skip
    left := left - 1
    if left == 0 then break
  pure acc

/-- Whether a character may stand in a tag URI; inside `!<...>` flow indicators may too. -/
def isUriChar (s : Scanner) (verbatim : Bool) : Bool :=
  s.isAlpha 0 || ";/?:@&=+$.%!~*'()".toList.any s.isChar ||
    (verbatim && (s.isChar ',' || s.isChar '[' || s.isChar ']'))

/-- Reads a tag URI, after the text of a handle that turned out to be part of it. -/
def scanTagUri (verbatim directive : Bool) (head : String) (start : Mark) : Scan String := do
  let mut acc : ByteArray := (String.ofList (head.toList.drop 1)).toUTF8
  let mut found : Bool := head.length > 0
  let fuel := (← get).input.size + 1
  for _ in [0:fuel] do
    let s ← get
    if !isUriChar s verbatim then break
    if s.isChar '%' then acc ← scanUriEscapes directive start acc
    else
      let c := (Utf8.charAt s.input s.pos).1
      skip
      acc := acc ++ (String.singleton c).toUTF8
    found := true
  if !found then tagError directive start "did not find expected tag URI"
  pure (Utf8.decodeLossy acc)

/-- Reads a tag: `!<uri>`, `!handle!suffix`, `!suffix` or `!`. -/
def scanTag : Scan Token := do
  let start := (← get).mark
  let (handle, suffix) ← do
    if (← get).byte 1 == 0x3C then
      skip; skip
      let suffix ← scanTagUri true false "" start
      if !(← get).isChar '>' then scanError "while scanning a tag" start "did not find the expected '>'"
      skip
      pure ("", suffix)
    else
      let handle ← scanTagHandle false start
      if handle.length > 1 && handle.startsWith "!" && handle.endsWith "!" then
        pure (handle, ← scanTagUri false false "" start)
      else
        let suffix ← scanTagUri false false handle start
        if suffix.isEmpty then pure ("", "!") else pure ("!", suffix)
  let s ← get
  if !s.isBlankZ 0 then
    if s.flowLevel == 0 || !s.isChar ',' then
      scanError "while scanning a tag" start "did not find expected whitespace or line break"
  pure { kind := .tag, start, stop := (← get).mark, value := handle, suffix }

/-- Reads a directive line: `%YAML major.minor` or `%TAG handle prefix`. -/
def scanDirective : Scan Token := do
  let start := (← get).mark
  skip
  let name ← readWhile (·.isAlpha 0) ""
  if name.isEmpty then scanError "while scanning a directive" start "could not find expected directive name"
  if !(← get).isBlankZ 0 then
    scanError "while scanning a directive" start "found unexpected non-alphabetical character"
  let token ← do
    if name == "YAML" then
      skipWhile (·.isBlank 0)
      let major ← scanVersionNumber start
      if !(← get).isChar '.' then
        scanError "while scanning a %YAML directive" start "did not find expected digit or '.' character"
      skip
      let minor ← scanVersionNumber start
      pure { kind := .versionDirective, start, stop := (← get).mark, major, minor : Token }
    else if name == "TAG" then
      skipWhile (·.isBlank 0)
      let handle ← scanTagHandle true start
      if !(← get).isBlank 0 then
        scanError "while scanning a %TAG directive" start "did not find expected whitespace"
      skipWhile (·.isBlank 0)
      let uri ← scanTagUri true true "" start
      if !(← get).isBlankZ 0 then
        scanError "while scanning a %TAG directive" start "did not find expected whitespace or line break"
      pure { kind := .tagDirective, start, stop := (← get).mark, value := handle, suffix := uri : Token }
    else scanError "while scanning a directive" start "found unknown directive name"
  skipWhile (·.isBlank 0)
  if (← get).isChar '#' then skipWhile fun s => !s.isBreakZ 0
  if !(← get).isBreakZ 0 then
    scanError "while scanning a directive" start "did not find expected comment or line break"
  skipLine
  pure token

/-- Reads an anchor `&name` or an alias `*name`. -/
def scanAnchor (kind : TokenKind) : Scan Token := do
  let start := (← get).mark
  skip
  let name ← readWhile (·.isAlpha 0) ""
  let s ← get
  if name.isEmpty || !(s.isBlankZ 0 || "?:,]\x7d%@`".toList.any s.isChar) then
    scanError (if kind == .anchor then "while scanning an anchor" else "while scanning an alias") start
      "did not find expected alphabetic or numeric character"
  pure { kind, start, stop := s.mark, value := name }

/-- Skips the indentation and empty lines before the content of a block scalar, keeping the line
breaks; settles the indentation when it is not given. -/
def scanBlockBreaks (indent : Nat) (start : Mark) (breaks : String) : Scan (Nat × String × Mark) := do
  let mut stop := (← get).mark
  let mut breaks := breaks
  let mut maxIndent := 0
  let fuel := (← get).input.size + 1
  for _ in [0:fuel] do
    skipWhile fun s => (indent == 0 || s.mark.column < indent) && s.isChar ' '
    let s ← get
    if s.mark.column > maxIndent then maxIndent := s.mark.column
    if (indent == 0 || s.mark.column < indent) && s.isChar '\t' then
      scanError "while scanning a block scalar" start
        "found a tab character where an indentation space is expected"
    if !s.isBreak 0 then break
    breaks ← readLine breaks
    stop := (← get).mark
  let indent ←
    if indent == 0 then do
      let base := (← get).indent + 1
      let i : Int := max (max maxIndent base) 1
      pure i.toNat
    else pure indent
  pure (indent, breaks, stop)

/-- Reads a literal (`|`) or folded (`>`) block scalar. -/
def scanBlockScalar (literal : Bool) : Scan Token := do
  let start := (← get).mark
  skip
  let mut chomping : Int := 0
  let mut increment := 0
  let s ← get
  if s.isChar '+' || s.isChar '-' then
    chomping := if s.isChar '+' then 1 else -1
    skip
    let s ← get
    if s.isDigit 0 then
      if s.isChar '0' then scanError "while scanning a block scalar" start "found an indentation indicator equal to 0"
      increment := (s.byte 0 - 0x30).toNat
      skip
  else if s.isDigit 0 then
    if s.isChar '0' then scanError "while scanning a block scalar" start "found an indentation indicator equal to 0"
    increment := (s.byte 0 - 0x30).toNat
    skip
    let s ← get
    if s.isChar '+' || s.isChar '-' then
      chomping := if s.isChar '+' then 1 else -1
      skip
  skipWhile (·.isBlank 0)
  if (← get).isChar '#' then skipWhile fun s => !s.isBreakZ 0
  if !(← get).isBreakZ 0 then
    scanError "while scanning a block scalar" start "did not find expected comment or line break"
  if (← get).isBreak 0 then skipLine
  let mut indent := 0
  if increment > 0 then
    let i := (← get).indent
    indent := if i ≥ 0 then (i + increment).toNat else increment
  let (i, trailing, stop) ← scanBlockBreaks indent start ""
  indent := i
  let mut stop := stop
  let mut trailing := trailing
  let mut text := ""
  let mut leading := ""
  let mut leadingBlank := false
  let fuel := (← get).input.size + 1
  for _ in [0:fuel] do
    let s ← get
    if !(s.mark.column == indent && !s.isZ 0) then break
    let trailingBlank := s.isBlank 0
    if !literal && !leadingBlank && !trailingBlank && leading.startsWith "\n" then
      if trailing.isEmpty then text := text.push ' '
    else text := text ++ leading
    leading := ""
    text := text ++ trailing
    trailing := ""
    leadingBlank := s.isBlank 0
    text ← readWhile (fun s => !s.isBreakZ 0) text
    leading ← readLine leading
    let (i, t, st) ← scanBlockBreaks indent start trailing
    indent := i
    trailing := t
    stop := st
  if chomping != -1 then text := text ++ leading
  if chomping == 1 then text := text ++ trailing
  pure { kind := .scalar, start, stop, value := text, style := if literal then .literal else .folded }

/-- The character of a one-letter escape in a double-quoted scalar. -/
def simpleEscape : Char → Option Char
  | '0' => some (Char.ofNat 0)
  | 'a' => some (Char.ofNat 7)
  | 'b' => some (Char.ofNat 8)
  | 't' => some '\t'
  | '\t' => some '\t'
  | 'n' => some '\n'
  | 'v' => some (Char.ofNat 11)
  | 'f' => some (Char.ofNat 12)
  | 'r' => some '\r'
  | 'e' => some (Char.ofNat 27)
  | ' ' => some ' '
  | '"' => some '"'
  | '\'' => some '\''
  | '\\' => some '\\'
  | 'N' => some '\u0085'
  | '_' => some '\u00A0'
  | 'L' => some '\u2028'
  | 'P' => some '\u2029'
  | _ => none

/-- Joins the blanks or line breaks between two parts of a flow scalar: a single line break
becomes a space, further line breaks stay, and blanks on one line stay. -/
def joinBreaks (text leadingBreak trailingBreaks whitespace : String) (leadingBlanks : Bool) : String :=
  if leadingBlanks then
    if leadingBreak.startsWith "\n" then
      if trailingBreaks.isEmpty then text.push ' ' else text ++ trailingBreaks
    else text ++ leadingBreak ++ trailingBreaks
  else text ++ whitespace

/-- Reads one escape of a double-quoted scalar, after the backslash. -/
def scanEscape (start : Mark) (text : String) : Scan String := do
  let s ← get
  let c := Char.ofNat (s.byte 1).toNat
  let codeLength := if c == 'x' then 2 else if c == 'u' then 4 else if c == 'U' then 8 else 0
  let text ←
    if codeLength > 0 then pure text
    else match simpleEscape c with
      | some e => pure (text.push e)
      | none => scanError "while parsing a quoted scalar" start "found unknown escape character"
  skip; skip
  if codeLength == 0 then return text
  let s ← get
  let mut value := 0
  for k in [0:codeLength] do
    if !s.isHex k then scanError "while parsing a quoted scalar" start "did not find expected hexdecimal number"
    value := value * 16 + s.hexValue k
  if (0xD800 ≤ value && value ≤ 0xDFFF) || value > 0x10FFFF then
    scanError "while parsing a quoted scalar" start "found invalid Unicode character escape code"
  for _ in [0:codeLength] do skip
  pure (text.push (Char.ofNat value))

/-- Reads a single- or double-quoted scalar. -/
def scanFlowScalar (single : Bool) : Scan Token := do
  let start := (← get).mark
  skip
  let mut text := ""
  let mut leadingBreak := ""
  let mut trailingBreaks := ""
  let mut whitespace := ""
  let fuel := (← get).input.size + 1
  for _ in [0:fuel] do
    let s ← get
    if s.atMarker '-' || s.atMarker '.' then
      scanError "while scanning a quoted scalar" start "found unexpected document indicator"
    if s.isZ 0 then scanError "while scanning a quoted scalar" start "found unexpected end of stream"
    let mut leadingBlanks := false
    for _ in [0:fuel] do
      let s ← get
      if s.isBlankZ 0 then break
      if single && s.isChar '\'' && s.byte 1 == 0x27 then
        text := text.push '\''
        skip; skip
      else if single && s.isChar '\'' then break
      else if !single && s.isChar '"' then break
      else if !single && s.isChar '\\' && s.isBreak 1 then
        skip
        skipLine
        leadingBlanks := true
        break
      else if !single && s.isChar '\\' then text ← scanEscape start text
      else text ← read text
    let s ← get
    if (single && s.isChar '\'') || (!single && s.isChar '"') then break
    for _ in [0:fuel] do
      let s ← get
      if s.isBlank 0 then
        if !leadingBlanks then whitespace ← read whitespace else skip
      else if s.isBreak 0 then
        if !leadingBlanks then
          whitespace := ""
          leadingBreak ← readLine leadingBreak
          leadingBlanks := true
        else trailingBreaks ← readLine trailingBreaks
      else break
    text := joinBreaks text leadingBreak trailingBreaks whitespace leadingBlanks
    if leadingBlanks then
      leadingBreak := ""
      trailingBreaks := ""
    else whitespace := ""
  skip
  pure { kind := .scalar, start, stop := (← get).mark, value := text,
         style := if single then .singleQuoted else .doubleQuoted }

def endsPlain (s : Scanner) : Bool :=
  (s.isChar ':' && s.isBlankZ 1) ||
    (s.flowLevel > 0 && (s.isChar ',' || s.isChar '?' || s.isChar '[' || s.isChar ']' ||
      s.isChar '{' || s.isChar '}'))

/-- Reads a plain scalar, which may go on over lines indented further than the current block. -/
def scanPlainScalar : Scan Token := do
  let start := (← get).mark
  let mut stop := start
  let indent := (← get).indent + 1
  let mut text := ""
  let mut leadingBreak := ""
  let mut trailingBreaks := ""
  let mut whitespace := ""
  let mut leadingBlanks := false
  let fuel := (← get).input.size + 1
  for _ in [0:fuel] do
    ensure 4
    let s ← get
    if s.atMarker '-' || s.atMarker '.' then break
    if s.isChar '#' then break
    for _ in [0:fuel] do
      let s ← get
      if s.isBlankZ 0 || endsPlain s then break
      if leadingBlanks || !whitespace.isEmpty then
        if leadingBlanks then
          text := joinBreaks text leadingBreak trailingBreaks whitespace true
          leadingBreak := ""
          trailingBreaks := ""
          leadingBlanks := false
        else
          text := text ++ whitespace
          whitespace := ""
      text ← read text
      stop := (← get).mark
      ensure 2
    let s ← get
    if !(s.isBlank 0 || s.isBreak 0) then break
    ensure 1
    for _ in [0:fuel] do
      let s ← get
      if s.isBlank 0 then
        if leadingBlanks && (s.mark.column : Int) < indent && s.isChar '\t' then
          scanError "while scanning a plain scalar" start "found a tab character that violates indentation"
        if !leadingBlanks then whitespace ← read whitespace else skip
      else if s.isBreak 0 then
        ensure 2
        if !leadingBlanks then
          whitespace := ""
          leadingBreak ← readLine leadingBreak
          leadingBlanks := true
        else trailingBreaks ← readLine trailingBreaks
      else break
      ensure 1
    let s ← get
    if s.flowLevel == 0 && (s.mark.column : Int) < indent then break
  if leadingBlanks then modify fun s => { s with keyAllowed := true }
  pure { kind := .scalar, start, stop, value := text, style := .plain }

/-- A document start `---` or end `...` marker. -/
def fetchDocumentIndicator (kind : TokenKind) : Scan Unit := do
  unrollIndent (-1) (← get).mark
  removeSimpleKey
  modify fun s => { s with keyAllowed := false }
  let start := (← get).mark
  skip; skip; skip
  appendToken { kind, start, stop := (← get).mark }

def fetchIndicator (kind : TokenKind) : Scan Unit := do
  let start := (← get).mark
  skip
  appendToken { kind, start, stop := (← get).mark }

/-- `[` or `{`, which may start a simple key. -/
def fetchFlowCollectionStart (kind : TokenKind) : Scan Unit := do
  saveSimpleKey
  increaseFlowLevel
  modify fun s => { s with keyAllowed := true }
  fetchIndicator kind

/-- `]` or `}`. -/
def fetchFlowCollectionEnd (kind : TokenKind) : Scan Unit := do
  removeSimpleKey
  decreaseFlowLevel
  modify fun s => { s with keyAllowed := false }
  fetchIndicator kind

def fetchFlowEntry : Scan Unit := do
  removeSimpleKey
  modify fun s => { s with keyAllowed := true }
  fetchIndicator .flowEntry

/-- `-` before a block sequence entry. -/
def fetchBlockEntry : Scan Unit := do
  let s ← get
  if s.flowLevel == 0 then
    if !s.keyAllowed then scanError "" s.mark "block sequence entries are not allowed in this context"
    rollIndent s.mark.column none .blockSequenceStart s.mark
  removeSimpleKey
  modify fun s => { s with keyAllowed := true }
  fetchIndicator .blockEntry

/-- `?` before a complex key. -/
def fetchKey : Scan Unit := do
  let s ← get
  if s.flowLevel == 0 then
    if !s.keyAllowed then scanError "" s.mark "mapping keys are not allowed in this context"
    rollIndent s.mark.column none .blockMappingStart s.mark
  removeSimpleKey
  modify fun s => { s with keyAllowed := s.flowLevel == 0 }
  fetchIndicator .key

/-- `:` after a key: the possible simple key before it becomes a key, or else the value follows a
complex key. -/
def fetchValue : Scan Unit := do
  let i := (← get).keys.size - 1
  if ← keyStillPossible i then
    let s ← get
    let k := s.keys[i]?.getD {}
    insertToken (k.tokenNumber - s.parsed) { kind := .key, start := k.mark, stop := k.mark }
    rollIndent k.mark.column (some k.tokenNumber) .blockMappingStart k.mark
    modify fun s => { s with keys := s.keys.modify i fun k => { k with possible := false },
                             keyIndex := dropKeyIndex s.keyIndex k.tokenNumber, keyAllowed := false }
  else
    let s ← get
    if s.flowLevel == 0 then
      if !s.keyAllowed then scanError "" s.mark "mapping values are not allowed in this context"
      rollIndent s.mark.column none .blockMappingStart s.mark
    modify fun s => { s with keyAllowed := s.flowLevel == 0 }
  fetchIndicator .value

def fetchAnchor (kind : TokenKind) : Scan Unit := do
  saveSimpleKey
  modify fun s => { s with keyAllowed := false }
  appendToken (← scanAnchor kind)

def fetchTag : Scan Unit := do
  saveSimpleKey
  modify fun s => { s with keyAllowed := false }
  appendToken (← scanTag)

def fetchBlockScalar (literal : Bool) : Scan Unit := do
  removeSimpleKey
  modify fun s => { s with keyAllowed := true }
  appendToken (← scanBlockScalar literal)

def fetchFlowScalar (single : Bool) : Scan Unit := do
  saveSimpleKey
  modify fun s => { s with keyAllowed := false }
  appendToken (← scanFlowScalar single)

def fetchPlainScalar : Scan Unit := do
  saveSimpleKey
  modify fun s => { s with keyAllowed := false }
  appendToken (← scanPlainScalar)

/-- A directive, which closes every block and allows no simple key. -/
def fetchDirective : Scan Unit := do
  unrollIndent (-1) (← get).mark
  removeSimpleKey
  modify fun s => { s with keyAllowed := false }
  appendToken (← scanDirective)

def startsPlain (s : Scanner) : Bool :=
  !(s.isBlankZ 0 || "-?:,[]{}#&*!|>'\"%@`".toList.any s.isChar) ||
    (s.isChar '-' && !s.isBlank 1) ||
    (s.flowLevel == 0 && (s.isChar '?' || s.isChar ':') && !s.isBlankZ 1)

/-- Scans the next token (or tokens, when indentation closes blocks) into the queue. -/
def fetchNextToken : Scan Unit := do
  ensure 1
  if !(← get).started then
    fetchStreamStart
    return
  let scanMark := (← get).mark
  scanToNextToken
  unrollIndent (← get).mark.column scanMark
  ensure 4
  let s ← get
  if s.isZ 0 then fetchStreamEnd
  else if s.mark.column == 0 && s.isChar '%' then fetchDirective
  else if s.atMarker '-' then fetchDocumentIndicator .documentStart
  else if s.atMarker '.' then fetchDocumentIndicator .documentEnd
  else
    if s.isChar '[' then fetchFlowCollectionStart .flowSequenceStart
    else if s.isChar '{' then fetchFlowCollectionStart .flowMappingStart
    else if s.isChar ']' then fetchFlowCollectionEnd .flowSequenceEnd
    else if s.isChar '}' then fetchFlowCollectionEnd .flowMappingEnd
    else if s.isChar ',' then fetchFlowEntry
    else if s.isChar '-' && s.isBlankZ 1 then fetchBlockEntry
    else if s.isChar '?' && (s.flowLevel > 0 || s.isBlankZ 1) then fetchKey
    else if s.isChar ':' && (s.flowLevel > 0 || s.isBlankZ 1) then fetchValue
    else if s.isChar '*' then fetchAnchor .alias
    else if s.isChar '&' then fetchAnchor .anchor
    else if s.isChar '!' then fetchTag
    else if s.isChar '|' && s.flowLevel == 0 then fetchBlockScalar true
    else if s.isChar '>' && s.flowLevel == 0 then fetchBlockScalar false
    else if s.isChar '\'' then fetchFlowScalar true
    else if s.isChar '"' then fetchFlowScalar false
    else if startsPlain s then fetchPlainScalar
    else scanError "while scanning for the next token" s.mark "found character that cannot start any token"
    if ((← get).queue.back?.map (·.kind)) != some .blockEntry then skipLineComment

/-- Scans until the head of the queue can be handed out: at least three tokens are queued and no
possible simple key waits at the head. -/
def fetchMoreTokens : Scan Unit := do
  let fuel := 2 * (← get).input.size + 8
  for _ in [0:fuel] do
    let s ← get
    if s.queue.size > 2 then
      match s.keyIndex.lookup s.parsed with
      | none => break
      | some i => if !(← keyStillPossible i) then break
    fetchNextToken
  modify fun s => { s with available := true }

/-- The next token, scanning as needed. -/
def peekToken : Scan Token := do
  if !(← get).available then fetchMoreTokens
  match (← get).queue[0]? with
  | some t => pure t
  | none => pure { kind := .streamEnd, start := (← get).mark, stop := (← get).mark }

/-- Hands out the next token. -/
def skipToken : Scan Unit := modify fun s =>
  { s with available := false, parsed := s.parsed + 1,
           ended := (s.queue[0]?.map (·.kind)) == some .streamEnd,
           queue := s.queue.extract 1 s.queue.size }

end RaceArchive.Yaml
