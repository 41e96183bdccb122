import RaceArchive.Json.Scan
import RaceArchive.Decimal.Parse
import RaceArchive.Text.Utf8
import RaceArchive.Crash

/-!
# Well-formed documents

Whether a text is taken as one JSON document by an incremental reader, which departs from the
JSON grammar in the places this module describes.

The reader holds a window of the text in a buffer whose octets past the text are zero. Meeting a
zero asks the source for more; the source says "yes" once more after it has run dry. So a zero
inside the text reads as the end of the buffer, and a word (`true`, `false`, `null`) may lack its
last letter at the very end of the text. Escapes in strings are resolved in place, which draws the
following octets nearer, and an object key holding an octet that does not start a well-formed UTF-8
character gets the three octets of U+FFFD in its place, which pushes them further; both move where
the reader stands relative to the text. Each such replacement counts three more octets as held,
not the two the buffer grew by, so the count of held octets can run past the end of the buffer;
a refill that then scans past that end crashes.

A document is taken when its first value reads and then nothing follows but blanks, or a closing
bracket (which the reader takes as the end of an enclosing value), or the reader already stands at
or past the end of the text.
-/

namespace RaceArchive.Json

/-- The incremental reader: the whole text and how much of it the source has handed over; the
buffer, the size it is grown from, the reader's place in it and how many of its octets hold text;
how much text was dropped from the front of the buffer; whether the last refill filled the buffer;
and whether the source has said it is dry. -/
structure Feed where
  text : Doc
  given : Nat := 0
  buf : ByteArray := ⟨Array.replicate 512 0⟩
  capacity : Nat := 512
  cursor : Nat := 0
  held : Int := 0
  dropped : Nat := 0
  full : Bool := false
  dry : Bool := false

def Feed.octet (s : Feed) (i : Nat) : UInt8 := Utf8.octet s.buf i

/-- Drops the octets before the reader's place from the buffer. -/
def Feed.shift (s : Feed) : Feed :=
  { s with
    buf := Utf8.slice s.buf s.cursor s.buf.size
    held := s.held - s.cursor
    dropped := s.dropped + s.cursor
    cursor := 0 }

/-- Reading with the chance of refusing the text (`none`) or of crashing (`some`). -/
abbrev Reading := EStateM (Option Crash) Feed

def refuse {α : Type} : Reading α := throw none

def crash {α : Type} (c : Crash) : Reading α := throw (some c)

def current : Reading UInt8 := fun s => .ok (s.octet s.cursor) s

def step : Reading Unit := modify fun s => { s with cursor := s.cursor + 1 }

def textRun (buf : ByteArray) (i : Nat) : Nat → Nat
  | 0 => 0
  | n + 1 => if Utf8.octet buf i == 0 then 0 else textRun buf (i + 1) n + 1

/-- A zeroed buffer of `n` octets holding `buf` at its front, as much of it as fits. -/
def regrown (buf : ByteArray) (n : Nat) : ByteArray :=
  Utf8.place buf 0 ⟨Array.replicate n 0⟩ 0 (min buf.size n)

/-- Asks the source for more text. A buffer that the last refill filled is first doubled. The text
held from the reader's place on stops at its first zero, looked for among the octets counted as
held; looking past the end of the buffer crashes. The new text goes right after that, into all but
the last octet of the buffer, which is set to zero; a buffer with no octet left there crashes. The
answer is "no" only once the source has said it is dry. -/
def refill : Reading Bool := fun s =>
  if s.dry then .ok false s
  else
    let (buf, capacity) :=
      if s.full then (regrown s.buf (s.capacity * 2), s.capacity * 2) else (s.buf, s.capacity)
    let want := (s.held - s.cursor).toNat
    let run := textRun buf s.cursor want
    let start := s.cursor + run
    if run < want && buf.size ≤ start then
      .error (some (.indexOutOfRange start buf.size)) { s with buf, capacity }
    else if buf.size < start then
      .error (some (.sliceOutOfRange start buf.size)) { s with buf, capacity }
    else if buf.size = start then
      .error (some (.indexOutOfRange (-1) 0)) { s with buf, capacity }
    else
      let room := buf.size - start - 1
      let buf := buf.set! (buf.size - 1) 0
      let n := min room (s.text.size - s.given)
      .ok true
        { s with
          buf := Utf8.place s.text s.given buf start n
          capacity
          held := start + n
          given := s.given + n
          full := n == room
          dry := s.text.size ≤ s.given }

/-- Skips blanks, refilling at a zero; the octet reached, zero when the source is dry. -/
def blanks : Nat → Reading UInt8
  | 0 => refuse
  | fuel + 1 => do
    let c ← current
    if isBlank c then
      step
      blanks fuel
    else if c == 0 then
      let more ← refill
      if more then blanks fuel else pure 0
    else pure c

/-- Whether the octet under the reader is `c`, refilling once at a zero. -/
def sees (c : UInt8) : Reading Bool := do
  if (← current) == 0 then
    let _ ← refill
  return (← current) == c

/-- Reads the letters `rest` of a word whose first letter is under the reader. A zero where a
letter should be is let through when the source still says "yes". -/
def word : List UInt8 → Reading Unit
  | [] => step
  | c :: rest => do
    step
    let d ← current
    if d != c then
      if d != 0 then refuse
      else
        let more ← refill
        if !more then refuse
    word rest

def trueTail : List UInt8 := [0x72, 0x75, 0x65]

def falseTail : List UInt8 := [0x61, 0x6C, 0x73, 0x65]

def nullTail : List UInt8 := [0x75, 0x6C, 0x6C]

/-- Moves over number octets, refilling at a zero. -/
def numberRest : Nat → Reading Unit
  | 0 => refuse
  | fuel + 1 => do
    let c ← current
    if isNumberPart c then
      step
      numberRest fuel
    else if c == 0 then
      let more ← refill
      if more then numberRest fuel
    else pure ()

/-- Reads a number whose first octet is under the reader: the longest run of number octets, which
must read as a double in range. -/
def number (fuel : Nat) : Reading Unit := do
  let start := (← get).cursor
  step
  numberRest fuel
  let s ← get
  let digits := (List.range (s.cursor - start)).map fun k => octetChar (s.octet (start + k))
  match Decimal.parseFloat (String.ofList digits) with
  | .ok _ => pure ()
  | .error _ => refuse

/-- Resolves a `\u` escape whose `u` is under the reader. The four octets after it are read as
hexadecimal, a non-digit counting as zero; a high surrogate followed by a second `\u` escape of a
low one makes one character, any other surrogate U+FFFD. The escape is replaced in the buffer by
the character's UTF-8 octets and the reader is left on the last of them. -/
def unicodeEscape : Reading Unit := do
  let c := (← get).cursor
  if (c : Int) + 5 ≥ (← get).held then
    let more ← refill
    if !more then refuse
  let r := lenientHex4 (← get).buf (c + 1)
  let (point, width) ← if isSurrogate r then do
      if (c : Int) + 11 ≥ (← get).held then
        let _ ← refill
      let s ← get
      if (c : Int) + 11 ≥ s.held || s.octet (c + 5) != 0x5C || s.octet (c + 6) != 0x75 then
        pure (0xFFFD, 5)
      else
        let low := lenientHex4 s.buf (c + 7)
        if isSurrogatePair r low then pure (joinSurrogates r low, 11)
        else pure (r, 5)
    else pure (r, 5)
  let octets := encodePoint point
  modify fun s =>
    { s with
      buf := Utf8.slice s.buf 0 (c - 1) ++ octets ++ Utf8.slice s.buf (c + width) s.buf.size
      held := s.held - (width + 1 : Nat) + octets.size
      cursor := c - 2 + octets.size }

/-- Resolves the escape whose backslash is under the reader, leaving the reader on its last
octet once resolved. A one-letter escape drops the backslash; an unknown letter refuses the
text. -/
def escape (fuel : Nat) : Reading Unit := do
  step
  letter fuel
where
  /-- Reads the escape letter, refilling at a zero. -/
  letter : Nat → Reading Unit
    | 0 => refuse
    | fuel + 1 => do
      let c ← current
      match simpleEscape? c with
      | some e =>
        modify fun s =>
          let buf := s.buf.set! s.cursor e
          { s with
            buf := Utf8.slice buf 0 (s.cursor - 1) ++ Utf8.slice buf s.cursor buf.size
            held := s.held - 1
            cursor := s.cursor - 1 }
      | none =>
        if c == 0x75 then unicodeEscape
        else if c == 0 then
          let more ← refill
          if more then letter fuel else refuse
        else refuse

/-- Reads a string value from just after its opening quote to just after its closing one. -/
def stringValue : Nat → Reading Unit
  | 0 => refuse
  | fuel + 1 => do
    let c ← current
    if c == 0x5C then
      escape fuel
      step
      stringValue fuel
    else if c == 0x22 then step
    else if c == 0 then
      let more ← refill
      if more then stringValue fuel else refuse
    else
      step
      stringValue fuel

/-- Puts the octets of U+FFFD in place of the octet under the reader and moves past them; three
more octets count as held. -/
def Feed.replaceOctet (s : Feed) : Feed :=
  { s with
    buf := Utf8.slice s.buf 0 s.cursor ++ encodePoint 0xFFFD ++ Utf8.slice s.buf (s.cursor + 1) s.buf.size
    cursor := s.cursor + 3
    held := s.held + 3 }

/-- Reads an object key from just after its opening quote to just after its closing one. An octet
of 0x80 or more that does not start a well-formed UTF-8 character is replaced by the octets of
U+FFFD; U+FFFD itself is passed over. A character that may run past all but the last octet of
the buffer is first completed by a refill. -/
def keyString : Nat → Reading Unit
  | 0 => refuse
  | fuel + 1 => do
    let s ← get
    let c := s.octet s.cursor
    if c == 0x5C then
      escape fuel
      step
      keyString fuel
    else if c == 0x22 then step
    else if c ≥ 0x80 then
      if Utf8.width c == 1 then set s.replaceOctet
      else if c == 0xEF && s.octet (s.cursor + 1) == 0xBF && s.octet (s.cursor + 2) == 0xBD then
        set { s with cursor := s.cursor + 3 }
      else if !Utf8.settledBefore s.buf s.cursor (s.buf.size - 1) then
        let more ← refill
        if !more then refuse
      else
        match Utf8.tailCount? s.buf s.cursor with
        | some k => set { s with cursor := s.cursor + k + 1 }
        | none => set s.replaceOctet
      keyString fuel
    else if c == 0 then
      let more ← refill
      if more then keyString fuel else refuse
    else
      step
      keyString fuel

/-- Reads an object key: a string, after which the buffer drops what is behind the reader, or
`null`. -/
def key : Nat → Reading Unit
  | 0 => refuse
  | fuel + 1 => do
    let c ← current
    if isBlank c then
      step
      key fuel
    else if c == 0x22 then
      step
      keyString fuel
      modify Feed.shift
    else if c == 0x6E then word nullTail
    else if c == 0 then
      let more ← refill
      if more then key fuel else refuse
    else refuse

mutual

/-- Reads one value of any kind, nested `depth` containers deep. -/
def value (depth : Nat) : Nat → Reading Unit
  | 0 => refuse
  | fuel + 1 => do
    let c ← blanks fuel
    if c == 0x7B then object depth fuel
    else if c == 0x5B then array depth fuel
    else if c == 0x2D || isDigit c then number fuel
    else if c == 0x22 then
      step
      stringValue fuel
    else if c == 0x74 then word trueTail
    else if c == 0x66 then word falseTail
    else if c == 0x6E then word nullTail
    else refuse

/-- Reads an object whose opening brace is under the reader. -/
def object (depth : Nat) : Nat → Reading Unit
  | 0 => refuse
  | fuel + 1 =>
    if depth + 1 > nestingLimit then refuse
    else do
      step
      let c ← blanks fuel
      if c == 0x7D then step else members (depth + 1) fuel

/-- Reads the members of an object from its first key. -/
def members (depth : Nat) : Nat → Reading Unit
  | 0 => refuse
  | fuel + 1 => do
    key fuel
    let _ ← blanks fuel
    let colon ← sees 0x3A
    if !colon then refuse
    step
    value depth fuel
    let _ ← blanks fuel
    let closes ← sees 0x7D
    if closes then step
    else
      let comma ← sees 0x2C
      if comma then
        step
        members depth fuel
      else refuse

/-- Reads an array whose opening bracket is under the reader. -/
def array (depth : Nat) : Nat → Reading Unit
  | 0 => refuse
  | fuel + 1 =>
    if depth + 1 > nestingLimit then refuse
    else do
      step
      let c ← blanks fuel
      if c == 0x5D then step else items (depth + 1) fuel

/-- Reads the items of an array from its first. -/
def items (depth : Nat) : Nat → Reading Unit
  | 0 => refuse
  | fuel + 1 => do
    value depth fuel
    let c ← blanks fuel
    if c == 0x5D then step
    else if c == 0x2C then
      step
      items depth fuel
    else refuse

end

/-- Skips blanks and one separator (`,` or `:`) before the document; an empty text is refused. -/
def lead : Nat → Reading Unit
  | 0 => refuse
  | fuel + 1 => do
    let c ← current
    if isBlank c then
      step
      lead fuel
    else if c == 0x2C || c == 0x3A then step
    else if c == 0 then
      let more ← refill
      if more then lead fuel else refuse
    else pure ()

/-- Whether anything but blanks or a closing bracket follows. -/
def follows : Nat → Reading Bool
  | 0 => pure false
  | fuel + 1 => do
    let c ← current
    if isBlank c then
      step
      follows fuel
    else if c == 0x7D || c == 0x5D then pure false
    else if c == 0 then
      let more ← refill
      if more then follows fuel else pure false
    else pure true

/-- Whether a text is taken as one JSON document, or the crash that reading it ends in. -/
def checkDocument (d : Doc) : Except Crash Bool :=
  let fuel := 4 * d.size + 64
  let run : Reading Bool := do
    lead fuel
    value 0 fuel
    modify fun s => let s := s.shift; { s with capacity := s.buf.size }
    if ← follows fuel then
      let s ← get
      pure (s.dropped + s.cursor ≥ d.size)
    else pure true
  match run.run { text := d } with
  | .ok b _ => .ok b
  | .error none _ => .ok false
  | .error (some c) _ => .error c

end RaceArchive.Json
