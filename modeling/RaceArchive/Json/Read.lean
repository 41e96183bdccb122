import RaceArchive.Json.Scan
import RaceArchive.Decimal.Parse

/-!
# Reading documents into typed values

A reader updates a value of a fixed type from the text at a cursor and returns the cursor after
what it read. Readers run in `EStateM`, so when one fails, the updates made before the failure
stay in the state: a caller can still look at a partly read value. A reader also knows how many
records and lists enclose the value it reads, which bounds how deep a skipped value may nest.

The readers follow one set of rules:

* `null` leaves the value as it was, except that it empties an optional value or a list;
* a record selects the field of a key by narrowing its field keys an octet at a time, ASCII
  letters in any case (see `selectKey`), and skips the values of keys that select none
  unexamined; a later duplicate key is read into what the earlier one left;
* a list reads its items into the items it already holds, position by position, and new items
  from scratch; it ends up with as many items as the text gives;
* an integer is an optional minus sign and a run of digits (a minus sign alone reads as zero); a
  fraction or an exponent is left unread, so the enclosing record finds no comma after it; more
  than 19 digits are refused, and fewer wrap around 64 bits;
* a wrong kind of value is a mismatch naming what was found, the type asked for and the field.

A whole document is one value followed by nothing but blanks.
-/

namespace RaceArchive.Json

/-- Where a value sits, for messages: the name of the record type and of its field. -/
structure Place where
  owner : String := ""
  field : String := ""
  deriving Repr, DecidableEq, Inhabited

/-- Why a document does not read as the value asked for. -/
inductive DecodeError where
  /-- The text is not well-formed where the reader looked. -/
  | malformed (m : Malformed)
  /-- A value of the wrong kind: what was found, the type asked for, and where. -/
  | mismatch (found target : String) (place : Place)
  /-- A failure inside a nested read, with the words that say what was being read. -/
  | within (context : String) (inner : DecodeError)
  /-- A value that is well-formed but refused by the reader, with the reason. -/
  | refused (reason : String)
  deriving Repr, DecidableEq, Inhabited

/-- The message of a decoding failure. -/
def DecodeError.message : DecodeError → String
  | .malformed m => m.message
  | .mismatch found target place =>
    let into :=
      if place.owner.isEmpty && place.field.isEmpty then " into Go value of type "
      else " into Go struct field " ++ place.owner ++ "." ++ place.field ++ " of type "
    "json: cannot unmarshal " ++ found ++ into ++ target
  | .within context inner => context ++ ": " ++ inner.message
  | .refused reason => reason

/-- How a decoding failure is classed: `some true` for malformed text, `some false` for a
mismatch, `none` for a refusal. -/
def DecodeError.isMalformed? : DecodeError → Option Bool
  | .malformed _ => some true
  | .mismatch .. => some false
  | .within _ inner => inner.isMalformed?
  | .refused _ => none

/-- A reader of values of type `σ`: given the document, how many records and lists enclose the
value, and the cursor, it updates the value and returns the cursor after it. -/
abbrev Reader (σ : Type) := Doc → Nat → Nat → EStateM DecodeError σ Nat

namespace Reader

def fail {σ α : Type} (m : Malformed) : EStateM DecodeError σ α := throw (.malformed m)

def scan {σ α : Type} : Except Malformed α → EStateM DecodeError σ α
  | .ok a => pure a
  | .error m => fail m

def null {σ : Type} (d : Doc) (i : Nat) : EStateM DecodeError σ Nat := do
  scan (checkWord d i "null")
  pure (i + 4)

/-- An octet as a one-character text, the way a message shows it; an octet above ASCII shows as
U+FFFD, the character it decodes to alone. -/
def octetText (c : UInt8) : String :=
  if c < 0x80 then (octetChar c).toString else "�"

def slice (d : Doc) (i j : Nat) : String :=
  String.ofList ((List.range (j - i)).map fun k => octetChar (d.at (i + k)))

/-- The value of a run of digits, wrapped to 64 bits, negated (with wrap-around) if asked. -/
def wrapDigits (d : Doc) (i j : Nat) (negative : Bool) : Int64 :=
  let n := (List.range (j - i)).foldl (fun acc k => acc * 10 + ((d.at (i + k)).toNat - 0x30)) 0
  let v := Int64.ofNat (n % Nat.pow 2 64)
  if negative then -v else v

/-- A 64-bit integer; `target` names the integer type for mismatches. -/
def int (target : String) (place : Place) : Reader Int64 := fun d _ i => do
  let i := skipBlank d i
  let c := d.at i
  let refuse (found : String) : EStateM DecodeError Int64 Nat :=
    throw (.mismatch ("number " ++ found) target place)
  if c == 0x2D then
    let j := skipWhile isDigit d (i + 1)
    if j - (i + 1) > 19 then refuse (slice d i j)
    else
      set (wrapDigits d (i + 1) j true)
      pure j
  else if c == 0x30 then
    set (0 : Int64)
    pure (i + 1)
  else if isDigit c then
    let j := skipWhile isDigit d i
    if j - i > 19 then refuse (slice d i j)
    else
      set (wrapDigits d i j false)
      pure j
  else if c == 0x6E then null d i
  else refuse (octetText c)

/-- A text kept as the octets it stands for: escapes are resolved, nothing else is checked. -/
def octets (place : Place) : Reader Octets := fun d _ i => do
  let i := skipBlank d i
  let c := d.at i
  let refuse (found : String) : EStateM DecodeError Octets Nat :=
    throw (.mismatch found "string" place)
  if c == 0x5B then refuse "array"
  else if c == 0x7B then refuse "object"
  else if c == 0x2D || isDigit c then refuse "number"
  else if c == 0x22 then
    let (body, j) ← scan (readStringBody d i)
    set body.toList
    pure j
  else if c == 0x6E then null d i
  else fail (.badStart c)

def endsNumber (c : UInt8) : Bool :=
  c == 0 || isBlank c || c == 0x2C || c == 0x3A || c == 0x7D || c == 0x5D

/-- A double: a run of number octets that reads as a decimal numeral. -/
def float : Reader Float := fun d _ i => do
  let i := skipBlank d i
  let c := d.at i
  if c == 0x2D || isDigit c then
    let j := skipWhile isNumberPart d (i + 1)
    if !endsNumber (d.at j) then fail (.cutShort "float")
    else
      let text := slice d i j
      match Decimal.parseFloat text with
      | .ok x =>
        set x
        pure j
      | .error r => fail (.badNumber (r.message "ParseFloat" text))
  else if c == 0x6E then null d i
  else fail (.cutShort "float")

/-- Runs a reader on a part of the value: on success and on failure alike, the part it leaves is
put back into the whole. -/
def focus {σ α : Type} (get : σ → α) (put : σ → α → σ) (r : Reader α) : Reader σ :=
  fun d n i s =>
    match r d n i (get s) with
    | .ok j a => .ok j (put s a)
    | .error e a => .error e (put s a)

/-- A text; escapes are resolved and octets that are not UTF-8 read as U+FFFD. -/
def string (place : Place) : Reader String :=
  focus Utf8.octetsOf (fun _ o => Utf8.lossy o) (octets place)

/-- Runs a reader from a given start value and returns what it read, leaving the state alone. -/
def fresh {σ α : Type} (r : Reader α) (start : α) (d : Doc) (n i : Nat) :
    EStateM DecodeError σ (α × Nat) := fun s =>
  match r d n i start with
  | .ok j a => .ok (a, j) s
  | .error e _ => .error e s

/-- An optional value: `null` empties it, anything else is read into it (from `zero` when it was
empty). -/
def optional {α : Type} (r : Reader α) (zero : α) : Reader (Option α) := fun d n i => do
  let i := skipBlank d i
  if d.at i == 0x6E then
    let j ← null d i
    set (none : Option α)
    pure j
  else
    let cur ← get
    let (a, j) ← fresh r (cur.getD zero) d n i
    set (some a)
    pure j

/-- A list: each item is read into the item at its position in the list as it was, and from
`zero` past its end; `null` makes it absent. `target` names the list's type for mismatches. -/
def list {α : Type} (r : Reader α) (zero : α) (target : String) (place : Place) :
    Reader (Option (Array α)) := fun d n i => do
  let i := skipBlank d i
  let c := d.at i
  if c == 0x6E then
    let j ← null d i
    set (none : Option (Array α))
    pure j
  else if c == 0x5B then
    let j := skipBlank d (i + 1)
    if d.at j == 0x5D then
      set (some (#[] : Array α))
      pure (j + 1)
    else
      let old := (← get).getD #[]
      let (items, k) ← elements d (n + 1) old j #[] (d.size + 1)
      set (some items)
      pure k
  else if c == 0x2D || isDigit c then throw (.mismatch "number" target place)
  else fail (.cutShort "slice")
where
  /-- Reads items from `j` onwards, `n` values deep, after `acc`, into the items of `old`, with at
  most `fuel` items left. -/
  elements (d : Doc) (n : Nat) (old : Array α) (j : Nat) (acc : Array α) :
      Nat → EStateM DecodeError (Option (Array α)) (Array α × Nat)
    | 0 => fail (.cutShort "slice")
    | fuel + 1 => do
      let (a, k) ← fresh r (old[acc.size]?.getD zero) d n j
      let k := skipBlank d k
      let c := d.at k
      if c == 0x5D then pure (acc.push a, k + 1)
      else if c == 0x2C then elements d n old (k + 1) (acc.push a) fuel
      else fail (.badCharIn c "slice")

/-- One field of a record: its key in lower case and the reader of its part. -/
structure Field (σ : Type) where
  key : String
  read : Reader σ

/-- Puts a field among fields in the order of their keys, before the first one with a greater key. -/
def Field.insertSorted {σ : Type} (f : Field σ) : List (Field σ) → List (Field σ)
  | [] => [f]
  | g :: gs => if f.key < g.key then f :: g :: gs else g :: Field.insertSorted f gs

/-- ASCII letters in lower case; all other octets unchanged. -/
def lowerOctet (c : UInt8) : UInt8 := if 0x41 ≤ c && c ≤ 0x5A then c + 0x20 else c

/-- The octets a key escape stands for when keys are matched, given the position `q` of the
octet after the backslash, and the position just before where matching resumes. A one-letter
escape (see `simpleEscape?`) stands for its octet, any other octet but `u` for nothing; either way
matching resumes two octets after `q`, so the octet after the escape is passed over. A `\u` escape
stands for the UTF-8 octets of its four digits read leniently (see `lenientHex4`), and matching
resumes after them; a high surrogate followed by a `\u` escape of a low one stands for the
character they make and matching resumes after both, a surrogate followed by anything else for
U+FFFD with matching resuming four octets after its own digits. Digits running past the end of
the text break the key off. -/
def keyEscape (d : Doc) (q : Nat) : Except Malformed (List UInt8 × Nat) :=
  let c := d.at q
  match simpleEscape? c with
  | some o => .ok ([o], q + 1)
  | none =>
    if c != 0x75 then .ok ([], q + 1)
    else
      let h := q + 1
      if h + 4 ≥ d.size + 1 then .error (.cutShort "escaped string")
      else
        let r := lenientHex4 d h
        if !isSurrogate r then .ok ((encodePoint r).toList, h + 3)
        else
          let after := h + 4
          if after + 6 ≥ d.size + 1 || d.at after != 0x5C || d.at (after + 1) != 0x75 then
            .ok ((encodePoint 0xFFFD).toList, after + 3)
          else
            let low := lenientHex4 d (after + 2)
            if isSurrogatePair r low then .ok ((encodePoint (joinSurrogates r low)).toList, after + 5)
            else .ok ((encodePoint 0xFFFD).toList, after + 5)

/-- Passes over the rest of a key that matches no field, from just before `p`: a backslash hides
the octet after it. Returns the position after the closing quote. -/
def skipKey (d : Doc) (p : Nat) : Except Malformed Nat :=
  go (p + 1) (d.size + 2)
where
  /-- Scans from `q` with at most `fuel` steps left. -/
  go (q : Nat) : Nat → Except Malformed Nat
    | 0 => .error (.cutShort "string")
    | fuel + 1 =>
      let c := d.at q
      if c == 0x22 then .ok (q + 1)
      else if c == 0x5C then
        if d.at (q + 1) == 0 then .error (.cutShort "string") else go (q + 2) fuel
      else if c == 0 then .error (.cutShort "string")
      else go (q + 1) fuel

/-- The indices among `alive` of the keys of `keys` whose octet at `k` is the octet `c` in lower
case. -/
def narrowBy (keys : Array ByteArray) (alive : List Nat) (k : Nat) (c : UInt8) : List Nat :=
  alive.filter fun idx => match keys[idx]? with
    | some key => key[k]? == some (lowerOctet c)
    | none => false

/-- Narrows the possible keys by the octets `cs` met from position `k` of the key on; `none` once
no key is possible. -/
def narrowAll (keys : Array ByteArray) : List Nat → Nat → List UInt8 → Option (List Nat × Nat)
  | alive, k, [] => some (alive, k)
  | alive, k, c :: cs =>
    match narrowBy keys alive k c with
    | [] => none
    | alive => narrowAll keys alive (k + 1) cs

/-- The index of the key, among `keys` (in lower case, sorted, at most sixteen), that a key whose
opening quote is at `i` selects, and the position after the key. The key is matched an octet at a
time against the keys still possible, ASCII letters in any case, escapes as `keyEscape` says; once
none is possible the rest is passed over. At the closing quote the first key still possible is the
one selected, unless the text of the key, escapes included, is shorter than it. An empty key
selects nothing. -/
def selectKey (keys : Array ByteArray) (d : Doc) (i : Nat) : Except Malformed (Option Nat × Nat) :=
  let p := i + 1
  let c := d.at p
  if c == 0x22 then .ok (none, p + 1)
  else if c == 0 then .error (.cutShort "string")
  else go p 0 (List.range (if keys.size ≤ 8 then 8 else 16)) (d.size + 1)
where
  /-- Matches from `p`, with `k` octets of the key met and the keys `alive` still possible. -/
  go (p k : Nat) (alive : List Nat) : Nat → Except Malformed (Option Nat × Nat)
    | 0 => .error (.cutShort "string")
    | fuel + 1 =>
      let c := d.at p
      if c == 0x22 then
        match alive.head? with
        | some idx =>
          match keys[idx]? with
          | some key => .ok (if p - (i + 1) < key.size then none else some idx, p + 1)
          | none => .ok (none, p + 1)
        | none => .ok (none, p + 1)
      else if c == 0 then .error (.cutShort "string")
      else if c == 0x5C then
        match keyEscape d (p + 1) with
        | .error m => .error m
        | .ok (cs, next) =>
          match narrowAll keys alive k cs with
          | some (alive, k) => go (next + 1) k alive fuel
          | none => (skipKey d (p + 1)).map (none, ·)
      else
        match narrowAll keys alive k [c] with
        | some (alive, k) => go (p + 1) k alive fuel
        | none => (skipKey d p).map (none, ·)

/-- A record with the given fields: a JSON object whose keys select the fields. -/
def record {σ : Type} (fields : List (Field σ)) : Reader σ := fun d n i => do
  let i := skipBlank d i
  let c := d.at i
  if c == 0x6E then null d i
  else if c != 0x7B then fail (.badStart c)
  else
    let j := skipBlank d (i + 1)
    if d.at j == 0x7D then pure (j + 1)
    else members d (n + 1) j (d.size + 1)
where
  /-- The fields in the order of their keys. -/
  sorted : Array (Field σ) := (fields.foldr Field.insertSorted []).toArray
  /-- Reads members from `j` onwards, `n` values deep, with at most `fuel` members left. -/
  members (d : Doc) (n j : Nat) : Nat → EStateM DecodeError σ Nat
    | 0 => fail (.cutShort "object")
    | fuel + 1 => do
      let j := skipBlank d j
      if d.at j != 0x22 then fail (.badStart (d.at j))
      else
        let (hit, k) ← scan (selectKey (sorted.map (·.key.toUTF8)) d j)
        let k := skipBlank d k
        if d.at k != 0x3A then fail (.expected "colon after object key")
        else
          let k ← match hit.bind (sorted[·]?) with
            | some f => f.read d n (k + 1)
            | none => scan (skipValue d n (k + 1))
          let k := skipBlank d k
          let c := d.at k
          if c == 0x7D then pure (k + 1)
          else if c == 0x2C then members d n (k + 1) fuel
          else fail (.expected "comma after object element")

/-- The keys of an object whose values are read only to be skipped, in document order (later
duplicates included); `null` makes it absent. The keys are texts, read as strings are. -/
def objectKeys : Reader (Option (Array String)) := fun d n i => do
  let i := skipBlank d i
  let c := d.at i
  if d.size = 0 then fail (.expected "\x7b\x7d for map")
  else if c == 0x6E then
    let j ← null d i
    set (none : Option (Array String))
    pure j
  else if c != 0x7B then fail (.expected "\x7b character for map value")
  else
    let j := skipBlank d (i + 1)
    if d.at j == 0x7D then
      set (some (#[] : Array String))
      pure (j + 1)
    else
      let (keys, k) ← members d (n + 1) j #[] (d.size + 1)
      set (some keys)
      pure k
where
  /-- Reads members from `j` onwards, `n` values deep, after the keys `acc`, with at most `fuel`
  members left. -/
  members (d : Doc) (n j : Nat) (acc : Array String) :
      Nat → EStateM DecodeError (Option (Array String)) (Array String × Nat)
    | 0 => fail (.cutShort "object")
    | fuel + 1 => do
      let (key, k) ← fresh (string {}) "" d n j
      let k := skipBlank d k
      if d.at k != 0x3A then fail (.expected "colon after object key")
      else
        let k ← scan (skipValue d n (k + 1))
        let k := skipBlank d k
        let c := d.at k
        if c == 0x7D then pure (acc.push key, k + 1)
        else if c == 0x2C then members d n (k + 1) (acc.push key) fuel
        else fail (.expected "comma after object value")

/-- A value that reads itself from its own text: the text is first skipped as a whole, then
handed over. -/
def delegate {α : Type} (read : Doc → α → Except DecodeError α) : Reader α := fun d n i => do
  let i := skipBlank d i
  let j ← scan (skipValue d n i)
  let cur ← get
  match read (d.extract i j) cur with
  | .ok a =>
    set a
    pure j
  | .error e => throw e

end Reader

def checkEnd (d : Doc) (i : Nat) : Except Malformed Unit :=
  let j := skipBlank d i
  if d.at j == 0 then .ok () else .error (.trailing (d.at j))

/-- Reads a whole document into a value starting from `start`: the value read so far, and the
failure if there was one. -/
def decodePartial {σ : Type} (r : Reader σ) (start : σ) (d : Doc) : σ × Option DecodeError :=
  match r d 0 0 start with
  | .ok j s =>
    match checkEnd d j with
    | .ok () => (s, none)
    | .error m => (s, some (.malformed m))
  | .error e s => (s, some e)

/-- Reads a whole document into a value starting from `start`. -/
def decode {σ : Type} (r : Reader σ) (start : σ) (d : Doc) : Except DecodeError σ :=
  match decodePartial r start d with
  | (s, none) => .ok s
  | (_, some e) => .error e

end RaceArchive.Json
