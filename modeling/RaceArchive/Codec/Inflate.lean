/-!
# Inflating DEFLATE streams

A DEFLATE stream (RFC 1951) is a sequence of blocks, each stored as it is or coded with a fixed
or a transmitted pair of prefix codes: one for literal bytes, lengths and the end of the block,
one for distances back into the output. Bits are read least significant first.

The reader takes input bytes only when the bits it holds are too few for the next step: a
symbol is looked up once the bits for the shortest code of its table are held (for the literal
table of a transmitted code, at least the length of the end-of-block code, and ten bits more in a
block that is not the last), and more bytes are taken while the code found is longer than the
bits held. A malformed stream is reported with the number of input bytes taken when the fault
was seen; a stream that stops early is reported as such. In both cases the output produced so
far is kept.
-/

namespace RaceArchive.Inflate

/-- Why a stream could not be inflated. -/
inductive Problem where
  /-- The stream is malformed; the input bytes taken when that was seen. -/
  | corrupt (offset : Nat)
  /-- The input ended inside the stream. -/
  | truncated
  deriving DecidableEq, Repr

def Problem.message : Problem → String
  | .corrupt n => "flate: corrupt input before offset " ++ toString n
  | .truncated => "unexpected EOF"

def reverseBits (code n : Nat) : Nat :=
  (List.range n).foldl (fun acc i => acc * 2 + (code >>> i) % 2) 0

/-- A decoding table for a prefix code: for each pattern of `width` bits, read least significant
bit first, the symbol whose code begins the pattern and the length of that code, or length zero
when no code does; and the number of bits to hold before the first lookup. -/
structure Code where
  width : Nat
  entries : Array (Nat × Nat)
  lookahead : Nat
  deriving Inhabited

def lengthCounts (lengths : List Nat) : Array Nat :=
  lengths.foldl (fun acc n => if n == 0 then acc else acc.modify n (· + 1)) (Array.replicate 16 0)

/-- The first canonical code of each length, and the code value past the longest. -/
def firstCodes (counts : Array Nat) (longest : Nat) : Array Nat × Nat :=
  (List.range longest).foldl (fun (acc : Array Nat × Nat) i =>
    let code := acc.2 * 2
    (acc.1.set! (i + 1) code, code + counts.getD (i + 1) 0)) (Array.replicate 16 0, 0)

/-- Builds the table of a code from the code lengths of its symbols, or `none` when the lengths
do not make a complete code; a single code of length one is allowed. Lengths all zero make an
empty code, in which every lookup fails. -/
def Code.build (lengths : List Nat) : Option Code :=
  let used := lengths.filter (· != 0)
  let longest := used.foldl max 0
  let shortest := used.foldl min longest
  if longest == 0 then some ⟨0, #[(0, 0)], 0⟩
  else
    let counts := lengthCounts lengths
    let (first, past) := firstCodes counts longest
    if past != Nat.pow 2 longest && !(past == 1 && longest == 1) then none
    else
      let step (acc : Array Nat × Array (Nat × Nat)) (entry : Nat × Nat) :=
        let (next, table) := acc
        let (sym, n) := entry
        if n == 0 then acc
        else
          let code := next.getD n 0
          let r := reverseBits code n
          let table := (List.range (Nat.pow 2 (longest - n))).foldl
            (fun t k => t.set! (r + k * Nat.pow 2 n) (sym, n)) table
          (next.modify n (· + 1), table)
      let (_, table) := (lengths.zipIdx.map fun (n, i) => (i, n)).foldl step
        (first, Array.replicate (Nat.pow 2 longest) (0, 0))
      some ⟨longest, table, shortest⟩

def fixedLengths : List Nat :=
  List.replicate 144 8 ++ List.replicate 112 9 ++ List.replicate 24 7 ++ List.replicate 8 8

def fixedCode : Code := (Code.build fixedLengths).getD default

/-- The state of an inflater: the input, the bytes taken from it and the count reported in
failures, the bits held (least significant first) and how many, the output, and whether the
current block is the last. -/
structure Inflater where
  input : ByteArray
  pos : Nat := 0
  offset : Nat := 0
  bits : Nat := 0
  held : Nat := 0
  out : ByteArray := ByteArray.empty
  final : Bool := false

/-- Inflating: a state that may stop with a problem, keeping the state reached. -/
abbrev Inflate := EStateM Problem Inflater

def corrupt {α : Type} : Inflate α := do throw (.corrupt (← get).offset)

/-- Takes one input byte into the bits held. -/
def pull : Inflate Unit := do
  let s ← get
  match s.input[s.pos]? with
  | some b =>
    set { s with pos := s.pos + 1, offset := s.offset + 1, bits := s.bits ||| (b.toNat <<< s.held),
                 held := s.held + 8 }
  | none => throw .truncated

/-- Takes input bytes until at least `n` bits are held, trying at most `fuel` times. -/
def fillWith (n : Nat) : Nat → Inflate Unit
  | 0 => pure ()
  | fuel + 1 => do
    if (← get).held < n then
      pull
      fillWith n fuel

def fill (n : Nat) : Inflate Unit := fillWith n (n / 8 + 1)

/-- Takes `n` bits as a number. -/
def take (n : Nat) : Inflate Nat := do
  fill n
  let s ← get
  set { s with bits := s.bits >>> n, held := s.held - n }
  pure (s.bits % Nat.pow 2 n)

/-- Reads a symbol of a code, holding `n` bits before each lookup, at most `fuel` times. -/
def symbolWith (c : Code) : Nat → Nat → Inflate Nat
  | 0, _ => corrupt
  | fuel + 1, n => do
    fill n
    let s ← get
    let (sym, len) := c.entries.getD (s.bits % Nat.pow 2 c.width) (0, 0)
    if len ≤ s.held then
      if len == 0 then corrupt
      else
        set { s with bits := s.bits >>> len, held := s.held - len }
        pure sym
    else symbolWith c fuel len

def symbol (c : Code) : Inflate Nat := symbolWith c 17 c.lookahead

def emit (b : Nat) : Inflate Unit := modify fun s => { s with out := s.out.push b.toUInt8 }

/-- Copies `length` bytes from `distance` bytes back in the output, one at a time. -/
def copyBack (out : ByteArray) (distance length : Nat) : ByteArray :=
  (List.range length).foldl (fun o _ => o.push (o[o.size - distance]?.getD 0)) out

/-- The base length and the count of extra bits of the length symbols from 265 on. -/
def lengthBase (v : Nat) : Nat × Nat :=
  match v with
  | 265 => (11, 1) | 266 => (13, 1) | 267 => (15, 1) | 268 => (17, 1)
  | 269 => (19, 2) | 270 => (23, 2) | 271 => (27, 2) | 272 => (31, 2)
  | 273 => (35, 3) | 274 => (43, 3) | 275 => (51, 3) | 276 => (59, 3)
  | 277 => (67, 4) | 278 => (83, 4) | 279 => (99, 4) | 280 => (115, 4)
  | 281 => (131, 5) | 282 => (163, 5) | 283 => (195, 5) | 284 => (227, 5)
  | _ => (258, 0)

/-- Reads the length of a copy from its symbol. -/
def readLength (v : Nat) : Inflate Nat := do
  if v < 265 then pure (v - 254)
  else if v < 286 then
    let (base, extra) := lengthBase v
    pure (base + (← take extra))
  else corrupt

/-- Reads the distance of a copy: five reversed bits in a fixed block, else a symbol of the
distance code, then its extra bits. -/
def readDistance (dist : Option Code) : Inflate Nat := do
  let d ← match dist with
    | none => do pure (reverseBits (← take 5) 5)
    | some c => symbol c
  if d < 4 then pure (d + 1)
  else if d < 30 then
    let nb := (d - 2) / 2
    let extra ← take nb
    pure (Nat.pow 2 (nb + 1) + 1 + ((d % 2) * Nat.pow 2 nb ||| extra))
  else corrupt

/-- Decodes the symbols of a coded block up to its end, at most `fuel` of them. -/
def codedBlock (lit : Code) (dist : Option Code) : Nat → Inflate Unit
  | 0 => corrupt
  | fuel + 1 => do
    let v ← symbol lit
    if v < 256 then
      emit v
      codedBlock lit dist fuel
    else if v == 256 then pure ()
    else
      let length ← readLength v
      let distance ← readDistance dist
      if distance > (← get).out.size then corrupt
      modify fun s => { s with out := copyBack s.out distance length }
      codedBlock lit dist fuel

/-- Takes `n` input bytes whole, failing when fewer are left. -/
def takeBytes (n : Nat) : Inflate ByteArray := do
  let s ← get
  let avail := min n (s.input.size - s.pos)
  set { s with pos := s.pos + avail, offset := s.offset + avail }
  let got := s.input.extract s.pos (s.pos + avail)
  if avail < n then
    modify fun t => { t with out := t.out ++ got }
    throw .truncated
  pure got

/-- Reads a stored block: whole bytes of the bits held first, then the length and its complement,
then the bytes themselves. -/
def storedBlock : Inflate Unit := do
  let s ← get
  let left := s.held % 8
  let bits := s.bits >>> left
  let inHand := (s.held - left) / 8
  let heldBytes := (List.range (min inHand 4)).map fun i => (bits >>> (8 * i)) % 256
  set { s with offset := s.offset + inHand, bits := 0, held := 0 }
  let more ← takeBytes (4 - min inHand 4)
  let header := heldBytes ++ more.toList.map (·.toNat)
  let n := header.getD 0 0 + 256 * header.getD 1 0
  let nn := header.getD 2 0 + 256 * header.getD 3 0
  if nn != 65535 - n then corrupt
  let data ← takeBytes n
  modify fun t => { t with out := t.out ++ data }

def codeOrder : List Nat := [16, 17, 18, 0, 8, 7, 9, 6, 10, 5, 11, 4, 12, 3, 13, 2, 14, 1, 15]

/-- Reads `n` code lengths with the code-length code into `acc`, at most `fuel` steps. -/
def readLengths (c : Code) (n : Nat) : Nat → Array Nat → Inflate (Array Nat)
  | 0, acc => pure acc
  | fuel + 1, acc => do
    if acc.size ≥ n then return acc
    let x ← symbol c
    if x < 16 then readLengths c n fuel (acc.push x)
    else
      let (rep, extra, value) ←
        if x == 16 then
          if acc.isEmpty then corrupt
          else pure (3, 2, acc.back?.getD 0)
        else if x == 17 then pure (3, 3, 0)
        else pure (11, 7, 0)
      let rep := rep + (← take extra)
      if acc.size + rep > n then corrupt
      readLengths c n fuel (acc ++ Array.replicate rep value)

/-- Reads the two codes of a block with transmitted codes. The three counts are checked only once
all fourteen of their bits are held. -/
def readCodes : Inflate (Code × Code) := do
  fill 14
  let nlit := (← take 5) + 257
  if nlit > 286 then corrupt
  let ndist := (← take 5) + 1
  if ndist > 30 then corrupt
  let nclen := (← take 4) + 4
  let mut clens : Array Nat := Array.replicate 19 0
  for i in codeOrder.take nclen do
    clens := clens.set! i (← take 3)
  let some lenCode := Code.build clens.toList | corrupt
  let lengths ← readLengths lenCode (nlit + ndist) (nlit + ndist + 1) #[]
  let some lit := Code.build (lengths.toList.take nlit) | corrupt
  let some dist := Code.build (lengths.toList.drop nlit) | corrupt
  let eob := lengths.getD 256 0
  let look := max lit.lookahead eob + (if (← get).final then 0 else 10)
  pure ({ lit with lookahead := look }, dist)

/-- Reads blocks up to the last one, at most `fuel` of them. -/
def blocks : Nat → Inflate Unit
  | 0 => corrupt
  | fuel + 1 => do
    fill 3
    let final := (← take 1) == 1
    modify fun s => { s with final }
    let kind ← take 2
    let symbols := 8 * (← get).input.size + 1
    if kind == 0 then storedBlock
    else if kind == 1 then codedBlock fixedCode none symbols
    else if kind == 2 then
      let (lit, dist) ← readCodes
      codedBlock lit (some dist) symbols
    else corrupt
    if !final then blocks fuel

/-- Inflates a stream: the output, and the problem that stopped it, if any, after the output made
before it. Input after the last block is left unread. -/
def inflate (input : ByteArray) : ByteArray × Option Problem :=
  match (blocks (8 * input.size + 2)).run { input } with
  | .ok _ s => (s.out, none)
  | .error p s => (s.out, some p)

end RaceArchive.Inflate
