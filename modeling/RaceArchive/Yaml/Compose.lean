import RaceArchive.Yaml.Scan
import RaceArchive.Yaml.Stream
import RaceArchive.Yaml.Resolve

/-!
# Composing YAML documents

The composer reads the tokens of the first document of a stream into a tree of nodes: scalars,
sequences, mappings, and aliases of anchored nodes. It follows the YAML grammar for block
collections (a sequence entry may be empty, and a mapping's sequence value may stand at the
mapping's own indentation), flow collections (where a `key: value` entry of a sequence is a
one-pair mapping) and explicit or implicit documents.

Each node keeps the one-based line where it starts and its tag. A plain scalar's tag says what its
text means; a quoted or block scalar is a string; an explicit tag is kept in its short form. An
alias refers to the anchored node defined last before it under that name; an alias to a name not
defined yet is a failure.

Problems are reported when the tokens they involve are reached, in the order the grammar reads
them.
-/

namespace RaceArchive.Yaml

/-- A node of a document. -/
inductive Node where
  | scalar (line : Nat) (tag : String) (value : String) (style : Style)
  | sequence (line : Nat) (tag : String) (items : List Node)
  | mapping (line : Nat) (tag : String) (entries : List (Node × Node))
  /-- An alias: the name, the number of the anchored node, and the alias's own number. -/
  | alias (line : Nat) (name : String) (target : Nat) (serial : Nat)
  deriving Inhabited, Repr

def Node.line : Node → Nat
  | .scalar l .. | .sequence l .. | .mapping l .. | .alias l .. => l

/-- A document: its root node and its anchored nodes by number. -/
structure Document where
  root : Node
  anchored : Array Node

/-- The state of the composer. -/
structure Composer where
  scanner : Scanner
  /-- Tag handles and their prefixes. -/
  directives : List (String × String) := []
  /-- Anchor names and the numbers of the nodes they name. -/
  anchors : List (String × Nat) := []
  anchored : Array Node := #[]
  serial : Nat := 0

/-- Composing: a state with the composer that may stop with a failure message. -/
abbrev Compose := StateT Composer (Except String)

/-- Runs a scanning step. -/
def liftScan {α : Type} (m : Scan α) : Compose α := do
  let c ← get
  match m.run c.scanner with
  | .ok (a, s) =>
    set { c with scanner := s }
    pure a
  | .error p => throw p.message

def peek : Compose Token := liftScan peekToken

def advance : Compose Unit := liftScan skipToken

def grammarError {α : Type} (context : String) (contextMark : Mark) (problem : String)
    (problemMark : Mark) : Compose α :=
  throw (Problem.message { stage := .parser, context, contextMark, problem, problemMark })

def emptyScalar (mark : Mark) : Node := .scalar (mark.line + 1) "!!null" "" .plain

/-- The tag of a scalar node: the explicit tag, or `!!str` for a quoted or block scalar, or the
meaning of a plain text. -/
def scalarTag (tag value : String) (style : Style) : String :=
  if tag != "" && tag != "!" then shortTag tag
  else if style != .plain then "!!str"
  else if value == "<<" then "!!merge"
  else (resolvePlain true value).1

def collectionTag (tag default : String) : String :=
  if tag != "" && tag != "!" then shortTag tag else default

/-- Reserves a number for a node with an anchor, under its name. -/
def reserve (anchor : Option String) : Compose (Option Nat) := do
  match anchor with
  | none => pure none
  | some name =>
    let c ← get
    let id := c.anchored.size
    set { c with anchored := c.anchored.push default,
                 anchors := (name, id) :: c.anchors.filter (·.1 != name) }
    pure (some id)

def complete (id : Option Nat) (n : Node) : Compose Node := do
  if let some i := id then modify fun c => { c with anchored := c.anchored.modify i fun _ => n }
  pure n

def tokenBound : Compose Nat := do pure (4 * (← get).scanner.input.size + 16)

def Token.isOneOf (t : Token) (kinds : List TokenKind) : Bool := kinds.contains t.kind

/-- Reads the directives before a document and adds the standard tag handles. -/
def processDirectives : Compose Unit := do
  let bound ← tokenBound
  let mut sawVersion := false
  for _ in [0:bound] do
    let t ← peek
    if t.kind == .versionDirective then
      if sawVersion then grammarError "" {} "found duplicate %YAML directive" t.start
      if t.major != 1 || t.minor != 1 then grammarError "" {} "found incompatible YAML document" t.start
      sawVersion := true
    else if t.kind == .tagDirective then
      if ((← get).directives.lookup t.value).isSome then
        grammarError "" {} "found duplicate %TAG directive" t.start
      modify fun c => { c with directives := c.directives ++ [(t.value, t.suffix)] }
    else break
    advance
  for (handle, full) in [("!", "!"), ("!!", "tag:yaml.org,2002:")] do
    if ((← get).directives.lookup handle).isNone then
      modify fun c => { c with directives := c.directives ++ [(handle, full)] }

/-- Reads a node, with its anchor and tag. In a block context block collections may start; in a
mapping of a block, a sequence without indentation may too. -/
def parseNode : Nat → Bool → Bool → Compose Node
  | 0, _, _ => throw "yaml: document nests too deeply"
  | fuel + 1, block, indentless => do
    let first ← peek
    if first.kind == .alias then
      advance
      match (← get).anchors.lookup first.value with
      | none => throw ("yaml: unknown anchor '" ++ first.value ++ "' referenced")
      | some id =>
        let c ← get
        set { c with serial := c.serial + 1 }
        return .alias (first.start.line + 1) first.value id c.serial
    let start := first.start
    let mut token := first
    let mut anchor : Option String := none
    let mut tagged : Option (String × String × Mark) := none
    if token.kind == .anchor then
      anchor := some token.value
      advance
      token ← peek
      if token.kind == .tag then
        tagged := some (token.value, token.suffix, token.start)
        advance
        token ← peek
    else if token.kind == .tag then
      tagged := some (token.value, token.suffix, token.start)
      advance
      token ← peek
      if token.kind == .anchor then
        anchor := some token.value
        advance
        token ← peek
    let tag ← match tagged with
      | none => pure ""
      | some (handle, suffix, tagMark) =>
        if handle.isEmpty then pure suffix
        else match (← get).directives.lookup handle with
          | some full =>
            if (full ++ suffix).isEmpty then
              grammarError "while parsing a node" start "found undefined tag handle" tagMark
            else pure (full ++ suffix)
          | none => grammarError "while parsing a node" start "found undefined tag handle" tagMark
    let line := start.line + 1
    let bound ← tokenBound
    if indentless && token.kind == .blockEntry then
      let id ← reserve anchor
      let mut items : Array Node := #[]
      for _ in [0:bound] do
        let t ← peek
        if t.kind != .blockEntry then break
        let mark := t.stop
        advance
        let t ← peek
        if t.isOneOf [.blockEntry, .key, .value, .blockEnd] then items := items.push (emptyScalar mark)
        else items := items.push (← parseNode fuel true false)
      complete id (.sequence line (collectionTag tag "!!seq") items.toList)
    else if token.kind == .scalar then
      advance
      let id ← reserve anchor
      complete id (.scalar line (scalarTag tag token.value token.style) token.value token.style)
    else if token.kind == .flowSequenceStart then
      let id ← reserve anchor
      let context := token.start
      advance
      let mut items : Array Node := #[]
      let mut firstEntry := true
      let mut finished := false
      for _ in [0:bound] do
        let mut cur ← peek
        if cur.kind != .flowSequenceEnd then
          if !firstEntry then
            if cur.kind == .flowEntry then
              advance
              cur ← peek
            else
              grammarError "while parsing a flow sequence" context "did not find expected ',' or ']'" cur.start
          firstEntry := false
          if cur.kind == .key then
            let pairLine := cur.start.line + 1
            advance
            let t ← peek
            let k ←
              if !t.isOneOf [.value, .flowEntry, .flowSequenceEnd] then parseNode fuel false false
              else do
                advance
                pure (emptyScalar t.stop)
            let t ← peek
            let v ←
              if t.kind == .value then do
                advance
                let after ← peek
                if !after.isOneOf [.flowEntry, .flowSequenceEnd] then parseNode fuel false false
                else pure (emptyScalar t.start)
              else pure (emptyScalar t.start)
            let _ ← peek
            items := items.push (.mapping pairLine "!!map" [(k, v)])
            continue
          else if cur.kind != .flowSequenceEnd then
            items := items.push (← parseNode fuel false false)
            continue
        advance
        finished := true
        break
      if !finished then throw "yaml: document is too long"
      complete id (.sequence line (collectionTag tag "!!seq") items.toList)
    else if token.kind == .flowMappingStart then
      let id ← reserve anchor
      let context := token.start
      advance
      let mut entries : Array (Node × Node) := #[]
      let mut firstEntry := true
      let mut finished := false
      for _ in [0:bound] do
        let mut cur ← peek
        if cur.kind != .flowMappingEnd then
          if !firstEntry then
            if cur.kind == .flowEntry then
              advance
              cur ← peek
            else
              grammarError "while parsing a flow mapping" context "did not find expected ',' or '\x7d'" cur.start
          firstEntry := false
          if cur.kind == .key then
            advance
            let t ← peek
            let k ←
              if !t.isOneOf [.value, .flowEntry, .flowMappingEnd] then parseNode fuel false false
              else pure (emptyScalar t.start)
            let t ← peek
            let v ←
              if t.kind == .value then do
                advance
                let after ← peek
                if !after.isOneOf [.flowEntry, .flowMappingEnd] then parseNode fuel false false
                else pure (emptyScalar after.start)
              else pure (emptyScalar t.start)
            entries := entries.push (k, v)
            continue
          else if cur.kind != .flowMappingEnd then
            let k ← parseNode fuel false false
            let after ← peek
            entries := entries.push (k, emptyScalar after.start)
            continue
        advance
        finished := true
        break
      if !finished then throw "yaml: document is too long"
      complete id (.mapping line (collectionTag tag "!!map") entries.toList)
    else if block && token.kind == .blockSequenceStart then
      let id ← reserve anchor
      let context := token.start
      advance
      let mut items : Array Node := #[]
      let mut finished := false
      for _ in [0:bound] do
        let t ← peek
        if t.kind == .blockEntry then
          let mark := t.stop
          advance
          let t ← peek
          if t.isOneOf [.blockEntry, .blockEnd] then items := items.push (emptyScalar mark)
          else items := items.push (← parseNode fuel true false)
        else if t.kind == .blockEnd then
          advance
          finished := true
          break
        else
          grammarError "while parsing a block collection" context "did not find expected '-' indicator" t.start
      if !finished then throw "yaml: document is too long"
      complete id (.sequence line (collectionTag tag "!!seq") items.toList)
    else if block && token.kind == .blockMappingStart then
      let id ← reserve anchor
      let context := token.start
      advance
      let mut entries : Array (Node × Node) := #[]
      let mut finished := false
      for _ in [0:bound] do
        let t ← peek
        if t.kind == .key then
          let mark := t.stop
          advance
          let t ← peek
          let k ←
            if t.isOneOf [.key, .value, .blockEnd] then pure (emptyScalar mark)
            else parseNode fuel true true
          let t ← peek
          let v ←
            if t.kind == .value then do
              let mark := t.stop
              advance
              let after ← peek
              if after.isOneOf [.key, .value, .blockEnd] then pure (emptyScalar mark)
              else parseNode fuel true true
            else pure (emptyScalar t.start)
          entries := entries.push (k, v)
        else if t.kind == .blockEnd then
          advance
          finished := true
          break
        else grammarError "while parsing a block mapping" context "did not find expected key" t.start
      if !finished then throw "yaml: document is too long"
      complete id (.mapping line (collectionTag tag "!!map") entries.toList)
    else if anchor.isSome || !tag.isEmpty then
      let id ← reserve anchor
      complete id (.scalar line (scalarTag tag "" .plain) "" .plain)
    else
      grammarError (if block then "while parsing a block node" else "while parsing a flow node") start
        "did not find expected node content" token.start

/-- Reads the first document of a stream, if there is one. -/
def composeFirst : Compose (Option Node) := do
  let fuel := (← get).scanner.input.size + 8
  let t ← peek
  if t.kind != .streamStart then grammarError "" {} "did not find expected <stream-start>" t.start
  advance
  let t ← peek
  let root ←
    if !t.isOneOf [.versionDirective, .tagDirective, .documentStart, .streamEnd] then do
      processDirectives
      some <$> parseNode fuel true false
    else if t.kind != .streamEnd then do
      processDirectives
      let t ← peek
      if t.kind != .documentStart then grammarError "" {} "did not find expected <document start>" t.start
      advance
      let t ← peek
      if t.isOneOf [.versionDirective, .tagDirective, .documentStart, .documentEnd, .streamEnd] then
        pure (some (emptyScalar t.start))
      else some <$> parseNode fuel true false
    else pure none
  if root.isSome then
    let t ← peek
    if t.kind == .documentEnd then advance
  pure root

/-- Reads the first document of a stream, if it has one. The stream must read as characters (see
`readStream`). -/
def compose (stream : ByteArray) : Except String (Option Document) :=
  match readStream stream with
  | .error problem => .error ("yaml: " ++ problem)
  | .ok input =>
    match composeFirst.run { scanner := { input } } with
    | .ok (none, _) => .ok none
    | .ok (some root, c) => .ok (some { root, anchored := c.anchored })
    | .error e => .error e

end RaceArchive.Yaml
