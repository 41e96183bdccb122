import RaceArchive.Yaml.Compose
import RaceArchive.Codec.Base64
import RaceArchive.Crash

/-!
# Reading YAML documents into typed values

A reading takes a node and the value as it stands, and gives the value after the node and whether
the node set it. The readings here follow the rules of the typed targets:

* an alias is read as the node it stands for; an alias met again while its own node is being read
  is a failure, and so is a document that expands aliases far more than it has nodes;
* a null scalar leaves a text, a number, a flag or a record as it was and does not set it, but it
  clears an optional value, a list or a map;
* a text takes the written text of any other scalar (binary data decoded); an integer takes an
  integer that fits in 64 bits or a float no larger than `2^63` (cut towards zero); a flag takes
  a boolean or one of the words `y`, `yes`, `on`, `n`, `no`, `off` in their usual
  capitalisations; a float takes any number;
* a record takes a mapping: keys are read as texts, unknown keys are passed over, a key given
  twice for one field is noted, and the merge key `<<` brings in the keys of the mapping (or the
  mappings of the sequence) it names that the record's own mapping does not have;
* a list takes a sequence, keeping the items that set a value; a map takes a mapping.

Which keys a mapping with a merge key has of its own is judged by reading each key as a generic
value: only a key that reads as a text can match a key brought in, and a key that is itself a
mapping or a sequence cannot be judged at all and crashes the reading.

A scalar that a tag cannot describe, or a merge of something other than mappings, stops the
reading. Any other mismatch is noted with its line and the reading goes on; the notes together
are the failure of the whole reading. A mapping whose keys repeat notes each repeat and sets
nothing.
-/

namespace RaceArchive.Yaml

/-- The state of a reading: the document, the mismatches noted so far, the aliases being
expanded, the keys already taken when a merge is under way, and how many nodes were read, in all
and through an alias. -/
structure Decoding where
  doc : Document
  errors : Array String := #[]
  expanding : List Nat := []
  merged : Option (List String) := none
  decoded : Nat := 0
  viaAlias : Nat := 0
  aliasDepth : Nat := 0

/-- Why a reading stops: a failure with its message, or a crash. -/
inductive Halt where
  | failure (message : String)
  | crash (c : Crash)
  deriving Repr

abbrev Decode := StateT Decoding (Except Halt)

def stop {α : Type} (message : String) : Decode α := throw (.failure message)

/-- A reading of a node into a value of type `α`, given a bound on its depth, the node and the
value as it stands: the value after the node and whether the node set it. -/
abbrev Into (α : Type) := Nat → Node → α → Decode (α × Bool)

def excessiveAliasing : String := "yaml: document contains excessive aliasing"

/-- The share of the nodes read that may come through aliases: almost all of a small document,
falling to a tenth for a very large one. -/
def allowedAliasRatio (decoded : Nat) : Float :=
  if decoded ≤ 400000 then 0.99
  else if decoded ≥ 4000000 then 0.10
  else 0.99 - 0.89 * (Float.ofNat (decoded - 400000) / 3600000.0)

def Node.tag : Node → String
  | .scalar _ t _ _ | .sequence _ t _ | .mapping _ t _ => t
  | .alias .. => ""

/-- What keys are compared by: the kind of node and its text (an alias's name). -/
def Node.identity : Node → Nat × String
  | .scalar _ _ v _ => (0, v)
  | .sequence .. => (1, "")
  | .mapping .. => (2, "")
  | .alias _ name .. => (3, name)

def isMerge : Node → Bool
  | .scalar _ tag v _ => v == "<<" && tag == "!!merge"
  | _ => false

def target (n : Node) : Decode Node :=
  match n with
  | .alias _ _ id _ => do pure ((← get).doc.anchored[id]?.getD n)
  | _ => pure n

def note (msg : String) : Decode Unit := modify fun s => { s with errors := s.errors.push msg }

/-- A scalar's text as shown in a note: one over ten octets is cut to seven and an ellipsis. -/
def clip (v : String) : String :=
  let b := v.toUTF8
  if b.size > 10 then Utf8.decodeLossy (b.extract 0 7) ++ "..." else v

/-- Notes that a node cannot be read into a type. -/
def typeError (n : Node) (typeName : String) : Decode Unit :=
  let value := match n with
    | .scalar _ _ v _ => v
    | _ => ""
  let shown := if n.tag == "!!seq" || n.tag == "!!map" then "" else " `" ++ clip value ++ "`"
  note ("line " ++ toString n.line ++ ": cannot unmarshal " ++ n.tag ++ shown ++ " into " ++ typeName)

/-- The notes of the keys that repeat an earlier key of the same mapping. -/
def repeatedKeys : List Node → List String
  | [] => []
  | k :: rest =>
    (rest.filter (·.identity == k.identity)).map (fun r =>
      "line " ++ toString r.line ++ ": mapping key " ++ Text.quote r.identity.2 ++
        " already defined at line " ++ toString k.line) ++ repeatedKeys rest

/-- Notes the repeated keys of a mapping, and says whether there were none. -/
def uniqueKeys (entries : List (Node × Node)) : Decode Bool := do
  let found := repeatedKeys (entries.map Prod.fst)
  modify fun s => { s with errors := s.errors ++ found.toArray }
  pure found.isEmpty

/-- Reads a node with `into`, first following an alias to the node it stands for. -/
def unmarshal {α : Type} (into : Into α) : Into α
  | 0, _, _ => stop excessiveAliasing
  | fuel + 1, n, v => do
    let s ← get
    let decoded := s.decoded + 1
    let viaAlias := if s.aliasDepth > 0 then s.viaAlias + 1 else s.viaAlias
    set { s with decoded, viaAlias }
    if viaAlias > 100 && decoded > 1000 &&
        Float.ofNat viaAlias / Float.ofNat decoded > allowedAliasRatio decoded then
      stop excessiveAliasing
    match n with
    | .alias _ name id serial =>
      if s.expanding.contains serial then
        stop ("yaml: anchor '" ++ name ++ "' value contains itself")
      modify fun s => { s with expanding := serial :: s.expanding, aliasDepth := s.aliasDepth + 1 }
      let r ← unmarshal into fuel (s.doc.anchored[id]?.getD n) v
      modify fun s => { s with expanding := s.expanding.erase serial, aliasDepth := s.aliasDepth - 1 }
      pure r
    | _ => into fuel n v

/-- The tag and meaning of a scalar for a typed target; a text its tag cannot describe stops the
reading, and binary data is decoded. -/
def scalarOf (tag value : String) : Decode (String × Scalar) :=
  if tag == "!!str" then pure ("!!str", .str value)
  else
    match resolve tag value with
    | .error e => stop e
    | .ok ("!!binary", _) =>
      match Base64.decode? (String.ofList (value.toList.filter fun c => c != '\r' && c != '\n')) with
      | some b => pure ("!!binary", .str (Utf8.decodeLossy b))
      | none => stop "yaml: !!binary value contains invalid base64 data"
    | .ok r => pure r

/-- A reading of scalars only: `read` gives the value of a scalar's text and meaning, or `none`
when the scalar cannot be one. A null leaves the value unset; a collection does not fit. -/
def fromScalar {α : Type} (typeName : String) (read : String → Scalar → Option α) : Into α :=
  fun _ n v =>
    match n with
    | .scalar _ tag value _ => do
      let (_, s) ← scalarOf tag value
      match s with
      | .null => pure (v, false)
      | _ =>
        match read value s with
        | some a => pure (a, true)
        | none => do
          typeError n typeName
          pure (v, false)
    | .mapping _ _ entries => do
      if ← uniqueKeys entries then typeError n typeName
      pure (v, false)
    | _ => do
      typeError n typeName
      pure (v, false)

/-- Reads a text: the written text of any scalar, or the decoded text of binary data. -/
def intoString : Into String :=
  fromScalar "string" fun value s =>
    match s with
    | .str d => some d
    | _ => some value

/-- The integer a float is cut to; one outside the 64-bit range is the least integer of it. -/
def truncated (x : Float) : Int :=
  if -9223372036854775808.0 ≤ x && x < 9223372036854775808.0 then x.toInt64.toInt
  else -9223372036854775808

/-- Reads a 64-bit integer. -/
def intoInt : Into Int :=
  fromScalar "int" fun _ s =>
    match s with
    | .int n => some n
    | .float x => if x ≤ 9223372036854775808.0 then some (truncated x) else none
    | _ => none

def yesWords : List String := ["y", "Y", "yes", "Yes", "YES", "on", "On", "ON"]

def noWords : List String := ["n", "N", "no", "No", "NO", "off", "Off", "OFF"]

/-- Reads a flag. -/
def intoBool : Into Bool :=
  fromScalar "bool" fun _ s =>
    match s with
    | .bool b => some b
    | .str t => if yesWords.contains t then some true else if noWords.contains t then some false else none
    | _ => none

/-- Reads a double. -/
def intoFloat : Into Float :=
  fromScalar "float64" fun _ s =>
    match s with
    | .int n => some (Float.ofInt n)
    | .uint n => some (Float.ofNat n)
    | .float x => some x
    | _ => none

/-- Reads an optional value: a null clears it, anything else is read into the value it holds, or
into `zero` when it holds none. -/
def intoOption {α : Type} (typeName : String) (zero : α) (inner : Into α) : Into (Option α) :=
  fun fuel n v =>
    if n.tag == "!!null" then
      match n with
      | .scalar _ tag value _ => do
        let _ ← scalarOf tag value
        pure (none, true)
      | .mapping _ _ entries => do
        if ← uniqueKeys entries then typeError n ("*" ++ typeName)
        pure (v, false)
      | _ => do
        typeError n ("*" ++ typeName)
        pure (v, false)
    else do
      let (a, ok) ← inner fuel n (v.getD zero)
      pure (some a, ok)

/-- Reads a list: each item of a sequence is read from `zero`, and those that set a value are
kept; a null clears the list. -/
def intoList {α : Type} (typeName : String) (zero : α) (elem : Into α) : Into (List α) :=
  fun fuel n v =>
    match n with
    | .sequence _ _ items => do
      let mut out : Array α := #[]
      for item in items do
        let (a, ok) ← unmarshal elem fuel item zero
        if ok then out := out.push a
      pure (out.toList, true)
    | .scalar _ tag value _ => do
      let (_, s) ← scalarOf tag value
      match s with
      | .null => pure ([], true)
      | _ => do
        typeError n typeName
        pure (v, false)
    | .mapping _ _ entries => do
      if ← uniqueKeys entries then typeError n typeName
      pure (v, false)
    | .alias .. => pure (v, false)

def wantMap : String := "yaml: map merge requires map or sequence of maps as the value"

/-- Whether a node is a mapping, or an alias of one. -/
def isMapping (n : Node) : Decode Bool := do
  match ← target n with
  | .mapping .. => pure true
  | _ => pure false

/-- Whether a key, or the node an alias key stands for, is tagged as a text (or is the merge
key). -/
def isTextKey (k : Node) : Decode Bool := do
  match ← target k with
  | .scalar _ tag _ _ => pure (shortTag tag == "!!str" || shortTag tag == "!!merge")
  | _ => pure false

/-- Reads a key as a generic value, giving its text when it is a text and nothing when it is
another scalar. A mapping (a map keyed by texts when all its keys are texts) or a sequence cannot
serve as a key and crashes the reading. -/
def keyText : Into (Option String) := fun _ n _ =>
  match n with
  | .scalar _ tag value _ => do
    let (_, s) ← scalarOf tag value
    match s with
    | .str d => pure (some d, true)
    | _ => pure (none, true)
  | .mapping _ _ entries => do
    let textKeys ← entries.allM fun (k, _) => isTextKey k
    throw (.crash (.unhashable
      (if textKeys then "map[string]interface {}" else "map[interface {}]interface {}")))
  | .sequence .. => throw (.crash (.unhashable "[]interface {}"))
  | .alias .. => pure (none, true)

/-- Merges into a value the mapping, or the mappings of the sequence, under a merge key of the
mapping `parent`, reading each with `self`. Keys taken already are passed over: at the outermost
merge, all the keys of `parent`. -/
def mergeInto {α : Type} (self : Into α) (fuel : Nat) (parent : List (Node × Node)) (m : Node)
    (v : α) : Decode α := do
  let outer := (← get).merged
  if outer.isNone then
    let mut keys : List String := []
    for (k, _) in parent do
      let (t, ok) ← unmarshal keyText fuel k none
      if ok then
        if let some t := t then keys := t :: keys
    modify fun s => { s with merged := some keys }
  let v ← match m with
    | .mapping .. => do pure (← unmarshal self fuel m v).1
    | .alias .. => do
      unless ← isMapping m do stop wantMap
      pure (← unmarshal self fuel m v).1
    | .sequence _ _ items => do
      let mut v := v
      for item in items do
        match item with
        | .alias .. => unless ← isMapping item do stop wantMap
        | .mapping .. => pure ()
        | _ => stop wantMap
        v := (← unmarshal self fuel item v).1
      pure v
    | _ => stop wantMap
  modify fun s => { s with merged := outer }
  pure v

/-- A field of a record: its key and how a node is read into the record through it. -/
structure Member (α : Type) where
  key : String
  read : Into α

/-- A field held in a record by an accessor and an update. -/
def Member.of {α β : Type} (key : String) (get : α → β) (put : α → β → α) (into : Into β) :
    Member α :=
  ⟨key, fun fuel n r => do
    let (b, ok) ← into fuel n (get r)
    pure (put r b, ok)⟩

/-- Takes a key of a mapping under way, unless a merge has taken it already; the keys taken after
it. -/
def takeKey (merged : Option (List String)) (name : String) : Option (Option (List String)) :=
  match merged with
  | some m => if m.contains name then none else some (some (name :: m))
  | none => some none

/-- Reads a record of a type from a mapping, field by field. -/
def intoStruct {α : Type} (typeName : String) (fields : List (Member α)) : Into α
  | 0, _, _ => stop excessiveAliasing
  | fuel + 1, n, v =>
    match n with
    | .mapping _ _ entries => do
      unless ← uniqueKeys entries do return (v, false)
      let outer := (← get).merged
      modify fun s => { s with merged := none }
      let mut merged := outer
      let mut done : List String := []
      let mut mergeNode : Option Node := none
      let mut v := v
      for (k, value) in entries do
        if isMerge k then
          mergeNode := some value
          continue
        let (name, ok) ← unmarshal intoString fuel k ""
        if !ok then continue
        match takeKey merged name with
        | none => continue
        | some m => merged := m
        match fields.find? (·.key == name) with
        | some f =>
          if done.contains name then
            note ("line " ++ toString k.line ++ ": field " ++ name ++ " already set in type " ++ typeName)
            continue
          done := name :: done
          v := (← unmarshal f.read fuel value v).1
        | none => pure ()
      modify fun s => { s with merged }
      match mergeNode with
      | some m => do
        let after ← mergeInto (fun _ => intoStruct typeName fields fuel) fuel entries m v
        pure (after, true)
      | none => pure (v, true)
    | .scalar _ tag value _ => do
      let (_, s) ← scalarOf tag value
      match s with
      | .null => pure (v, false)
      | _ => do
        typeError n typeName
        pure (v, false)
    | .sequence .. => do
      typeError n typeName
      pure (v, false)
    | .alias .. => pure (v, false)

def putKey (m : List (String × String)) (k v : String) : List (String × String) :=
  if m.any (·.1 == k) then m.map fun (a, b) => if a == k then (a, v) else (a, b) else m ++ [(k, v)]

/-- Reads a map from texts to texts; a null clears it. A null value sets its key to the empty
text, unless the map had the key before. -/
def intoStringMap : Into (Option (List (String × String)))
  | 0, _, _ => stop excessiveAliasing
  | fuel + 1, n, v =>
    match n with
    | .mapping _ _ entries => do
      unless ← uniqueKeys entries do return (v, false)
      let outer := (← get).merged
      modify fun s => { s with merged := none }
      let mut merged := outer
      let mut mergeNode : Option Node := none
      let fresh := v.isNone
      let mut m := v.getD []
      for (k, value) in entries do
        if isMerge k then
          mergeNode := some value
          continue
        let (key, ok) ← unmarshal intoString fuel k ""
        if !ok then continue
        match takeKey merged key with
        | none => continue
        | some ks => merged := ks
        let (text, good) ← unmarshal intoString fuel value ""
        let isNull := (← target value).tag == "!!null"
        if good || (isNull && (fresh || !m.any (·.1 == key))) then
          m := putKey m key text
      modify fun s => { s with merged }
      match mergeNode with
      | some node => do
        let r ← mergeInto (fun _ => intoStringMap fuel) fuel entries node (some m)
        pure (r, true)
      | none => pure (some m, true)
    | .scalar _ tag value _ => do
      let (_, s) ← scalarOf tag value
      match s with
      | .null => pure (none, true)
      | _ => do
        typeError n "map[string]string"
        pure (v, false)
    | .sequence .. => do
      typeError n "map[string]string"
      pure (v, false)
    | .alias .. => pure (v, false)

/-- Reads a value that is written as a text: the node is read as a text on its own, and the text is
then read by `parse`, whose failure stops the reading. A mismatch in reading the text is noted
and sets nothing; a null leaves the value as it was. A node tagged `!!null` is not read as a text
at all: a mapping is read as the record of the value's `fields`, anything else but a scalar is a
mismatch. -/
def viaText {α : Type} (typeName : String) (parse : String → Except String α)
    (fields : List (Member α)) : Into α :=
  fun fuel n v =>
    if n.tag == "!!null" then
      match n with
      | .scalar _ tag value _ => do
        let _ ← scalarOf tag value
        pure (v, false)
      | .mapping .. => intoStruct typeName fields fuel n v
      | _ => do
        typeError n typeName
        pure (v, false)
    else do
      let s ← get
      match (unmarshal intoString fuel n "").run { doc := s.doc } with
      | .error e => throw e
      | .ok ((text, _), sub) =>
        if !sub.errors.isEmpty then
          set { s with errors := s.errors ++ sub.errors }
          pure (v, false)
        else
          match parse text with
          | .ok a => pure (a, true)
          | .error e => stop e

/-- Reads the first document of a text into a value, from the value as it stands; a text with no
document leaves it as it is. The notes of mismatches, if any, are the failure. -/
def decodeText {α : Type} (into : Into α) (input : ByteArray) (v : α) : Except Halt α := do
  match compose input with
  | .error e => throw (.failure e)
  | .ok none => pure v
  | .ok (some doc) =>
    let fuel := (input.size + 1) * (8 * input.size + 40)
    let ((r, _), s) ← (unmarshal into fuel doc.root v).run { doc, decoded := 1 }
    if s.errors.isEmpty then pure r
    else throw (.failure ("yaml: unmarshal errors:\n  " ++ "\n  ".intercalate s.errors.toList))

end RaceArchive.Yaml
