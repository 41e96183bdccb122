import RaceArchive.Failure

/-!
# A file tree

The files the service keeps live in one directory tree. A path is the list of names from the
tree's root; the root itself has the empty path and is shown as `$DIR`, the name the service's
answers give it. Every ancestor of a node is a directory.

The operations fail as the operating system does, naming the path they were given:

* opening a path fails when it is missing (`no such file or directory`) or when one of its
  ancestors is a file (`not a directory`); reading a directory fails with `is a directory`;
* creating a directory and its ancestors fails at the first ancestor that is a file;
* writing a file creates it or replaces it, but not a directory;
* an atomic write creates an empty temporary file beside the target, writes the data to it,
  flushes it to the disk, closes it and renames it over the target, and removes the temporary file
  whatever happened. It fails when the target's directory cannot hold the temporary file, when the
  target is a directory, or when the system refuses one of the later calls (`WriteFault`); the
  system's texts show the temporary file by its pattern `.tmp-<name>-*`.
-/

namespace RaceArchive.Files

/-- A node of the tree. -/
inductive Node where
  | directory
  | file (data : ByteArray)

abbrev Path := List String

def Path.text (p : Path) : String := "/".intercalate ("$DIR" :: p)

/-- A path with a relative name added, its empty and `.` parts dropped and each `..` part taking
the last name off. -/
def Path.join (p : Path) (name : String) : Path :=
  (name.splitOn "/").foldl (fun acc part =>
    if part.isEmpty || part == "." then acc
    else if part == ".." then acc.dropLast
    else acc ++ [part]) p

/-- A tree: its nodes other than the root, each with its path. -/
structure Tree where
  nodes : List (Path × Node) := []

/-- What is found at a path. -/
inductive Found where
  | missing
  /-- An ancestor of the path is a file. -/
  | underFile
  | directory
  | file (data : ByteArray)

def Tree.node (t : Tree) (p : Path) : Option Node :=
  if p.isEmpty then some .directory else (t.nodes.find? (·.1 == p)).map (·.2)

/-- What is found at a path, looking through its ancestors first, nearest the root first. -/
def Tree.find (t : Tree) (p : Path) : Found :=
  let ancestors := (List.range p.length).map fun k => p.take k
  if ancestors.any (fun a => match t.node a with | some (.file _) => true | _ => false) then .underFile
  else if ancestors.any (fun a => (t.node a).isNone) then .missing
  else match t.node p with
    | none => .missing
    | some .directory => .directory
    | some (.file data) => .file data

def refusal (op : String) (p : Path) (text : String) : Failure :=
  let kind := if text == "no such file or directory" then some Fault.fileMissing else none
  .cause kind (op ++ " " ++ p.text ++ ": " ++ text)

def Tree.has (t : Tree) (p : Path) : Bool :=
  match t.find p with
  | .directory | .file _ => true
  | _ => false

/-- Reads a whole file. -/
def Tree.read (t : Tree) (p : Path) : Except Failure ByteArray :=
  match t.find p with
  | .missing => .error (refusal "open" p "no such file or directory")
  | .underFile => .error (refusal "open" p "not a directory")
  | .directory => .error (refusal "read" p "is a directory")
  | .file data => .ok data

def Tree.put (t : Tree) (p : Path) (n : Node) : Tree :=
  if t.nodes.any (·.1 == p) then { nodes := t.nodes.map fun e => if e.1 == p then (p, n) else e }
  else { nodes := t.nodes ++ [(p, n)] }

/-- Creates a directory and its missing ancestors. -/
def Tree.makeDirectories (t : Tree) (p : Path) : Except Failure Tree :=
  let prefixes := (List.range p.length).map fun k => p.take (k + 1)
  prefixes.foldlM (fun acc q =>
    match acc.node q with
    | some .directory => .ok acc
    | some (.file _) => .error (refusal "mkdir" q "not a directory")
    | none => .ok (acc.put q .directory)) t

/-- Writes a file whose directory exists, creating or replacing it. -/
def Tree.write (t : Tree) (p : Path) (data : ByteArray) : Except Failure Tree :=
  match t.find p with
  | .missing =>
    match t.find p.dropLast with
    | .directory => .ok (t.put p (.file data))
    | _ => .error (refusal "open" p "no such file or directory")
  | .underFile => .error (refusal "open" p "not a directory")
  | .directory => .error (refusal "open" p "is a directory")
  | .file _ => .ok (t.put p (.file data))

def Tree.place (t : Tree) (p : Path) (data : ByteArray) : Except Failure Tree := do
  let t ← t.makeDirectories p.dropLast
  t.write p data

def Path.split (p : Path) : Path × String := (p.dropLast, p.getLast?.getD "$DIR")

def Tree.remove (t : Tree) (p : Path) : Tree := { nodes := t.nodes.filter (·.1 != p) }

/-- A call of an atomic write that the system refuses, with the system's text. -/
inductive WriteFault where
  /-- Writing the temporary file stops after `written` octets. -/
  | write (written : Nat) (text : String)
  /-- Flushing the temporary file to the disk fails. -/
  | sync (text : String)
  /-- Closing the temporary file fails. -/
  | close (text : String)
  /-- Renaming the temporary file over the target fails. -/
  | rename (text : String)

/-- How the system's texts show the temporary file of an atomic write of `p`: by its pattern. -/
def Path.tempPattern (p : Path) : String :=
  let (dir, name) := p.split
  dir.text ++ "/.tmp-" ++ name ++ "-*"

/-- The failure of an atomic write of `p` whose call `f` the system refused. -/
def WriteFault.failure (p : Path) : WriteFault → Failure
  | .write _ text => .plain ("write " ++ p.tempPattern ++ ": " ++ text)
  | .sync text => .plain ("sync " ++ p.tempPattern ++ ": " ++ text)
  | .close text => .plain ("close " ++ p.tempPattern ++ ": " ++ text)
  | .rename text => .plain ("rename " ++ p.tempPattern ++ " " ++ p.text ++ ": " ++ text)

/-- What the temporary file holds when the system refuses the call `f`: the octets written. -/
def WriteFault.left (data : ByteArray) : WriteFault → ByteArray
  | .write written _ => data.extract 0 written
  | _ => data

/-- The path of the temporary file of an atomic write of `p`: beside `p`, named after it, with a
suffix of figures longer than any name in the tree, so that nothing is at that path. -/
def Tree.tempFor (t : Tree) (p : Path) : Path :=
  let (dir, name) := p.split
  let longest := t.nodes.foldr (fun e n => (e.1.getLast?.getD "").length + n) 0
  dir ++ [".tmp-" ++ name ++ "-" ++ String.ofList (List.replicate (longest + 1) '0')]

/-- Writes a file by way of a temporary file in its directory renamed over it, as the steps the
module doc lists; `fault` is the call the system refuses, if any. The outcome comes with the tree
the write leaves, the temporary file removed. -/
def Tree.replace (t : Tree) (p : Path) (data : ByteArray) (fault : Option WriteFault := none) :
    Except Failure Unit × Tree :=
  match t.find p.dropLast with
  | .missing =>
    (.error (.cause (some .fileMissing) ("open " ++ p.tempPattern ++ ": no such file or directory")), t)
  | .underFile | .file _ => (.error (.plain ("open " ++ p.tempPattern ++ ": not a directory")), t)
  | .directory =>
    let temp := t.tempFor p
    let created := t.put temp (.file .empty)
    let (outcome, left) : Except Failure Unit × Tree := match fault with
      | some f => (.error (f.failure p), created.put temp (.file (f.left data)))
      | none =>
        let written := created.put temp (.file data)
        match written.find p with
        | .directory => (.error (.plain ("rename " ++ p.tempPattern ++ " " ++ p.text ++ ": file exists")), written)
        | _ => (.ok (), (written.put p (.file data)).remove temp)
    -- the deferred removal of the temporary file, which finds nothing after a rename
    (outcome, left.remove temp)

/-- The entries of a directory by name, each with whether it is a directory. -/
def Tree.list (t : Tree) (dir : Path) : List (String × Bool) :=
  let inside := t.nodes.filterMap fun (q, n) =>
    if q.length == dir.length + 1 && q.take dir.length == dir then
      some (q.getLast?.getD "", match n with | .directory => true | .file _ => false)
    else none
  inside.mergeSort fun a b => decide (a.1 ≤ b.1)

end RaceArchive.Files
