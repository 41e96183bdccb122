import RaceArchive.Files
import RaceArchive.Codec.Zip
import RaceArchive.Decimal.Parse

/-!
# The session cache

Each fetched subsession result is kept as a zip archive `<id>.session.zip` in the session
directory, holding the payload as its one entry `session.json`; the reference snapshots (tracks
and cars) are kept as plain files in the reference directory. Files are written whole, by way of a
temporary file renamed over the target.

* A subsession is *cached* when anything is at its path.
* Reading a cached subsession opens its archive and reads its first entry. A missing file is
  "not cached"; any other problem names the step that failed: opening the archive, opening the
  entry, or reading it.
* Getting a subsession reads it when cached, and otherwise fetches it and caches it; without a
  way to fetch, an uncached subsession is refused.
* The cached ids are the names of the session directory that end in `.session.zip` and whose stem
  reads as a 64-bit integer, in numeric order; directories and other names are ignored.
-/

namespace RaceArchive.Cache

open Files

def sessionDir : Path := ["sessions"]

def referenceDir : Path := ["ref"]

def layout : Tree := { nodes := [(sessionDir, .directory), (referenceDir, .directory)] }

def suffix : String := ".session.zip"

def entryName : String := "session.json"

def tracksSnapshot : String := "tracks.json"

def carsSnapshot : String := "cars.json"

def pathOf (id : Int64) : Path := sessionDir ++ [toString id.toInt ++ suffix]

def has (t : Tree) (id : Int64) : Bool := t.has (pathOf id)

def notCached : Failure := .cause (some .notCached) "session not cached"

def archiveFailure (step : String) (p : Path) (problem : Zip.Problem) : Failure :=
  .within step (.plain (problem.message p.text))

/-- Reads a cached subsession. -/
def read (t : Tree) (id : Int64) : Except Failure ByteArray := do
  let n := toString id.toInt
  let p := pathOf id
  let raw ← match t.read p with
    | .ok raw => pure raw
    | .error f =>
      if f.isOf .fileMissing then throw (.wrap none ("subsession " ++ n ++ ": ") "" notCached)
      else throw (.within ("opening cached subsession " ++ n) f)
  let entries ← (Zip.entries raw).mapError (archiveFailure ("opening cached subsession " ++ n) p)
  let some e := entries[0]? | throw (.plain ("cached subsession " ++ n ++ ": empty archive"))
  let body ← (e.open raw).mapError
    (archiveFailure ("opening " ++ e.nameText ++ " of subsession " ++ n) p)
  (e.read raw body).mapError (archiveFailure ("reading cached subsession " ++ n) p)

/-- Gets a subsession: read when cached, else fetched with `fetch` and cached; `fault` is the call
of the archive's write that the system refuses, if any. The payload or the failure comes with the
tree after the get. -/
def getOrFetch {m : Type → Type} [Monad m] (fetch : Option (Int64 → m (Except Failure ByteArray)))
    (t : Tree) (id : Int64) (fault : Option WriteFault := none) : m (Except Failure ByteArray × Tree) := do
  let n := toString id.toInt
  if has t id then return (read t id, t)
  match fetch with
  | none => pure (.error (.wrap none ("subsession " ++ n ++ ": ") " and no fetcher configured" notCached), t)
  | some f =>
    match ← f id with
    | .error e => pure (.error e, t)
    | .ok data =>
      match t.replace (pathOf id) (Zip.write [(entryName, data)]) fault with
      | (.error e, t') => pure (.error (.within ("caching subsession " ++ n) e), t')
      | (.ok (), t') => pure (.ok data, t')

/-- The id named by an archive's file name, if it names one. -/
def idOfName (name : String) : Option Int64 :=
  if name.endsWith suffix then
    match Decimal.parseInt64 (String.ofList (name.toList.take (name.length - suffix.length))) with
    | .ok n => some (Int64.ofInt n)
    | .error _ => none
  else none

def ids (t : Tree) : List Int64 :=
  let named := (t.list sessionDir).filterMap fun (name, isDir) => if isDir then none else idOfName name
  named.mergeSort fun a b => decide (a ≤ b)

def uncached (t : Tree) (wanted : List Int64) : List Int64 := wanted.filter (!has t ·)

/-- Writes a reference snapshot; `fault` is the call the system refuses, if any. -/
def writeReference (t : Tree) (name : String) (data : ByteArray) (fault : Option WriteFault := none) :
    Except Failure Unit × Tree :=
  let (written, t') := t.replace (referenceDir.join name) data fault
  (written.mapError (.within ("writing reference snapshot " ++ name)), t')

def readReference (t : Tree) (name : String) : Except Failure ByteArray :=
  (t.read (referenceDir.join name)).mapError (.within ("reading reference snapshot " ++ name))

end RaceArchive.Cache
