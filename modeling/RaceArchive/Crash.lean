/-!
# Crashes

A crash is a runtime fault that ends the whole run at once, unlike a failure, which the code that
meets it returns to its caller. Two faults can happen here: an index past the end of a buffer, and
a hash of a value that cannot be hashed, such as a mapping or a sequence used as a key. A loop whose
condition can no longer fail ends the run the same way for whoever waits on it: no answer comes.
-/

namespace RaceArchive

/-- A runtime fault that ends the run. -/
inductive Crash where
  /-- An index at or past the end of a buffer of the given length. -/
  | indexOutOfRange (index : Int) (length : Nat)
  /-- A slice of a buffer from a start past its length. -/
  | sliceOutOfRange (start length : Nat)
  /-- A value of the named type used where it must be hashed. -/
  | unhashable (typeName : String)
  /-- A loop that never ends, named by what it goes over. -/
  | endless (loop : String)
  deriving DecidableEq, Repr

/-- The message of a crash. -/
def Crash.message : Crash → String
  | .indexOutOfRange i n =>
    if i < 0 then "runtime error: index out of range [" ++ toString i ++ "]"
    else "runtime error: index out of range [" ++ toString i ++ "] with length " ++ toString n
  | .sliceOutOfRange s n =>
    "runtime error: slice bounds out of range [" ++ toString s ++ ":" ++ toString n ++ "]"
  | .unhashable t => "runtime error: hash of unhashable type " ++ t
  | .endless loop => loop ++ " never ends"

end RaceArchive
