import RaceArchive.Json.Read

/-!
# Failures

A failure is a cause with its message, possibly wrapped in the context of what was being done when
it happened, or several failures reported together. Each cause and each wrapping may carry the
kind of failure it is; a caller asks whether a failure is of a kind anywhere along its chain, so a
wrapped failure keeps every kind of what it wraps.

The message of a wrapping is its text before, the message of what it wraps, and its text after.
Failures reported together are their messages on separate lines.
-/

namespace RaceArchive

/-- The kinds of failure that callers tell apart. -/
inductive Fault where
  /-- A driver appears twice for one team in one session of a subsession. -/
  | duplicateResult
  /-- A field of a payload has a value that cannot be interpreted. -/
  | invalidField
  /-- A subsession is stored already. -/
  | duplicateSubsession
  /-- The results service refused the credentials. -/
  | authRejected
  /-- Rate-limited requests were retried as often as allowed. -/
  | retriesExhausted
  /-- The results service answered with an unexpected status. -/
  | serviceStatus
  /-- A response of the results service could not be interpreted. -/
  | badResponse
  /-- No driver matches a name. -/
  | driverNotFound
  /-- Several drivers match a name and none of them exactly. -/
  | ambiguousDriver
  /-- The configuration file does not exist. -/
  | configNotFound
  /-- The service credentials are not configured. -/
  | credentialsMissing
  /-- A subsession is not in the session cache. -/
  | notCached
  /-- A document is not well-formed. -/
  | malformedDocument
  /-- A document holds a value of the wrong kind. -/
  | documentMismatch
  /-- The database refused a statement. -/
  | database
  /-- A file does not exist. -/
  | fileMissing
  /-- The work was cancelled. -/
  | cancelled
  /-- A pause before a retry was refused. -/
  | pauseRefused
  deriving DecidableEq, Repr

/-- A failure and its chain of causes. -/
inductive Failure where
  /-- A cause, possibly of a kind, with its message. -/
  | cause (kind : Option Fault) (message : String)
  /-- A failure in context: text before and after its message, and possibly a kind of its own. -/
  | wrap (kind : Option Fault) (before after : String) (inner : Failure)
  /-- Several failures reported together. -/
  | join (parts : List Failure)
  deriving Repr, Inhabited

namespace Failure

def plain (message : String) : Failure := .cause none message

def within (context : String) (f : Failure) : Failure := .wrap none (context ++ ": ") "" f

mutual

def message : Failure → String
  | .cause _ m => m
  | .wrap _ before after inner => before ++ inner.message ++ after
  | .join parts => messageLines parts

/-- The texts of failures, one per line. -/
def messageLines : List Failure → String
  | [] => ""
  | [f] => f.message
  | f :: rest => f.message ++ "\n" ++ messageLines rest

end

mutual

def isOf (k : Fault) : Failure → Bool
  | .cause kind _ => kind == some k
  | .wrap kind _ _ inner => kind == some k || inner.isOf k
  | .join parts => anyOf k parts

/-- Whether one of several failures is of a kind. -/
def anyOf (k : Fault) : List Failure → Bool
  | [] => false
  | f :: rest => f.isOf k || anyOf k rest

end

/-- A decoding failure, as a failure with the document kinds. -/
def ofDecode : Json.DecodeError → Failure
  | .malformed m => .cause (some .malformedDocument) m.message
  | e@(.mismatch ..) => .cause (some .documentMismatch) e.message
  | .within context inner => within context (ofDecode inner)
  | .refused reason => plain reason

end Failure

end RaceArchive
