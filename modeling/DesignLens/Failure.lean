import DesignLens.Source.Fault

/-!
# Failures

An operation that cannot go on fails with a message and a kind. Callers go by the kind when they
decide which failures to live with.
-/

namespace DesignLens

/-- What the file system objects to. -/
inductive SystemCause where
  | missing
  | alreadyThere
  | notFolder
  | isFolder
  | nameTooLong
  deriving DecidableEq, Repr

inductive FailureKind where
  /-- A text is not a program. -/
  | malformed (kind : Source.FaultKind)
  | noAttribute
  | wrongType
  | badValue
  | noKey
  /-- Bytes are not a text. -/
  | undecodable
  /-- The file system refuses, for one of the known causes or for another one. -/
  | system (cause : Option SystemCause)
  /-- A process that was expected to succeed did not. -/
  | processFailed
  /-- The user interrupts the program. -/
  | interrupted
  /-- Any other kind, by name. -/
  | named (name : String)
  deriving DecidableEq, Repr

structure Failure where
  kind : FailureKind
  message : String
  deriving DecidableEq, Repr

/-- Bytes that are not a text are one sort of bad value. -/
def FailureKind.isBadValue : FailureKind → Bool
  | .badValue | .undecodable => true
  | _ => false

def FailureKind.isSystem : FailureKind → Bool
  | .system _ => true
  | _ => false

def FailureKind.isMalformed : FailureKind → Bool
  | .malformed _ => true
  | _ => false

/-- An interruption by the user is no failure that an operation may handle. -/
def FailureKind.isHandled : FailureKind → Bool
  | .interrupted => false
  | _ => true

namespace Failure

def wrongType (message : String) : Failure := ⟨.wrongType, message⟩

def badValue (message : String) : Failure := ⟨.badValue, message⟩

def noAttribute (message : String) : Failure := ⟨.noAttribute, message⟩

/-- Goes on with something else after a failure that may be handled. -/
def handle {α : Type} (other : Failure → α) : Except Failure α → Except Failure α
  | .ok a => .ok a
  | .error f => if f.kind.isHandled then .ok (other f) else .error f

def ofFault (fault : Source.Fault) : Failure := ⟨.malformed fault.cause.kind, fault.message⟩

end Failure

end DesignLens
