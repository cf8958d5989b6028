import ChatSocket.Error

/-!
# Readiness

A connection becomes ready, or fails to, once: the first outcome stays.
-/

set_option autoImplicit false

namespace ChatSocket.Connection

/-- Why a connection counts as ready. -/
inductive ReadyReason where
  /-- The endpoint said so. -/
  | signal
  /-- Some time passed after the namespace was joined. -/
  | assumedAfterTimeout
  /-- The namespace was joined. -/
  | assumedAtOnce
  deriving DecidableEq, Repr

def ReadyReason.message : ReadyReason → String
  | .signal => "endpoint ready signal"
  | .assumedAfterTimeout => "assumed ready after timeout"
  | .assumedAtOnce => "assumed ready without timeout"

/-- The outcome, once there is one. -/
structure Readiness where
  outcome : Option (Except Error ReadyReason)

namespace Readiness

def pending : Readiness := ⟨none⟩

def isPending (readiness : Readiness) : Bool := readiness.outcome.isNone

def isReady (readiness : Readiness) : Bool :=
  match readiness.outcome with
  | some (.ok _) => true
  | _ => false

/-- Decides the outcome unless it is decided. -/
def complete (outcome : Except Error ReadyReason) (readiness : Readiness) : Readiness :=
  match readiness.outcome with
  | none => ⟨some outcome⟩
  | some _ => readiness

end Readiness

end ChatSocket.Connection
