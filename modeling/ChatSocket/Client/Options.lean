import ChatSocket.Duration
import ChatSocket.Error

/-!
# Options of a connection
-/

set_option autoImplicit false

namespace ChatSocket

/-- When an endpoint counts as ready although it did not say so. -/
inductive ReadinessPolicy where
  /-- Only its own word counts. -/
  | never
  /-- As soon as the namespace is joined. -/
  | immediate
  /-- A span of time after the namespace was joined. -/
  | after (span : Duration)
  deriving DecidableEq, Repr

namespace ReadinessPolicy

/-- A negative count stands for never, zero for at once. -/
def ofMillis (millis : Int64) : ReadinessPolicy :=
  if millis < 0 then .never
  else if millis = 0 then .immediate
  else .after (.ofMillis millis.toInt.toNat)

def ofDuration (span : Duration) : ReadinessPolicy :=
  if span.isZero then .immediate else .after span

end ReadinessPolicy

structure ConnectOptions where
  /-- How long a connection may take until it is ready. -/
  connectTimeout : Duration
  readiness : ReadinessPolicy
  /-- Whether events that ask for an acknowledgement get one. -/
  acknowledge : Bool
  deriving DecidableEq, Repr

namespace ConnectOptions

def default : ConnectOptions := ⟨.ofMillis 2000, .never, false⟩

def validate (options : ConnectOptions) : Except Error Unit :=
  if options.connectTimeout.isZero then .error (.config "connect timeout must be positive")
  else .ok ()

end ConnectOptions

end ChatSocket
