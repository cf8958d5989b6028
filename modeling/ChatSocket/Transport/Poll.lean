/-!
# Looking into a queue
-/

set_option autoImplicit false

namespace ChatSocket

/-- What one look into a queue shows. -/
inductive Poll (α : Type) where
  /-- The next item, which is taken out. -/
  | ready (value : α)
  /-- There will be nothing more. -/
  | ended
  /-- There is nothing yet. -/
  | pending
  deriving DecidableEq, Repr

namespace Poll

def map {α β : Type} (f : α → β) : Poll α → Poll β
  | .ready value => .ready (f value)
  | .ended => .ended
  | .pending => .pending

end Poll

end ChatSocket
