/-!
# Results of steps

What reads something in steps succeeds exactly if every step does.
-/

set_option autoImplicit false

namespace ChatSocket

theorem bind_ok_iff {Fault First Second : Type} (first : Except Fault First)
    (next : First → Except Fault Second) (value : Second) :
    first >>= next = .ok value ↔ ∃ between, first = .ok between ∧ next between = .ok value := by
  cases first <;> simp [bind, Except.bind]

end ChatSocket
