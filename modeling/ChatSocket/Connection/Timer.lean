import ChatSocket.Duration

/-!
# Timers

A slot holds at most one timer.  A timer posts ticks, which may be looked at much
later; each tick carries the generation of its timer.  Every timer that is
started gets a generation of its own, so a tick of a timer that was replaced or
cancelled meanwhile is known as stale.
-/

set_option autoImplicit false

namespace ChatSocket.Connection

inductive TimerKind where
  | ping
  | pong
  | readiness
  deriving DecidableEq, Repr

structure Tick where
  kind : TimerKind
  generation : Nat
  deriving DecidableEq, Repr

structure Timer where
  generation : Nat
  /-- When it fires next; a timer that fires once has no more to do afterwards. -/
  due : Option Instant
  /-- After how many clock ticks it fires again. -/
  period : Option Nat
  deriving DecidableEq, Repr

structure Slot where
  current : Option Timer
  /-- The generation that was given out last. -/
  generation : Nat
  deriving DecidableEq, Repr

namespace Slot

def empty : Slot := ⟨none, 0⟩

def install (due : Instant) (period : Option Nat) (slot : Slot) : Slot :=
  ⟨some ⟨slot.generation + 1, some due, period⟩, slot.generation + 1⟩

/-- Starts a timer that fires once, in place of any other. -/
def once (now : Instant) (delay : Duration) (slot : Slot) : Slot :=
  slot.install (delay.after now) none

/-- A period lasts one clock tick at least. -/
def periodOf (span : Duration) : Nat := max 1 (span.after 0)

/-- Starts a timer that fires after every period, in place of any other. -/
def every (now : Instant) (period : Duration) (slot : Slot) : Slot :=
  slot.install (now + periodOf period) (some (periodOf period))

/-- Takes the timer out.  What it has posted already becomes stale. -/
def cancel (slot : Slot) : Slot :=
  match slot.current with
  | some _ => ⟨none, slot.generation + 1⟩
  | none => slot

def isArmed (slot : Slot) : Bool := slot.current.isSome

/-- Whether a tick of this generation comes from the timer in the slot. -/
def isLive (generation : Nat) (slot : Slot) : Bool :=
  slot.current.any (·.generation == generation)

/-- Looks at a tick.  A live one of a timer that fires once uses the timer up; a
stale one changes nothing. -/
def accept (generation : Nat) (oneShot : Bool) (slot : Slot) : Bool × Slot :=
  let live := slot.isLive generation
  (live, if live && oneShot then { slot with current := none } else slot)

def due? (slot : Slot) : Option Instant := slot.current.bind Timer.due

/-- Fires the timer if it is due: answers the generation of its tick. -/
def fire (now : Instant) (slot : Slot) : Option Nat × Slot :=
  match slot.current with
  | some timer =>
      match timer.due with
      | some due =>
          if due ≤ now then
            (some timer.generation,
              { slot with current := some { timer with due := timer.period.map (due + ·) } })
          else (none, slot)
      | none => (none, slot)
  | none => (none, slot)

/-! ## Live generations -/

theorem isLive_iff (generation : Nat) (slot : Slot) :
    slot.isLive generation = true ↔
      ∃ timer, slot.current = some timer ∧ timer.generation = generation := by
  cases held : slot.current <;> simp [isLive, held]

theorem isLive_unique (slot : Slot) (first second : Nat) (firstLive : slot.isLive first = true)
    (secondLive : slot.isLive second = true) : first = second := by
  obtain ⟨timer, held, rfl⟩ := (isLive_iff first slot).mp firstLive
  obtain ⟨other, heldToo, rfl⟩ := (isLive_iff second slot).mp secondLive
  rw [held] at heldToo
  cases heldToo
  rfl

theorem isLive_install (due : Instant) (period : Option Nat) (generation : Nat) (slot : Slot) :
    (slot.install due period).isLive generation = true ↔
      generation = (slot.install due period).generation := by
  simp only [install, isLive, Option.any_some, beq_iff_eq]
  exact eq_comm

theorem isLive_cancel (generation : Nat) (slot : Slot) : slot.cancel.isLive generation = false := by
  cases held : slot.current <;> simp [cancel, isLive, held]

theorem accept_stale (generation : Nat) (oneShot : Bool) (slot : Slot)
    (stale : slot.isLive generation = false) : slot.accept generation oneShot = (false, slot) := by
  simp [accept, stale]

theorem accept_used (generation : Nat) (slot : Slot) (live : slot.isLive generation = true) :
    slot.accept generation true = (true, { slot with current := none }) := by
  simp [accept, live]

theorem accept_kept (generation : Nat) (slot : Slot) :
    slot.accept generation false = (slot.isLive generation, slot) := by
  simp [accept]

theorem fire_of_none (now : Instant) (slot : Slot) (silent : (slot.fire now).1 = none) :
    (slot.fire now).2 = slot := by
  simp only [fire] at silent ⊢
  split
  · split
    · split
      · simp_all
      · rfl
    · rfl
  · rfl

/-- A timer fires when it is due, and then has a period to go or nothing more to do. -/
theorem fire_some (now : Instant) (generation : Nat) (slot : Slot)
    (posted : (slot.fire now).1 = some generation) :
    ∃ timer due, slot.current = some timer ∧ timer.due = some due ∧ due ≤ now ∧
      generation = timer.generation ∧
      (slot.fire now).2 =
        { slot with current := some { timer with due := timer.period.map (due + ·) } } := by
  cases held : slot.current with
  | none => simp [fire, held] at posted
  | some timer =>
      cases waiting : timer.due with
      | none => simp [fire, held, waiting] at posted
      | some due =>
          by_cases reached : due ≤ now
          · simp only [fire, held, waiting, reached, if_true, Option.some.injEq] at posted ⊢
            exact ⟨timer, due, rfl, waiting, reached, posted.symm, rfl⟩
          · simp [fire, held, waiting, reached] at posted

theorem isLive_fire (now : Instant) (generation : Nat) (slot : Slot) :
    (slot.fire now).2.isLive generation = slot.isLive generation := by
  simp only [fire]
  split
  · rename_i timer held
    split
    · split
      · simp [isLive, held]
      · rfl
    · rfl
  · rfl

theorem isLive_of_fire (now : Instant) (generation : Nat) (slot : Slot)
    (posted : (slot.fire now).1 = some generation) : slot.isLive generation = true := by
  obtain ⟨timer, _, held, _, _, rfl, _⟩ := fire_some now generation slot posted
  exact (isLive_iff timer.generation slot).mpr ⟨timer, held, rfl⟩

/-! ## Armed slots -/

theorem isArmed_of_isLive (generation : Nat) (slot : Slot)
    (live : slot.isLive generation = true) : slot.isArmed = true := by
  obtain ⟨timer, held, _⟩ := (isLive_iff generation slot).mp live
  simp [isArmed, held]

theorem isArmed_cancel (slot : Slot) : slot.cancel.isArmed = false := by
  cases held : slot.current <;> simp [cancel, isArmed, held]

theorem fire_of_unarmed (now : Instant) (slot : Slot) (unarmed : slot.isArmed = false) :
    (slot.fire now).2 = slot := by
  have empty : slot.current = none := by simpa [isArmed] using unarmed
  simp [fire, empty]

theorem isArmed_fire (now : Instant) (slot : Slot) : (slot.fire now).2.isArmed = slot.isArmed := by
  simp only [fire, isArmed]
  split
  · rename_i timer held
    split
    · split
      · simp [held]
      · rfl
    · rfl
  · rfl

/-! ## Generations that were given out -/

theorem generation_cancel (slot : Slot) :
    slot.generation ≤ slot.cancel.generation ∧
      slot.cancel.generation ≤ slot.generation + 1 := by
  cases held : slot.current <;> simp [cancel, held]

theorem generation_accept (generation : Nat) (oneShot : Bool) (slot : Slot) :
    (slot.accept generation oneShot).2.generation = slot.generation := by
  simp only [accept]
  split <;> rfl

theorem generation_fire (now : Instant) (slot : Slot) :
    (slot.fire now).2.generation = slot.generation := by
  simp only [fire]
  split
  · split
    · split <;> rfl
    · rfl
  · rfl

end Slot

end ChatSocket.Connection
