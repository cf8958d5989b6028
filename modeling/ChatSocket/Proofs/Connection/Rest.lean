import ChatSocket.Proofs.Connection.Exits

/-!
# Rest

A connection is at rest when nothing can happen in it any more until its handles, the far side, the
transport or the clock do something.  `atRest_iff` tells this from its state.
-/

set_option autoImplicit false

namespace ChatSocket.Connection.System

/-- Neither a timer nor the loop changes anything by itself. -/
structure AtRest (system : System) : Prop where
  fire : ∀ kind, system.step (.fire kind) = system
  takeTick : system.step .takeTick = system
  takeCommand : system.step .takeCommand = system
  abandon : system.step .abandon = system
  deadline : system.step .deadline = system
  expire : system.step .expire = system

theorem taken_of_passed (system : System) (idle : system.loop.phase = .idle)
    (passed : system.deadline ≤ system.now) : system.stimulus? .deadline = some .deadline :=
  (stimulus?_eq_some_iff system .deadline .deadline).mpr ⟨idle, by simp [offer?, passed]⟩

section AtRest

variable (system : System) (resting : system.AtRest)

include resting

theorem early_of_due (kind : TimerKind) (due : Instant)
    (waits : (system.loop.slot kind).due? = some due) : system.now < due := by
  have still := congrArg System.ticks (resting.fire kind)
  by_contra passed
  obtain ⟨timer, held, waits⟩ := Option.bind_eq_some_iff.mp waits
  simp [step, Connection.System.fire, Slot.fire, held, waits, Nat.le_of_not_lt passed] at still

theorem early_of_limit (limit : Instant) (limited : system.loop.limit? = some limit) :
    system.now < limit := by
  obtain ⟨beat, writing⟩ := (limit?_eq_some_iff system.loop limit).mp limited
  by_contra passed
  have given := step_of_passed system beat limit writing (Nat.le_of_not_lt passed)
  rw [resting.expire, expire_of_writing _ beat limit writing] at given
  have running := Loop.isStopped_of_errand system.loop _ writing
  rw [given, Loop.isStopped_fail] at running
  cases running

variable (idle : system.loop.phase = .idle)

include idle

theorem ticks_of_atRest : system.ticks = [] := by
  have still := congrArg System.ticks resting.takeTick
  cases ticks : system.ticks with
  | nil => rfl
  | cons tick rest =>
      simp [step, Connection.System.takeTick, ticks, handle, system.loop.isIdle_iff.mpr idle]
        at still

theorem commands_of_atRest : system.commands = [] := by
  have still := congrArg System.commands resting.takeCommand
  cases commands : system.commands with
  | nil => rfl
  | cons command rest =>
      simp [step, Connection.System.takeCommand, commands, handle,
        system.loop.isIdle_iff.mpr idle] at still

omit resting in
/-- No stimulus that would stop the loop is left over. -/
theorem running_of_atRest (move : Move) (stimulus : Stimulus)
    (still : system.step move = system) (taken : system.stimulus? move = some stimulus) :
    (system.loop.react system.now stimulus).isStopped = false := by
  rw [← step_of_taken system move stimulus taken, still]
  simp [Loop.isStopped, idle]

theorem handles_of_atRest : system.handles ≠ 0 := by
  intro unheld
  have taken : system.stimulus? .abandon = some .abandoned :=
    (stimulus?_eq_some_iff system .abandon _).mpr
      ⟨idle, by simp [offer?, unheld, commands_of_atRest system resting idle]⟩
  have running := running_of_atRest system idle .abandon _ resting.abandon taken
  rw [Loop.react, Loop.isStopped_stop] at running
  cases running

theorem decided_of_atRest (passed : system.deadline ≤ system.now) :
    system.loop.readiness.isPending = false := by
  by_contra pending
  have taken := taken_of_passed system idle passed
  have running := running_of_atRest system idle .deadline _ resting.deadline taken
  rw [Loop.react, Loop.onDeadline, if_pos (by simpa using pending), Loop.isStopped_fail] at running
  cases running

end AtRest

theorem atRest_iff (system : System) :
    system.AtRest ↔
      (∀ kind ∈ allKinds, ∀ due ∈ (system.loop.slot kind).due?, system.now < due) ∧
        (∀ limit ∈ system.loop.limit?, system.now < limit) ∧
        (system.loop.isIdle = true → system.ticks = [] ∧ system.commands = [] ∧
          system.handles ≠ 0 ∧
          (system.deadline ≤ system.now → system.loop.readiness.isPending = false)) := by
  constructor
  · intro resting
    refine ⟨fun kind _ => early_of_due system resting kind, early_of_limit system resting, ?_⟩
    intro waits
    have idle := system.loop.isIdle_iff.mp waits
    exact ⟨ticks_of_atRest system resting idle, commands_of_atRest system resting idle,
      handles_of_atRest system resting idle, decided_of_atRest system resting idle⟩
  · rintro ⟨dues, limits, waits⟩
    have untaken : ∀ move, (system.loop.isIdle = true → system.offer? move = none) →
        system.stimulus? move = none := by
      intro move unoffered
      rw [stimulus?]
      split
      · rename_i idle
        exact unoffered idle
      · rfl
    refine ⟨?_, ?_, ?_, ?_, ?_, ?_⟩
    · intro kind
      have silent : ((system.loop.slot kind).fire system.now).1 = none := by
        by_contra posts
        obtain ⟨generation, posted⟩ := Option.ne_none_iff_exists'.mp posts
        obtain ⟨timer, due, held, waits, reached, _⟩ := Slot.fire_some _ generation _ posted
        have early := dues kind (by cases kind <;> decide) due (by simp [Slot.due?, held, waits])
        exact Nat.not_le_of_lt early reached
      rw [step_fire, silent]
    · refine step_of_untaken system _ (untaken _ fun idle => ?_) rfl
      simp [offer?, (waits idle).1]
    · refine step_of_untaken system _ (untaken _ fun idle => ?_) rfl
      simp [offer?, (waits idle).2.1]
    · refine step_of_untaken system _ (untaken _ fun idle => ?_) rfl
      simp [offer?, (waits idle).2.2.1]
    · cases taken : system.stimulus? .deadline with
      | none => exact step_of_untaken system _ taken rfl
      | some stimulus =>
          obtain ⟨idle, offered⟩ := (stimulus?_eq_some_iff system _ _).mp taken
          have passed := (Option.ite_none_right_eq_some.mp offered).1
          have idle := system.loop.isIdle_iff.mpr idle
          have decided := (waits idle).2.2.2 passed
          simp [step, passed, handle, Loop.handle, idle, Loop.react, Loop.onDeadline, decided]
    · have early : system.loop.limit?.any (· ≤ system.now) = false := by
        refine Bool.eq_false_iff.mpr fun late => ?_
        obtain ⟨limit, limited, passed⟩ := (Option.any_eq_true _ _).mp late
        exact Nat.not_le_of_lt (limits limit limited) (by simpa using passed)
      simp [step, early]

instance (system : System) : Decidable system.AtRest :=
  decidable_of_iff _ (atRest_iff system).symm

end ChatSocket.Connection.System
