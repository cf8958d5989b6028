import ChatSocket.Proofs.Connection.Coherence

/-!
# How loops end

`Stops` compares a loop that stops with the loop before: what was decided, what was
asked of the transport, what became of the output.  From then on nothing is added:
`stopped_run` shows that the cause, the calls and readiness stay what they are in
every run.
-/

set_option autoImplicit false

namespace ChatSocket.Connection

namespace Loop

/-- The cause of the stop, once there is one. -/
def ending? (loop : Loop) : Option (Option Error) :=
  match loop.phase with
  | .closing _ exit => some exit.cause
  | .ended => loop.output.closing
  | .idle | .sending .. | .flushing _ => none

/-- Nothing has become of the loop yet that others could see. -/
structure Alike (before between : Loop) : Prop where
  calls : between.calls = before.calls
  readiness : between.readiness = before.readiness
  output : between.output = before.output
  unfinished : before.lifecycle.isTerminal = false → between.lifecycle.isTerminal = false

/-- The loop stops in a certain way, perhaps after it has noted that a frame came, that a tick
was used up or that a request failed. -/
def Stops (exit : Exit) (before after : Loop) : Prop :=
  ∃ between, Alike before between ∧ after = between.stop exit

theorem alike_self (loop : Loop) : Alike loop loop := ⟨rfl, rfl, rfl, id⟩

theorem isStopped_stop (exit : Exit) (loop : Loop) : (loop.stop exit).isStopped = true := by
  obtain ⟨cause, farewell, ticket⟩ := exit
  cases farewell <;> rfl

theorem isStopped_fail (cause : Error) (farewell : Option CloseReason) (loop : Loop) :
    (loop.fail cause farewell).isStopped = true :=
  isStopped_stop ⟨some cause, farewell, none⟩ loop

theorem stop_stops (exit : Exit) (loop : Loop) : Stops exit loop (loop.stop exit) :=
  ⟨loop, alike_self loop, rfl⟩

theorem Stops.phase (exit : Exit) (before after : Loop) (stops : Stops exit before after) :
    after.phase =
      match exit.farewell with
      | some reason => .closing reason exit
      | none => .ended := by
  obtain ⟨between, alike, rfl⟩ := stops
  obtain ⟨cause, farewell, ticket⟩ := exit
  cases farewell <;> rfl

theorem Stops.calls (exit : Exit) (before after : Loop) (stops : Stops exit before after) :
    after.calls = before.calls ++ (exit.farewell.map Call.close).toList := by
  obtain ⟨between, alike, rfl⟩ := stops
  obtain ⟨cause, farewell, ticket⟩ := exit
  rw [← alike.calls]
  cases farewell with
  | none => exact (List.append_nil _).symm
  | some reason => rfl

theorem Stops.readiness (exit : Exit) (before after : Loop) (stops : Stops exit before after) :
    after.readiness =
      before.readiness.complete (.error (exit.cause.getD .connectionClosed)) := by
  obtain ⟨between, alike, rfl⟩ := stops
  obtain ⟨cause, farewell, ticket⟩ := exit
  rw [← alike.readiness]
  cases farewell <;> rfl

theorem Stops.output (exit : Exit) (before after : Loop) (stops : Stops exit before after) :
    after.output =
      if exit.farewell.isSome then before.output else before.output.close exit.cause := by
  obtain ⟨between, alike, rfl⟩ := stops
  obtain ⟨cause, farewell, ticket⟩ := exit
  rw [← alike.output]
  cases farewell <;> rfl

theorem Stops.isStopped (exit : Exit) (before after : Loop) (stops : Stops exit before after) :
    after.isStopped = true := by
  obtain ⟨between, _, rfl⟩ := stops
  exact isStopped_stop exit between

theorem Stops.ending? (exit : Exit) (before after : Loop) (stops : Stops exit before after)
    (unclosed : before.output.closing = none) : after.ending? = some exit.cause := by
  have phase := stops.phase _ _ _
  have output := stops.output _ _ _
  cases farewell : exit.farewell with
  | none =>
      rw [farewell] at phase output
      have closed := close_closing exit.cause before.output unclosed
      simp [Loop.ending?, phase, output, closed]
  | some reason =>
      rw [farewell] at phase
      simp [Loop.ending?, phase]

/-- What a stopped loop keeps. -/
structure Keeps (before after : Loop) : Prop where
  stopped : after.isStopped = true
  ending : after.ending? = before.ending?
  calls : after.calls = before.calls
  readiness : after.readiness = before.readiness

theorem Keeps.trans (first second third : Loop) (earlier : Keeps first second)
    (later : Keeps second third) : Keeps first third where
  stopped := later.stopped
  ending := later.ending.trans earlier.ending
  calls := later.calls.trans earlier.calls
  readiness := later.readiness.trans earlier.readiness

theorem keeps_self (loop : Loop) (stopped : loop.isStopped = true) : Keeps loop loop :=
  ⟨stopped, rfl, rfl, rfl⟩

theorem keeps_fired (now : Instant) (kind : TimerKind) (loop : Loop)
    (stopped : loop.isStopped = true) :
    Keeps loop (loop.setSlot kind ((loop.slot kind).fire now).2) := by
  refine ⟨?_, ?_, calls_setSlot _ _ loop, readiness_setSlot _ _ loop⟩
  · rw [isStopped, phase_setSlot]
    exact stopped
  · rw [ending?, phase_setSlot, output_setSlot]
    rfl

theorem not_errand_of_stopped (loop : Loop) (errand : Errand) (stopped : loop.isStopped = true)
    (writing : loop.phase.errand? = some errand) : False := by
  rw [isStopped_of_errand loop errand writing] at stopped
  cases stopped

/-- A stopped loop can only finish. -/
theorem keeps_resumed (now : Instant) (result : Except Error Unit) (loop after : Loop)
    (coherent : Coherent loop) (stopped : loop.isStopped = true)
    (resumed : Resumed now loop result after) : Keeps loop after := by
  -- Nothing is being written any more, so the answer is to the close of the transport.
  have notConcluding : ∀ errand, ¬ loop.Concluding errand := fun errand concluding =>
    not_errand_of_stopped loop errand stopped (errand?_of_concluding errand loop concluding)
  cases resumed with
  | sent frame errand sending => simp [isStopped, sending] at stopped
  | answeredPing concluding => exact absurd concluding (notConcluding _)
  | acknowledged packet after concluding noted => exact absurd concluding (notConcluding _)
  | pinged beat limit concluding unarmed => exact absurd concluding (notConcluding _)
  | pingedAgain beat limit concluding armed => exact absurd concluding (notConcluding _)
  | served ticket concluding => exact absurd concluding (notConcluding _)
  | requestFailed error ticket writing => exact (not_errand_of_stopped loop _ stopped writing).elim
  | failed error errand writing unasked => exact (not_errand_of_stopped loop _ stopped writing).elim
  | closed reason exit result closing =>
      obtain ⟨_, unclosed, _⟩ := coherent.closing reason exit closing
      refine ⟨rfl, ?_, rfl, rfl⟩
      rw [ending?, ending?, closing]
      exact close_closing exit.cause loop.output unclosed
  | unmoved result still => exact keeps_self loop stopped

end Loop

namespace System

theorem keeps_stepped (system : System) (move : Move) (after : Loop)
    (coherent : system.loop.Coherent) (stopped : system.loop.isStopped = true)
    (stepped : Stepped system move after) : Loop.Keeps system.loop after := by
  cases stepped with
  | took move stimulus after taken reacted =>
      have idle := ((stimulus?_eq_some_iff system move stimulus).mp taken).1
      simp [Loop.isStopped, idle] at stopped
  | fired kind => exact Loop.keeps_fired _ kind _ stopped
  | answered result after resumed =>
      exact Loop.keeps_resumed _ result _ after coherent stopped resumed
  | expired beat limit writing passed =>
      exact (Loop.not_errand_of_stopped _ _ stopped writing).elim
  | still move untaken => exact Loop.keeps_self _ stopped

/-- A loop that still runs has not been stopped before. -/
theorem running_of_step (system : System) (move : Move) (coherent : system.loop.Coherent)
    (running : (system.step move).loop.isStopped = false) : system.loop.isStopped = false := by
  cases before : system.loop.isStopped with
  | false => rfl
  | true =>
      have keeps := keeps_stepped system move _ coherent before (step_stepped system move)
      cases running.symm.trans keeps.stopped

theorem stopped_run (system : System) (moves : List Move) (coherent : system.loop.Coherent)
    (stopped : system.loop.isStopped = true) :
    Loop.Keeps system.loop (system.run moves).loop := by
  refine And.right (run_invariant
    (fun later => later.loop.Coherent ∧ Loop.Keeps system.loop later.loop) system moves
    ⟨coherent, Loop.keeps_self _ stopped⟩ ?_)
  rintro later move ⟨laterCoherent, keeps⟩
  have stepped := step_stepped later move
  exact ⟨Loop.coherent_stepped later move _ laterCoherent stepped,
    keeps.trans _ _ _ (keeps_stepped later move _ laterCoherent keeps.stopped stepped)⟩

end System

end ChatSocket.Connection
