import ChatSocket.Proofs.Connection.ReadinessPolicy
import ChatSocket.Proofs.Connection.Rest

/-!
# The connect deadline

The loop looks at the deadline only while it waits for stimuli.  So a connection that has come
to rest after its deadline is decided, unless its loop still waits for the transport to write a
frame; `connect_deadline` says how long that lasts.
-/

set_option autoImplicit false

namespace ChatSocket.Connection

theorem Loop.decided_of_stopped (loop : Loop) (coherent : loop.Coherent)
    (stopped : loop.isStopped = true) : loop.readiness.isPending = false := by
  have decided : ∀ cause, Settled cause loop → loop.readiness.isPending = false := by
    intro cause settled
    rcases settled.decided with failed | ⟨reason, ready⟩
    · simp [Readiness.isPending, failed]
    · simp [Readiness.isPending, ready]
  cases phase : loop.phase with
  | closing reason exit => exact decided _ (coherent.closing reason exit phase).1
  | ended =>
      obtain ⟨cause, settled, _⟩ := coherent.ended phase
      exact decided cause settled
  | idle | sending | flushing => simp [isStopped, phase] at stopped

namespace System

theorem deadline_step (system : System) (move : Move) :
    (system.step move).deadline = system.deadline := by
  cases move with
  | fire kind =>
      simp only [step, fire]
      split <;> rfl
  | takeTick | takeCommand =>
      simp only [step, takeTick, takeCommand]
      split
      · split <;> rfl
      · rfl
  | elapse | submit | abandon | deadline | expire =>
      simp only [step]
      split <;> rfl
  | arrive | acquire | release | answer => rfl

theorem deadline_run (options : ConnectOptions) (moves : List Move) :
    ((start options).run moves).deadline = options.connectTimeout.after 0 :=
  run_invariant (fun system => system.deadline = options.connectTimeout.after 0) (start options)
    moves rfl (fun system move kept => (deadline_step system move).trans kept)

/-! ## The deadline is looked at -/

theorem step_deadline_of_pending (system : System) (idle : system.loop.phase = .idle)
    (passed : system.deadline ≤ system.now) (pending : system.loop.readiness.isPending = true) :
    (system.step .deadline).loop =
      system.loop.fail (.connectTimeout system.loop.options.connectTimeout.millis)
        (some .goingAway) := by
  rw [step_of_taken system _ _ (taken_of_passed system idle passed)]
  simp [Loop.react, Loop.onDeadline, pending]

/-- Whoever looks at the deadline when it is over is decided afterwards. -/
theorem decided_of_deadline (system : System) (coherent : system.loop.Coherent)
    (passed : system.deadline ≤ system.now)
    (free : system.loop.phase = .idle ∨ system.loop.isStopped = true) :
    (system.step .deadline).loop.readiness.isPending = false := by
  by_cases pending : system.loop.readiness.isPending = true
  · rcases free with idle | stopped
    · refine Loop.decided_of_stopped _ ?_ ?_
      · exact Loop.coherent_stepped system .deadline _ coherent (step_stepped system .deadline)
      · rw [step_deadline_of_pending system idle passed pending]
        exact Loop.isStopped_fail _ _ _
    · cases pending.symm.trans (Loop.decided_of_stopped _ coherent stopped)
  · obtain ⟨outcome, decided⟩ := decided_of_not_pending _ pending
    have after := decided_run outcome system [.deadline] decided
    exact Bool.eq_false_iff.mpr (Loop.not_pending_of_decided outcome _ after)

/-! ## The transport holds the loop -/

/-- The answer of the transport sets the loop free, or lets it flush what was sent. -/
theorem free_of_resumed (now : Instant) (loop after : Loop) (result : Except Error Unit)
    (errand : Errand) (writing : loop.phase.errand? = some errand)
    (resumed : Loop.Resumed now loop result after) :
    (∃ frame, loop.phase = .sending frame true errand ∧ after.phase = .flushing errand) ∨
      after.phase = .idle ∨ after.isStopped = true := by
  cases resumed with
  | sent frame other sending =>
      rw [sending] at writing
      cases writing
      exact Or.inl ⟨frame, sending, rfl⟩
  | answeredPing | pinged | pingedAgain | served => exact Or.inr (Or.inl rfl)
  | acknowledged packet after concluding noted =>
      rcases Loop.kept_of_noted _ _ after noted with ⟨cause, farewell, rfl⟩ | kept
      · exact Or.inr (Or.inr (Loop.isStopped_fail _ _ _))
      · exact Or.inr (Or.inl kept.phase)
  | requestFailed | failed => exact Or.inr (Or.inr (Loop.isStopped_fail _ _ _))
  | closed => exact Or.inr (Or.inr rfl)
  | unmoved result still =>
      cases phase : loop.phase <;> simp [phase, Phase.call?, Phase.errand?] at still writing

theorem errand_of_pending (system : System) (coherent : system.loop.Coherent)
    (resting : system.AtRest) (passed : system.deadline ≤ system.now)
    (pending : system.loop.readiness.isPending = true) :
    ∃ errand, system.loop.phase.errand? = some errand := by
  cases phase : system.loop.phase with
  | sending frame flush errand | flushing errand => exact ⟨errand, rfl⟩
  | idle => cases pending.symm.trans (decided_of_atRest system resting phase passed)
  | closing | ended =>
      have stopped : system.loop.isStopped = true := by simp [Loop.isStopped, phase]
      cases pending.symm.trans (Loop.decided_of_stopped _ coherent stopped)

/-- When the deadline is over, a loop that waits for stimuli can decide at once.  At rest only a
frame that is still to be written keeps a connection pending, a ping no longer than until it is
given up.  Then the answer of the transport sets the loop free, or it flushes what was sent. -/
theorem connect_deadline (options : ConnectOptions) (moves : List Move)
    (passed : options.connectTimeout.after 0 ≤ ((start options).run moves).now) :
    (((start options).run moves).loop.phase = .idle →
        ((start options).run moves).loop.readiness.isPending = true →
        ((start options).run (moves ++ [.deadline])).loop.readiness.outcome =
          some (.error (.connectTimeout options.connectTimeout.millis))) ∧
      (((start options).run moves).AtRest →
        ((start options).run moves).loop.phase.call? = none →
        ((start options).run moves).loop.readiness.isPending = false) ∧
      (((start options).run moves).AtRest →
        ((start options).run moves).loop.readiness.isPending = true →
        ∃ errand, ((start options).run moves).loop.phase.errand? = some errand ∧
          ∀ beat limit, errand = .heartbeat beat limit → ((start options).run moves).now < limit) ∧
      ∀ errand result, ((start options).run moves).loop.phase.errand? = some errand →
        (∃ frame, ((start options).run moves).loop.phase = .sending frame true errand ∧
            ((start options).run (moves ++ [.answer result])).loop.phase = .flushing errand) ∨
          ((start options).run (moves ++ [.answer result, .deadline])).loop.readiness.isPending =
            false := by
  have coherent := Loop.coherent_run options moves
  rw [← deadline_run options moves] at passed
  refine ⟨?_, ?_, ?_, ?_⟩
  · intro idle pending
    rw [run_append, step_deadline_of_pending _ idle passed pending, options_run]
    exact congrArg Readiness.outcome (Loop.complete_pending _ _ pending)
  · intro resting uncalled
    rw [Bool.eq_false_iff]
    intro pending
    obtain ⟨errand, writing⟩ := errand_of_pending _ coherent resting passed pending
    cases phase : ((start options).run moves).loop.phase <;>
      simp [phase, Phase.call?, Phase.errand?] at uncalled writing
  · intro resting pending
    obtain ⟨errand, writing⟩ := errand_of_pending _ coherent resting passed pending
    refine ⟨errand, writing, ?_⟩
    rintro beat limit rfl
    exact early_of_limit _ resting limit ((limit?_eq_some_iff _ limit).mpr ⟨beat, writing⟩)
  · intro errand result writing
    have answered : ((start options).run (moves ++ [.answer result])).loop =
        ((start options).run moves).loop.resume ((start options).run moves).now result := by
      rw [run_append, step]
    have free := free_of_resumed _ _ _ result errand writing
      (Loop.resume_resumed ((start options).run moves).now result _)
    rw [← answered] at free
    refine free.imp id fun free => ?_
    rw [List.append_cons, run_append]
    refine decided_of_deadline _ (Loop.coherent_run options _) ?_ free
    rw [deadline_run, run_append, now_step _ _ (by simp), ← deadline_run options moves]
    exact passed

/-- The pong that the server has asked for takes longer than the connection may. -/
def slowPong : List Move := [.arrive (.frame (.text "2")), .elapse 200]

/-- The deadline is over, nothing more happens, and still nothing is decided. -/
theorem pending_after_deadline :
    ¬ ∀ (options : ConnectOptions) (moves : List Move),
      options.connectTimeout.after 0 ≤ ((start options).run moves).now →
      ((start options).run moves).AtRest →
      ((start options).run moves).loop.readiness.isPending = false := by
  intro bound
  have decided := bound ⟨.ofMillis 100, .never, false⟩ slowPong (by decide +kernel)
    (by decide +kernel)
  revert decided
  decide +kernel

/-- The pong is sent and flushed at last, and then the deadline is looked at. -/
theorem connect_deadline_of_slowPong :
    (∃ errand, ((start ⟨.ofMillis 100, .never, false⟩).run slowPong).loop.phase.errand? =
        some errand) ∧
      ((start ⟨.ofMillis 100, .never, false⟩).run
        (slowPong ++ [.answer (.ok ()), .answer (.ok ()), .deadline])).loop.readiness.isPending =
          false := by
  obtain ⟨_, _, held, _⟩ := connect_deadline ⟨.ofMillis 100, .never, false⟩ slowPong
    (by decide +kernel)
  obtain ⟨_, _, _, freed⟩ := connect_deadline ⟨.ofMillis 100, .never, false⟩
    (slowPong ++ [.answer (.ok ())]) (by decide +kernel)
  obtain ⟨errand, writing, _⟩ := held (by decide +kernel) (by decide +kernel)
  refine ⟨⟨errand, writing⟩, ?_⟩
  rcases freed .answerPing (.ok ()) rfl with ⟨frame, sending, _⟩ | decided
  · cases sending
  · exact decided

end System

end ChatSocket.Connection
