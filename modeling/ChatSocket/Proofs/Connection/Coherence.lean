import ChatSocket.Proofs.Connection.Run

/-!
# Coherent loops

A loop is `Live` until it stops: its output is open, it has not failed, and its
heartbeat timers run only with a heartbeat.  Once it has stopped it is `Settled`:
its timers are gone and readiness is decided, with the cause of the stop unless that
was decided before.  Every loop that a run reaches is `Coherent`.
-/

set_option autoImplicit false

namespace ChatSocket.Connection.Loop

structure Live (loop : Loop) : Prop where
  unclosed : loop.output.closing = none
  unfinished : loop.lifecycle.isTerminal = false
  unfailed : ∀ error, loop.readiness.outcome ≠ some (.error error)
  pinging : loop.pingTimer.isArmed = true → loop.heartbeat.isSome = true
  ponging : loop.pongTimer.isArmed = true → loop.heartbeat.isSome = true

/-- What is true of a loop once it has stopped with a cause. -/
structure Settled (cause : Option Error) (loop : Loop) : Prop where
  disarmed : ∀ kind, (loop.slot kind).isArmed = false
  decided : loop.readiness.outcome = some (.error (cause.getD .connectionClosed)) ∨
    ∃ reason, loop.readiness.outcome = some (.ok reason)

structure Coherent (loop : Loop) : Prop where
  running : loop.isStopped = false → Live loop
  /-- A ping is written for the heartbeat in force, and flushed. -/
  beating : ∀ beat limit, loop.phase.errand? = some (.heartbeat beat limit) →
    loop.heartbeat = some beat ∧
      ∀ frame, loop.phase ≠ .sending frame false (.heartbeat beat limit)
  closing : ∀ reason exit, loop.phase = .closing reason exit →
    Settled exit.cause loop ∧ loop.output.closing = none ∧ loop.lifecycle.isTerminal = false
  ended : loop.phase = .ended → ∃ cause, Settled cause loop ∧
    loop.output.closing = some cause ∧
    loop.lifecycle = if cause.isSome then .failed else .closed

/-! ## Stopping -/

theorem complete_decided (outcome : Except Error ReadyReason) (readiness : Readiness)
    (unfailed : ∀ error, readiness.outcome ≠ some (.error error)) :
    (readiness.complete outcome).outcome = some outcome ∨
      ∃ reason, (readiness.complete outcome).outcome = some (.ok reason) := by
  obtain ⟨held⟩ := readiness
  rcases held with _ | error | reason
  · exact Or.inl rfl
  · exact absurd rfl (unfailed error)
  · exact Or.inr ⟨reason, rfl⟩

theorem close_closing (cause : Option Error) (output : Output) (opened : output.closing = none) :
    (output.close cause).closing = some cause := by
  simp [Output.close, opened]

/-- A loop that finishes closes its output with the cause. -/
theorem coherent_finish (exit : Exit) (loop : Loop) (settled : Settled exit.cause loop)
    (opened : loop.output.closing = none) : Coherent (loop.finish exit) where
  running := by simp [finish, isStopped]
  beating := by simp [finish, Phase.errand?]
  closing := by simp [finish]
  ended _ := ⟨exit.cause, { settled with },
    close_closing exit.cause loop.output opened, rfl⟩

theorem coherent_stop (exit : Exit) (loop : Loop) (live : Live loop) :
    Coherent (loop.stop exit) := by
  have decided := complete_decided (.error (exit.cause.getD .connectionClosed)) loop.readiness
    live.unfailed
  obtain ⟨cause, farewell, ticket⟩ := exit
  cases farewell with
  | none =>
      refine coherent_finish _ _ ⟨?_, decided⟩ live.unclosed
      intro kind
      cases kind <;> exact Slot.isArmed_cancel _
  | some reason =>
      refine ⟨by simp [stop, isStopped], by simp [stop, Phase.errand?], ?_, by simp [stop]⟩
      intro other exit closing
      cases closing
      refine ⟨⟨?_, decided⟩, live.unclosed, live.unfinished⟩
      intro kind
      cases kind <;> exact Slot.isArmed_cancel _

theorem coherent_fail (cause : Error) (farewell : Option CloseReason) (loop : Loop)
    (live : Live loop) : Coherent (loop.fail cause farewell) :=
  coherent_stop ⟨some cause, farewell, none⟩ loop live

/-! ## Running -/

theorem coherent_of_idle (loop : Loop) (live : Live loop) (idle : loop.phase = .idle) :
    Coherent loop where
  running _ := live
  beating beat limit writing := by simp [idle, Phase.errand?] at writing
  closing reason exit closing := by simp [idle] at closing
  ended ended := by simp [idle] at ended

theorem coherent_write (frame : Frame) (flush : Bool) (errand : Errand) (loop : Loop)
    (live : Live loop)
    (isBeat : ∀ beat limit, errand = .heartbeat beat limit →
      loop.heartbeat = some beat ∧ flush = true) :
    Coherent (loop.write frame flush errand) where
  running _ := { live with }
  beating beat limit writing := by
    obtain ⟨inForce, flushed⟩ := isBeat beat limit (Option.some.inj writing)
    refine ⟨inForce, ?_⟩
    rintro other sending
    cases sending
    cases flushed
  closing reason exit closing := by cases closing
  ended ended := by cases ended

theorem live_seen (loop : Loop) (live : Live loop) : Live loop.seen := by
  rw [seen]
  split
  · exact live
  · exact { live with unfinished := rfl }

theorem live_ready (reason : ReadyReason) (loop : Loop) (live : Live loop) :
    Live { loop with readiness := ⟨some (.ok reason)⟩, lifecycle := .ready } :=
  { live with unfinished := rfl, unfailed := by simp }

theorem push_closing (event : Event) (output : Output) :
    (output.push event).closing = output.closing := by
  cases closing : output.closing <;> simp [Output.push, closing]

theorem coherent_reported (error : ProtocolError) (loop after : Loop) (live : Live loop)
    (idle : loop.phase = .idle) (reported : Reported error loop after) : Coherent after := by
  cases reported with
  | fatal pending => exact coherent_fail _ _ loop live
  | passed decided =>
      refine coherent_of_idle _ { live with unclosed := ?_ } idle
      rw [push_closing]
      exact live.unclosed

theorem coherent_noted (event : Event) (loop after : Loop) (live : Live loop)
    (idle : loop.phase = .idle) (noted : Noted loop event after) : Coherent after := by
  cases noted with
  | signal pending =>
      exact coherent_of_idle _ { live_ready .signal loop live with } idle
  | signalAgain decided =>
      exact coherent_of_idle _ { live with } idle
  | problem error after reported => exact coherent_reported error loop after live idle reported
  | input input => exact coherent_of_idle loop live idle
  | output event isOutput understood =>
      refine coherent_of_idle _ { live with unclosed := ?_, unfinished := ?_ }
        idle
      · rw [push_closing]
        exact live.unclosed
      · split
        · rfl
        · exact live.unfinished

theorem coherent_joined (now : Instant) (loop after : Loop) (live : Live loop)
    (idle : loop.phase = .idle) (joined : Joined now loop after) : Coherent after := by
  cases joined with
  | again decided => exact coherent_of_idle loop live idle
  | waiting pending policy => exact coherent_of_idle loop live idle
  | assumed pending policy =>
      exact coherent_of_idle _ (live_ready .assumedAtOnce loop live) idle
  | delayed span pending policy =>
      exact coherent_of_idle _ { live with } idle

theorem coherent_heard (now : Instant) (frame : Frame) (loop after : Loop) (live : Live loop)
    (idle : loop.phase = .idle) (heard : Heard now loop frame after) : Coherent after := by
  cases heard with
  | silent silent => exact coherent_of_idle loop live idle
  | opened data read interval timeout =>
      exact coherent_of_idle _ { live with pinging := fun _ => rfl, ponging := fun _ => rfl }
        idle
  | asked read => exact coherent_write _ _ _ loop live (by simp)
  | answered read =>
      refine coherent_of_idle _ { live with ponging := ?_ } idle
      simp [Slot.isArmed_cancel]
  | joined ns data after read joined => exact coherent_joined now loop after live idle joined
  | refused ns data read => exact coherent_fail _ _ loop live
  | acknowledged ns ackId name args answer read wanted written =>
      exact coherent_write _ _ _ loop live (by simp)
  | noted ns ackId name args after read unasked noted =>
      exact coherent_noted _ loop after live idle noted
  | reported error after malformed noEvent reported =>
      exact coherent_reported error loop after live idle reported

theorem coherent_ticked (now : Instant) (tick : Tick) (loop after : Loop) (live : Live loop)
    (idle : loop.phase = .idle) (ticked : Ticked now loop tick after) : Coherent after := by
  cases ticked with
  | stale tick stale => exact coherent_of_idle loop live idle
  | ping generation beat isLive inForce =>
      refine coherent_write _ _ _ loop live ?_
      rintro other limit equal
      cases equal
      exact ⟨inForce, rfl⟩
  | pingAlone generation isLive unset =>
      exact coherent_of_idle loop live idle
  | pong generation isLive =>
      exact coherent_fail _ _ _ { live with ponging := by simp [Slot.isArmed] }
  | assumed generation isLive pending =>
      exact coherent_of_idle _ { live_ready .assumedAfterTimeout loop live with }
        idle
  | assumedAgain generation isLive decided =>
      exact coherent_of_idle _ { live with } idle

theorem coherent_reacted (now : Instant) (stimulus : Stimulus) (loop after : Loop)
    (live : Live loop) (idle : loop.phase = .idle) (reacted : Reacted now loop stimulus after) :
    Coherent after := by
  cases reacted with
  | earlyEnd stimulus remote nothing => exact coherent_fail _ _ loop live
  | pendingEnd stimulus remote something pending => exact coherent_fail _ _ loop live
  | orderlyEnd stimulus remote something decided => exact coherent_stop _ loop live
  | frame frame after notClose heard =>
      have stillIdle : loop.seen.phase = .idle := by
        rw [seen]
        split <;> exact idle
      exact coherent_heard now frame loop.seen after (live_seen loop live) stillIdle heard
  | failure error => exact coherent_fail _ _ loop live
  | send frame flush ticket => exact coherent_write _ _ _ loop live (by simp)
  | close reason ticket => exact coherent_stop _ loop live
  | cancel cause => exact coherent_fail _ _ loop live
  | abandoned => exact coherent_stop _ loop live
  | tick tick after ticked => exact coherent_ticked now tick loop after live idle ticked
  | deadline pending => exact coherent_fail _ _ loop live
  | deadlinePassed decided => exact coherent_of_idle loop live idle

theorem isStopped_of_errand (loop : Loop) (errand : Errand)
    (writing : loop.phase.errand? = some errand) : loop.isStopped = false := by
  cases phase : loop.phase <;> simp [phase, Phase.errand?, isStopped] at writing ⊢

theorem errand?_of_concluding (errand : Errand) (loop : Loop)
    (concluding : loop.Concluding errand) : loop.phase.errand? = some errand := by
  rcases concluding with ⟨frame, sending⟩ | flushing
  · rw [sending]
    rfl
  · rw [flushing]
    rfl

theorem coherent_resumed (now : Instant) (result : Except Error Unit) (loop after : Loop)
    (coherent : Coherent loop) (resumed : Resumed now loop result after) : Coherent after := by
  -- A loop that writes has not stopped; every other loop is only finished or left as it is.
  have live : ∀ errand, loop.phase.errand? = some errand → Live loop := fun errand writing =>
    coherent.running (isStopped_of_errand loop errand writing)
  cases resumed with
  | sent frame errand sending =>
      have writing : loop.phase.errand? = some errand := by rw [sending]; rfl
      refine ⟨fun _ => { live errand writing with }, ?_, by simp, by simp⟩
      intro beat limit same
      cases same
      exact ⟨(coherent.beating beat limit writing).1, by simp⟩
  | answeredPing concluding =>
      exact coherent_of_idle _ { live _ (errand?_of_concluding _ loop concluding) with } rfl
  | acknowledged packet after concluding noted =>
      have running := live _ (errand?_of_concluding _ loop concluding)
      exact coherent_noted _ { loop with phase := .idle } after { running with } rfl noted
  | pinged beat limit concluding unarmed =>
      have writing := errand?_of_concluding _ loop concluding
      refine coherent_of_idle _ { live _ writing with ponging := ?_ } rfl
      intro _
      simp [(coherent.beating beat limit writing).1]
  | pingedAgain beat limit concluding armed =>
      exact coherent_of_idle _ { live _ (errand?_of_concluding _ loop concluding) with } rfl
  | served ticket concluding =>
      exact coherent_of_idle _ { live _ (errand?_of_concluding _ loop concluding) with } rfl
  | requestFailed error ticket writing =>
      exact coherent_fail _ _ _ { live _ writing with }
  | failed error errand writing unasked => exact coherent_fail _ _ loop (live _ writing)
  | closed reason exit result closing =>
      obtain ⟨settled, opened, _⟩ := coherent.closing reason exit closing
      exact coherent_finish exit loop settled opened
  | unmoved result still => exact coherent

/-! ## Reachable loops -/

theorem coherent_start (options : ConnectOptions) : Coherent (start options) := by
  refine coherent_of_idle _ ⟨rfl, rfl, ?_, ?_, ?_⟩ rfl
  · intro error failed
    cases failed
  · intro armed
    cases armed
  · intro armed
    cases armed

theorem isArmed_setSlot_fire (now : Instant) (kind other : TimerKind) (loop : Loop) :
    ((loop.setSlot kind ((loop.slot kind).fire now).2).slot other).isArmed =
      (loop.slot other).isArmed := by
  by_cases same : other = kind
  · subst same
    rw [slot_setSlot_self, Slot.isArmed_fire]
  · rw [slot_setSlot_of_ne kind other _ loop same]

theorem live_fired (now : Instant) (kind : TimerKind) (loop : Loop) (live : Live loop) :
    Live (loop.setSlot kind ((loop.slot kind).fire now).2) := by
  have same := Slot.isArmed_fire now (loop.slot kind)
  cases kind with
  | ping => exact { live with pinging := fun armed => live.pinging (same.symm.trans armed) }
  | pong => exact { live with ponging := fun armed => live.ponging (same.symm.trans armed) }
  | readiness => exact { live with }

/-- A loop in which a timer has fired is as coherent as before. -/
theorem coherent_fired (now : Instant) (kind : TimerKind) (loop : Loop)
    (coherent : Coherent loop) :
    Coherent (loop.setSlot kind ((loop.slot kind).fire now).2) := by
  have settled : ∀ cause, Settled cause loop →
      Settled cause (loop.setSlot kind ((loop.slot kind).fire now).2) := by
    intro cause settled
    refine ⟨fun other => ?_, by rw [readiness_setSlot]; exact settled.decided⟩
    rw [isArmed_setSlot_fire]
    exact settled.disarmed other
  refine ⟨fun running => ?_, ?_, fun reason exit closing => ?_, fun ended => ?_⟩
  · rw [isStopped, phase_setSlot] at running
    exact live_fired now kind loop (coherent.running running)
  · rw [phase_setSlot, heartbeat_setSlot]
    exact coherent.beating
  · rw [phase_setSlot] at closing
    rw [output_setSlot, lifecycle_setSlot]
    obtain ⟨before, rest⟩ := coherent.closing reason exit closing
    exact ⟨settled _ before, rest⟩
  · rw [phase_setSlot] at ended
    rw [output_setSlot, lifecycle_setSlot]
    obtain ⟨cause, before, rest⟩ := coherent.ended ended
    exact ⟨cause, settled cause before, rest⟩

theorem coherent_stepped (system : System) (move : Move) (after : Loop)
    (coherent : Coherent system.loop) (stepped : System.Stepped system move after) :
    Coherent after := by
  cases stepped with
  | took move stimulus after taken reacted =>
      have idle := ((System.stimulus?_eq_some_iff system move stimulus).mp taken).1
      exact coherent_reacted _ stimulus _ after
        (coherent.running (by simp [isStopped, idle])) idle reacted
  | fired kind => exact coherent_fired _ kind _ coherent
  | answered result after resumed => exact coherent_resumed _ result _ after coherent resumed
  | expired beat limit writing passed =>
      exact coherent_fail _ _ _ (coherent.running (isStopped_of_errand _ _ writing))
  | still move untaken => exact coherent

theorem coherent_run (options : ConnectOptions) (moves : List Move) :
    Coherent ((System.start options).run moves).loop :=
  System.run_invariant (fun system => Coherent system.loop) (System.start options) moves
    (coherent_start options)
    (fun system move coherent =>
      coherent_stepped system move _ coherent (System.step_stepped system move))

end ChatSocket.Connection.Loop
