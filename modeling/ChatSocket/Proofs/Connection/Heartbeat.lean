import ChatSocket.Proofs.Connection.Errands

/-!
# The history of a heartbeat

What the pong timer depends on: which heartbeats were opened, which pongs came, when
pings were completely written.  `Pulsed` says how each of these moves the timer, and
that nothing else does but the clock.
-/

set_option autoImplicit false

namespace ChatSocket.Connection

inductive Beat where
  /-- The server opened a session with a heartbeat that it can keep. -/
  | opened (beat : Heartbeat)
  | answered
  /-- A ping was sent and flushed. -/
  | written (time : Instant)
  deriving DecidableEq, Repr

namespace Beat

def follow (times : List Instant) : Beat → List Instant
  | .opened _ | .answered => []
  | .written time => times ++ [time]

/-- When the pings were written that no pong has followed. -/
def unanswered (beats : List Beat) : List Instant := beats.foldl follow []

def adopt (current : Option Heartbeat) : Beat → Option Heartbeat
  | .opened beat => some beat
  | .answered | .written _ => current

/-- The heartbeat that was opened last. -/
def inForce (beats : List Beat) : Option Heartbeat := beats.foldl adopt none

theorem unanswered_append (beats : List Beat) (beat : Beat) :
    unanswered (beats ++ [beat]) = follow (unanswered beats) beat := by
  simp [unanswered]

theorem inForce_append (beats : List Beat) (beat : Beat) :
    inForce (beats ++ [beat]) = adopt (inForce beats) beat := by
  simp [inForce]

/-- The pings that wait are the last that happened. -/
theorem unanswered_suffix (beats : List Beat) :
    ∃ earlier, beats = earlier ++ (unanswered beats).map Beat.written := by
  induction beats using List.reverseRecOn with
  | nil => exact ⟨[], rfl⟩
  | append_singleton beats last ih =>
      rw [unanswered_append]
      cases last with
      | opened | answered => exact ⟨_, (List.append_nil _).symm⟩
      | written time =>
          obtain ⟨earlier, split⟩ := ih
          refine ⟨earlier, ?_⟩
          rw [follow, List.map_append, ← List.append_assoc, ← split]
          rfl

/-- What a frame means to the heartbeat. -/
def ofFrame? (frame : Frame) : Option Beat :=
  match Engine.Packet.decode? frame with
  | some (.opening data) =>
      if data.pingInterval.isZero || data.pingTimeout.isZero then none
      else some (.opened ⟨data.pingInterval, data.pingTimeout⟩)
  | some .pong => some .answered
  | _ => none

def ofStimulus? : Stimulus → Option Beat
  | .frame frame => ofFrame? frame
  | _ => none

theorem ofFrame?_of_socketPacket (frame : Frame) (packet : Socket.Packet)
    (read : frame.socketPacket? = some packet) : ofFrame? frame = none := by
  obtain ⟨payload, message, _⟩ := (frame.socketPacket?_eq_some_iff packet).mp read
  simp [ofFrame?, message]

theorem ofFrame?_of_silent (frame : Frame) (silent : Silent frame) : ofFrame? frame = none := by
  cases silent with
  | control read | engineClose read | upgrade read | noop read => simp [ofFrame?, read]
  | disconnect ns read => exact ofFrame?_of_socketPacket frame _ read
  | acknowledge ns ackId data read => exact ofFrame?_of_socketPacket frame _ read

theorem ofFrame?_of_malformed (frame : Frame) (error : ProtocolError)
    (malformed : Malformed frame error) : ofFrame? frame = none := by
  cases malformed with
  | engine raw reason cause read | binary bytes read => simp [ofFrame?, read]
  | opening data read zero => simp [ofFrame?, read, zero]
  | socket raw reason cause read => exact ofFrame?_of_socketPacket frame _ read
  | binaryEvent ns ackId name bytes read => exact ofFrame?_of_socketPacket frame _ read
  | binaryAcknowledge ns ackId bytes read => exact ofFrame?_of_socketPacket frame _ read
  | event ns ackId name args error read => exact ofFrame?_of_socketPacket frame _ read

end Beat

namespace Loop

/-- The transport is about to answer the last call for a ping. -/
def concludesPing (loop : Loop) : Bool :=
  match loop.phase with
  | .sending _ false (.heartbeat ..) | .flushing (.heartbeat ..) => true
  | _ => false

/-- How a step moves the pong timer. -/
inductive Pulsed (now : Instant) (loop : Loop) : Option Beat → Loop → Prop
  | stopped (beat? : Option Beat) (after : Loop) (stopped : after.isStopped = true) :
      Pulsed now loop beat? after
  | quiet (after : Loop) (heartbeat : after.heartbeat = loop.heartbeat)
      (pongTimer : after.pongTimer = loop.pongTimer) : Pulsed now loop none after
  | opened (beat : Heartbeat) (after : Loop) (heartbeat : after.heartbeat = some beat)
      (pongTimer : after.pongTimer = loop.pongTimer.cancel) :
      Pulsed now loop (some (.opened beat)) after
  | answered (after : Loop) (heartbeat : after.heartbeat = loop.heartbeat)
      (pongTimer : after.pongTimer = loop.pongTimer.cancel) :
      Pulsed now loop (some .answered) after
  | armed (beat : Heartbeat) (after : Loop) (unarmed : loop.pongTimer.isArmed = false)
      (inForce : loop.heartbeat = some beat) (heartbeat : after.heartbeat = loop.heartbeat)
      (pongTimer : after.pongTimer = loop.pongTimer.once now beat.timeout) :
      Pulsed now loop (some (.written now)) after
  | armedBefore (after : Loop) (armed : loop.pongTimer.isArmed = true)
      (heartbeat : after.heartbeat = loop.heartbeat)
      (pongTimer : after.pongTimer = loop.pongTimer) : Pulsed now loop (some (.written now)) after

theorem pulsed_of_kept (now : Instant) (loop between after : Loop)
    (heartbeat : between.heartbeat = loop.heartbeat)
    (pongTimer : between.pongTimer = loop.pongTimer) (kept : FailedOrKept between after) :
    Pulsed now loop none after := by
  rcases kept with ⟨cause, farewell, rfl⟩ | kept
  · exact .stopped _ _ (isStopped_fail cause farewell between)
  · exact .quiet after (kept.heartbeat.trans heartbeat) (kept.pongTimer.trans pongTimer)

/-- Neither input without a meaning for the heartbeat nor a later ping touches a timer that runs. -/
theorem pongTimer_of_pulsed (now : Instant) (loop after : Loop) (beat? : Option Beat)
    (pulsed : Pulsed now loop beat? after) (running : after.isStopped = false)
    (irrelevant : beat? = none ∨
      (∃ time, beat? = some (.written time)) ∧ loop.pongTimer.isArmed = true) :
    after.pongTimer = loop.pongTimer := by
  cases pulsed with
  | stopped _ _ stopped => cases running.symm.trans stopped
  | quiet _ heartbeat pongTimer => exact pongTimer
  | opened | answered => simp at irrelevant
  | armed beat _ unarmed => simp [unarmed] at irrelevant
  | armedBefore _ armed heartbeat pongTimer => exact pongTimer

theorem pulsed_of_heard (now : Instant) (frame : Frame) (loop after : Loop)
    (heard : Heard now loop.seen frame after) : Pulsed now loop (Beat.ofFrame? frame) after := by
  have sameBeat := loop.heartbeat_seen
  have sameTimer := loop.pongTimer_seen
  cases heard with
  | silent silent =>
      rw [Beat.ofFrame?_of_silent frame silent]
      exact .quiet _ sameBeat sameTimer
  | opened data read interval timeout =>
      have beat : Beat.ofFrame? frame = some (.opened ⟨data.pingInterval, data.pingTimeout⟩) := by
        simp [Beat.ofFrame?, read, interval, timeout]
      rw [beat]
      refine .opened _ _ rfl ?_
      rw [← sameTimer]
  | asked read =>
      have beat : Beat.ofFrame? frame = none := by simp [Beat.ofFrame?, read]
      rw [beat]
      exact .quiet _ sameBeat sameTimer
  | answered read =>
      have beat : Beat.ofFrame? frame = some .answered := by simp [Beat.ofFrame?, read]
      rw [beat]
      refine .answered _ sameBeat ?_
      rw [← sameTimer]
  | joined ns data after read joined =>
      rw [Beat.ofFrame?_of_socketPacket frame _ read]
      exact pulsed_of_kept now loop _ after sameBeat sameTimer
        (Or.inr (kept_of_joined now _ after joined))
  | refused => exact .stopped _ _ (isStopped_fail _ _ _)
  | acknowledged ns ackId name args answer read =>
      rw [Beat.ofFrame?_of_socketPacket frame _ read]
      exact .quiet _ sameBeat sameTimer
  | noted ns ackId name args after read unasked noted =>
      rw [Beat.ofFrame?_of_socketPacket frame _ read]
      exact pulsed_of_kept now loop _ after sameBeat sameTimer (kept_of_noted _ _ after noted)
  | reported error after malformed noEvent reported =>
      rw [Beat.ofFrame?_of_malformed frame error malformed]
      exact pulsed_of_kept now loop _ after sameBeat sameTimer
        (kept_of_reported error _ after reported)

theorem pulsed_of_ticked (now : Instant) (tick : Tick) (loop after : Loop)
    (ticked : Ticked now loop tick after) : Pulsed now loop none after := by
  cases ticked with
  | stale | ping | pingAlone | assumed | assumedAgain => exact .quiet _ rfl rfl
  | pong => exact .stopped _ _ (isStopped_fail _ _ _)

theorem pulsed_of_reacted (now : Instant) (stimulus : Stimulus) (loop after : Loop)
    (reacted : Reacted now loop stimulus after) :
    Pulsed now loop (Beat.ofStimulus? stimulus) after := by
  cases reacted with
  | frame frame after notClose heard => exact pulsed_of_heard now frame loop after heard
  | send => exact .quiet _ rfl rfl
  | tick tick after ticked => exact pulsed_of_ticked now tick loop after ticked
  | deadlinePassed => exact .quiet _ rfl rfl
  | earlyEnd | pendingEnd | orderlyEnd | failure | close | cancel | abandoned | deadline =>
      exact .stopped _ _ (isStopped_stop _ _)

theorem concludesPing_iff (loop : Loop) :
    loop.concludesPing = true ↔ ∃ beat limit, loop.Concluding (.heartbeat beat limit) := by
  cases phase : loop.phase with
  | sending frame flush errand =>
      cases flush <;> cases errand <;> simp [concludesPing, Concluding, phase]
  | flushing errand => cases errand <;> simp [concludesPing, Concluding, phase]
  | idle | closing | ended => simp [concludesPing, Concluding, phase]

end Loop

namespace System

/-- What a move means to the heartbeat. -/
def beat? (system : System) (move : Move) : Option Beat :=
  match system.stimulus? move, move with
  | some stimulus, _ => Beat.ofStimulus? stimulus
  | none, .answer (.ok ()) =>
      if system.loop.concludesPing then some (.written system.now) else none
  | none, _ => none

def beats (system : System) : List Move → List Beat
  | [] => []
  | move :: later => (system.beat? move).toList ++ (system.step move).beats later

theorem beats_append (system : System) (moves : List Move) (last : Move) :
    system.beats (moves ++ [last]) =
      system.beats moves ++ ((system.run moves).beat? last).toList := by
  induction moves generalizing system with
  | nil => simp [beats, run]
  | cons move rest ih =>
      simp only [List.cons_append, beats, List.append_assoc]
      rw [ih]
      rfl

theorem beat?_of_taken (system : System) (move : Move) (stimulus : Stimulus)
    (taken : system.stimulus? move = some stimulus) :
    system.beat? move = Beat.ofStimulus? stimulus := by
  simp [beat?, taken]

theorem beat?_of_untaken (system : System) (move : Move)
    (untaken : system.stimulus? move = none) (unanswered : ∀ result, move ≠ .answer result) :
    system.beat? move = none := by
  cases move with
  | answer result => exact absurd rfl (unanswered result)
  | elapse | fire | arrive | submit | acquire | release | takeTick | takeCommand | abandon
  | deadline | expire => simp [beat?, untaken]

theorem beat?_of_answer (system : System) :
    system.beat? (.answer (.ok ())) =
      if system.loop.concludesPing then some (.written system.now) else none := by
  simp [beat?, stimulus?, offer?]

theorem beat?_of_otherErrand (system : System) (errand : Errand)
    (concluding : system.loop.Concluding errand)
    (other : ∀ beat limit, errand ≠ .heartbeat beat limit) :
    system.beat? (.answer (.ok ())) = none := by
  have noPing : system.loop.concludesPing = false := by
    rw [Bool.eq_false_iff, ne_eq, Loop.concludesPing_iff]
    rintro ⟨beat, limit, concludingPing⟩
    have writing := Loop.errand?_of_concluding _ _ concluding
    rw [Loop.errand?_of_concluding _ _ concludingPing] at writing
    exact other beat limit (Option.some.inj writing).symm
  simp [beat?_of_answer, noPing]

theorem beat?_of_concludingPing (system : System) (beat : Heartbeat) (limit : Instant)
    (concluding : system.loop.Concluding (.heartbeat beat limit)) :
    system.beat? (.answer (.ok ())) = some (.written system.now) := by
  have ping := (Loop.concludesPing_iff system.loop).mpr ⟨beat, limit, concluding⟩
  simp [beat?_of_answer, ping]

theorem pulsed_of_resumed (system : System) (result : Except Error Unit) (after : Loop)
    (coherent : system.loop.Coherent)
    (resumed : Loop.Resumed system.now system.loop result after) :
    Loop.Pulsed system.now system.loop (system.beat? (.answer result)) after := by
  cases resumed with
  | sent frame errand sending =>
      have quiet : system.beat? (.answer (.ok ())) = none := by
        simp [beat?_of_answer, Loop.concludesPing, sending]
      rw [quiet]
      exact .quiet _ rfl rfl
  | answeredPing concluding =>
      rw [beat?_of_otherErrand system _ concluding (by simp)]
      exact .quiet _ rfl rfl
  | acknowledged packet after concluding noted =>
      rw [beat?_of_otherErrand system _ concluding (by simp)]
      exact Loop.pulsed_of_kept _ system.loop { system.loop with phase := .idle } after rfl rfl
        (Loop.kept_of_noted _ _ after noted)
  | pinged beat limit concluding unarmed =>
      have inForce := (coherent.beating beat limit (Loop.errand?_of_concluding _ _ concluding)).1
      rw [beat?_of_concludingPing system beat limit concluding]
      exact .armed beat _ unarmed inForce rfl rfl
  | pingedAgain beat limit concluding armed =>
      rw [beat?_of_concludingPing system beat limit concluding]
      exact .armedBefore _ armed rfl rfl
  | served ticket concluding =>
      rw [beat?_of_otherErrand system _ concluding (by simp)]
      exact .quiet _ rfl rfl
  | requestFailed | failed => exact .stopped _ _ (Loop.isStopped_fail _ _ _)
  | closed => exact .stopped _ _ rfl
  | unmoved result still =>
      have quiet : system.beat? (.answer result) = none := by
        cases result with
        | error error => simp [beat?, stimulus?, offer?]
        | ok =>
            rw [beat?_of_answer]
            cases phase : system.loop.phase with
            | idle | closing | ended => simp [Loop.concludesPing, phase]
            | sending | flushing => simp [phase, Phase.call?] at still
      rw [quiet]
      exact .quiet _ rfl rfl

/-- Nothing but the heartbeat and the clock moves the pong timer of a running loop. -/
theorem pulsed_of_stepped (system : System) (move : Move) (after : Loop)
    (coherent : system.loop.Coherent) (stepped : Stepped system move after)
    (unfired : ∀ kind, move ≠ .fire kind) :
    Loop.Pulsed system.now system.loop (system.beat? move) after := by
  cases stepped with
  | took move stimulus after taken reacted =>
      rw [beat?_of_taken system move stimulus taken]
      exact Loop.pulsed_of_reacted _ stimulus _ after reacted
  | fired kind => exact absurd rfl (unfired kind)
  | answered result after resumed => exact pulsed_of_resumed system result after coherent resumed
  | expired => exact .stopped _ _ (Loop.isStopped_fail _ _ _)
  | still move untaken unanswered =>
      rw [beat?_of_untaken system move untaken unanswered]
      exact .quiet _ rfl rfl

end System

end ChatSocket.Connection
