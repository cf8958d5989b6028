import ChatSocket.Proofs.Connection.Reading

/-!
# What the loop makes of a stimulus

The relations here say what a step of the loop can do, each case with the condition
under which it arises: `Reported` for malformed input, `Noted` for events, `Heard` for
frames, `Reacted` for stimuli, `Resumed` for the answers of the transport.  The loop
satisfies them, so an invariant is shown case by case without opening the loop again.
-/

set_option autoImplicit false

namespace ChatSocket.Connection

/-- What the frame is for that is being written. -/
def Phase.errand? : Phase → Option Errand
  | .sending _ _ errand | .flushing errand => some errand
  | .idle | .closing .. | .ended => none

namespace Loop

/-- The loop after a frame has arrived that is not a close. -/
def seen (loop : Loop) : Loop :=
  if loop.receivedAny then loop else { loop with receivedAny := true, lifecycle := .handshaking }

/-- The loop waits for the last call of an errand. -/
def Concluding (errand : Errand) (loop : Loop) : Prop :=
  (∃ frame, loop.phase = .sending frame false errand) ∨ loop.phase = .flushing errand

/-- What malformed input does. -/
inductive Reported (error : ProtocolError) (loop : Loop) : Loop → Prop
  | fatal (pending : loop.readiness.isPending = true) :
      Reported error loop (loop.fail error.toError (some (.protocolError error.message)))
  | passed (decided : loop.readiness.isPending = false) :
      Reported error loop { loop with output := loop.output.push (.protocolError error) }

/-- What an event does, once it is acknowledged. -/
inductive Noted (loop : Loop) : Event → Loop → Prop
  | signal (pending : loop.readiness.isPending = true) :
      Noted loop .endpointReady
        { loop with
          readinessTimer := loop.readinessTimer.cancel
          readiness := ⟨some (.ok .signal)⟩
          lifecycle := .ready }
  | signalAgain (decided : loop.readiness.isPending = false) :
      Noted loop .endpointReady { loop with readinessTimer := loop.readinessTimer.cancel }
  | problem (error : ProtocolError) (after : Loop) (reported : Reported error loop after) :
      Noted loop (.protocolError error) after
  | input (input : ProcessInput) : Noted loop (.processInput input) loop
  | output (event : Event) (isOutput : event.isOutput = true)
      (understood : ∀ error, event ≠ .protocolError error) :
      Noted loop event
        { loop with
          lifecycle := if loop.lifecycle = .ready then .active else loop.lifecycle
          output := loop.output.push event }

/-- What joining the namespace does. -/
inductive Joined (now : Instant) (loop : Loop) : Loop → Prop
  | again (decided : loop.readiness.isPending = false) : Joined now loop loop
  | waiting (pending : loop.readiness.isPending = true)
      (policy : loop.options.readiness = .never) : Joined now loop loop
  | assumed (pending : loop.readiness.isPending = true)
      (policy : loop.options.readiness = .immediate) :
      Joined now loop { loop with readiness := ⟨some (.ok .assumedAtOnce)⟩, lifecycle := .ready }
  | delayed (span : Duration) (pending : loop.readiness.isPending = true)
      (policy : loop.options.readiness = .after span) :
      Joined now loop { loop with readinessTimer := loop.readinessTimer.once now span }

/-- What a frame does that is not a close. -/
inductive Heard (now : Instant) (loop : Loop) (frame : Frame) : Loop → Prop
  | silent (silent : Silent frame) : Heard now loop frame loop
  | opened (data : Engine.Open) (read : Engine.Packet.decode? frame = some (.opening data))
      (interval : data.pingInterval.isZero = false) (timeout : data.pingTimeout.isZero = false) :
      Heard now loop frame
        { loop with
          pongTimer := loop.pongTimer.cancel
          pingTimer := loop.pingTimer.every now data.pingInterval
          heartbeat := some ⟨data.pingInterval, data.pingTimeout⟩ }
  | asked (read : Engine.Packet.decode? frame = some .ping) :
      Heard now loop frame (loop.write Engine.Packet.pong.encode true .answerPing)
  | answered (read : Engine.Packet.decode? frame = some .pong) :
      Heard now loop frame { loop with pongTimer := loop.pongTimer.cancel }
  | joined (ns : String) (data : Option Json.Members) (after : Loop)
      (read : frame.socketPacket? = some (.connect ns data)) (joined : Joined now loop after) :
      Heard now loop frame after
  | refused (ns : String) (data : Option Socket.Refusal)
      (read : frame.socketPacket? = some (.connectError ns data)) :
      Heard now loop frame
        (loop.fail (.connectRejected ((data.map Socket.Refusal.message).getD "no details"))
          (some (.protocolError ("Received connect error: " ++
            (data.map Socket.Refusal.message).getD "no details"))))
  | acknowledged (ns : String) (ackId : UInt64) (name : String) (args : List Json) (answer : Frame)
      (read : frame.socketPacket? = some (.event ns (some ackId) name args))
      (wanted : loop.options.acknowledge = true)
      (written : (Socket.Packet.acknowledge ns ackId (some [])).toFrame = .ok answer) :
      Heard now loop frame
        (loop.write answer false (.acknowledge (.event ns (some ackId) name args)))
  | noted (ns : String) (ackId : Option UInt64) (name : String) (args : List Json) (after : Loop)
      (read : frame.socketPacket? = some (.event ns ackId name args))
      (unasked : ackId = none ∨ loop.options.acknowledge = false)
      (noted : Noted loop (Event.decode (.event ns ackId name args)) after) :
      Heard now loop frame after
  | reported (error : ProtocolError) (after : Loop) (malformed : Malformed frame error)
      (noEvent : ∀ ns ackId name args, frame.socketPacket? ≠ some (.event ns ackId name args))
      (reported : Reported error loop after) : Heard now loop frame after

/-- What a loop that waits does at a tick. -/
inductive Ticked (now : Instant) (loop : Loop) : Tick → Loop → Prop
  | stale (tick : Tick) (stale : (loop.slot tick.kind).isLive tick.generation = false) :
      Ticked now loop tick loop
  | ping (generation : Nat) (beat : Heartbeat) (live : loop.pingTimer.isLive generation = true)
      (inForce : loop.heartbeat = some beat) :
      Ticked now loop ⟨.ping, generation⟩
        (loop.write Engine.Packet.ping.encode true (.heartbeat beat (beat.timeout.after now)))
  /-- A ping timer without a heartbeat; `Live` excludes it. -/
  | pingAlone (generation : Nat) (live : loop.pingTimer.isLive generation = true)
      (unset : loop.heartbeat = none) : Ticked now loop ⟨.ping, generation⟩ loop
  | pong (generation : Nat) (live : loop.pongTimer.isLive generation = true) :
      Ticked now loop ⟨.pong, generation⟩
        ({ loop with pongTimer := { loop.pongTimer with current := none } }.fail
          (.pongTimeout ((loop.heartbeat.map fun beat : Heartbeat => beat.timeout.millis).getD 0))
          (some { CloseReason.goingAway with reason := "pong timeout" }))
  | assumed (generation : Nat) (live : loop.readinessTimer.isLive generation = true)
      (pending : loop.readiness.isPending = true) :
      Ticked now loop ⟨.readiness, generation⟩
        { loop with
          readinessTimer := { loop.readinessTimer with current := none }
          readiness := ⟨some (.ok .assumedAfterTimeout)⟩
          lifecycle := .ready }
  | assumedAgain (generation : Nat) (live : loop.readinessTimer.isLive generation = true)
      (decided : loop.readiness.isPending = false) :
      Ticked now loop ⟨.readiness, generation⟩
        { loop with readinessTimer := { loop.readinessTimer with current := none } }

end Loop

/-- The far side has closed the transport or is gone. -/
def Stimulus.isRemoteEnd : Stimulus → Bool
  | .frame (.close _) | .ended => true
  | _ => false

namespace Loop

/-- What a loop that waits makes of a stimulus. -/
inductive Reacted (now : Instant) (loop : Loop) : Stimulus → Loop → Prop
  | earlyEnd (stimulus : Stimulus) (remote : stimulus.isRemoteEnd = true)
      (nothing : loop.receivedAny = false) :
      Reacted now loop stimulus (loop.fail .earlyDisconnect none)
  | pendingEnd (stimulus : Stimulus) (remote : stimulus.isRemoteEnd = true)
      (something : loop.receivedAny = true) (pending : loop.readiness.isPending = true) :
      Reacted now loop stimulus (loop.fail .connectionClosed none)
  | orderlyEnd (stimulus : Stimulus) (remote : stimulus.isRemoteEnd = true)
      (something : loop.receivedAny = true) (decided : loop.readiness.isPending = false) :
      Reacted now loop stimulus (loop.stop ⟨none, none, none⟩)
  | frame (frame : Frame) (after : Loop) (notClose : frame.isClose = false)
      (heard : Heard now loop.seen frame after) : Reacted now loop (.frame frame) after
  | failure (error : Error) : Reacted now loop (.failure error) (loop.fail error none)
  | send (frame : Frame) (flush : Bool) (ticket : Ticket) :
      Reacted now loop (.command (.send frame flush ticket))
        (loop.write frame flush (.request ticket))
  | close (reason : CloseReason) (ticket : Ticket) :
      Reacted now loop (.command (.close reason ticket))
        (loop.stop ⟨none, some reason, some ticket⟩)
  | cancel (cause : Error) :
      Reacted now loop (.command (.cancel cause)) (loop.fail cause (some .goingAway))
  | abandoned : Reacted now loop .abandoned (loop.stop ⟨none, some .goingAway, none⟩)
  | tick (tick : Tick) (after : Loop) (ticked : Ticked now loop tick after) :
      Reacted now loop (.tick tick) after
  | deadline (pending : loop.readiness.isPending = true) :
      Reacted now loop .deadline
        (loop.fail (.connectTimeout loop.options.connectTimeout.millis) (some .goingAway))
  | deadlinePassed (decided : loop.readiness.isPending = false) : Reacted now loop .deadline loop

/-- What the loop makes of the transport's answer. -/
inductive Resumed (now : Instant) (loop : Loop) : Except Error Unit → Loop → Prop
  | sent (frame : Frame) (errand : Errand) (sending : loop.phase = .sending frame true errand) :
      Resumed now loop (.ok ())
        { loop with phase := .flushing errand, calls := loop.calls ++ [.flush] }
  | answeredPing (concluding : loop.Concluding .answerPing) :
      Resumed now loop (.ok ()) { loop with phase := .idle }
  | acknowledged (packet : Socket.Packet) (after : Loop)
      (concluding : loop.Concluding (.acknowledge packet))
      (noted : Noted { loop with phase := .idle } (Event.decode packet) after) :
      Resumed now loop (.ok ()) after
  | pinged (beat : Heartbeat) (limit : Instant)
      (concluding : loop.Concluding (.heartbeat beat limit))
      (unarmed : loop.pongTimer.isArmed = false) :
      Resumed now loop (.ok ())
        { loop with phase := .idle, pongTimer := loop.pongTimer.once now beat.timeout }
  | pingedAgain (beat : Heartbeat) (limit : Instant)
      (concluding : loop.Concluding (.heartbeat beat limit))
      (armed : loop.pongTimer.isArmed = true) :
      Resumed now loop (.ok ()) { loop with phase := .idle }
  | served (ticket : Ticket) (concluding : loop.Concluding (.request ticket)) :
      Resumed now loop (.ok ()) ({ loop with phase := .idle }.reply ticket (.ok ()))
  | requestFailed (error : Error) (ticket : Ticket)
      (writing : loop.phase.errand? = some (.request ticket)) :
      Resumed now loop (.error error) ((loop.reply ticket (.error error)).fail error none)
  | failed (error : Error) (errand : Errand) (writing : loop.phase.errand? = some errand)
      (unasked : ∀ ticket, errand ≠ .request ticket) :
      Resumed now loop (.error error) (loop.fail error none)
  | closed (reason : CloseReason) (exit : Exit) (result : Except Error Unit)
      (closing : loop.phase = .closing reason exit) : Resumed now loop result (loop.finish exit)
  | unmoved (result : Except Error Unit) (still : loop.phase.call? = none) :
      Resumed now loop result loop

/-! ## The loop does nothing else -/

theorem readiness_seen (loop : Loop) : loop.seen.readiness = loop.readiness := by
  rw [seen]
  split <;> rfl

theorem options_seen (loop : Loop) : loop.seen.options = loop.options := by
  rw [seen]
  split <;> rfl

theorem phase_seen (loop : Loop) : loop.seen.phase = loop.phase := by
  rw [seen]
  split <;> rfl

theorem calls_seen (loop : Loop) : loop.seen.calls = loop.calls := by
  rw [seen]
  split <;> rfl

theorem heartbeat_seen (loop : Loop) : loop.seen.heartbeat = loop.heartbeat := by
  rw [seen]
  split <;> rfl

theorem pongTimer_seen (loop : Loop) : loop.seen.pongTimer = loop.pongTimer := by
  rw [seen]
  split <;> rfl

theorem complete_pending (loop : Loop) (outcome : Except Error ReadyReason)
    (pending : loop.readiness.isPending = true) :
    loop.readiness.complete outcome = ⟨some outcome⟩ := by
  have undecided : loop.readiness.outcome = none := Option.isNone_iff_eq_none.mp pending
  simp [Readiness.complete, undecided]

theorem report_reported (error : ProtocolError) (loop : Loop) :
    Reported error loop (loop.report error) := by
  rw [report]
  split
  · rename_i pending
    exact .fatal pending
  · rename_i decided
    exact .passed (Bool.eq_false_iff.mpr decided)

theorem onEvent_noted (event : Event) (loop : Loop) : Noted loop event (loop.onEvent event) := by
  cases event with
  | endpointReady =>
      by_cases pending : loop.readiness.isPending = true
      · simp only [onEvent, resolve, pending, if_true]
        rw [complete_pending loop _ pending]
        exact .signal pending
      · simp only [onEvent, resolve, pending]
        exact .signalAgain (Bool.eq_false_iff.mpr pending)
  | protocolError error => exact .problem error _ (report_reported error loop)
  | processInput input => exact .input input
  | message | error | typingStatus | finalPing | triggeredElement | exception =>
      exact .output _ rfl (by intro _ equal; cases equal)

theorem startReadiness_joined (now : Instant) (loop : Loop) :
    Joined now loop (loop.startReadiness now) := by
  by_cases pending : loop.readiness.isPending = true
  · cases policy : loop.options.readiness with
    | never =>
        simp only [startReadiness, pending, policy, if_true]
        exact .waiting pending policy
    | immediate =>
        simp only [startReadiness, resolve, pending, policy, if_true]
        rw [complete_pending loop _ pending]
        exact .assumed pending policy
    | after span =>
        simp only [startReadiness, pending, policy, if_true]
        exact .delayed span pending policy
  · simp only [startReadiness, pending]
    exact .again (Bool.eq_false_iff.mpr pending)

/-- An acknowledgement can always be written. -/
theorem acknowledge_toFrame (ns : String) (ackId : UInt64) (data : Option (List Json)) :
    ∃ frame, (Socket.Packet.acknowledge ns ackId data).toFrame = .ok frame :=
  ⟨_, rfl⟩

theorem onEventPacket_heard (now : Instant) (loop : Loop) (frame : Frame) (ns : String)
    (ackId : Option UInt64) (name : String) (args : List Json)
    (read : frame.socketPacket? = some (.event ns ackId name args)) :
    Heard now loop frame (loop.onEventPacket (.event ns ackId name args)) := by
  cases ackId with
  | none =>
      exact .noted ns none name args _ read (Or.inl rfl) (onEvent_noted _ loop)
  | some id =>
      by_cases wanted : loop.options.acknowledge = true
      · obtain ⟨answer, written⟩ := acknowledge_toFrame ns id (some [])
        simp only [onEventPacket, acknowledgement?, wanted, if_true, written]
        exact .acknowledged ns id name args answer read wanted written
      · simp only [onEventPacket, acknowledgement?, wanted]
        exact .noted ns (some id) name args _ read (Or.inr (Bool.eq_false_iff.mpr wanted))
          (onEvent_noted _ loop)

theorem onSocketPacket_heard (now : Instant) (loop : Loop) (frame : Frame) (packet : Socket.Packet)
    (read : frame.socketPacket? = some packet) :
    Heard now loop frame (loop.onSocketPacket now packet) := by
  have noEvent : (∀ ns ackId name args, packet ≠ .event ns ackId name args) →
      ∀ ns ackId name args, frame.socketPacket? ≠ some (.event ns ackId name args) := by
    intro other ns ackId name args equal
    rw [read] at equal
    exact other ns ackId name args (Option.some.inj equal)
  cases packet with
  | connect ns data => exact .joined ns data _ read (startReadiness_joined now loop)
  | disconnect ns => exact .silent (.disconnect ns read)
  | event ns ackId name args => exact onEventPacket_heard now loop frame ns ackId name args read
  | acknowledge ns ackId data => exact .silent (.acknowledge ns ackId data read)
  | connectError ns data => exact .refused ns data read
  | binaryEvent ns ackId name bytes =>
      exact .reported _ _ (.binaryEvent ns ackId name bytes read) (noEvent (by simp))
        (report_reported _ loop)
  | binaryAcknowledge ns ackId bytes =>
      exact .reported _ _ (.binaryAcknowledge ns ackId bytes read) (noEvent (by simp))
        (report_reported _ loop)
  | broken raw reason cause =>
      exact .reported _ _ (.socket raw reason cause read) (noEvent (by simp))
        (report_reported _ loop)

theorem onOpen_heard (now : Instant) (loop : Loop) (frame : Frame) (data : Engine.Open)
    (read : Engine.Packet.decode? frame = some (.opening data)) :
    Heard now loop frame (loop.onOpen now data) := by
  by_cases zero : (data.pingInterval.isZero || data.pingTimeout.isZero) = true
  · simp only [onOpen, zero, if_true]
    exact .reported _ _ (.opening data read (Bool.or_eq_true_iff.mp zero))
      (by simp [Frame.socketPacket?, read]) (report_reported _ loop)
  · simp only [onOpen, zero]
    rw [Bool.not_eq_true, Bool.or_eq_false_iff] at zero
    exact .opened data read zero.1 zero.2

theorem onEnginePacket_heard (now : Instant) (loop : Loop) (frame : Frame)
    (packet : Engine.Packet) (read : Engine.Packet.decode? frame = some packet) :
    Heard now loop frame (loop.onEnginePacket now packet) := by
  cases packet with
  | opening data => exact onOpen_heard now loop frame data read
  | close => exact .silent (.engineClose read)
  | ping => exact .asked read
  | pong => exact .answered read
  | message payload =>
      exact onSocketPacket_heard now loop frame _ (frame.socketPacket?_of_message payload read)
  | binary bytes =>
      exact .reported _ _ (.binary bytes read) (by simp [Frame.socketPacket?, read])
        (report_reported _ loop)
  | upgrade => exact .silent (.upgrade read)
  | noop => exact .silent (.noop read)
  | broken raw reason cause =>
      exact .reported _ _ (.engine raw reason cause read) (by simp [Frame.socketPacket?, read])
        (report_reported _ loop)

theorem onFrame_heard (now : Instant) (loop : Loop) (frame : Frame) :
    Heard now loop.seen frame (loop.onFrame now frame) := by
  cases read : Engine.Packet.decode? frame with
  | none =>
      have same : loop.onFrame now frame = loop.seen := by simp [onFrame, seen, read]
      rw [same]
      exact .silent (.control read)
  | some packet =>
      have same : loop.onFrame now frame = loop.seen.onEnginePacket now packet := by
        simp [onFrame, seen, read]
      rw [same]
      exact onEnginePacket_heard now loop.seen frame packet read

theorem onTick_ticked (now : Instant) (tick : Tick) (loop : Loop) :
    Ticked now loop tick (loop.onTick now tick) := by
  obtain ⟨kind, generation⟩ := tick
  by_cases live : (loop.slot kind).isLive generation = true
  · cases kind with
    | ping =>
        have live : loop.pingTimer.isLive generation = true := live
        cases inForce : loop.heartbeat with
        | none =>
            simp only [onTick, onPingTick, live, inForce, if_true]
            exact .pingAlone generation live inForce
        | some beat =>
            simp only [onTick, onPingTick, live, inForce, if_true]
            exact .ping generation beat live inForce
    | pong =>
        have live : loop.pongTimer.isLive generation = true := live
        simp only [onTick, onPongTick, Slot.accept_used generation loop.pongTimer live, if_true]
        exact .pong generation live
    | readiness =>
        have live : loop.readinessTimer.isLive generation = true := live
        simp only [onTick, onReadinessTick,
          Slot.accept_used generation loop.readinessTimer live, if_true]
        by_cases pending : loop.readiness.isPending = true
        · simp only [resolve, pending, if_true]
          rw [complete_pending loop _ pending]
          exact .assumed generation live pending
        · simp only [resolve, pending]
          exact .assumedAgain generation live (Bool.eq_false_iff.mpr pending)
  · have stale : (loop.slot kind).isLive generation = false := Bool.eq_false_iff.mpr live
    have same : loop.onTick now ⟨kind, generation⟩ = loop := by
      cases kind with
      | ping =>
          have stale : loop.pingTimer.isLive generation = false := stale
          simp [onTick, onPingTick, stale]
      | pong => simp [onTick, onPongTick, Slot.accept_stale generation true loop.pongTimer stale]
      | readiness =>
          simp [onTick, onReadinessTick,
            Slot.accept_stale generation true loop.readinessTimer stale]
    rw [same]
    exact .stale ⟨kind, generation⟩ stale

theorem remoteEnd_reacted (now : Instant) (stimulus : Stimulus) (loop : Loop)
    (remote : stimulus.isRemoteEnd = true) : Reacted now loop stimulus loop.remoteEnd := by
  rw [remoteEnd]
  split
  · rename_i nothing
    exact .earlyEnd stimulus remote (by simpa using nothing)
  · rename_i something
    have something : loop.receivedAny = true := by simpa using something
    split
    · rename_i pending
      exact .pendingEnd stimulus remote something pending
    · rename_i decided
      exact .orderlyEnd stimulus remote something (Bool.eq_false_iff.mpr decided)

theorem onCommand_reacted (now : Instant) (command : Command) (loop : Loop) :
    Reacted now loop (.command command) (loop.onCommand command) := by
  cases command with
  | send frame flush ticket => exact .send frame flush ticket
  | close reason ticket => exact .close reason ticket
  | cancel cause => exact .cancel cause

theorem onDeadline_reacted (now : Instant) (loop : Loop) :
    Reacted now loop .deadline loop.onDeadline := by
  rw [onDeadline]
  split
  · rename_i pending
    exact .deadline pending
  · rename_i decided
    exact .deadlinePassed (Bool.eq_false_iff.mpr decided)

theorem react_reacted (now : Instant) (stimulus : Stimulus) (loop : Loop) :
    Reacted now loop stimulus (loop.react now stimulus) := by
  cases stimulus with
  | frame frame =>
      cases frame with
      | close reason => exact remoteEnd_reacted now _ loop rfl
      | text | binary | ping | pong => exact .frame _ _ rfl (onFrame_heard now loop _)
  | failure error => exact .failure error
  | ended => exact remoteEnd_reacted now _ loop rfl
  | command command => exact onCommand_reacted now command loop
  | abandoned => exact .abandoned
  | tick tick => exact .tick tick _ (onTick_ticked now tick loop)
  | deadline => exact onDeadline_reacted now loop

theorem onWritten_resumed (now : Instant) (errand : Errand) (loop : Loop)
    (concluding : loop.Concluding errand) :
    Resumed now loop (.ok ()) (loop.onWritten now errand) := by
  cases errand with
  | answerPing => exact .answeredPing concluding
  | acknowledge packet => exact .acknowledged packet _ concluding (onEvent_noted _ _)
  | heartbeat beat limit =>
      by_cases armed : loop.pongTimer.isArmed = true
      · simp only [onWritten, armed, if_true]
        exact .pingedAgain beat limit concluding armed
      · simp only [onWritten, armed]
        exact .pinged beat limit concluding (Bool.eq_false_iff.mpr armed)
  | request ticket => exact .served ticket concluding

theorem onWriteFailed_resumed (now : Instant) (error : Error) (errand : Errand) (loop : Loop)
    (writing : loop.phase.errand? = some errand) :
    Resumed now loop (.error error) (loop.onWriteFailed error errand) := by
  cases errand with
  | request ticket => exact .requestFailed error ticket writing
  | answerPing | acknowledge | heartbeat => exact .failed error _ writing (by simp)

theorem resume_resumed (now : Instant) (result : Except Error Unit) (loop : Loop) :
    Resumed now loop result (loop.resume now result) := by
  cases phase : loop.phase with
  | idle | ended =>
      have same : loop.resume now result = loop := by cases result <;> simp [resume, phase]
      rw [same]
      exact .unmoved result (by rw [phase]; rfl)
  | closing reason exit =>
      have same : loop.resume now result = loop.finish exit := by
        cases result <;> simp [resume, phase]
      rw [same]
      exact .closed reason exit result phase
  | sending frame flush errand =>
      cases result with
      | error error =>
          simp only [resume, phase]
          exact onWriteFailed_resumed now error errand loop (by rw [phase]; rfl)
      | ok =>
          cases flush with
          | true =>
              simp only [resume, phase]
              exact .sent frame errand phase
          | false =>
              simp only [resume, phase]
              exact onWritten_resumed now errand loop (Or.inl ⟨frame, phase⟩)
  | flushing errand =>
      cases result with
      | error error =>
          simp only [resume, phase]
          exact onWriteFailed_resumed now error errand loop (by rw [phase]; rfl)
      | ok =>
          simp only [resume, phase]
          exact onWritten_resumed now errand loop (Or.inr phase)

end Loop

end ChatSocket.Connection
