import ChatSocket.Proofs.Connection.Ending
import ChatSocket.Proofs.Connection.Errands

/-!
# What ends a connection

`Ends` lists what makes a running loop stop, each with the cause that the connection
ends with and what the transport is closed with.  `stops_iff_ends` shows that the
list is complete, that nothing on it is survived, and that neither the cause nor the
calls change afterwards.
-/

set_option autoImplicit false

namespace ChatSocket.Connection

namespace System

inductive Ends (system : System) : Move → Option Error → Option CloseReason → Prop
  | earlyEnd (move : Move) (stimulus : Stimulus) (taken : system.stimulus? move = some stimulus)
      (remote : stimulus.isRemoteEnd = true) (nothing : system.loop.receivedAny = false) :
      Ends system move (some .earlyDisconnect) none
  | pendingEnd (move : Move) (stimulus : Stimulus) (taken : system.stimulus? move = some stimulus)
      (remote : stimulus.isRemoteEnd = true) (something : system.loop.receivedAny = true)
      (pending : system.loop.readiness.isPending = true) :
      Ends system move (some .connectionClosed) none
  | orderlyEnd (move : Move) (stimulus : Stimulus) (taken : system.stimulus? move = some stimulus)
      (remote : stimulus.isRemoteEnd = true) (something : system.loop.receivedAny = true)
      (ready : system.loop.readiness.isReady = true) : Ends system move none none
  | receiveFailed (move : Move) (error : Error)
      (taken : system.stimulus? move = some (.failure error)) :
      Ends system move (some error) none
  | writeFailed (error : Error) (errand : Errand)
      (writing : system.loop.phase.errand? = some errand) :
      Ends system (.answer (.error error)) (some error) none
  | refused (move : Move) (frame : Frame) (ns : String) (data : Option Socket.Refusal)
      (taken : system.stimulus? move = some (.frame frame))
      (read : frame.socketPacket? = some (.connectError ns data)) :
      Ends system move
        (some (.connectRejected ((data.map Socket.Refusal.message).getD "no details")))
        (some (.protocolError ("Received connect error: " ++
          (data.map Socket.Refusal.message).getD "no details")))
  /-- An event that is to be acknowledged is looked at later. -/
  | malformed (move : Move) (frame : Frame) (error : ProtocolError)
      (taken : system.stimulus? move = some (.frame frame)) (malformed : Malformed frame error)
      (unasked : ∀ ns ackId name args,
        frame.socketPacket? = some (.event ns (some ackId) name args) →
          system.loop.options.acknowledge = false)
      (pending : system.loop.readiness.isPending = true) :
      Ends system move (some error.toError) (some (.protocolError error.message))
  | malformedEvent (packet : Socket.Packet) (error : ProtocolError)
      (concluding : system.loop.Concluding (.acknowledge packet))
      (refused : Event.decode packet = .protocolError error)
      (pending : system.loop.readiness.isPending = true) :
      Ends system (.answer (.ok ())) (some error.toError) (some (.protocolError error.message))
  | pingLate (beat : Heartbeat) (limit : Instant)
      (writing : system.loop.phase.errand? = some (.heartbeat beat limit))
      (passed : limit ≤ system.now) :
      Ends system .expire (some (.pingTimeout beat.timeout.millis)) (some .goingAway)
  | pongMissing (move : Move) (generation : Nat) (beat : Heartbeat)
      (taken : system.stimulus? move = some (.tick ⟨.pong, generation⟩))
      (live : system.loop.pongTimer.isLive generation = true)
      (inForce : system.loop.heartbeat = some beat) :
      Ends system move (some (.pongTimeout beat.timeout.millis))
        (some { CloseReason.goingAway with reason := "pong timeout" })
  | connectTimeout (move : Move) (taken : system.stimulus? move = some .deadline)
      (pending : system.loop.readiness.isPending = true) :
      Ends system move
        (some (.connectTimeout system.loop.options.connectTimeout.millis)) (some .goingAway)
  | cancelled (move : Move) (cause : Error)
      (taken : system.stimulus? move = some (.command (.cancel cause))) :
      Ends system move (some cause) (some .goingAway)
  | closed (move : Move) (reason : CloseReason) (ticket : Ticket)
      (taken : system.stimulus? move = some (.command (.close reason ticket))) :
      Ends system move none (some reason)
  | abandoned (move : Move) (taken : system.stimulus? move = some .abandoned) :
      Ends system move none (some .goingAway)

end System

/-! ## Each of them stops the loop -/

namespace Loop

/-- The loop stops with a cause, whoever asked for it. -/
def Leaves (cause : Option Error) (farewell : Option CloseReason) (before after : Loop) : Prop :=
  ∃ ticket, Stops ⟨cause, farewell, ticket⟩ before after

theorem leaves_fail (cause : Error) (farewell : Option CloseReason) (before between : Loop)
    (alike : Alike before between) :
    Leaves (some cause) farewell before (between.fail cause farewell) :=
  ⟨none, between, alike, rfl⟩

theorem alike_seen (loop : Loop) : Alike loop loop.seen := by
  rw [seen]
  split
  · exact alike_self loop
  · exact ⟨rfl, rfl, rfl, fun _ => rfl⟩

theorem ready_of_decided (loop : Loop) (live : Live loop)
    (decided : loop.readiness.isPending = false) : loop.readiness.isReady = true := by
  rcases outcome : loop.readiness.outcome with _ | error | reason
  · simp [Readiness.isPending, outcome] at decided
  · exact absurd outcome (live.unfailed error)
  · simp [Readiness.isReady, outcome]

theorem react_of_remoteEnd (now : Instant) (stimulus : Stimulus) (loop : Loop)
    (remote : stimulus.isRemoteEnd = true) : loop.react now stimulus = loop.remoteEnd := by
  cases stimulus with
  | frame frame =>
      cases frame with
      | close reason => rfl
      | text | binary | ping | pong => cases remote
  | ended => rfl
  | failure | command | abandoned | tick | deadline => cases remote

/-- A frame that carries a packet is no close. -/
theorem react_of_read (now : Instant) (frame : Frame) (packet : Engine.Packet) (loop : Loop)
    (read : Engine.Packet.decode? frame = some packet) :
    loop.react now (.frame frame) = loop.seen.onEnginePacket now packet := by
  cases frame with
  | text | binary =>
      simp only [react, onFrame, read]
      rfl
  | ping | pong | close => cases read

theorem react_of_socketPacket (now : Instant) (frame : Frame) (packet : Socket.Packet)
    (loop : Loop) (read : frame.socketPacket? = some packet) :
    loop.react now (.frame frame) = loop.seen.onSocketPacket now packet := by
  obtain ⟨payload, message, rfl⟩ := (frame.socketPacket?_eq_some_iff packet).mp read
  rw [react_of_read now frame _ loop message]
  rfl

theorem report_pending (error : ProtocolError) (loop : Loop)
    (pending : loop.readiness.isPending = true) :
    loop.report error = loop.fail error.toError (some (.protocolError error.message)) := by
  simp [report, pending]

/-- Malformed input is reported, whichever layer it is malformed at. -/
theorem react_of_malformed (now : Instant) (frame : Frame) (error : ProtocolError) (loop : Loop)
    (malformed : Malformed frame error)
    (unasked : ∀ ns ackId name args,
      frame.socketPacket? = some (.event ns (some ackId) name args) →
        loop.options.acknowledge = false) :
    loop.react now (.frame frame) = loop.seen.report error := by
  cases malformed with
  | engine raw reason cause read => exact react_of_read now frame _ loop read
  | opening data read zero =>
      rw [react_of_read now frame _ loop read]
      have zero : (data.pingInterval.isZero || data.pingTimeout.isZero) = true := by
        simpa using zero
      simp only [onEnginePacket, onOpen, zero, if_true]
  | binary bytes read => exact react_of_read now frame _ loop read
  | socket raw reason cause read => exact react_of_socketPacket now frame _ loop read
  | binaryEvent ns ackId name bytes read => exact react_of_socketPacket now frame _ loop read
  | binaryAcknowledge ns ackId bytes read => exact react_of_socketPacket now frame _ loop read
  | event ns ackId name args error read refused =>
      rw [react_of_socketPacket now frame _ loop read]
      have unanswered :
          acknowledgement? loop.seen.options (.event ns ackId name args) = none := by
        cases ackId with
        | none => rfl
        | some id =>
            rw [options_seen]
            simp [acknowledgement?, unasked ns id name args read]
      simp only [onSocketPacket, onEventPacket, unanswered, refused, onEvent]

theorem resume_of_failed (now : Instant) (error : Error) (errand : Errand) (loop : Loop)
    (writing : loop.phase.errand? = some errand) :
    loop.resume now (.error error) = loop.onWriteFailed error errand := by
  cases phase : loop.phase with
  | sending frame flush other | flushing other =>
      rw [phase] at writing
      cases writing
      simp [resume, phase]
  | idle | closing | ended => simp [Phase.errand?, phase] at writing

theorem resume_of_concluding (now : Instant) (errand : Errand) (loop : Loop)
    (concluding : loop.Concluding errand) :
    loop.resume now (.ok ()) = loop.onWritten now errand := by
  rcases concluding with ⟨frame, sending⟩ | flushing
  · simp [resume, sending]
  · simp [resume, flushing]

/-- Who asked for the frame makes no difference to how the loop stops. -/
theorem leaves_of_writeFailed (error : Error) (errand : Errand) (loop : Loop) :
    Leaves (some error) none loop (loop.onWriteFailed error errand) := by
  cases errand with
  | request ticket =>
      exact leaves_fail error none loop (loop.reply ticket (.error error)) ⟨rfl, rfl, rfl, id⟩
  | answerPing | acknowledge | heartbeat => exact leaves_fail error none loop loop (alike_self loop)

theorem leaves_of_refusedEvent (now : Instant) (packet : Socket.Packet) (error : ProtocolError)
    (loop : Loop) (refused : Event.decode packet = .protocolError error)
    (pending : loop.readiness.isPending = true) :
    Leaves (some error.toError) (some (.protocolError error.message)) loop
      (loop.onWritten now (.acknowledge packet)) := by
  have reported := report_pending error { loop with phase := .idle } pending
  simp only [onWritten, refused, onEvent]
  rw [reported]
  exact leaves_fail _ _ loop { loop with phase := .idle } ⟨rfl, rfl, rfl, id⟩

theorem leaves_of_livePong (now : Instant) (generation : Nat) (beat : Heartbeat) (loop : Loop)
    (live : loop.pongTimer.isLive generation = true) (inForce : loop.heartbeat = some beat) :
    Leaves (some (.pongTimeout beat.timeout.millis))
      (some { CloseReason.goingAway with reason := "pong timeout" }) loop
      (loop.react now (.tick ⟨.pong, generation⟩)) := by
  have used := Slot.accept_used generation loop.pongTimer live
  have millis : (loop.heartbeat.map (·.timeout.millis)).getD 0 = beat.timeout.millis := by
    simp [inForce]
  simp only [react, onTick, onPongTick, used, if_true, millis]
  exact leaves_fail _ _ loop { loop with pongTimer := { loop.pongTimer with current := none } }
    ⟨rfl, rfl, rfl, id⟩

end Loop

namespace System

theorem step_of_taken (system : System) (move : Move) (stimulus : Stimulus)
    (taken : system.stimulus? move = some stimulus) :
    (system.step move).loop = system.loop.react system.now stimulus := by
  obtain ⟨idle, offered⟩ := (stimulus?_eq_some_iff system move stimulus).mp taken
  exact step_loop_of_offer? system move stimulus (system.loop.isIdle_iff.mpr idle) offered

theorem step_of_passed (system : System) (beat : Heartbeat) (limit : Instant)
    (writing : system.loop.phase.errand? = some (.heartbeat beat limit))
    (passed : limit ≤ system.now) : (system.step .expire).loop = system.loop.expire := by
  have limited := (limit?_eq_some_iff system.loop limit).mpr ⟨beat, writing⟩
  simp [step, limited, passed]

theorem leaves_of_ends (system : System) (move : Move) (cause : Option Error)
    (farewell : Option CloseReason) (ends : Ends system move cause farewell) :
    Loop.Leaves cause farewell system.loop (system.step move).loop := by
  cases ends with
  | earlyEnd move stimulus taken remote nothing =>
      rw [step_of_taken system move stimulus taken, Loop.react_of_remoteEnd _ _ _ remote]
      simp only [Loop.remoteEnd, nothing]
      exact Loop.leaves_fail _ _ _ _ (Loop.alike_self system.loop)
  | pendingEnd move stimulus taken remote something pending =>
      rw [step_of_taken system move stimulus taken, Loop.react_of_remoteEnd _ _ _ remote]
      simp only [Loop.remoteEnd, something, pending]
      exact Loop.leaves_fail _ _ _ _ (Loop.alike_self system.loop)
  | orderlyEnd move stimulus taken remote something ready =>
      have decided : system.loop.readiness.isPending = false := by
        rw [Readiness.isReady] at ready
        split at ready
        · rename_i reason decided
          simp [Readiness.isPending, decided]
        · cases ready
      rw [step_of_taken system move stimulus taken, Loop.react_of_remoteEnd _ _ _ remote]
      simp only [Loop.remoteEnd, something, decided]
      exact ⟨none, Loop.stop_stops ⟨none, none, none⟩ system.loop⟩
  | receiveFailed move error taken =>
      rw [step_of_taken system move _ taken]
      exact Loop.leaves_fail error none _ _ (Loop.alike_self system.loop)
  | writeFailed error errand writing =>
      have answered := Loop.resume_of_failed system.now error errand system.loop writing
      rw [step, answered]
      exact Loop.leaves_of_writeFailed error errand system.loop
  | refused move frame ns data taken read =>
      rw [step_of_taken system move _ taken, Loop.react_of_socketPacket _ frame _ _ read]
      exact Loop.leaves_fail _ _ system.loop system.loop.seen (Loop.alike_seen system.loop)
  | malformed move frame error taken malformed unasked pending =>
      have pendingToo : system.loop.seen.readiness.isPending = true := by
        rw [Loop.readiness_seen]
        exact pending
      rw [step_of_taken system move _ taken,
        Loop.react_of_malformed _ frame error _ malformed unasked,
        Loop.report_pending error _ pendingToo]
      exact Loop.leaves_fail _ _ system.loop system.loop.seen (Loop.alike_seen system.loop)
  | malformedEvent packet error concluding refused pending =>
      have answered := Loop.resume_of_concluding system.now _ system.loop concluding
      rw [step, answered]
      exact Loop.leaves_of_refusedEvent system.now packet error system.loop refused pending
  | pingLate beat limit writing passed =>
      rw [step_of_passed system beat limit writing passed, expire_of_writing _ beat limit writing]
      exact Loop.leaves_fail _ _ _ _ (Loop.alike_self system.loop)
  | pongMissing move generation beat taken live inForce =>
      rw [step_of_taken system move _ taken]
      exact Loop.leaves_of_livePong _ generation beat system.loop live inForce
  | connectTimeout move taken pending =>
      rw [step_of_taken system move _ taken]
      simp only [Loop.react, Loop.onDeadline, pending, if_true]
      exact Loop.leaves_fail _ _ _ _ (Loop.alike_self system.loop)
  | cancelled move cause taken =>
      rw [step_of_taken system move _ taken]
      exact Loop.leaves_fail cause _ _ _ (Loop.alike_self system.loop)
  | closed move reason ticket taken =>
      rw [step_of_taken system move _ taken]
      exact ⟨some ticket, Loop.stop_stops ⟨none, some reason, some ticket⟩ system.loop⟩
  | abandoned move taken =>
      rw [step_of_taken system move _ taken]
      exact ⟨none, Loop.stop_stops ⟨none, some .goingAway, none⟩ system.loop⟩

end System

/-! ## Nothing else does -/

namespace Loop

theorem pending_of_reported (error : ProtocolError) (loop after : Loop)
    (running : loop.isStopped = false) (reported : Reported error loop after)
    (stopped : after.isStopped = true) : loop.readiness.isPending = true := by
  cases reported with
  | fatal pending => exact pending
  | passed decided => cases running.symm.trans stopped

theorem refused_of_noted (event : Event) (loop after : Loop) (running : loop.isStopped = false)
    (noted : Noted loop event after) (stopped : after.isStopped = true) :
    ∃ error, event = .protocolError error ∧ loop.readiness.isPending = true := by
  cases noted with
  | problem error after reported =>
      exact ⟨error, rfl, pending_of_reported error loop after running reported stopped⟩
  | signal | signalAgain | input | output => cases running.symm.trans stopped

theorem running_of_joined (now : Instant) (loop after : Loop) (joined : Joined now loop after) :
    after.isStopped = loop.isStopped := by
  cases joined with
  | again | waiting | assumed | delayed => rfl

theorem heard_of_stopped (now : Instant) (frame : Frame) (loop after : Loop)
    (running : loop.isStopped = false) (heard : Heard now loop frame after)
    (stopped : after.isStopped = true) :
    (∃ ns data, frame.socketPacket? = some (.connectError ns data)) ∨
      ∃ error, Malformed frame error ∧ loop.readiness.isPending = true ∧
        ∀ ns ackId name args, frame.socketPacket? = some (.event ns (some ackId) name args) →
          loop.options.acknowledge = false := by
  cases heard with
  | silent | opened | answered => cases running.symm.trans stopped
  | asked | acknowledged => cases stopped
  | joined ns data after read joined =>
      rw [running_of_joined now loop after joined, running] at stopped
      cases stopped
  | refused ns data read => exact Or.inl ⟨ns, data, read⟩
  | noted ns ackId name args after read unasked noted =>
      obtain ⟨error, refused, pending⟩ :=
        refused_of_noted _ loop after running noted stopped
      refine Or.inr ⟨error, .event ns ackId name args error read refused, pending, ?_⟩
      intro other id otherName otherArgs readToo
      rw [read] at readToo
      cases readToo
      rcases unasked with none | unwanted
      · cases none
      · exact unwanted
  | reported error after malformed noEvent reported =>
      have pending := pending_of_reported error loop after running reported stopped
      refine Or.inr ⟨error, malformed, pending, ?_⟩
      intro ns ackId name args read
      exact absurd read (noEvent ns (some ackId) name args)

end Loop

namespace System

theorem ends_of_frame (system : System) (move : Move) (frame : Frame) (after : Loop)
    (running : system.loop.isStopped = false)
    (taken : system.stimulus? move = some (.frame frame))
    (heard : Loop.Heard system.now system.loop.seen frame after)
    (stopped : after.isStopped = true) : ∃ cause farewell, Ends system move cause farewell := by
  have seenRunning : system.loop.seen.isStopped = false := by
    rw [Loop.isStopped, Loop.phase_seen]
    exact running
  have reason := Loop.heard_of_stopped _ frame _ after seenRunning heard stopped
  rw [Loop.readiness_seen, Loop.options_seen] at reason
  rcases reason with ⟨ns, data, read⟩ | ⟨error, malformed, pending, unasked⟩
  · exact ⟨_, _, .refused move frame ns data taken read⟩
  · exact ⟨_, _, .malformed move frame error taken malformed unasked pending⟩

theorem ends_of_tick (system : System) (move : Move) (tick : Tick) (after : Loop)
    (live : system.loop.Live) (running : system.loop.isStopped = false)
    (taken : system.stimulus? move = some (.tick tick))
    (ticked : Loop.Ticked system.now system.loop tick after) (stopped : after.isStopped = true) :
    ∃ cause farewell, Ends system move cause farewell := by
  cases ticked with
  | pong generation isLive =>
      -- A live loop arms the timer only under a heartbeat.
      have armed := Slot.isArmed_of_isLive generation _ isLive
      obtain ⟨beat, inForce⟩ := Option.isSome_iff_exists.mp (live.ponging armed)
      exact ⟨_, _, .pongMissing move generation beat taken isLive inForce⟩
  | ping => cases stopped
  | stale | pingAlone | assumed | assumedAgain => cases running.symm.trans stopped

theorem ends_of_stimulus (system : System) (move : Move) (stimulus : Stimulus) (after : Loop)
    (live : system.loop.Live) (running : system.loop.isStopped = false)
    (taken : system.stimulus? move = some stimulus)
    (reacted : Loop.Reacted system.now system.loop stimulus after)
    (stopped : after.isStopped = true) : ∃ cause farewell, Ends system move cause farewell := by
  cases reacted with
  | earlyEnd stimulus remote nothing => exact ⟨_, _, .earlyEnd move stimulus taken remote nothing⟩
  | pendingEnd stimulus remote something pending =>
      exact ⟨_, _, .pendingEnd move stimulus taken remote something pending⟩
  | orderlyEnd stimulus remote something decided =>
      have ready := Loop.ready_of_decided system.loop live decided
      exact ⟨_, _, .orderlyEnd move stimulus taken remote something ready⟩
  | frame frame after notClose heard =>
      exact ends_of_frame system move frame after running taken heard stopped
  | failure error => exact ⟨_, _, .receiveFailed move error taken⟩
  | send => cases stopped
  | close reason ticket => exact ⟨_, _, .closed move reason ticket taken⟩
  | cancel cause => exact ⟨_, _, .cancelled move cause taken⟩
  | abandoned => exact ⟨_, _, .abandoned move taken⟩
  | tick tick after ticked =>
      exact ends_of_tick system move tick after live running taken ticked stopped
  | deadline pending => exact ⟨_, _, .connectTimeout move taken pending⟩
  | deadlinePassed => cases running.symm.trans stopped

theorem ends_of_answer (system : System) (result : Except Error Unit) (after : Loop)
    (running : system.loop.isStopped = false)
    (resumed : Loop.Resumed system.now system.loop result after)
    (stopped : after.isStopped = true) :
    ∃ cause farewell, Ends system (.answer result) cause farewell := by
  cases resumed with
  | sent | answeredPing | pinged | pingedAgain | served => cases stopped
  | acknowledged packet after concluding noted =>
      obtain ⟨error, refused, pending⟩ := Loop.refused_of_noted _ _ after rfl noted stopped
      exact ⟨_, _, .malformedEvent packet error concluding refused pending⟩
  | requestFailed error ticket writing => exact ⟨_, _, .writeFailed error _ writing⟩
  | failed error errand writing unasked => exact ⟨_, _, .writeFailed error errand writing⟩
  | closed reason exit result closing => simp [Loop.isStopped, closing] at running
  | unmoved => cases running.symm.trans stopped

/-- A running loop that stops had a reason to. -/
theorem ends_of_stepped (system : System) (move : Move) (after : Loop) (live : system.loop.Live)
    (running : system.loop.isStopped = false) (stepped : Stepped system move after)
    (stopped : after.isStopped = true) : ∃ cause farewell, Ends system move cause farewell := by
  cases stepped with
  | took move stimulus after taken reacted =>
      exact ends_of_stimulus system move stimulus after live running taken reacted stopped
  | fired kind =>
      rw [Loop.isStopped, Loop.phase_setSlot] at stopped
      cases running.symm.trans stopped
  | answered result after resumed =>
      exact ends_of_answer system result after running resumed stopped
  | expired beat limit writing passed => exact ⟨_, _, .pingLate beat limit writing passed⟩
  | still => cases running.symm.trans stopped

/-! ## The exits of reachable loops -/

/-- Nothing that happens after the stop changes how the connection ends. -/
theorem left_for_good (system : System) (move : Move) (cause : Option Error)
    (farewell : Option CloseReason) (later : List Move) (coherent : system.loop.Coherent)
    (running : system.loop.isStopped = false) (ends : Ends system move cause farewell) :
    ((system.step move).run later).loop.isStopped = true ∧
      ((system.step move).run later).loop.ending? = some cause ∧
      ((system.step move).run later).loop.calls =
        system.loop.calls ++ (farewell.map Call.close).toList ∧
      ((system.step move).run later).loop.readiness =
        system.loop.readiness.complete (.error (cause.getD .connectionClosed)) := by
  obtain ⟨ticket, stops⟩ := leaves_of_ends system move cause farewell ends
  have coherentAfter := Loop.coherent_stepped system move _ coherent (step_stepped system move)
  have stopped := stops.isStopped _ _ _
  have keeps := stopped_run (system.step move) later coherentAfter stopped
  refine ⟨keeps.stopped, ?_, ?_, ?_⟩
  · rw [keeps.ending]
    exact stops.ending? _ _ _ (coherent.running running).unclosed
  · rw [keeps.calls]
    exact stops.calls _ _ _
  · rw [keeps.readiness]
    exact stops.readiness _ _ _

/-- There is never more than one cause. -/
theorem cause_unique (system : System) (move : Move) (cause other : Option Error)
    (farewell otherFarewell : Option CloseReason) (coherent : system.loop.Coherent)
    (running : system.loop.isStopped = false) (ends : Ends system move cause farewell)
    (endsToo : Ends system move other otherFarewell) : cause = other := by
  obtain ⟨_, ending, _⟩ := left_for_good system move cause farewell [] coherent running ends
  obtain ⟨_, endingToo, _⟩ :=
    left_for_good system move other otherFarewell [] coherent running endsToo
  rw [ending] at endingToo
  exact Option.some.inj endingToo

/-- A running loop stops exactly by one of `Ends`.  Its cause and its farewell stay, and the
transport was not closed before.  What `Ends` says of frames received and of frames being written
is a matter of the moves made so far. -/
theorem stops_iff_ends (options : ConnectOptions) (moves : List Move) (move : Move)
    (running : ((start options).run moves).loop.isStopped = false) :
    (((start options).run (moves ++ [move])).loop.isStopped = true ↔
        ∃ cause farewell, Ends ((start options).run moves) move cause farewell) ∧
      (∀ cause farewell, Ends ((start options).run moves) move cause farewell →
        ∀ later,
          ((start options).run (moves ++ move :: later)).loop.isStopped = true ∧
          ((start options).run (moves ++ move :: later)).loop.ending? = some cause ∧
          ((start options).run (moves ++ move :: later)).loop.calls =
            ((start options).run moves).loop.calls ++ (farewell.map Call.close).toList) ∧
      (∀ reason, Call.close reason ∉ ((start options).run moves).loop.calls) ∧
      (((start options).run moves).loop.receivedAny = true ↔
        ∃ before earlier later frame, moves = before ++ earlier :: later ∧
          ((start options).run before).stimulus? earlier = some (.frame frame) ∧
          frame.isClose = false) ∧
      ∀ errand, ((start options).run moves).loop.phase.errand? = some errand →
        ∃ before asking during, moves = before ++ asking :: during ∧
          Asks ((start options).run before) asking errand ∧
          ∀ part, part <+: during →
            ((start options).run (before ++ asking :: part)).loop.phase.errand? = some errand := by
  have coherent := Loop.coherent_run options moves
  have live := coherent.running running
  refine ⟨⟨?_, ?_⟩, ?_, fun reason => close_not_mem_of_running options moves reason running,
    receivedAny_iff options moves, asked_of_errand options moves⟩
  · intro stopped
    rw [run_append] at stopped
    exact ends_of_stepped _ move _ live running (step_stepped _ move) stopped
  · rintro ⟨cause, farewell, ends⟩
    rw [run_append]
    exact (left_for_good _ move cause farewell [] coherent running ends).1
  · intro cause farewell ends later
    rw [run_append_cons]
    obtain ⟨stopped, ending, calls, _⟩ :=
      left_for_good _ move cause farewell later coherent running ends
    exact ⟨stopped, ending, calls⟩

/-- The transport ends after a frame and before the connection is ready. -/
theorem stops_at_pending_end :
    ((start .default).run [.arrive (.frame (.ping []))]).loop.isStopped = false ∧
      ((start .default).run [.arrive (.frame (.ping [])), .arrive .ended]).loop.ending? =
        some (some .connectionClosed) ∧
      ((start .default).run [.arrive (.frame (.ping [])), .arrive .ended]).loop.calls = [] := by
  have ends : Ends ((start .default).run [.arrive (.frame (.ping []))]) (.arrive .ended)
      (some .connectionClosed) none :=
    .pendingEnd _ _ rfl rfl rfl rfl
  obtain ⟨_, left, _⟩ :=
    stops_iff_ends .default [.arrive (.frame (.ping []))] (.arrive .ended) rfl
  exact ⟨rfl, (left _ _ ends []).2⟩

end System

end ChatSocket.Connection
