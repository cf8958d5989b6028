import ChatSocket.Proofs.Connection.Exits

/-!
# What is passed on

Each frame that the loop takes adds an event to the output or nothing, as `Inbound.item`
says from the frame alone, from whether the connection was ready, and from the transport's
answer to the acknowledgement if there was one to give.  `output_eq_items` shows that the
output of a run is made of these items in the order of the frames.
-/

set_option autoImplicit false

namespace ChatSocket

/-- What is wrong with a socket packet. -/
def Socket.Packet.problem? : Socket.Packet → Option ProtocolError
  | .event ns ackId name args =>
      match Event.decode (.event ns ackId name args) with
      | .protocolError error => some error
      | _ => none
  | .binaryEvent ns ackId name bytes =>
      some ⟨.socket (.binaryEvent ns ackId name bytes), "binary packets are not supported", none⟩
  | .binaryAcknowledge ns ackId bytes =>
      some ⟨.socket (.binaryAcknowledge ns ackId bytes), "binary packets are not supported", none⟩
  | .broken raw reason cause =>
      some ⟨.socket (.broken raw reason cause), "received broken socket packet: " ++ reason, cause⟩
  | .connect .. | .disconnect _ | .acknowledge .. | .connectError .. => none

namespace Frame

/-- What is wrong with a frame, at whichever layer. -/
def problem? (frame : Frame) : Option ProtocolError :=
  match Engine.Packet.decode? frame with
  | some (.opening data) =>
      if data.pingInterval.isZero || data.pingTimeout.isZero then
        some ⟨.engine (.opening data), "ping interval and ping timeout must be positive", none⟩
      else none
  | some (.binary bytes) =>
      some ⟨.engine (.binary bytes), "binary messages are not supported", none⟩
  | some (.broken raw reason cause) =>
      some ⟨.engine (.broken raw reason cause), "received broken engine packet: " ++ reason, cause⟩
  | some (.message payload) => (Socket.Packet.decode payload).problem?
  | _ => none

/-- The event that a frame carries. -/
def event? (frame : Frame) : Option Event :=
  match frame.socketPacket? with
  | some (.event ns ackId name args) => some (Event.decode (.event ns ackId name args))
  | _ => none

theorem problem?_of_socketPacket (frame : Frame) (packet : Socket.Packet)
    (read : frame.socketPacket? = some packet) : frame.problem? = packet.problem? := by
  obtain ⟨payload, message, rfl⟩ := (frame.socketPacket?_eq_some_iff packet).mp read
  simp [problem?, message]

end Frame

theorem Event.understood_of_map {α : Type} (make : α → Event) (result : Json.Schema.Result α)
    (event : Event) (understood : ∀ value error, make value ≠ .protocolError error)
    (read : make <$> result = .ok event) : ∀ error, event ≠ .protocolError error := by
  cases result with
  | error reason => cases read
  | ok value =>
      cases read
      exact understood value

theorem Event.understood_of_schema (name : String) (schema : Json → Json.Schema.Result Event)
    (argument : Json) (event : Event) (known : schema? name = some schema)
    (read : schema argument = .ok event) : ∀ error, event ≠ .protocolError error := by
  simp only [schema?] at known
  split at known <;> cases known
  · exact understood_of_map _ _ event (by simp) read
  · refine understood_of_map _ _ event ?_ read
    intro value error
    cases value <;> simp [ofOutput]
  · exact understood_of_map _ _ event (by simp) read
  · exact understood_of_map _ _ event (by simp) read
  · exact understood_of_map _ _ event (by simp) read
  · exact understood_of_map _ _ event (by simp) read
  · exact understood_of_map _ _ event (by simp) read

theorem Event.subject_of_decode (packet : Socket.Packet) (error : ProtocolError)
    (refused : Event.decode packet = .protocolError error) : error.subject = .socket packet := by
  cases packet with
  | event ns ackId name args =>
      rcases args with _ | ⟨argument, _ | ⟨second, rest⟩⟩
      · cases refused
        rfl
      · simp only [decode, ofArgument] at refused
        split at refused
        · cases refused
          rfl
        · rename_i schema known
          split at refused
          · rename_i event read
            exact absurd refused (understood_of_schema name schema argument event known read error)
          · cases refused
            rfl
      · cases refused
        rfl
  | connect | disconnect | acknowledge | connectError | binaryEvent | binaryAcknowledge | broken =>
      cases refused
      rfl

namespace Connection

theorem problem?_eq_some_iff (frame : Frame) (error : ProtocolError) :
    frame.problem? = some error ↔ Malformed frame error := by
  constructor
  · intro wrong
    cases read : Engine.Packet.decode? frame with
    | none => simp [Frame.problem?, read] at wrong
    | some outer =>
        cases outer with
        | opening data =>
            by_cases zero : (data.pingInterval.isZero || data.pingTimeout.isZero) = true
            · simp only [Frame.problem?, read, zero, if_true] at wrong
              cases wrong
              exact .opening data read (Bool.or_eq_true_iff.mp zero)
            · simp [Frame.problem?, read, zero] at wrong
        | binary bytes =>
            simp only [Frame.problem?, read] at wrong
            cases wrong
            exact .binary bytes read
        | broken raw reason cause =>
            simp only [Frame.problem?, read] at wrong
            cases wrong
            exact .engine raw reason cause read
        | message payload =>
            have carried := frame.socketPacket?_of_message payload read
            rw [frame.problem?_of_socketPacket _ carried] at wrong
            cases inner : Socket.Packet.decode payload with
            | event ns ackId name args =>
                rw [inner] at carried wrong
                simp only [Socket.Packet.problem?] at wrong
                split at wrong
                · rename_i refused
                  cases wrong
                  exact .event ns ackId name args _ carried refused
                · cases wrong
            | binaryEvent ns ackId name bytes =>
                rw [inner] at carried wrong
                cases wrong
                exact .binaryEvent ns ackId name bytes carried
            | binaryAcknowledge ns ackId bytes =>
                rw [inner] at carried wrong
                cases wrong
                exact .binaryAcknowledge ns ackId bytes carried
            | broken raw reason cause =>
                rw [inner] at carried wrong
                cases wrong
                exact .socket raw reason cause carried
            | connect | disconnect | acknowledge | connectError =>
                rw [inner] at wrong
                cases wrong
        | close | ping | pong | upgrade | noop => simp [Frame.problem?, read] at wrong
  · intro malformed
    cases malformed with
    | engine raw reason cause read | binary bytes read => simp [Frame.problem?, read]
    | opening data read zero => simp [Frame.problem?, read, zero]
    | socket raw reason cause read | binaryEvent ns ackId name bytes read
    | binaryAcknowledge ns ackId bytes read => rw [frame.problem?_of_socketPacket _ read]; rfl
    | event ns ackId name args error read refused =>
        rw [frame.problem?_of_socketPacket _ read]
        simp [Socket.Packet.problem?, refused]

/-- The error names the packet that could not be understood. -/
theorem subject_of_problem (frame : Frame) (error : ProtocolError)
    (wrong : frame.problem? = some error) :
    (∃ packet, Engine.Packet.decode? frame = some packet ∧ error.subject = .engine packet) ∨
      ∃ packet, frame.socketPacket? = some packet ∧ error.subject = .socket packet := by
  have malformed := (problem?_eq_some_iff frame error).mp wrong
  cases malformed with
  | engine raw reason cause read => exact Or.inl ⟨_, read, rfl⟩
  | opening data read zero => exact Or.inl ⟨_, read, rfl⟩
  | binary bytes read => exact Or.inl ⟨_, read, rfl⟩
  | socket raw reason cause read => exact Or.inr ⟨_, read, rfl⟩
  | binaryEvent ns ackId name bytes read => exact Or.inr ⟨_, read, rfl⟩
  | binaryAcknowledge ns ackId bytes read => exact Or.inr ⟨_, read, rfl⟩
  | event ns ackId name args error read refused =>
      exact Or.inr ⟨_, read, Event.subject_of_decode _ error refused⟩

/-- A frame that the loop takes, with what decides its fate. -/
structure Inbound where
  frame : Frame
  ready : Bool
  /-- What the transport answers next, if it does. -/
  answer? : Option (Except Error Unit)
  deriving DecidableEq

namespace Inbound

/-- Whether the event waits for its acknowledgement, perhaps in vain. -/
def isHeld (options : ConnectOptions) (inbound : Inbound) : Bool :=
  match inbound.frame.socketPacket?, inbound.answer? with
  | some (.event _ (some _) _ _), some (.ok ()) => false
  | some (.event _ (some _) _ _), _ => options.acknowledge
  | _, _ => false

def item (options : ConnectOptions) (inbound : Inbound) : List Event :=
  if inbound.isHeld options then []
  else
    match inbound.frame.problem? with
    | some error => if inbound.ready then [.protocolError error] else []
    | none => (inbound.frame.event?.filter Event.isOutput).toList

end Inbound

/-- What becomes of an event that is looked at. -/
def passed (ready : Bool) (event : Event) : List Event :=
  match event with
  | .protocolError error => if ready then [.protocolError error] else []
  | event => if event.isOutput then [event] else []

namespace Inbound

variable (options : ConnectOptions) (inbound : Inbound)

theorem isHeld_of_noEvent
    (noEvent : ∀ ns ackId name args,
      inbound.frame.socketPacket? ≠ some (.event ns ackId name args)) :
    inbound.isHeld options = false := by
  rw [isHeld]
  split
  · rfl
  · rename_i read _
    exact absurd read (noEvent _ _ _ _)
  · rfl

theorem item_of_event (ns : String) (ackId : Option UInt64) (name : String) (args : List Json)
    (read : inbound.frame.socketPacket? = some (.event ns ackId name args)) :
    inbound.item options =
      if inbound.isHeld options then []
      else passed inbound.ready (Event.decode (.event ns ackId name args)) := by
  have wrong := inbound.frame.problem?_of_socketPacket _ read
  have carried : inbound.frame.event? = some (Event.decode (.event ns ackId name args)) := by
    simp [Frame.event?, read]
  rw [item, wrong, carried]
  cases meant : Event.decode (.event ns ackId name args) <;>
    simp [Socket.Packet.problem?, meant, passed, Event.isOutput, Option.filter_some]

theorem event?_of_noEvent (frame : Frame)
    (noEvent : ∀ ns ackId name args, frame.socketPacket? ≠ some (.event ns ackId name args)) :
    frame.event? = none := by
  rw [Frame.event?]
  split
  · rename_i read
    exact absurd read (noEvent _ _ _ _)
  · rfl

theorem item_of_malformed (error : ProtocolError) (malformed : Malformed inbound.frame error)
    (noEvent : ∀ ns ackId name args,
      inbound.frame.socketPacket? ≠ some (.event ns ackId name args)) :
    inbound.item options = if inbound.ready then [.protocolError error] else [] := by
  have wrong := (problem?_eq_some_iff inbound.frame error).mpr malformed
  rw [item, inbound.isHeld_of_noEvent options noEvent, wrong]
  rfl

theorem item_of_quiet (fine : inbound.frame.problem? = none)
    (noEvent : ∀ ns ackId name args,
      inbound.frame.socketPacket? ≠ some (.event ns ackId name args)) :
    inbound.item options = [] := by
  rw [item, inbound.isHeld_of_noEvent options noEvent, fine,
    event?_of_noEvent inbound.frame noEvent]
  rfl

end Inbound

namespace Loop

theorem push_events (event : Event) (output : Output) (opened : output.closing = none) :
    (output.push event).events = output.events ++ [event] := by
  simp [Output.push, opened]

theorem close_events (cause : Option Error) (output : Output) :
    (output.close cause).events = output.events := by
  cases closing : output.closing <;> simp [Output.close, closing]

theorem events_stop (exit : Exit) (loop : Loop) :
    (loop.stop exit).output.events = loop.output.events := by
  obtain ⟨cause, farewell, ticket⟩ := exit
  cases farewell with
  | none => exact close_events cause loop.output
  | some reason => rfl

theorem events_fail (cause : Error) (farewell : Option CloseReason) (loop : Loop) :
    (loop.fail cause farewell).output.events = loop.output.events :=
  events_stop ⟨some cause, farewell, none⟩ loop

theorem not_ready_of_pending (loop : Loop) (pending : loop.readiness.isPending = true) :
    loop.readiness.isReady = false := by
  have undecided : loop.readiness.outcome = none := Option.isNone_iff_eq_none.mp pending
  simp [Readiness.isReady, undecided]

theorem events_reported (error : ProtocolError) (loop after : Loop) (live : Live loop)
    (reported : Reported error loop after) :
    after.output.events =
      loop.output.events ++ passed loop.readiness.isReady (.protocolError error) := by
  cases reported with
  | fatal pending => simp [events_fail, passed, not_ready_of_pending loop pending]
  | passed decided =>
      simp [push_events _ _ live.unclosed, Connection.passed, ready_of_decided loop live decided]

theorem events_noted (event : Event) (loop after : Loop) (live : Live loop)
    (noted : Noted loop event after) :
    after.output.events = loop.output.events ++ passed loop.readiness.isReady event := by
  cases noted with
  | signal | signalAgain | input => simp [passed, Event.isOutput]
  | problem error after reported => exact events_reported error loop after live reported
  | output event isOutput understood =>
      rw [push_events event loop.output live.unclosed]
      cases event with
      | protocolError error => exact absurd rfl (understood error)
      | processInput | endpointReady => cases isOutput
      | message | error | typingStatus | finalPing | triggeredElement | exception => rfl

theorem output_seen (loop : Loop) : loop.seen.output = loop.output := by
  rw [seen]
  split <;> rfl

theorem events_joined (now : Instant) (loop after : Loop) (joined : Joined now loop after) :
    after.output.events = loop.output.events := by
  cases joined with
  | again | waiting | assumed | delayed => rfl

/-- What an event adds whose acknowledgement is being written. -/
def owed (answer? : Option (Except Error Unit)) (loop : Loop) : List Event :=
  match loop.phase.errand?, answer? with
  | some (.acknowledge packet), some (.ok ()) =>
      passed loop.readiness.isReady (Event.decode packet)
  | _, _ => []

theorem owed_of_noErrand (answer? : Option (Except Error Unit)) (loop : Loop)
    (none : loop.phase.errand? = none) : loop.owed answer? = [] := by
  simp [owed, none]

theorem errand?_of_stopped (loop : Loop) (stopped : loop.isStopped = true) :
    loop.phase.errand? = none := by
  apply Option.eq_none_iff_forall_ne_some.mpr
  intro errand writing
  exact not_errand_of_stopped loop errand stopped writing

theorem owed_of_stopped (answer? : Option (Except Error Unit)) (loop : Loop)
    (stopped : loop.isStopped = true) : loop.owed answer? = [] :=
  owed_of_noErrand answer? loop (errand?_of_stopped loop stopped)

theorem owed_of_kept (answer? : Option (Except Error Unit)) (loop after : Loop)
    (idle : loop.phase = .idle) (kept : FailedOrKept loop after) : after.owed answer? = [] := by
  rcases kept with ⟨cause, farewell, rfl⟩ | kept
  · exact owed_of_stopped _ _ (isStopped_fail cause farewell loop)
  · apply owed_of_noErrand
    rw [kept.phase, idle]
    rfl

theorem owed_of_idle (answer? : Option (Except Error Unit)) (loop : Loop)
    (idle : loop.phase = .idle) : loop.owed answer? = [] := by
  apply owed_of_noErrand
  rw [idle]
  rfl

end Loop

namespace Inbound

variable (options : ConnectOptions) (inbound : Inbound)

theorem item_of_packet (packet : Socket.Packet)
    (read : inbound.frame.socketPacket? = some packet) (fine : packet.problem? = none)
    (noEvent : ∀ ns ackId name args, packet ≠ .event ns ackId name args) :
    inbound.item options = [] := by
  apply item_of_quiet
  · rw [inbound.frame.problem?_of_socketPacket packet read, fine]
  · intro ns ackId name args readToo
    exact noEvent ns ackId name args (Option.some.inj (read.symm.trans readToo))

theorem item_of_silent (silent : Silent inbound.frame) : inbound.item options = [] := by
  cases silent with
  | control read | engineClose read | upgrade read | noop read =>
      apply item_of_quiet <;> simp [Frame.problem?, Frame.socketPacket?, read]
  | disconnect ns read => exact item_of_packet options inbound _ read rfl (by simp)
  | acknowledge ns ackId data read => exact item_of_packet options inbound _ read rfl (by simp)

end Inbound

namespace Loop

/-- What a frame adds at once and what it adds when its acknowledgement is written make its item. -/
theorem events_heard (now : Instant) (frame : Frame) (loop after : Loop)
    (answer? : Option (Except Error Unit)) (live : Live loop) (idle : loop.phase = .idle)
    (heard : Heard now loop frame after) :
    after.output.events ++ after.owed answer? =
      loop.output.events ++
        (Inbound.mk frame loop.readiness.isReady answer?).item loop.options := by
  -- Most frames have no item, and neither add anything nor leave anything owed.
  have unmoved : ∀ after : Loop, after.output.events = loop.output.events →
      after.owed answer? = [] →
      (Inbound.mk frame loop.readiness.isReady answer?).item loop.options = [] →
      after.output.events ++ after.owed answer? =
        loop.output.events ++
          (Inbound.mk frame loop.readiness.isReady answer?).item loop.options := by
    intro after events owes nothing
    rw [events, owes, nothing]
  cases heard with
  | silent silent =>
      exact unmoved loop rfl (owed_of_idle answer? loop idle) (Inbound.item_of_silent _ _ silent)
  | opened data read interval timeout =>
      refine unmoved _ rfl (owed_of_idle _ _ idle) (Inbound.item_of_quiet _ _ ?_ ?_)
      · simp [Frame.problem?, read, interval, timeout]
      · simp [Frame.socketPacket?, read]
  | asked read =>
      refine unmoved _ rfl rfl (Inbound.item_of_quiet _ _ ?_ ?_)
      · simp [Frame.problem?, read]
      · simp [Frame.socketPacket?, read]
  | answered read =>
      refine unmoved _ rfl (owed_of_idle _ _ idle) (Inbound.item_of_quiet _ _ ?_ ?_)
      · simp [Frame.problem?, read]
      · simp [Frame.socketPacket?, read]
  | joined ns data after read joined =>
      have kept := kept_of_joined now loop after joined
      exact unmoved after (events_joined now loop after joined)
        (owed_of_kept answer? loop after idle (Or.inr kept))
        (Inbound.item_of_packet _ _ _ read rfl (by simp))
  | refused ns data read =>
      exact unmoved _ (events_fail _ _ loop) (owed_of_stopped _ _ (isStopped_fail _ _ _))
        (Inbound.item_of_packet _ _ _ read rfl (by simp))
  | acknowledged ns ackId name args answer read wanted written =>
      -- Nothing is added yet; what is owed is the item.
      rw [Inbound.item_of_event _ ⟨frame, _, answer?⟩ ns _ name args read]
      rcases answer? with _ | _ | _ <;> simp [Inbound.isHeld, read, wanted, owed, write,
        Phase.errand?]
  | noted ns ackId name args after read unasked noted =>
      have unheld : (Inbound.mk frame loop.readiness.isReady answer?).isHeld loop.options =
          false := by
        rcases unasked with rfl | unwanted
        · rcases answer? with _ | _ | _ <;> simp [Inbound.isHeld, read]
        · rcases answer? with _ | _ | _ <;> cases ackId <;> simp [Inbound.isHeld, read, unwanted]
      rw [Inbound.item_of_event _ ⟨frame, _, answer?⟩ ns ackId name args read, unheld,
        owed_of_kept answer? loop after idle (kept_of_noted _ loop after noted),
        events_noted _ loop after live noted]
      simp
  | reported error after malformed noEvent reported =>
      rw [Inbound.item_of_malformed _ ⟨frame, _, answer?⟩ error malformed noEvent,
        owed_of_kept answer? loop after idle (kept_of_reported error loop after reported),
        events_reported error loop after live reported]
      exact List.append_nil _

theorem events_ticked (now : Instant) (tick : Tick) (loop after : Loop)
    (answer? : Option (Except Error Unit)) (idle : loop.phase = .idle)
    (ticked : Ticked now loop tick after) :
    after.output.events = loop.output.events ∧ after.owed answer? = [] := by
  cases ticked with
  | stale | pingAlone | assumed | assumedAgain => exact ⟨rfl, owed_of_idle _ _ idle⟩
  | ping generation beat live inForce => exact ⟨rfl, rfl⟩
  | pong generation live =>
      exact ⟨events_fail _ _ _, owed_of_stopped _ _ (isStopped_fail _ _ _)⟩

end Loop

/-- What a stimulus adds. -/
def Stimulus.items (options : ConnectOptions) (ready : Bool)
    (answer? : Option (Except Error Unit)) (stimulus : Stimulus) : List Event :=
  match stimulus with
  | .frame received => (Inbound.mk received ready answer?).item options
  | _ => []

namespace Loop

theorem items_of_remoteEnd (options : ConnectOptions) (ready : Bool)
    (answer? : Option (Except Error Unit)) (stimulus : Stimulus)
    (remote : stimulus.isRemoteEnd = true) : stimulus.items options ready answer? = [] := by
  cases stimulus with
  | frame frame =>
      cases frame with
      | close reason => exact Inbound.item_of_silent options ⟨.close reason, _, _⟩ (.control rfl)
      | text | binary | ping | pong => cases remote
  | failure | ended | command | abandoned | tick | deadline => rfl

theorem events_reacted (now : Instant) (stimulus : Stimulus) (loop after : Loop)
    (answer? : Option (Except Error Unit)) (live : Live loop) (idle : loop.phase = .idle)
    (reacted : Reacted now loop stimulus after) :
    after.output.events ++ after.owed answer? =
      loop.output.events ++ stimulus.items loop.options loop.readiness.isReady answer? := by
  have stopped : ∀ exit, (loop.stop exit).output.events ++ (loop.stop exit).owed answer? =
      loop.output.events ++ [] := by
    intro exit
    rw [owed_of_stopped _ _ (isStopped_stop exit loop), events_stop]
  cases reacted with
  | earlyEnd stimulus remote | pendingEnd stimulus remote | orderlyEnd stimulus remote =>
      rw [items_of_remoteEnd _ _ _ stimulus remote]
      exact stopped _
  | frame frame after notClose heard =>
      have stillIdle : loop.seen.phase = .idle := loop.phase_seen.trans idle
      have added := events_heard now frame loop.seen after answer? (live_seen loop live) stillIdle
        heard
      rw [output_seen, readiness_seen, options_seen] at added
      exact added
  | send frame flush ticket => rfl
  | tick tick after ticked =>
      obtain ⟨events, owes⟩ := events_ticked now tick loop after answer? idle ticked
      rw [events, owes]
      rfl
  | deadlinePassed =>
      rw [owed_of_idle answer? loop idle]
      rfl
  | failure | close | cancel | abandoned | deadline => exact stopped _

/-- An answer of the transport decides what becomes of the event that waits for it. -/
theorem events_resumed (now : Instant) (result : Except Error Unit) (loop after : Loop)
    (later? : Option (Except Error Unit)) (coherent : Coherent loop) (unflushed : loop.Unflushed)
    (resumed : Resumed now loop result after) :
    after.output.events ++ after.owed later? =
      loop.output.events ++ loop.owed (some result) := by
  have live : ∀ errand, loop.Concluding errand → Live loop := fun errand concluding =>
    coherent.running (isStopped_of_errand loop errand (errand?_of_concluding _ loop concluding))
  -- Whatever else is being written, no event waits for it.
  have other : ∀ errand, loop.phase.errand? = some errand →
      (∀ packet, errand ≠ .acknowledge packet) → loop.owed (some result) = [] := by
    intro errand writing different
    cases errand with
    | acknowledge packet => exact absurd rfl (different packet)
    | answerPing | heartbeat | request => simp [owed, writing]
  cases resumed with
  | sent frame errand sending =>
      have different : ∀ packet, errand ≠ .acknowledge packet := by
        rintro packet rfl
        exact (unflushed packet).2 frame sending
      rw [other errand (by rw [sending]; rfl) different]
      cases errand with
      | acknowledge packet => exact absurd rfl (different packet)
      | answerPing | heartbeat | request => rfl
  | answeredPing concluding | pinged beat limit concluding | pingedAgain beat limit concluding
  | served ticket concluding =>
      rw [other _ (errand?_of_concluding _ loop concluding) (by simp)]
      rfl
  | acknowledged packet after concluding noted =>
      have owes : loop.owed (some (.ok ())) =
          passed loop.readiness.isReady (Event.decode packet) := by
        simp [owed, errand?_of_concluding _ loop concluding]
      have idle : Live { loop with phase := .idle } := { live _ concluding with }
      rw [owes, owed_of_kept later? { loop with phase := .idle } after rfl
        (kept_of_noted _ _ after noted), List.append_nil]
      exact events_noted _ { loop with phase := .idle } after idle noted
  | requestFailed error ticket writing =>
      rw [owed_of_stopped _ _ (isStopped_fail _ _ _), events_fail, other _ writing (by simp)]
      rfl
  | failed error errand writing unasked =>
      have owes : loop.owed (some (.error error)) = [] := by
        cases errand <;> simp [owed, writing]
      rw [owed_of_stopped _ _ (isStopped_fail _ _ _), events_fail, owes]
  | closed reason exit result closing =>
      have owes : loop.owed (some result) = [] := by simp [owed, closing, Phase.errand?]
      rw [owed_of_stopped _ (loop.finish exit) rfl, owes]
      exact congrArg (· ++ []) (close_events exit.cause loop.output)
  | unmoved result still =>
      have noErrand : loop.phase.errand? = none := by
        cases phase : loop.phase <;> simp [phase, Phase.call?, Phase.errand?] at still ⊢
      rw [owed_of_noErrand _ loop noErrand, owed_of_noErrand _ loop noErrand]

theorem owed_setSlot (answer? : Option (Except Error Unit)) (kind : TimerKind) (slot : Slot)
    (loop : Loop) : (loop.setSlot kind slot).owed answer? = loop.owed answer? := by
  cases kind <;> rfl

end Loop

namespace System

def answered? : Move → Option (Except Error Unit)
  | .answer result => some result
  | _ => none

/-- The frame that the loop takes at a move. -/
def inbound? (system : System) (move : Move) (later : List Move) : Option Inbound :=
  match system.stimulus? move with
  | some (.frame received) =>
      some ⟨received, system.loop.readiness.isReady, later.findSome? answered?⟩
  | _ => none

/-- The frames that the loop takes, in their order. -/
def inbound (system : System) : List Move → List Inbound
  | [] => []
  | move :: later => (system.inbound? move later).toList ++ (system.step move).inbound later

theorem items_of_inbound? (options : ConnectOptions) (system : System) (move : Move)
    (later : List Move) (stimulus : Stimulus) (taken : system.stimulus? move = some stimulus) :
    (system.inbound? move later).toList.flatMap (Inbound.item options) =
      stimulus.items options system.loop.readiness.isReady (later.findSome? answered?) := by
  cases stimulus <;> simp [inbound?, taken, Stimulus.items]

theorem inbound?_of_untaken (system : System) (move : Move) (later : List Move)
    (untaken : system.stimulus? move = none) : system.inbound? move later = none := by
  simp [inbound?, untaken]

/-- What is owed before a move is added by it or is owed still. -/
theorem events_stepped (system : System) (move : Move) (later : List Move) (after : Loop)
    (coherent : system.loop.Coherent) (unflushed : system.loop.Unflushed)
    (stepped : Stepped system move after) :
    after.output.events ++ after.owed (later.findSome? answered?) =
      system.loop.output.events ++ system.loop.owed ((move :: later).findSome? answered?) ++
        (system.inbound? move later).toList.flatMap (Inbound.item system.loop.options) := by
  cases stepped with
  | took move stimulus after taken reacted =>
      have idle := ((stimulus?_eq_some_iff system move stimulus).mp taken).1
      have live := coherent.running (by simp [Loop.isStopped, idle])
      rw [items_of_inbound? _ system move later stimulus taken,
        Loop.owed_of_idle _ system.loop idle, List.append_nil]
      exact Loop.events_reacted _ stimulus _ after _ live idle reacted
  | fired kind =>
      rw [inbound?_of_untaken _ _ _ (by simp [stimulus?, offer?]), Loop.owed_setSlot,
        Loop.output_setSlot]
      exact (List.append_nil _).symm
  | answered result after resumed =>
      rw [inbound?_of_untaken _ _ _ (by simp [stimulus?, offer?])]
      refine (Loop.events_resumed _ result _ after _ coherent unflushed resumed).trans ?_
      exact (List.append_nil _).symm
  | expired beat limit writing =>
      rw [inbound?_of_untaken _ _ _ (by simp [stimulus?, offer?]),
        Loop.owed_of_stopped _ _ (Loop.isStopped_fail _ _ _), Loop.events_fail]
      simp [Loop.owed, writing]
  | still move untaken unanswered =>
      have silent : answered? move = none := by
        cases move with
        | answer result => exact absurd rfl (unanswered result)
        | elapse | fire | arrive | submit | acquire | release | takeTick | takeCommand | abandon
        | deadline | expire => rfl
      rw [inbound?_of_untaken _ _ _ untaken, List.findSome?_cons, silent]
      exact (List.append_nil _).symm

theorem events_run (system : System) (moves : List Move) (coherent : system.loop.Coherent)
    (unflushed : system.loop.Unflushed) :
    (system.run moves).loop.output.events =
      system.loop.output.events ++ system.loop.owed (moves.findSome? answered?) ++
        (system.inbound moves).flatMap (Inbound.item system.loop.options) := by
  induction moves generalizing system with
  | nil =>
      have nothing : system.loop.owed none = [] := by
        cases writing : system.loop.phase.errand? with
        | none => exact Loop.owed_of_noErrand _ _ writing
        | some errand => cases errand <;> simp [Loop.owed, writing]
      simp [run, inbound, nothing]
  | cons move later ih =>
      have stepped := step_stepped system move
      have sameOptions := options_stepped system move _ stepped
      have first := events_stepped system move later _ coherent unflushed stepped
      have rest := ih (system.step move) (Loop.coherent_stepped system move _ coherent stepped)
        (unflushed_of_course system move _ (course_of_stepped system move _ stepped) unflushed)
      rw [sameOptions, first, List.append_assoc, ← List.flatMap_append] at rest
      exact rest

end System

namespace Inbound

variable (options : ConnectOptions) (inbound : Inbound)

theorem isHeld_iff :
    inbound.isHeld options = true ↔
      options.acknowledge = true ∧
        (∃ ns ackId name args,
          inbound.frame.socketPacket? = some (.event ns (some ackId) name args)) ∧
        inbound.answer? ≠ some (.ok ()) := by
  cases read : inbound.frame.socketPacket? with
  | none => simp [isHeld, read]
  | some packet =>
      cases packet with
      | event ns ackId name args =>
          cases ackId with
          | none => simp [isHeld, read]
          | some id => rcases answered : inbound.answer? with _ | _ | _ <;>
              simp [isHeld, read, answered]
      | connect | disconnect | acknowledge | connectError | binaryEvent | binaryAcknowledge
      | broken => simp [isHeld, read]

theorem item_of_held (held : inbound.isHeld options = true) : inbound.item options = [] := by
  simp [item, held]

theorem item_of_problem (error : ProtocolError) (unheld : inbound.isHeld options = false)
    (malformed : Malformed inbound.frame error) :
    inbound.item options = if inbound.ready then [.protocolError error] else [] := by
  simp [item, unheld, (problem?_eq_some_iff inbound.frame error).mpr malformed]

theorem problem?_of_event (frame : Frame) (event : Event) (carried : frame.event? = some event)
    (understood : ∀ error, event ≠ .protocolError error) : frame.problem? = none := by
  rw [Frame.event?] at carried
  split at carried
  · rename_i ns ackId name args read
    rw [frame.problem?_of_socketPacket _ read, Socket.Packet.problem?]
    split
    · rename_i error refused
      exact absurd (Option.some.inj carried).symm (by rw [refused]; exact understood error)
    · rfl
  · cases carried

theorem item_of_understood (event : Event) (unheld : inbound.isHeld options = false)
    (carried : inbound.frame.event? = some event)
    (understood : ∀ error, event ≠ .protocolError error) :
    inbound.item options = if event.isOutput then [event] else [] := by
  have fine := problem?_of_event inbound.frame event carried understood
  cases isOutput : event.isOutput <;> simp [item, unheld, fine, carried, isOutput]

theorem item_of_nothing (fine : ∀ error, ¬ Malformed inbound.frame error)
    (noEvent : inbound.frame.event? = none) : inbound.item options = [] := by
  have noProblem : inbound.frame.problem? = none := by
    refine Option.eq_none_iff_forall_ne_some.mpr fun error wrong => ?_
    exact fine error ((problem?_eq_some_iff inbound.frame error).mp wrong)
  simp [item, noProblem, noEvent]

end Inbound

namespace System

/-- The output of a run is made of the items of the frames that the loop took, in their order.  A
frame that is held for its acknowledgement has none, and neither has one that is malformed before
the connection is ready; any other malformed frame yields its error, which names the packet at
fault.  An event that is understood is passed on as its kind wants, ready or not. -/
theorem output_eq_items (options : ConnectOptions) (moves : List Move) :
    ((start options).run moves).loop.output.events =
        ((start options).inbound moves).flatMap (Inbound.item options) ∧
      ∀ inbound : Inbound,
        (inbound.isHeld options = true ↔
          options.acknowledge = true ∧
            (∃ ns ackId name args,
              inbound.frame.socketPacket? = some (.event ns (some ackId) name args)) ∧
            inbound.answer? ≠ some (.ok ())) ∧
        (inbound.isHeld options = true → inbound.item options = []) ∧
        (inbound.isHeld options = false →
          (∀ error, Malformed inbound.frame error →
            (inbound.item options = if inbound.ready then [.protocolError error] else []) ∧
              ((∃ packet, Engine.Packet.decode? inbound.frame = some packet ∧
                  error.subject = .engine packet) ∨
                ∃ packet, inbound.frame.socketPacket? = some packet ∧
                  error.subject = .socket packet)) ∧
          (∀ event, inbound.frame.event? = some event →
            (∀ error, event ≠ .protocolError error) →
            inbound.item options = if event.isOutput then [event] else []) ∧
          ((∀ error, ¬ Malformed inbound.frame error) → inbound.frame.event? = none →
            inbound.item options = [])) := by
  constructor
  · have events := events_run (start options) moves (Loop.coherent_start options)
      (unflushed_run options [])
    exact events
  · intro inbound
    refine ⟨inbound.isHeld_iff options, inbound.item_of_held options, fun unheld => ⟨?_, ?_, ?_⟩⟩
    · intro error malformed
      have wrong := (problem?_eq_some_iff inbound.frame error).mpr malformed
      exact ⟨inbound.item_of_problem options error unheld malformed,
        subject_of_problem inbound.frame error wrong⟩
    · intro event carried understood
      exact inbound.item_of_understood options event unheld carried understood
    · exact inbound.item_of_nothing options

/-- The namespace is joined; then comes what cannot be read, and an event whose acknowledgement
is still being written. -/
def unreadable : List Move :=
  [.arrive (.frame (.text "40")), .arrive (.frame (.text "x")),
    .arrive (.frame (.text "427[\"x\",null]"))]

theorem output_of_unreadable :
    ((start ⟨.ofMillis 2000, .immediate, true⟩).run unreadable).loop.output.events =
      [.protocolError ⟨.engine (.broken "x" "unknown packet type: x" none),
        "received broken engine packet: unknown packet type: x", none⟩] := by
  obtain ⟨output, items⟩ := output_eq_items ⟨.ofMillis 2000, .immediate, true⟩ unreadable
  have frames : (start ⟨.ofMillis 2000, .immediate, true⟩).inbound unreadable =
      [⟨.text "40", false, none⟩, ⟨.text "x", true, none⟩,
        ⟨.text "427[\"x\",null]", true, none⟩] := by
    decide +kernel
  have joined := ((items ⟨.text "40", false, none⟩).2.2 (by decide +kernel)).2.2
  have broken := ((items ⟨.text "x", true, none⟩).2.2 (by decide +kernel)).1 _
    (.engine "x" "unknown packet type: x" none (by decide +kernel))
  have held := (items ⟨.text "427[\"x\",null]", true, none⟩).2.1 (by decide +kernel)
  have fine : (Frame.text "40").problem? = none := by
    exact Option.isNone_iff_eq_none.mp (by decide +kernel)
  have noEvent : (Frame.text "40").event? = none := by
    exact Option.isNone_iff_eq_none.mp (by decide +kernel)
  have nothing := joined (fun error malformed => by
    rw [← problem?_eq_some_iff, fine] at malformed
    cases malformed) noEvent
  rw [output, frames]
  simp only [List.flatMap_cons, List.flatMap_nil, nothing, broken.1, held]
  rfl

end System

end Connection

end ChatSocket
