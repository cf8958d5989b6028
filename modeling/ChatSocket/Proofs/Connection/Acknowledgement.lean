import ChatSocket.Proofs.Connection.Delivery
import ChatSocket.Proofs.Connection.Requests
import ChatSocket.Proofs.Engine.RoundTrip
import ChatSocket.Proofs.Socket.RoundTrip

/-!
# Acknowledgements

An event that asks for an acknowledgement gets one, with its own namespace and id.
`acknowledged_once` shows that what is sent for events is exactly that, in the order of
the events, and that the transport's answer is waited for before the event is looked at.
-/

set_option autoImplicit false

namespace ChatSocket.Connection

/-! ## The frame -/

/-- A packet that its text gives back is given back by its frame. -/
theorem toFrame_readsBack (packet : Socket.Packet) (isText : packet.isText = true)
    (named : ∀ ns, packet.ns? = some ns → Socket.IsNamespace ns.toList)
    (readsBack : packet.ReadsBack) :
    ∃ frame, packet.toFrame = .ok frame ∧ frame.socketPacket? = some packet.withoutNull := by
  obtain ⟨raw, written, again⟩ := packet.decode_encode isText named readsBack
  refine ⟨(Engine.Packet.message raw).encode, ?_, ?_⟩
  · rw [Socket.Packet.toFrame, written]
    rfl
  · exact (Frame.socketPacket?_eq_some_iff _ _).mpr
      ⟨raw, Engine.Packet.decode?_encode_message raw, again⟩

/-- What acknowledges an event that was read can be read as such. -/
theorem acknowledge_readsBack (frame : Frame) (ns : String) (ackId : UInt64) (name : String)
    (args : List Json) (read : frame.socketPacket? = some (.event ns (some ackId) name args)) :
    ∃ answer, (Socket.Packet.acknowledge ns ackId (some [])).toFrame = .ok answer ∧
      answer.socketPacket? = some (.acknowledge ns ackId (some [])) := by
  obtain ⟨payload, _, decoded⟩ := (frame.socketPacket?_eq_some_iff _).mp read
  -- The namespace was read, so it can be written.
  have canonical := Socket.Packet.canonical_of_decode payload _ rfl decoded
  refine toFrame_readsBack _ rfl ?_ ?_
  · intro other held
    cases held
    exact canonical.named ns rfl
  · intro value held
    cases held
    rfl

/-! ## What is handed over -/

/-- The event that a stimulus asks to be acknowledged, with what is due. -/
def Stimulus.asking? : Stimulus → Option (Socket.Packet × Socket.Packet)
  | .frame received =>
      match received.socketPacket? with
      | some (.event ns (some ackId) name args) =>
          some (.event ns (some ackId) name args, .acknowledge ns ackId (some []))
      | _ => none
  | _ => none

/-- The event that a frame is handed over for, with what the frame says. -/
def acknowledges? : Frame × Errand → Option (Socket.Packet × Option Socket.Packet)
  | (frame, .acknowledge event) => some (event, frame.socketPacket?)
  | _ => none

namespace System

/-- The frame that the loop hands over because of a move, and what for. -/
def handover? (system : System) (move : Move) : Option (Frame × Errand) :=
  (system.stimulus? move).bind fun _ =>
    match (system.step move).loop.phase with
    | .sending frame _ errand => some (frame, errand)
    | _ => none

def handovers (system : System) (moves : List Move) : List (Frame × Errand) :=
  system.history handover? moves

/-- The events of a run that ask to be acknowledged, each with what is due. -/
def askings (system : System) (moves : List Move) : List (Socket.Packet × Socket.Packet) :=
  (system.handled moves).filterMap fun (_, stimulus) => stimulus.asking?

theorem handovers_append (system : System) (moves : List Move) (last : Move) :
    system.handovers (moves ++ [last]) =
      system.handovers moves ++ ((system.run moves).handover? last).toList :=
  history_concat handover? system moves last

theorem asks_of_handover (system : System) (move : Move) (frame : Frame) (errand : Errand)
    (handed : system.handover? move = some (frame, errand)) : Asks system move errand := by
  obtain ⟨stimulus, taken, shown⟩ := Option.bind_eq_some_iff.mp handed
  have idle := ((stimulus?_eq_some_iff system move stimulus).mp taken).1
  cases phase : (system.step move).loop.phase with
  | sending sent flush held =>
      rw [phase] at shown
      cases shown
      have course := course_of_stepped system move _ (step_stepped system move)
      have writing : (system.step move).loop.phase.errand? = some errand := by rw [phase]; rfl
      rcases asked_of_course system move _ errand course writing with asks | before
      · exact asks
      · rw [idle] at before
        cases before
  | idle | flushing | closing | ended =>
      rw [phase] at shown
      cases shown

theorem order_of_handover (system : System) (move : Move) (frame : Frame) (errand : Errand)
    (handed : system.handover? move = some (frame, errand)) :
    ∃ order, system.order? move = some order := by
  have asks := asks_of_handover system move frame errand handed
  obtain ⟨stimulus, order, taken, ordered⟩ := order_of_asks system move errand asks
  exact ⟨order, Option.bind_eq_some_iff.mpr ⟨stimulus, taken, ordered⟩⟩

/-- What is handed over is what was ordered. -/
theorem handover_eq_order (system : System) (move : Move) (coherent : system.loop.Coherent) :
    (system.handover? move).map Prod.fst = (system.order? move).map Order.frame := by
  cases ordered : system.order? move with
  | some order =>
      obtain ⟨stimulus, taken, orders⟩ := Option.bind_eq_some_iff.mp ordered
      have live := coherent.running (running_of_taken system move stimulus taken)
      obtain ⟨between, errand, _, same⟩ :=
        Loop.react_of_order system.now system.loop stimulus order live orders
      simp [handover?, taken, step_of_taken system move stimulus taken, same, Loop.write]
  | none =>
      cases handed : system.handover? move with
      | none => rfl
      | some pair =>
          obtain ⟨order, orders⟩ := order_of_handover system move pair.1 pair.2 handed
          cases ordered.symm.trans orders

theorem frames_eq_handovers (options : ConnectOptions) (moves : List Move) :
    ((start options).run moves).loop.calls.filterMap Call.frame? =
      ((start options).handovers moves).map Prod.fst := by
  rw [frames_eq]
  induction moves using List.reverseRecOn with
  | nil => rfl
  | append_singleton moves last ih =>
      have same := handover_eq_order _ last (Loop.coherent_run options moves)
      rw [orders_append, handovers_append, List.map_append, List.map_append, ih,
        ← Option.toList_map, ← Option.toList_map, same]

/-! ## What is handed over for events -/

theorem askings_append (system : System) (moves : List Move) (last : Move) :
    system.askings (moves ++ [last]) =
      system.askings moves ++ (((system.run moves).stimulus? last).bind Stimulus.asking?).toList :=
  filterMap_handled (fun (_, stimulus) => stimulus.asking?) system moves last

theorem asking?_eq_some_iff (stimulus : Stimulus) (event due : Socket.Packet) :
    stimulus.asking? = some (event, due) ↔
      ∃ frame ns ackId name args, stimulus = .frame frame ∧
        frame.socketPacket? = some (.event ns (some ackId) name args) ∧
        event = .event ns (some ackId) name args ∧ due = .acknowledge ns ackId (some []) := by
  constructor
  · intro asks
    cases stimulus with
    | frame frame =>
        simp only [Stimulus.asking?] at asks
        split at asks
        case h_1 ns ackId name args read =>
          cases asks
          exact ⟨frame, ns, ackId, name, args, rfl, read, rfl, rfl⟩
        case h_2 => cases asks
    | failure | ended | command | abandoned | tick | deadline => cases asks
  · rintro ⟨frame, ns, ackId, name, args, rfl, read, rfl, rfl⟩
    simp [Stimulus.asking?, read]

theorem step_of_asking (system : System) (move : Move) (frame : Frame) (ns : String)
    (ackId : UInt64) (name : String) (args : List Json)
    (taken : system.stimulus? move = some (.frame frame))
    (read : frame.socketPacket? = some (.event ns (some ackId) name args))
    (wanted : system.loop.options.acknowledge = true) :
    ∃ answer, answer.socketPacket? = some (.acknowledge ns ackId (some [])) ∧
      (system.step move).loop =
        system.loop.seen.write answer false (.acknowledge (.event ns (some ackId) name args)) := by
  obtain ⟨answer, written, reads⟩ := acknowledge_readsBack frame ns ackId name args read
  refine ⟨answer, reads, ?_⟩
  rw [step_of_taken system move _ taken]
  exact Loop.react_of_event _ _ frame ns ackId name args answer read wanted written

/-- A frame is handed over for an event only if the event asks and is to be answered. -/
theorem asking_of_handover (system : System) (move : Move) (event : Socket.Packet)
    (reads : Option Socket.Packet)
    (handed : (system.handover? move).bind acknowledges? = some (event, reads)) :
    system.loop.options.acknowledge = true ∧
      ∃ due, (system.stimulus? move).bind Stimulus.asking? = some (event, due) := by
  obtain ⟨⟨frame, errand⟩, handedOver, shown⟩ := Option.bind_eq_some_iff.mp handed
  have asks := asks_of_handover system move frame errand handedOver
  cases asks with
  | acknowledge received ns ackId name args taken read wanted =>
      cases shown
      refine ⟨wanted, .acknowledge ns ackId (some []), ?_⟩
      simp [taken, Stimulus.asking?, read]
  | answerPing | heartbeat | request => cases shown

theorem handover_of_asking (system : System) (move : Move) (event due : Socket.Packet)
    (asked : (system.stimulus? move).bind Stimulus.asking? = some (event, due))
    (wanted : system.loop.options.acknowledge = true) :
    (system.handover? move).bind acknowledges? = some (event, some due) := by
  obtain ⟨stimulus, taken, asks⟩ := Option.bind_eq_some_iff.mp asked
  obtain ⟨frame, ns, ackId, name, args, rfl, read, rfl, rfl⟩ :=
    (asking?_eq_some_iff stimulus event due).mp asks
  obtain ⟨answer, reads, after⟩ :=
    step_of_asking system move frame ns ackId name args taken read wanted
  simp [handover?, taken, after, Loop.write, acknowledges?, reads]

theorem acknowledges_handover (system : System) (move : Move) :
    (system.handover? move).bind acknowledges? =
      if system.loop.options.acknowledge then
        ((system.stimulus? move).bind Stimulus.asking?).map fun (event, due) => (event, some due)
      else none := by
  cases handed : (system.handover? move).bind acknowledges? with
  | some pair =>
      obtain ⟨event, reads⟩ := pair
      obtain ⟨wanted, due, asked⟩ := asking_of_handover system move event reads handed
      rw [handover_of_asking system move event due asked wanted] at handed
      cases handed
      simp [wanted, asked]
  | none =>
      split
      case isTrue wanted =>
        cases asked : (system.stimulus? move).bind Stimulus.asking? with
        | none => rfl
        | some pair =>
            rw [handover_of_asking system move pair.1 pair.2 asked wanted] at handed
            cases handed
      case isFalse => rfl

theorem handovers_eq_askings (options : ConnectOptions) (moves : List Move) :
    ((start options).handovers moves).filterMap acknowledges? =
      if options.acknowledge then
        ((start options).askings moves).map fun (event, due) => (event, some due)
      else [] := by
  induction moves using List.reverseRecOn with
  | nil => cases options.acknowledge <;> rfl
  | append_singleton moves last ih =>
      have now := acknowledges_handover ((start options).run moves) last
      rw [options_run] at now
      rw [handovers, filterMap_history, ← handovers, ih, now, askings_append]
      cases options.acknowledge with
      | false => rfl
      | true => simp only [if_true, List.map_append, Option.toList_map]

/-! ## Waiting for the transport -/

/-- The loop waits for an acknowledgement to be written, and nothing was passed on since. -/
structure Waits (answer : Frame) (event : Socket.Packet) (calls : List Call) (events : List Event)
    (loop : Loop) : Prop where
  phase : loop.phase = .sending answer false (.acknowledge event)
  calls : loop.calls = calls
  events : loop.output.events = events

theorem waits_step (answer : Frame) (event : Socket.Packet) (calls : List Call)
    (events : List Event) (system : System) (move : Move)
    (unanswered : ∀ result, move ≠ .answer result)
    (waits : Waits answer event calls events system.loop) :
    Waits answer event calls events (system.step move).loop := by
  have writing : system.loop.phase.errand? = some (.acknowledge event) := by
    rw [waits.phase]
    rfl
  have stepped := step_stepped system move
  generalize (system.step move).loop = after at stepped ⊢
  cases stepped with
  | took move stimulus after taken reacted =>
      have idle := ((stimulus?_eq_some_iff system move stimulus).mp taken).1
      rw [idle] at writing
      cases writing
  | fired kind =>
      constructor
      · rw [Loop.phase_setSlot]
        exact waits.phase
      · rw [Loop.calls_setSlot]
        exact waits.calls
      · rw [Loop.output_setSlot]
        exact waits.events
  | answered result after resumed => exact absurd rfl (unanswered result)
  | expired beat limit other passed =>
      rw [writing] at other
      cases other
  | still => exact waits

theorem waits_run (answer : Frame) (event : Socket.Packet) (calls : List Call)
    (events : List Event) (system : System) (part : List Move)
    (unanswered : ∀ result, Move.answer result ∉ part)
    (waits : Waits answer event calls events system.loop) :
    Waits answer event calls events (system.run part).loop := by
  induction part generalizing system with
  | nil => exact waits
  | cons move rest ih =>
      have unansweredNow : ∀ result, move ≠ .answer result := by
        rintro result rfl
        exact unanswered result List.mem_cons_self
      have unansweredLater : ∀ result, Move.answer result ∉ rest := fun result member =>
        unanswered result (List.mem_cons_of_mem _ member)
      exact ih (system.step move) unansweredLater
        (waits_step answer event calls events system move unansweredNow waits)

/-- The connection ended with an error: nothing was passed on or asked for any more. -/
structure Aborted (error : Error) (before after : Loop) : Prop where
  ended : after.isEnded = true
  closing : after.output.closing = some (some error)
  lifecycle : after.lifecycle = .failed
  readiness : after.readiness = before.readiness.complete (.error error)
  calls : after.calls = before.calls
  events : after.output.events = before.output.events

/-- The transport decides what becomes of the event. -/
structure AwaitsAnswer (answer : Frame) (event : Socket.Packet) (before : Loop) (system : System) :
    Prop where
  waits : ∀ part, (∀ result, Move.answer result ∉ part) →
    Waits answer event (before.calls ++ [.send answer]) before.output.events (system.run part).loop
  written : ∀ part, (∀ result, Move.answer result ∉ part) →
    (system.run (part ++ [.answer (.ok ())])).loop =
      { (system.run part).loop with phase := .idle }.onEvent (Event.decode event)
  failed : ∀ part error later, (∀ result, Move.answer result ∉ part) →
    Aborted error (system.run part).loop (system.run (part ++ .answer (.error error) :: later)).loop

theorem aborted_of_failed (options : ConnectOptions) (moves later : List Move) (error : Error)
    (event : Socket.Packet)
    (writing : ((start options).run moves).loop.phase.errand? = some (.acknowledge event)) :
    Aborted error ((start options).run moves).loop
      ((start options).run (moves ++ .answer (.error error) :: later)).loop := by
  have coherent := Loop.coherent_run options moves
  have unclosed := (coherent.running (Loop.isStopped_of_errand _ _ writing)).unclosed
  rw [failed_run options moves later error _ writing]
  exact ⟨rfl, Loop.close_closing (some error) _ unclosed, rfl, rfl, rfl, Loop.events_fail _ _ _⟩

theorem awaitsAnswer_of_waits (options : ConnectOptions) (moves : List Move) (answer : Frame)
    (event : Socket.Packet) (before : Loop)
    (waits : Waits answer event (before.calls ++ [.send answer]) before.output.events
      ((start options).run moves).loop) :
    AwaitsAnswer answer event before ((start options).run moves) := by
  have still := fun part unanswered =>
    waits_run answer event _ _ ((start options).run moves) part unanswered waits
  refine ⟨still, ?_, ?_⟩
  · intro part unanswered
    have concluding : (((start options).run moves).run part).loop.Concluding (.acknowledge event) :=
      .inl ⟨answer, (still part unanswered).phase⟩
    rw [run_append]
    exact Loop.resume_of_concluding _ _ _ concluding
  · intro part error later unanswered
    have writing : ((start options).run (moves ++ part)).loop.phase.errand? =
        some (.acknowledge event) := by
      rw [run_append_run, (still part unanswered).phase]
      rfl
    have aborted := aborted_of_failed options (moves ++ part) later error event writing
    rw [List.append_assoc, run_append_run, run_append_run] at aborted
    exact aborted

/-! ## What becomes of an event -/

/-- An event that does not ask, or is not to be answered, has nothing handed over. -/
theorem unanswered_event (system : System) (move : Move) (frame : Frame) (ns : String)
    (ackId : Option UInt64) (name : String) (args : List Json)
    (taken : system.stimulus? move = some (.frame frame))
    (read : frame.socketPacket? = some (.event ns ackId name args))
    (unasked : ackId = none ∨ system.loop.options.acknowledge = false) :
    system.order? move = none := by
  obtain ⟨payload, message, _⟩ := (frame.socketPacket?_eq_some_iff _).mp read
  cases ackId with
  | none => simp [order?, taken, Stimulus.order?, message, read]
  | some id =>
      rcases unasked with none | unwanted
      · cases none
      · simp [order?, taken, Stimulus.order?, message, read, unwanted]

/-- What is handed over for events, over a whole run, is one acknowledgement for each that asks, in
their order, with its namespace and id, and only if the option is on.  Each is handed over at once;
until the transport has answered, the event is not looked at.  Then it is, or the connection ends
with the transport's error. -/
theorem acknowledged_once (options : ConnectOptions) (moves : List Move) :
    ((start options).run moves).loop.calls.filterMap Call.frame? =
        ((start options).handovers moves).map Prod.fst ∧
      ((start options).handovers moves).filterMap acknowledges? =
        (if options.acknowledge then
          ((start options).askings moves).map fun (event, due) => (event, some due)
        else []) ∧
      (∀ move frame ns ackId name args,
        ((start options).run moves).stimulus? move = some (.frame frame) →
        frame.socketPacket? = some (.event ns (some ackId) name args) →
        options.acknowledge = true →
        ∃ answer, answer.socketPacket? = some (.acknowledge ns ackId (some [])) ∧
          AwaitsAnswer answer (.event ns (some ackId) name args) ((start options).run moves).loop
            (((start options).run moves).step move)) ∧
      ∀ move frame ns ackId name args,
        ((start options).run moves).stimulus? move = some (.frame frame) →
        frame.socketPacket? = some (.event ns ackId name args) →
        ackId = none ∨ options.acknowledge = false →
        (((start options).run moves).step move).loop.calls.filterMap Call.frame? =
          ((start options).run moves).loop.calls.filterMap Call.frame? := by
  refine ⟨frames_eq_handovers options moves, handovers_eq_askings options moves, ?_, ?_⟩
  · intro move frame ns ackId name args taken read wanted
    obtain ⟨answer, reads, after⟩ := step_of_asking _ move frame ns ackId name args taken read
      (by rw [options_run]; exact wanted)
    refine ⟨answer, reads, ?_⟩
    rw [← run_append]
    refine awaitsAnswer_of_waits options (moves ++ [move]) answer _ _ ?_
    rw [run_append, after]
    exact ⟨rfl, congrArg (· ++ [Call.send answer]) (Loop.calls_seen _),
      congrArg Output.events (Loop.output_seen _)⟩
  · intro move frame ns ackId name args taken read unasked
    have nothing := unanswered_event _ move frame ns ackId name args taken read
      (by rw [options_run]; exact unasked)
    rw [← run_append, frames_eq, frames_eq, orders_append, nothing]
    simp

/-- An event of a namespace, which asks to be acknowledged. -/
def askedInChat : Move := .arrive (.frame (.text "42/chat,7[\"a\"]"))

/-- The transport does not write the acknowledgement, and the event is lost. -/
theorem acknowledged_once_of_brokenTransport :
    ∃ answer : Frame, answer.socketPacket? = some (.acknowledge "/chat" 7 (some [])) ∧
      ((start ⟨.ofMillis 2000, .never, true⟩).run
        [askedInChat, .answer (.error .earlyDisconnect)]).loop.calls = [.send answer] ∧
      ((start ⟨.ofMillis 2000, .never, true⟩).run
        [askedInChat, .answer (.error .earlyDisconnect)]).loop.output.events = [] ∧
      ((start ⟨.ofMillis 2000, .never, true⟩).run
          [askedInChat, .answer (.error .earlyDisconnect)]).loop.output.closing =
        some (some .earlyDisconnect) := by
  have taken : ((start ⟨.ofMillis 2000, .never, true⟩).run []).stimulus? askedInChat =
      some (.frame (.text "42/chat,7[\"a\"]")) := rfl
  have read : (Frame.text "42/chat,7[\"a\"]").socketPacket? =
      some (.event "/chat" (some 7) "a" []) := by
    obtain ⟨frame, written, reads⟩ :=
      toFrame_readsBack (.event "/chat" (some 7) "a" []) rfl
        (by rintro ns ⟨⟩; simp [Socket.IsNamespace]) (by rintro value ⟨⟩; rfl)
    have known : (Socket.Packet.event "/chat" (some 7) "a" []).toFrame =
        .ok (.text "42/chat,7[\"a\"]") := rfl
    cases known.symm.trans written
    exact reads
  obtain ⟨_, _, acknowledged, _⟩ := acknowledged_once ⟨.ofMillis 2000, .never, true⟩ []
  obtain ⟨answer, reads, awaits⟩ := acknowledged askedInChat _ "/chat" 7 "a" [] taken read rfl
  have unanswered : ∀ result, Move.answer result ∉ ([] : List Move) := fun _ => List.not_mem_nil
  have waits := awaits.waits [] unanswered
  have aborted := awaits.failed [] .earlyDisconnect [] unanswered
  have whole : ∀ system : System,
      system.run [askedInChat, .answer (.error .earlyDisconnect)] =
        ((system.run []).step askedInChat).run ([] ++ [.answer (.error .earlyDisconnect)]) :=
    fun _ => rfl
  rw [whole]
  refine ⟨answer, reads, ?_, ?_, aborted.closing⟩
  · rw [aborted.calls, waits.calls]
    rfl
  · rw [aborted.events, waits.events]
    rfl

end System

end ChatSocket.Connection
