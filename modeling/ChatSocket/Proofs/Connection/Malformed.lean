import ChatSocket.Proofs.Connection.Delivery
import ChatSocket.Proofs.Connection.Lifecycle
import ChatSocket.Proofs.Connection.Teardown
import ChatSocket.Proofs.Connection.Wire

/-!
# What cannot be understood

Input may be malformed at any layer, and the loop comes to it when it takes the frame or, for an
event that is acknowledged first, when the acknowledgement is written (`Faces`).
`malformed_dichotomy` shows that it ends a connection that waits to become ready, and is nothing but
an item of the output of one that is ready.
-/

set_option autoImplicit false

namespace ChatSocket

/-- An event is refused for the number of its arguments, its name, or its one argument. -/
theorem Event.refused_iff (ns : String) (ackId : Option UInt64) (name : String)
    (args : List Json) :
    (∃ error, decode (.event ns ackId name args) = .protocolError error) ↔
      args.length ≠ 1 ∨ schema? name = none ∨
        ∃ argument schema reason, args = [argument] ∧ schema? name = some schema ∧
          schema argument = .error reason := by
  rcases args with _ | ⟨argument, _ | ⟨second, rest⟩⟩
  · simp [decode]
  · cases known : schema? name with
    | none => simp [decode, ofArgument, known]
    | some schema =>
        cases read : schema argument with
        | error reason => simp [decode, ofArgument, known, read]
        | ok event =>
            have understood := understood_of_schema name schema argument event known read
            simp [decode, ofArgument, known, read, understood]
  · simp [decode]

namespace Connection

namespace System

/-- The loop comes to input that cannot be understood. -/
inductive Faces (system : System) (error : ProtocolError) : Move → Prop
  | frame (move : Move) (frame : Frame) (taken : system.stimulus? move = some (.frame frame))
      (malformed : Malformed frame error)
      (unasked : ∀ ns ackId name args,
        frame.socketPacket? = some (.event ns (some ackId) name args) →
          system.loop.options.acknowledge = false) : Faces system error move
  | event (packet : Socket.Packet) (concluding : system.loop.Concluding (.acknowledge packet))
      (refused : Event.decode packet = .protocolError error) :
      Faces system error (.answer (.ok ()))

theorem running_of_faces (system : System) (error : ProtocolError) (move : Move)
    (faces : Faces system error move) : system.loop.isStopped = false := by
  cases faces with
  | frame move frame taken => exact running_of_taken system move _ taken
  | event packet concluding =>
      exact Loop.isStopped_of_errand _ _ (Loop.errand?_of_concluding _ _ concluding)

/-- The error names the packet that could not be understood. -/
inductive Blames (system : System) (move : Move) : Subject → Prop
  | engine (frame : Frame) (packet : Engine.Packet)
      (taken : system.stimulus? move = some (.frame frame))
      (read : Engine.Packet.decode? frame = some packet) : Blames system move (.engine packet)
  | socket (frame : Frame) (packet : Socket.Packet)
      (taken : system.stimulus? move = some (.frame frame))
      (read : frame.socketPacket? = some packet) : Blames system move (.socket packet)
  | acknowledged (packet : Socket.Packet)
      (writing : system.loop.phase.errand? = some (.acknowledge packet)) :
      Blames system move (.socket packet)

theorem blames_of_faces (system : System) (error : ProtocolError) (move : Move)
    (faces : Faces system error move) : Blames system move error.subject := by
  cases faces with
  | frame move frame taken malformed =>
      have wrong := (problem?_eq_some_iff frame error).mpr malformed
      rcases subject_of_problem frame error wrong with ⟨packet, read, same⟩ | ⟨packet, read, same⟩
      · rw [same]
        exact .engine frame packet taken read
      · rw [same]
        exact .socket frame packet taken read
  | event packet concluding refused =>
      rw [Event.subject_of_decode packet error refused]
      exact .acknowledged packet (Loop.errand?_of_concluding _ _ concluding)

/-! ## Before the connection is ready -/

theorem ends_of_faces (system : System) (error : ProtocolError) (move : Move)
    (faces : Faces system error move) (pending : system.loop.readiness.isPending = true) :
    Ends system move (some error.toError) (some (.protocolError error.message)) := by
  cases faces with
  | frame move frame taken malformed unasked =>
      exact .malformed move frame error taken malformed unasked pending
  | event packet concluding refused =>
      exact .malformedEvent packet error concluding refused pending

theorem inbound_of_stopped (system : System) (moves : List Move) (coherent : system.loop.Coherent)
    (stopped : system.loop.isStopped = true) : system.inbound moves = [] := by
  induction moves generalizing system with
  | nil => rfl
  | cons move later ih =>
      have stepped := step_stepped system move
      have keeps := keeps_stepped system move _ coherent stopped stepped
      have untaken := untaken_of_stopped system move stopped
      rw [inbound, inbound?_of_untaken system move later untaken,
        ih _ (Loop.coherent_stepped system move _ coherent stepped) keeps.stopped]
      rfl

/-- A stopped loop adds nothing to its output. -/
theorem events_stopped (system : System) (moves : List Move) (coherent : system.loop.Coherent)
    (unflushed : system.loop.Unflushed) (stopped : system.loop.isStopped = true) :
    (system.run moves).loop.output.events = system.loop.output.events := by
  rw [events_run system moves coherent unflushed, Loop.owed_of_stopped _ _ stopped,
    inbound_of_stopped system moves coherent stopped]
  simp

/-- What is left behind when malformed input has ended the connection. -/
structure Refused (error : ProtocolError) (before after : Loop) : Prop where
  stopped : after.isStopped = true
  ending : after.ending? = some (some error.toError)
  calls : after.calls = before.calls ++ [.close ⟨1002, error.message⟩]
  readiness : after.readiness.outcome = some (.error error.toError)
  events : after.output.events = before.output.events
  ended : after.isEnded = true →
    after.output.closing = some (some error.toError) ∧ after.lifecycle = .failed

theorem refused_of_faces (options : ConnectOptions) (moves later : List Move)
    (error : ProtocolError) (move : Move) (faces : Faces ((start options).run moves) error move)
    (pending : ((start options).run moves).loop.readiness.isPending = true) :
    Refused error ((start options).run moves).loop
      ((start options).run (moves ++ move :: later)).loop := by
  have coherent := Loop.coherent_run options moves
  have running := running_of_faces _ error move faces
  have ends := ends_of_faces _ error move faces pending
  obtain ⟨stopped, ending, calls, readiness⟩ :=
    left_for_good _ move _ _ later coherent running ends
  obtain ⟨ticket, stops⟩ := leaves_of_ends _ move _ _ ends
  -- The loop is stopped by the move itself, so nothing that comes later is heard.
  have stoppedAtOnce := stops.isStopped _ _ _
  have nothing := events_stopped (((start options).run moves).step move) later
    (Loop.coherent_stepped _ move _ coherent (step_stepped _ move))
    (unflushed_of_course _ move _ (course_of_stepped _ move _ (step_stepped _ move))
      (unflushed_run options moves)) stoppedAtOnce
  rw [← run_append_cons] at stopped ending calls readiness nothing
  refine ⟨stopped, ending, calls, ?_, ?_, ?_⟩
  · rw [readiness, Loop.complete_pending _ _ pending]
    rfl
  · exact nothing.trans (congrArg Output.events (stops.output _ _ _))
  · intro ended
    have phase := (Loop.isEnded_iff _).mp ended
    obtain ⟨cause, _, closing, entered⟩ :=
      (Loop.coherent_run options (moves ++ move :: later)).ended phase
    rw [Loop.ending?, phase, closing] at ending
    cases ending
    exact ⟨closing, entered⟩

/-! ## Once it is ready -/

end System

namespace Loop

theorem seen_of_received (loop : Loop) (received : loop.receivedAny = true) : loop.seen = loop := by
  simp [seen, received]

theorem received_of_decided (loop : Loop) (placed : Placed loop)
    (decided : loop.readiness.isPending = false) : loop.receivedAny = true := by
  cases received : loop.receivedAny with
  | true => rfl
  | false => cases decided.symm.trans (placed.untouched received).pending

theorem report_decided (error : ProtocolError) (loop : Loop)
    (decided : loop.readiness.isPending = false) :
    loop.report error = { loop with output := loop.output.push (.protocolError error) } := by
  simp [report, decided]

theorem not_pending_of_ready (loop : Loop) (ready : loop.readiness.isReady = true) :
    loop.readiness.isPending = false := by
  cases pending : loop.readiness.isPending with
  | false => rfl
  | true => cases ready.symm.trans (not_ready_of_pending loop pending)

end Loop

namespace System

/-- The only trace of it is an item of the output. -/
theorem step_of_faces (system : System) (error : ProtocolError) (move : Move)
    (placed : system.loop.Placed) (decided : system.loop.readiness.isPending = false)
    (faces : Faces system error move) :
    (system.step move).loop =
      { system.loop with
        phase := .idle
        output := system.loop.output.push (.protocolError error) } := by
  cases faces with
  | frame move frame taken malformed unasked =>
      have idle := ((stimulus?_eq_some_iff system move _).mp taken).1
      have seen := Loop.seen_of_received _ (Loop.received_of_decided _ placed decided)
      rw [step_of_taken system move _ taken,
        Loop.react_of_malformed _ frame error _ malformed unasked, seen,
        Loop.report_decided error _ decided]
      rw [← idle]
  | event packet concluding refused =>
      have reported := Loop.report_decided error { system.loop with phase := .idle } decided
      rw [step, Loop.resume_of_concluding _ _ _ concluding]
      simp only [Loop.onWritten, refused, Loop.onEvent]
      exact reported

theorem ended_of_faces (system : System) (error : ProtocolError) (move : Move)
    (result : Except Error Unit) (faces : Faces system error move)
    (pending : system.loop.readiness.isPending = true) :
    ((system.step move).step (.answer result)).loop.isEnded = true := by
  have ends := ends_of_faces system error move faces pending
  obtain ⟨ticket, stops⟩ := leaves_of_ends _ move _ _ ends
  have closing := stops.phase _ _ _
  have answered := writes_of_answer (system.step move) _ _ result closing
  rw [answered]
  rfl

/-- Input that cannot be understood ends a connection that is not ready: with the error that it
makes, with nothing added to the output but that error, and with a close that tells.  Of a
connection that is ready it changes nothing but the output, to which the error is added.  An event
that is to be acknowledged is acknowledged first. -/
theorem malformed_dichotomy (options : ConnectOptions) (moves : List Move) :
    (∀ error move, Faces ((start options).run moves) error move →
        (∀ cause, error.cause = some cause →
          error.toError = .decode (error.message ++ ": " ++ cause)) ∧
        (error.cause = none → error.toError = .protocol error.message) ∧
        Blames ((start options).run moves) move error.subject ∧
        (((start options).run moves).loop.readiness.isPending = true →
          (∀ later, Refused error ((start options).run moves).loop
            ((start options).run (moves ++ move :: later)).loop) ∧
          ∀ result,
            ((start options).run (moves ++ [move, .answer result])).loop.isEnded = true) ∧
        (((start options).run moves).loop.readiness.isReady = true →
          ((start options).run (moves ++ [move])).loop =
            { ((start options).run moves).loop with
              phase := .idle
              output :=
                ⟨((start options).run moves).loop.output.events ++ [.protocolError error],
                  none⟩ })) ∧
      (∀ move frame ns ackId name args,
        ((start options).run moves).stimulus? move = some (.frame frame) →
        frame.socketPacket? = some (.event ns (some ackId) name args) →
        options.acknowledge = true →
        ∃ answer, (Socket.Packet.acknowledge ns ackId (some [])).toFrame = .ok answer ∧
          ((start options).run (moves ++ [move])).loop =
            ((start options).run moves).loop.seen.write answer false
              (.acknowledge (.event ns (some ackId) name args))) ∧
      (∀ packet error,
        ((start options).run moves).loop.phase.errand? = some (.acknowledge packet) →
        Event.decode packet = .protocolError error →
        Faces ((start options).run moves) error (.answer (.ok ()))) ∧
      ∀ ns ackId name args,
        (∃ error, Event.decode (.event ns ackId name args) = .protocolError error) ↔
          args.length ≠ 1 ∨ Event.schema? name = none ∨
            ∃ argument schema reason, args = [argument] ∧ Event.schema? name = some schema ∧
              schema argument = .error reason := by
  refine ⟨?_, ?_, ?_, Event.refused_iff⟩
  · intro error move faces
    refine ⟨?_, ?_, blames_of_faces _ error move faces, ?_, ?_⟩
    · intro cause held
      rw [ProtocolError.toError, held]
    · intro causeless
      rw [ProtocolError.toError, causeless]
    · intro pending
      refine ⟨fun later => refused_of_faces options moves later error move faces pending, ?_⟩
      intro result
      rw [run_append_cons]
      exact ended_of_faces _ error move result faces pending
    · intro ready
      have running := running_of_faces _ error move faces
      have unclosed := ((Loop.coherent_run options moves).running running).unclosed
      have pushed : ((start options).run moves).loop.output.push (.protocolError error) =
          ⟨((start options).run moves).loop.output.events ++ [.protocolError error], none⟩ := by
        rw [Output.push, unclosed]
      rw [run_append, ← pushed]
      exact step_of_faces _ error move (placed_run options moves running)
        (Loop.not_pending_of_ready _ ready) faces
  · intro move frame ns ackId name args taken read wanted
    obtain ⟨answer, written⟩ := Loop.acknowledge_toFrame ns ackId (some [])
    have wantedHere : ((start options).run moves).loop.options.acknowledge = true := by
      rw [options_run]
      exact wanted
    refine ⟨answer, written, ?_⟩
    rw [run_append, step_of_taken _ move _ taken]
    exact Loop.react_of_event _ _ frame ns ackId name args answer read wantedHere written
  · intro packet error writing refused
    have concluding := concluding_of_unflushed _ packet (unflushed_run options moves) writing
    exact .event packet concluding refused

def unknownPacket : ProtocolError :=
  ⟨.engine (.broken "x" "unknown packet type: x" none),
    "received broken engine packet: unknown packet type: x", none⟩

theorem faces_unknownPacket (system : System) (move : Move)
    (taken : system.stimulus? move = some (.frame (.text "x"))) :
    Faces system unknownPacket move := by
  refine .frame move (.text "x") taken
    (.engine "x" "unknown packet type: x" none (by decide +kernel)) ?_
  simp [Frame.socketPacket?, Engine.Packet.decode?, Engine.Packet.decodeText]

/-- It comes at once, or after the namespace was joined. -/
theorem malformed_dichotomy_of_unknownPacket :
    (Faces ((start .default).run []) unknownPacket (.arrive (.frame (.text "x"))) ∧
        ((start .default).run []).loop.readiness.isPending = true ∧
        ((start .default).run [.arrive (.frame (.text "x"))]).loop.calls =
          [.close ⟨1002, "received broken engine packet: unknown packet type: x"⟩]) ∧
      Faces ((start ⟨.ofMillis 2000, .immediate, true⟩).run [.arrive (.frame (.text "40"))])
        unknownPacket (.arrive (.frame (.text "x"))) ∧
      ((start ⟨.ofMillis 2000, .immediate, true⟩).run
        [.arrive (.frame (.text "40"))]).loop.readiness.isReady = true ∧
      ((start ⟨.ofMillis 2000, .immediate, true⟩).run
          [.arrive (.frame (.text "40")), .arrive (.frame (.text "x"))]).loop.output.events =
        [.protocolError unknownPacket] := by
  have atOnce := faces_unknownPacket ((start .default).run []) (.arrive (.frame (.text "x"))) rfl
  obtain ⟨_, _, _, waiting, _⟩ := (malformed_dichotomy .default []).1 unknownPacket _ atOnce
  have refused := (waiting rfl).1 []
  have ready : ((start ⟨.ofMillis 2000, .immediate, true⟩).run
      [.arrive (.frame (.text "40"))]).loop.readiness.isReady = true := by decide +kernel
  have silent : ((start ⟨.ofMillis 2000, .immediate, true⟩).run
      [.arrive (.frame (.text "40"))]).loop.output.events = [] :=
    List.isEmpty_iff.mp (by decide +kernel)
  have joined := faces_unknownPacket ((start ⟨.ofMillis 2000, .immediate, true⟩).run
    [.arrive (.frame (.text "40"))]) (.arrive (.frame (.text "x"))) (by decide +kernel)
  obtain ⟨_, _, _, _, passed⟩ := (malformed_dichotomy ⟨.ofMillis 2000, .immediate, true⟩
    [.arrive (.frame (.text "40"))]).1 unknownPacket _ joined
  have after := congrArg (fun loop : Loop => loop.output.events) (passed ready)
  simp only [silent] at after
  exact ⟨⟨atOnce, rfl, refused.calls⟩, joined, ready, after⟩

end System

end Connection

end ChatSocket
