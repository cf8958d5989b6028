import ChatSocket.Proofs.Connection.Delivery
import ChatSocket.Proofs.Connection.Lifecycle

/-!
# What the lifecycle tells about the output

A ready connection is called active from the first event on that is queued after it
became ready and is no problem with the input.  What was queued before does not count,
and problems never do.  `Turn` says how a step moves readiness, lifecycle and output
together; the rest is what follows for a run.
-/

set_option autoImplicit false

namespace ChatSocket

/-- Whether an event says that some input was not understood. -/
def Event.isProblem : Event → Bool
  | .protocolError _ => true
  | _ => false

namespace Connection

/-- Whether it says that the connection is ready. -/
def Lifecycle.isReady : Lifecycle → Bool
  | .ready | .active => true
  | .connecting | .handshaking | .closed | .failed => false

/-- What a connection is called once it is ready, by what it has queued since. -/
def Lifecycle.since (late : List Event) : Lifecycle :=
  if late.all Event.isProblem then .ready else .active

namespace Lifecycle

theorem since_problem (late : List Event) (error : ProtocolError) :
    since (late ++ [.protocolError error]) = since late := by
  simp [since, Event.isProblem]

theorem since_output (late : List Event) (event : Event) (understood : event.isProblem = false) :
    since (late ++ [event]) = .active := by
  simp [since, understood]

theorem since_ready_iff (late : List Event) :
    since late = .ready ↔ ∀ event ∈ late, event.isProblem = true := by
  rw [since, ← List.all_eq_true]
  split
  case isTrue problems => simp [problems]
  case isFalse other => simp [other]

theorem since_active_iff (late : List Event) :
    since late = .active ↔ ∃ event ∈ late, event.isProblem = false := by
  have either : since late = .active ↔ ¬ since late = .ready := by
    rw [since]
    split <;> simp
  rw [either, since_ready_iff]
  simp

end Lifecycle

namespace Loop

/-- How a step moves readiness, lifecycle and output. -/
inductive Turn (loop after : Loop) : Prop
  | quiet (ready : after.readiness.isReady = loop.readiness.isReady)
      (lifecycle : after.lifecycle = loop.lifecycle ∨ after.lifecycle.isTerminal = true)
      (events : after.output.events = loop.output.events)
  | resolved (ready : after.readiness.isReady = true) (lifecycle : after.lifecycle = .ready)
      (pending : loop.readiness.isPending = true)
      (events : after.output.events = loop.output.events)
  | reported (error : ProtocolError) (readiness : after.readiness = loop.readiness)
      (lifecycle : after.lifecycle = loop.lifecycle)
      (events : after.output.events = loop.output.events ++ [.protocolError error])
  | output (event : Event) (understood : event.isProblem = false)
      (readiness : after.readiness = loop.readiness)
      (lifecycle : after.lifecycle = if loop.lifecycle = .ready then .active else loop.lifecycle)
      (events : after.output.events = loop.output.events ++ [event])

/-! ## What a step does -/

theorem isReady_complete (error : Error) (readiness : Readiness) :
    (readiness.complete (.error error)).isReady = readiness.isReady := by
  obtain ⟨held⟩ := readiness
  cases held <;> rfl

theorem turn_stop (exit : Exit) (loop between : Loop)
    (readiness : between.readiness = loop.readiness)
    (lifecycle : between.lifecycle = loop.lifecycle) (output : between.output = loop.output) :
    Turn loop (between.stop exit) := by
  have ready : (between.stop exit).readiness.isReady = loop.readiness.isReady := by
    rw [← readiness]
    obtain ⟨cause, farewell, ticket⟩ := exit
    cases farewell with
    | none => exact isReady_complete _ _
    | some reason => exact isReady_complete _ _
  refine .quiet ready ?_ (by rw [events_stop, output])
  obtain ⟨cause, farewell, ticket⟩ := exit
  cases farewell with
  | some reason => exact .inl lifecycle
  | none =>
      refine .inr ?_
      cases cause <;> rfl

theorem turn_fail (cause : Error) (farewell : Option CloseReason) (loop between : Loop)
    (readiness : between.readiness = loop.readiness)
    (lifecycle : between.lifecycle = loop.lifecycle) (output : between.output = loop.output) :
    Turn loop (between.fail cause farewell) :=
  turn_stop ⟨some cause, farewell, none⟩ loop between readiness lifecycle output

theorem turn_reported (error : ProtocolError) (loop after : Loop) (live : Live loop)
    (reported : Reported error loop after) : Turn loop after := by
  cases reported with
  | fatal pending => exact turn_fail _ _ loop loop rfl rfl rfl
  | passed decided => exact .reported error rfl rfl (push_events _ _ live.unclosed)

theorem turn_noted (event : Event) (loop after : Loop) (live : Live loop)
    (noted : Noted loop event after) : Turn loop after := by
  cases noted with
  | signal pending => exact .resolved rfl rfl pending rfl
  | signalAgain | input => exact .quiet rfl (.inl rfl) rfl
  | problem error after reported => exact turn_reported error loop after live reported
  | output event isOutput understood =>
      refine .output event ?_ rfl rfl (push_events event _ live.unclosed)
      cases event with
      | protocolError error => exact absurd rfl (understood error)
      | _ => rfl

theorem turn_joined (now : Instant) (loop after : Loop) (joined : Joined now loop after) :
    Turn loop after := by
  cases joined with
  | again | waiting | delayed => exact .quiet rfl (.inl rfl) rfl
  | assumed pending policy => exact .resolved rfl rfl pending rfl

theorem turn_heard (now : Instant) (frame : Frame) (loop after : Loop) (live : Live loop)
    (heard : Heard now loop frame after) : Turn loop after := by
  cases heard with
  | silent | opened | asked | answered | acknowledged => exact .quiet rfl (.inl rfl) rfl
  | joined ns data after read joined => exact turn_joined now loop after joined
  | refused => exact turn_fail _ _ loop loop rfl rfl rfl
  | noted ns ackId name args after read unasked noted =>
      exact turn_noted _ loop after live noted
  | reported error after malformed noEvent reported =>
      exact turn_reported error loop after live reported

theorem turn_ticked (now : Instant) (tick : Tick) (loop after : Loop)
    (ticked : Ticked now loop tick after) : Turn loop after := by
  cases ticked with
  | stale | ping | pingAlone | assumedAgain => exact .quiet rfl (.inl rfl) rfl
  | pong => exact turn_fail _ _ loop _ rfl rfl rfl
  | assumed generation live pending => exact .resolved rfl rfl pending rfl

theorem turn_reacted (now : Instant) (stimulus : Stimulus) (loop after : Loop) (live : Live loop)
    (reacted : Reacted now loop stimulus after) : Turn loop after ∨ Turn loop.seen after := by
  cases reacted with
  | frame frame after notClose heard =>
      exact .inr (turn_heard now frame loop.seen after (live_seen loop live) heard)
  | tick tick after ticked => exact .inl (turn_ticked now tick loop after ticked)
  | send | deadlinePassed => exact .inl (.quiet rfl (.inl rfl) rfl)
  | earlyEnd | pendingEnd | orderlyEnd | failure | close | cancel | abandoned | deadline =>
      exact .inl (turn_stop _ loop loop rfl rfl rfl)

theorem turn_resumed (now : Instant) (result : Except Error Unit) (loop after : Loop)
    (coherent : Coherent loop) (resumed : Resumed now loop result after) : Turn loop after := by
  cases resumed with
  | sent | answeredPing | pinged | pingedAgain | served | unmoved =>
      exact .quiet rfl (.inl rfl) rfl
  | acknowledged packet after concluding noted =>
      have running := isStopped_of_errand loop _ (errand?_of_concluding _ loop concluding)
      have live := coherent.running running
      -- Letting go of the frame changes nothing that a turn looks at.
      cases turn_noted _ { loop with phase := .idle } after { live with } noted with
      | quiet ready lifecycle events => exact .quiet ready lifecycle events
      | resolved ready lifecycle pending events => exact .resolved ready lifecycle pending events
      | reported error readiness lifecycle events =>
          exact .reported error readiness lifecycle events
      | output event understood readiness lifecycle events =>
          exact .output event understood readiness lifecycle events
  | requestFailed => exact turn_fail _ _ loop _ rfl rfl rfl
  | failed => exact turn_fail _ _ loop loop rfl rfl rfl
  | closed reason exit result closing =>
      refine .quiet rfl (.inr ?_) (close_events exit.cause loop.output)
      rw [finish]
      cases exit.cause <;> rfl

/-! ## What the lifecycle is after it -/

/-- A connection that is not ready is not called so. -/
structure Unready (loop : Loop) : Prop where
  readiness : loop.readiness.isReady = false
  lifecycle : loop.lifecycle.isReady = false

/-- A ready connection is called by what it has queued since, until it ends. -/
structure Told (late : List Event) (loop : Loop) : Prop where
  readiness : loop.readiness.isReady = true
  lifecycle : loop.lifecycle.isTerminal = true ∨ loop.lifecycle = .since late

theorem unready_seen (loop : Loop) (unready : Unready loop) : Unready loop.seen := by
  rw [seen]
  split
  · exact unready
  · exact ⟨unready.readiness, rfl⟩

/-- A connection becomes ready without queueing anything. -/
theorem unready_turn (loop after : Loop) (unready : Unready loop) (turn : Turn loop after) :
    Unready after ∨ Told [] after ∧ after.output.events = loop.output.events := by
  obtain ⟨unready, uncalled⟩ := unready
  cases turn with
  | quiet ready lifecycle events =>
      refine .inl ⟨ready.trans unready, ?_⟩
      rcases lifecycle with same | terminal
      · rwa [same]
      · cases called : after.lifecycle <;> simp [called, Lifecycle.isTerminal] at terminal <;> rfl
  | resolved ready lifecycle pending events => exact .inr ⟨⟨ready, .inr lifecycle⟩, events⟩
  | reported error readiness lifecycle events =>
      exact .inl ⟨by rw [readiness, unready], by rw [lifecycle, uncalled]⟩
  | output event understood readiness lifecycle events =>
      have notReady : loop.lifecycle ≠ .ready := by
        intro called
        rw [called] at uncalled
        cases uncalled
      rw [if_neg notReady] at lifecycle
      exact .inl ⟨by rw [readiness, unready], by rw [lifecycle, uncalled]⟩

theorem told_turn (late : List Event) (loop after : Loop) (told : Told late loop)
    (turn : Turn loop after) :
    ∃ more, after.output.events = loop.output.events ++ more ∧ Told (late ++ more) after := by
  obtain ⟨ready, called⟩ := told
  cases turn with
  | quiet same lifecycle events =>
      refine ⟨[], by rw [events, List.append_nil], same.trans ready, ?_⟩
      rw [List.append_nil]
      rcases lifecycle with kept | terminal
      · rwa [kept]
      · exact .inl terminal
  | resolved again lifecycle pending events =>
      rw [not_ready_of_pending loop pending] at ready
      cases ready
  | reported error readiness lifecycle events =>
      refine ⟨_, events, by rw [readiness, ready], ?_⟩
      rwa [lifecycle, Lifecycle.since_problem]
  | output event understood readiness lifecycle events =>
      refine ⟨_, events, by rw [readiness, ready], ?_⟩
      rw [Lifecycle.since_output late event understood, lifecycle]
      rcases called with terminal | named
      · refine .inl ?_
        split
        case isTrue named =>
          rw [named] at terminal
          cases terminal
        case isFalse => exact terminal
      · refine .inr ?_
        rw [named, Lifecycle.since]
        split <;> rfl

/-- A loop that runs and is ready has received something. -/
theorem seen_of_ready (loop : Loop) (placed : Placed loop)
    (ready : loop.readiness.isReady = true) : loop.seen = loop := by
  rw [seen]
  split
  case isTrue => rfl
  case isFalse unseen =>
    have untouched := placed.untouched (Bool.eq_false_iff.mpr unseen)
    rw [not_ready_of_pending loop untouched.pending] at ready
    cases ready

end Loop

namespace System

theorem turn_stepped (system : System) (move : Move) (after : Loop)
    (coherent : system.loop.Coherent) (stepped : Stepped system move after) :
    Loop.Turn system.loop after ∨
      system.loop.isStopped = false ∧ Loop.Turn system.loop.seen after := by
  cases stepped with
  | took move stimulus after taken reacted =>
      have running := running_of_taken system move stimulus taken
      have turns := Loop.turn_reacted _ stimulus _ after (coherent.running running) reacted
      rcases turns with same | seen
      · exact .inl same
      · exact .inr ⟨running, seen⟩
  | fired kind => cases kind <;> exact .inl (.quiet rfl (.inl rfl) rfl)
  | answered result after resumed =>
      exact .inl (Loop.turn_resumed _ result _ after coherent resumed)
  | expired => exact .inl (Loop.turn_fail _ _ _ _ rfl rfl rfl)
  | still => exact .inl (.quiet rfl (.inl rfl) rfl)

theorem unready_step (system : System) (move : Move) (coherent : system.loop.Coherent)
    (unready : system.loop.Unready) :
    (system.step move).loop.Unready ∨ (system.step move).loop.Told [] ∧
      (system.step move).loop.output.events = system.loop.output.events := by
  rcases turn_stepped system move _ coherent (step_stepped system move) with turn | ⟨_, turn⟩
  · exact Loop.unready_turn _ _ unready turn
  · rw [← Loop.output_seen system.loop]
    exact Loop.unready_turn _ _ (Loop.unready_seen _ unready) turn

theorem told_step (late : List Event) (system : System) (move : Move)
    (coherent : system.loop.Coherent)
    (placed : system.loop.isStopped = false → system.loop.Placed)
    (told : system.loop.Told late) :
    ∃ more, (system.step move).loop.output.events = system.loop.output.events ++ more ∧
      (system.step move).loop.Told (late ++ more) := by
  rcases turn_stepped system move _ coherent (step_stepped system move) with turn | ⟨running, turn⟩
  · exact Loop.told_turn late _ _ told turn
  · rw [Loop.seen_of_ready _ (placed running) told.readiness] at turn
    exact Loop.told_turn late _ _ told turn

/-- Where a run became ready, and what it has queued since. -/
structure Since (options : ConnectOptions) (moves before : List Move) (deciding : Move)
    (later : List Move) (late : List Event) : Prop where
  split : moves = before ++ deciding :: later
  unready : ((start options).run before).loop.Unready
  ready : ((start options).run (before ++ [deciding])).loop.readiness.isReady = true
  silent : ((start options).run (before ++ [deciding])).loop.output.events =
    ((start options).run before).loop.output.events
  events : ((start options).run moves).loop.output.events =
    ((start options).run before).loop.output.events ++ late

theorem told_run (options : ConnectOptions) (moves : List Move) :
    ((start options).run moves).loop.Unready ∨
      ∃ before deciding later late, Since options moves before deciding later late ∧
        ((start options).run moves).loop.Told late := by
  induction moves using List.reverseRecOn with
  | nil => exact .inl ⟨rfl, rfl⟩
  | append_singleton moves last ih =>
      have coherent := Loop.coherent_run options moves
      rw [run_append]
      rcases ih with unready | ⟨before, deciding, later, late, since, told⟩
      · rcases unready_step _ last coherent unready with still | ⟨told, silent⟩
        · exact .inl still
        · have ready := told.readiness
          rw [← run_append] at ready silent
          refine .inr ⟨moves, last, [], [], ⟨rfl, unready, ready, silent, ?_⟩, told⟩
          rw [silent, List.append_nil]
      · obtain ⟨more, grown, told⟩ := told_step late _ last coherent (placed_run options moves) told
        refine .inr ⟨before, deciding, later ++ [last], late ++ more, ?_, told⟩
        refine { since with split := ?_, events := ?_ }
        · rw [since.split, List.append_assoc, List.cons_append]
        · rw [run_append, grown, since.events, List.append_assoc]

/-- What the lifecycle tells about the output.  A connection that is not ready is not called
ready or active.  One that is became so at one move, which queues nothing; until it ends it is
called ready as long as it has queued only problems since, and active as soon as it has queued
something else.  Where nothing was queued before that move and no problem after it, ready means
that nothing was queued at all. -/
theorem lifecycle_by_output (options : ConnectOptions) (moves : List Move) :
    (((start options).run moves).loop.readiness.isReady = false →
      ((start options).run moves).loop.lifecycle ≠ .ready ∧
        ((start options).run moves).loop.lifecycle ≠ .active) ∧
    (((start options).run moves).loop.readiness.isReady = true →
      ∃ before deciding later late, moves = before ++ deciding :: later ∧
        ((start options).run before).loop.readiness.isReady = false ∧
        ((start options).run (before ++ [deciding])).loop.readiness.isReady = true ∧
        ((start options).run (before ++ [deciding])).loop.output.events =
          ((start options).run before).loop.output.events ∧
        ((start options).run moves).loop.output.events =
          ((start options).run before).loop.output.events ++ late ∧
        (((start options).run moves).loop.lifecycle.isTerminal = false →
          (((start options).run moves).loop.lifecycle = .ready ↔
            ∀ event ∈ late, event.isProblem = true) ∧
          (((start options).run moves).loop.lifecycle = .active ↔
            ∃ event ∈ late, event.isProblem = false) ∧
          (((start options).run before).loop.output.events = [] →
            (∀ event ∈ late, event.isProblem = false) →
            (((start options).run moves).loop.lifecycle = .ready ↔
              ((start options).run moves).loop.output.events = []) ∧
            (((start options).run moves).loop.lifecycle = .active ↔
              ((start options).run moves).loop.output.events ≠ [])))) := by
  rcases told_run options moves with unready | ⟨before, deciding, later, late, since, told⟩
  · refine ⟨fun _ => ⟨?_, ?_⟩, ?_⟩
    · intro called
      cases (congrArg Lifecycle.isReady called).symm.trans unready.lifecycle
    · intro called
      cases (congrArg Lifecycle.isReady called).symm.trans unready.lifecycle
    · intro ready
      cases ready.symm.trans unready.readiness
  · refine ⟨?_, fun _ => ⟨before, deciding, later, late, since.split, since.unready.readiness,
      since.ready, since.silent, since.events, ?_⟩⟩
    · intro unready
      cases unready.symm.trans told.readiness
    · intro unfinished
      have called : ((start options).run moves).loop.lifecycle = .since late := by
        rcases told.lifecycle with terminal | called
        · cases unfinished.symm.trans terminal
        · exact called
      rw [called, Lifecycle.since_ready_iff, Lifecycle.since_active_iff]
      refine ⟨Iff.rfl, Iff.rfl, ?_⟩
      intro early fine
      rw [since.events, early, List.nil_append]
      cases late with
      | nil => simp
      | cons event rest =>
          have first := fine event List.mem_cons_self
          simp [first]

/-- An event comes before the signal that the endpoint is ready. -/
def earlyOutput : List Move :=
  [.arrive (.frame (.text "40")),
    .arrive (.frame (.text "42[\"typingStatus\",\x7b\"status\":\"typingOn\"\x7d]")),
    .arrive (.frame (.text "42[\"endpoint-ready\",\x7b\x7d]"))]

/-- The first thing after the signal cannot be read. -/
def lateProblem : List Move :=
  [.arrive (.frame (.text "42[\"endpoint-ready\",\x7b\x7d]")), .arrive (.frame (.text "x"))]

/-- A connection may be called ready although it has queued something, in either way. -/
theorem ready_despite_output :
    (¬ ∀ (options : ConnectOptions) (moves : List Move),
      ((start options).run moves).loop.lifecycle = .ready →
      ((start options).run moves).loop.output.events = []) ∧
    ¬ ∀ (options : ConnectOptions) (moves : List Move),
      ((start options).run moves).loop.lifecycle.isTerminal = false →
      ((start options).run moves).loop.readiness.isReady = true →
      ((start options).run moves).loop.output.events ≠ [] →
      ((start options).run moves).loop.lifecycle = .active := by
  constructor
  · intro nothing
    have silent := nothing .default earlyOutput (by decide +kernel)
    revert silent
    decide +kernel
  · intro active
    have called := active .default lateProblem (by decide +kernel) (by decide +kernel)
      (by decide +kernel)
    revert called
    decide +kernel

/-- An event comes before the signal and one after it, which makes the connection active. -/
def earlyAndLateOutput : List Move :=
  earlyOutput ++
    [.arrive (.frame (.text "42[\"typingStatus\",\x7b\"status\":\"typingOff\"\x7d]"))]

theorem lifecycle_by_output_of_earlyAndLateOutput :
    ((start .default).run earlyAndLateOutput).loop.lifecycle = .active ∧
      ∃ before late, before <+: earlyAndLateOutput ∧
        ((start .default).run before).loop.readiness.isReady = false ∧
        ((start .default).run earlyAndLateOutput).loop.output.events =
          ((start .default).run before).loop.output.events ++ late ∧
        ∃ event ∈ late, event.isProblem = false := by
  have called : ((start .default).run earlyAndLateOutput).loop.lifecycle = .active := by
    decide +kernel
  obtain ⟨before, deciding, later, late, split, unready, _, _, events, tells⟩ :=
    (lifecycle_by_output .default earlyAndLateOutput).2 (by decide +kernel)
  obtain ⟨_, active, _⟩ := tells (by rw [called]; rfl)
  exact ⟨called, before, late, ⟨deciding :: later, split.symm⟩, unready, events, active.mp called⟩

end System

end Connection

end ChatSocket
