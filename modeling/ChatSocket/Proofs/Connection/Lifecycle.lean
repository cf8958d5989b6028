import ChatSocket.Proofs.Connection.PongDeadline

/-!
# How far a connection has come

The lifecycle follows from what else the loop knows: whether anything was received and
whether readiness is decided.  `Placed` says so, with what is still missing while nothing
was received; `Advances` says that a step keeps it and moves the lifecycle forward only.
-/

set_option autoImplicit false

namespace ChatSocket.Connection

namespace Lifecycle

def rank : Lifecycle → Nat
  | .connecting => 0
  | .handshaking => 1
  | .ready => 2
  | .active => 3
  | .closed | .failed => 4

/-- Nothing comes after a terminal lifecycle but itself. -/
def Precedes (first second : Lifecycle) : Prop := first = second ∨ first.rank < second.rank

theorem precedes_self (lifecycle : Lifecycle) : lifecycle.Precedes lifecycle := Or.inl rfl

theorem precedes_trans (first second third : Lifecycle) (earlier : first.Precedes second)
    (later : second.Precedes third) : first.Precedes third := by
  rcases earlier with rfl | less
  · exact later
  · rcases later with rfl | lessToo
    · exact Or.inr less
    · exact Or.inr (Nat.lt_trans less lessToo)

theorem precedes_terminal (first second : Lifecycle) (unfinished : first.isTerminal = false)
    (terminal : second.isTerminal = true) : first.Precedes second := by
  refine Or.inr ?_
  cases second with
  | closed | failed => cases first <;> first | decide | cases unfinished
  | connecting | handshaking | ready | active => cases terminal

end Lifecycle

namespace Loop

/-- What is true as long as nothing was received. -/
structure Untouched (loop : Loop) : Prop where
  lifecycle : loop.lifecycle = .connecting
  pending : loop.readiness.isPending = true
  heartbeat : loop.heartbeat = none
  disarmed : ∀ kind, (loop.slot kind).isArmed = false
  silent : loop.output.events = []
  unasked : ∀ packet, loop.phase.errand? ≠ some (.acknowledge packet)

/-- The lifecycle says what the rest of the loop says. -/
structure Placed (loop : Loop) : Prop where
  untouched : loop.receivedAny = false → Untouched loop
  waiting : loop.receivedAny = true → loop.readiness.isPending = true →
    loop.lifecycle = .handshaking
  decided : loop.readiness.isPending = false →
    loop.lifecycle = .ready ∨ loop.lifecycle = .active
  beating : loop.pingTimer.isArmed = loop.heartbeat.isSome

structure Advances (loop after : Loop) : Prop where
  placed : after.isStopped = false → Placed after
  forward : loop.lifecycle.Precedes after.lifecycle

theorem placed_of_received (loop : Loop) (received : loop.receivedAny = true)
    (waiting : loop.readiness.isPending = true → loop.lifecycle = .handshaking)
    (decided : loop.readiness.isPending = false →
      loop.lifecycle = .ready ∨ loop.lifecycle = .active)
    (beating : loop.pingTimer.isArmed = loop.heartbeat.isSome) : Placed loop where
  untouched unseen := by cases received.symm.trans unseen
  waiting _ := waiting
  decided := decided
  beating := beating

theorem advances_self (loop : Loop) (placed : loop.isStopped = false → Placed loop) :
    Advances loop loop :=
  ⟨placed, loop.lifecycle.precedes_self⟩

theorem advances_stop (exit : Exit) (loop between : Loop)
    (unfinished : loop.lifecycle.isTerminal = false)
    (same : between.lifecycle = loop.lifecycle) : Advances loop (between.stop exit) := by
  refine ⟨?_, ?_⟩
  · intro running
    cases (isStopped_stop exit between).symm.trans running
  · obtain ⟨cause, farewell, ticket⟩ := exit
    cases farewell with
    | some reason => exact Or.inl same.symm
    | none =>
        refine Lifecycle.precedes_terminal _ _ unfinished ?_
        cases cause <;> rfl

theorem advances_fail (cause : Error) (farewell : Option CloseReason) (loop between : Loop)
    (unfinished : loop.lifecycle.isTerminal = false)
    (same : between.lifecycle = loop.lifecycle) :
    Advances loop (between.fail cause farewell) :=
  advances_stop ⟨some cause, farewell, none⟩ loop between unfinished same

/-- A connection that waits is not further than the handshake. -/
theorem precedes_ready (loop : Loop) (placed : Placed loop)
    (pending : loop.readiness.isPending = true) : loop.lifecycle.Precedes .ready := by
  refine Or.inr ?_
  cases received : loop.receivedAny with
  | false =>
      rw [(placed.untouched received).lifecycle]
      decide
  | true =>
      rw [placed.waiting received pending]
      decide

/-- The three stages of a loop that runs. -/
theorem stage_of_placed (loop : Loop) (placed : Placed loop) :
    (loop.receivedAny = false ∧ loop.readiness.isPending = true ∧
        loop.lifecycle = .connecting) ∨
      (loop.receivedAny = true ∧ loop.readiness.isPending = true ∧
        loop.lifecycle = .handshaking) ∨
      (loop.receivedAny = true ∧ loop.readiness.isPending = false ∧
        (loop.lifecycle = .ready ∨ loop.lifecycle = .active)) := by
  cases received : loop.receivedAny with
  | false =>
      have untouched := placed.untouched received
      exact Or.inl ⟨rfl, untouched.pending, untouched.lifecycle⟩
  | true =>
      cases pending : loop.readiness.isPending with
      | true => exact Or.inr (Or.inl ⟨rfl, rfl, placed.waiting received pending⟩)
      | false => exact Or.inr (Or.inr ⟨rfl, rfl, placed.decided pending⟩)

theorem connecting_iff (loop : Loop) (placed : Placed loop) :
    loop.lifecycle = .connecting ↔ loop.receivedAny = false := by
  rcases stage_of_placed loop placed with
    ⟨received, _, stage⟩ | ⟨received, _, stage⟩ | ⟨received, _, stage | stage⟩ <;>
    simp [received, stage]

theorem handshaking_iff (loop : Loop) (placed : Placed loop) :
    loop.lifecycle = .handshaking ↔
      loop.receivedAny = true ∧ loop.readiness.isPending = true := by
  rcases stage_of_placed loop placed with
    ⟨received, pending, stage⟩ | ⟨received, pending, stage⟩ |
      ⟨received, pending, stage | stage⟩ <;>
    simp [received, pending, stage]

theorem ready_iff (loop : Loop) (placed : Placed loop) (live : Live loop) :
    loop.lifecycle = .ready ∨ loop.lifecycle = .active ↔ loop.readiness.isReady = true := by
  constructor
  · intro further
    refine ready_of_decided loop live ?_
    rcases stage_of_placed loop placed with
      ⟨_, _, stage⟩ | ⟨_, _, stage⟩ | ⟨_, decided, _⟩
    · simp [stage] at further
    · simp [stage] at further
    · exact decided
  · intro ready
    refine placed.decided (Bool.eq_false_iff.mpr fun pending => ?_)
    have undecided : loop.readiness.outcome = none := Option.isNone_iff_eq_none.mp pending
    simp [Readiness.isReady, undecided] at ready

/-! ## What a frame does -/

section Received

variable (loop after : Loop) (placed : Placed loop) (received : loop.receivedAny = true)
  (unfinished : loop.lifecycle.isTerminal = false)

include placed received unfinished

theorem advances_reported (error : ProtocolError) (reported : Reported error loop after) :
    Advances loop after := by
  cases reported with
  | fatal pending => exact advances_fail _ _ loop loop unfinished rfl
  | passed decided =>
      refine ⟨fun _ => ?_, loop.lifecycle.precedes_self⟩
      exact placed_of_received _ received (placed.waiting received) placed.decided placed.beating

theorem advances_noted (event : Event) (noted : Noted loop event after) :
    Advances loop after := by
  cases noted with
  | signal pending =>
      refine ⟨fun _ => ?_, precedes_ready loop placed pending⟩
      refine placed_of_received _ received ?_ (fun _ => Or.inl rfl) placed.beating
      intro impossible
      cases impossible
  | signalAgain decided =>
      refine ⟨fun _ => ?_, loop.lifecycle.precedes_self⟩
      exact placed_of_received _ received (placed.waiting received) placed.decided placed.beating
  | problem error after reported =>
      exact advances_reported loop after placed received unfinished error reported
  | input input => exact advances_self loop fun _ => placed
  | output event isOutput understood =>
      by_cases ready : loop.lifecycle = .ready
      · refine ⟨fun _ => ?_, ?_⟩
        · refine placed_of_received _ received ?_ ?_ placed.beating
          · intro pending
            cases (placed.waiting received pending).symm.trans ready
          · intro decided
            exact Or.inr (if_pos ready)
        · simp only [ready, if_true]
          exact Or.inr (by decide)
      · simp only [ready, if_false]
        refine ⟨fun _ => ?_, loop.lifecycle.precedes_self⟩
        exact placed_of_received _ received (placed.waiting received) placed.decided placed.beating

omit unfinished in
theorem advances_joined (now : Instant) (joined : Joined now loop after) :
    Advances loop after := by
  cases joined with
  | again | waiting => exact advances_self loop fun _ => placed
  | assumed pending policy =>
      refine ⟨fun _ => ?_, precedes_ready loop placed pending⟩
      refine placed_of_received _ received ?_ (fun _ => Or.inl rfl) placed.beating
      intro impossible
      cases impossible
  | delayed span pending policy =>
      refine ⟨fun _ => ?_, loop.lifecycle.precedes_self⟩
      exact placed_of_received _ received (placed.waiting received) placed.decided placed.beating

theorem advances_heard (now : Instant) (frame : Frame) (heard : Heard now loop frame after) :
    Advances loop after := by
  -- Most frames touch neither readiness nor the ping timer.
  have kept : ∀ after : Loop, after.receivedAny = loop.receivedAny →
      after.readiness = loop.readiness → after.lifecycle = loop.lifecycle →
      after.pingTimer.isArmed = after.heartbeat.isSome → Advances loop after := by
    intro after sameReceived sameReadiness sameLifecycle beating
    refine ⟨fun _ => ?_, Or.inl sameLifecycle.symm⟩
    refine placed_of_received after (sameReceived.trans received) ?_ ?_ beating
    · rw [sameReadiness, sameLifecycle]
      exact placed.waiting received
    · rw [sameReadiness, sameLifecycle]
      exact placed.decided
  cases heard with
  | silent | asked | answered | acknowledged => exact kept _ rfl rfl rfl placed.beating
  | opened data read interval timeout => exact kept _ rfl rfl rfl rfl
  | joined ns data after read joined =>
      exact advances_joined loop after placed received now joined
  | refused => exact advances_fail _ _ loop loop unfinished rfl
  | noted ns ackId name args after read unasked noted =>
      exact advances_noted loop after placed received unfinished _ noted
  | reported error after malformed noEvent reported =>
      exact advances_reported loop after placed received unfinished error reported

end Received

theorem advances_seen (loop : Loop) (placed : Placed loop) : Advances loop loop.seen := by
  rw [seen]
  split
  · exact advances_self loop fun _ => placed
  · rename_i unseen
    have untouched := placed.untouched (Bool.eq_false_iff.mpr unseen)
    refine ⟨fun _ => ?_, ?_⟩
    · refine placed_of_received _ rfl (fun _ => rfl) ?_ placed.beating
      intro decided
      cases untouched.pending.symm.trans decided
    · rw [untouched.lifecycle]
      exact Or.inr Nat.zero_lt_one

theorem advances_trans (first second third : Loop) (earlier : Advances first second)
    (later : Advances second third) : Advances first third :=
  ⟨later.placed, Lifecycle.precedes_trans _ _ _ earlier.forward later.forward⟩

/-! ## What else happens -/

/-- A frame that is being written changes nothing else. -/
theorem placed_write (frame : Frame) (flush : Bool) (errand : Errand) (loop : Loop)
    (placed : Placed loop) (other : ∀ packet, errand ≠ .acknowledge packet) :
    Placed (loop.write frame flush errand) where
  untouched unseen := { placed.untouched unseen with
    unasked := fun packet writing => other packet (Option.some.inj writing) }
  waiting := placed.waiting
  decided := placed.decided
  beating := placed.beating

theorem placed_idle (loop : Loop) (placed : Placed loop) : Placed { loop with phase := .idle } where
  untouched unseen := { placed.untouched unseen with unasked := by simp [Phase.errand?] }
  waiting := placed.waiting
  decided := placed.decided
  beating := placed.beating

theorem received_of_armed (kind : TimerKind) (loop : Loop) (placed : Placed loop)
    (armed : (loop.slot kind).isArmed = true) : loop.receivedAny = true := by
  cases received : loop.receivedAny with
  | true => rfl
  | false => cases armed.symm.trans ((placed.untouched received).disarmed kind)

theorem advances_ticked (now : Instant) (tick : Tick) (loop after : Loop) (placed : Placed loop)
    (unfinished : loop.lifecycle.isTerminal = false) (ticked : Ticked now loop tick after) :
    Advances loop after := by
  cases ticked with
  | stale | pingAlone => exact advances_self loop fun _ => placed
  | ping generation beat live inForce =>
      refine ⟨fun _ => ?_, loop.lifecycle.precedes_self⟩
      exact placed_write _ _ _ loop placed (by simp)
  | pong generation live =>
      exact advances_fail _ _ loop
        { loop with pongTimer := { loop.pongTimer with current := none } } unfinished rfl
  | assumed generation live pending =>
      have received := received_of_armed .readiness loop placed
        (Slot.isArmed_of_isLive generation _ live)
      refine ⟨fun _ => ?_, precedes_ready loop placed pending⟩
      refine placed_of_received _ received ?_ (fun _ => Or.inl rfl) placed.beating
      intro impossible
      cases impossible
  | assumedAgain generation live decided =>
      have received := received_of_armed .readiness loop placed
        (Slot.isArmed_of_isLive generation _ live)
      refine ⟨fun _ => ?_, loop.lifecycle.precedes_self⟩
      exact placed_of_received _ received (placed.waiting received) placed.decided placed.beating

theorem advances_reacted (now : Instant) (stimulus : Stimulus) (loop after : Loop)
    (placed : Placed loop) (live : Live loop) (running : loop.isStopped = false)
    (reacted : Reacted now loop stimulus after) : Advances loop after := by
  have unfinished := live.unfinished
  cases reacted with
  | frame frame after notClose heard =>
      have first := advances_seen loop placed
      have seenRunning : loop.seen.isStopped = false := by
        rw [isStopped, phase_seen]
        exact running
      have second := advances_heard loop.seen after (first.placed seenRunning)
        (receivedAny_seen loop) (live_seen loop live).unfinished now frame heard
      exact advances_trans loop loop.seen after first second
  | tick tick after ticked => exact advances_ticked now tick loop after placed unfinished ticked
  | send frame flush ticket =>
      refine ⟨fun _ => ?_, loop.lifecycle.precedes_self⟩
      exact placed_write frame flush _ loop placed (by simp)
  | deadlinePassed => exact advances_self loop fun _ => placed
  | earlyEnd | pendingEnd | orderlyEnd | failure | close | cancel | abandoned | deadline =>
      exact advances_stop _ loop loop unfinished rfl

theorem advances_resumed (now : Instant) (result : Except Error Unit) (loop after : Loop)
    (placed : loop.isStopped = false → Placed loop) (coherent : Coherent loop)
    (resumed : Resumed now loop result after) : Advances loop after := by
  -- Only a loop that runs has something to write.
  have writes : ∀ errand, loop.phase.errand? = some errand →
      Placed loop ∧ loop.lifecycle.isTerminal = false := by
    intro errand writing
    have running := isStopped_of_errand loop errand writing
    exact ⟨placed running, (coherent.running running).unfinished⟩
  have concludes : ∀ errand, loop.Concluding errand → Placed { loop with phase := .idle } := by
    intro errand concluding
    exact placed_idle loop (writes errand (errand?_of_concluding errand loop concluding)).1
  cases resumed with
  | sent frame errand sending =>
      have writing : loop.phase.errand? = some errand := by rw [sending]; rfl
      obtain ⟨before, _⟩ := writes errand writing
      refine ⟨fun _ => ?_, loop.lifecycle.precedes_self⟩
      refine ⟨fun unseen => ?_, before.waiting, before.decided, before.beating⟩
      have untouched := before.untouched unseen
      refine { untouched with unasked := fun packet asked => untouched.unasked packet ?_ }
      exact writing.trans asked
  | answeredPing concluding | pingedAgain beat limit concluding armed
  | served ticket concluding =>
      have idle := concludes _ concluding
      exact ⟨fun _ => { idle with untouched := fun unseen => { idle.untouched unseen with } },
        loop.lifecycle.precedes_self⟩
  | acknowledged packet after concluding noted =>
      have writing := errand?_of_concluding _ loop concluding
      obtain ⟨before, unfinished⟩ := writes _ writing
      have received : loop.receivedAny = true := by
        by_contra unseen
        exact (before.untouched (Bool.eq_false_iff.mpr unseen)).unasked packet writing
      have advances := advances_noted { loop with phase := .idle } after (concludes _ concluding)
        received unfinished _ noted
      exact ⟨advances.placed, advances.forward⟩
  | pinged beat limit concluding unarmed =>
      have writing := errand?_of_concluding _ loop concluding
      have inForce := (coherent.beating beat limit writing).1
      obtain ⟨before, _⟩ := writes _ writing
      have received : loop.receivedAny = true := by
        by_contra unseen
        have untouched := before.untouched (Bool.eq_false_iff.mpr unseen)
        cases untouched.heartbeat.symm.trans inForce
      refine ⟨fun _ => ?_, loop.lifecycle.precedes_self⟩
      exact placed_of_received _ received (before.waiting received) before.decided before.beating
  | requestFailed error ticket writing =>
      exact advances_fail _ _ loop (loop.reply ticket _) (writes _ writing).2 rfl
  | failed error errand writing => exact advances_fail _ _ loop loop (writes _ writing).2 rfl
  | closed reason exit result closing =>
      have unfinished := (coherent.closing reason exit closing).2.2
      refine ⟨?_, Lifecycle.precedes_terminal _ _ unfinished ?_⟩
      · intro running
        cases running
      · rw [finish]
        cases exit.cause <;> rfl
  | unmoved => exact advances_self loop placed

theorem advances_fired (now : Instant) (kind : TimerKind) (loop : Loop)
    (placed : loop.isStopped = false → Placed loop) :
    Advances loop (loop.setSlot kind ((loop.slot kind).fire now).2) := by
  have armed := fun other => isArmed_setSlot_fire now kind other loop
  refine ⟨?_, ?_⟩
  · intro running
    rw [isStopped, phase_setSlot] at running
    have before := placed running
    refine ⟨?_, ?_, ?_, ?_⟩
    · rw [receivedAny_setSlot]
      intro unseen
      have untouched := before.untouched unseen
      have disarmed := fun other => (armed other).trans (untouched.disarmed other)
      cases kind <;> exact { untouched with disarmed }
    · rw [receivedAny_setSlot, readiness_setSlot, lifecycle_setSlot]
      exact before.waiting
    · rw [readiness_setSlot, lifecycle_setSlot]
      exact before.decided
    · rw [heartbeat_setSlot]
      exact (armed .ping).trans before.beating
  · rw [lifecycle_setSlot]
    exact loop.lifecycle.precedes_self

end Loop

namespace System

theorem advances_stepped (system : System) (move : Move) (after : Loop)
    (placed : system.loop.isStopped = false → Loop.Placed system.loop)
    (coherent : system.loop.Coherent) (stepped : Stepped system move after) :
    Loop.Advances system.loop after := by
  cases stepped with
  | took move stimulus after taken reacted =>
      have idle := ((stimulus?_eq_some_iff system move stimulus).mp taken).1
      have running : system.loop.isStopped = false := by simp [Loop.isStopped, idle]
      exact Loop.advances_reacted _ stimulus _ after (placed running) (coherent.running running)
        running reacted
  | fired kind => exact Loop.advances_fired _ kind _ placed
  | answered result after resumed =>
      exact Loop.advances_resumed _ result _ after placed coherent resumed
  | expired beat limit writing =>
      have running := Loop.isStopped_of_errand _ _ writing
      exact Loop.advances_fail _ _ _ _ (coherent.running running).unfinished rfl
  | still => exact Loop.advances_self _ placed

/-! ## Runs -/

theorem placed_start (options : ConnectOptions) : (start options).loop.Placed where
  untouched _ := by
    refine ⟨rfl, rfl, rfl, ?_, rfl, by simp [start, Loop.start, Phase.errand?]⟩
    intro kind
    cases kind <;> rfl
  waiting received := by cases received
  decided decided := by cases decided
  beating := rfl

theorem advances_step (system : System) (move : Move)
    (placed : system.loop.isStopped = false → system.loop.Placed)
    (coherent : system.loop.Coherent) :
    Loop.Advances system.loop (system.step move).loop :=
  advances_stepped system move _ placed coherent (step_stepped system move)

theorem placed_run (options : ConnectOptions) (moves : List Move)
    (running : ((start options).run moves).loop.isStopped = false) :
    ((start options).run moves).loop.Placed := by
  have invariant := run_invariant
    (fun system => system.loop.Coherent ∧ (system.loop.isStopped = false → system.loop.Placed))
    (start options) moves ⟨Loop.coherent_start options, fun _ => placed_start options⟩ ?_
  · exact invariant.2 running
  · rintro system move ⟨coherent, placed⟩
    exact ⟨Loop.coherent_stepped system move _ coherent (step_stepped system move),
      (advances_step system move placed coherent).placed⟩

/-- What the lifecycle is for a moment while a move is made. -/
def passing (system : System) (move : Move) : List Lifecycle :=
  match system.stimulus? move with
  | some (.frame received) => if received.isClose then [] else [system.loop.seen.lifecycle]
  | _ => []

/-- All that the lifecycle is in the course of a run. -/
def lifecycles (system : System) : List Move → List Lifecycle
  | [] => [system.loop.lifecycle]
  | move :: later =>
      system.loop.lifecycle :: (system.passing move ++ (system.step move).lifecycles later)

theorem passing_pairwise (system : System) (move : Move) :
    (system.passing move).Pairwise Lifecycle.Precedes := by
  rw [passing]
  split
  · split
    · exact List.Pairwise.nil
    · exact List.pairwise_singleton _ _
  · exact List.Pairwise.nil

theorem received_of_passing (system : System) (move : Move) (lifecycle : Lifecycle)
    (passes : lifecycle ∈ system.passing move) :
    lifecycle = system.loop.seen.lifecycle ∧
      ∃ frame, system.stimulus? move = some (.frame frame) ∧ frame.isClose = false := by
  simp only [passing] at passes
  split at passes
  · rename_i frame taken
    split at passes
    · cases passes
    · rename_i notClose
      exact ⟨List.mem_singleton.mp passes, frame, taken, Bool.eq_false_iff.mpr notClose⟩
  · cases passes

theorem precedes_passing (system : System) (move : Move) (lifecycle : Lifecycle)
    (placed : system.loop.isStopped = false → system.loop.Placed)
    (coherent : system.loop.Coherent) (passes : lifecycle ∈ system.passing move) :
    system.loop.lifecycle.Precedes lifecycle ∧
      lifecycle.Precedes (system.step move).loop.lifecycle := by
  obtain ⟨rfl, frame, taken, notClose⟩ := received_of_passing system move lifecycle passes
  have idle := ((stimulus?_eq_some_iff system move _).mp taken).1
  have running : system.loop.isStopped = false := by simp [Loop.isStopped, idle]
  have seenRunning : system.loop.seen.isStopped = false := by
    rw [Loop.isStopped, Loop.phase_seen]
    exact running
  have first := Loop.advances_seen system.loop (placed running)
  have unfinished := (Loop.live_seen _ (coherent.running running)).unfinished
  have heard := Loop.onFrame_heard system.now system.loop frame
  have same : (system.step move).loop = system.loop.onFrame system.now frame := by
    rw [step_of_taken system move _ taken]
    cases frame with
    | close reason => cases notClose
    | text | binary | ping | pong => rfl
  rw [same]
  exact ⟨first.forward, (Loop.advances_heard _ _ (first.placed seenRunning)
    (Loop.receivedAny_seen _) unfinished system.now frame heard).forward⟩

theorem precedes_lifecycles (system : System) (moves : List Move)
    (placed : system.loop.isStopped = false → system.loop.Placed)
    (coherent : system.loop.Coherent) :
    ∀ lifecycle ∈ system.lifecycles moves, system.loop.lifecycle.Precedes lifecycle := by
  induction moves generalizing system with
  | nil =>
      intro lifecycle member
      rw [List.mem_singleton.mp member]
      exact system.loop.lifecycle.precedes_self
  | cons move later ih =>
      intro lifecycle member
      have advances := advances_step system move placed coherent
      have coherentAfter := Loop.coherent_stepped system move _ coherent (step_stepped system move)
      rcases List.mem_cons.mp member with rfl | member
      · exact system.loop.lifecycle.precedes_self
      · rcases List.mem_append.mp member with passes | after
        · exact (precedes_passing system move lifecycle placed coherent passes).1
        · have rest := ih (system.step move) advances.placed coherentAfter lifecycle after
          exact Lifecycle.precedes_trans _ _ _ advances.forward rest

theorem lifecycles_pairwise (system : System) (moves : List Move)
    (placed : system.loop.isStopped = false → system.loop.Placed)
    (coherent : system.loop.Coherent) :
    (system.lifecycles moves).Pairwise Lifecycle.Precedes := by
  induction moves generalizing system with
  | nil => exact List.pairwise_singleton _ _
  | cons move later ih =>
      have advances := advances_step system move placed coherent
      have coherentAfter := Loop.coherent_stepped system move _ coherent (step_stepped system move)
      refine List.pairwise_cons.mpr ⟨?_, List.pairwise_append.mpr
        ⟨passing_pairwise system move, ih _ advances.placed coherentAfter, ?_⟩⟩
      · intro lifecycle member
        exact precedes_lifecycles system (move :: later) placed coherent lifecycle
          (List.mem_cons_of_mem _ member)
      · intro first passes second after
        have onward := (precedes_passing system move first placed coherent passes).2
        have rest := precedes_lifecycles _ later advances.placed coherentAfter second after
        exact Lifecycle.precedes_trans _ _ _ onward rest

end System

/-! ## Heartbeats that were opened -/

namespace Beat

theorem opened_of_inForce (beats : List Beat) (beat : Heartbeat)
    (held : inForce beats = some beat) :
    ∃ earlier later, beats = earlier ++ .opened beat :: later ∧
      ∀ other, Beat.opened other ∉ later := by
  induction beats using List.reverseRecOn with
  | nil => cases held
  | append_singleton beats last ih =>
      rw [inForce_append] at held
      cases last with
      | opened other =>
          cases held
          exact ⟨beats, [], rfl, by simp⟩
      | answered | written time =>
          obtain ⟨earlier, later, rfl, alone⟩ := ih held
          refine ⟨earlier, later ++ [_], List.append_assoc _ _ _, ?_⟩
          intro other member
          simp [alone other] at member

theorem positive_of_ofFrame? (frame : Frame) (beat : Heartbeat)
    (means : ofFrame? frame = some (.opened beat)) :
    beat.interval.isZero = false ∧ beat.timeout.isZero = false := by
  rw [ofFrame?] at means
  split at means
  · rename_i data read
    split at means
    · cases means
    · rename_i positive
      cases means
      exact Bool.or_eq_false_iff.mp (Bool.eq_false_iff.mpr positive)
  · cases means
  · cases means

end Beat

namespace System

theorem positive_of_beat? (system : System) (move : Move) (beat : Heartbeat)
    (means : system.beat? move = some (.opened beat)) :
    beat.interval.isZero = false ∧ beat.timeout.isZero = false := by
  simp only [beat?] at means
  split at means
  · rename_i stimulus taken
    cases stimulus with
    | frame frame => exact Beat.positive_of_ofFrame? frame beat means
    | failure | ended | command | abandoned | tick | deadline => cases means
  · split at means <;> cases means
  · cases means

theorem positive_of_mem_beats (system : System) (moves : List Move) (beat : Heartbeat)
    (opened : .opened beat ∈ system.beats moves) :
    beat.interval.isZero = false ∧ beat.timeout.isZero = false := by
  induction moves generalizing system with
  | nil => cases opened
  | cons move later ih =>
      rcases List.mem_append.mp opened with now | after
      · exact positive_of_beat? system move beat (Option.mem_toList.mp now)
      · exact ih (system.step move) after

/-- What the lifecycle of a running loop says.  It is at the beginning while nothing was received,
and then there is no heartbeat, no timer and no output; it is at the handshake while readiness is
pending, and beyond exactly once the connection is ready.  Pings are due exactly under a heartbeat,
which is the last one that was opened, and positive.  In the course of a run the lifecycle only
moves forward, and nothing comes after its end. -/
theorem lifecycle_agreement (options : ConnectOptions) (moves : List Move) :
    (((start options).run moves).loop.isStopped = false →
      (((start options).run moves).loop.lifecycle = .connecting ↔
          Without Receives (start options) moves) ∧
        (((start options).run moves).loop.lifecycle = .connecting →
          ((start options).run moves).loop.readiness.isPending = true ∧
            ((start options).run moves).loop.heartbeat = none ∧
            (∀ kind, (((start options).run moves).loop.slot kind).isArmed = false) ∧
            ((start options).run moves).loop.output.events = []) ∧
        (((start options).run moves).loop.lifecycle = .handshaking ↔
          ¬ Without Receives (start options) moves ∧
            ((start options).run moves).loop.readiness.isPending = true) ∧
        ((((start options).run moves).loop.lifecycle = .ready ∨
            ((start options).run moves).loop.lifecycle = .active) ↔
          ((start options).run moves).loop.readiness.isReady = true) ∧
        (∀ error, ((start options).run moves).loop.readiness.outcome ≠ some (.error error)) ∧
        (((start options).run moves).loop.pingTimer.isArmed = true ↔
          ∃ beat, ((start options).run moves).loop.heartbeat = some beat) ∧
        ∀ beat, ((start options).run moves).loop.heartbeat = some beat →
          beat.interval.isZero = false ∧ beat.timeout.isZero = false ∧
            ∃ earlier later, (start options).beats moves = earlier ++ .opened beat :: later ∧
              ∀ other, Beat.opened other ∉ later) ∧
      ((start options).lifecycles moves).Pairwise Lifecycle.Precedes := by
  refine ⟨fun running => ?_, lifecycles_pairwise (start options) moves
    (fun _ => placed_start options) (Loop.coherent_start options)⟩
  have placed := placed_run options moves running
  have live := (Loop.coherent_run options moves).running running
  have timed := timed_run options moves running
  refine ⟨?_, ?_, ?_, Loop.ready_iff _ placed live, live.unfailed, ?_, ?_⟩
  · rw [without_receives_iff]
    exact Loop.connecting_iff _ placed
  · intro connecting
    have untouched := placed.untouched ((Loop.connecting_iff _ placed).mp connecting)
    exact ⟨untouched.pending, untouched.heartbeat, untouched.disarmed, untouched.silent⟩
  · rw [without_receives_iff, Bool.not_eq_false]
    exact Loop.handshaking_iff _ placed
  · rw [placed.beating]
    exact Option.isSome_iff_exists
  · intro beat held
    obtain ⟨earlier, later, split, alone⟩ :=
      Beat.opened_of_inForce _ beat (timed.inForce.symm.trans held)
    obtain ⟨interval, timeout⟩ := positive_of_mem_beats (start options) moves beat (by simp [split])
    exact ⟨interval, timeout, earlier, later, split, alone⟩

/-- A session that is opened and has not joined yet. -/
theorem lifecycle_agreement_of_opened :
    ((start .default).run (firstPing.take 1)).loop.lifecycle = .handshaking ∧
      ¬ Without Receives (start .default) (firstPing.take 1) ∧
      ((start .default).run (firstPing.take 1)).loop.pingTimer.isArmed = true := by
  obtain ⟨running, shaking, beating⟩ :
      ((start .default).run (firstPing.take 1)).loop.isStopped = false ∧
        ((start .default).run (firstPing.take 1)).loop.lifecycle = .handshaking ∧
        ((start .default).run (firstPing.take 1)).loop.heartbeat =
          some ⟨.ofMillis 25000, .ofMillis 20000⟩ := by
    decide +kernel
  obtain ⟨_, _, handshaking, _, _, pinging, _⟩ :=
    (lifecycle_agreement .default (firstPing.take 1)).1 running
  exact ⟨shaking, (handshaking.mp shaking).1, pinging.mpr ⟨_, beating⟩⟩

end System

end ChatSocket.Connection
