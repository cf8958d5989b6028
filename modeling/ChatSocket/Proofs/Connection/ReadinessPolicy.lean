import ChatSocket.Proofs.Connection.Teardown

/-!
# When a connection counts as ready

Three things can make a connection ready: the word of the endpoint, the joining of the
namespace, and the timer that the joining has started.  `Decides` lists them for one move;
`Waiting` ties the timer to the last move that joined the namespace, so that a run tells
which of them was in order under its policy.
-/

set_option autoImplicit false

namespace ChatSocket.Connection

namespace System

/-- The loop takes a frame that joins the namespace. -/
def Joins (system : System) (move : Move) : Prop :=
  ∃ frame ns data, system.stimulus? move = some (.frame frame) ∧
    frame.socketPacket? = some (.connect ns data)

/-- The loop looks at an event that says the endpoint is ready. -/
inductive Signals (system : System) : Move → Prop
  | event (move : Move) (frame : Frame) (ns : String) (ackId : Option UInt64) (name : String)
      (args : List Json) (taken : system.stimulus? move = some (.frame frame))
      (read : frame.socketPacket? = some (.event ns ackId name args))
      (unasked : ackId = none ∨ system.loop.options.acknowledge = false)
      (meant : Event.decode (.event ns ackId name args) = .endpointReady) : Signals system move
  | acknowledged (packet : Socket.Packet)
      (concluding : system.loop.Concluding (.acknowledge packet))
      (meant : Event.decode packet = .endpointReady) : Signals system (.answer (.ok ()))

/-- What makes a connection ready that is not yet. -/
inductive Decides (system : System) (move : Move) : ReadyReason → Prop
  | signal (signals : Signals system move) : Decides system move .signal
  | joined (joins : Joins system move) (policy : system.loop.options.readiness = .immediate) :
      Decides system move .assumedAtOnce
  | elapsed (generation : Nat)
      (taken : system.stimulus? move = some (.tick ⟨.readiness, generation⟩))
      (live : system.loop.readinessTimer.isLive generation = true) :
      Decides system move .assumedAfterTimeout

/-- What becomes of readiness and its timer. -/
inductive Waited (system : System) (move : Move) (after : Loop) : Prop
  | stopped (stopped : after.isStopped = true)
  | joined (joins : Joins system move) (joined : Loop.Joined system.now system.loop.seen after)
  | kept (unjoined : ¬ Joins system move) (readiness : after.readiness = system.loop.readiness)
      (timer : after.readinessTimer = system.loop.readinessTimer)
  | resolved (reason : ReadyReason) (decides : Decides system move reason)
      (readiness : after.readiness = ⟨some (.ok reason)⟩)
      (unarmed : after.readinessTimer.current = none)
      (grown : system.loop.readinessTimer.generation ≤ after.readinessTimer.generation)
  | disarmed (readiness : after.readiness = system.loop.readiness)
      (unarmed : after.readinessTimer.current = none)
      (grown : system.loop.readinessTimer.generation ≤ after.readinessTimer.generation)

end System

namespace Loop

theorem readinessTimer_seen (loop : Loop) : loop.seen.readinessTimer = loop.readinessTimer := by
  rw [seen]
  split <;> rfl

theorem current_cancel (slot : Slot) : slot.cancel.current = none := by
  have unarmed := Slot.isArmed_cancel slot
  simpa [Slot.isArmed] using unarmed

end Loop

namespace System

theorem waited_of_reported (system : System) (move : Move) (error : ProtocolError)
    (between after : Loop) (unjoined : ¬ Joins system move)
    (readiness : between.readiness = system.loop.readiness)
    (timer : between.readinessTimer = system.loop.readinessTimer)
    (reported : Loop.Reported error between after) : Waited system move after := by
  cases reported with
  | fatal pending => exact .stopped (Loop.isStopped_fail _ _ _)
  | passed decided => exact .kept unjoined readiness timer

theorem waited_of_noted (system : System) (move : Move) (event : Event) (between after : Loop)
    (unjoined : ¬ Joins system move) (readiness : between.readiness = system.loop.readiness)
    (timer : between.readinessTimer = system.loop.readinessTimer)
    (signals : event = .endpointReady → Signals system move)
    (noted : Loop.Noted between event after) : Waited system move after := by
  have grown :
      system.loop.readinessTimer.generation ≤ between.readinessTimer.cancel.generation := by
    rw [← timer]
    exact (Slot.generation_cancel _).1
  cases noted with
  | signal pending =>
      exact .resolved .signal (.signal (signals rfl)) rfl (Loop.current_cancel _) grown
  | signalAgain decided => exact .disarmed readiness (Loop.current_cancel _) grown
  | problem error after reported =>
      exact waited_of_reported system move error between after unjoined readiness timer reported
  | input | output => exact .kept unjoined readiness timer

theorem waited_of_heard (system : System) (move : Move) (frame : Frame) (after : Loop)
    (unjoined : ¬ Joins system move) (taken : system.stimulus? move = some (.frame frame))
    (heard : Loop.Heard system.now system.loop.seen frame after) : Waited system move after := by
  have readiness := system.loop.readiness_seen
  have timer := system.loop.readinessTimer_seen
  cases heard with
  | joined ns data after read joined => exact absurd ⟨frame, ns, data, taken, read⟩ unjoined
  | silent | opened | asked | answered | acknowledged => exact .kept unjoined readiness timer
  | refused => exact .stopped (Loop.isStopped_fail _ _ _)
  | noted ns ackId name args after read unasked noted =>
      rw [Loop.options_seen] at unasked
      refine waited_of_noted system move _ _ after unjoined readiness timer ?_ noted
      exact .event move frame ns ackId name args taken read unasked
  | reported error after malformed noEvent reported =>
      exact waited_of_reported system move error _ after unjoined readiness timer reported

theorem waited_of_ticked (system : System) (move : Move) (tick : Tick) (after : Loop)
    (unjoined : ¬ Joins system move) (taken : system.stimulus? move = some (.tick tick))
    (ticked : Loop.Ticked system.now system.loop tick after) : Waited system move after := by
  cases ticked with
  | stale | ping | pingAlone => exact .kept unjoined rfl rfl
  | pong => exact .stopped (Loop.isStopped_fail _ _ _)
  | assumed generation live pending =>
      exact .resolved _ (.elapsed generation taken live) rfl rfl (Nat.le_refl _)
  | assumedAgain generation live decided => exact .disarmed rfl rfl (Nat.le_refl _)

theorem waited_of_resumed (system : System) (result : Except Error Unit) (after : Loop)
    (unjoined : ¬ Joins system (.answer result))
    (resumed : Loop.Resumed system.now system.loop result after) :
    Waited system (.answer result) after := by
  cases resumed with
  | sent | answeredPing | pinged | pingedAgain | served | unmoved =>
      exact .kept unjoined rfl rfl
  | acknowledged packet after concluding noted =>
      refine waited_of_noted system _ _ { system.loop with phase := .idle } after unjoined rfl rfl
        ?_ noted
      exact .acknowledged packet concluding
  | requestFailed | failed => exact .stopped (Loop.isStopped_fail _ _ _)
  | closed => exact .stopped rfl

theorem waited_of_unjoined (system : System) (move : Move) (after : Loop)
    (unjoined : ¬ Joins system move) (stepped : Stepped system move after)
    (unfired : ∀ kind, move ≠ .fire kind) : Waited system move after := by
  cases stepped with
  | took move stimulus after taken reacted =>
      cases reacted with
      | frame frame after notClose heard =>
          exact waited_of_heard system move frame after unjoined taken heard
      | tick tick after ticked =>
          exact waited_of_ticked system move tick after unjoined taken ticked
      | send | deadlinePassed => exact .kept unjoined rfl rfl
      | earlyEnd | pendingEnd | orderlyEnd | failure | close | cancel | abandoned | deadline =>
          exact .stopped (Loop.isStopped_stop _ _)
  | fired kind => exact absurd rfl (unfired kind)
  | answered result after resumed => exact waited_of_resumed system result after unjoined resumed
  | expired => exact .stopped (Loop.isStopped_fail _ _ _)
  | still => exact .kept unjoined rfl rfl

theorem joined_of_joins (system : System) (move : Move) (joins : Joins system move) :
    Loop.Joined system.now system.loop.seen (system.step move).loop := by
  obtain ⟨frame, ns, data, taken, read⟩ := joins
  rw [step_of_taken system move _ taken, Loop.react_of_socketPacket _ frame _ _ read]
  exact Loop.startReadiness_joined _ _

theorem waited_step (system : System) (move : Move) (unfired : ∀ kind, move ≠ .fire kind) :
    Waited system move (system.step move).loop := by
  by_cases joins : Joins system move
  · exact .joined joins (joined_of_joins system move joins)
  · exact waited_of_unjoined system move _ joins (step_stepped system move) unfired

/-! ## What ends the wait -/

theorem not_pending_of_joined (now : Instant) (loop after : Loop)
    (policy : loop.options.readiness = .immediate) (joined : Loop.Joined now loop after) :
    after.readiness.isPending = false := by
  cases joined with
  | again decided => exact decided
  | waiting pending other => cases policy.symm.trans other
  | assumed => rfl
  | delayed span pending other => cases policy.symm.trans other

theorem not_pending_of_joins (system : System) (move : Move) (joins : Joins system move)
    (policy : system.loop.options.readiness = .immediate) :
    (system.step move).loop.readiness.isPending = false := by
  have same := congrArg ConnectOptions.readiness system.loop.options_seen
  exact not_pending_of_joined _ _ _ (same.trans policy) (joined_of_joins system move joins)

theorem not_pending_of_signal (loop after : Loop) (noted : Loop.Noted loop .endpointReady after) :
    after.readiness.isPending = false := by
  cases noted with
  | signal => rfl
  | signalAgain decided => exact decided
  | output event isOutput => cases isOutput

theorem not_pending_of_signals (system : System) (move : Move) (signals : Signals system move) :
    (system.step move).loop.readiness.isPending = false := by
  cases signals with
  | event move frame ns ackId name args taken read unasked meant =>
      rw [step_of_taken system move _ taken, Loop.react_of_socketPacket _ frame _ _ read]
      have unanswered :
          Loop.acknowledgement? system.loop.seen.options (.event ns ackId name args) = none := by
        rw [Loop.options_seen]
        rcases unasked with rfl | unwanted
        · rfl
        · cases ackId <;> simp [Loop.acknowledgement?, unwanted]
      simp only [Loop.onSocketPacket, Loop.onEventPacket, unanswered, meant]
      exact not_pending_of_signal _ _ (Loop.onEvent_noted _ _)
  | acknowledged packet concluding meant =>
      have written := Loop.resume_of_concluding system.now _ system.loop concluding
      rw [step, written]
      simp only [Loop.onWritten, meant]
      exact not_pending_of_signal _ _ (Loop.onEvent_noted _ _)

/-- Stopping decides readiness as well, but against it. -/
theorem not_ready_of_stop (system : System) (move : Move) (reason : ReadyReason)
    (coherent : system.loop.Coherent) (pending : system.loop.readiness.isPending = true)
    (stopped : (system.step move).loop.isStopped = true) :
    (system.step move).loop.readiness.outcome ≠ some (.ok reason) := by
  have undecided : system.loop.readiness.outcome = none := Option.isNone_iff_eq_none.mp pending
  have stepped := step_stepped system move
  cases before : system.loop.isStopped with
  | true =>
      have keeps := keeps_stepped system move _ coherent before stepped
      rw [keeps.readiness, undecided]
      simp
  | false =>
      obtain ⟨cause, farewell, ends⟩ := ends_of_stepped system move _ (coherent.running before)
        before stepped stopped
      obtain ⟨_, _, _, readiness⟩ :=
        left_for_good system move cause farewell [] coherent before ends
      simp only [run, List.foldl_nil] at readiness
      rw [readiness, Loop.complete_pending _ _ pending]
      simp

theorem decides_of_joined (system : System) (move : Move) (reason : ReadyReason) (after : Loop)
    (joins : Joins system move) (undecided : system.loop.readiness.outcome = none)
    (joined : Loop.Joined system.now system.loop.seen after)
    (ready : after.readiness.outcome = some (.ok reason)) : Decides system move reason := by
  have pendingStill : system.loop.seen.readiness.outcome = none := by
    rw [Loop.readiness_seen]
    exact undecided
  cases joined with
  | again | waiting | delayed => cases pendingStill.symm.trans ready
  | assumed pending policy =>
      cases ready
      rw [Loop.options_seen] at policy
      exact .joined joins policy

/-- A connection that becomes ready has a reason to. -/
theorem decides_of_step (system : System) (move : Move) (reason : ReadyReason)
    (coherent : system.loop.Coherent) (pending : system.loop.readiness.isPending = true)
    (ready : (system.step move).loop.readiness.outcome = some (.ok reason)) :
    Decides system move reason := by
  have undecided : system.loop.readiness.outcome = none := Option.isNone_iff_eq_none.mp pending
  by_cases fires : ∃ kind, move = .fire kind
  · obtain ⟨kind, rfl⟩ := fires
    rw [step_fire_loop, Loop.readiness_setSlot, undecided] at ready
    cases ready
  · cases waited_step system move (not_exists.mp fires) with
    | stopped stopped =>
        exact absurd ready (not_ready_of_stop system move reason coherent pending stopped)
    | joined joins joined =>
        exact decides_of_joined system move reason _ joins undecided joined ready
    | kept unjoined readiness timer =>
        rw [readiness, undecided] at ready
        cases ready
    | resolved other decides readiness =>
        rw [readiness] at ready
        cases ready
        exact decides
    | disarmed readiness =>
        rw [readiness, undecided] at ready
        cases ready

/-! ## What has not happened -/

theorem decided_of_not_pending (loop : Loop) (decided : ¬ loop.readiness.isPending = true) :
    ∃ outcome, loop.readiness.outcome = some outcome := by
  cases held : loop.readiness.outcome with
  | none => simp [Readiness.isPending, held] at decided
  | some outcome => exact ⟨outcome, rfl⟩

theorem pending_of_run (system : System) (moves : List Move)
    (pending : (system.run moves).loop.readiness.isPending = true) :
    system.loop.readiness.isPending = true := by
  by_contra decided
  obtain ⟨outcome, decided⟩ := decided_of_not_pending _ decided
  exact Loop.not_pending_of_decided outcome _ (decided_run outcome system moves decided) pending

/-- What ends the wait has not happened while it lasts. -/
theorem without_of_pending (happens : System → Move → Prop) (system : System) (moves : List Move)
    (ends : ∀ part move, happens (system.run part) move →
      ((system.run part).step move).loop.readiness.isPending = false)
    (pending : (system.run moves).loop.readiness.isPending = true) :
    Without happens system moves := by
  rintro part move rest rfl happened
  rw [run_append_cons] at pending
  have pendingThen := pending_of_run _ rest pending
  rw [ends part move happened] at pendingThen
  cases pendingThen

/-- A connection that is ready became so at one move. -/
theorem decided_at (options : ConnectOptions) (moves : List Move) (reason : ReadyReason)
    (ready : ((start options).run moves).loop.readiness.outcome = some (.ok reason)) :
    ∃ before deciding later, moves = before ++ deciding :: later ∧
      ((start options).run before).loop.readiness.isPending = true ∧
      Decides ((start options).run before) deciding reason ∧
      ∀ part, part <+: later →
        ((start options).run (before ++ deciding :: part)).loop.readiness.outcome =
          some (.ok reason) := by
  obtain ⟨before, deciding, later, rfl, notBefore, since⟩ :=
    run_since (fun system => system.loop.readiness.outcome = some (.ok reason)) (start options)
      moves (by simp [start, Loop.start, Readiness.pending]) ready
  -- Whatever had been decided before would have stayed.
  have pending : ((start options).run before).loop.readiness.isPending = true := by
    by_contra decided
    obtain ⟨outcome, decided⟩ := decided_of_not_pending _ decided
    have still := decided_run outcome _ (deciding :: later) decided
    rw [← run_append_run, ready] at still
    rw [still] at notBefore
    exact notBefore decided
  have atOnce := since [] List.nil_prefix
  rw [run_append] at atOnce
  have decides := decides_of_step _ deciding reason (Loop.coherent_run options before) pending
    atOnce
  exact ⟨before, deciding, later, rfl, pending, decides, since⟩

/-! ## The timer -/

end System

/-- Joining starts the timer or finds nothing that it could have started. -/
theorem Loop.timer_of_joined (now : Instant) (loop after : Loop) (joined : Joined now loop after) :
    (after.readinessTimer = loop.readinessTimer ∧
        (loop.readiness.isPending = false ∨ ∀ span, loop.options.readiness ≠ .after span)) ∨
      ∃ span, loop.options.readiness = .after span ∧ loop.readiness.isPending = true ∧
        after.readiness = loop.readiness ∧
        after.readinessTimer = loop.readinessTimer.once now span := by
  cases joined with
  | again decided => exact Or.inl ⟨rfl, Or.inl decided⟩
  | waiting pending policy | assumed pending policy =>
      exact Or.inl ⟨rfl, Or.inr (by simp [policy])⟩
  | delayed span pending policy => exact Or.inr ⟨span, policy, pending, rfl, rfl⟩

namespace System

theorem now_le_step (system : System) (move : Move) : system.now ≤ (system.step move).now := by
  by_cases timeless : ∀ span, move ≠ .elapse span
  · exact Nat.le_of_eq (now_step system move timeless).symm
  · obtain ⟨span, same⟩ := not_forall.mp timeless
    rw [not_not.mp same, step]
    split
    · exact Nat.le_add_right _ span
    · exact Nat.le_refl _

/-- A timer posts ticks of its own kind. -/
theorem mem_ticks_fire (system : System) (kind : TimerKind) (tick : Tick)
    (posted : tick ∈ (system.step (.fire kind)).ticks) :
    tick ∈ system.ticks ∨
      tick.kind = kind ∧
        ((system.loop.slot kind).fire system.now).1 = some tick.generation := by
  simp only [step, fire] at posted
  split at posted
  · rename_i generation slot fired
    rcases List.mem_append.mp posted with before | now
    · exact Or.inl before
    · cases List.mem_singleton.mp now
      refine Or.inr ⟨rfl, ?_⟩
      rw [fired]
  · exact Or.inl posted

/-- The timer was started by the move that joined the namespace last. -/
structure Started (options : ConnectOptions) (moves : List Move) (timer : Timer)
    (span : Duration) (first : List Move) (joining : Move) (between : List Move) : Prop where
  policy : options.readiness = .after span
  split : moves = first ++ joining :: between
  joins : Joins ((start options).run first) joining
  last : Without Joins ((start options).run (first ++ [joining])) between
  installs : ((start options).run (first ++ [joining])).loop.readinessTimer =
    ((start options).run first).loop.readinessTimer.once ((start options).run first).now span
  latest : timer.generation = ((start options).run first).loop.readinessTimer.generation + 1
  oneShot : timer.period = none
  waiting :
    (timer.due = some (span.after ((start options).run first).now) ∧
        ⟨.readiness, timer.generation⟩ ∉ ((start options).run moves).ticks) ∨
      (timer.due = none ∧
        span.after ((start options).run first).now ≤ ((start options).run moves).now)

/-- A readiness timer that runs was started by joining, and waits for nothing else. -/
structure Waiting (options : ConnectOptions) (moves : List Move) : Prop where
  given : ∀ generation, ⟨.readiness, generation⟩ ∈ ((start options).run moves).ticks →
    generation ≤ ((start options).run moves).loop.readinessTimer.generation
  latest : ∀ timer, ((start options).run moves).loop.readinessTimer.current = some timer →
    timer.generation = ((start options).run moves).loop.readinessTimer.generation
  held : ∀ timer, ((start options).run moves).loop.readinessTimer.current = some timer →
    ((start options).run moves).loop.readiness.isPending = true ∧
      ∃ span first joining between, Started options moves timer span first joining between

section Waiting

variable (options : ConnectOptions) (moves : List Move) (last : Move)

/-- Another move that does not join leaves the last one what it was. -/
theorem started_later (timer after : Timer) (span : Duration) (first : List Move) (joining : Move)
    (between : List Move) (started : Started options moves timer span first joining between)
    (unjoined : ¬ Joins ((start options).run moves) last)
    (generation : after.generation = timer.generation) (period : after.period = timer.period)
    (waiting :
      (after.due = some (span.after ((start options).run first).now) ∧
          ⟨.readiness, after.generation⟩ ∉ ((start options).run (moves ++ [last])).ticks) ∨
        (after.due = none ∧ span.after ((start options).run first).now ≤
          ((start options).run (moves ++ [last])).now)) :
    Started options (moves ++ [last]) after span first joining (between ++ [last]) where
  policy := started.policy
  split := by rw [started.split, List.append_assoc, List.cons_append]
  joins := started.joins
  last := by
    refine (without_concat_iff Joins _ between last).mpr ⟨started.last, ?_⟩
    rw [← run_append_run, List.append_assoc, List.singleton_append, ← started.split]
    exact unjoined
  installs := started.installs
  latest := generation.trans started.latest
  oneShot := period.trans started.oneShot
  waiting := waiting

theorem waiting_kept (waiting : Waiting options moves)
    (unjoined : ¬ Joins ((start options).run moves) last)
    (readiness : ((start options).run (moves ++ [last])).loop.readiness =
      ((start options).run moves).loop.readiness)
    (same : ((start options).run (moves ++ [last])).loop.readinessTimer =
      ((start options).run moves).loop.readinessTimer)
    (unposted : ∀ generation,
      ⟨.readiness, generation⟩ ∈ ((start options).run (moves ++ [last])).ticks →
        ⟨.readiness, generation⟩ ∈ ((start options).run moves).ticks) :
    Waiting options (moves ++ [last]) := by
  refine ⟨?_, ?_, ?_⟩
  · intro generation posted
    rw [same]
    exact waiting.given generation (unposted generation posted)
  · rw [same]
    exact waiting.latest
  · intro timer held
    rw [same] at held
    obtain ⟨pending, span, first, joining, between, started⟩ := waiting.held timer held
    rw [readiness]
    refine ⟨pending, span, first, joining, between ++ [last], ?_⟩
    refine started_later options moves last timer timer span first joining between started unjoined
      rfl rfl ?_
    rcases started.waiting with ⟨due, notPosted⟩ | ⟨spent, passed⟩
    · exact Or.inl ⟨due, fun posted => notPosted (unposted _ posted)⟩
    · refine Or.inr ⟨spent, Nat.le_trans passed ?_⟩
      rw [run_append]
      exact now_le_step _ last

theorem waiting_unarmed (waiting : Waiting options moves)
    (unarmed : ((start options).run (moves ++ [last])).loop.readinessTimer.current = none)
    (grown : ((start options).run moves).loop.readinessTimer.generation ≤
      ((start options).run (moves ++ [last])).loop.readinessTimer.generation)
    (unposted : ∀ generation,
      ⟨.readiness, generation⟩ ∈ ((start options).run (moves ++ [last])).ticks →
        ⟨.readiness, generation⟩ ∈ ((start options).run moves).ticks) :
    Waiting options (moves ++ [last]) := by
  refine ⟨?_, ?_, ?_⟩
  · intro generation posted
    exact Nat.le_trans (waiting.given generation (unposted generation posted)) grown
  · intro timer held
    cases unarmed.symm.trans held
  · intro timer held
    cases unarmed.symm.trans held

theorem unarmed_of_policy (waiting : Waiting options moves)
    (policy : ∀ span, options.readiness ≠ .after span) :
    ((start options).run moves).loop.readinessTimer.current = none := by
  refine Option.eq_none_iff_forall_ne_some.mpr fun timer held => ?_
  obtain ⟨_, span, first, joining, between, started⟩ := waiting.held timer held
  exact policy span started.policy

theorem unarmed_of_decided (waiting : Waiting options moves)
    (decided : ((start options).run moves).loop.readiness.isPending = false) :
    ((start options).run moves).loop.readinessTimer.current = none := by
  refine Option.eq_none_iff_forall_ne_some.mpr fun timer held => ?_
  cases (waiting.held timer held).1.symm.trans decided

theorem waiting_joined (waiting : Waiting options moves)
    (joins : Joins ((start options).run moves) last)
    (unposted : ∀ generation,
      ⟨.readiness, generation⟩ ∈ ((start options).run (moves ++ [last])).ticks →
        ⟨.readiness, generation⟩ ∈ ((start options).run moves).ticks) :
    Waiting options (moves ++ [last]) := by
  have joined := Loop.timer_of_joined _ _ _ (joined_of_joins _ last joins)
  rw [Loop.readiness_seen, Loop.readinessTimer_seen, Loop.options_seen, options_run,
    ← run_append] at joined
  rcases joined with ⟨same, nothing⟩ | ⟨span, policy, pending, readiness, installs⟩
  · refine waiting_unarmed options moves last waiting ?_ ?_ unposted
    · rw [same]
      rcases nothing with decided | otherPolicy
      · exact unarmed_of_decided options moves waiting decided
      · exact unarmed_of_policy options moves waiting otherPolicy
    · exact Nat.le_of_eq (congrArg Slot.generation same.symm)
  · refine ⟨?_, ?_, ?_⟩
    · intro generation posted
      rw [installs]
      exact Nat.le_succ_of_le (waiting.given generation (unposted generation posted))
    · intro timer held
      rw [installs] at held ⊢
      cases held
      rfl
    · intro timer held
      rw [installs] at held
      cases held
      rw [readiness]
      -- The new generation is above all that were given, so no tick in the mailbox has it.
      refine ⟨pending, span, moves, last, [], policy, rfl, joins, ?_, installs, rfl, rfl,
        Or.inl ⟨rfl, ?_⟩⟩
      · intro part move rest split
        cases part <;> cases split
      · intro posted
        exact Nat.not_succ_le_self _ (waiting.given _ (unposted _ posted))

theorem unjoined_of_untaken (untaken : ((start options).run moves).stimulus? last = none) :
    ¬ Joins ((start options).run moves) last := by
  rintro ⟨frame, ns, data, taken, _⟩
  cases untaken.symm.trans taken

/-- The tick is posted when the time is over, and the timer has no more to do. -/
theorem started_fired (timer : Timer) (due : Instant) (span : Duration) (first : List Move)
    (joining : Move) (between : List Move)
    (started : Started options moves timer span first joining between)
    (waits : timer.due = some due) (reached : due ≤ ((start options).run moves).now) :
    Started options (moves ++ [.fire .readiness]) ⟨timer.generation, none, none⟩ span first joining
      (between ++ [.fire .readiness]) := by
  have unjoined := unjoined_of_untaken options moves (.fire .readiness)
    (by simp [stimulus?, offer?])
  refine started_later options moves _ timer _ span first joining between started unjoined rfl
    started.oneShot.symm (Or.inr ⟨rfl, ?_⟩)
  rw [run_append, now_step _ _ (by simp)]
  rcases started.waiting with ⟨same, _⟩ | ⟨spent, _⟩
  · cases waits.symm.trans same
    exact reached
  · cases waits.symm.trans spent

theorem waiting_fired (waiting : Waiting options moves) :
    Waiting options (moves ++ [.fire .readiness]) := by
  have fired := step_fire_loop .readiness ((start options).run moves)
  have readiness : ((start options).run (moves ++ [.fire .readiness])).loop.readiness =
      ((start options).run moves).loop.readiness := by
    rw [run_append, fired, Loop.readiness_setSlot]
  have slot : ((start options).run (moves ++ [.fire .readiness])).loop.readinessTimer =
      (((start options).run moves).loop.readinessTimer.fire ((start options).run moves).now).2 := by
    rw [run_append, fired]
    rfl
  have before : ∀ generation,
      ⟨.readiness, generation⟩ ∈ ((start options).run (moves ++ [.fire .readiness])).ticks →
      ⟨.readiness, generation⟩ ∈ ((start options).run moves).ticks ∨
        (((start options).run moves).loop.readinessTimer.fire
          ((start options).run moves).now).1 = some generation := by
    intro generation posted
    rw [run_append] at posted
    rcases mem_ticks_fire _ .readiness _ posted with before | ⟨_, now⟩
    · exact Or.inl before
    · exact Or.inr now
  cases posts : (((start options).run moves).loop.readinessTimer.fire
      ((start options).run moves).now).1 with
  | none =>
      rw [Slot.fire_of_none _ _ posts] at slot
      refine waiting_kept options moves _ waiting
        (unjoined_of_untaken options moves _ (by simp [stimulus?, offer?])) readiness slot ?_
      intro generation posted
      rcases before generation posted with already | now
      · exact already
      · cases posts.symm.trans now
  | some posted =>
      obtain ⟨timer, due, held, waits, reached, rfl, after⟩ := Slot.fire_some _ posted _ posts
      obtain ⟨pending, span, first, joining, between, started⟩ := waiting.held timer held
      rw [after] at slot
      refine ⟨?_, ?_, ?_⟩
      · intro generation member
        rw [slot]
        rcases before generation member with already | now
        · exact waiting.given generation already
        · cases Option.some.inj (posts.symm.trans now)
          exact Nat.le_of_eq (waiting.latest timer held)
      · intro other heldAfter
        rw [slot] at heldAfter ⊢
        cases heldAfter
        exact waiting.latest timer held
      · intro other heldAfter
        rw [slot, started.oneShot] at heldAfter
        cases heldAfter
        rw [readiness]
        exact ⟨pending, span, first, joining, _,
          started_fired options moves timer due span first joining between started waits reached⟩

theorem waiting_start : Waiting options [] where
  given generation posted := by cases posted
  latest timer held := by cases held
  held timer held := by cases held

theorem waiting_of_waited (waiting : Waiting options moves)
    (running : ((start options).run (moves ++ [last])).loop.isStopped = false)
    (unfired : ∀ kind, last ≠ .fire kind) : Waiting options (moves ++ [last]) := by
  have unposted : ∀ generation,
      ⟨.readiness, generation⟩ ∈ ((start options).run (moves ++ [last])).ticks →
        ⟨.readiness, generation⟩ ∈ ((start options).run moves).ticks := by
    intro generation posted
    rw [run_append] at posted
    exact mem_ticks_of_step _ last _ unfired posted
  have waited := waited_step ((start options).run moves) last unfired
  rw [← run_append] at waited
  cases waited with
  | stopped stopped => cases running.symm.trans stopped
  | joined joins => exact waiting_joined options moves last waiting joins unposted
  | kept unjoined readiness same =>
      exact waiting_kept options moves last waiting unjoined readiness same unposted
  | resolved reason decides readiness unarmed grown | disarmed readiness unarmed grown =>
      exact waiting_unarmed options moves last waiting unarmed grown unposted

theorem waiting_firedOther (kind : TimerKind) (other : kind ≠ .readiness)
    (waiting : Waiting options moves) : Waiting options (moves ++ [.fire kind]) := by
  have fired := step_fire_loop kind ((start options).run moves)
  refine waiting_kept options moves _ waiting
    (unjoined_of_untaken options moves _ (by simp [stimulus?, offer?])) ?_ ?_ ?_
  · rw [run_append, fired, Loop.readiness_setSlot]
  · rw [run_append, fired]
    exact Loop.slot_setSlot_of_ne kind .readiness _ _ other.symm
  · intro generation posted
    rw [run_append] at posted
    rcases mem_ticks_fire _ kind _ posted with before | ⟨same, _⟩
    · exact before
    · exact absurd same.symm other

theorem waiting_step (waiting : Waiting options moves)
    (running : ((start options).run (moves ++ [last])).loop.isStopped = false) :
    Waiting options (moves ++ [last]) := by
  by_cases fires : ∃ kind, last = .fire kind
  · obtain ⟨kind, rfl⟩ := fires
    by_cases same : kind = .readiness
    · rw [same]
      exact waiting_fired options moves waiting
    · exact waiting_firedOther options moves kind same waiting
  · exact waiting_of_waited options moves last waiting running (not_exists.mp fires)

end Waiting

/-- While a loop runs, its readiness timer is that of the last move that joined the namespace. -/
theorem waiting_run (options : ConnectOptions) (moves : List Move)
    (running : ((start options).run moves).loop.isStopped = false) : Waiting options moves := by
  induction moves using List.reverseRecOn with
  | nil => exact waiting_start options
  | append_singleton moves last ih =>
      have before := running
      rw [run_append] at before
      have waiting := ih (running_of_step _ last (Loop.coherent_run options moves) before)
      exact waiting_step options moves last waiting running

/-! ## The connect deadline -/

/-- The error was handed to the loop from outside. -/
inductive Hands (system : System) (error : Error) : Move → Prop
  | received (move : Move) (taken : system.stimulus? move = some (.failure error)) :
      Hands system error move
  | written (errand : Errand) (writing : system.loop.phase.errand? = some errand) :
      Hands system error (.answer (.error error))
  | cancelled (move : Move) (taken : system.stimulus? move = some (.command (.cancel error))) :
      Hands system error move

theorem toError_ne_connectTimeout (error : ProtocolError) (millis : Nat) :
    error.toError ≠ .connectTimeout millis := by
  rw [ProtocolError.toError]
  split <;> simp

/-- The loop makes this error up itself only while it waits. -/
theorem hands_of_ends (system : System) (move : Move) (millis : Nat)
    (farewell : Option CloseReason) (decided : system.loop.readiness.isPending = false)
    (ends : Ends system move (some (.connectTimeout millis)) farewell) :
    Hands system (.connectTimeout millis) move := by
  generalize same : some (Error.connectTimeout millis) = cause at ends
  cases ends with
  | receiveFailed move error taken =>
      cases same
      exact .received move taken
  | writeFailed error errand writing =>
      cases same
      exact .written errand writing
  | cancelled move error taken =>
      cases same
      exact .cancelled move taken
  | connectTimeout move taken pending => cases pending.symm.trans decided
  | malformed move frame error | malformedEvent packet error =>
      exact absurd (Option.some.inj same).symm (toError_ne_connectTimeout error millis)
  | earlyEnd | pendingEnd | orderlyEnd | refused | pingLate | pongMissing | closed | abandoned =>
      cases same

theorem isStopped_of_ending? (loop : Loop) (cause : Option Error)
    (ending : loop.ending? = some cause) : loop.isStopped = true := by
  cases phase : loop.phase <;> simp [Loop.ending?, Loop.isStopped, phase] at ending ⊢

theorem hands_of_connectTimeout (options : ConnectOptions) (moves : List Move)
    (reason : ReadyReason) (millis : Nat)
    (ready : ((start options).run moves).loop.readiness.outcome = some (.ok reason))
    (ending : ((start options).run moves).loop.ending? = some (some (.connectTimeout millis))) :
    ∃ before handing later, moves = before ++ handing :: later ∧
      ((start options).run before).loop.isStopped = false ∧
      ((start options).run (before ++ [handing])).loop.isStopped = true ∧
      Hands ((start options).run before) (.connectTimeout millis) handing := by
  obtain ⟨before, handing, later, cause, farewell, rfl, running, stopped, ends, endingToo,
    readiness⟩ := stopped_at options moves (isStopped_of_ending? _ _ ending)
  cases Option.some.inj (ending.symm.trans endingToo)
  refine ⟨before, handing, later, rfl, running before (List.prefix_refl before),
    stopped [] List.nil_prefix, hands_of_ends _ handing millis farewell ?_ ends⟩
  rw [Bool.eq_false_iff]
  intro pending
  rw [readiness, Loop.complete_pending _ _ pending] at ready
  cases ready

/-! ## The policy -/

/-- What a policy lets make a connection ready, and when. -/
inductive Warranted (options : ConnectOptions) (before : List Move) (deciding : Move) :
    ReadyReason → Prop
  | signal (signals : Signals ((start options).run before) deciding) :
      Warranted options before deciding .signal
  | assumedAtOnce (policy : options.readiness = .immediate)
      (joins : Joins ((start options).run before) deciding)
      (first : Without Joins (start options) before) :
      Warranted options before deciding .assumedAtOnce
  | assumedAfterTimeout (span : Duration) (first : List Move) (joining : Move)
      (between : List Move) (policy : options.readiness = .after span)
      (split : before = first ++ joining :: between)
      (joins : Joins ((start options).run first) joining)
      (last : Without Joins ((start options).run (first ++ [joining])) between)
      (installs : ((start options).run (first ++ [joining])).loop.readinessTimer =
        ((start options).run first).loop.readinessTimer.once ((start options).run first).now span)
      (taken : ((start options).run before).stimulus? deciding =
        some (.tick ⟨.readiness,
          ((start options).run (first ++ [joining])).loop.readinessTimer.generation⟩))
      (passed : span.after ((start options).run first).now ≤ ((start options).run before).now)
      (unsignalled : Without Signals (start options) before) :
      Warranted options before deciding .assumedAfterTimeout

theorem without_joins (options : ConnectOptions) (moves : List Move)
    (policy : options.readiness = .immediate)
    (pending : ((start options).run moves).loop.readiness.isPending = true) :
    Without Joins (start options) moves := by
  refine without_of_pending Joins (start options) moves ?_ pending
  intro part move joins
  have policyThen := congrArg ConnectOptions.readiness (options_run options part)
  exact not_pending_of_joins _ move joins (policyThen.trans policy)

theorem warranted_of_elapsed (options : ConnectOptions) (before : List Move) (deciding : Move)
    (generation : Nat) (pending : ((start options).run before).loop.readiness.isPending = true)
    (taken : ((start options).run before).stimulus? deciding =
      some (.tick ⟨.readiness, generation⟩))
    (live : ((start options).run before).loop.readinessTimer.isLive generation = true) :
    Warranted options before deciding .assumedAfterTimeout := by
  have idle := ((stimulus?_eq_some_iff _ deciding _).mp taken).1
  have waiting := waiting_run options before (by simp [Loop.isStopped, idle])
  obtain ⟨timer, held, rfl⟩ := (Slot.isLive_iff generation _).mp live
  obtain ⟨_, span, first, joining, between, started⟩ := waiting.held timer held
  refine .assumedAfterTimeout span first joining between started.policy started.split
    started.joins started.last started.installs ?_ ?_ ?_
  · rw [started.installs, taken, started.latest]
    rfl
  · -- A timer that still waits has no tick that could be taken.
    rcases started.waiting with ⟨_, unposted⟩ | ⟨_, passed⟩
    · exact absurd (mem_ticks_of_taken _ deciding _ taken) unposted
    · exact passed
  · exact without_of_pending Signals (start options) before
      (fun part move => not_pending_of_signals _ move) pending

theorem warranted_of_decides (options : ConnectOptions) (before : List Move) (deciding : Move)
    (reason : ReadyReason)
    (pending : ((start options).run before).loop.readiness.isPending = true)
    (decides : Decides ((start options).run before) deciding reason) :
    Warranted options before deciding reason := by
  cases decides with
  | signal signals => exact .signal signals
  | joined joins policy =>
      rw [options_run] at policy
      exact .assumedAtOnce policy joins (without_joins options before policy pending)
  | elapsed generation taken live =>
      exact warranted_of_elapsed options before deciding generation pending taken live

/-- Readiness is decided once, and in favour of the connection only as its policy lets it: by the
word of the endpoint, by joining the namespace, or by the timer that the last joining has started.
Where joining is enough, nothing waits after it; where nothing is, only the word counts.  The timer
runs for a connection that waits under a policy with a span.  Once a connection is ready, a
connect timeout is the end of it only if somebody hands that very error in. -/
theorem readiness_by_policy (options : ConnectOptions) (moves : List Move) :
    (∀ outcome later, ((start options).run moves).loop.readiness.outcome = some outcome →
        ((start options).run (moves ++ later)).loop.readiness.outcome = some outcome) ∧
      (∀ reason, ((start options).run moves).loop.readiness.outcome = some (.ok reason) →
        ∃ before deciding later, moves = before ++ deciding :: later ∧
          ((start options).run before).loop.readiness.isPending = true ∧
          Warranted options before deciding reason ∧
          ∀ part, part <+: later →
            ((start options).run (before ++ deciding :: part)).loop.readiness.outcome =
              some (.ok reason)) ∧
      (options.readiness = .immediate →
        ((start options).run moves).loop.readiness.isPending = true →
        Without Joins (start options) moves) ∧
      (options.readiness = .never →
        ∀ reason, ((start options).run moves).loop.readiness.outcome = some (.ok reason) →
          reason = .signal) ∧
      (((start options).run moves).loop.isStopped = false →
        ((start options).run moves).loop.readinessTimer.isArmed = true →
        ((start options).run moves).loop.readiness.isPending = true ∧
          ∃ span, options.readiness = .after span) ∧
      ∀ reason millis,
        ((start options).run moves).loop.readiness.outcome = some (.ok reason) →
        ((start options).run moves).loop.ending? = some (some (.connectTimeout millis)) →
        ∃ before handing later, moves = before ++ handing :: later ∧
          ((start options).run before).loop.isStopped = false ∧
          ((start options).run (before ++ [handing])).loop.isStopped = true ∧
          Hands ((start options).run before) (.connectTimeout millis) handing := by
  refine ⟨?_, ?_, without_joins options moves, ?_, ?_, hands_of_connectTimeout options moves⟩
  · intro outcome later decided
    rw [run_append_run]
    exact decided_run outcome _ later decided
  · intro reason ready
    obtain ⟨before, deciding, later, split, pending, decides, since⟩ :=
      decided_at options moves reason ready
    exact ⟨before, deciding, later, split, pending,
      warranted_of_decides options before deciding reason pending decides, since⟩
  · intro never reason ready
    obtain ⟨before, deciding, later, split, pending, decides, since⟩ :=
      decided_at options moves reason ready
    cases warranted_of_decides options before deciding reason pending decides with
    | signal => rfl
    | assumedAtOnce policy => cases never.symm.trans policy
    | assumedAfterTimeout span first joining between policy => cases never.symm.trans policy
  · intro running armed
    obtain ⟨timer, held⟩ := Option.isSome_iff_exists.mp armed
    obtain ⟨pending, span, _, _, _, started⟩ := (waiting_run options moves running).held timer held
    exact ⟨pending, span, started.policy⟩

/-- The namespace is joined, and the time after it passes. -/
def waitedFor : List Move :=
  [.arrive (.frame (.text "40")), .elapse 500, .fire .readiness, .takeTick]

theorem readiness_by_policy_of_waitedFor :
    ∃ before deciding later, waitedFor = before ++ deciding :: later ∧
      Warranted ⟨.ofMillis 2000, .after (.ofMillis 500), false⟩ before deciding
        .assumedAfterTimeout := by
  obtain ⟨_, ready, _⟩ :=
    readiness_by_policy ⟨.ofMillis 2000, .after (.ofMillis 500), false⟩ waitedFor
  obtain ⟨before, deciding, later, split, _, warranted, _⟩ :=
    ready .assumedAfterTimeout (by decide +kernel)
  exact ⟨before, deciding, later, split, warranted⟩

/-- A connection that is ready, and whose handle cancels it with the error of another. -/
theorem connectTimeout_handed_in :
    ((start ⟨.ofMillis 2000, .immediate, false⟩).run
        [.arrive (.frame (.text "40")), .submit (.cancel (.connectTimeout 5)), .takeCommand,
          .answer (.ok ())]).loop.readiness.outcome = some (.ok .assumedAtOnce) ∧
      ((start ⟨.ofMillis 2000, .immediate, false⟩).run
        [.arrive (.frame (.text "40")), .submit (.cancel (.connectTimeout 5)), .takeCommand,
          .answer (.ok ())]).loop.isEnded = true ∧
      ((start ⟨.ofMillis 2000, .immediate, false⟩).run
        [.arrive (.frame (.text "40")), .submit (.cancel (.connectTimeout 5)), .takeCommand,
          .answer (.ok ())]).loop.output.closing = some (some (.connectTimeout 5)) := by
  decide +kernel

end System

end ChatSocket.Connection
