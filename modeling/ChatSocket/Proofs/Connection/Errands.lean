import ChatSocket.Proofs.Connection.Ending

/-!
# Errands

A loop writes for a reason: `Asks` lists the moves that set it an errand, and
`asked_of_errand` finds that move for every frame that is being written.  Until the
loop stops it asks the transport for nothing but sends and flushes.
-/

set_option autoImplicit false

namespace ChatSocket.Connection

namespace System

/-- What sets the loop an errand. -/
inductive Asks (system : System) : Move → Errand → Prop
  | answerPing (move : Move) (frame : Frame) (taken : system.stimulus? move = some (.frame frame))
      (read : Engine.Packet.decode? frame = some .ping) : Asks system move .answerPing
  | acknowledge (move : Move) (frame : Frame) (ns : String) (ackId : UInt64) (name : String)
      (args : List Json) (taken : system.stimulus? move = some (.frame frame))
      (read : frame.socketPacket? = some (.event ns (some ackId) name args))
      (wanted : system.loop.options.acknowledge = true) :
      Asks system move (.acknowledge (.event ns (some ackId) name args))
  | heartbeat (move : Move) (generation : Nat) (beat : Heartbeat)
      (taken : system.stimulus? move = some (.tick ⟨.ping, generation⟩))
      (live : system.loop.pingTimer.isLive generation = true)
      (inForce : system.loop.heartbeat = some beat) :
      Asks system move (.heartbeat beat (beat.timeout.after system.now))
  | request (move : Move) (frame : Frame) (flush : Bool) (ticket : Ticket)
      (taken : system.stimulus? move = some (.command (.send frame flush ticket))) :
      Asks system move (.request ticket)

/-- What becomes of the phase and the calls. -/
inductive Course (system : System) (move : Move) (after : Loop) : Prop
  | stopped (stopped : after.isStopped = true)
  | kept (phase : after.phase = system.loop.phase) (calls : after.calls = system.loop.calls)
  | idle (phase : after.phase = .idle) (calls : after.calls = system.loop.calls)
  | sending (frame : Frame) (flush : Bool) (errand : Errand) (asks : Asks system move errand)
      (unflushed : ∀ packet, errand = .acknowledge packet → flush = false)
      (phase : after.phase = .sending frame flush errand)
      (calls : after.calls = system.loop.calls ++ [.send frame])
  | flushing (frame : Frame) (errand : Errand)
      (before : system.loop.phase = .sending frame true errand)
      (phase : after.phase = .flushing errand) (calls : after.calls = system.loop.calls ++ [.flush])

end System

namespace Loop

/-- Acknowledgements are sent without a flush. -/
def Unflushed (loop : Loop) : Prop :=
  ∀ packet, loop.phase ≠ .flushing (.acknowledge packet) ∧
    ∀ frame, loop.phase ≠ .sending frame true (.acknowledge packet)

/-- What most steps of a running loop leave alone. -/
structure Kept (before after : Loop) : Prop where
  options : after.options = before.options
  phase : after.phase = before.phase
  calls : after.calls = before.calls
  receivedAny : after.receivedAny = before.receivedAny
  heartbeat : after.heartbeat = before.heartbeat
  pingTimer : after.pingTimer = before.pingTimer
  pongTimer : after.pongTimer = before.pongTimer

/-- Malformed input is all that may stop a loop which keeps everything else. -/
def FailedOrKept (before after : Loop) : Prop :=
  (∃ cause farewell, after = before.fail cause farewell) ∨ Kept before after

theorem kept_of_reported (error : ProtocolError) (loop after : Loop)
    (reported : Reported error loop after) : FailedOrKept loop after := by
  cases reported with
  | fatal pending => exact Or.inl ⟨_, _, rfl⟩
  | passed decided => exact Or.inr ⟨rfl, rfl, rfl, rfl, rfl, rfl, rfl⟩

theorem kept_of_noted (event : Event) (loop after : Loop) (noted : Noted loop event after) :
    FailedOrKept loop after := by
  cases noted with
  | problem error after reported => exact kept_of_reported error loop after reported
  | signal | signalAgain | input | output => exact Or.inr ⟨rfl, rfl, rfl, rfl, rfl, rfl, rfl⟩

theorem kept_of_joined (now : Instant) (loop after : Loop) (joined : Joined now loop after) :
    Kept loop after := by
  cases joined with
  | again | waiting | assumed | delayed => exact ⟨rfl, rfl, rfl, rfl, rfl, rfl, rfl⟩

end Loop

namespace System

theorem course_of_frame (system : System) (move : Move) (frame : Frame) (after : Loop)
    (taken : system.stimulus? move = some (.frame frame))
    (heard : Loop.Heard system.now system.loop.seen frame after) : Course system move after := by
  have samePhase := system.loop.phase_seen
  have sameCalls := system.loop.calls_seen
  cases heard with
  | silent | opened | answered => exact .kept samePhase sameCalls
  | asked read =>
      refine .sending _ true .answerPing (.answerPing move frame taken read) (by simp) rfl ?_
      rw [← sameCalls]
      rfl
  | joined ns data after read joined =>
      have kept := Loop.kept_of_joined _ _ after joined
      exact .kept (kept.phase.trans samePhase) (kept.calls.trans sameCalls)
  | refused => exact .stopped (Loop.isStopped_fail _ _ _)
  | acknowledged ns ackId name args answer read wanted written =>
      rw [Loop.options_seen] at wanted
      refine .sending answer false _ (.acknowledge move frame ns ackId name args taken read wanted)
        (by simp) rfl ?_
      rw [← sameCalls]
      rfl
  | noted ns ackId name args after read unasked noted =>
      rcases Loop.kept_of_noted _ _ after noted with ⟨cause, farewell, rfl⟩ | kept
      · exact .stopped (Loop.isStopped_fail _ _ _)
      · exact .kept (kept.phase.trans samePhase) (kept.calls.trans sameCalls)
  | reported error after malformed noEvent reported =>
      rcases Loop.kept_of_reported error _ after reported with ⟨cause, farewell, rfl⟩ | kept
      · exact .stopped (Loop.isStopped_fail _ _ _)
      · exact .kept (kept.phase.trans samePhase) (kept.calls.trans sameCalls)

theorem course_of_tick (system : System) (move : Move) (tick : Tick) (after : Loop)
    (taken : system.stimulus? move = some (.tick tick))
    (ticked : Loop.Ticked system.now system.loop tick after) : Course system move after := by
  cases ticked with
  | stale | pingAlone | assumed | assumedAgain => exact .kept rfl rfl
  | ping generation beat live inForce =>
      exact .sending _ true _ (.heartbeat move generation beat taken live inForce) (by simp) rfl rfl
  | pong => exact .stopped (Loop.isStopped_fail _ _ _)

theorem course_of_stimulus (system : System) (move : Move) (stimulus : Stimulus) (after : Loop)
    (taken : system.stimulus? move = some stimulus)
    (reacted : Loop.Reacted system.now system.loop stimulus after) : Course system move after := by
  cases reacted with
  | frame frame after notClose heard => exact course_of_frame system move frame after taken heard
  | send frame flush ticket =>
      exact .sending frame flush _ (.request move frame flush ticket taken) (by simp) rfl rfl
  | tick tick after ticked => exact course_of_tick system move tick after taken ticked
  | deadlinePassed => exact .kept rfl rfl
  | orderlyEnd | close | abandoned => exact .stopped (Loop.isStopped_stop _ _)
  | earlyEnd | pendingEnd | failure | cancel | deadline =>
      exact .stopped (Loop.isStopped_fail _ _ _)

theorem course_of_answer (system : System) (result : Except Error Unit) (after : Loop)
    (resumed : Loop.Resumed system.now system.loop result after) :
    Course system (.answer result) after := by
  cases resumed with
  | sent frame errand sending => exact .flushing frame errand sending rfl rfl
  | answeredPing | pinged | pingedAgain | served => exact .idle rfl rfl
  | acknowledged packet after concluding noted =>
      rcases Loop.kept_of_noted _ _ after noted with ⟨cause, farewell, rfl⟩ | kept
      · exact .stopped (Loop.isStopped_fail _ _ _)
      · exact .idle kept.phase kept.calls
  | requestFailed | failed => exact .stopped (Loop.isStopped_fail _ _ _)
  | closed => exact .stopped rfl
  | unmoved => exact .kept rfl rfl

theorem course_of_stepped (system : System) (move : Move) (after : Loop)
    (stepped : Stepped system move after) : Course system move after := by
  cases stepped with
  | took move stimulus after taken reacted =>
      exact course_of_stimulus system move stimulus after taken reacted
  | fired kind => exact .kept (Loop.phase_setSlot _ _ _) (Loop.calls_setSlot _ _ _)
  | answered result after resumed => exact course_of_answer system result after resumed
  | expired => exact .stopped (Loop.isStopped_fail _ _ _)
  | still => exact .kept rfl rfl

theorem asked_of_course (system : System) (move : Move) (after : Loop) (errand : Errand)
    (course : Course system move after) (writing : after.phase.errand? = some errand) :
    Asks system move errand ∨ system.loop.phase.errand? = some errand := by
  cases course with
  | stopped stopped =>
      rw [Loop.isStopped_of_errand after errand writing] at stopped
      cases stopped
  | kept phase calls =>
      rw [phase] at writing
      exact Or.inr writing
  | idle phase calls =>
      rw [phase] at writing
      cases writing
  | sending frame flush other asks unflushed phase calls =>
      rw [phase] at writing
      cases writing
      exact Or.inl asks
  | flushing frame other before phase calls =>
      rw [phase] at writing
      cases writing
      refine Or.inr ?_
      rw [before]
      rfl

theorem unflushed_of_course (system : System) (move : Move) (after : Loop)
    (course : Course system move after) (before : system.loop.Unflushed) : after.Unflushed := by
  intro packet
  cases course with
  | stopped stopped =>
      constructor
      · intro flushing
        simp [Loop.isStopped, flushing] at stopped
      · intro frame sending
        simp [Loop.isStopped, sending] at stopped
  | kept phase calls =>
      rw [phase]
      exact before packet
  | idle phase calls => simp [phase]
  | sending frame flush errand asks unflushed phase calls =>
      rw [phase]
      refine ⟨by simp, ?_⟩
      intro other same
      cases same
      cases unflushed packet rfl
  | flushing frame errand sending phase calls =>
      rw [phase]
      refine ⟨?_, by simp⟩
      rintro same
      cases same
      exact (before packet).2 frame sending

/-- No acknowledgement is flushed, so one answer of the transport concludes it. -/
theorem unflushed_run (options : ConnectOptions) (moves : List Move) :
    ((start options).run moves).loop.Unflushed := by
  refine run_invariant (fun system => system.loop.Unflushed) (start options) moves ?_ ?_
  · intro packet
    simp [start, Loop.start]
  · intro system move before
    have course := course_of_stepped _ move _ (step_stepped system move)
    exact unflushed_of_course system move _ course before

/-- Every errand was set by a move, and has been under way since. -/
theorem asked_of_errand (options : ConnectOptions) (moves : List Move) (errand : Errand)
    (writing : ((start options).run moves).loop.phase.errand? = some errand) :
    ∃ before move during, moves = before ++ move :: during ∧
      Asks ((start options).run before) move errand ∧
      ∀ part, part <+: during →
        ((start options).run (before ++ move :: part)).loop.phase.errand? = some errand := by
  obtain ⟨before, move, during, rfl, notBefore, since⟩ :=
    run_since (fun system => system.loop.phase.errand? = some errand) (start options) moves
      (by simp [start, Loop.start, Phase.errand?]) writing
  refine ⟨before, move, during, rfl, ?_, since⟩
  -- Right after the move the errand is under way, and it was not before.
  have atOnce := since [] List.nil_prefix
  rw [run_append] at atOnce
  have course := course_of_stepped _ move _ (step_stepped ((start options).run before) move)
  rcases asked_of_course _ move _ errand course atOnce with asks | already
  · exact asks
  · exact absurd already notBefore

theorem close_not_mem_of_course (system : System) (move : Move) (after : Loop)
    (reason : CloseReason) (course : Course system move after)
    (running : after.isStopped = false) (unclosed : Call.close reason ∉ system.loop.calls) :
    Call.close reason ∉ after.calls := by
  cases course with
  | stopped stopped => cases running.symm.trans stopped
  | kept phase calls | idle phase calls =>
      rw [calls]
      exact unclosed
  | sending frame flush errand asks unflushed phase calls => simp [calls, unclosed]
  | flushing frame errand before phase calls => simp [calls, unclosed]

/-- A running loop has not closed the transport. -/
theorem close_not_mem_of_running (options : ConnectOptions) (moves : List Move)
    (reason : CloseReason) (running : ((start options).run moves).loop.isStopped = false) :
    Call.close reason ∉ ((start options).run moves).loop.calls := by
  induction moves using List.reverseRecOn with
  | nil => simp [run, start, Loop.start]
  | append_singleton moves last ih =>
      rw [run_append] at running ⊢
      have before := running_of_step _ last (Loop.coherent_run options moves) running
      have course := course_of_stepped _ last _ (step_stepped ((start options).run moves) last)
      exact close_not_mem_of_course _ last _ reason course running (ih before)

/-! ## Options, and what has been received -/

end System

/-- A frame that is not a close. -/
def Stimulus.isNews : Stimulus → Bool
  | .frame received => !received.isClose
  | _ => false

namespace Loop

/-- What a step leaves alone unless it brings a frame. -/
structure Steady (before after : Loop) : Prop where
  options : after.options = before.options
  receivedAny : after.receivedAny = before.receivedAny

theorem steady_stop (exit : Exit) (loop : Loop) : Steady loop (loop.stop exit) := by
  obtain ⟨cause, farewell, ticket⟩ := exit
  cases farewell <;> exact ⟨rfl, rfl⟩

theorem steady_fail (cause : Error) (farewell : Option CloseReason) (loop : Loop) :
    Steady loop (loop.fail cause farewell) :=
  steady_stop ⟨some cause, farewell, none⟩ loop

theorem steady_of_kept (loop after : Loop) (kept : FailedOrKept loop after) :
    Steady loop after := by
  rcases kept with ⟨cause, farewell, rfl⟩ | kept
  · exact steady_fail cause farewell loop
  · exact ⟨kept.options, kept.receivedAny⟩

theorem steady_heard (now : Instant) (frame : Frame) (loop after : Loop)
    (heard : Heard now loop frame after) : Steady loop after := by
  cases heard with
  | silent | opened | asked | answered | acknowledged => exact ⟨rfl, rfl⟩
  | joined ns data after read joined =>
      exact steady_of_kept loop after (Or.inr (kept_of_joined now loop after joined))
  | refused => exact steady_fail _ _ loop
  | noted ns ackId name args after read unasked noted =>
      exact steady_of_kept loop after (kept_of_noted _ loop after noted)
  | reported error after malformed noEvent reported =>
      exact steady_of_kept loop after (kept_of_reported error loop after reported)

theorem steady_ticked (now : Instant) (tick : Tick) (loop after : Loop)
    (ticked : Ticked now loop tick after) : Steady loop after := by
  cases ticked with
  | stale | ping | pingAlone | assumed | assumedAgain => exact ⟨rfl, rfl⟩
  | pong =>
      have steady := fun cause farewell => steady_fail cause farewell
        { loop with pongTimer := { loop.pongTimer with current := none } }
      exact ⟨(steady _ _).options, (steady _ _).receivedAny⟩

theorem isNews_of_remoteEnd (stimulus : Stimulus) (remote : stimulus.isRemoteEnd = true) :
    stimulus.isNews = false := by
  cases stimulus with
  | frame frame => cases frame <;> first | rfl | cases remote
  | failure | ended | command | abandoned | tick | deadline => rfl

theorem steady_reacted (now : Instant) (stimulus : Stimulus) (loop after : Loop)
    (reacted : Reacted now loop stimulus after) :
    Steady (if stimulus.isNews then loop.seen else loop) after := by
  cases reacted with
  | earlyEnd stimulus remote | pendingEnd stimulus remote | orderlyEnd stimulus remote =>
      rw [isNews_of_remoteEnd stimulus remote]
      exact steady_stop _ loop
  | frame frame after notClose heard =>
      have news : (Stimulus.frame frame).isNews = true := by simp [Stimulus.isNews, notClose]
      rw [news]
      exact steady_heard now frame loop.seen after heard
  | tick tick after ticked => exact steady_ticked now tick loop after ticked
  | send | deadlinePassed => exact ⟨rfl, rfl⟩
  | failure | close | cancel | abandoned | deadline => exact steady_stop _ loop

theorem steady_resumed (now : Instant) (result : Except Error Unit) (loop after : Loop)
    (resumed : Resumed now loop result after) : Steady loop after := by
  cases resumed with
  | acknowledged packet after concluding noted =>
      have steady := steady_of_kept { loop with phase := .idle } after
        (kept_of_noted _ _ after noted)
      exact ⟨steady.options, steady.receivedAny⟩
  | requestFailed error ticket =>
      have steady := steady_fail error none (loop.reply ticket (.error error))
      exact ⟨steady.options, steady.receivedAny⟩
  | failed error => exact steady_fail error none loop
  | sent | answeredPing | pinged | pingedAgain | served | closed | unmoved => exact ⟨rfl, rfl⟩

theorem receivedAny_seen (loop : Loop) : loop.seen.receivedAny = true := by
  rw [seen]
  split
  · assumption
  · rfl

end Loop

namespace System

theorem steady_stepped (system : System) (move : Move) (after : Loop)
    (stepped : Stepped system move after) :
    Loop.Steady
      (if (system.stimulus? move).any Stimulus.isNews then system.loop.seen else system.loop)
      after := by
  cases stepped with
  | took move stimulus after taken reacted =>
      rw [taken]
      exact Loop.steady_reacted _ stimulus _ after reacted
  | fired kind =>
      simp only [stimulus?, offer?, ite_self, Option.any_none]
      cases kind <;> exact ⟨rfl, rfl⟩
  | answered result after resumed =>
      simp only [stimulus?, offer?, ite_self, Option.any_none]
      exact Loop.steady_resumed _ result _ after resumed
  | expired =>
      simp only [stimulus?, offer?, ite_self, Option.any_none]
      exact Loop.steady_fail _ _ _
  | still move untaken =>
      rw [untaken]
      exact ⟨rfl, rfl⟩

theorem options_stepped (system : System) (move : Move) (after : Loop)
    (stepped : Stepped system move after) : after.options = system.loop.options := by
  have steady := steady_stepped system move after stepped
  split at steady
  · exact steady.options.trans system.loop.options_seen
  · exact steady.options

theorem options_run (options : ConnectOptions) (moves : List Move) :
    ((start options).run moves).loop.options = options := by
  refine run_invariant (fun system => system.loop.options = options) (start options) moves rfl ?_
  intro system move same
  exact (options_stepped system move _ (step_stepped system move)).trans same

theorem receivedAny_stepped (system : System) (move : Move) (after : Loop)
    (stepped : Stepped system move after) :
    after.receivedAny =
      (system.loop.receivedAny || (system.stimulus? move).any Stimulus.isNews) := by
  have steady := steady_stepped system move after stepped
  split at steady
  · rename_i news
    rw [steady.receivedAny, Loop.receivedAny_seen, news, Bool.or_true]
  · rename_i nothing
    rw [steady.receivedAny, Bool.eq_false_iff.mpr nothing, Bool.or_false]

/-- The loop takes a frame that is not a close. -/
def Receives (system : System) (move : Move) : Prop :=
  ∃ frame, system.stimulus? move = some (.frame frame) ∧ frame.isClose = false

theorem receives_iff (system : System) (move : Move) :
    Receives system move ↔ (system.stimulus? move).any Stimulus.isNews = true := by
  rw [Option.any_eq_true]
  constructor
  · rintro ⟨frame, taken, notClose⟩
    exact ⟨_, taken, by simp [Stimulus.isNews, notClose]⟩
  · rintro ⟨stimulus, taken, isNews⟩
    cases stimulus with
    | frame frame => exact ⟨frame, taken, by simpa [Stimulus.isNews] using isNews⟩
    | failure | ended | command | abandoned | tick | deadline => cases isNews

/-- The loop remembers whether it has taken a frame that is not a close. -/
theorem without_receives_iff (options : ConnectOptions) (moves : List Move) :
    Without Receives (start options) moves ↔
      ((start options).run moves).loop.receivedAny = false := by
  induction moves using List.reverseRecOn with
  | nil => simp [Without, run, start, Loop.start]
  | append_singleton moves last ih =>
      rw [without_concat_iff, ih, receives_iff, run_append,
        receivedAny_stepped _ last _ (step_stepped _ last), Bool.or_eq_false_iff,
        Bool.not_eq_true]

theorem receivedAny_iff (options : ConnectOptions) (moves : List Move) :
    ((start options).run moves).loop.receivedAny = true ↔
      ∃ before move later frame, moves = before ++ move :: later ∧
        ((start options).run before).stimulus? move = some (.frame frame) ∧
        frame.isClose = false := by
  rw [← Bool.not_eq_false, ← without_receives_iff]
  constructor
  · intro received
    by_contra nothing
    refine received ?_
    rintro before move later split ⟨frame, taken, notClose⟩
    exact nothing ⟨before, move, later, frame, split, taken, notClose⟩
  · rintro ⟨before, move, later, frame, split, taken, notClose⟩ without
    exact without before move later split ⟨frame, taken, notClose⟩

end System

end ChatSocket.Connection
