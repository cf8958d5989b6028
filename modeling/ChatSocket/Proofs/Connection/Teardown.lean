import ChatSocket.Proofs.Connection.Exits

/-!
# Teardown

Three things tell others how a connection ended: readiness, the output, the lifecycle.
A loop that stops writes them one after the other, and may wait for the transport in
between.  `Shown` has all loops that can be seen meanwhile.  `teardown_agreement` shows
that each of the three is written once, that they agree, and that no one who reads a
terminal lifecycle finds the others unwritten.
-/

set_option autoImplicit false

namespace ChatSocket.Connection

/-! ## Writes -/

/-- One thing that a loop does when it stops. -/
inductive Write where
  | disarm (kind : TimerKind)
  | decide (outcome : Except Error ReadyReason)
  | ask (call : Call)
  | close (cause : Option Error)
  | enter (lifecycle : Lifecycle)
  | reply (ticket : Ticket)

def Write.perform (loop : Loop) : Write → Loop
  | .disarm kind => loop.setSlot kind (loop.slot kind).cancel
  | .decide outcome => { loop with readiness := loop.readiness.complete outcome }
  | .ask call => { loop with calls := loop.calls ++ [call] }
  | .close cause => { loop with output := loop.output.close cause }
  | .enter lifecycle => { loop with lifecycle := lifecycle }
  | .reply ticket => loop.reply ticket (.ok ())

def Loop.perform (writes : List Write) (loop : Loop) : Loop := writes.foldl Write.perform loop

namespace Exit

/-- What comes before the transport is closed. -/
def preparation (exit : Exit) : List Write :=
  [.disarm .ping, .disarm .pong, .disarm .readiness,
    .decide (.error (exit.cause.getD .connectionClosed))]

def announcement (exit : Exit) : List Write :=
  .enter (if exit.cause.isSome then .failed else .closed) :: (exit.ticket.map Write.reply).toList

/-- What comes afterwards. -/
def conclusion (exit : Exit) : List Write := .close exit.cause :: exit.announcement

/-- Where the loop is once it has stopped. -/
def phase (exit : Exit) : Phase :=
  match exit.farewell with
  | some reason => .closing reason exit
  | none => .ended

/-- What is done without waiting. -/
def writes (exit : Exit) : List Write :=
  match exit.farewell with
  | some reason => exit.preparation ++ [.ask (.close reason)]
  | none => exit.preparation ++ exit.conclusion

end Exit

namespace Loop

theorem finish_eq_perform (exit : Exit) (loop : Loop) :
    loop.finish exit = { loop.perform exit.conclusion with phase := .ended } := by
  obtain ⟨cause, farewell, ticket⟩ := exit
  cases ticket with
  | none => simp [finish, perform, Exit.conclusion, Exit.announcement, Write.perform]
  | some ticket => rfl

theorem stop_eq_perform (exit : Exit) (loop : Loop) :
    loop.stop exit = { loop.perform exit.writes with phase := exit.phase } := by
  obtain ⟨cause, farewell, ticket⟩ := exit
  cases farewell with
  | some reason => rfl
  | none => exact finish_eq_perform ⟨cause, none, ticket⟩ _

end Loop

namespace System

/-- What can be seen of the loop while a move is made. -/
inductive Shown (system : System) (move : Move) : Loop → Prop
  | before : Shown system move system.loop
  | stopping (exit : Exit) (between : Loop) (part : List Write)
      (running : system.loop.isStopped = false) (alike : Loop.Alike system.loop between)
      (stops : (system.step move).loop =
        { between.perform exit.writes with phase := exit.phase })
      (done : part <+: exit.writes) : Shown system move (between.perform part)
  | finishing (reason : CloseReason) (exit : Exit) (part : List Write)
      (closing : system.loop.phase = .closing reason exit)
      (finishes : (system.step move).loop =
        { system.loop.perform exit.conclusion with phase := .ended })
      (done : part <+: exit.conclusion) : Shown system move (system.loop.perform part)
  | after : Shown system move (system.step move).loop

end System

/-! ## Agreement -/

namespace Loop

/-- What others can see says the same. -/
structure Agreed (loop : Loop) : Prop where
  disarmed : ∀ kind, (loop.slot kind).isArmed = false
  decided : loop.readiness.isPending = false
  closed : loop.output.closing.isSome = true
  failed_iff : loop.lifecycle = .failed ↔ ∃ error, loop.output.closing = some (some error)
  closed_iff : loop.lifecycle = .closed ↔ loop.output.closing = some none

theorem agreed_of_settled (cause : Option Error) (loop : Loop) (settled : Settled cause loop)
    (closed : loop.output.closing = some cause)
    (entered : loop.lifecycle = if cause.isSome then .failed else .closed) : Agreed loop := by
  have decided : loop.readiness.isPending = false := by
    rcases settled.decided with failed | ⟨reason, succeeded⟩
    · simp [Readiness.isPending, failed]
    · simp [Readiness.isPending, succeeded]
  cases cause <;> exact ⟨settled.disarmed, decided, by simp [closed], by simp [closed, entered],
    by simp [closed, entered]⟩

theorem agreed_of_coherent (loop : Loop) (coherent : Coherent loop)
    (terminal : loop.lifecycle.isTerminal = true) : Agreed loop := by
  cases phase : loop.phase with
  | idle | sending | flushing =>
      have live := coherent.running (by simp [isStopped, phase])
      cases terminal.symm.trans live.unfinished
  | closing reason exit =>
      obtain ⟨_, _, unfinished⟩ := coherent.closing reason exit phase
      cases terminal.symm.trans unfinished
  | ended =>
      obtain ⟨cause, settled, closed, entered⟩ := coherent.ended phase
      exact agreed_of_settled cause loop settled closed entered

theorem perform_append (first second : List Write) (loop : Loop) :
    loop.perform (first ++ second) = (loop.perform first).perform second :=
  List.foldl_append

end Loop

/-- Only one kind of write changes the lifecycle. -/
def Write.isEntry : Write → Bool
  | .enter _ => true
  | _ => false

namespace Loop

theorem lifecycle_perform (writes : List Write) (loop : Loop)
    (quiet : ∀ write ∈ writes, write.isEntry = false) :
    (loop.perform writes).lifecycle = loop.lifecycle := by
  induction writes generalizing loop with
  | nil => rfl
  | cons write rest ih =>
      have later := ih (write.perform loop) (fun other member => quiet other (.tail write member))
      refine later.trans ?_
      cases write with
      | disarm kind => exact lifecycle_setSlot kind _ loop
      | decide | ask | close | reply => rfl
      | enter => cases quiet _ List.mem_cons_self

theorem perform_replies (writes : List Write) (loop : Loop)
    (telling : ∀ write ∈ writes, ∃ ticket, write = .reply ticket) :
    ∃ replies, loop.perform writes = { loop with replies := replies } := by
  induction writes generalizing loop with
  | nil => exact ⟨loop.replies, rfl⟩
  | cons write rest ih =>
      obtain ⟨ticket, rfl⟩ := telling write List.mem_cons_self
      obtain ⟨replies, performed⟩ := ih (loop.reply ticket (.ok ()))
        (fun other member => telling other (.tail _ member))
      exact ⟨replies, performed⟩

/-- Whoever reads a terminal lifecycle comes after everything that does not announce it. -/
theorem agreed_of_part (exit : Exit) (first part : List Write) (loop : Loop)
    (quiet : ∀ write ∈ first, write.isEntry = false)
    (unfinished : loop.lifecycle.isTerminal = false)
    (settled : Settled exit.cause (loop.perform first))
    (closed : (loop.perform first).output.closing = some exit.cause)
    (done : part <+: first ++ exit.announcement)
    (terminal : (loop.perform part).lifecycle.isTerminal = true) : Agreed (loop.perform part) := by
  have unannounced : ∀ writes, writes <+: first →
      (loop.perform writes).lifecycle.isTerminal = false := by
    intro writes shorter
    rw [lifecycle_perform writes loop (fun write member => quiet write (shorter.subset member))]
    exact unfinished
  -- Either the announcement has not been reached, or all that comes before it is done.
  rcases List.prefix_or_prefix_of_prefix done (List.prefix_append first exit.announcement) with
    shorter | ⟨rest, rfl⟩
  · cases terminal.symm.trans (unannounced part shorter)
  · have restDone := (List.prefix_append_right_inj first).mp done
    rcases List.prefix_cons_iff.mp restDone with rfl | ⟨tail, rfl, tailDone⟩
    · rw [List.append_nil] at terminal
      cases terminal.symm.trans (unannounced first (List.prefix_refl first))
    · have telling : ∀ write ∈ tail, ∃ ticket, write = .reply ticket := by
        intro write member
        have isReply := tailDone.subset member
        simp only [Option.mem_toList, Option.map_eq_some_iff] at isReply
        obtain ⟨ticket, _, rfl⟩ := isReply
        exact ⟨ticket, rfl⟩
      obtain ⟨replies, performed⟩ := perform_replies tail
        { loop.perform first with
          lifecycle := if exit.cause.isSome then .failed else .closed } telling
      have whole : loop.perform (first ++ .enter _ :: tail) = _ :=
        (perform_append first _ loop).trans performed
      rw [whole]
      exact agreed_of_settled exit.cause _ { settled with } closed rfl

theorem agreed_of_stopping (exit : Exit) (before between : Loop) (part : List Write)
    (live : Live before) (alike : Alike before between) (done : part <+: exit.writes)
    (terminal : (between.perform part).lifecycle.isTerminal = true) :
    Agreed (between.perform part) := by
  have unfinished := alike.unfinished live.unfinished
  cases farewell : exit.farewell with
  | some reason =>
      have same := lifecycle_perform part between (by
        intro write member
        have isWrite := done.subset member
        simp [Exit.writes, farewell, Exit.preparation] at isWrite
        rcases isWrite with rfl | rfl | rfl | rfl | rfl <;> rfl)
      rw [same] at terminal
      cases terminal.symm.trans unfinished
  | none =>
      have unfailed : ∀ error, between.readiness.outcome ≠ some (.error error) := by
        rw [alike.readiness]
        exact live.unfailed
      have unclosed : between.output.closing = none := by
        rw [alike.output]
        exact live.unclosed
      have settled :
          Settled exit.cause (between.perform (exit.preparation ++ [.close exit.cause])) := by
        refine ⟨?_, complete_decided _ between.readiness unfailed⟩
        intro kind
        cases kind <;> exact Slot.isArmed_cancel _
      have inOrder : part <+: exit.preparation ++ [.close exit.cause] ++ exit.announcement := by
        simpa [Exit.writes, farewell, Exit.conclusion] using done
      refine agreed_of_part exit _ part between ?_ unfinished settled
        (close_closing exit.cause between.output unclosed) inOrder terminal
      intro write member
      simp [Exit.preparation] at member
      rcases member with rfl | rfl | rfl | rfl | rfl <;> rfl

end Loop

namespace System

theorem writes_of_stop (system : System) (move : Move) (cause : Option Error)
    (farewell : Option CloseReason) (ends : Ends system move cause farewell) :
    ∃ (exit : Exit) (between : Loop), exit.cause = cause ∧ exit.farewell = farewell ∧
      Loop.Alike system.loop between ∧
      (system.step move).loop = { between.perform exit.writes with phase := exit.phase } := by
  obtain ⟨ticket, between, alike, stops⟩ := leaves_of_ends system move cause farewell ends
  refine ⟨⟨cause, farewell, ticket⟩, between, rfl, rfl, alike, ?_⟩
  rw [stops]
  exact Loop.stop_eq_perform _ between

theorem writes_of_answer (system : System) (reason : CloseReason) (exit : Exit)
    (result : Except Error Unit) (closing : system.loop.phase = .closing reason exit) :
    (system.step (.answer result)).loop =
      { system.loop.perform exit.conclusion with phase := .ended } := by
  rw [← Loop.finish_eq_perform]
  cases result <;> simp [step, Loop.resume, closing]

theorem agreed_of_shown (system : System) (move : Move) (loop : Loop)
    (coherent : system.loop.Coherent) (shown : Shown system move loop)
    (terminal : loop.lifecycle.isTerminal = true) : loop.Agreed := by
  cases shown with
  | before => exact Loop.agreed_of_coherent _ coherent terminal
  | stopping exit between part running alike stops done =>
      exact Loop.agreed_of_stopping exit system.loop between part (coherent.running running) alike
        done terminal
  | finishing reason exit part closing finishes done =>
      obtain ⟨settled, unclosed, unfinished⟩ := coherent.closing reason exit closing
      exact Loop.agreed_of_part exit [.close exit.cause] part system.loop (by simp [Write.isEntry])
        unfinished { settled with } (Loop.close_closing exit.cause _ unclosed) done terminal
  | after =>
      exact Loop.agreed_of_coherent _
        (Loop.coherent_stepped system move _ coherent (step_stepped system move)) terminal

end System

/-! ## What is decided stays -/

namespace Loop

theorem decided_stop (outcome : Except Error ReadyReason) (exit : Exit) (loop : Loop)
    (decided : loop.readiness.outcome = some outcome) :
    (loop.stop exit).readiness.outcome = some outcome := by
  rw [(stop_stops exit loop).readiness, Readiness.complete, decided]
  exact decided

theorem decided_fail (outcome : Except Error ReadyReason) (cause : Error)
    (farewell : Option CloseReason) (loop : Loop)
    (decided : loop.readiness.outcome = some outcome) :
    (loop.fail cause farewell).readiness.outcome = some outcome :=
  decided_stop outcome ⟨some cause, farewell, none⟩ loop decided

theorem not_pending_of_decided (outcome : Except Error ReadyReason) (loop : Loop)
    (decided : loop.readiness.outcome = some outcome)
    (pending : loop.readiness.isPending = true) : False := by
  simp [Readiness.isPending, decided] at pending

theorem decided_reported (outcome : Except Error ReadyReason) (error : ProtocolError)
    (loop after : Loop) (decided : loop.readiness.outcome = some outcome)
    (reported : Reported error loop after) : after.readiness.outcome = some outcome := by
  cases reported with
  | fatal pending => exact (not_pending_of_decided outcome loop decided pending).elim
  | passed => exact decided

theorem decided_noted (outcome : Except Error ReadyReason) (event : Event) (loop after : Loop)
    (decided : loop.readiness.outcome = some outcome) (noted : Noted loop event after) :
    after.readiness.outcome = some outcome := by
  cases noted with
  | signal pending => exact (not_pending_of_decided outcome loop decided pending).elim
  | problem error after reported =>
      exact decided_reported outcome error loop after decided reported
  | signalAgain | input | output => exact decided

theorem decided_heard (outcome : Except Error ReadyReason) (now : Instant) (frame : Frame)
    (loop after : Loop) (decided : loop.readiness.outcome = some outcome)
    (heard : Heard now loop frame after) : after.readiness.outcome = some outcome := by
  cases heard with
  | silent | opened | asked | answered | acknowledged => exact decided
  | joined ns data after read joined =>
      cases joined with
      | again | waiting | delayed => exact decided
      | assumed pending => exact (not_pending_of_decided outcome loop decided pending).elim
  | refused => exact decided_fail outcome _ _ loop decided
  | noted ns ackId name args after read unasked noted =>
      exact decided_noted outcome _ loop after decided noted
  | reported error after malformed noEvent reported =>
      exact decided_reported outcome error loop after decided reported

theorem decided_ticked (outcome : Except Error ReadyReason) (now : Instant) (tick : Tick)
    (loop after : Loop) (decided : loop.readiness.outcome = some outcome)
    (ticked : Ticked now loop tick after) : after.readiness.outcome = some outcome := by
  cases ticked with
  | stale | ping | pingAlone | assumedAgain => exact decided
  | pong => exact decided_fail outcome _ _ _ decided
  | assumed generation live pending =>
      exact (not_pending_of_decided outcome loop decided pending).elim

theorem decided_reacted (outcome : Except Error ReadyReason) (now : Instant)
    (stimulus : Stimulus) (loop after : Loop) (decided : loop.readiness.outcome = some outcome)
    (reacted : Reacted now loop stimulus after) : after.readiness.outcome = some outcome := by
  cases reacted with
  | frame frame after notClose heard =>
      rw [← readiness_seen] at decided
      exact decided_heard outcome now frame loop.seen after decided heard
  | tick tick after ticked => exact decided_ticked outcome now tick loop after decided ticked
  | send | deadlinePassed => exact decided
  | earlyEnd | pendingEnd | orderlyEnd | failure | close | cancel | abandoned | deadline =>
      exact decided_stop outcome _ loop decided

theorem decided_resumed (outcome : Except Error ReadyReason) (now : Instant)
    (result : Except Error Unit) (loop after : Loop)
    (decided : loop.readiness.outcome = some outcome) (resumed : Resumed now loop result after) :
    after.readiness.outcome = some outcome := by
  cases resumed with
  | acknowledged packet after concluding noted =>
      exact decided_noted outcome _ { loop with phase := .idle } after decided noted
  | requestFailed error ticket => exact decided_fail outcome _ _ (loop.reply ticket _) decided
  | failed => exact decided_fail outcome _ _ loop decided
  | sent | answeredPing | pinged | pingedAgain | served | closed | unmoved => exact decided

theorem resumed_of_ended (now : Instant) (result : Except Error Unit) (loop after : Loop)
    (ended : loop.phase = .ended) (resumed : Resumed now loop result after) : after = loop := by
  have notWriting : ∀ errand, loop.phase.errand? ≠ some errand := by
    simp [ended, Phase.errand?]
  cases resumed with
  | sent frame errand sending => cases ended.symm.trans sending
  | answeredPing concluding | acknowledged packet after concluding | pinged beat limit concluding
  | pingedAgain beat limit concluding | served ticket concluding =>
      exact absurd (errand?_of_concluding _ loop concluding) (notWriting _)
  | requestFailed error ticket writing => exact absurd writing (notWriting _)
  | failed error errand writing => exact absurd writing (notWriting errand)
  | closed reason exit result closing => cases ended.symm.trans closing
  | unmoved => rfl

end Loop

namespace System

theorem decided_stepped (outcome : Except Error ReadyReason) (system : System) (move : Move)
    (after : Loop) (decided : system.loop.readiness.outcome = some outcome)
    (stepped : Stepped system move after) : after.readiness.outcome = some outcome := by
  cases stepped with
  | took move stimulus after taken reacted =>
      exact Loop.decided_reacted outcome _ stimulus _ after decided reacted
  | fired kind =>
      rw [Loop.readiness_setSlot]
      exact decided
  | answered result after resumed =>
      exact Loop.decided_resumed outcome _ result _ after decided resumed
  | expired => exact Loop.decided_fail outcome _ _ _ decided
  | still => exact decided

theorem decided_run (outcome : Except Error ReadyReason) (system : System) (moves : List Move)
    (decided : system.loop.readiness.outcome = some outcome) :
    (system.run moves).loop.readiness.outcome = some outcome :=
  run_invariant (fun later => later.loop.readiness.outcome = some outcome) system moves decided
    (fun later move decided =>
      decided_stepped outcome later move _ decided (step_stepped later move))

/-- An ended loop does nothing more. -/
theorem ended_stepped (system : System) (move : Move) (after : Loop)
    (coherent : system.loop.Coherent) (ended : system.loop.phase = .ended)
    (stepped : Stepped system move after) : after = system.loop := by
  have stopped : system.loop.isStopped = true := by simp [Loop.isStopped, ended]
  cases stepped with
  | took move stimulus after taken reacted =>
      have idle := ((stimulus?_eq_some_iff system move stimulus).mp taken).1
      cases ended.symm.trans idle
  | fired kind =>
      obtain ⟨cause, settled, _⟩ := coherent.ended ended
      rw [Slot.fire_of_unarmed _ _ (settled.disarmed kind), Loop.setSlot_slot]
  | answered result after resumed =>
      exact Loop.resumed_of_ended _ result _ after ended resumed
  | expired beat limit writing => exact (Loop.not_errand_of_stopped _ _ stopped writing).elim
  | still => rfl

theorem ended_run (system : System) (moves : List Move) (coherent : system.loop.Coherent)
    (ended : system.loop.isEnded = true) : (system.run moves).loop = system.loop := by
  have phase := system.loop.isEnded_iff.mp ended
  refine run_invariant (fun later => later.loop = system.loop) system moves rfl ?_
  intro later move same
  rw [← same] at phase coherent ⊢
  exact ended_stepped later move _ coherent phase (step_stepped later move)

/-! ## The three writes -/

/-- Readiness is decided at one move of a run that ends. -/
theorem decided_once (options : ConnectOptions) (moves : List Move)
    (ended : ((start options).run moves).loop.isEnded = true) :
    ∃ before deciding during outcome, moves = before ++ deciding :: during ∧
      (∀ part, part <+: before →
        ((start options).run part).loop.readiness.outcome = none) ∧
      ∀ part, part <+: during →
        ((start options).run (before ++ deciding :: part)).loop.readiness.outcome =
          some outcome := by
  obtain ⟨cause, settled, _⟩ :=
    (Loop.coherent_run options moves).ended ((Loop.isEnded_iff _).mp ended)
  obtain ⟨outcome, decided⟩ :
      ∃ outcome, ((start options).run moves).loop.readiness.outcome = some outcome := by
    rcases settled.decided with failed | ⟨reason, succeeded⟩
    · exact ⟨_, failed⟩
    · exact ⟨_, succeeded⟩
  obtain ⟨before, deciding, during, rfl, notBefore, since⟩ :=
    run_switch (fun system => ∃ outcome, system.loop.readiness.outcome = some outcome)
      (start options) moves
      (fun part later ⟨outcome, decided⟩ => ⟨outcome, decided_run outcome _ later decided⟩)
      (by simp [start, Loop.start, Readiness.pending]) ⟨outcome, decided⟩
  refine ⟨before, deciding, during, outcome, rfl, ?_, ?_⟩
  · intro part shorter
    exact Option.eq_none_iff_forall_ne_some.mpr (not_exists.mp (notBefore part shorter))
  · rintro part ⟨rest, rfl⟩
    obtain ⟨earlier, decidedThen⟩ := since part (List.prefix_append part rest)
    -- What was decided then is still so at the end.
    have still := decided_run earlier _ rest decidedThen
    rw [← run_append_run, List.append_assoc, List.cons_append, decided] at still
    rw [decidedThen, still]

/-- The output is closed at one move, after which the loop does nothing. -/
theorem closed_once (options : ConnectOptions) (moves : List Move)
    (ended : ((start options).run moves).loop.isEnded = true) :
    ∃ before closing during, moves = before ++ closing :: during ∧
      (∀ part, part <+: before → ((start options).run part).loop.output.closing = none) ∧
      ∀ part, part <+: during →
        ((start options).run (before ++ closing :: part)).loop =
          ((start options).run moves).loop := by
  obtain ⟨before, closing, during, rfl, notBefore, since⟩ :=
    run_switch (fun system => system.loop.isEnded = true) (start options) moves
      (fun part later ended => by
        rw [ended_run _ later (Loop.coherent_run options part) ended]
        exact ended)
      (by simp [start, Loop.start, Loop.isEnded]) ended
  refine ⟨before, closing, during, rfl, ?_, ?_⟩
  · intro part shorter
    have coherent := Loop.coherent_run options part
    cases phase : ((start options).run part).loop.phase with
    | idle | sending | flushing =>
        exact (coherent.running (by simp [Loop.isStopped, phase])).unclosed
    | closing reason exit => exact (coherent.closing reason exit phase).2.1
    | ended => exact absurd ((Loop.isEnded_iff _).mpr phase) (notBefore part shorter)
  · rintro part ⟨rest, rfl⟩
    have same := ended_run _ rest (Loop.coherent_run options _)
      (since part (List.prefix_append part rest))
    rw [← run_append_run, List.append_assoc, List.cons_append] at same
    exact same.symm

/-- A run that has stopped did so at one move, and ends for the reason it had then. -/
theorem stopped_at (options : ConnectOptions) (moves : List Move)
    (stopped : ((start options).run moves).loop.isStopped = true) :
    ∃ before stopping during cause farewell, moves = before ++ stopping :: during ∧
      (∀ part, part <+: before → ((start options).run part).loop.isStopped = false) ∧
      (∀ part, part <+: during →
        ((start options).run (before ++ stopping :: part)).loop.isStopped = true) ∧
      Ends ((start options).run before) stopping cause farewell ∧
      ((start options).run moves).loop.ending? = some cause ∧
      ((start options).run moves).loop.readiness =
        ((start options).run before).loop.readiness.complete
          (.error (cause.getD .connectionClosed)) := by
  obtain ⟨before, stopping, during, rfl, notBefore, since⟩ :=
    run_switch (fun system => system.loop.isStopped = true) (start options) moves
      (fun part later stopped =>
        (stopped_run _ later (Loop.coherent_run options part) stopped).stopped)
      (by simp [start, Loop.start, Loop.isStopped]) stopped
  have running : ∀ part, part <+: before →
      ((start options).run part).loop.isStopped = false := fun part shorter =>
    Bool.eq_false_iff.mpr (notBefore part shorter)
  have runningLast := running before (List.prefix_refl before)
  have coherent := Loop.coherent_run options before
  have atOnce := since [] List.nil_prefix
  rw [run_append] at atOnce
  obtain ⟨cause, farewell, ends⟩ := ends_of_stepped _ stopping _ (coherent.running runningLast)
    runningLast (step_stepped _ stopping) atOnce
  obtain ⟨_, ending, _, readiness⟩ :=
    left_for_good _ stopping cause farewell during coherent runningLast ends
  rw [← run_append_cons] at ending readiness
  exact ⟨before, stopping, during, cause, farewell, rfl, running, since, ends, ending, readiness⟩

theorem stopped_once (options : ConnectOptions) (moves : List Move)
    (ended : ((start options).run moves).loop.isEnded = true) :
    ∃ before stopping during cause farewell, moves = before ++ stopping :: during ∧
      (∀ part, part <+: before → ((start options).run part).loop.isStopped = false) ∧
      (∀ part, part <+: during →
        ((start options).run (before ++ stopping :: part)).loop.isStopped = true) ∧
      Ends ((start options).run before) stopping cause farewell ∧
      ((start options).run moves).loop.output.closing = some cause ∧
      ((start options).run moves).loop.readiness =
        ((start options).run before).loop.readiness.complete
          (.error (cause.getD .connectionClosed)) := by
  have phase := (Loop.isEnded_iff _).mp ended
  have stopped : ((start options).run moves).loop.isStopped = true := by
    simp [Loop.isStopped, phase]
  obtain ⟨before, stopping, during, cause, farewell, split, running, since, ends, ending,
    readiness⟩ := stopped_at options moves stopped
  rw [Loop.ending?, phase] at ending
  exact ⟨before, stopping, during, cause, farewell, split, running, since, ends, ending,
    readiness⟩

/-- How a run ends that does.  Readiness is decided once, the output is closed once and last; the
loop stops once, for a cause that the output keeps and that readiness takes over unless it was
decided before.  Each step of the teardown is a list of writes, and whoever sees the terminal
lifecycle among them sees the rest as well. -/
theorem teardown_agreement (options : ConnectOptions) (moves : List Move)
    (ended : ((start options).run moves).loop.isEnded = true) :
    (∃ before deciding during outcome, moves = before ++ deciding :: during ∧
        (∀ part, part <+: before →
          ((start options).run part).loop.readiness.outcome = none) ∧
        ∀ part, part <+: during →
          ((start options).run (before ++ deciding :: part)).loop.readiness.outcome =
            some outcome) ∧
      (∃ before closing during, moves = before ++ closing :: during ∧
        (∀ part, part <+: before → ((start options).run part).loop.output.closing = none) ∧
        ∀ part, part <+: during →
          ((start options).run (before ++ closing :: part)).loop =
            ((start options).run moves).loop) ∧
      ((start options).run moves).loop.Agreed ∧
      (∃ before stopping during cause farewell, moves = before ++ stopping :: during ∧
        (∀ part, part <+: before → ((start options).run part).loop.isStopped = false) ∧
        (∀ part, part <+: during →
          ((start options).run (before ++ stopping :: part)).loop.isStopped = true) ∧
        Ends ((start options).run before) stopping cause farewell ∧
        ((start options).run moves).loop.output.closing = some cause ∧
        (((start options).run before).loop.readiness.isPending = true →
          ((start options).run moves).loop.readiness.outcome =
            some (.error (cause.getD .connectionClosed))) ∧
        (∀ reason, ((start options).run before).loop.readiness.outcome = some (.ok reason) →
          ((start options).run moves).loop.readiness.outcome = some (.ok reason)) ∧
        ∀ stimulus, ((start options).run before).stimulus? stopping = some stimulus →
          stimulus.isRemoteEnd = true → ((start options).run before).loop.receivedAny = true →
          ((start options).run before).loop.readiness.isPending = true →
          cause = some .connectionClosed) ∧
      ∀ before move during, moves = before ++ move :: during →
        (∀ cause farewell, Ends ((start options).run before) move cause farewell →
          ∃ (exit : Exit) (between : Loop), exit.cause = cause ∧ exit.farewell = farewell ∧
            Loop.Alike ((start options).run before).loop between ∧
            ((start options).run (before ++ [move])).loop =
              { between.perform exit.writes with phase := exit.phase }) ∧
        (∀ reason exit result, ((start options).run before).loop.phase = .closing reason exit →
          move = .answer result →
          ((start options).run (before ++ [move])).loop =
            { ((start options).run before).loop.perform exit.conclusion with phase := .ended }) ∧
        ∀ loop, Shown ((start options).run before) move loop →
          loop.lifecycle.isTerminal = true → loop.Agreed := by
  have coherent := Loop.coherent_run options moves
  have terminal : ((start options).run moves).loop.lifecycle.isTerminal = true := by
    obtain ⟨cause, _, _, entered⟩ := coherent.ended ((Loop.isEnded_iff _).mp ended)
    rw [entered]
    cases cause <;> rfl
  refine ⟨decided_once options moves ended, closed_once options moves ended,
    Loop.agreed_of_coherent _ coherent terminal, ?_, ?_⟩
  · obtain ⟨before, stopping, during, cause, farewell, split, running, stopped, ends, closing,
      readiness⟩ := stopped_once options moves ended
    refine ⟨before, stopping, during, cause, farewell, split, running, stopped, ends, closing,
      ?_, ?_, ?_⟩
    · intro pending
      rw [readiness, Loop.complete_pending _ _ pending]
    · intro reason succeeded
      rw [readiness, Readiness.complete, succeeded]
      exact succeeded
    · intro stimulus taken remote something pending
      have pendingEnd := Ends.pendingEnd stopping stimulus taken remote something pending
      exact cause_unique _ stopping _ _ _ _ (Loop.coherent_run options before)
        (running before (List.prefix_refl before)) ends pendingEnd
  · rintro before move during rfl
    refine ⟨?_, ?_, fun loop => agreed_of_shown _ move loop (Loop.coherent_run options before)⟩
    · intro cause farewell ends
      rw [run_append]
      exact writes_of_stop _ move cause farewell ends
    · rintro reason exit result closing rfl
      rw [run_append]
      exact writes_of_answer _ reason exit result closing

/-- A request to cancel, and a transport that is closed afterwards. -/
theorem teardown_agreement_when_cancelled :
    ((start .default).run
        [.submit (.cancel .earlyDisconnect), .takeCommand, .answer (.ok ())]).loop.isEnded = true ∧
      ((start .default).run
        [.submit (.cancel .earlyDisconnect), .takeCommand, .answer (.ok ())]).loop.Agreed :=
  ⟨rfl, (teardown_agreement .default
    [.submit (.cancel .earlyDisconnect), .takeCommand, .answer (.ok ())] rfl).2.2.1⟩

end System

end ChatSocket.Connection
