import ChatSocket.Connection.Scenario
import ChatSocket.Proofs.Connection.Teardown
import ChatSocket.Proofs.Connection.Wire

/-!
# Requests

Handles bring commands to the loop, which takes them in their order and answers each request once.
`requests_in_order` shows which commands are taken, what is sent for them and how they are answered,
whoever asks and whatever becomes of the transport.
-/

set_option autoImplicit false

namespace ChatSocket.Connection

/-- Who waits for the command. -/
def Command.ticket? : Command → Option Ticket
  | .send _ _ ticket | .close _ ticket => some ticket
  | .cancel _ => none

def Command.isSend : Command → Bool
  | .send .. => true
  | .close .. | .cancel _ => false

def Stimulus.command? : Stimulus → Option Command
  | .command given => some given
  | _ => none

def Call.frame? : Call → Option Frame
  | .send frame => some frame
  | .flush | .close _ => none

def Errand.ticket? : Errand → Option Ticket
  | .request ticket => some ticket
  | .answerPing | .acknowledge _ | .heartbeat .. => none

/-- Who waits for what the loop is about. -/
def Phase.waiting? : Phase → Option Ticket
  | .sending _ _ errand | .flushing errand => errand.ticket?
  | .closing _ exit => exit.ticket
  | .idle | .ended => none

/-- What comes of calls that are made one after the other until one fails. -/
def concluded : List Call → List (Call × Except Error Unit) → Option (Except Error Unit)
  | [], _ => some (.ok ())
  | _ :: _, [] => none
  | call :: rest, (answered, result) :: later =>
      if answered = call then
        match result with
        | .ok () => concluded rest later
        | .error error => some (.error error)
      else none

theorem concluded_ok_iff (calls : List Call) (talk : List (Call × Except Error Unit)) :
    concluded calls talk = some (.ok ()) ↔ calls.map (·, .ok ()) <+: talk := by
  induction calls generalizing talk with
  | nil => simp [concluded]
  | cons call rest ih =>
      rcases talk with _ | ⟨⟨answered, result⟩, later⟩
      · simp [concluded]
      · by_cases same : answered = call
        · subst same
          cases result with
          | ok => simp [concluded, ih]
          | error error => simp [concluded]
        · simp [concluded, same, Ne.symm same, eq_comm]

theorem concluded_single (call : Call) (talk : List (Call × Except Error Unit)) (error : Error) :
    concluded [call] talk = some (.error error) ↔ [(call, .error error)] <+: talk := by
  rcases talk with _ | ⟨⟨answered, result⟩, later⟩
  · simp [concluded]
  · by_cases same : answered = call
    · subst same
      cases result <;> simp [concluded, eq_comm]
    · simp [concluded, same, Ne.symm same]

/-- The send fails, or the flush does after the send. -/
theorem concluded_error_iff (frame : Frame) (flush : Bool)
    (talk : List (Call × Except Error Unit)) (error : Error) :
    concluded (Order.calls ⟨frame, flush⟩) talk = some (.error error) ↔
      [(.send frame, .error error)] <+: talk ∨
        flush = true ∧ [(.send frame, .ok ()), (.flush, .error error)] <+: talk := by
  cases flush with
  | false => simpa [Order.calls] using concluded_single (.send frame) talk error
  | true =>
      rcases talk with _ | ⟨⟨answered, result⟩, later⟩
      · simp [concluded, Order.calls]
      · by_cases same : answered = .send frame
        · subst same
          cases result with
          | ok => simp [concluded, Order.calls, concluded_single]
          | error other => simp [concluded, Order.calls, eq_comm]
        · simp [concluded, Order.calls, same, Ne.symm same]

namespace System

/-- The command that the queue accepts at a move. -/
def accepted? (system : System) : Move → Option Command
  | .submit command => if 0 < system.handles && !system.loop.isEnded then some command else none
  | _ => none

/-- The commands that were given to the loop. -/
def enqueued (system : System) (moves : List Move) : List Command :=
  system.history accepted? moves

/-- The command that the loop takes at a move. -/
def executed? (system : System) (move : Move) : Option Command :=
  (system.stimulus? move).bind Stimulus.command?

/-- The commands that the loop takes. -/
def executed (system : System) (moves : List Move) : List Command :=
  (system.handled moves).filterMap fun (_, stimulus) => stimulus.command?

theorem enqueued_append (system : System) (moves : List Move) (last : Move) :
    system.enqueued (moves ++ [last]) =
      system.enqueued moves ++ ((system.run moves).accepted? last).toList :=
  history_concat accepted? system moves last

theorem executed_append (system : System) (moves : List Move) (last : Move) :
    system.executed (moves ++ [last]) =
      system.executed moves ++ ((system.run moves).executed? last).toList :=
  filterMap_handled (fun (_, stimulus) => stimulus.command?) system moves last

/-! ## The queue -/

theorem command_of_executed? (system : System) (move : Move) (command : Command)
    (executed : system.executed? move = some command) :
    system.stimulus? move = some (.command command) := by
  obtain ⟨stimulus, taken, given⟩ := Option.bind_eq_some_iff.mp executed
  cases stimulus with
  | command other =>
      cases given
      exact taken
  | frame | failure | ended | abandoned | tick | deadline => cases given

/-- A command is taken from the front of the queue. -/
theorem front_of_taken (system : System) (move : Move) (command : Command)
    (taken : system.stimulus? move = some (.command command)) :
    move = .takeCommand ∧ system.loop.isIdle = true ∧
      ∃ rest, system.commands = command :: rest := by
  have idle := ((stimulus?_eq_some_iff system move _).mp taken).1
  cases offers_of_taken system move _ taken with
  | arrival arrival stimulus same => cases arrival <;> cases same
  | command command rest commands => exact ⟨rfl, (Loop.isIdle_iff _).mpr idle, rest, commands⟩

theorem queue_step (system : System) (move : Move) :
    (system.executed? move).toList ++ (system.step move).commands =
      system.commands ++ (system.accepted? move).toList := by
  cases executed : system.executed? move with
  | some command =>
      obtain ⟨rfl, idle, rest, commands⟩ :=
        front_of_taken system move command (command_of_executed? system move command executed)
      simp [step, takeCommand, commands, idle, accepted?, handle]
  | none =>
      rw [Option.toList_none, List.nil_append]
      cases move with
      | submit command =>
          simp only [step, accepted?]
          split <;> simp
      | takeCommand =>
          cases commands : system.commands with
          | nil => simp [step, takeCommand, commands, accepted?]
          | cons command rest =>
              cases idle : system.loop.isIdle with
              | true =>
                  simp [executed?, stimulus?, offer?, commands, idle, Stimulus.command?] at executed
              | false => simp [step, takeCommand, commands, idle, accepted?]
      | takeTick =>
          simp only [step, takeTick, accepted?]
          split
          · split <;> exact (List.append_nil _).symm
          · exact (List.append_nil _).symm
      | fire kind =>
          simp only [step, fire, accepted?]
          split <;> exact (List.append_nil _).symm
      | elapse | abandon | deadline | expire =>
          simp only [step, accepted?]
          split <;> exact (List.append_nil _).symm
      | arrive | acquire | release | answer => exact (List.append_nil _).symm

/-- What was taken comes before what waits. -/
theorem queue_run (options : ConnectOptions) (moves : List Move) :
    (start options).executed moves ++ ((start options).run moves).commands =
      (start options).enqueued moves := by
  induction moves using List.reverseRecOn with
  | nil => rfl
  | append_singleton moves last ih =>
      rw [executed_append, enqueued_append, run_append, List.append_assoc, queue_step,
        ← List.append_assoc, ih]

end System

/-! ## Who is answered -/

namespace Loop

/-- Nobody is answered, and nobody waits. -/
structure Mute (before after : Loop) : Prop where
  replies : after.replies = before.replies
  waiting : after.phase.waiting? = none

section Mute

variable (loop after : Loop)

theorem mute_of_idle (idle : after.phase = .idle) (replies : after.replies = loop.replies) :
    Mute loop after := by
  refine ⟨replies, ?_⟩
  rw [idle]
  rfl

theorem mute_stop (cause : Option Error) (farewell : Option CloseReason) :
    Mute loop (loop.stop ⟨cause, farewell, none⟩) := by
  cases farewell with
  | none => exact ⟨List.append_nil _, rfl⟩
  | some reason => exact ⟨rfl, rfl⟩

theorem mute_reported (error : ProtocolError) (idle : loop.phase = .idle)
    (reported : Reported error loop after) : Mute loop after := by
  cases reported with
  | fatal => exact mute_stop loop _ _
  | passed => exact mute_of_idle loop _ idle rfl

theorem mute_noted (event : Event) (idle : loop.phase = .idle) (noted : Noted loop event after) :
    Mute loop after := by
  cases noted with
  | problem error after reported => exact mute_reported loop after error idle reported
  | signal | signalAgain | input | output => exact mute_of_idle loop _ idle rfl

theorem mute_heard (now : Instant) (frame : Frame) (idle : loop.phase = .idle)
    (heard : Heard now loop frame after) : Mute loop after := by
  cases heard with
  | silent | opened | answered => exact mute_of_idle loop _ idle rfl
  | asked | acknowledged => exact ⟨rfl, rfl⟩
  | joined ns data after read joined =>
      cases joined with
      | again | waiting | assumed | delayed => exact mute_of_idle loop _ idle rfl
  | refused => exact mute_stop loop _ _
  | noted ns ackId name args after read unasked noted => exact mute_noted loop after _ idle noted
  | reported error after malformed noEvent reported =>
      exact mute_reported loop after error idle reported

theorem mute_ticked (now : Instant) (tick : Tick) (idle : loop.phase = .idle)
    (ticked : Ticked now loop tick after) : Mute loop after := by
  cases ticked with
  | stale | pingAlone | assumed | assumedAgain => exact mute_of_idle loop _ idle rfl
  | ping => exact ⟨rfl, rfl⟩
  | pong =>
      have mute := mute_stop { loop with pongTimer := { loop.pongTimer with current := none } }
      exact ⟨(mute _ _).replies, (mute _ _).waiting⟩

theorem replies_seen : loop.seen.replies = loop.replies := by
  rw [seen]
  split <;> rfl

theorem waiting_of_errand (errand : Errand) (writing : loop.phase.errand? = some errand) :
    loop.phase.waiting? = errand.ticket? := by
  cases phase : loop.phase with
  | sending frame flush other | flushing other =>
      rw [phase] at writing
      cases writing
      rfl
  | idle | closing | ended => simp [phase, Phase.errand?] at writing

theorem waiting_of_concluding (errand : Errand) (concluding : loop.Concluding errand) :
    loop.phase.waiting? = errand.ticket? :=
  waiting_of_errand loop errand (errand?_of_concluding errand loop concluding)

end Mute

end Loop

namespace System

/-- What a move does to those who wait for an answer. -/
inductive Booked (system : System) (move : Move) (after : Loop) : Prop
  | kept (untold : (system.executed? move).bind Command.ticket? = none)
      (replies : after.replies = system.loop.replies)
      (waiting : after.phase.waiting? = system.loop.phase.waiting?)
  | taken (ticket : Ticket) (told : (system.executed? move).bind Command.ticket? = some ticket)
      (free : system.loop.phase.waiting? = none) (replies : after.replies = system.loop.replies)
      (waiting : after.phase.waiting? = some ticket)
  | answered (ticket : Ticket) (result : Except Error Unit)
      (untold : (system.executed? move).bind Command.ticket? = none)
      (waited : system.loop.phase.waiting? = some ticket)
      (replies : after.replies = system.loop.replies ++ [(ticket, result)])
      (free : after.phase.waiting? = none)
      (fine : after.isStopped = false → result = .ok ())

theorem booked_of_mute (system : System) (move : Move) (between after : Loop)
    (untold : (system.executed? move).bind Command.ticket? = none)
    (free : system.loop.phase.waiting? = none) (replies : between.replies = system.loop.replies)
    (mute : Loop.Mute between after) : Booked system move after :=
  .kept untold (mute.replies.trans replies) (mute.waiting.trans free.symm)

theorem booked_of_stimulus (system : System) (move : Move) (stimulus : Stimulus) (after : Loop)
    (idle : system.loop.phase = .idle) (taken : system.stimulus? move = some stimulus)
    (reacted : Loop.Reacted system.now system.loop stimulus after) : Booked system move after := by
  have free : system.loop.phase.waiting? = none := by rw [idle]; rfl
  have told : (system.executed? move).bind Command.ticket? =
      stimulus.command?.bind Command.ticket? := by simp [executed?, taken]
  cases reacted with
  | frame frame after notClose heard =>
      exact booked_of_mute system move _ after told free system.loop.replies_seen
        (Loop.mute_heard _ after _ frame (system.loop.phase_seen.trans idle) heard)
  | tick tick after ticked =>
      exact booked_of_mute system move _ after told free rfl
        (Loop.mute_ticked _ after _ tick idle ticked)
  | deadlinePassed => exact .kept told rfl rfl
  | send frame flush ticket => exact .taken ticket told free rfl rfl
  | close reason ticket => exact .taken ticket told free rfl rfl
  | cancel | failure | abandoned | deadline =>
      exact booked_of_mute system move _ _ told free rfl (Loop.mute_stop system.loop _ _)
  | earlyEnd stimulus remote | pendingEnd stimulus remote | orderlyEnd stimulus remote =>
      have uncommanded : stimulus.command? = none := by
        cases stimulus with
        | command => cases remote
        | frame | failure | ended | abandoned | tick | deadline => rfl
      rw [uncommanded] at told
      exact booked_of_mute system move _ _ told free rfl (Loop.mute_stop system.loop _ _)

theorem booked_of_answer (system : System) (result : Except Error Unit) (after : Loop)
    (resumed : Loop.Resumed system.now system.loop result after) :
    Booked system (.answer result) after := by
  have untold : (system.executed? (.answer result)).bind Command.ticket? = none := by
    simp [executed?, stimulus?, offer?]
  cases resumed with
  | sent frame errand sending =>
      refine .kept untold rfl ?_
      rw [sending]
      rfl
  | answeredPing concluding | pinged beat limit concluding | pingedAgain beat limit concluding =>
      exact .kept untold rfl (Loop.waiting_of_concluding _ _ concluding).symm
  | acknowledged packet after concluding noted =>
      exact booked_of_mute system _ { system.loop with phase := .idle } after untold
        (Loop.waiting_of_concluding _ _ concluding) rfl
        (Loop.mute_noted _ after _ rfl noted)
  | served ticket concluding =>
      exact .answered ticket (.ok ()) untold
        (Loop.waiting_of_concluding _ _ concluding) rfl rfl fun _ => rfl
  | requestFailed error ticket writing =>
      have mute := Loop.mute_stop (system.loop.reply ticket (.error error)) (some error) none
      refine .answered ticket (.error error) untold (Loop.waiting_of_errand _ _ writing)
        mute.replies mute.waiting ?_
      intro running
      cases running
  | failed error errand writing unasked =>
      refine booked_of_mute system _ system.loop _ untold ?_ rfl (Loop.mute_stop system.loop _ _)
      rw [Loop.waiting_of_errand _ _ writing]
      cases errand with
      | request ticket => exact absurd rfl (unasked ticket)
      | answerPing | acknowledge | heartbeat => rfl
  | closed reason exit result closing =>
      have waiting : system.loop.phase.waiting? = exit.ticket := by rw [closing]; rfl
      cases asked : exit.ticket with
      | none =>
          refine .kept untold ?_ ?_
          · simp [Loop.finish, asked]
          · rw [waiting, asked]
            rfl
      | some ticket =>
          refine .answered ticket (.ok ()) untold (waiting.trans asked) ?_ rfl fun _ => rfl
          simp [Loop.finish, asked]
  | unmoved => exact .kept untold rfl rfl

theorem booked_step (system : System) (move : Move) :
    Booked system move (system.step move).loop := by
  have untold : system.stimulus? move = none →
      (system.executed? move).bind Command.ticket? = none := by
    intro untaken
    simp [executed?, untaken]
  have stepped := step_stepped system move
  generalize (system.step move).loop = after at stepped ⊢
  cases stepped with
  | took move stimulus after taken reacted =>
      have idle := ((stimulus?_eq_some_iff system move stimulus).mp taken).1
      exact booked_of_stimulus system move stimulus after idle taken reacted
  | fired kind =>
      refine .kept (untold (by simp [stimulus?, offer?])) ?_ ?_
      · cases kind <;> rfl
      · rw [Loop.phase_setSlot]
  | answered result after resumed => exact booked_of_answer system result after resumed
  | expired beat limit writing =>
      exact booked_of_mute system _ system.loop _ (untold (by simp [stimulus?, offer?]))
        (Loop.waiting_of_errand _ _ writing) rfl (Loop.mute_stop system.loop _ _)
  | still move untaken => exact .kept (untold untaken) rfl rfl

end System

/-- Who was answered, and who waits. -/
def Loop.tickets (loop : Loop) : List Ticket :=
  loop.replies.map Prod.fst ++ loop.phase.waiting?.toList

namespace System

theorem tickets_step (system : System) (move : Move) :
    (system.step move).loop.tickets =
      system.loop.tickets ++ ((system.executed? move).bind Command.ticket?).toList := by
  cases booked_step system move with
  | kept untold replies waiting => simp [Loop.tickets, untold, replies, waiting]
  | taken ticket told free replies waiting => simp [Loop.tickets, told, free, replies, waiting]
  | answered ticket result untold waited replies free =>
      simp [Loop.tickets, untold, waited, replies, free]

/-- Those who were answered or wait are those whose commands were taken, in the same order. -/
theorem tickets_run (options : ConnectOptions) (moves : List Move) :
    ((start options).run moves).loop.tickets =
      ((start options).executed moves).filterMap Command.ticket? := by
  induction moves using List.reverseRecOn with
  | nil => rfl
  | append_singleton moves last ih =>
      rw [executed_append, List.filterMap_append, run_append, tickets_step, ih]
      cases executed : ((start options).run moves).executed? last with
      | none => rfl
      | some command => cases told : command.ticket? <;> simp [told]

/-- Answers are not taken back. -/
theorem replies_run (system : System) (moves : List Move) :
    system.loop.replies <+: (system.run moves).loop.replies := by
  refine run_invariant (fun later => system.loop.replies <+: later.loop.replies) system moves
    (List.prefix_refl _) ?_
  intro later move before
  cases booked_step later move with
  | kept untold replies | taken ticket told free replies =>
      rw [replies]
      exact before
  | answered ticket result untold waited replies =>
      rw [replies]
      exact before.trans (List.prefix_append _ _)

theorem isSend_of_running (system : System) (move : Move) (command : Command)
    (taken : system.stimulus? move = some (.command command))
    (running : (system.step move).loop.isStopped = false) : command.isSend = true := by
  rw [step_of_taken system move _ taken] at running
  cases command with
  | send => rfl
  | close reason ticket =>
      cases running.symm.trans (Loop.isStopped_stop ⟨none, some reason, some ticket⟩ system.loop)
  | cancel cause =>
      cases running.symm.trans (Loop.isStopped_fail cause (some .goingAway) system.loop)

/-- As long as the loop runs it has taken requests to send only, and nobody was disappointed. -/
theorem fine_run (options : ConnectOptions) (moves : List Move)
    (running : ((start options).run moves).loop.isStopped = false) :
    (∀ command ∈ (start options).executed moves, command.isSend = true) ∧
      ∀ reply ∈ ((start options).run moves).loop.replies, reply.2 = .ok () := by
  induction moves using List.reverseRecOn with
  | nil => exact ⟨by simp [executed, handled, history], by simp [run, start, Loop.start]⟩
  | append_singleton moves last ih =>
      rw [run_append] at running ⊢
      obtain ⟨sends, fine⟩ := ih (running_of_step _ last (Loop.coherent_run options moves) running)
      constructor
      · intro command member
        rw [executed_append] at member
        rcases List.mem_append.mp member with before | now
        · exact sends command before
        · have taken := command_of_executed? _ last command (Option.mem_toList.mp now)
          exact isSend_of_running _ last command taken running
      · intro reply member
        cases booked_step ((start options).run moves) last with
        | kept untold replies | taken ticket told free replies =>
            rw [replies] at member
            exact fine reply member
        | answered ticket result untold waited replies free good =>
            rw [replies] at member
            rcases List.mem_append.mp member with before | now
            · exact fine reply before
            · rw [List.mem_singleton.mp now]
              exact good running

/-! ## How a request is answered -/

/-- What a move does to a request that is being written. -/
inductive Pursued (system : System) (ticket : Ticket) (move : Move) : Prop
  | waits (silent : system.exchange? move = none)
      (phase : (system.step move).loop.phase = system.loop.phase)
      (replies : (system.step move).loop.replies = system.loop.replies)
  | goesOn (call : Call) (rest : List Call) (asked : system.loop.phase.remaining = call :: rest)
      (succeeded : system.exchange? move = some (call, .ok ()))
      (writing : (system.step move).loop.phase.errand? = some (.request ticket))
      (left : (system.step move).loop.phase.remaining = rest)
      (replies : (system.step move).loop.replies = system.loop.replies)
  | ends (call : Call) (rest : List Call) (result : Except Error Unit)
      (asked : system.loop.phase.remaining = call :: rest)
      (answered : system.exchange? move = some (call, result))
      (last : result = .ok () → rest = [])
      (replies : (system.step move).loop.replies = system.loop.replies ++ [(ticket, result)])

theorem pursued_of_answer (system : System) (ticket : Ticket) (result : Except Error Unit)
    (writing : system.loop.phase.errand? = some (.request ticket)) :
    Pursued system ticket (.answer result) := by
  cases result with
  | error error =>
      have failed := Loop.resume_of_failed system.now error _ system.loop writing
      have replies : (system.step (.answer (.error error))).loop.replies =
          system.loop.replies ++ [(ticket, .error error)] := by
        rw [step, failed]
        exact (Loop.mute_stop (system.loop.reply ticket (.error error)) (some error) none).replies
      cases phase : system.loop.phase with
      | sending frame flush errand =>
          exact .ends (.send frame) _ _ (by rw [phase]; rfl)
            (by simp [exchange?, phase, Phase.call?]) (by simp) replies
      | flushing errand =>
          exact .ends .flush _ _ (by rw [phase]; rfl) (by simp [exchange?, phase, Phase.call?])
            (by simp) replies
      | idle | closing | ended => simp [phase, Phase.errand?] at writing
  | ok =>
      cases phase : system.loop.phase with
      | sending frame flush errand =>
          rw [phase] at writing
          cases writing
          have answered : system.exchange? (.answer (.ok ())) = some (.send frame, .ok ()) := by
            simp [exchange?, phase, Phase.call?]
          cases flush with
          | true =>
              refine .goesOn (.send frame) [.flush] (by rw [phase]; rfl) answered ?_ ?_ ?_ <;>
                simp only [step, Loop.resume, phase] <;> rfl
          | false =>
              refine .ends (.send frame) [] _ (by rw [phase]; rfl) answered (fun _ => rfl) ?_
              simp only [step, Loop.resume, phase]
              rfl
      | flushing errand =>
          rw [phase] at writing
          cases writing
          refine .ends .flush [] (.ok ()) (by rw [phase]; rfl)
            (by simp [exchange?, phase, Phase.call?]) (fun _ => rfl) ?_
          simp only [step, Loop.resume, phase]
          rfl
      | idle | closing | ended => simp [phase, Phase.errand?] at writing

theorem pursued_step (system : System) (ticket : Ticket) (move : Move)
    (writing : system.loop.phase.errand? = some (.request ticket)) :
    Pursued system ticket move := by
  have stepped := step_stepped system move
  generalize same : (system.step move).loop = after at stepped
  cases stepped with
  | took move stimulus after taken reacted =>
      have idle := ((stimulus?_eq_some_iff system move stimulus).mp taken).1
      rw [idle] at writing
      cases writing
  | fired kind =>
      refine .waits rfl ?_ ?_
      · rw [same, Loop.phase_setSlot]
      · rw [same]
        cases kind <;> rfl
  | answered result after resumed => exact pursued_of_answer system ticket result writing
  | expired beat limit other => cases writing.symm.trans other
  | still move untaken unanswered =>
      exact .waits (exchange?_of_noAnswer system move unanswered) (by rw [same]) (by rw [same])

/-- A request is answered with what comes of its calls, as soon as that is known. -/
theorem pursued_run (system : System) (ticket : Ticket) (moves : List Move)
    (writing : system.loop.phase.errand? = some (.request ticket)) :
    (concluded system.loop.phase.remaining (system.dialogue moves) = none ∧
        (system.run moves).loop.phase.errand? = some (.request ticket) ∧
        (system.run moves).loop.replies = system.loop.replies) ∨
      ∃ result, concluded system.loop.phase.remaining (system.dialogue moves) = some result ∧
        system.loop.replies ++ [(ticket, result)] <+: (system.run moves).loop.replies := by
  induction moves generalizing system with
  | nil =>
      refine Or.inl ⟨?_, writing, rfl⟩
      cases phase : system.loop.phase with
      | sending | flushing => rfl
      | idle | closing | ended => simp [phase, Phase.errand?] at writing
  | cons move later ih =>
      have talk : system.dialogue (move :: later) =
          (system.exchange? move).toList ++ (system.step move).dialogue later := rfl
      rw [talk]
      -- A call that succeeds leaves the same question for the calls that are left.
      cases pursued_step system ticket move writing with
      | waits silent phase replies =>
          have rest := ih (system.step move) (by rw [phase]; exact writing)
          rw [phase, replies] at rest
          rw [silent]
          exact rest
      | goesOn call rest asked succeeded writingStill left replies =>
          have remainder := ih (system.step move) writingStill
          rw [left, replies] at remainder
          have further : concluded (call :: rest)
              ((call, .ok ()) :: (system.step move).dialogue later) =
                concluded rest ((system.step move).dialogue later) := by simp [concluded]
          rw [succeeded, asked, Option.toList_some, List.singleton_append, further]
          exact remainder
      | ends call rest result asked answered last replies =>
          refine Or.inr ⟨result, ?_, ?_⟩
          · rw [answered, asked]
            cases result with
            | error error => simp [concluded]
            | ok => simp [concluded, last rfl]
          · rw [← replies]
            exact replies_run (system.step move) later

/-- The tickets of the commands that were given to the loop. -/
def requested (system : System) (moves : List Move) : List Ticket :=
  (system.enqueued moves).filterMap Command.ticket?

theorem requested_append (system : System) (moves later : List Move) :
    system.requested moves <+: system.requested (moves ++ later) := by
  rw [requested, requested, enqueued, enqueued, history_append, List.filterMap_append]
  exact List.prefix_append _ _

/-- The tickets of what was taken come before those of what waits. -/
theorem requested_eq (options : ConnectOptions) (moves : List Move) :
    (start options).requested moves =
      ((start options).run moves).loop.tickets ++
        ((start options).run moves).commands.filterMap Command.ticket? := by
  rw [requested, ← queue_run, List.filterMap_append, tickets_run]

theorem lookup_of_unanswered (replies : List (Ticket × Except Error Unit)) (ticket : Ticket)
    (unanswered : ticket ∉ replies.map Prod.fst) : replies.lookup ticket = none := by
  rw [List.lookup_eq_none_iff]
  intro reply member
  rw [bne_iff_ne]
  rintro rfl
  exact unanswered (List.mem_map_of_mem member)

theorem result_of_unanswered (system : System) (ticket : Ticket)
    (unanswered : ticket ∉ system.loop.replies.map Prod.fst) :
    system.result? ticket =
      if system.loop.isEnded then some (.error .connectionClosed) else none := by
  rw [result?, lookup_of_unanswered _ ticket unanswered]

theorem result_of_answered (system : System) (ticket : Ticket) (result : Except Error Unit)
    (earlier : List (Ticket × Except Error Unit)) (fresh : ticket ∉ earlier.map Prod.fst)
    (answered : earlier ++ [(ticket, result)] <+: system.loop.replies) :
    system.result? ticket = some result := by
  obtain ⟨more, split⟩ := answered
  have found : system.loop.replies.lookup ticket = some result := by
    rw [← split, List.lookup_append, List.lookup_append, lookup_of_unanswered earlier ticket fresh]
    simp
  rw [result?, found]

/-- The ticket of a command that is taken was not seen before. -/
theorem fresh_of_distinct (options : ConnectOptions) (before later : List Move) (move : Move)
    (command : Command) (ticket : Ticket)
    (taken : ((start options).run before).stimulus? move = some (.command command))
    (asked : command.ticket? = some ticket)
    (distinct : ((start options).requested (before ++ move :: later)).Nodup) :
    ticket ∉ ((start options).run before).loop.replies.map Prod.fst := by
  obtain ⟨_, idle, rest, commands⟩ := front_of_taken _ move command taken
  have split := requested_eq options before
  have free : ((start options).run before).loop.phase.waiting? = none := by
    rw [(Loop.isIdle_iff _).mp idle]
    rfl
  -- The ticket is the first of those that wait in the queue, so it was not answered.
  rw [Loop.tickets, free, commands, List.filterMap_cons, asked] at split
  have distinctBefore := (requested_append (start options) before (move :: later)).sublist.nodup
    distinct
  rw [split] at distinctBefore
  obtain ⟨_, _, apart⟩ := List.nodup_append.mp distinctBefore
  intro answered
  exact apart ticket (by simpa using answered) ticket List.mem_cons_self rfl

/-- The reply to a request is what comes of its calls, and follows those that were there before. -/
theorem reply_of_request (options : ConnectOptions) (moves later : List Move) (move : Move)
    (frame : Frame) (flush : Bool) (ticket : Ticket)
    (taken : ((start options).run moves).stimulus? move =
      some (.command (.send frame flush ticket))) :
    (concluded (Order.calls ⟨frame, flush⟩)
          (((start options).run (moves ++ [move])).dialogue later) = none ∧
        ((start options).run (moves ++ move :: later)).loop.isEnded = false ∧
        ((start options).run (moves ++ move :: later)).loop.replies =
          ((start options).run moves).loop.replies) ∨
      ∃ result,
        concluded (Order.calls ⟨frame, flush⟩)
            (((start options).run (moves ++ [move])).dialogue later) = some result ∧
          ((start options).run moves).loop.replies ++ [(ticket, result)] <+:
            ((start options).run (moves ++ move :: later)).loop.replies := by
  have written : ((start options).run (moves ++ [move])).loop =
      ((start options).run moves).loop.write frame flush (.request ticket) := by
    rw [run_append]
    exact step_of_taken _ move _ taken
  have pursued := pursued_run ((start options).run (moves ++ [move])) ticket later
    (by rw [written]; rfl)
  rw [← run_append_run, List.append_assoc, List.singleton_append, written] at pursued
  rcases pursued with ⟨unknown, still, same⟩ | answered
  · refine Or.inl ⟨unknown, ?_, same⟩
    cases phase : ((start options).run (moves ++ move :: later)).loop.phase with
    | ended =>
        rw [phase] at still
        cases still
    | idle | sending | flushing | closing => simp [Loop.isEnded, phase]
  · exact Or.inr answered

theorem getElem?_reply (options : ConnectOptions) (moves later : List Move) (move : Move)
    (frame : Frame) (flush : Bool) (ticket : Ticket)
    (taken : ((start options).run moves).stimulus? move =
      some (.command (.send frame flush ticket))) :
    ((start options).run (moves ++ move :: later)).loop.replies[
        ((start options).run moves).loop.replies.length]? =
      (concluded (Order.calls ⟨frame, flush⟩)
        (((start options).run (moves ++ [move])).dialogue later)).map (ticket, ·) := by
  rcases reply_of_request options moves later move frame flush ticket taken with
    ⟨unknown, _, same⟩ | ⟨result, known, more, split⟩
  · rw [unknown, same]
    exact List.getElem?_eq_none (Nat.le_refl _)
  · rw [known, ← split]
    simp

theorem result_of_request (options : ConnectOptions) (moves later : List Move) (move : Move)
    (frame : Frame) (flush : Bool) (ticket : Ticket)
    (taken : ((start options).run moves).stimulus? move =
      some (.command (.send frame flush ticket)))
    (distinct : ((start options).requested (moves ++ move :: later)).Nodup) :
    ((start options).run (moves ++ move :: later)).result? ticket =
      concluded (Order.calls ⟨frame, flush⟩)
        (((start options).run (moves ++ [move])).dialogue later) := by
  have fresh := fresh_of_distinct options moves later move _ ticket taken rfl distinct
  rcases reply_of_request options moves later move frame flush ticket taken with
    ⟨unknown, running, same⟩ | ⟨result, known, answered⟩
  · rw [unknown, result_of_unanswered _ ticket (by rw [same]; exact fresh), running]
    rfl
  · rw [known]
    exact result_of_answered _ ticket result _ fresh answered

/-- A command that was not taken fails when the loop has ended. -/
theorem result_of_queued (options : ConnectOptions) (moves : List Move) (command : Command)
    (ticket : Ticket) (ended : ((start options).run moves).loop.isEnded = true)
    (queued : command ∈ ((start options).run moves).commands)
    (asked : command.ticket? = some ticket)
    (distinct : ((start options).requested moves).Nodup) :
    ((start options).run moves).result? ticket = some (.error .connectionClosed) := by
  rw [requested_eq] at distinct
  obtain ⟨_, _, apart⟩ := List.nodup_append.mp distinct
  have unanswered : ticket ∉ ((start options).run moves).loop.replies.map Prod.fst := by
    intro answered
    exact apart ticket (List.mem_append_left _ answered) ticket
      (List.mem_filterMap.mpr ⟨command, queued, asked⟩) rfl
  rw [result_of_unanswered _ ticket unanswered, ended]
  rfl

/-- A result stays. -/
theorem result_run (options : ConnectOptions) (moves later : List Move) (ticket : Ticket)
    (result : Except Error Unit)
    (known : ((start options).run moves).result? ticket = some result) :
    ((start options).run (moves ++ later)).result? ticket = some result := by
  rw [run_append_run]
  rw [result?] at known ⊢
  cases found : ((start options).run moves).loop.replies.lookup ticket with
  | some answered =>
      obtain ⟨more, split⟩ := replies_run ((start options).run moves) later
      rw [found] at known
      rw [← split, List.lookup_append, found]
      exact known
  | none =>
      rw [found] at known
      cases ended : ((start options).run moves).loop.isEnded with
      | true =>
          rw [ended_run _ later (Loop.coherent_run options moves) ended, found]
          exact known
      | false =>
          rw [ended] at known
          cases known

/-! ## Frames -/

theorem frames_of_orders (orders : List Order) :
    (orders.flatMap Order.calls).filterMap Call.frame? = orders.map Order.frame := by
  induction orders with
  | nil => rfl
  | cons order rest ih =>
      obtain ⟨frame, flush⟩ := order
      rw [List.flatMap_cons, List.filterMap_append, ih]
      cases flush <;> rfl

/-- Each order has its frame handed over, and no frame is handed over otherwise. -/
theorem frames_eq (options : ConnectOptions) (moves : List Move) :
    ((start options).run moves).loop.calls.filterMap Call.frame? =
      ((start options).orders moves).map Order.frame := by
  have served := served_run options moves
  obtain ⟨farewell, calls, _⟩ := calls_of_served _ _ _ served
  -- Neither the close nor what was left out hands a frame over.
  have unframed : ((farewell.map Call.close).toList).filterMap Call.frame? = [] := by
    cases farewell <;> rfl
  have rest : (((start options).asked moves).drop
      ((start options).succeeded moves + 1)).filterMap Call.frame? = [] := by
    rcases served.unmade with nothing | flush
    · rw [nothing]
      rfl
    · rw [flush]
      rfl
  rw [calls, List.filterMap_append, unframed, List.append_nil, ← frames_of_orders]
  have whole := List.take_append_drop ((start options).succeeded moves + 1)
    ((start options).asked moves)
  have frames := congrArg (List.filterMap Call.frame?) whole
  rw [List.filterMap_append, rest, List.append_nil] at frames
  exact frames

/-! ## Failures -/

/-- What is left behind when a request has failed. -/
structure Broken (error : Error) (ticket : Ticket) (before after : Loop) : Prop where
  replies : after.replies = before.replies ++ [(ticket, .error error)]
  ended : after.isEnded = true
  closing : after.output.closing = some (some error)
  lifecycle : after.lifecycle = .failed
  readiness : after.readiness = before.readiness.complete (.error error)
  calls : after.calls = before.calls

/-- A failed write is the end, whatever was to be written. -/
theorem failed_run (options : ConnectOptions) (before later : List Move) (error : Error)
    (errand : Errand)
    (writing : ((start options).run before).loop.phase.errand? = some errand) :
    ((start options).run (before ++ .answer (.error error) :: later)).loop =
      ((start options).run before).loop.onWriteFailed error errand := by
  have coherent := Loop.coherent_run options before
  have failed : (((start options).run before).step (.answer (.error error))).loop =
      ((start options).run before).loop.onWriteFailed error errand :=
    Loop.resume_of_failed _ error _ _ writing
  have ended :
      (((start options).run before).step (.answer (.error error))).loop.isEnded = true := by
    rw [failed]
    cases errand <;> rfl
  rw [run_append_cons, ← failed]
  exact ended_run _ later (Loop.coherent_stepped _ _ _ coherent (step_stepped _ _)) ended

theorem broken_of_failed (options : ConnectOptions) (before later : List Move) (error : Error)
    (ticket : Ticket)
    (writing : ((start options).run before).loop.phase.errand? = some (.request ticket)) :
    Broken error ticket ((start options).run before).loop
      ((start options).run (before ++ .answer (.error error) :: later)).loop := by
  have coherent := Loop.coherent_run options before
  have unclosed := (coherent.running (Loop.isStopped_of_errand _ _ writing)).unclosed
  rw [failed_run options before later error _ writing]
  exact ⟨List.append_nil _, rfl, Loop.close_closing (some error) _ unclosed, rfl, rfl, rfl⟩

/-! ## The queue at a stop -/

/-- When the loop takes something, all it has taken were requests to send, and all succeeded. -/
theorem settled_of_taken (options : ConnectOptions) (moves : List Move) (move : Move)
    (stimulus : Stimulus)
    (taken : ((start options).run moves).stimulus? move = some stimulus) :
    (∀ command ∈ (start options).executed moves, command.isSend = true) ∧
      ((start options).run moves).loop.replies =
        (((start options).executed moves).filterMap Command.ticket?).map (·, .ok ()) := by
  have idle := ((stimulus?_eq_some_iff _ move stimulus).mp taken).1
  have free : ((start options).run moves).loop.phase.waiting? = none := by
    rw [idle]
    rfl
  obtain ⟨sends, fine⟩ := fine_run options moves (running_of_taken _ move stimulus taken)
  refine ⟨sends, ?_⟩
  -- Nobody waits, so the tickets are those of the replies, which all tell of success.
  rw [← tickets_run, Loop.tickets, free, Option.toList_none, List.append_nil, List.map_map]
  refine ((List.map_congr_left fun reply member => ?_).trans (List.map_id _)).symm
  exact Prod.ext rfl (fine reply member).symm

theorem alone_of_abandoned (system : System) (move : Move)
    (taken : system.stimulus? move = some .abandoned) :
    system.handles = 0 ∧ system.commands = [] := by
  cases offers_of_taken system move _ taken with
  | arrival arrival stimulus same => cases arrival <;> cases same
  | abandoned unheld unasked => exact ⟨unheld, unasked⟩

theorem executed_of_stopped (options : ConnectOptions) (moves later : List Move)
    (stopped : ((start options).run moves).loop.isStopped = true) :
    (start options).executed (moves ++ later) = (start options).executed moves := by
  induction later using List.reverseRecOn with
  | nil => rw [List.append_nil]
  | append_singleton later last ih =>
      have still := (stopped_run _ later (Loop.coherent_run options moves) stopped).stopped
      rw [← run_append_run] at still
      have untaken : ((start options).run (moves ++ later)).executed? last = none := by
        rw [executed?, untaken_of_stopped _ last still]
        rfl
      rw [← List.append_assoc, executed_append, untaken, ih]
      exact List.append_nil _

/-- Commands are taken in the order in which they were given, and a command to send has its frame
handed over when it is taken, once.  Who asked for it is answered once: with success exactly if the
send has succeeded, and the flush if it was wanted; with the error of the call that has failed,
which also ends the connection, and nothing is asked of the transport after it.  A command that
stops the loop comes after all that were given before.  What is not taken before the end is never
sent, and fails.  An event that cannot be written is refused without a trace. -/
theorem requests_in_order (options : ConnectOptions) (moves : List Move) :
    (start options).executed moves ++ ((start options).run moves).commands =
        (start options).enqueued moves ∧
      ((start options).run moves).loop.calls.filterMap Call.frame? =
        ((start options).orders moves).map Order.frame ∧
      ((start options).run moves).loop.replies.map Prod.fst <+:
        ((start options).executed moves).filterMap Command.ticket? ∧
      (∀ move later frame flush ticket,
        ((start options).run moves).stimulus? move =
          some (.command (.send frame flush ticket)) →
        ((start options).run (moves ++ [move])).loop.calls =
            ((start options).run moves).loop.calls ++ [.send frame] ∧
          (((start options).run (moves ++ move :: later)).loop.replies[
                ((start options).run moves).loop.replies.length]? = some (ticket, .ok ()) ↔
              (Order.calls ⟨frame, flush⟩).map (·, .ok ()) <+:
                ((start options).run (moves ++ [move])).dialogue later) ∧
          (∀ error,
            ((start options).run (moves ++ move :: later)).loop.replies[
                  ((start options).run moves).loop.replies.length]? =
                some (ticket, .error error) ↔
              [(.send frame, .error error)] <+:
                  ((start options).run (moves ++ [move])).dialogue later ∨
                flush = true ∧ [(.send frame, .ok ()), (.flush, .error error)] <+:
                  ((start options).run (moves ++ [move])).dialogue later) ∧
          (((start options).requested (moves ++ move :: later)).Nodup →
            ((start options).run (moves ++ move :: later)).result? ticket =
              ((start options).run (moves ++ move :: later)).loop.replies[
                ((start options).run moves).loop.replies.length]?.map Prod.snd)) ∧
      (∀ error ticket later,
        ((start options).run moves).loop.phase.errand? = some (.request ticket) →
        Broken error ticket ((start options).run moves).loop
          ((start options).run (moves ++ .answer (.error error) :: later)).loop) ∧
      (∀ move stimulus, ((start options).run moves).stimulus? move = some stimulus →
        (∀ command ∈ (start options).executed moves, command.isSend = true) ∧
          ((start options).run moves).loop.replies =
            (((start options).executed moves).filterMap Command.ticket?).map (·, .ok ()) ∧
          (∀ command, stimulus = .command command →
            ∃ rest, (start options).enqueued moves =
              (start options).executed moves ++ command :: rest) ∧
          (stimulus = .abandoned → ((start options).run moves).handles = 0 ∧
            (start options).enqueued moves = (start options).executed moves)) ∧
      (((start options).run moves).loop.isStopped = true →
        ∀ later, (start options).executed (moves ++ later) = (start options).executed moves) ∧
      (((start options).run moves).loop.isEnded = true →
        (∀ command, ((start options).run moves).step (.submit command) =
          (start options).run moves) ∧
        ((start options).run moves).loop.replies.map Prod.fst =
            ((start options).executed moves).filterMap Command.ticket? ∧
        (∀ ticket, ∃ result, ((start options).run moves).result? ticket = some result) ∧
        (((start options).requested moves).Nodup →
          ∀ command ∈ ((start options).run moves).commands, ∀ ticket,
            command.ticket? = some ticket →
            ((start options).run moves).result? ticket = some (.error .connectionClosed))) ∧
      (∀ ticket result, ((start options).run moves).result? ticket = some result →
        ∀ later, ((start options).run (moves ++ later)).result? ticket = some result) ∧
      ∀ (scenario : Scenario) (flush : Bool),
        (∀ error, Scenario.startWork (.send (.protocolError error) flush)
            (scenario.move .acquire) =
          (.done (.sent (.error (.unsupported "protocol errors cannot be encoded"))),
            scenario)) ∧
        ∀ event frame, event.toFrame = .ok frame →
          (scenario.system.loop.isEnded = true →
            Scenario.startWork (.send event flush) (scenario.move .acquire) =
              (.done (.sent (.error .connectionClosed)), scenario)) ∧
          (scenario.system.loop.isEnded = false →
            Scenario.startWork (.send event flush) scenario =
              (.awaitSent scenario.nextTicket,
                { scenario with nextTicket := scenario.nextTicket + 1 }.move
                  (.submit (.send frame flush scenario.nextTicket)))) := by
  refine ⟨queue_run options moves, frames_eq options moves, ?_, ?_, ?_, ?_,
    fun stopped later => executed_of_stopped options moves later stopped, ?_,
    fun ticket result known later => result_run options moves later ticket result known, ?_⟩
  · rw [← tickets_run]
    exact List.prefix_append _ _
  · intro move later frame flush ticket taken
    have reply := getElem?_reply options moves later move frame flush ticket taken
    refine ⟨?_, ?_, ?_, ?_⟩
    · rw [run_append, step_of_taken _ move _ taken]
      rfl
    · rw [reply, ← concluded_ok_iff]
      simp
    · intro error
      rw [reply, ← concluded_error_iff]
      simp
    · intro distinct
      rw [reply, result_of_request options moves later move frame flush ticket taken distinct]
      simp [Option.map_map, Function.comp_def]
  · intro error ticket later writing
    exact broken_of_failed options moves later error ticket writing
  · intro move stimulus taken
    obtain ⟨sends, replies⟩ := settled_of_taken options moves move stimulus taken
    refine ⟨sends, replies, ?_, ?_⟩
    · rintro command rfl
      obtain ⟨_, _, rest, commands⟩ := front_of_taken _ move command taken
      exact ⟨rest, by rw [← queue_run, commands]⟩
    · rintro rfl
      obtain ⟨handles, commands⟩ := alone_of_abandoned _ move taken
      exact ⟨handles, by rw [← queue_run, commands, List.append_nil]⟩
  · intro ended
    refine ⟨?_, ?_, ?_, ?_⟩
    · intro command
      simp [step, ended]
    · rw [← tickets_run, Loop.tickets, (Loop.isEnded_iff _).mp ended]
      exact (List.append_nil _).symm
    · intro ticket
      rw [result?]
      cases ((start options).run moves).loop.replies.lookup ticket with
      | some result => exact ⟨result, rfl⟩
      | none => exact ⟨_, if_pos ended⟩
    · intro distinct command queued ticket asked
      exact result_of_queued options moves command ticket ended queued asked distinct
  · intro scenario flush
    refine ⟨fun error => rfl, ?_⟩
    intro event frame written
    constructor
    · intro ended
      have endedToo : (scenario.move .acquire).system.loop.isEnded = true := ended
      simp only [Scenario.startWork, written, endedToo, if_true]
      rfl
    · intro running
      simp [Scenario.startWork, written, running]

/-- Two requests, of which the first is taken. -/
def twoRequests : List Move :=
  [.submit (.send (.text "a") true 0), .submit (.send (.text "b") false 1)]

/-- The first is sent but not flushed, and the second is too late. -/
theorem results_of_twoRequests :
    ((start .default).requested (twoRequests ++
          [.takeCommand, .answer (.ok ()), .answer (.error .earlyDisconnect)])).Nodup ∧
      ((start .default).run (twoRequests ++
          [.takeCommand, .answer (.ok ()), .answer (.error .earlyDisconnect)])).result? 0 =
        some (.error .earlyDisconnect) ∧
      ((start .default).run (twoRequests ++
          [.takeCommand, .answer (.ok ()), .answer (.error .earlyDisconnect)])).result? 1 =
        some (.error .connectionClosed) := by
  have distinct : ((start .default).requested (twoRequests ++
      [.takeCommand, .answer (.ok ()), .answer (.error .earlyDisconnect)])).Nodup := by decide
  obtain ⟨_, _, _, requests, _⟩ := requests_in_order .default twoRequests
  obtain ⟨_, _, failed, result⟩ := requests .takeCommand
    [.answer (.ok ()), .answer (.error .earlyDisconnect)] (.text "a") true 0 rfl
  have reply := (failed .earlyDisconnect).mpr (Or.inr ⟨rfl, List.prefix_refl _⟩)
  obtain ⟨_, _, _, _, _, _, _, afterwards, _⟩ := requests_in_order .default
    (twoRequests ++ [.takeCommand, .answer (.ok ()), .answer (.error .earlyDisconnect)])
  obtain ⟨_, _, _, tooLate⟩ := afterwards rfl
  refine ⟨distinct, ?_, tooLate distinct (.send (.text "b") false 1) List.mem_cons_self 1 rfl⟩
  rw [result distinct, reply]
  rfl

end System

end ChatSocket.Connection
