import ChatSocket.Proofs.Connection.Exits

/-!
# What is written, and for whom

A stimulus that the loop takes may order a frame to be sent, and perhaps a flush after it.
`calls_eq_orders` shows that the calls of a run are those that were ordered, in the order of the
stimuli, up to the first call that does not succeed; then comes one close at most.  Answering
pings and acknowledging events disturbs neither readiness nor a timer.
-/

set_option autoImplicit false

namespace ChatSocket.Connection

/-- A frame that is to be sent. -/
structure Order where
  frame : Frame
  /-- Whether the transport is to be flushed afterwards. -/
  flush : Bool
  deriving DecidableEq

def Order.calls (order : Order) : List Call :=
  .send order.frame :: if order.flush then [.flush] else []

/-- What a loop that takes the stimulus has to write: a ping when its time has come, the answer to
a ping, the acknowledgement of an event if it is to be given, what was asked for. -/
def Stimulus.order? (loop : Loop) : Stimulus → Option Order
  | .tick ⟨.ping, generation⟩ =>
      if loop.pingTimer.isLive generation then some ⟨.text "2probe", true⟩ else none
  | .frame received =>
      if Engine.Packet.decode? received = some .ping then some ⟨.text "3probe", true⟩
      else
        match received.socketPacket? with
        | some (.event ns (some ackId) _ _) =>
            if loop.options.acknowledge then
              (Socket.Packet.acknowledge ns ackId (some [])).toFrame.toOption.map (⟨·, false⟩)
            else none
        | _ => none
  | .command (.send asked flush _) => some ⟨asked, flush⟩
  | _ => none

/-- The calls that a writing loop has not finished, the one under way first. -/
def Phase.remaining : Phase → List Call
  | .sending frame flush _ => Order.calls ⟨frame, flush⟩
  | .flushing _ => [.flush]
  | .idle | .closing .. | .ended => []

/-- A call has succeeded, other than the close. -/
def wrote (exchange : Call × Except Error Unit) : Bool :=
  match exchange with
  | (.send _, .ok ()) | (.flush, .ok ()) => true
  | _ => false

namespace System

/-! ## Histories -/

/-- What the moves of a run show, one after the other. -/
def history {α : Type} (shown? : System → Move → Option α) (system : System) : List Move → List α
  | [] => []
  | move :: later => (shown? system move).toList ++ (system.step move).history shown? later

section History

variable {α : Type} (shown? : System → Move → Option α)

theorem history_append (system : System) (moves later : List Move) :
    system.history shown? (moves ++ later) =
      system.history shown? moves ++ (system.run moves).history shown? later := by
  induction moves generalizing system with
  | nil => rfl
  | cons move rest ih =>
      simp only [List.cons_append, history, List.append_assoc]
      rw [ih]
      rfl

theorem history_concat (system : System) (moves : List Move) (last : Move) :
    system.history shown? (moves ++ [last]) =
      system.history shown? moves ++ (shown? (system.run moves) last).toList := by
  rw [history_append]
  exact congrArg (system.history shown? moves ++ ·) (List.append_nil _)

theorem filterMap_history {β : Type} (kept? : α → Option β) (system : System)
    (moves : List Move) (last : Move) :
    (system.history shown? (moves ++ [last])).filterMap kept? =
      (system.history shown? moves).filterMap kept? ++
        ((shown? (system.run moves) last).bind kept?).toList := by
  rw [history_concat, List.filterMap_append]
  cases shown : shown? (system.run moves) last with
  | none => rfl
  | some item => cases kept : kept? item <;> simp [kept]

theorem mem_history (system : System) (moves : List Move) (shown : α)
    (member : shown ∈ system.history shown? moves) :
    ∃ before move later, moves = before ++ move :: later ∧
      shown? (system.run before) move = some shown := by
  induction moves generalizing system with
  | nil => cases member
  | cons move rest ih =>
      rcases List.mem_append.mp member with now | after
      · exact ⟨[], move, rest, rfl, Option.mem_toList.mp now⟩
      · obtain ⟨before, next, later, rfl, found⟩ := ih (system.step move) after
        exact ⟨move :: before, next, later, rfl, found⟩

end History

/-- The stimuli that the loop takes, each with the loop at that time. -/
def handled (system : System) (moves : List Move) : List (Loop × Stimulus) :=
  system.history
    (fun system move => (system.stimulus? move).map fun stimulus => (system.loop, stimulus)) moves

/-- What the loop has to write. -/
def orders (system : System) (moves : List Move) : List Order :=
  (system.handled moves).filterMap fun (loop, stimulus) => stimulus.order? loop

/-- The call that the transport answers at a move, with its answer. -/
def exchange? (system : System) : Move → Option (Call × Except Error Unit)
  | .answer result => system.loop.phase.call?.map (·, result)
  | _ => none

/-- The calls that the transport answers, with its answers. -/
def dialogue (system : System) (moves : List Move) : List (Call × Except Error Unit) :=
  system.history exchange? moves

/-- What the loop has to write because of a move. -/
def order? (system : System) (move : Move) : Option Order :=
  (system.stimulus? move).bind (Stimulus.order? system.loop)

theorem filterMap_handled {α : Type} (kept? : Loop × Stimulus → Option α) (system : System)
    (moves : List Move) (last : Move) :
    (system.handled (moves ++ [last])).filterMap kept? =
      (system.handled moves).filterMap kept? ++
        (((system.run moves).stimulus? last).bind fun stimulus =>
          kept? ((system.run moves).loop, stimulus)).toList := by
  rw [handled, filterMap_history, Option.bind_map]
  rfl

theorem orders_append (system : System) (moves : List Move) (last : Move) :
    system.orders (moves ++ [last]) =
      system.orders moves ++ ((system.run moves).order? last).toList :=
  filterMap_handled (fun (loop, stimulus) => stimulus.order? loop) system moves last

theorem dialogue_append (system : System) (moves : List Move) (last : Move) :
    system.dialogue (moves ++ [last]) =
      system.dialogue moves ++ ((system.run moves).exchange? last).toList :=
  history_concat exchange? system moves last

end System

/-! ## Orders are carried out -/

namespace Loop

theorem order_of_event (loop : Loop) (frame : Frame) (ns : String) (ackId : UInt64)
    (name : String) (args : List Json) (answer : Frame)
    (read : frame.socketPacket? = some (.event ns (some ackId) name args))
    (wanted : loop.options.acknowledge = true)
    (written : (Socket.Packet.acknowledge ns ackId (some [])).toFrame = .ok answer) :
    (Stimulus.frame frame).order? loop = some ⟨answer, false⟩ := by
  obtain ⟨payload, message, _⟩ := (frame.socketPacket?_eq_some_iff _).mp read
  simp [Stimulus.order?, message, read, wanted, written, Except.toOption]

theorem react_of_event (now : Instant) (loop : Loop) (frame : Frame) (ns : String)
    (ackId : UInt64) (name : String) (args : List Json) (answer : Frame)
    (read : frame.socketPacket? = some (.event ns (some ackId) name args))
    (wanted : loop.options.acknowledge = true)
    (written : (Socket.Packet.acknowledge ns ackId (some [])).toFrame = .ok answer) :
    loop.react now (.frame frame) =
      loop.seen.write answer false (.acknowledge (.event ns (some ackId) name args)) := by
  rw [react_of_socketPacket now frame _ loop read]
  simp only [onSocketPacket, onEventPacket, acknowledgement?, options_seen, wanted, if_true,
    written]

/-- A loop that has something to write does nothing but write it. -/
theorem react_of_order (now : Instant) (loop : Loop) (stimulus : Stimulus) (order : Order)
    (live : Live loop) (ordered : stimulus.order? loop = some order) :
    ∃ between errand, (between = loop ∨ between = loop.seen) ∧
      loop.react now stimulus = between.write order.frame order.flush errand := by
  cases stimulus with
  | tick tick =>
      obtain ⟨kind, generation⟩ := tick
      cases kind with
      | ping =>
          simp only [Stimulus.order?] at ordered
          split at ordered
          · rename_i isLive
            cases ordered
            have armed := Slot.isArmed_of_isLive generation _ isLive
            obtain ⟨beat, inForce⟩ := Option.isSome_iff_exists.mp (live.pinging armed)
            refine ⟨loop, .heartbeat beat (beat.timeout.after now), Or.inl rfl, ?_⟩
            simp only [react, onTick, onPingTick, isLive, inForce, if_true]
            rfl
          · cases ordered
      | pong | readiness => cases ordered
  | frame frame =>
      simp only [Stimulus.order?] at ordered
      split at ordered
      · rename_i read
        cases ordered
        exact ⟨loop.seen, .answerPing, Or.inr rfl, react_of_read now frame _ loop read⟩
      · split at ordered
        · rename_i ns ackId name args read
          split at ordered
          · rename_i wanted
            obtain ⟨answer, written⟩ := acknowledge_toFrame ns ackId (some [])
            rw [written] at ordered
            cases ordered
            exact ⟨loop.seen, _, Or.inr rfl,
              react_of_event now loop frame ns ackId name args answer read wanted written⟩
          · cases ordered
        · cases ordered
  | command command =>
      cases command with
      | send frame flush ticket =>
          cases ordered
          exact ⟨loop, .request ticket, Or.inl rfl, rfl⟩
      | close | cancel => cases ordered
  | failure | ended | abandoned | deadline => cases ordered

end Loop

namespace System

/-- Every errand was ordered. -/
theorem order_of_asks (system : System) (move : Move) (errand : Errand)
    (asks : Asks system move errand) :
    ∃ stimulus order, system.stimulus? move = some stimulus ∧
      stimulus.order? system.loop = some order := by
  cases asks with
  | answerPing frame taken read =>
      exact ⟨_, ⟨.text "3probe", true⟩, taken, by simp [Stimulus.order?, read]⟩
  | acknowledge frame ns ackId name args taken read wanted =>
      obtain ⟨answer, written⟩ := Loop.acknowledge_toFrame ns ackId (some [])
      exact ⟨_, _, taken,
        Loop.order_of_event _ frame ns ackId name args answer read wanted written⟩
  | heartbeat generation beat taken live inForce =>
      exact ⟨_, ⟨.text "2probe", true⟩, taken, by simp [Stimulus.order?, live]⟩
  | request frame flush ticket taken => exact ⟨_, ⟨frame, flush⟩, taken, rfl⟩

theorem calls_of_stop (system : System) (move : Move) (coherent : system.loop.Coherent)
    (running : system.loop.isStopped = false)
    (stopped : (system.step move).loop.isStopped = true) :
    ∃ farewell : Option CloseReason,
      (system.step move).loop.calls = system.loop.calls ++ (farewell.map Call.close).toList := by
  obtain ⟨cause, farewell, ends⟩ := ends_of_stepped system move _ (coherent.running running) running
    (step_stepped system move) stopped
  obtain ⟨_, _, calls, _⟩ := left_for_good system move cause farewell [] coherent running ends
  exact ⟨farewell, calls⟩

end System

/-! ## Calls -/

namespace Loop

/-- How far the calls have got that were asked for. -/
structure Served (asked : List Call) (succeeded : Nat) (loop : Loop) : Prop where
  running : loop.isStopped = false →
    asked = loop.calls ++ loop.phase.remaining.tail ∧
      loop.calls.length = succeeded + (loop.phase.remaining.take 1).length
  stopped : loop.isStopped = true → ∃ farewell : Option CloseReason,
    loop.calls = asked.take (succeeded + 1) ++ (farewell.map Call.close).toList
  unmade : asked.drop (succeeded + 1) = [] ∨ asked.drop (succeeded + 1) = [.flush]

theorem tail_remaining (phase : Phase) :
    phase.remaining.tail = [] ∨
      phase.remaining.tail = [.flush] ∧ (phase.remaining.take 1).length = 1 := by
  cases phase with
  | sending frame flush errand => cases flush <;> simp [Phase.remaining, Order.calls]
  | flushing | idle | closing | ended => exact Or.inl rfl

section Served

variable (asked : List Call) (succeeded : Nat) (loop after : Loop)

theorem take_of_split
    (split : asked = loop.calls ++ loop.phase.remaining.tail)
    (count : loop.calls.length = succeeded + (loop.phase.remaining.take 1).length) :
    asked.take (succeeded + 1) = loop.calls ∧
      asked.drop (succeeded + 1) = loop.phase.remaining.tail := by
  -- Only the flush after a send that is under way is asked for and not made.
  rcases tail_remaining loop.phase with nothing | ⟨flush, one⟩
  · have few : loop.calls.length ≤ succeeded + 1 := by
      have atMost := List.length_take_le 1 loop.phase.remaining
      omega
    rw [split, nothing, List.append_nil]
    exact ⟨List.take_of_length_le few, List.drop_eq_nil_of_le few⟩
  · rw [one] at count
    rw [split, ← count]
    exact ⟨List.take_left, List.drop_left⟩

theorem served_of_running (running : loop.isStopped = false)
    (split : asked = loop.calls ++ loop.phase.remaining.tail)
    (count : loop.calls.length = succeeded + (loop.phase.remaining.take 1).length) :
    Served asked succeeded loop := by
  refine ⟨fun _ => ⟨split, count⟩, fun stopped => ?_, ?_⟩
  · cases running.symm.trans stopped
  · rw [(take_of_split asked succeeded loop split count).2]
    exact (tail_remaining loop.phase).imp id And.left

theorem served_kept (served : Served asked succeeded loop) (phase : after.phase = loop.phase)
    (calls : after.calls = loop.calls) : Served asked succeeded after := by
  have same : after.isStopped = loop.isStopped := by simp only [isStopped, phase]
  refine ⟨?_, ?_, served.unmade⟩
  · rw [same, phase, calls]
    exact served.running
  · rw [same, calls]
    exact served.stopped

theorem served_stop (farewell : Option CloseReason) (served : Served asked succeeded loop)
    (running : loop.isStopped = false) (stopped : after.isStopped = true)
    (calls : after.calls = loop.calls ++ (farewell.map Call.close).toList) :
    Served asked succeeded after := by
  obtain ⟨split, count⟩ := served.running running
  refine ⟨fun impossible => ?_, fun _ => ⟨farewell, ?_⟩, served.unmade⟩
  · cases impossible.symm.trans stopped
  · rw [(take_of_split asked succeeded loop split count).1]
    exact calls

theorem served_ordered (order : Order) (errand : Errand) (served : Served asked succeeded loop)
    (idle : loop.phase = .idle) (phase : after.phase = .sending order.frame order.flush errand)
    (calls : after.calls = loop.calls ++ [.send order.frame]) :
    Served (asked ++ order.calls) succeeded after := by
  obtain ⟨split, count⟩ := served.running (by simp [isStopped, idle])
  simp only [idle, Phase.remaining, List.tail_nil, List.append_nil, List.take_nil,
    List.length_nil, Nat.add_zero] at split count
  refine served_of_running _ _ _ (by simp [isStopped, phase]) ?_ ?_
  · rw [split, calls, phase]
    simp [Phase.remaining, Order.calls]
  · rw [calls, phase]
    simp [Phase.remaining, Order.calls, count]

/-- The last call of an errand has succeeded. -/
theorem served_concluded (errand : Errand) (served : Served asked succeeded loop)
    (concluding : loop.Concluding errand) :
    Served asked (succeeded + 1) { loop with phase := .idle } := by
  have running := isStopped_of_errand loop errand (errand?_of_concluding errand loop concluding)
  obtain ⟨split, count⟩ := served.running running
  have last : loop.phase.remaining.tail = [] ∧ (loop.phase.remaining.take 1).length = 1 := by
    rcases concluding with ⟨frame, sending⟩ | flushing
    · simp [sending, Phase.remaining, Order.calls]
    · simp [flushing, Phase.remaining]
  rw [last.1] at split
  rw [last.2] at count
  exact served_of_running _ _ _ rfl split count

end Served

end Loop

namespace System

/-- The calls that succeeded at a move. -/
def successes (system : System) (move : Move) : Nat :=
  ((system.exchange? move).toList.filter wrote).length

theorem successes_of_concluding (system : System) (errand : Errand)
    (concluding : system.loop.Concluding errand) : system.successes (.answer (.ok ())) = 1 := by
  rcases concluding with ⟨frame, sending⟩ | flushing
  · simp only [successes, exchange?, sending]
    rfl
  · simp only [successes, exchange?, flushing]
    rfl

theorem successes_of_error (system : System) (error : Error) :
    system.successes (.answer (.error error)) = 0 := by
  cases phase : system.loop.phase <;> simp [successes, exchange?, phase, Phase.call?, wrote]

theorem successes_of_stopped (system : System) (move : Move)
    (stopped : system.loop.isStopped = true) : system.successes move = 0 := by
  cases move with
  | answer result =>
      cases phase : system.loop.phase with
      | idle | sending | flushing => simp [Loop.isStopped, phase] at stopped
      | closing | ended => simp [successes, exchange?, phase, Phase.call?, wrote]
  | elapse | fire | arrive | submit | acquire | release | takeTick | takeCommand | abandon
  | deadline | expire => rfl

theorem served_resumed (asked : List Call) (succeeded : Nat) (system : System)
    (result : Except Error Unit) (after : Loop)
    (served : system.loop.Served asked succeeded)
    (resumed : Loop.Resumed system.now system.loop result after) :
    after.Served asked (succeeded + system.successes (.answer result)) := by
  have concluded : ∀ errand, system.loop.Concluding errand →
      { system.loop with phase := .idle }.Served asked
        (succeeded + system.successes (.answer (.ok ()))) := by
    intro errand concluding
    rw [successes_of_concluding system errand concluding]
    exact Loop.served_concluded asked succeeded _ errand served concluding
  have failed : ∀ error (between : Loop), between.phase = system.loop.phase →
      between.calls = system.loop.calls → system.loop.isStopped = false →
      (between.fail error none).Served asked
        (succeeded + system.successes (.answer (.error error))) := by
    intro error between phase calls running
    rw [successes_of_error]
    have before := Loop.served_kept asked succeeded _ between served phase calls
    have stillRunning : between.isStopped = false := by
      simp only [Loop.isStopped, phase]
      exact running
    exact Loop.served_stop asked succeeded between _ none before stillRunning
      (Loop.isStopped_fail _ _ _) ((Loop.stop_stops ⟨some error, none, none⟩ between).calls _ _ _)
  cases resumed with
  | sent frame errand sending =>
      have one : system.successes (.answer (.ok ())) = 1 := by
        simp only [successes, exchange?, sending]
        rfl
      obtain ⟨split, count⟩ := served.running (by simp [Loop.isStopped, sending])
      simp only [sending, Phase.remaining, Order.calls, if_true, List.tail_cons,
        List.take_succ_cons, List.take_zero, List.length_cons, List.length_nil] at split count
      rw [one]
      refine Loop.served_of_running _ _ _ rfl ?_ ?_
      · simpa [Phase.remaining] using split
      · simpa [Phase.remaining] using count
  | answeredPing concluding => exact concluded _ concluding
  | pinged beat limit concluding | pingedAgain beat limit concluding
  | served ticket concluding =>
      have idle := concluded _ concluding
      exact Loop.served_kept _ _ { system.loop with phase := .idle } _ idle rfl rfl
  | acknowledged packet after concluding noted =>
      have idle := concluded _ concluding
      rcases Loop.kept_of_noted _ _ after noted with ⟨cause, farewell, rfl⟩ | kept
      · exact Loop.served_stop _ _ { system.loop with phase := .idle } _ farewell idle rfl
          (Loop.isStopped_fail _ _ _) ((Loop.stop_stops ⟨some cause, farewell, none⟩ _).calls _ _ _)
      · exact Loop.served_kept _ _ _ after idle kept.phase kept.calls
  | requestFailed error ticket writing =>
      exact failed error (system.loop.reply ticket (.error error)) rfl rfl
        (Loop.isStopped_of_errand _ _ writing)
  | failed error errand writing =>
      exact failed error system.loop rfl rfl (Loop.isStopped_of_errand _ _ writing)
  | closed reason exit result closing =>
      have stopped : system.loop.isStopped = true := by simp [Loop.isStopped, closing]
      rw [successes_of_stopped system _ stopped]
      refine ⟨fun impossible => ?_, fun _ => served.stopped stopped, served.unmade⟩
      cases impossible
  | unmoved result still =>
      have none : system.successes (.answer result) = 0 := by
        simp [successes, exchange?, still]
      rw [none]
      exact served

theorem exchange?_of_noAnswer (system : System) (move : Move)
    (unanswered : ∀ result, move ≠ .answer result) : system.exchange? move = none := by
  cases move with
  | answer result => exact absurd rfl (unanswered result)
  | elapse | fire | arrive | submit | acquire | release | takeTick | takeCommand | abandon
  | deadline | expire => rfl

theorem served_stopped (asked : List Call) (succeeded : Nat) (system : System) (move : Move)
    (coherent : system.loop.Coherent) (served : system.loop.Served asked succeeded)
    (running : system.loop.isStopped = false)
    (stopped : (system.step move).loop.isStopped = true) :
    (system.step move).loop.Served asked succeeded := by
  obtain ⟨farewell, calls⟩ := calls_of_stop system move coherent running stopped
  exact Loop.served_stop asked succeeded _ _ farewell served running stopped calls

theorem served_taken (asked : List Call) (succeeded : Nat) (system : System) (move : Move)
    (stimulus : Stimulus) (coherent : system.loop.Coherent)
    (served : system.loop.Served asked succeeded)
    (taken : system.stimulus? move = some stimulus) :
    (system.step move).loop.Served
      (asked ++ (stimulus.order? system.loop).toList.flatMap Order.calls) succeeded := by
  have idle := ((stimulus?_eq_some_iff system move stimulus).mp taken).1
  have running := running_of_taken system move stimulus taken
  cases ordered : stimulus.order? system.loop with
  | some order =>
      obtain ⟨between, errand, same, reaction⟩ := Loop.react_of_order system.now system.loop
        stimulus order (coherent.running running) ordered
      have calls : between.calls = system.loop.calls := by
        rcases same with rfl | rfl
        · rfl
        · exact system.loop.calls_seen
      rw [step_of_taken system move stimulus taken, reaction]
      have after := Loop.served_ordered asked succeeded system.loop
        (between.write order.frame order.flush errand) order errand served idle rfl
        (congrArg (· ++ [Call.send order.frame]) calls)
      simpa using after
  | none =>
      rw [Option.toList_none, List.flatMap_nil, List.append_nil]
      -- Without an order the loop stops or goes on waiting.
      cases stopped : (system.step move).loop.isStopped with
      | true => exact served_stopped asked succeeded system move coherent served running stopped
      | false =>
          cases course_of_stepped system move _ (step_stepped system move) with
          | stopped impossible => cases stopped.symm.trans impossible
          | kept phase calls => exact Loop.served_kept asked succeeded _ _ served phase calls
          | idle phase calls =>
              exact Loop.served_kept asked succeeded _ _ served (phase.trans idle.symm) calls
          | sending frame flush errand asks =>
              obtain ⟨other, order, takenToo, wanted⟩ := order_of_asks system move errand asks
              cases Option.some.inj (taken.symm.trans takenToo)
              cases ordered.symm.trans wanted
          | flushing frame errand before => cases idle.symm.trans before

/-- A step carries on with what was asked for, and begins with what it is asked for. -/
theorem served_step (asked : List Call) (succeeded : Nat) (system : System) (move : Move)
    (coherent : system.loop.Coherent) (served : system.loop.Served asked succeeded) :
    (system.step move).loop.Served (asked ++ (system.order? move).toList.flatMap Order.calls)
      (succeeded + system.successes move) := by
  cases taken : system.stimulus? move with
  | some stimulus =>
      have silent : system.successes move = 0 := by
        cases move <;> first | rfl | simp [stimulus?, offer?] at taken
      rw [silent, order?, taken]
      exact served_taken asked succeeded system move stimulus coherent served taken
  | none =>
      have unordered : asked ++ (system.order? move).toList.flatMap Order.calls = asked := by
        simp [order?, taken]
      rw [unordered]
      have stepped := step_stepped system move
      generalize same : (system.step move).loop = after at stepped ⊢
      cases stepped with
      | took move stimulus after takenToo => cases taken.symm.trans takenToo
      | fired kind =>
          exact Loop.served_kept asked succeeded _ _ served (Loop.phase_setSlot _ _ _)
            (Loop.calls_setSlot _ _ _)
      | answered result after resumed =>
          exact served_resumed asked succeeded system result after served resumed
      | expired beat limit writing =>
          rw [← same]
          refine served_stopped asked succeeded system .expire coherent served
            (Loop.isStopped_of_errand _ _ writing) ?_
          rw [same]
          exact Loop.isStopped_fail _ _ _
      | still move untaken unanswered =>
          rw [successes, exchange?_of_noAnswer system move unanswered]
          exact served

/-- All calls of a run that were asked for. -/
def asked (system : System) (moves : List Move) : List Call :=
  (system.orders moves).flatMap Order.calls

/-- How many of them have succeeded. -/
def succeeded (system : System) (moves : List Move) : Nat :=
  ((system.dialogue moves).filter wrote).length

theorem served_run (options : ConnectOptions) (moves : List Move) :
    ((start options).run moves).loop.Served ((start options).asked moves)
      ((start options).succeeded moves) := by
  induction moves using List.reverseRecOn with
  | nil => exact Loop.served_of_running _ _ _ rfl rfl rfl
  | append_singleton moves last ih =>
      have served := served_step _ _ _ last (Loop.coherent_run options moves) ih
      rw [asked, orders_append, List.flatMap_append, succeeded, dialogue_append,
        List.filter_append, List.length_append, run_append]
      exact served

theorem calls_of_served (asked : List Call) (succeeded : Nat) (loop : Loop)
    (served : loop.Served asked succeeded) :
    ∃ farewell : Option CloseReason,
      loop.calls = asked.take (succeeded + 1) ++ (farewell.map Call.close).toList ∧
        (loop.isStopped = false → farewell = none) := by
  cases stopped : loop.isStopped with
  | false =>
      obtain ⟨split, count⟩ := served.running stopped
      refine ⟨none, ?_, fun _ => rfl⟩
      rw [(Loop.take_of_split asked succeeded loop split count).1]
      exact (List.append_nil _).symm
  | true =>
      obtain ⟨farewell, calls⟩ := served.stopped stopped
      exact ⟨farewell, calls, fun running => by cases running⟩

/-- Every frame that is sent was ordered by something that the loop took. -/
theorem ordered_of_send (options : ConnectOptions) (moves : List Move) (frame : Frame)
    (sent : Call.send frame ∈ ((start options).run moves).loop.calls) :
    ∃ before move later stimulus flush, moves = before ++ move :: later ∧
      ((start options).run before).stimulus? move = some stimulus ∧
      stimulus.order? ((start options).run before).loop = some ⟨frame, flush⟩ := by
  obtain ⟨farewell, calls, _⟩ := calls_of_served _ _ _ (served_run options moves)
  rw [calls] at sent
  have wanted : Call.send frame ∈ (start options).asked moves := by
    rcases List.mem_append.mp sent with made | closing
    · exact List.mem_of_mem_take made
    · simp at closing
  obtain ⟨order, ordered, made⟩ := List.mem_flatMap.mp wanted
  have same : frame = order.frame := by
    obtain ⟨first, flush⟩ := order
    cases flush <;> simpa [Order.calls] using made
  obtain ⟨⟨loop, stimulus⟩, took, written⟩ := List.mem_filterMap.mp ordered
  obtain ⟨before, move, later, rfl, found⟩ := mem_history _ _ _ _ took
  obtain ⟨other, taken, pair⟩ := Option.map_eq_some_iff.mp found
  cases pair
  exact ⟨before, move, later, stimulus, order.flush, rfl, taken, by rw [same]; exact written⟩

/-! ## Pings and acknowledgements -/

/-- The loop deals with a ping of the server or with an acknowledgement, and no call fails. -/
inductive Courtesy (system : System) : Move → Prop
  | pinged (move : Move) (frame : Frame) (taken : system.stimulus? move = some (.frame frame))
      (read : Engine.Packet.decode? frame = some .ping) : Courtesy system move
  | answering (writing : system.loop.phase.errand? = some .answerPing) :
      Courtesy system (.answer (.ok ()))
  | wanted (move : Move) (frame : Frame) (ns : String) (ackId : UInt64) (name : String)
      (args : List Json) (taken : system.stimulus? move = some (.frame frame))
      (read : frame.socketPacket? = some (.event ns (some ackId) name args))
      (wanted : system.loop.options.acknowledge = true) : Courtesy system move
  | acknowledged (move : Move) (frame : Frame) (ns : String) (ackId : UInt64)
      (data : Option (List Json)) (taken : system.stimulus? move = some (.frame frame))
      (read : frame.socketPacket? = some (.acknowledge ns ackId data)) : Courtesy system move

end System

/-- Readiness and all timers are as before. -/
structure Loop.Undisturbed (before after : Loop) : Prop where
  readiness : after.readiness = before.readiness
  slot : ∀ kind, after.slot kind = before.slot kind

theorem Loop.undisturbed_seen (loop : Loop) : loop.Undisturbed loop.seen := by
  rw [Loop.seen]
  split <;> exact ⟨rfl, fun kind => by cases kind <;> rfl⟩

theorem Loop.undisturbed_write (loop : Loop) (frame : Frame) (flush : Bool) (errand : Errand) :
    loop.Undisturbed (loop.seen.write frame flush errand) := by
  have seen := loop.undisturbed_seen
  refine ⟨seen.readiness, fun kind => ?_⟩
  rw [← seen.slot kind]
  cases kind <;> rfl

namespace System

theorem undisturbed_of_courtesy (system : System) (move : Move) (courtesy : Courtesy system move) :
    system.loop.Undisturbed (system.step move).loop := by
  cases courtesy with
  | pinged move frame taken read =>
      rw [step_of_taken system move _ taken, Loop.react_of_read _ frame _ _ read]
      exact system.loop.undisturbed_write _ _ _
  | answering writing =>
      cases phase : system.loop.phase with
      | sending frame flush errand =>
          rw [phase] at writing
          cases writing
          cases flush <;> simp only [step, Loop.resume, phase] <;>
            exact ⟨rfl, fun kind => by cases kind <;> rfl⟩
      | flushing errand =>
          rw [phase] at writing
          cases writing
          simp only [step, Loop.resume, phase]
          exact ⟨rfl, fun kind => by cases kind <;> rfl⟩
      | idle | closing | ended => simp [phase, Phase.errand?] at writing
  | wanted move frame ns ackId name args taken read wanted =>
      obtain ⟨answer, written⟩ := Loop.acknowledge_toFrame ns ackId (some [])
      rw [step_of_taken system move _ taken,
        Loop.react_of_event _ _ frame ns ackId name args answer read wanted written]
      exact system.loop.undisturbed_write _ _ _
  | acknowledged move frame ns ackId data taken read =>
      rw [step_of_taken system move _ taken, Loop.react_of_socketPacket _ frame _ _ read]
      exact system.loop.undisturbed_seen

theorem concluding_of_unflushed (loop : Loop) (packet : Socket.Packet)
    (unflushed : loop.Unflushed) (writing : loop.phase.errand? = some (.acknowledge packet)) :
    loop.Concluding (.acknowledge packet) := by
  cases phase : loop.phase with
  | sending frame flush errand =>
      rw [phase] at writing
      cases writing
      cases flush with
      | false => exact Or.inl ⟨frame, phase⟩
      | true => exact absurd phase ((unflushed packet).2 frame)
  | flushing errand =>
      rw [phase] at writing
      cases writing
      exact absurd phase (unflushed packet).1
  | idle | closing | ended => simp [phase, Phase.errand?] at writing

/-- The calls of a run are those that were ordered, in the order of what the loop took.  They break
off after the first that does not succeed, where nothing but a flush can be left out, and a close
may follow.  A call that fails is the last; one that takes too long is followed by the close.
Nothing is sent that was not ordered.  Pings of the server and acknowledgements leave readiness and
the timers alone, and an event that was acknowledged is treated as if that had not been asked. -/
theorem calls_eq_orders (options : ConnectOptions) (moves : List Move) :
    (∃ farewell : Option CloseReason,
        ((start options).run moves).loop.calls =
          (((start options).orders moves).flatMap Order.calls).take
              ((((start options).dialogue moves).filter wrote).length + 1) ++
            (farewell.map Call.close).toList ∧
        (((start options).run moves).loop.isStopped = false → farewell = none)) ∧
      (((((start options).orders moves).flatMap Order.calls).drop
            ((((start options).dialogue moves).filter wrote).length + 1) = []) ∨
        (((start options).orders moves).flatMap Order.calls).drop
            ((((start options).dialogue moves).filter wrote).length + 1) = [.flush]) ∧
      (((start options).run moves).loop.isIdle = true →
        ((start options).run moves).loop.calls =
          ((start options).orders moves).flatMap Order.calls) ∧
      (∀ before move later errand, moves = before ++ move :: later →
        ((start options).run before).loop.phase.errand? = some errand →
        (∀ error, move = .answer (.error error) →
          ((start options).run moves).loop.calls = ((start options).run before).loop.calls) ∧
        ∀ beat limit, errand = .heartbeat beat limit → limit ≤ ((start options).run before).now →
          move = .expire →
          ((start options).run moves).loop.calls =
            ((start options).run before).loop.calls ++ [.close .goingAway]) ∧
      (∀ frame, Call.send frame ∈ ((start options).run moves).loop.calls →
        ∃ before move later stimulus flush, moves = before ++ move :: later ∧
          ((start options).run before).stimulus? move = some stimulus ∧
          stimulus.order? ((start options).run before).loop = some ⟨frame, flush⟩) ∧
      (∀ move, Courtesy ((start options).run moves) move →
        ((start options).run moves).loop.Undisturbed
          (((start options).run moves).step move).loop) ∧
      ∀ packet, ((start options).run moves).loop.phase.errand? = some (.acknowledge packet) →
        (((start options).run moves).step (.answer (.ok ()))).loop =
          { ((start options).run moves).loop with phase := .idle }.onEvent
            (Event.decode packet) := by
  have served := served_run options moves
  refine ⟨calls_of_served _ _ _ served, served.unmade, ?_, ?_, ordered_of_send options moves,
    undisturbed_of_courtesy _, ?_⟩
  · intro idle
    have phase := (Loop.isIdle_iff _).mp idle
    obtain ⟨split, _⟩ := served.running (by simp [Loop.isStopped, phase])
    rw [phase] at split
    exact (split.trans (List.append_nil _)).symm
  · rintro before move later errand rfl writing
    have coherent := Loop.coherent_run options before
    have running := Loop.isStopped_of_errand _ errand writing
    rw [run_append_cons]
    constructor
    · rintro error rfl
      obtain ⟨_, _, calls, _⟩ :=
        left_for_good _ _ _ _ later coherent running (.writeFailed error errand writing)
      exact calls.trans (List.append_nil _)
    · rintro beat limit rfl passed rfl
      obtain ⟨_, _, calls, _⟩ :=
        left_for_good _ _ _ _ later coherent running (.pingLate beat limit writing passed)
      exact calls
  · intro packet writing
    have concluding := concluding_of_unflushed _ packet (unflushed_run options moves) writing
    rw [step, Loop.resume_of_concluding _ _ _ concluding]
    rfl

/-- A ping is answered, and then a frame is sent that was asked for. -/
def pongThenSend : List Move :=
  [.arrive (.frame (.text "2")), .answer (.ok ()), .answer (.ok ()),
    .submit (.send (.text "a") true 0), .takeCommand]

/-- The frame that was asked for fails, so it is not flushed. -/
theorem calls_of_pongThenSend :
    ((start .default).run pongThenSend).loop.phase.errand? = some (.request 0) ∧
      ((start .default).run (pongThenSend ++ [.answer (.error .earlyDisconnect)])).loop.calls =
        [.send (.text "3probe"), .flush, .send (.text "a")] := by
  have ordered : (start .default).orders pongThenSend =
      [⟨.text "3probe", true⟩, ⟨.text "a", true⟩] := by decide +kernel
  have written : ((start .default).dialogue pongThenSend).filter wrote =
      [(.send (.text "3probe"), .ok ()), (.flush, .ok ())] := by rfl
  obtain ⟨farewell, calls, unclosed⟩ := (calls_eq_orders .default pongThenSend).1
  rw [ordered, written, unclosed rfl] at calls
  obtain ⟨_, _, _, failing, _⟩ :=
    calls_eq_orders .default (pongThenSend ++ [.answer (.error .earlyDisconnect)])
  have last := (failing pongThenSend _ [] (.request 0) rfl rfl).1 _ rfl
  exact ⟨rfl, last.trans calls⟩

end System

end ChatSocket.Connection
