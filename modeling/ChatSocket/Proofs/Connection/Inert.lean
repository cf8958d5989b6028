import ChatSocket.Proofs.Connection.Malformed
import ChatSocket.Proofs.Connection.ReadinessPolicy
import ChatSocket.Proofs.Connection.Replay

/-!
# Stimuli without effect

Some of what a loop takes leaves it exactly as it is.  Where that is so although something is
cancelled or decided, it is because the timer of readiness is never armed once readiness is
decided (`Calm`), and because cancelling an empty slot does not count as a generation.  So
such stimuli may be left out of what happens to a loop, or be put into it, and nothing changes
afterwards.  A request that is written without delay leaves only its frame behind.
-/

set_option autoImplicit false

namespace ChatSocket.Connection

/-- Stimuli that ask nothing of the loop as it is. -/
inductive Inert (loop : Loop) : Stimulus → Prop
  | silent (frame : Frame) (notClose : frame.isClose = false) (silent : Silent frame) :
      Inert loop (.frame frame)
  | unexpectedPong (frame : Frame) (read : Engine.Packet.decode? frame = some .pong)
      (unarmed : loop.pongTimer.isArmed = false) : Inert loop (.frame frame)
  | joinedAgain (frame : Frame) (ns : String) (data : Option Json.Members)
      (read : frame.socketPacket? = some (.connect ns data))
      (decided : loop.readiness.isPending = false) : Inert loop (.frame frame)
  | signalledAgain (frame : Frame) (ns : String) (ackId : Option UInt64) (name : String)
      (args : List Json) (read : frame.socketPacket? = some (.event ns ackId name args))
      (unasked : ackId = none ∨ loop.options.acknowledge = false)
      (meant : Event.decode (.event ns ackId name args) = .endpointReady)
      (decided : loop.readiness.isPending = false) : Inert loop (.frame frame)
  | input (frame : Frame) (ns : String) (ackId : Option UInt64) (name : String)
      (args : List Json) (input : ProcessInput)
      (read : frame.socketPacket? = some (.event ns ackId name args))
      (unasked : ackId = none ∨ loop.options.acknowledge = false)
      (meant : Event.decode (.event ns ackId name args) = .processInput input) :
      Inert loop (.frame frame)
  | stale (tick : Tick) (stale : (loop.slot tick.kind).isLive tick.generation = false) :
      Inert loop (.tick tick)

namespace Slot

theorem cancel_of_unarmed (slot : Slot) (unarmed : slot.isArmed = false) : slot.cancel = slot := by
  have empty : slot.current = none := by simpa [isArmed] using unarmed
  simp [cancel, empty]

end Slot

namespace Loop

/-! ## Readiness that is decided waits for no timer -/

/-- The timer of readiness runs only while there is something to decide, and only under a
policy that sets one. -/
def Calm (loop : Loop) : Prop :=
  loop.readinessTimer.isArmed = true →
    loop.readiness.isPending = true ∧ ∃ span, loop.options.readiness = .after span

theorem Calm.unarmed {loop : Loop} (calm : Calm loop)
    (decided : loop.readiness.isPending = false) : loop.readinessTimer.isArmed = false := by
  cases armed : loop.readinessTimer.isArmed with
  | false => rfl
  | true => cases decided.symm.trans (calm armed).1

theorem calm_of_unarmed {loop : Loop} (unarmed : loop.readinessTimer.isArmed = false) :
    Calm loop := by
  intro armed
  cases unarmed.symm.trans armed

theorem calm_of_same {loop after : Loop} (calm : Calm loop)
    (options : after.options = loop.options) (readiness : after.readiness = loop.readiness)
    (timer : after.readinessTimer.isArmed = loop.readinessTimer.isArmed) : Calm after := by
  rw [Calm, options, readiness, timer]
  exact calm

theorem calm_stop (loop : Loop) (exit : Exit) : Calm (loop.stop exit) := by
  apply calm_of_unarmed
  rw [stop]
  split <;> exact Slot.isArmed_cancel _

theorem calm_fail (loop : Loop) (cause : Error) (farewell : Option CloseReason) :
    Calm (loop.fail cause farewell) :=
  calm_stop loop _

section Calm

variable {now : Instant} {loop after : Loop}

theorem calm_reported {error : ProtocolError} (calm : Calm loop)
    (reported : Reported error loop after) : Calm after := by
  cases reported with
  | fatal => exact calm_fail _ _ _
  | passed => exact calm

theorem calm_noted {event : Event} (calm : Calm loop) (noted : Noted loop event after) :
    Calm after := by
  cases noted with
  | signal | signalAgain => exact calm_of_unarmed (Slot.isArmed_cancel _)
  | problem error after reported => exact calm_reported calm reported
  | input | output => exact calm

theorem calm_joined (calm : Calm loop) (joined : Joined now loop after) : Calm after := by
  cases joined with
  | again | waiting => exact calm
  | assumed pending policy =>
      -- Under this policy the timer was never set.
      intro armed
      obtain ⟨_, span, other⟩ := calm armed
      cases policy.symm.trans other
  | delayed span pending policy => exact fun _ => ⟨pending, span, policy⟩

theorem calm_heard {frame : Frame} (calm : Calm loop) (heard : Heard now loop frame after) :
    Calm after := by
  cases heard with
  | silent | opened | asked | answered | acknowledged => exact calm
  | joined ns data after read joined => exact calm_joined calm joined
  | refused => exact calm_fail _ _ _
  | noted ns ackId name args after read unasked noted => exact calm_noted calm noted
  | reported error after malformed noEvent reported => exact calm_reported calm reported

theorem calm_ticked {tick : Tick} (calm : Calm loop) (ticked : Ticked now loop tick after) :
    Calm after := by
  cases ticked with
  | stale | ping | pingAlone => exact calm
  | pong => exact calm_fail _ _ _
  | assumed | assumedAgain => exact calm_of_unarmed rfl

theorem calm_reacted {stimulus : Stimulus} (calm : Calm loop)
    (reacted : Reacted now loop stimulus after) : Calm after := by
  cases reacted with
  | earlyEnd | pendingEnd | failure | cancel | deadline => exact calm_fail _ _ _
  | orderlyEnd | close | abandoned => exact calm_stop _ _
  | frame frame after notClose heard =>
      have seen := calm_of_same calm loop.options_seen loop.readiness_seen
        (congrArg Slot.isArmed loop.readinessTimer_seen)
      exact calm_heard seen heard
  | send | deadlinePassed => exact calm
  | tick tick after ticked => exact calm_ticked calm ticked

theorem calm_resumed {result : Except Error Unit} (calm : Calm loop)
    (resumed : Resumed now loop result after) : Calm after := by
  cases resumed with
  | sent | answeredPing | pinged | pingedAgain | served | closed | unmoved => exact calm
  | acknowledged packet after concluding noted =>
      have idle : Calm { loop with phase := .idle } := calm
      exact calm_noted idle noted
  | requestFailed | failed => exact calm_fail _ _ _

theorem calm_undergo (occurrence : Occurrence) (calm : Calm loop) :
    Calm (loop.undergo now occurrence) := by
  cases occurrence with
  | took stimulus =>
      rw [undergo, handle]
      split
      · exact calm_reacted calm (react_reacted now stimulus loop)
      · exact calm
  | fired kind =>
      have armed := isArmed_setSlot_fire now kind .readiness loop
      exact calm_of_same calm (by cases kind <;> rfl) (readiness_setSlot _ _ _) armed
  | answered result => exact calm_resumed calm (resume_resumed now result loop)
  | expired =>
      rw [undergo, expire]
      split
      · exact calm_fail _ _ _
      · exact calm_fail _ _ _
      · exact calm

end Calm

theorem calm_replay (history : List (Instant × Occurrence)) (loop : Loop) (calm : Calm loop) :
    Calm (loop.replay history) := by
  induction history generalizing loop with
  | nil => exact calm
  | cons event later ih => exact ih _ (calm_undergo event.2 calm)

theorem calm_run (options : ConnectOptions) (moves : List Move) :
    Calm ((System.start options).run moves).loop := by
  rw [System.run_eq_replay]
  exact calm_replay _ _ (calm_of_unarmed rfl)

/-! ## One stimulus -/

theorem react_of_silent (now : Instant) (loop : Loop) (frame : Frame)
    (notClose : frame.isClose = false) (silent : Silent frame) :
    loop.react now (.frame frame) = loop.seen := by
  cases silent with
  | control read =>
      cases frame with
      | close => cases notClose
      | text | binary | ping | pong =>
          simp only [react, onFrame, read]
          rfl
  | engineClose read | upgrade read | noop read =>
      rw [react_of_read now frame _ loop read]
      rfl
  | disconnect ns read | acknowledge ns ackId data read =>
      rw [react_of_socketPacket now frame _ loop read]
      rfl

/-- An event that is not acknowledged is looked at right away. -/
theorem react_of_unasked (now : Instant) (loop : Loop) (frame : Frame) (ns : String)
    (ackId : Option UInt64) (name : String) (args : List Json)
    (read : frame.socketPacket? = some (.event ns ackId name args))
    (unasked : ackId = none ∨ loop.options.acknowledge = false) :
    loop.react now (.frame frame) =
      loop.seen.onEvent (Event.decode (.event ns ackId name args)) := by
  have unanswered : acknowledgement? loop.seen.options (.event ns ackId name args) = none := by
    rw [options_seen]
    rcases unasked with rfl | off
    · rfl
    · cases ackId <;> simp [acknowledgement?, off]
  rw [react_of_socketPacket now frame _ loop read, onSocketPacket, onEventPacket, unanswered]

theorem onTick_of_stale (now : Instant) (loop : Loop) (tick : Tick)
    (stale : (loop.slot tick.kind).isLive tick.generation = false) :
    loop.onTick now tick = loop := by
  obtain ⟨kind, generation⟩ := tick
  cases kind with
  | ping =>
      change loop.pingTimer.isLive generation = false at stale
      simp [onTick, onPingTick, stale]
  | pong =>
      change loop.pongTimer.isLive generation = false at stale
      simp [onTick, onPongTick, Slot.accept_stale _ _ _ stale]
  | readiness =>
      change loop.readinessTimer.isLive generation = false at stale
      simp [onTick, onReadinessTick, Slot.accept_stale _ _ _ stale]

/-- A stimulus that is inert leaves everything as it is. -/
theorem react_of_inert (now : Instant) (loop : Loop) (stimulus : Stimulus) (calm : Calm loop)
    (received : loop.receivedAny = true) (inert : Inert loop stimulus) :
    loop.react now stimulus = loop := by
  have seen := seen_of_received loop received
  cases inert with
  | silent frame notClose silent => rw [react_of_silent now loop frame notClose silent, seen]
  | unexpectedPong frame read unarmed =>
      rw [react_of_read now frame _ loop read, seen, onEnginePacket,
        Slot.cancel_of_unarmed _ unarmed]
  | joinedAgain frame ns data read decided =>
      rw [react_of_socketPacket now frame _ loop read, seen, onSocketPacket, startReadiness,
        decided]
      rfl
  | signalledAgain frame ns ackId name args read unasked meant decided =>
      rw [react_of_unasked now loop frame ns ackId name args read unasked, seen, meant, onEvent,
        Slot.cancel_of_unarmed _ (calm.unarmed decided), resolve, decided]
      rfl
  | input frame ns ackId name args input read unasked meant =>
      rw [react_of_unasked now loop frame ns ackId name args read unasked, seen, meant]
      rfl
  | stale tick stale => exact onTick_of_stale now loop tick stale

theorem handle_of_inert (now : Instant) (loop : Loop) (stimulus : Stimulus) (calm : Calm loop)
    (received : loop.receivedAny = true) (inert : Inert loop stimulus) :
    loop.handle now stimulus = loop := by
  rw [handle, react_of_inert now loop stimulus calm received inert, ite_self]

end Loop

/-! ## Requests that are written without delay -/

/-- What happens to a loop that waits when a frame is asked for and each call succeeds at once. -/
def Order.service (now : Instant) (order : Order) (ticket : Ticket) :
    List (Instant × Occurrence) :=
  (now, .took (.command (.send order.frame order.flush ticket))) ::
    order.calls.map fun _ => (now, .answered (.ok ()))

/-- The moves of a request: a handle asks for a frame, the loop takes the request, and each
call succeeds at once. -/
def Order.moves (order : Order) (ticket : Ticket) : List Move :=
  .submit (.send order.frame order.flush ticket) :: .takeCommand ::
    order.calls.map fun _ => .answer (.ok ())

/-- Nothing is left of a request but what was written and its answer. -/
theorem Loop.replay_service (now : Instant) (order : Order) (ticket : Ticket) (loop : Loop)
    (idle : loop.isIdle = true) :
    loop.replay (order.service now ticket) =
      { loop with
        calls := loop.calls ++ order.calls
        replies := loop.replies ++ [(ticket, .ok ())] } := by
  have phase := loop.isIdle_iff.mp idle
  obtain ⟨frame, flush⟩ := order
  obtain ⟨options, lifecycle, receivedAny, readiness, heartbeat, pingTimer, pongTimer,
    readinessTimer, output, calls, replies, _⟩ := loop
  cases phase
  cases flush <;>
    simp [Order.service, Order.calls, replay, undergo, handle, isIdle, react, onCommand, write,
      resume, onWritten, reply]

/-! ## Lists that are put together -/

/-- The whole is what was kept with what was added in between, each in its order. -/
inductive Merged {α : Type} : List α → List α → List α → Prop
  | nil : Merged [] [] []
  | kept (x : α) {kept added whole : List α} (merged : Merged kept added whole) :
      Merged (x :: kept) added (x :: whole)
  | added (x : α) {kept added whole : List α} (merged : Merged kept added whole) :
      Merged kept (x :: added) (x :: whole)

namespace Merged

variable {α : Type} {kept added whole : List α}

theorem all_kept (list : List α) : Merged list [] list := by
  induction list with
  | nil => exact .nil
  | cons x list ih => exact .kept x ih

theorem all_added (list : List α) : Merged [] list list := by
  induction list with
  | nil => exact .nil
  | cons x list ih => exact .added x ih

theorem append {keptToo addedToo wholeToo : List α} (first : Merged kept added whole)
    (second : Merged keptToo addedToo wholeToo) :
    Merged (kept ++ keptToo) (added ++ addedToo) (whole ++ wholeToo) := by
  induction first with
  | nil => exact second
  | kept x _ ih => exact .kept x ih
  | added x _ ih => exact .added x ih

theorem keep (merged : Merged kept added whole) (more : List α) :
    Merged (kept ++ more) added (whole ++ more) := by
  simpa using merged.append (all_kept more)

theorem add (merged : Merged kept added whole) (more : List α) :
    Merged kept (added ++ more) (whole ++ more) := by
  simpa using merged.append (all_added more)

theorem eq_kept (merged : Merged kept [] whole) : whole = kept := by
  generalize nothing : ([] : List α) = added at merged
  induction merged with
  | nil => rfl
  | kept x _ ih => rw [ih nothing]
  | added => cases nothing

end Merged

/-! ## Two loops side by side -/

namespace Loop

/-- The loops differ in nothing but calls and replies, of which the first has some more. -/
structure Beside (calls : List Call) (replies : List (Ticket × Except Error Unit))
    (longer shorter : Loop) : Prop where
  same : { longer with calls := shorter.calls, replies := shorter.replies } = shorter
  calls : Merged shorter.calls calls longer.calls
  replies : Merged shorter.replies replies longer.replies

section Beside

variable {calls : List Call} {replies : List (Ticket × Except Error Unit)}
variable {longer shorter : Loop}

theorem beside_self (loop : Loop) : Beside [] [] loop loop :=
  ⟨rfl, .all_kept _, .all_kept _⟩

theorem Beside.eq (beside : Beside [] [] longer shorter) : longer = shorter := by
  have same := beside.same
  rw [← beside.calls.eq_kept, ← beside.replies.eq_kept] at same
  exact same

/-- Loops side by side are the same loop with different pasts. -/
theorem Beside.core (beside : Beside calls replies longer shorter) :
    ∃ core : Loop, longer = core.behind longer.calls longer.replies ∧
      shorter = core.behind shorter.calls shorter.replies := by
  refine ⟨{ shorter with calls := [], replies := [] }, ?_, ?_⟩
  · rw [← beside.same]
    simp [behind]
  · simp [behind]

theorem beside_undergo (now : Instant) (occurrence : Occurrence)
    (beside : Beside calls replies longer shorter) :
    Beside calls replies (longer.undergo now occurrence) (shorter.undergo now occurrence) := by
  obtain ⟨core, longerCore, shorterCore⟩ := beside.core
  rw [longerCore, shorterCore, undergo_behind, undergo_behind]
  exact ⟨rfl, beside.calls.keep _, beside.replies.keep _⟩

theorem beside_service (now : Instant) (order : Order) (ticket : Ticket)
    (idle : longer.isIdle = true) (beside : Beside calls replies longer shorter) :
    Beside (calls ++ order.calls) (replies ++ [(ticket, .ok ())])
      (longer.replay (order.service now ticket)) shorter := by
  rw [replay_service now order ticket longer idle]
  exact ⟨beside.same, beside.calls.add _, beside.replies.add _⟩

end Beside

theorem beside_replay (history : List (Instant × Occurrence)) {calls : List Call}
    {replies : List (Ticket × Except Error Unit)} {longer shorter : Loop}
    (beside : Beside calls replies longer shorter) :
    Beside calls replies (longer.replay history) (shorter.replay history) := by
  induction history generalizing longer shorter with
  | nil => exact beside
  | cons event later ih => exact ih (beside_undergo event.1 event.2 beside)

end Loop

namespace System

/-- The systems differ in nothing but the calls and replies of their loops, of which the first
has some more. -/
structure Beside (calls : List Call) (replies : List (Ticket × Except Error Unit))
    (longer shorter : System) : Prop where
  same : { longer with loop := shorter.loop } = shorter
  loop : Loop.Beside calls replies longer.loop shorter.loop

/-- The same moves lead from systems side by side to systems side by side. -/
theorem beside_run (moves : List Move) {calls : List Call}
    {replies : List (Ticket × Except Error Unit)} {longer shorter : System}
    (beside : Beside calls replies longer shorter) :
    Beside calls replies (longer.run moves) (shorter.run moves) := by
  obtain ⟨core, longerCore, shorterCore⟩ := beside.loop.core
  have longerSame : longer = behind longer.loop.calls longer.loop.replies
      { shorter with loop := core } := by
    rw [← beside.same, behind, ← longerCore]
  have shorterSame : shorter = behind shorter.loop.calls shorter.loop.replies
      { shorter with loop := core } := by
    rw [behind, ← shorterCore]
  -- No move looks at the past, so both run as the one without a past does.
  rw [longerSame, shorterSame, run_behind, run_behind]
  exact ⟨rfl, rfl, beside.loop.calls.keep _, beside.loop.replies.keep _⟩

/-- Nothing is left of the moves of a request but what was written and its answer. -/
theorem beside_moves (system : System) (order : Order) (ticket : Ticket)
    (idle : system.loop.isIdle = true) (unasked : system.commands = [])
    (held : 0 < system.handles) :
    Beside order.calls [(ticket, .ok ())] (system.run (order.moves ticket)) system := by
  have served : system.run (order.moves ticket) =
      { system with loop := system.loop.replay (order.service system.now ticket) } := by
    have phase := system.loop.isIdle_iff.mp idle
    obtain ⟨frame, flush⟩ := order
    cases flush <;>
      simp [run, Order.moves, Order.service, Order.calls, step, Loop.isEnded, phase, held, unasked,
        takeCommand, idle, handle, Loop.replay, Loop.undergo]
  rw [served]
  exact ⟨rfl, Loop.beside_service _ order ticket idle (Loop.beside_self _)⟩

end System

/-! ## Two histories -/

/-- What happens in the longer of two histories, and whether it happens in the shorter. -/
inductive Episode where
  | both (now : Instant) (occurrence : Occurrence)
  /-- A stimulus that only the longer history has. -/
  | extra (now : Instant) (stimulus : Stimulus)
  /-- A request that only the longer history has, written without delay. -/
  | request (now : Instant) (order : Order) (ticket : Ticket)

namespace Episode

def longer : Episode → List (Instant × Occurrence)
  | .both now occurrence => [(now, occurrence)]
  | .extra now stimulus => [(now, .took stimulus)]
  | .request now order ticket => order.service now ticket

def shorter : Episode → List (Instant × Occurrence)
  | .both now occurrence => [(now, occurrence)]
  | .extra .. | .request .. => []

/-- What is asked of the transport in the longer history only. -/
def calls : Episode → List Call
  | .request _ order _ => order.calls
  | .both .. | .extra .. => []

/-- What is answered in the longer history only. -/
def replies : Episode → List (Ticket × Except Error Unit)
  | .request _ _ ticket => [(ticket, .ok ())]
  | .both .. | .extra .. => []

/-- The loop takes what the shorter history does not have, after a frame has arrived, and it is
inert or a request. -/
def Fits (loop : Loop) : Episode → Prop
  | .both .. => True
  | .extra _ stimulus =>
      loop.isIdle = true ∧ loop.receivedAny = true ∧ Inert loop stimulus
  | .request .. => loop.isIdle = true ∧ loop.receivedAny = true

/-- Every episode fits where the longer history has come to. -/
def AllFit (loop : Loop) : List Episode → Prop
  | [] => True
  | episode :: later => episode.Fits loop ∧ AllFit (loop.replay episode.longer) later

theorem beside_episode (episode : Episode) {calls : List Call}
    {replies : List (Ticket × Except Error Unit)} {longer shorter : Loop}
    (calm : longer.Calm) (fits : episode.Fits longer)
    (beside : Loop.Beside calls replies longer shorter) :
    Loop.Beside (calls ++ episode.calls) (replies ++ episode.replies) (longer.replay episode.longer)
      (shorter.replay episode.shorter) := by
  cases episode with
  | both now occurrence =>
      simp only [Episode.calls, Episode.replies, List.append_nil]
      exact Loop.beside_replay [(now, occurrence)] beside
  | extra now stimulus =>
      obtain ⟨_, received, inert⟩ := fits
      have same : longer.replay (Episode.extra now stimulus).longer = longer :=
        Loop.handle_of_inert now longer stimulus calm received inert
      rw [same]
      simp only [Episode.calls, Episode.replies, List.append_nil]
      exact beside
  | request now order ticket => exact Loop.beside_service now order ticket fits.1 beside

/-- What fits leaves nothing behind but the calls and replies of its requests. -/
theorem beside_episodes (episodes : List Episode) {calls : List Call}
    {replies : List (Ticket × Except Error Unit)} {longer shorter : Loop}
    (calm : longer.Calm) (fit : AllFit longer episodes)
    (beside : Loop.Beside calls replies longer shorter) :
    Loop.Beside (calls ++ episodes.flatMap Episode.calls)
      (replies ++ episodes.flatMap Episode.replies)
      (longer.replay (episodes.flatMap Episode.longer))
      (shorter.replay (episodes.flatMap Episode.shorter)) := by
  induction episodes generalizing calls replies longer shorter with
  | nil =>
      simp only [List.flatMap_nil, List.append_nil]
      exact beside
  | cons episode later ih =>
      obtain ⟨fits, laterFit⟩ := fit
      simp only [List.flatMap_cons, ← List.append_assoc, Loop.replay_append]
      exact ih (Loop.calm_replay episode.longer longer calm) laterFit
        (beside_episode episode calm fits beside)

/-- From the start, two histories that differ in what fits lead to the same loop, but for the
calls and replies of the requests. -/
theorem beside_start (options : ConnectOptions) (episodes : List Episode)
    (fit : AllFit (.start options) episodes) :
    Loop.Beside (episodes.flatMap Episode.calls) (episodes.flatMap Episode.replies)
      ((Loop.start options).replay (episodes.flatMap Episode.longer))
      ((Loop.start options).replay (episodes.flatMap Episode.shorter)) :=
  beside_episodes episodes (Loop.calm_of_unarmed rfl) fit (Loop.beside_self _)

/-- Without requests there is nothing that only the longer history writes or answers. -/
theorem nothing_of_unasked (episodes : List Episode)
    (unasked : ∀ now order ticket, .request now order ticket ∉ episodes) :
    episodes.flatMap Episode.calls = [] ∧ episodes.flatMap Episode.replies = [] := by
  have silent : ∀ episode ∈ episodes, episode.calls = [] ∧ episode.replies = [] := by
    intro episode member
    cases episode with
    | both | extra => exact ⟨rfl, rfl⟩
    | request now order ticket => exact absurd member (unasked now order ticket)
  exact ⟨List.flatMap_eq_nil_iff.mpr fun episode member => (silent episode member).1,
    List.flatMap_eq_nil_iff.mpr fun episode member => (silent episode member).2⟩

end Episode

namespace System

theorem step_of_inert (options : ConnectOptions) (moves : List Move) (move : Move)
    (stimulus : Stimulus) (taken : ((start options).run moves).stimulus? move = some stimulus)
    (received : ((start options).run moves).loop.receivedAny = true)
    (inert : Inert ((start options).run moves).loop stimulus) :
    (((start options).run moves).step move).loop = ((start options).run moves).loop := by
  rw [step_of_taken _ move stimulus taken]
  exact Loop.react_of_inert _ _ stimulus (Loop.calm_run options moves) received inert

/-- A frame that is inert leaves no trace in the run. -/
theorem run_of_inert (options : ConnectOptions) (before later : List Move) (frame : Frame)
    (received : ((start options).run before).loop.receivedAny = true)
    (inert : Inert ((start options).run before).loop (.frame frame)) :
    (start options).run (before ++ .arrive (.frame frame) :: later) =
      (start options).run (before ++ later) := by
  have still : ((start options).run before).step (.arrive (.frame frame)) =
      (start options).run before := by
    have same := Loop.handle_of_inert ((start options).run before).now _ _
      (Loop.calm_run options before) received inert
    simp only [step, handle, Arrival.stimulus, same]
  rw [run_append_cons, still, run_append_run]

/-- A stale tick is taken as if it had not been posted. -/
theorem run_of_stale (system : System) (later : List Move) (tick : Tick) (rest : List Tick)
    (ticks : system.ticks = tick :: rest) (idle : system.loop.isIdle = true)
    (stale : (system.loop.slot tick.kind).isLive tick.generation = false) :
    system.run (.takeTick :: later) = { system with ticks := rest }.run later := by
  have same := Loop.onTick_of_stale system.now system.loop tick stale
  have taken : system.step .takeTick = { system with ticks := rest } := by
    simp [step, takeTick, ticks, idle, handle, Loop.handle, Loop.react, same]
  rw [← taken]
  rfl

/-- A request comes between two moves of a run, and its calls succeed at once. -/
theorem beside_request (options : ConnectOptions) (before later : List Move) (order : Order)
    (ticket : Ticket) (idle : ((start options).run before).loop.isIdle = true)
    (unasked : ((start options).run before).commands = [])
    (held : 0 < ((start options).run before).handles) :
    Beside order.calls [(ticket, .ok ())]
      ((start options).run (before ++ order.moves ticket ++ later))
      ((start options).run (before ++ later)) := by
  rw [List.append_assoc, run_append_run, run_append_run, run_append_run]
  exact beside_run later (beside_moves _ order ticket idle unasked held)

/-- Inert stimuli change nothing, and a request that is written without delay changes nothing but
what is written and answered.  So a run goes on after them as it would have without: an inert frame
and a stale tick might as well not have come, and a request leaves its calls and its reply behind.
What happened to a loop may have as many of them in addition, wherever they fit, as one likes. -/
theorem inert_stimuli (options : ConnectOptions) :
    (∀ moves move stimulus, ((start options).run moves).stimulus? move = some stimulus →
      ((start options).run moves).loop.receivedAny = true →
      Inert ((start options).run moves).loop stimulus →
      (((start options).run moves).step move).loop = ((start options).run moves).loop) ∧
    (∀ before later frame, ((start options).run before).loop.receivedAny = true →
      Inert ((start options).run before).loop (.frame frame) →
      (start options).run (before ++ .arrive (.frame frame) :: later) =
        (start options).run (before ++ later)) ∧
    (∀ before later tick rest, ((start options).run before).ticks = tick :: rest →
      ((start options).run before).loop.isIdle = true →
      (((start options).run before).loop.slot tick.kind).isLive tick.generation = false →
      ((start options).run before).run (.takeTick :: later) =
        { (start options).run before with ticks := rest }.run later) ∧
    (∀ before later (order : Order) ticket, ((start options).run before).loop.isIdle = true →
      ((start options).run before).commands = [] → 0 < ((start options).run before).handles →
      Beside order.calls [(ticket, .ok ())]
        ((start options).run (before ++ order.moves ticket ++ later))
        ((start options).run (before ++ later))) ∧
    (∀ moves, ((start options).run moves).loop =
      (Loop.start options).replay ((start options).history occurrence? moves)) ∧
    ∀ episodes, Episode.AllFit (.start options) episodes →
      Loop.Beside (episodes.flatMap Episode.calls) (episodes.flatMap Episode.replies)
        ((Loop.start options).replay (episodes.flatMap Episode.longer))
        ((Loop.start options).replay (episodes.flatMap Episode.shorter)) ∧
      ((∀ now order ticket, .request now order ticket ∉ episodes) →
        (Loop.start options).replay (episodes.flatMap Episode.longer) =
          (Loop.start options).replay (episodes.flatMap Episode.shorter)) := by
  refine ⟨step_of_inert options, run_of_inert options, ?_, beside_request options,
    run_eq_replay (start options), ?_⟩
  · intro before later tick rest ticks idle stale
    exact run_of_stale _ later tick rest ticks idle stale
  · intro episodes fit
    have beside := Episode.beside_start options episodes fit
    refine ⟨beside, fun unasked => ?_⟩
    obtain ⟨noCalls, noReplies⟩ := Episode.nothing_of_unasked episodes unasked
    rw [noCalls, noReplies] at beside
    exact beside.eq

/-- A connection that is ready as soon as it has joined; then a noop, another joining, a stale
tick and a request, all of which one history does not have. -/
def readyThenQuiet : List Episode :=
  [.both 0 (.took (.frame (.text "40"))), .extra 0 (.frame (.text "6")),
    .extra 0 (.frame (.text "40")), .extra 0 (.tick ⟨.pong, 1⟩),
    .request 0 ⟨.text "a", false⟩ 7]

/-- Only the frame that was asked for tells the two apart. -/
theorem inert_stimuli_of_readyThenQuiet :
    Episode.AllFit (.start ⟨.ofMillis 2000, .immediate, false⟩) readyThenQuiet ∧
      Loop.Beside [.send (.text "a")] [(7, .ok ())]
        ((Loop.start ⟨.ofMillis 2000, .immediate, false⟩).replay
          (readyThenQuiet.flatMap Episode.longer))
        ((start ⟨.ofMillis 2000, .immediate, false⟩).run [.arrive (.frame (.text "40"))]).loop := by
  have fit : Episode.AllFit (.start ⟨.ofMillis 2000, .immediate, false⟩) readyThenQuiet :=
    ⟨trivial, ⟨rfl, rfl, .silent _ rfl (.noop rfl)⟩, ⟨rfl, rfl, .joinedAgain _ "/" none rfl rfl⟩,
      ⟨rfl, rfl, .stale _ rfl⟩, ⟨rfl, rfl⟩, trivial⟩
  obtain ⟨_, _, _, _, replayed, beside⟩ := inert_stimuli ⟨.ofMillis 2000, .immediate, false⟩
  rw [replayed]
  exact ⟨fit, (beside readyThenQuiet fit).1⟩

end System

end ChatSocket.Connection
