import ChatSocket.Proofs.Connection.Wire

/-!
# Replaying what happened to a loop

A run shows what happened to its loop, and when; `run_eq_replay` says that the loop is
determined by that.  What a loop has already asked of the transport and answered to its handles
has no influence on what it does next: whatever happens to it, it only adds to both
(`undergo_behind`).
-/

set_option autoImplicit false

namespace ChatSocket.Connection

/-- What can happen to a loop. -/
inductive Occurrence where
  | took (stimulus : Stimulus)
  | fired (kind : TimerKind)
  | answered (result : Except Error Unit)
  /-- The loop gives up the call under way. -/
  | expired

namespace Loop

def undergo (now : Instant) (occurrence : Occurrence) (loop : Loop) : Loop :=
  match occurrence with
  | .took stimulus => loop.handle now stimulus
  | .fired kind => loop.setSlot kind ((loop.slot kind).fire now).2
  | .answered result => loop.resume now result
  | .expired => loop.expire

def replay (history : List (Instant × Occurrence)) (loop : Loop) : Loop :=
  history.foldl (fun loop (now, occurrence) => loop.undergo now occurrence) loop

theorem replay_append (history later : List (Instant × Occurrence)) (loop : Loop) :
    loop.replay (history ++ later) = (loop.replay history).replay later :=
  List.foldl_append

end Loop

namespace System

/-- What happens to the loop at a move. -/
def occurrence? (system : System) (move : Move) : Option (Instant × Occurrence) :=
  match move with
  | .fire kind => some (system.now, .fired kind)
  | .answer result => some (system.now, .answered result)
  | .expire =>
      if system.loop.limit?.any (· ≤ system.now) then some (system.now, .expired) else none
  | move => (system.stimulus? move).map fun stimulus => (system.now, .took stimulus)

theorem step_eq_replay (system : System) (move : Move) :
    (system.step move).loop = system.loop.replay (system.occurrence? move).toList := by
  cases taken : system.stimulus? move with
  | some stimulus =>
      obtain ⟨idle, offered⟩ := (stimulus?_eq_some_iff system move stimulus).mp taken
      have isIdle := system.loop.isIdle_iff.mpr idle
      have shown : system.occurrence? move = some (system.now, .took stimulus) := by
        cases move with
        | arrive | takeTick | takeCommand | abandon | deadline => simp [occurrence?, taken]
        | elapse | fire | submit | acquire | release | answer | expire => cases offered
      rw [step_loop_of_offer? system move stimulus isIdle offered, shown]
      simp [Loop.replay, Loop.undergo, Loop.handle, isIdle]
  | none =>
      cases move with
      | arrive | takeTick | takeCommand | abandon | deadline =>
          rw [step_of_untaken system _ taken rfl]
          simp [occurrence?, taken, Loop.replay]
      | elapse | submit =>
          simp only [occurrence?, taken, step]
          split <;> rfl
      | acquire | release =>
          simp only [occurrence?, taken, step]
          rfl
      | fire kind => exact step_fire_loop kind system
      | answer result => rfl
      | expire =>
          simp only [occurrence?, step]
          split <;> rfl

/-- The loop of a run is what has happened to it. -/
theorem run_eq_replay (system : System) (moves : List Move) :
    (system.run moves).loop = system.loop.replay (system.history occurrence? moves) := by
  induction moves generalizing system with
  | nil => rfl
  | cons move later ih =>
      rw [history, Loop.replay_append, ← step_eq_replay]
      exact ih (system.step move)

end System

/-! ## Calls and replies of the past -/

namespace Loop

/-- The loop with more calls and replies in its past. -/
def behind (calls : List Call) (replies : List (Ticket × Except Error Unit)) (loop : Loop) : Loop :=
  { loop with calls := calls ++ loop.calls, replies := replies ++ loop.replies }

section Behind

variable (calls : List Call) (replies : List (Ticket × Except Error Unit)) (loop : Loop)
variable (now : Instant)

@[simp] theorem options_behind : (loop.behind calls replies).options = loop.options := rfl

@[simp] theorem receivedAny_behind :
    (loop.behind calls replies).receivedAny = loop.receivedAny := rfl

@[simp] theorem readiness_behind : (loop.behind calls replies).readiness = loop.readiness := rfl

@[simp] theorem phase_behind : (loop.behind calls replies).phase = loop.phase := rfl

@[simp] theorem heartbeat_behind : (loop.behind calls replies).heartbeat = loop.heartbeat := rfl

@[simp] theorem slot_behind (kind : TimerKind) :
    (loop.behind calls replies).slot kind = loop.slot kind := by
  cases kind <;> rfl

@[simp] theorem isIdle_behind : (loop.behind calls replies).isIdle = loop.isIdle := rfl

@[simp] theorem finish_behind (exit : Exit) :
    (loop.behind calls replies).finish exit = (loop.finish exit).behind calls replies := by
  simp [finish, behind]

@[simp] theorem stop_behind (exit : Exit) :
    (loop.behind calls replies).stop exit = (loop.stop exit).behind calls replies := by
  cases farewell : exit.farewell <;> simp [stop, finish, behind, farewell]

@[simp] theorem fail_behind (cause : Error) (farewell : Option CloseReason) :
    (loop.behind calls replies).fail cause farewell =
      (loop.fail cause farewell).behind calls replies :=
  stop_behind calls replies loop _

@[simp] theorem write_behind (frame : Frame) (flush : Bool) (errand : Errand) :
    (loop.behind calls replies).write frame flush errand =
      (loop.write frame flush errand).behind calls replies := by
  simp [write, behind]

@[simp] theorem reply_behind (ticket : Ticket) (result : Except Error Unit) :
    (loop.behind calls replies).reply ticket result =
      (loop.reply ticket result).behind calls replies := by
  simp [reply, behind]

@[simp] theorem resolve_behind (reason : ReadyReason) :
    (loop.behind calls replies).resolve reason = (loop.resolve reason).behind calls replies := by
  rw [resolve, resolve, apply_ite (behind calls replies)]
  rfl

@[simp] theorem startReadiness_behind :
    (loop.behind calls replies).startReadiness now =
      (loop.startReadiness now).behind calls replies := by
  simp only [startReadiness, readiness_behind, options_behind, resolve_behind]
  split
  · split <;> rfl
  · rfl

@[simp] theorem report_behind (error : ProtocolError) :
    (loop.behind calls replies).report error = (loop.report error).behind calls replies := by
  simp only [report, readiness_behind, fail_behind]
  split <;> rfl

@[simp] theorem onOpen_behind (data : Engine.Open) :
    (loop.behind calls replies).onOpen now data = (loop.onOpen now data).behind calls replies := by
  simp only [onOpen, report_behind]
  split <;> rfl

@[simp] theorem onEvent_behind (event : Event) :
    (loop.behind calls replies).onEvent event = (loop.onEvent event).behind calls replies := by
  cases event with
  | endpointReady => exact resolve_behind calls replies { loop with readinessTimer := _ } _
  | protocolError error => exact report_behind calls replies loop error
  | processInput | message | error | typingStatus | finalPing | triggeredElement | exception => rfl

@[simp] theorem onEventPacket_behind (packet : Socket.Packet) :
    (loop.behind calls replies).onEventPacket packet =
      (loop.onEventPacket packet).behind calls replies := by
  simp only [onEventPacket, options_behind, onEvent_behind, write_behind, fail_behind]
  split
  · rfl
  · split <;> rfl

@[simp] theorem onSocketPacket_behind (packet : Socket.Packet) :
    (loop.behind calls replies).onSocketPacket now packet =
      (loop.onSocketPacket now packet).behind calls replies := by
  cases packet <;> simp [onSocketPacket]

@[simp] theorem onEnginePacket_behind (packet : Engine.Packet) :
    (loop.behind calls replies).onEnginePacket now packet =
      (loop.onEnginePacket now packet).behind calls replies := by
  cases packet with
  | pong => rfl
  | opening | ping | message | close | upgrade | noop | binary | broken => simp [onEnginePacket]

@[simp] theorem seen_behind :
    (loop.behind calls replies).seen = loop.seen.behind calls replies := by
  rw [seen, seen, apply_ite (behind calls replies)]
  rfl

theorem onFrame_eq (frame : Frame) :
    loop.onFrame now frame =
      match Engine.Packet.decode? frame with
      | some packet => loop.seen.onEnginePacket now packet
      | none => loop.seen := rfl

@[simp] theorem onFrame_behind (frame : Frame) :
    (loop.behind calls replies).onFrame now frame =
      (loop.onFrame now frame).behind calls replies := by
  rw [onFrame_eq, onFrame_eq, seen_behind]
  split <;> simp

theorem onPingTick_eq (generation : Nat) :
    loop.onPingTick now generation =
      if loop.pingTimer.isLive generation then
        match loop.heartbeat with
        | some beat =>
            loop.write Engine.Packet.ping.encode true (.heartbeat beat (beat.timeout.after now))
        | none => loop
      else loop := rfl

@[simp] theorem onTick_behind (tick : Tick) :
    (loop.behind calls replies).onTick now tick = (loop.onTick now tick).behind calls replies := by
  obtain ⟨kind, generation⟩ := tick
  cases kind with
  | ping =>
      simp only [onTick, onPingTick_eq, apply_ite (behind calls replies), heartbeat_behind,
        write_behind]
      cases loop.heartbeat <;> rfl
  | pong =>
      simp only [onTick, onPongTick, apply_ite (behind calls replies), ← fail_behind]
      rfl
  | readiness =>
      simp only [onTick, onReadinessTick, apply_ite (behind calls replies), ← resolve_behind]
      rfl

@[simp] theorem onCommand_behind (command : Command) :
    (loop.behind calls replies).onCommand command =
      (loop.onCommand command).behind calls replies := by
  cases command <;> simp [onCommand]

@[simp] theorem remoteEnd_behind :
    (loop.behind calls replies).remoteEnd = loop.remoteEnd.behind calls replies := by
  simp only [remoteEnd, receivedAny_behind, readiness_behind, fail_behind, stop_behind,
    apply_ite (behind calls replies)]

@[simp] theorem onDeadline_behind :
    (loop.behind calls replies).onDeadline = loop.onDeadline.behind calls replies := by
  simp only [onDeadline, readiness_behind, options_behind, fail_behind,
    apply_ite (behind calls replies)]

@[simp] theorem react_behind (stimulus : Stimulus) :
    (loop.behind calls replies).react now stimulus =
      (loop.react now stimulus).behind calls replies := by
  cases stimulus with
  | frame frame => cases frame <;> simp [react]
  | failure | ended | command | abandoned | tick | deadline => simp [react]

@[simp] theorem handle_behind (stimulus : Stimulus) :
    (loop.behind calls replies).handle now stimulus =
      (loop.handle now stimulus).behind calls replies := by
  simp only [handle, isIdle_behind, react_behind, apply_ite (behind calls replies)]

@[simp] theorem onWritten_behind (errand : Errand) :
    (loop.behind calls replies).onWritten now errand =
      (loop.onWritten now errand).behind calls replies := by
  cases errand with
  | answerPing => rfl
  | acknowledge packet => exact onEvent_behind calls replies { loop with phase := .idle } _
  | heartbeat beat limit =>
      simp only [onWritten, apply_ite (behind calls replies)]
      rfl
  | request ticket => exact reply_behind calls replies { loop with phase := .idle } ticket _

@[simp] theorem onWriteFailed_behind (error : Error) (errand : Errand) :
    (loop.behind calls replies).onWriteFailed error errand =
      (loop.onWriteFailed error errand).behind calls replies := by
  cases errand <;> simp [onWriteFailed]

@[simp] theorem resume_behind (result : Except Error Unit) :
    (loop.behind calls replies).resume now result =
      (loop.resume now result).behind calls replies := by
  simp only [resume, phase_behind, onWritten_behind, onWriteFailed_behind, finish_behind]
  split <;> simp [behind]

@[simp] theorem expire_behind :
    (loop.behind calls replies).expire = loop.expire.behind calls replies := by
  simp only [expire, phase_behind, fail_behind]
  split <;> rfl

@[simp] theorem setSlot_behind (kind : TimerKind) (slot : Slot) :
    (loop.behind calls replies).setSlot kind slot =
      (loop.setSlot kind slot).behind calls replies := by
  cases kind <;> rfl

/-- What a loop does next does not depend on its calls and replies, and it only adds to them. -/
theorem undergo_behind (occurrence : Occurrence) :
    (loop.behind calls replies).undergo now occurrence =
      (loop.undergo now occurrence).behind calls replies := by
  cases occurrence <;> simp [undergo]

@[simp] theorem limit?_behind : (loop.behind calls replies).limit? = loop.limit? := rfl

end Behind

end Loop

namespace System

/-- The system with more calls and replies in the past of its loop. -/
def behind (calls : List Call) (replies : List (Ticket × Except Error Unit)) (system : System) :
    System :=
  { system with loop := system.loop.behind calls replies }

section Behind

variable (calls : List Call) (replies : List (Ticket × Except Error Unit)) (system : System)

theorem handle_behind (stimulus : Stimulus) :
    (system.behind calls replies).handle stimulus =
      (system.handle stimulus).behind calls replies := by
  simp [handle, behind]

theorem fire_behind (kind : TimerKind) :
    (system.behind calls replies).fire kind = (system.fire kind).behind calls replies := by
  simp only [fire, behind, Loop.slot_behind, Loop.setSlot_behind]
  split <;> rfl

/-- Every move does the same to both. -/
theorem step_behind (move : Move) :
    (system.behind calls replies).step move = (system.step move).behind calls replies := by
  cases move with
  | fire kind => exact fire_behind calls replies system kind
  | arrive arrival => exact handle_behind calls replies system _
  | takeTick =>
      obtain ⟨now, deadline, loop, ticks, commands, handles⟩ := system
      cases ticks with
      | nil => rfl
      | cons tick rest =>
          simp only [step, takeTick, behind, Loop.isIdle_behind, handle, Loop.handle_behind]
          split <;> rfl
  | takeCommand =>
      obtain ⟨now, deadline, loop, ticks, commands, handles⟩ := system
      cases commands with
      | nil => rfl
      | cons command rest =>
          simp only [step, takeCommand, behind, Loop.isIdle_behind, handle, Loop.handle_behind]
          split <;> rfl
  | elapse span =>
      have dues : (system.behind calls replies).dues = system.dues := by
        simp [System.dues, behind, Loop.slot_behind]
      simp only [step, dues, apply_ite (behind calls replies)]
      rfl
  | submit command =>
      simp only [step, apply_ite (behind calls replies)]
      rfl
  | abandon | deadline =>
      simp only [step, ← handle_behind, apply_ite (behind calls replies)]
      rfl
  | expire =>
      simp only [step, apply_ite (behind calls replies)]
      simp only [behind, Loop.limit?_behind, Loop.expire_behind]
      rfl
  | answer result => simp [step, behind]
  | acquire | release => rfl

theorem run_behind (moves : List Move) :
    (system.behind calls replies).run moves = (system.run moves).behind calls replies := by
  induction moves generalizing system with
  | nil => rfl
  | cons move later ih =>
      change ((system.behind calls replies).step move).run later = _
      rw [step_behind]
      exact ih (system.step move)

end Behind

end System

end ChatSocket.Connection
