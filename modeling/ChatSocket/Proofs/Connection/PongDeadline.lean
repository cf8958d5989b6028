import ChatSocket.Proofs.Connection.Exits
import ChatSocket.Proofs.Connection.Heartbeat

/-!
# The deadline of a pong

The pong timer runs while a ping waits for an answer, and its deadline counts from the
first ping that does.  `Timed` says so of a running loop and of the tick that the timer
has posted, if it has; every step keeps it.
-/

set_option autoImplicit false

namespace ChatSocket.Connection.System

/-- The timer for a deadline, which either waits or has posted its tick. -/
structure Awaited (deadline : Instant) (system : System) (timer : Timer) : Prop where
  held : system.loop.pongTimer.current = some timer
  latest : timer.generation = system.loop.pongTimer.generation
  oneShot : timer.period = none
  waiting :
    (timer.due = some deadline ∧ system.now ≤ deadline ∧
        ⟨.pong, timer.generation⟩ ∉ system.ticks) ∨
      (timer.due = none ∧ deadline ≤ system.now ∧ ⟨.pong, timer.generation⟩ ∈ system.ticks)

/-- The pong timer after a history of the heartbeat. -/
structure Timed (beats : List Beat) (system : System) : Prop where
  inForce : system.loop.heartbeat = Beat.inForce beats
  given : ∀ generation, ⟨.pong, generation⟩ ∈ system.ticks →
    generation ≤ system.loop.pongTimer.generation
  unarmed : Beat.unanswered beats = [] → system.loop.pongTimer.current = none
  armed : ∀ first later, Beat.unanswered beats = first :: later →
    ∃ beat timer, Beat.inForce beats = some beat ∧
      Awaited (beat.timeout.after first) system timer

theorem timed_start (options : ConnectOptions) : Timed [] (start options) where
  inForce := rfl
  given generation posted := by cases posted
  unarmed _ := rfl
  armed first later waiting := by cases waiting

theorem unanswered_of_armed (beats : List Beat) (system : System) (timed : Timed beats system)
    (armed : system.loop.pongTimer.isArmed = true) :
    ∃ first later, Beat.unanswered beats = first :: later := by
  cases waiting : Beat.unanswered beats with
  | nil => simp [Slot.isArmed, timed.unarmed waiting] at armed
  | cons first later => exact ⟨first, later, rfl⟩

theorem unanswered_of_unarmed (beats : List Beat) (system : System) (timed : Timed beats system)
    (unarmed : system.loop.pongTimer.isArmed = false) : Beat.unanswered beats = [] := by
  cases waiting : Beat.unanswered beats with
  | nil => rfl
  | cons first later =>
      obtain ⟨_, timer, _, awaited⟩ := timed.armed first later waiting
      simp [Slot.isArmed, awaited.held] at unarmed

/-! ## The timer is left alone -/

/-- The clock stands, and of the pong ticks at most stale ones are gone. -/
structure Unmoved (before after : System) : Prop where
  now : after.now = before.now
  unposted : ∀ generation, ⟨.pong, generation⟩ ∈ after.ticks → ⟨.pong, generation⟩ ∈ before.ticks
  kept : ∀ generation, before.loop.pongTimer.isLive generation = true →
    ⟨.pong, generation⟩ ∈ before.ticks → ⟨.pong, generation⟩ ∈ after.ticks

theorem awaited_of_unmoved (deadline : Instant) (before after : System) (timer : Timer)
    (awaited : Awaited deadline before timer) (unmoved : Unmoved before after)
    (pongTimer : after.loop.pongTimer = before.loop.pongTimer) :
    Awaited deadline after timer := by
  obtain ⟨held, latest, oneShot, waiting⟩ := awaited
  have live := (Slot.isLive_iff timer.generation _).mpr ⟨timer, held, rfl⟩
  refine ⟨by rw [pongTimer]; exact held, by rw [pongTimer]; exact latest, oneShot, ?_⟩
  rw [unmoved.now]
  rcases waiting with ⟨due, early, unposted⟩ | ⟨spent, passed, posted⟩
  · exact Or.inl ⟨due, early, fun posted => unposted (unmoved.unposted _ posted)⟩
  · exact Or.inr ⟨spent, passed, unmoved.kept _ live posted⟩

theorem timed_of_unmoved (beats : List Beat) (before after : System) (timed : Timed beats before)
    (unmoved : Unmoved before after) (heartbeat : after.loop.heartbeat = before.loop.heartbeat)
    (pongTimer : after.loop.pongTimer = before.loop.pongTimer) : Timed beats after := by
  refine ⟨heartbeat.trans timed.inForce, ?_, ?_, ?_⟩
  · intro generation posted
    rw [pongTimer]
    exact timed.given generation (unmoved.unposted generation posted)
  · intro nothing
    rw [pongTimer]
    exact timed.unarmed nothing
  · intro first later waiting
    obtain ⟨beat, timer, inForce, awaited⟩ := timed.armed first later waiting
    exact ⟨beat, timer, inForce,
      awaited_of_unmoved _ before after timer awaited unmoved pongTimer⟩

/-! ## Time passes -/

theorem awaited_elapse (deadline : Instant) (span : Nat) (system : System) (timer : Timer)
    (awaited : Awaited deadline system timer)
    (allowed : system.dues.all (system.now + span ≤ ·) = true) :
    Awaited deadline { system with now := system.now + span } timer := by
  obtain ⟨held, latest, oneShot, waiting⟩ := awaited
  refine ⟨held, latest, oneShot, ?_⟩
  rcases waiting with ⟨due, _, unposted⟩ | ⟨spent, passed, posted⟩
  · have known : deadline ∈ system.dues := by
      refine List.mem_append_left _ (List.mem_filterMap.mpr ⟨.pong, by decide, ?_⟩)
      simp [Slot.due?, Loop.slot, held, due]
    have early := List.all_eq_true.mp allowed deadline known
    exact Or.inl ⟨due, by simpa using early, unposted⟩
  · exact Or.inr ⟨spent, Nat.le_trans passed (Nat.le_add_right _ span), posted⟩

theorem timed_elapse (beats : List Beat) (span : Nat) (system : System)
    (timed : Timed beats system) : Timed beats (system.step (.elapse span)) := by
  simp only [step]
  split
  · rename_i allowed
    refine { timed with armed := ?_ }
    intro first later waiting
    obtain ⟨beat, timer, inForce, awaited⟩ := timed.armed first later waiting
    exact ⟨beat, timer, inForce, awaited_elapse _ span system timer awaited allowed⟩
  · exact timed

/-- The pong timer with its tick in the mailbox. -/
def postPong (generation : Nat) (system : System) : System :=
  { system with
    loop := system.loop.setSlot .pong (system.loop.pongTimer.fire system.now).2
    ticks := system.ticks ++ [⟨.pong, generation⟩] }

theorem step_firePong (system : System) :
    system.step (.fire .pong) =
      match (system.loop.pongTimer.fire system.now).1 with
      | some generation => system.postPong generation
      | none => system :=
  step_fire .pong system

/-- The tick is posted at the deadline, and the timer has no more to do. -/
theorem awaited_postPong (deadline : Instant) (generation : Nat) (system : System) (timer : Timer)
    (awaited : Awaited deadline system timer)
    (posted : (system.loop.pongTimer.fire system.now).1 = some generation) :
    generation = timer.generation ∧
      Awaited deadline (system.postPong generation) { timer with due := none } := by
  obtain ⟨held, latest, oneShot, waiting⟩ := awaited
  obtain ⟨other, due, otherHeld, otherDue, reached, rfl, after⟩ :=
    Slot.fire_some system.now generation system.loop.pongTimer posted
  cases Option.some.inj (held.symm.trans otherHeld)
  refine ⟨rfl, ?_⟩
  have slot : (system.postPong timer.generation).loop.pongTimer =
      { system.loop.pongTimer with current := some { timer with due := none } } := by
    rw [postPong, after, oneShot]
    rfl
  -- It fires when it is due, and the clock has not passed that: the deadline is now.
  rcases waiting with ⟨waits, _, _⟩ | ⟨spent, _, _⟩
  · cases Option.some.inj (waits.symm.trans otherDue)
    refine ⟨by rw [slot], by rw [slot]; exact latest, oneShot, Or.inr ⟨rfl, reached, ?_⟩⟩
    exact List.mem_append_right _ (List.mem_singleton_self _)
  · cases spent.symm.trans otherDue

theorem timed_firePong (beats : List Beat) (system : System) (timed : Timed beats system) :
    Timed beats (system.step (.fire .pong)) := by
  rw [step_firePong]
  cases posted : (system.loop.pongTimer.fire system.now).1 with
  | none => exact timed
  | some generation =>
      have live := Slot.isLive_of_fire system.now generation system.loop.pongTimer posted
      obtain ⟨timer, held, same⟩ := (Slot.isLive_iff generation _).mp live
      obtain ⟨first, later, waiting⟩ :=
        unanswered_of_armed beats system timed (by simp [Slot.isArmed, held])
      obtain ⟨beat, other, inForce, awaited⟩ := timed.armed first later waiting
      obtain ⟨rfl, awaitedAfter⟩ := awaited_postPong _ generation system other awaited posted
      refine ⟨timed.inForce, ?_, ?_, ?_⟩
      · intro generation known
        have unchanged := Slot.generation_fire system.now system.loop.pongTimer
        refine Nat.le_trans ?_ (Nat.le_of_eq unchanged.symm)
        rcases List.mem_append.mp known with before | now
        · exact timed.given generation before
        · cases List.mem_singleton.mp now
          exact Nat.le_of_eq awaited.latest
      · intro nothing
        cases waiting.symm.trans nothing
      · intro earliest others same
        cases waiting.symm.trans same
        exact ⟨beat, _, inForce, awaitedAfter⟩

theorem timed_fire (beats : List Beat) (kind : TimerKind) (system : System)
    (timed : Timed beats system) : Timed beats (system.step (.fire kind)) := by
  cases kind with
  | pong => exact timed_firePong beats system timed
  | ping | readiness =>
      refine timed_of_unmoved beats system _ timed ⟨now_step system _ (by simp), ?_, ?_⟩ ?_ ?_
      · intro generation posted
        simp only [step, fire] at posted
        split at posted
        · simpa using posted
        · exact posted
      · intro generation _ posted
        rcases mem_ticks_step system (.fire _) _ posted with kept | taken
        · exact kept
        · simp [stimulus?, offer?] at taken
      · rw [step_fire_loop]
        rfl
      · rw [step_fire_loop]
        rfl

/-! ## Beats -/

theorem timed_disarmed (beats : List Beat) (beat : Beat) (before after : System)
    (timed : Timed beats before) (unmoved : Unmoved before after)
    (silenced : Beat.follow (Beat.unanswered beats) beat = [])
    (heartbeat : after.loop.heartbeat = Beat.adopt (Beat.inForce beats) beat)
    (pongTimer : after.loop.pongTimer = before.loop.pongTimer.cancel) :
    Timed (beats ++ [beat]) after := by
  have nothing : Beat.unanswered (beats ++ [beat]) = [] := by
    rw [Beat.unanswered_append]
    exact silenced
  refine ⟨by rw [heartbeat, Beat.inForce_append], ?_, ?_, ?_⟩
  · intro generation posted
    have known := timed.given generation (unmoved.unposted generation posted)
    rw [pongTimer]
    exact Nat.le_trans known (Slot.generation_cancel _).1
  · intro _
    have unarmed := Slot.isArmed_cancel before.loop.pongTimer
    rw [pongTimer]
    simpa [Slot.isArmed] using unarmed
  · intro first later waiting
    cases nothing.symm.trans waiting

/-- The first ping that is written starts the timer. -/
theorem timed_armed (beats : List Beat) (beat : Heartbeat) (before after : System)
    (timed : Timed beats before) (unmoved : Unmoved before after)
    (unarmed : before.loop.pongTimer.isArmed = false)
    (inForce : before.loop.heartbeat = some beat)
    (heartbeat : after.loop.heartbeat = before.loop.heartbeat)
    (pongTimer : after.loop.pongTimer = before.loop.pongTimer.once before.now beat.timeout) :
    Timed (beats ++ [.written before.now]) after := by
  have nothing := unanswered_of_unarmed beats before timed unarmed
  have alone : Beat.unanswered (beats ++ [.written before.now]) = [before.now] := by
    rw [Beat.unanswered_append, nothing]
    rfl
  have adopted : Beat.inForce (beats ++ [.written before.now]) = Beat.inForce beats := by
    rw [Beat.inForce_append]
    rfl
  refine ⟨by rw [heartbeat, adopted, timed.inForce], ?_, ?_, ?_⟩
  · intro generation posted
    have known := timed.given generation (unmoved.unposted generation posted)
    rw [pongTimer]
    exact Nat.le_succ_of_le known
  · intro empty
    cases alone.symm.trans empty
  · intro first later waiting
    cases alone.symm.trans waiting
    -- The new generation is above all that were given, so no tick in the mailbox has it.
    refine ⟨beat, ⟨before.loop.pongTimer.generation + 1, some (beat.timeout.after before.now), none⟩,
      ?_, ?_⟩
    · rw [adopted, ← timed.inForce, inForce]
    · refine ⟨by rw [pongTimer]; rfl, by rw [pongTimer]; rfl, rfl, Or.inl ⟨rfl, ?_, ?_⟩⟩
      · rw [unmoved.now]
        exact Duration.le_after beat.timeout before.now
      · intro posted
        have known := timed.given _ (unmoved.unposted _ posted)
        exact Nat.not_succ_le_self _ known

/-- Later pings leave the timer as it is. -/
theorem timed_armedBefore (beats : List Beat) (time : Instant) (before after : System)
    (timed : Timed beats before) (unmoved : Unmoved before after)
    (armed : before.loop.pongTimer.isArmed = true)
    (heartbeat : after.loop.heartbeat = before.loop.heartbeat)
    (pongTimer : after.loop.pongTimer = before.loop.pongTimer) :
    Timed (beats ++ [.written time]) after := by
  have still := timed_of_unmoved beats before after timed unmoved heartbeat pongTimer
  obtain ⟨first, later, waiting⟩ := unanswered_of_armed beats before timed armed
  have longer : Beat.unanswered (beats ++ [.written time]) = first :: (later ++ [time]) := by
    rw [Beat.unanswered_append, waiting]
    rfl
  have adopted : Beat.inForce (beats ++ [.written time]) = Beat.inForce beats := by
    rw [Beat.inForce_append]
    rfl
  refine ⟨by rw [adopted, still.inForce], still.given, ?_, ?_⟩
  · intro empty
    cases longer.symm.trans empty
  · intro earliest others same
    cases longer.symm.trans same
    rw [adopted]
    exact still.armed first later waiting

theorem timed_of_pulsed (beats : List Beat) (beat? : Option Beat) (before after : System)
    (timed : Timed beats before) (unmoved : Unmoved before after)
    (running : after.loop.isStopped = false)
    (pulsed : Loop.Pulsed before.now before.loop beat? after.loop) :
    Timed (beats ++ beat?.toList) after := by
  cases pulsed with
  | stopped _ _ stopped => cases running.symm.trans stopped
  | quiet _ heartbeat pongTimer =>
      rw [Option.toList_none, List.append_nil]
      exact timed_of_unmoved beats before after timed unmoved heartbeat pongTimer
  | opened beat _ heartbeat pongTimer =>
      exact timed_disarmed beats _ before after timed unmoved rfl heartbeat pongTimer
  | answered _ heartbeat pongTimer =>
      exact timed_disarmed beats _ before after timed unmoved rfl
        (heartbeat.trans timed.inForce) pongTimer
  | armed beat _ unarmed inForce heartbeat pongTimer =>
      exact timed_armed beats beat before after timed unmoved unarmed inForce heartbeat pongTimer
  | armedBefore _ armed heartbeat pongTimer =>
      exact timed_armedBefore beats _ before after timed unmoved armed heartbeat pongTimer

/-! ## Runs -/

theorem stopped_of_livePong (system : System) (move : Move) (generation : Nat)
    (taken : system.stimulus? move = some (.tick ⟨.pong, generation⟩))
    (live : system.loop.pongTimer.isLive generation = true) :
    (system.step move).loop.isStopped = true := by
  have used := Slot.accept_used generation system.loop.pongTimer live
  rw [step_of_taken system move _ taken]
  simp only [Loop.react, Loop.onTick, Loop.onPongTick, used, if_true]
  exact Loop.isStopped_fail _ _ _

theorem unmoved_step (system : System) (move : Move) (timeless : ∀ span, move ≠ .elapse span)
    (unfired : ∀ kind, move ≠ .fire kind) (running : (system.step move).loop.isStopped = false) :
    Unmoved system (system.step move) := by
  refine ⟨now_step system move timeless,
    fun _ posted => mem_ticks_of_step system move _ unfired posted, ?_⟩
  intro generation live posted
  rcases mem_ticks_step system move _ posted with kept | taken
  · exact kept
  · cases running.symm.trans (stopped_of_livePong system move generation taken live)

theorem timed_step (beats : List Beat) (system : System) (move : Move)
    (timed : Timed beats system) (coherent : system.loop.Coherent)
    (running : (system.step move).loop.isStopped = false) :
    Timed (beats ++ (system.beat? move).toList) (system.step move) := by
  cases move with
  | elapse span =>
      rw [beat?_of_untaken system _ (by simp [stimulus?, offer?]) (by simp), Option.toList_none,
        List.append_nil]
      exact timed_elapse beats span system timed
  | fire kind =>
      rw [beat?_of_untaken system _ (by simp [stimulus?, offer?]) (by simp), Option.toList_none,
        List.append_nil]
      exact timed_fire beats kind system timed
  | arrive | submit | acquire | release | takeTick | takeCommand | abandon | deadline | answer
  | expire =>
      have unmoved := unmoved_step system _ (by simp) (by simp) running
      refine timed_of_pulsed beats _ system _ timed unmoved running ?_
      exact pulsed_of_stepped system _ _ coherent (step_stepped system _) (by simp)

/-- While a loop runs, its history tells the state of its pong timer. -/
theorem timed_run (options : ConnectOptions) (moves : List Move)
    (running : ((start options).run moves).loop.isStopped = false) :
    Timed ((start options).beats moves) ((start options).run moves) := by
  induction moves using List.reverseRecOn with
  | nil => exact timed_start options
  | append_singleton moves last ih =>
      rw [run_append] at running
      rw [run_append, beats_append]
      have coherent := Loop.coherent_run options moves
      have timed := ih (running_of_step _ last coherent running)
      exact timed_step _ _ last timed coherent running

/-- A live pong tick comes after the deadline of the first ping that waits. -/
theorem passed_of_livePong (beats : List Beat) (system : System) (generation : Nat)
    (timed : Timed beats system) (posted : ⟨.pong, generation⟩ ∈ system.ticks)
    (live : system.loop.pongTimer.isLive generation = true) :
    ∃ beat first later, Beat.unanswered beats = first :: later ∧ Beat.inForce beats = some beat ∧
      beat.timeout.after first ≤ system.now := by
  obtain ⟨timer, held, rfl⟩ := (Slot.isLive_iff generation _).mp live
  obtain ⟨first, later, waiting⟩ :=
    unanswered_of_armed beats system timed (by simp [Slot.isArmed, held])
  obtain ⟨beat, other, inForce, awaited⟩ := timed.armed first later waiting
  cases Option.some.inj (held.symm.trans awaited.held)
  -- A timer that still waits has no tick that could be taken.
  rcases awaited.waiting with ⟨_, _, unposted⟩ | ⟨_, passed, _⟩
  · exact absurd posted unposted
  · exact ⟨beat, first, later, waiting, inForce, passed⟩

/-- Of all ticks only a live one of the pong timer stops the loop. -/
theorem livePong_of_stopped (system : System) (move : Move) (tick : Tick)
    (coherent : system.loop.Coherent) (running : system.loop.isStopped = false)
    (taken : system.stimulus? move = some (.tick tick))
    (stopped : (system.step move).loop.isStopped = true) :
    tick.kind = .pong ∧ system.loop.pongTimer.isLive tick.generation = true := by
  obtain ⟨cause, farewell, ends⟩ := ends_of_stepped system move _ (coherent.running running)
    running (step_stepped system move) stopped
  -- Every other reason to stop is a stimulus of another kind, or none.
  have other : ∀ stimulus, system.stimulus? move = some stimulus → stimulus = .tick tick :=
    fun stimulus takenToo => Option.some.inj (takenToo.symm.trans taken)
  cases ends with
  | pongMissing move generation beat takenToo live inForce =>
      cases other _ takenToo
      exact ⟨rfl, live⟩
  | earlyEnd move stimulus takenToo remote | pendingEnd move stimulus takenToo remote
  | orderlyEnd move stimulus takenToo remote =>
      cases other _ takenToo
      cases remote
  | receiveFailed move error takenToo => cases other _ takenToo
  | refused move frame ns data takenToo => cases other _ takenToo
  | malformed move frame error takenToo => cases other _ takenToo
  | connectTimeout move takenToo => cases other _ takenToo
  | cancelled move cause takenToo => cases other _ takenToo
  | closed move reason ticket takenToo => cases other _ takenToo
  | abandoned move takenToo => cases other _ takenToo
  | writeFailed | malformedEvent | pingLate => simp [stimulus?, offer?] at taken

/-- What a running loop expects of the server.  Its pong timer runs exactly while pings wait, until
the deadline of the first of them; nothing but a pong or a heartbeat that is opened anew takes the
timer back.  A tick stops the loop exactly if it comes from this timer: then the deadline is over,
the pings still wait, and the error tells the timeout in force. -/
theorem pong_deadline (options : ConnectOptions) (moves : List Move)
    (running : ((start options).run moves).loop.isStopped = false) :
    (((start options).run moves).loop.pongTimer.isArmed = true ↔
        Beat.unanswered ((start options).beats moves) ≠ []) ∧
      (∀ first later, Beat.unanswered ((start options).beats moves) = first :: later →
        ∃ beat timer, Beat.inForce ((start options).beats moves) = some beat ∧
          Awaited (beat.timeout.after first) ((start options).run moves) timer) ∧
      ((start options).run moves).loop.heartbeat = Beat.inForce ((start options).beats moves) ∧
      (∀ move, (∀ kind, move ≠ .fire kind) →
        ((start options).run (moves ++ [move])).loop.isStopped = false →
        (((start options).run moves).beat? move = none ∨
          (∃ time, ((start options).run moves).beat? move = some (.written time)) ∧
            Beat.unanswered ((start options).beats moves) ≠ []) →
        ((start options).run (moves ++ [move])).loop.pongTimer =
          ((start options).run moves).loop.pongTimer) ∧
      (∀ move tick, ((start options).run moves).stimulus? move = some (.tick tick) →
        (((start options).run (moves ++ [move])).loop.isStopped = true ↔
          tick.kind = .pong ∧
            ((start options).run moves).loop.pongTimer.isLive tick.generation = true)) ∧
      (∀ move generation,
        ((start options).run moves).stimulus? move = some (.tick ⟨.pong, generation⟩) →
        ((start options).run moves).loop.pongTimer.isLive generation = true →
        ∃ beat first later earlier,
          (start options).beats moves = earlier ++ (first :: later).map Beat.written ∧
          Beat.unanswered ((start options).beats moves) = first :: later ∧
          Beat.inForce ((start options).beats moves) = some beat ∧
          beat.timeout.after first ≤ ((start options).run moves).now ∧
          ∀ rest, ((start options).run (moves ++ move :: rest)).loop.ending? =
            some (some (.pongTimeout beat.timeout.millis))) ∧
      ∀ generation, ((start options).run moves).loop.pingTimer.isLive generation = true ∨
          ((start options).run moves).loop.pongTimer.isLive generation = true →
        ((start options).run moves).loop.heartbeat.isSome = true := by
  have coherent := Loop.coherent_run options moves
  have live := coherent.running running
  have timed := timed_run options moves running
  have armed_iff : ((start options).run moves).loop.pongTimer.isArmed = true ↔
      Beat.unanswered ((start options).beats moves) ≠ [] := by
    constructor
    · intro armed nothing
      obtain ⟨first, later, waiting⟩ := unanswered_of_armed _ _ timed armed
      cases nothing.symm.trans waiting
    · intro waiting
      by_contra unarmed
      exact waiting (unanswered_of_unarmed _ _ timed (Bool.eq_false_iff.mpr unarmed))
  refine ⟨armed_iff, timed.armed, timed.inForce, ?_, ?_, ?_, ?_⟩
  · intro move unfired runningAfter irrelevant
    rw [← armed_iff] at irrelevant
    rw [run_append] at runningAfter ⊢
    have pulsed := pulsed_of_stepped _ move _ coherent (step_stepped _ move) unfired
    exact Loop.pongTimer_of_pulsed _ _ _ _ pulsed runningAfter irrelevant
  · intro move tick taken
    rw [run_append]
    constructor
    · exact livePong_of_stopped _ move tick coherent running taken
    · rintro ⟨isPong, isLive⟩
      obtain ⟨kind, generation⟩ := tick
      cases isPong
      exact stopped_of_livePong _ move generation taken isLive
  · intro move generation taken isLive
    have posted := mem_ticks_of_taken _ move _ taken
    obtain ⟨beat, first, later, waiting, inForce, passed⟩ :=
      passed_of_livePong _ _ generation timed posted isLive
    obtain ⟨earlier, split⟩ := Beat.unanswered_suffix ((start options).beats moves)
    rw [waiting] at split
    refine ⟨beat, first, later, earlier, split, waiting, inForce, passed, ?_⟩
    intro rest
    have ends := Ends.pongMissing move generation beat taken isLive (timed.inForce.trans inForce)
    rw [run_append_cons]
    exact (left_for_good _ move _ _ rest coherent running ends).2.1
  · rintro generation (ping | pong)
    · exact live.pinging (Slot.isArmed_of_isLive generation _ ping)
    · exact live.ponging (Slot.isArmed_of_isLive generation _ pong)

/-- A session is opened; the first ping is written when the interval is over. -/
def firstPing : List Move :=
  [.arrive (.frame (.text
      "0\x7b\"sid\":\"a\",\"upgrades\":[],\"pingInterval\":25000,\"pingTimeout\":20000\x7d")),
    .elapse 25000, .fire .ping, .takeTick, .answer (.ok ()), .answer (.ok ())]

theorem pong_deadline_of_firstPing :
    ((start .default).run firstPing).loop.isStopped = false ∧
      ∃ timer, Awaited 45000 ((start .default).run firstPing) timer := by
  have running : ((start .default).run firstPing).loop.isStopped = false := by decide +kernel
  have waiting : Beat.unanswered ((start .default).beats firstPing) = [25000] := by
    decide +kernel
  have opened : Beat.inForce ((start .default).beats firstPing) =
      some ⟨.ofMillis 25000, .ofMillis 20000⟩ := by
    decide +kernel
  obtain ⟨_, awaited, _⟩ := pong_deadline .default firstPing running
  obtain ⟨beat, timer, inForce, expected⟩ := awaited 25000 [] waiting
  cases Option.some.inj (opened.symm.trans inForce)
  exact ⟨running, timer, expected⟩

end ChatSocket.Connection.System
