import ChatSocket.Proofs.Connection.PongDeadline
import ChatSocket.Proofs.Connection.ReadinessPolicy
import ChatSocket.Proofs.Connection.Rest
import ChatSocket.Proofs.Connection.Wire
import ChatSocket.Proofs.Engine.Spans

/-!
# The cadence of pings

An Open that the loop accepts starts the ping timer anew.  From then on its ticks are posted after
each period, and each of them makes the loop write one ping, however late it is taken.  `Paced`
counts both against the clock; `ping_cadence` is what follows for every run.
-/

set_option autoImplicit false

namespace ChatSocket.Connection

/-- A ping is being written. -/
def Phase.isPing (phase : Phase) : Bool :=
  match phase.errand? with
  | some (.heartbeat ..) => true
  | _ => false

theorem Phase.isPing_iff (phase : Phase) :
    phase.isPing = true ↔ ∃ beat limit, phase.errand? = some (.heartbeat beat limit) := by
  rcases writing : phase.errand? with _ | errand
  · simp [isPing, writing]
  · cases errand <;> simp [isPing, writing]

namespace System

/-- The loop takes an Open with a heartbeat that it can keep. -/
def Opens (system : System) (move : Move) : Prop :=
  ∃ beat, system.beat? move = some (.opened beat)

instance (system : System) (move : Move) : Decidable (Opens system move) :=
  match opened : system.beat? move with
  | some (.opened beat) => .isTrue ⟨beat, opened⟩
  | some .answered | some (.written _) | none => .isFalse fun ⟨_, other⟩ => by
      cases opened.symm.trans other

/-- The time at which a move makes the loop write a ping. -/
def ping? (system : System) (move : Move) : Option Instant :=
  if !system.loop.phase.isPing && (system.step move).loop.phase.isPing then some system.now
  else none

def pings (system : System) (moves : List Move) : List Instant := system.history ping? moves

/-- The time at which the ping timer posts a tick. -/
def post? (system : System) : Move → Option Instant
  | .fire .ping => (system.loop.pingTimer.fire system.now).1.map fun _ => system.now
  | _ => none

def posts (system : System) (moves : List Move) : List Instant := system.history post? moves

theorem pings_append (system : System) (moves : List Move) (last : Move) :
    system.pings (moves ++ [last]) =
      system.pings moves ++ ((system.run moves).ping? last).toList :=
  history_concat ping? system moves last

theorem posts_append (system : System) (moves : List Move) (last : Move) :
    system.posts (moves ++ [last]) =
      system.posts moves ++ ((system.run moves).post? last).toList :=
  history_concat post? system moves last

/-! ## Where pings come from -/

/-- The loop takes a tick of the ping timer that is in force. -/
structure Pings (system : System) (move : Move) (generation : Nat) : Prop where
  taken : system.stimulus? move = some (.tick ⟨.ping, generation⟩)
  live : system.loop.pingTimer.isLive generation = true

theorem isPing_of_pings (system : System) (move : Move) (generation : Nat)
    (coherent : system.loop.Coherent) (pings : Pings system move generation) :
    (system.step move).loop.phase.isPing = true := by
  have running := coherent.running (running_of_taken system move _ pings.taken)
  have armed := Slot.isArmed_of_isLive generation _ pings.live
  obtain ⟨beat, inForce⟩ := Option.isSome_iff_exists.mp (running.pinging armed)
  rw [step_of_taken system move _ pings.taken]
  simp [Loop.react, Loop.onTick, Loop.onPingTick, pings.live, inForce, Loop.write, Phase.isPing,
    Phase.errand?]

theorem ping?_eq_some_iff (system : System) (move : Move) (time : Instant)
    (coherent : system.loop.Coherent) :
    system.ping? move = some time ↔
      time = system.now ∧ ∃ generation, Pings system move generation := by
  constructor
  · intro pinged
    obtain ⟨begins, same⟩ := Option.ite_none_right_eq_some.mp pinged
    obtain ⟨notBefore, after⟩ := Bool.and_eq_true_iff.mp begins
    obtain ⟨beat, limit, writing⟩ := (Phase.isPing_iff _).mp after
    have course := course_of_stepped system move _ (step_stepped system move)
    rcases asked_of_course system move _ _ course writing with asks | already
    · cases asks with
      | heartbeat generation beat taken live inForce =>
          exact ⟨(Option.some.inj same).symm, generation, taken, live⟩
    · rw [(Phase.isPing_iff _).mpr ⟨beat, limit, already⟩] at notBefore
      cases notBefore
  · rintro ⟨rfl, generation, pings⟩
    have idle := ((stimulus?_eq_some_iff system move _).mp pings.taken).1
    have before : system.loop.phase.isPing = false := by rw [idle]; rfl
    have after := isPing_of_pings system move generation coherent pings
    simp [ping?, before, after]

/-! ## What moves the ping timer -/

theorem pingTimer_seen (loop : Loop) : loop.seen.pingTimer = loop.pingTimer := by
  rw [Loop.seen]
  split <;> rfl

theorem data_of_ofFrame? (frame : Frame) (beat : Heartbeat)
    (opened : Beat.ofFrame? frame = some (.opened beat)) :
    ∃ data, Engine.Packet.decode? frame = some (.opening data) ∧
      (data.pingInterval.isZero || data.pingTimeout.isZero) = false ∧
      beat = ⟨data.pingInterval, data.pingTimeout⟩ := by
  rw [Beat.ofFrame?] at opened
  split at opened
  · rename_i data read
    obtain ⟨positive, same⟩ := Option.ite_none_left_eq_some.mp opened
    cases same
    exact ⟨data, read, Bool.eq_false_iff.mpr positive, rfl⟩
  · cases opened
  · cases opened

theorem data_of_opened (system : System) (move : Move) (beat : Heartbeat)
    (opened : system.beat? move = some (.opened beat)) :
    ∃ frame data, system.stimulus? move = some (.frame frame) ∧
      Engine.Packet.decode? frame = some (.opening data) ∧
      (data.pingInterval.isZero || data.pingTimeout.isZero) = false ∧
      beat = ⟨data.pingInterval, data.pingTimeout⟩ := by
  cases taken : system.stimulus? move with
  | some stimulus =>
      rw [beat?_of_taken system move stimulus taken] at opened
      cases stimulus with
      | frame frame =>
          obtain ⟨data, found⟩ := data_of_ofFrame? frame beat opened
          exact ⟨frame, data, rfl, found⟩
      | failure | ended | command | abandoned | tick | deadline => cases opened
  | none =>
      by_cases answers : ∃ result, move = .answer result
      · obtain ⟨result, rfl⟩ := answers
        cases result with
        | error error => simp [beat?, taken] at opened
        | ok =>
            rw [beat?_of_answer] at opened
            split at opened <;> cases opened
      · rw [beat?_of_untaken system move taken (not_exists.mp answers)] at opened
        cases opened

theorem unopened_of_untaken (system : System) (move : Move)
    (untaken : ∀ frame, system.stimulus? move ≠ some (.frame frame)) : ¬ Opens system move := by
  rintro ⟨beat, opened⟩
  obtain ⟨frame, _, taken, _⟩ := data_of_opened system move beat opened
  exact untaken frame taken

theorem step_of_opened (system : System) (move : Move) (beat : Heartbeat)
    (opened : system.beat? move = some (.opened beat)) :
    (system.step move).loop.phase = .idle ∧ (system.step move).now = system.now ∧
      (system.step move).loop.pingTimer = system.loop.pingTimer.every system.now beat.interval := by
  obtain ⟨frame, data, taken, read, positive, rfl⟩ := data_of_opened system move beat opened
  have idle := ((stimulus?_eq_some_iff system move _).mp taken).1
  have timeless : ∀ span, move ≠ .elapse span := by
    rintro span rfl
    simp [stimulus?, offer?] at taken
  refine ⟨?_, now_step system move timeless, ?_⟩ <;>
    rw [step_of_taken system move _ taken, Loop.react_of_read _ frame _ _ read]
  · simp [Loop.onEnginePacket, Loop.onOpen, positive, Loop.phase_seen, idle]
  · simp [Loop.onEnginePacket, Loop.onOpen, positive, pingTimer_seen]

/-- How a move that is no firing leaves the ping timer. -/
inductive Winds (system : System) (move : Move) (after : Loop) : Prop
  | stopped (stopped : after.isStopped = true)
  | opened (beat : Heartbeat) (opened : system.beat? move = some (.opened beat))
      (timer : after.pingTimer = system.loop.pingTimer.every system.now beat.interval)
  | kept (unopened : ¬ Opens system move) (timer : after.pingTimer = system.loop.pingTimer)

theorem winds_of_kept (system : System) (move : Move) (between after : Loop)
    (unopened : ¬ Opens system move) (timer : between.pingTimer = system.loop.pingTimer)
    (kept : Loop.FailedOrKept between after) : Winds system move after := by
  rcases kept with ⟨cause, farewell, rfl⟩ | kept
  · exact .stopped (Loop.isStopped_fail _ _ _)
  · exact .kept unopened (kept.pingTimer.trans timer)

theorem winds_of_heard (system : System) (move : Move) (frame : Frame) (after : Loop)
    (taken : system.stimulus? move = some (.frame frame))
    (heard : Loop.Heard system.now system.loop.seen frame after) : Winds system move after := by
  have means : system.beat? move = Beat.ofFrame? frame := beat?_of_taken system move _ taken
  have timer := pingTimer_seen system.loop
  have unopened : ∀ beat?, Beat.ofFrame? frame = beat? → (∀ beat, beat? ≠ some (.opened beat)) →
      ¬ Opens system move := by
    rintro beat? rfl other ⟨beat, opened⟩
    exact other beat (means.symm.trans opened)
  cases heard with
  | silent silent => exact .kept (unopened _ (Beat.ofFrame?_of_silent frame silent) (by simp)) timer
  | opened data read interval timeout =>
      refine .opened ⟨data.pingInterval, data.pingTimeout⟩ ?_ ?_
      · rw [means]
        simp [Beat.ofFrame?, read, interval, timeout]
      · rw [← timer]
  | asked read =>
      exact .kept (unopened none (by simp [Beat.ofFrame?, read]) (by simp)) timer
  | answered read =>
      exact .kept (unopened (some .answered) (by simp [Beat.ofFrame?, read]) (by simp)) timer
  | joined ns data after read joined =>
      exact winds_of_kept system move _ after
        (unopened _ (Beat.ofFrame?_of_socketPacket frame _ read) (by simp)) timer
        (Or.inr (Loop.kept_of_joined _ _ after joined))
  | refused => exact .stopped (Loop.isStopped_fail _ _ _)
  | acknowledged ns ackId name args answer read =>
      exact .kept (unopened _ (Beat.ofFrame?_of_socketPacket frame _ read) (by simp)) timer
  | noted ns ackId name args after read unasked noted =>
      exact winds_of_kept system move _ after
        (unopened _ (Beat.ofFrame?_of_socketPacket frame _ read) (by simp)) timer
        (Loop.kept_of_noted _ _ after noted)
  | reported error after malformed noEvent reported =>
      exact winds_of_kept system move _ after
        (unopened _ (Beat.ofFrame?_of_malformed frame error malformed) (by simp)) timer
        (Loop.kept_of_reported error _ after reported)

theorem winds_of_reacted (system : System) (move : Move) (stimulus : Stimulus) (after : Loop)
    (taken : system.stimulus? move = some stimulus)
    (reacted : Loop.Reacted system.now system.loop stimulus after) : Winds system move after := by
  cases reacted with
  | frame frame after notClose heard => exact winds_of_heard system move frame after taken heard
  | send | deadlinePassed =>
      refine .kept (unopened_of_untaken system move ?_) rfl
      simp [taken]
  | tick tick after ticked =>
      have unopened : ¬ Opens system move := unopened_of_untaken system move (by simp [taken])
      cases ticked with
      | stale | ping | pingAlone | assumed | assumedAgain => exact .kept unopened rfl
      | pong => exact .stopped (Loop.isStopped_fail _ _ _)
  | earlyEnd | pendingEnd | orderlyEnd | failure | close | cancel | abandoned | deadline =>
      exact .stopped (Loop.isStopped_stop _ _)

theorem winds_of_resumed (system : System) (result : Except Error Unit) (after : Loop)
    (resumed : Loop.Resumed system.now system.loop result after) :
    Winds system (.answer result) after := by
  have unopened : ¬ Opens system (.answer result) :=
    unopened_of_untaken system _ (by simp [stimulus?, offer?])
  cases resumed with
  | sent | answeredPing | pinged | pingedAgain | served | unmoved => exact .kept unopened rfl
  | acknowledged packet after concluding noted =>
      exact winds_of_kept system _ { system.loop with phase := .idle } after unopened rfl
        (Loop.kept_of_noted _ _ after noted)
  | requestFailed | failed => exact .stopped (Loop.isStopped_fail _ _ _)
  | closed => exact .stopped rfl

theorem winds_step (system : System) (move : Move) (unfired : ∀ kind, move ≠ .fire kind) :
    Winds system move (system.step move).loop := by
  have stepped := step_stepped system move
  generalize (system.step move).loop = after at stepped
  cases stepped with
  | took move stimulus after taken reacted =>
      exact winds_of_reacted system move stimulus after taken reacted
  | fired kind => exact absurd rfl (unfired kind)
  | answered result after resumed => exact winds_of_resumed system result after resumed
  | expired => exact .stopped (Loop.isStopped_fail _ _ _)
  | still move untaken =>
      exact .kept (unopened_of_untaken system move (by simp [untaken])) rfl

theorem timer_of_unopened (system : System) (move : Move) (unfired : move ≠ .fire .ping)
    (unopened : ¬ Opens system move) (running : (system.step move).loop.isStopped = false) :
    (system.step move).loop.pingTimer = system.loop.pingTimer := by
  by_cases fires : ∃ kind, move = .fire kind
  · obtain ⟨kind, rfl⟩ := fires
    have other : .ping ≠ kind := by
      rintro rfl
      exact unfired rfl
    rw [step_fire_loop]
    exact Loop.slot_setSlot_of_ne kind .ping _ system.loop other
  · cases winds_step system move (not_exists.mp fires) with
    | stopped stopped => cases stopped.symm.trans running
    | opened beat opened => exact absurd ⟨beat, opened⟩ unopened
    | kept _ timer => exact timer

theorem post?_of_other (system : System) (move : Move) (unfired : move ≠ .fire .ping) :
    system.post? move = none := by
  cases move with
  | fire kind =>
      cases kind with
      | ping => exact absurd rfl unfired
      | pong | readiness => rfl
  | elapse | arrive | submit | acquire | release | takeTick | takeCommand | abandon | deadline
  | answer | expire => rfl

/-! ## The mailbox -/

/-- What a move does to the ticks that wait. -/
inductive Mailed (system : System) (move : Move) (ticks : List Tick) : Prop
  | taken (tick : Tick) (taken : system.stimulus? move = some (.tick tick))
      (waited : system.ticks = tick :: ticks)
  | posted (kind : TimerKind) (generation : Nat) (fires : move = .fire kind)
      (posted : ((system.loop.slot kind).fire system.now).1 = some generation)
      (longer : ticks = system.ticks ++ [⟨kind, generation⟩])
  | kept (untaken : ∀ tick, system.stimulus? move ≠ some (.tick tick))
      (silent : ∀ kind, move = .fire kind → ((system.loop.slot kind).fire system.now).1 = none)
      (same : ticks = system.ticks)

theorem mailed_step (system : System) (move : Move) :
    Mailed system move (system.step move).ticks := by
  have kept : (∀ kind, move ≠ .fire kind) → move ≠ .takeTick →
      (system.step move).ticks = system.ticks → Mailed system move (system.step move).ticks := by
    intro unfired other same
    refine .kept ?_ (fun kind fires => absurd fires (unfired kind)) same
    intro tick taken
    cases offers_of_taken system move _ taken with
    | arrival arrival stimulus same => cases arrival <;> cases same
    | tick tick rest ticks => exact other rfl
  cases move with
  | fire kind =>
      rw [step_fire]
      cases posted : ((system.loop.slot kind).fire system.now).1 with
      | some generation => exact .posted kind generation rfl posted rfl
      | none =>
          refine .kept (by simp [stimulus?, offer?]) ?_ rfl
          rintro other same
          cases same
          exact posted
  | takeTick =>
      cases taken : system.stimulus? .takeTick with
      | none =>
          refine .kept (by simp [taken]) (by simp) ?_
          rw [step_of_untaken system _ taken rfl]
      | some stimulus =>
          have idle := ((stimulus?_eq_some_iff system _ _).mp taken).1
          cases offers_of_taken system _ _ taken with
          | tick tick rest ticks =>
              refine .taken tick taken ?_
              simp [step, takeTick, ticks, handle, system.loop.isIdle_iff.mpr idle]
  | takeCommand =>
      refine kept (by simp) (by simp) ?_
      simp only [step, takeCommand]
      split
      · split <;> rfl
      · rfl
  | elapse | submit | abandon | deadline | expire =>
      refine kept (by simp) (by simp) ?_
      simp only [step]
      split <;> rfl
  | arrive | acquire | release | answer => exact kept (by simp) (by simp) rfl

/-- No tick and no timer has a generation that was not given out yet. -/
structure Stamped (system : System) : Prop where
  ticks : ∀ generation, ⟨.ping, generation⟩ ∈ system.ticks →
    generation ≤ system.loop.pingTimer.generation
  timer : ∀ generation, system.loop.pingTimer.isLive generation = true →
    generation ≤ system.loop.pingTimer.generation

theorem stamped_fire (system : System) (kind : TimerKind) (stamped : Stamped system) :
    Stamped (system.step (.fire kind)) := by
  have fired := step_fire_loop kind system
  by_cases isPing : kind = .ping
  · subst isPing
    have timer : (system.step (.fire .ping)).loop.pingTimer =
        (system.loop.pingTimer.fire system.now).2 := by
      rw [fired]
      rfl
    refine ⟨?_, ?_⟩
    · intro generation posted
      rw [timer, Slot.generation_fire]
      rcases mem_ticks_fire system .ping _ posted with before | ⟨_, now⟩
      · exact stamped.ticks generation before
      · exact stamped.timer generation (Slot.isLive_of_fire _ _ _ now)
    · intro generation live
      rw [timer, Slot.isLive_fire] at live
      rw [timer, Slot.generation_fire]
      exact stamped.timer generation live
  · have timer : (system.step (.fire kind)).loop.pingTimer = system.loop.pingTimer := by
      rw [fired]
      exact Loop.slot_setSlot_of_ne kind .ping _ system.loop (Ne.symm isPing)
    refine ⟨?_, by rw [timer]; exact stamped.timer⟩
    intro generation posted
    rw [timer]
    rcases mem_ticks_fire system kind _ posted with before | ⟨same, _⟩
    · exact stamped.ticks generation before
    · exact absurd same.symm isPing

theorem stamped_step (system : System) (move : Move) (stamped : Stamped system)
    (running : (system.step move).loop.isStopped = false) : Stamped (system.step move) := by
  by_cases fires : ∃ kind, move = .fire kind
  · obtain ⟨kind, rfl⟩ := fires
    exact stamped_fire system kind stamped
  · have before : ∀ generation, ⟨.ping, generation⟩ ∈ (system.step move).ticks →
        generation ≤ system.loop.pingTimer.generation := fun generation posted =>
      stamped.ticks generation (mem_ticks_of_step system move _ (not_exists.mp fires) posted)
    cases winds_step system move (not_exists.mp fires) with
    | stopped stopped => cases stopped.symm.trans running
    | opened beat opened timer =>
        refine ⟨fun generation posted => ?_, fun generation live => ?_⟩
        · rw [timer]
          exact Nat.le_succ_of_le (before generation posted)
        · rw [timer] at live ⊢
          exact Nat.le_of_eq ((Slot.isLive_install _ _ generation _).mp live)
    | kept unopened timer =>
        refine ⟨fun generation posted => ?_, ?_⟩
        · rw [timer]
          exact before generation posted
        · rw [timer]
          exact stamped.timer

theorem stamped_run (options : ConnectOptions) (moves : List Move)
    (running : ((start options).run moves).loop.isStopped = false) :
    Stamped ((start options).run moves) := by
  induction moves using List.reverseRecOn with
  | nil => exact ⟨nofun, nofun⟩
  | append_singleton moves last ih =>
      rw [run_append] at running ⊢
      have before := running_of_step _ last (Loop.coherent_run options moves) running
      exact stamped_step _ last (ih before) running

/-! ## Pings, ticks and the clock -/

/-- The first times at which a timer with this period posts a tick. -/
def schedule (origin : Instant) (period count : Nat) : List Instant :=
  (List.range count).map fun index => origin + (index + 1) * period

theorem schedule_succ (origin : Instant) (period count : Nat) :
    schedule origin period (count + 1) =
      schedule origin period count ++ [origin + (count + 1) * period] := by
  simp [schedule, List.range_succ]

/-- The ping timer and its ticks after pings at some times and ticks at others. -/
structure Paced (origin : Instant) (period generation : Nat) (pings posts : List Instant)
    (system : System) : Prop where
  timer : system.loop.pingTimer =
    ⟨some ⟨generation, some (origin + (posts.length + 1) * period), some period⟩, generation⟩
  posted : posts = schedule origin period posts.length
  /-- Every tick has led to a ping, or it waits. -/
  counted : pings.length + system.ticks.count ⟨.ping, generation⟩ = posts.length
  passed : origin + posts.length * period ≤ system.now
  ahead : system.now ≤ origin + (posts.length + 1) * period

section Paced

variable (origin : Instant) (period generation : Nat) (pings posts : List Instant)

theorem isLive_of_paced (system : System) (paced : Paced origin period generation pings posts system)
    (other : Nat) : system.loop.pingTimer.isLive other = true ↔ other = generation := by
  rw [paced.timer, Slot.isLive, Option.any_some, beq_iff_eq]
  exact eq_comm

theorem ping?_of_paced (system : System) (move : Move) (coherent : system.loop.Coherent)
    (paced : Paced origin period generation pings posts system) :
    system.ping? move =
      if system.stimulus? move = some (.tick ⟨.ping, generation⟩) then some system.now
      else none := by
  split
  · rename_i taken
    have live := (isLive_of_paced origin period generation pings posts system paced _).mpr rfl
    exact (ping?_eq_some_iff system move _ coherent).mpr ⟨rfl, generation, taken, live⟩
  · rename_i untaken
    refine Option.eq_none_iff_forall_ne_some.mpr fun time pinged => ?_
    obtain ⟨_, other, taken, live⟩ := (ping?_eq_some_iff system move time coherent).mp pinged
    cases (isLive_of_paced origin period generation pings posts system paced other).mp live
    exact untaken taken

theorem paced_start (options : ConnectOptions) (before : List Move) (opening : Move)
    (beat : Heartbeat)
    (opened : ((start options).run before).beat? opening = some (.opened beat)) :
    Paced ((start options).run before).now (Slot.periodOf beat.interval)
      (((start options).run before).loop.pingTimer.generation + 1) [] []
      (((start options).run before).step opening) := by
  obtain ⟨frame, _, taken, _⟩ := data_of_opened _ opening beat opened
  obtain ⟨_, now, timer⟩ := step_of_opened _ opening beat opened
  have unfired : ∀ kind, opening ≠ .fire kind := by
    rintro kind rfl
    simp [stimulus?, offer?] at taken
  have stamped := stamped_run options before (running_of_taken _ opening _ taken)
  -- The generation of the new timer is above all that were given out.
  have unposted : ⟨.ping, ((start options).run before).loop.pingTimer.generation + 1⟩ ∉
      (((start options).run before).step opening).ticks := fun posted =>
    Nat.not_succ_le_self _ (stamped.ticks _ (mem_ticks_of_step _ opening _ unfired posted))
  refine ⟨?_, rfl, ?_, ?_, ?_⟩
  · rw [timer]
    simp [Slot.every, Slot.install]
  · rw [List.count_eq_zero_of_not_mem unposted]
    rfl
  · rw [now]
    simp
  · rw [now]
    exact Nat.le_add_right _ _

/-- A move that neither opens a session nor posts a ping tick, at one point of time. -/
theorem paced_of_timer (system : System) (move : Move) (coherent : system.loop.Coherent)
    (paced : Paced origin period generation pings posts system)
    (timer : (system.step move).loop.pingTimer = system.loop.pingTimer)
    (now : (system.step move).now = system.now) (unposted : system.post? move = none) :
    Paced origin period generation (pings ++ (system.ping? move).toList)
      (posts ++ (system.post? move).toList) (system.step move) := by
  rw [ping?_of_paced origin period generation pings posts system move coherent paced, unposted,
    Option.toList_none, List.append_nil]
  refine { paced with timer := timer.trans paced.timer, passed := ?_, ahead := ?_, counted := ?_ }
  · have counted := paced.counted
    cases mailed_step system move with
    | taken tick taken waited =>
        rw [taken]
        rw [waited, List.count_cons] at counted
        by_cases same : tick = ⟨.ping, generation⟩
        · simp [same] at counted ⊢
          omega
        · simp [same] at counted ⊢
          omega
    | posted kind other fires posted longer =>
        subst fires
        have otherKind : kind ≠ .ping := by
          rintro rfl
          have posted : (system.loop.pingTimer.fire system.now).1 = some other := posted
          simp [post?, posted] at unposted
        rw [if_neg (by simp [stimulus?, offer?]), longer, List.count_append]
        simp [otherKind, counted]
    | kept untaken silent same =>
        rw [if_neg (untaken _), same]
        simpa using counted
  · rw [now]
    exact paced.passed
  · rw [now]
    exact paced.ahead

/-- The clock does not pass the next tick. -/
theorem paced_elapse (system : System) (span : Nat)
    (paced : Paced origin period generation pings posts system) :
    Paced origin period generation pings posts (system.step (.elapse span)) := by
  simp only [step]
  split
  · rename_i allowed
    have due : origin + (posts.length + 1) * period ∈ system.dues := by
      refine List.mem_append_left _ (List.mem_filterMap.mpr ⟨.ping, by decide, ?_⟩)
      rw [Loop.slot, paced.timer]
      rfl
    have early := List.all_eq_true.mp allowed _ due
    exact { paced with
      passed := Nat.le_trans paced.passed (Nat.le_add_right _ span)
      ahead := by simpa using early }
  · exact paced

/-- A tick is posted when its time has come, and the next one is a period away. -/
theorem paced_fire (system : System) (paced : Paced origin period generation pings posts system) :
    Paced origin period generation pings (posts ++ (system.post? (.fire .ping)).toList)
      (system.step (.fire .ping)) := by
  have fired : (system.step (.fire .ping)).loop.pingTimer =
      (system.loop.pingTimer.fire system.now).2 := by
    rw [step_fire_loop]
    rfl
  cases posted : (system.loop.pingTimer.fire system.now).1 with
  | none =>
      have still : system.step (.fire .ping) = system := by
        rw [step_fire, Loop.slot, posted]
      rw [still, post?, posted]
      simpa using paced
  | some other =>
      obtain ⟨timer, due, held, waits, reached, rfl, after⟩ := Slot.fire_some _ _ _ posted
      rw [paced.timer] at held
      cases held
      cases waits
      have now : system.now = origin + (posts.length + 1) * period :=
        Nat.le_antisymm paced.ahead reached
      have ticks : (system.step (.fire .ping)).ticks = system.ticks ++ [⟨.ping, generation⟩] := by
        rw [step_fire, Loop.slot, posted]
      have next : origin + (posts.length + 1 + 1) * period =
          origin + (posts.length + 1) * period + period := by
        rw [Nat.add_mul _ 1, Nat.one_mul, Nat.add_assoc]
      rw [post?, posted]
      simp only [Option.map_some, Option.toList_some]
      refine ⟨?_, ?_, ?_, ?_, ?_⟩
      · rw [fired, after, paced.timer]
        simp [next]
      · rw [List.length_append, List.length_singleton, schedule_succ, ← paced.posted, now]
      · rw [ticks, List.count_append, List.count_singleton_self, ← Nat.add_assoc, paced.counted,
          List.length_append, List.length_singleton]
      · rw [now_step _ _ (by simp), List.length_append, List.length_singleton]
        exact reached
      · rw [now_step _ _ (by simp), List.length_append, List.length_singleton, next, ← now]
        exact Nat.le_add_right _ _

theorem paced_step (system : System) (move : Move) (coherent : system.loop.Coherent)
    (paced : Paced origin period generation pings posts system)
    (unopened : ¬ Opens system move)
    (running : (system.step move).loop.isStopped = false) :
    Paced origin period generation (pings ++ (system.ping? move).toList)
      (posts ++ (system.post? move).toList) (system.step move) := by
  have silent : system.stimulus? move = none → system.ping? move = none := by
    intro untaken
    rw [ping?_of_paced origin period generation pings posts system move coherent paced, untaken]
    rfl
  by_cases fires : move = .fire .ping
  · subst fires
    rw [silent (by simp [stimulus?, offer?]), Option.toList_none, List.append_nil]
    exact paced_fire origin period generation pings posts system paced
  · by_cases elapses : ∃ span, move = .elapse span
    · obtain ⟨span, rfl⟩ := elapses
      rw [silent (by simp [stimulus?, offer?])]
      simpa [post?] using paced_elapse origin period generation pings posts system span paced
    · exact paced_of_timer origin period generation pings posts system move coherent paced
        (timer_of_unopened system move fires unopened running)
        (now_step system move (not_exists.mp elapses)) (post?_of_other system move fires)

theorem coherent_of_run (system : System) (moves : List Move) (coherent : system.loop.Coherent) :
    (system.run moves).loop.Coherent :=
  run_invariant (fun system => system.loop.Coherent) system moves coherent
    (fun system move coherent =>
      Loop.coherent_stepped system move _ coherent (step_stepped system move))

theorem paced_run (system : System) (later : List Move) (coherent : system.loop.Coherent)
    (paced : Paced origin period generation [] [] system) (last : Without Opens system later)
    (running : (system.run later).loop.isStopped = false) :
    Paced origin period generation (system.pings later) (system.posts later)
      (system.run later) := by
  induction later using List.reverseRecOn with
  | nil => exact paced
  | append_singleton later move ih =>
      rw [run_append] at running ⊢
      obtain ⟨lastBefore, unopened⟩ := (without_concat_iff Opens system later move).mp last
      have coherentThen := coherent_of_run system later coherent
      have before := ih lastBefore (running_of_step _ move coherentThen running)
      rw [pings_append, posts_append]
      exact paced_step origin period generation _ _ _ move coherentThen before unopened running

/-- A move that stops the loop writes no ping, and none is written afterwards. -/
theorem ping?_of_stopped (system : System) (move : Move)
    (stopped : (system.step move).loop.isStopped = true) : system.ping? move = none := by
  have unwritten : (system.step move).loop.phase.isPing = false := by
    cases phase : (system.step move).loop.phase <;>
      simp [Loop.isStopped, phase, Phase.isPing, Phase.errand?] at stopped ⊢
  simp [ping?, unwritten]

theorem now_of_pinged (system : System) (move : Move) (time : Instant)
    (coherent : system.loop.Coherent) (pinged : system.ping? move = some time) :
    time = system.now ∧ (system.step move).now = system.now ∧ system.post? move = none := by
  obtain ⟨now, generation, taken, _⟩ := (ping?_eq_some_iff system move time coherent).mp pinged
  refine ⟨now, now_step system move ?_, post?_of_other system move ?_⟩
  · rintro span rfl
    simp [stimulus?, offer?] at taken
  · rintro rfl
    simp [stimulus?, offer?] at taken

/-- The pings come no earlier than the ticks, whatever becomes of the loop. -/
theorem late_run (system : System) (later : List Move) (coherent : system.loop.Coherent)
    (paced : Paced origin period generation [] [] system) (last : Without Opens system later)
    (index : Nat) (time : Instant) (pinged : (system.pings later)[index]? = some time) :
    origin + (index + 1) * period ≤ time ∧ time ≤ (system.run later).now := by
  induction later using List.reverseRecOn generalizing index time with
  | nil => cases pinged
  | append_singleton later move ih =>
      have lastBefore := ((without_concat_iff Opens system later move).mp last).1
      rw [pings_append] at pinged
      rcases Nat.lt_or_ge index (system.pings later).length with inside | behind
      · rw [List.getElem?_append_left inside] at pinged
        obtain ⟨early, known⟩ := ih lastBefore index time pinged
        rw [run_append]
        exact ⟨early, Nat.le_trans known (now_le_step _ move)⟩
      · rw [List.getElem?_append_right behind] at pinged
        cases written : (system.run later).ping? move with
        | none => simp [written] at pinged
        | some now =>
            rw [written, Option.toList_some, List.getElem?_singleton] at pinged
            obtain ⟨first, same⟩ := Option.ite_none_right_eq_some.mp pinged
            cases same
            have coherentThen := coherent_of_run system later coherent
            obtain ⟨rfl, still, _⟩ := now_of_pinged _ move _ coherentThen written
            have running : (system.run (later ++ [move])).loop.isStopped = false := by
              rw [Bool.eq_false_iff, run_append]
              intro stopped
              cases written.symm.trans (ping?_of_stopped _ move stopped)
            have after := paced_run origin period generation system _ coherent paced last running
            have counted := after.counted
            have passed := after.passed
            rw [run_append, still] at passed ⊢
            rw [pings_append, written, List.length_append] at counted
            refine ⟨Nat.le_trans (Nat.add_le_add_left (Nat.mul_le_mul_right period ?_) origin)
              passed, Nat.le_refl _⟩
            simp only [Option.toList_some, List.length_singleton] at counted
            omega

/-! ## Prompt runs -/

/-- The clock moves on although the transport has not answered, or something could happen. -/
def Overtakes (system : System) (move : Move) : Prop :=
  ∃ span, move = .elapse span ∧ 0 < span ∧
    ¬ (system.AtRest ∧ system.loop.phase.call? = none)

instance (system : System) (move : Move) : Decidable (Overtakes system move) :=
  match move with
  | .elapse span =>
      decidable_of_iff (0 < span ∧ ¬ (system.AtRest ∧ system.loop.phase.call? = none))
        ⟨fun busy => ⟨span, rfl, busy⟩, fun ⟨_, same, busy⟩ => by cases same; exact busy⟩
  | .fire _ | .arrive _ | .submit _ | .acquire | .release | .takeTick | .takeCommand | .abandon
  | .deadline | .answer _ | .expire => .isFalse nofun

/-- All ticks have led to a ping at once, but perhaps the one that was just posted. -/
structure Punctual (system : System) : Prop where
  onTime : pings = schedule origin period pings.length
  waiting : pings.length = posts.length ∨
    pings.length + 1 = posts.length ∧ system.now = origin + posts.length * period

theorem idle_of_uncalled (loop : Loop) (running : loop.isStopped = false)
    (uncalled : loop.phase.call? = none) : loop.phase = .idle := by
  cases phase : loop.phase <;> simp [Loop.isStopped, phase, Phase.call?] at running uncalled ⊢

/-- Nothing of the timer is left over where the clock may move on. -/
theorem length_of_atRest (system : System)
    (paced : Paced origin period generation pings posts system)
    (running : system.loop.isStopped = false) (resting : system.AtRest)
    (uncalled : system.loop.phase.call? = none) : pings.length = posts.length := by
  have counted := paced.counted
  rw [ticks_of_atRest system resting (idle_of_uncalled _ running uncalled)] at counted
  exact counted

theorem punctual_step (system : System) (move : Move) (coherent : system.loop.Coherent)
    (positive : 0 < period) (before : Paced origin period generation pings posts system)
    (after : Paced origin period generation (pings ++ (system.ping? move).toList)
      (posts ++ (system.post? move).toList) (system.step move))
    (running : system.loop.isStopped = false) (unhurried : ¬ Overtakes system move)
    (punctual : Punctual origin period pings posts system) :
    Punctual origin period (pings ++ (system.ping? move).toList)
      (posts ++ (system.post? move).toList) (system.step move) := by
  cases pinged : system.ping? move with
  | some time =>
      obtain ⟨rfl, _, unposted⟩ := now_of_pinged system move time coherent pinged
      have counted := after.counted
      simp only [pinged, unposted, Option.toList_some, Option.toList_none, List.append_nil,
        List.length_append, List.length_singleton] at counted ⊢
      -- A tick was there to be taken, so it was posted just now.
      rcases punctual.waiting with done | ⟨last, now⟩
      · omega
      · refine ⟨?_, Or.inl (by simpa using last)⟩
        rw [List.length_append, List.length_singleton, schedule_succ, ← punctual.onTime, last, now]
  | none =>
      rw [Option.toList_none, List.append_nil]
      refine ⟨punctual.onTime, ?_⟩
      cases posted : system.post? move with
      | some time =>
          have fires : move = .fire .ping := by
            by_contra other
            cases posted.symm.trans (post?_of_other system move other)
          have still : (system.step move).now = system.now := now_step system move (by simp [fires])
          have passed := after.passed
          simp only [posted, Option.toList_some, List.length_append, List.length_singleton,
            still] at passed ⊢
          have longer : (posts.length + 1) * period = posts.length * period + period := by
            rw [Nat.add_mul, Nat.one_mul]
          rcases punctual.waiting with done | ⟨_, now⟩
          · exact Or.inr ⟨by rw [done], Nat.le_antisymm before.ahead passed⟩
          · rw [now, longer] at passed
            exact absurd (Nat.le_of_add_le_add_left passed)
              (Nat.not_le_of_lt (Nat.lt_add_of_pos_right positive))
      | none =>
          rw [Option.toList_none, List.append_nil]
          by_cases elapses : ∃ span, move = .elapse span
          · obtain ⟨span, rfl⟩ := elapses
            rcases Nat.eq_zero_or_pos span with rfl | moves
            · have still : (system.step (.elapse 0)).now = system.now := by
                simp only [step, Nat.add_zero]
                split <;> rfl
              rw [still]
              exact punctual.waiting
            · have resting := not_not.mp fun busy => unhurried ⟨span, rfl, moves, busy⟩
              exact Or.inl (length_of_atRest origin period generation pings posts system before
                running resting.1 resting.2)
          · rw [now_step system move (not_exists.mp elapses)]
            exact punctual.waiting

theorem punctual_run (system : System) (later : List Move) (coherent : system.loop.Coherent)
    (positive : 0 < period) (paced : Paced origin period generation [] [] system)
    (last : Without Opens system later) (prompt : Without Overtakes system later)
    (running : (system.run later).loop.isStopped = false) :
    Punctual origin period (system.pings later) (system.posts later) (system.run later) := by
  induction later using List.reverseRecOn with
  | nil => exact ⟨rfl, Or.inl rfl⟩
  | append_singleton later move ih =>
      have after := paced_run origin period generation system _ coherent paced last running
      have lastBefore := ((without_concat_iff Opens system later move).mp last).1
      obtain ⟨promptBefore, unhurried⟩ := (without_concat_iff Overtakes system later move).mp prompt
      have coherentThen := coherent_of_run system later coherent
      rw [run_append] at running
      have runningBefore := running_of_step _ move coherentThen running
      have before :=
        paced_run origin period generation system later coherent paced lastBefore runningBefore
      rw [pings_append, posts_append, run_append] at after ⊢
      exact punctual_step origin period generation _ _ _ move coherentThen positive before after
        runningBefore unhurried (ih lastBefore promptBefore runningBefore)

/-- A loop that has stopped has written its pings in time. -/
theorem onTime_run (system : System) (later : List Move) (coherent : system.loop.Coherent)
    (positive : 0 < period) (paced : Paced origin period generation [] [] system)
    (last : Without Opens system later) (prompt : Without Overtakes system later) :
    system.pings later = schedule origin period (system.pings later).length := by
  induction later using List.reverseRecOn with
  | nil => rfl
  | append_singleton later move ih =>
      cases stopped : (system.run (later ++ [move])).loop.isStopped with
      | false =>
          exact (punctual_run origin period generation system _ coherent positive paced last prompt
            stopped).onTime
      | true =>
          have lastBefore := ((without_concat_iff Opens system later move).mp last).1
          have promptBefore := ((without_concat_iff Overtakes system later move).mp prompt).1
          rw [run_append] at stopped
          rw [pings_append, ping?_of_stopped _ move stopped, Option.toList_none, List.append_nil]
          exact ih lastBefore promptBefore

end Paced

/-! ## The last Open -/

/-- An Open that was accepted, and no other one since. -/
structure LastOpen (options : ConnectOptions) (before : List Move) (opening : Move)
    (later : List Move) (beat : Heartbeat) : Prop where
  opened : ((start options).run before).beat? opening = some (.opened beat)
  last : Without Opens (((start options).run before).step opening) later

theorem lastOpen_of_inForce (options : ConnectOptions) (moves : List Move) (beat : Heartbeat)
    (inForce : Beat.inForce ((start options).beats moves) = some beat) :
    ∃ before opening later, moves = before ++ opening :: later ∧
      LastOpen options before opening later beat := by
  induction moves using List.reverseRecOn with
  | nil => cases inForce
  | append_singleton moves last ih =>
      rw [beats_append] at inForce
      by_cases opens : Opens ((start options).run moves) last
      · obtain ⟨other, opened⟩ := opens
        rw [opened, Option.toList_some, Beat.inForce_append] at inForce
        cases inForce
        refine ⟨moves, last, [], rfl, opened, ?_⟩
        intro part move rest split
        cases part <;> cases split
      · have inForceBefore : Beat.inForce ((start options).beats moves) = some beat := by
          cases meant : ((start options).run moves).beat? last with
          | none => simpa [meant] using inForce
          | some other =>
              rw [meant, Option.toList_some, Beat.inForce_append] at inForce
              cases other with
              | opened other => exact absurd ⟨other, meant⟩ opens
              | answered | written => exact inForce
        obtain ⟨before, opening, later, rfl, lastOpen⟩ := ih inForceBefore
        refine ⟨before, opening, later ++ [last], by simp, lastOpen.opened, ?_⟩
        refine (without_concat_iff Opens _ later last).mpr ⟨lastOpen.last, ?_⟩
        rw [← run_append_cons]
        exact opens

/-- What follows an Open that `system` accepts, as long as no other one is accepted. -/
structure Cadence (system : System) (opening : Move) (beat : Heartbeat) (later : List Move) :
    Prop where
  armed : (system.step opening).loop.pingTimer.current =
    some ⟨system.loop.pingTimer.generation + 1,
      some (system.now + Slot.periodOf beat.interval), some (Slot.periodOf beat.interval)⟩
  /-- No tick is older than the timer that it comes from. -/
  fresh : ⟨.ping, system.loop.pingTimer.generation + 1⟩ ∉ (system.step opening).ticks
  /-- A ping is written exactly if a tick of this timer is taken. -/
  caused : ∀ move time, ((system.step opening).run later).ping? move = some time ↔
    time = ((system.step opening).run later).now ∧
      ((system.step opening).run later).stimulus? move =
        some (.tick ⟨.ping, system.loop.pingTimer.generation + 1⟩)
  /-- Ticks that are posted have led to a ping or wait for the loop. -/
  counted : ((system.step opening).run later).loop.isStopped = false →
    (system.step opening).posts later = schedule system.now (Slot.periodOf beat.interval)
        ((system.step opening).posts later).length ∧
      ((system.step opening).pings later).length +
          ((system.step opening).run later).ticks.count
            ⟨.ping, system.loop.pingTimer.generation + 1⟩ =
        ((system.step opening).posts later).length
  late : ∀ index time, ((system.step opening).pings later)[index]? = some time →
    system.now + (index + 1) * Slot.periodOf beat.interval ≤ time
  bounded : ((system.step opening).pings later).length ≤
    (((system.step opening).run later).now - system.now) * Duration.nanosPerMilli /
      beat.interval.nanoseconds
  wholeMillis : 0 < Slot.periodOf beat.interval ∧
    beat.interval = .ofMillis (Slot.periodOf beat.interval)
  /-- If the clock waits for everything else, the pings follow the ticks at once. -/
  prompt : Without Overtakes (system.step opening) later →
    (system.step opening).pings later = schedule system.now (Slot.periodOf beat.interval)
        ((system.step opening).pings later).length ∧
      (((system.step opening).run later).loop.isStopped = false →
        system.now + ((system.step opening).pings later).length * Slot.periodOf beat.interval ≤
            ((system.step opening).run later).now ∧
          ((system.step opening).run later).now ≤ system.now +
            (((system.step opening).pings later).length + 1) * Slot.periodOf beat.interval ∧
          (((system.step opening).run later).AtRest →
            ((system.step opening).run later).loop.phase.call? = none →
            ((system.step opening).run later).now < system.now +
              (((system.step opening).pings later).length + 1) * Slot.periodOf beat.interval))
  /-- An Open that is refused later changes none of this. -/
  refused : ∀ move frame data,
    ((system.step opening).run later).stimulus? move = some (.frame frame) →
    Engine.Packet.decode? frame = some (.opening data) →
    (data.pingInterval.isZero || data.pingTimeout.isZero) = true →
    ((system.step opening).run later).loop.readiness.isPending = false →
    (((system.step opening).run later).step move).loop.isStopped = false ∧
      (((system.step opening).run later).step move).loop.heartbeat =
        ((system.step opening).run later).loop.heartbeat ∧
      (((system.step opening).run later).step move).loop.pingTimer =
        ((system.step opening).run later).loop.pingTimer

theorem wholeMillis_of_opened (system : System) (move : Move) (beat : Heartbeat)
    (opened : system.beat? move = some (.opened beat)) :
    0 < Slot.periodOf beat.interval ∧ beat.interval = .ofMillis (Slot.periodOf beat.interval) := by
  obtain ⟨frame, data, _, read, positive, rfl⟩ := data_of_opened system move beat opened
  obtain ⟨⟨millis, _, interval⟩, _⟩ := Engine.isCount_of_decode? frame data read
  have counted : 0 < millis := by
    rw [Nat.pos_iff_ne_zero]
    rintro rfl
    simp [interval, Duration.isZero, Duration.ofMillis] at positive
  have period : Slot.periodOf data.pingInterval = millis := by
    rw [Slot.periodOf, interval, Duration.after_ofMillis, Nat.zero_add]
    exact Nat.max_eq_right counted
  rw [period]
  exact ⟨counted, interval⟩

theorem refused_open (system : System) (move : Move) (frame : Frame) (data : Engine.Open)
    (taken : system.stimulus? move = some (.frame frame))
    (read : Engine.Packet.decode? frame = some (.opening data))
    (zero : (data.pingInterval.isZero || data.pingTimeout.isZero) = true)
    (decided : system.loop.readiness.isPending = false) :
    (system.step move).loop.isStopped = false ∧
      (system.step move).loop.heartbeat = system.loop.heartbeat ∧
      (system.step move).loop.pingTimer = system.loop.pingTimer := by
  have idle := ((stimulus?_eq_some_iff system move _).mp taken).1
  have still : system.loop.seen.readiness.isPending = false := by
    rw [Loop.readiness_seen]
    exact decided
  rw [step_of_taken system move _ taken, Loop.react_of_read _ frame _ _ read]
  simp only [Loop.onEnginePacket, Loop.onOpen, zero, if_true, Loop.report, still,
    Bool.false_eq_true, if_false]
  refine ⟨?_, system.loop.heartbeat_seen, pingTimer_seen system.loop⟩
  simp [Loop.isStopped, Loop.phase_seen, idle]

theorem bounded_of_late (origin now : Instant) (span : Duration) (pings : List Instant)
    (positive : 0 < Slot.periodOf span) (whole : span = .ofMillis (Slot.periodOf span))
    (late : ∀ index time, pings[index]? = some time →
      origin + (index + 1) * Slot.periodOf span ≤ time ∧ time ≤ now) :
    pings.length ≤ (now - origin) * Duration.nanosPerMilli / span.nanoseconds := by
  have nanoseconds : span.nanoseconds = Slot.periodOf span * Duration.nanosPerMilli :=
    congrArg Duration.nanoseconds whole
  have elapsed : pings.length * Slot.periodOf span ≤ now - origin := by
    cases counted : pings.length with
    | zero => simp
    | succ count =>
        have inside : count < pings.length := by omega
        obtain ⟨early, known⟩ := late count _ (List.getElem?_eq_getElem inside)
        exact Nat.le_sub_of_add_le' (Nat.le_trans early known)
  rw [nanoseconds, Nat.le_div_iff_mul_le (Nat.mul_pos positive (by decide)), ← Nat.mul_assoc]
  exact Nat.mul_le_mul_right _ elapsed

theorem cadence_of_lastOpen (options : ConnectOptions) (before : List Move) (opening : Move)
    (later : List Move) (beat : Heartbeat)
    (lastOpen : LastOpen options before opening later beat) :
    Cadence ((start options).run before) opening beat later := by
  have paced := paced_start options before opening beat lastOpen.opened
  have wholeMillis := wholeMillis_of_opened _ opening beat lastOpen.opened
  have coherent : (((start options).run before).step opening).loop.Coherent := by
    rw [← run_append]
    exact Loop.coherent_run options _
  have late := late_run _ _ _ _ later coherent paced lastOpen.last
  refine ⟨?_, ?_, ?_, ?_, ?_, ?_, wholeMillis, ?_, ?_⟩
  · rw [paced.timer]
    simp
  · rw [← List.count_eq_zero]
    exact (Nat.zero_add _).symm.trans paced.counted
  · intro move time
    have coherentThen := coherent_of_run _ later coherent
    cases stopped : ((((start options).run before).step opening).run later).loop.isStopped with
    | false =>
        have after := paced_run _ _ _ _ later coherent paced lastOpen.last stopped
        rw [ping?_of_paced _ _ _ _ _ _ move coherentThen after, Option.ite_none_right_eq_some,
          Option.some.injEq, and_comm, eq_comm]
    | true =>
        have stoppedAfter :
            (((((start options).run before).step opening).run later).step move).loop.isStopped =
              true := by
          by_contra running
          have before := running_of_step _ move coherentThen (Bool.eq_false_iff.mpr running)
          cases before.symm.trans stopped
        rw [ping?_of_stopped _ move stoppedAfter, untaken_of_stopped _ move stopped]
        exact iff_of_false nofun nofun
  · intro running
    have after := paced_run _ _ _ _ later coherent paced lastOpen.last running
    exact ⟨after.posted, after.counted⟩
  · intro index time pinged
    exact (late index time pinged).1
  · exact bounded_of_late _ _ _ _ wholeMillis.1 wholeMillis.2 late
  · intro prompt
    refine ⟨onTime_run _ _ _ _ later coherent wholeMillis.1 paced lastOpen.last prompt, ?_⟩
    intro running
    have after := paced_run _ _ _ _ later coherent paced lastOpen.last running
    have punctual :=
      punctual_run _ _ _ _ later coherent wholeMillis.1 paced lastOpen.last prompt running
    refine ⟨?_, ?_, fun resting uncalled => ?_⟩
    · refine Nat.le_trans (Nat.add_le_add_left (Nat.mul_le_mul_right _ ?_) _) after.passed
      exact Nat.le.intro after.counted
    · rcases punctual.waiting with done | ⟨last, now⟩
      · rw [done]
        exact after.ahead
      · rw [last]
        exact Nat.le_of_eq now
    · rw [length_of_atRest _ _ _ _ _ _ after running resting uncalled]
      refine early_of_due _ resting .ping _ ?_
      rw [Loop.slot, after.timer]
      rfl
  · intro move frame data taken read zero decided
    exact refused_open _ move frame data taken read zero decided

/-- Every ping is owed to the Open that was accepted last, and to one tick of the timer that this
Open has started.  So there are never more pings than whole intervals since; and if the clock waits
for everything else, one ping follows at the end of each. -/
theorem ping_cadence (options : ConnectOptions) (moves : List Move) :
    (∀ move time, ((start options).run moves).ping? move = some time →
        ∃ before opening later beat, moves = before ++ opening :: later ∧
          LastOpen options before opening later beat) ∧
      ∀ before opening later beat, moves = before ++ opening :: later →
        LastOpen options before opening later beat →
        Cadence ((start options).run before) opening beat later := by
  refine ⟨?_, ?_⟩
  · intro move time pinged
    have coherent := Loop.coherent_run options moves
    obtain ⟨_, generation, taken, live⟩ := (ping?_eq_some_iff _ move time coherent).mp pinged
    have running := running_of_taken _ move _ taken
    have armed := Slot.isArmed_of_isLive generation _ live
    obtain ⟨beat, inForce⟩ :=
      Option.isSome_iff_exists.mp ((coherent.running running).pinging armed)
    rw [(timed_run options moves running).inForce] at inForce
    obtain ⟨before, opening, later, split, lastOpen⟩ := lastOpen_of_inForce options moves beat inForce
    exact ⟨before, opening, later, beat, split, lastOpen⟩
  · rintro before opening later beat rfl lastOpen
    exact cadence_of_lastOpen options before opening later beat lastOpen

def sessionOpen : Move :=
  .arrive (.frame (.text
    "0\x7b\"sid\":\"a\",\"upgrades\":[],\"pingInterval\":100,\"pingTimeout\":50\x7d"))

/-- The namespace is joined, a ping is answered, and before the next one an Open is refused. -/
def twoPings : List Move :=
  [.arrive (.frame (.text "40")), .elapse 100, .fire .ping, .takeTick, .answer (.ok ()),
    .answer (.ok ()), .arrive (.frame (.text "3")),
    .arrive (.frame (.text
      "0\x7b\"sid\":\"a\",\"upgrades\":[],\"pingInterval\":0,\"pingTimeout\":50\x7d")),
    .elapse 100, .fire .ping, .takeTick]

theorem cadence_of_twoPings :
    LastOpen ⟨.ofMillis 2000, .immediate, false⟩ [] sessionOpen twoPings
        ⟨.ofMillis 100, .ofMillis 50⟩ ∧
      Cadence (start ⟨.ofMillis 2000, .immediate, false⟩) sessionOpen
        ⟨.ofMillis 100, .ofMillis 50⟩ twoPings ∧
      ((start ⟨.ofMillis 2000, .immediate, false⟩).step sessionOpen).pings twoPings =
        schedule 0 100 2 := by
  have lastOpen : LastOpen ⟨.ofMillis 2000, .immediate, false⟩ [] sessionOpen twoPings
      ⟨.ofMillis 100, .ofMillis 50⟩ := ⟨by decide +kernel, by decide +kernel⟩
  have cadence := (ping_cadence ⟨.ofMillis 2000, .immediate, false⟩ (sessionOpen :: twoPings)).2
    [] sessionOpen twoPings _ rfl lastOpen
  have count : (((start ⟨.ofMillis 2000, .immediate, false⟩).step sessionOpen).pings
      twoPings).length = 2 := by decide +kernel
  have onTime : ((start ⟨.ofMillis 2000, .immediate, false⟩).step sessionOpen).pings twoPings =
      schedule 0 (Slot.periodOf (.ofMillis 100))
        (((start ⟨.ofMillis 2000, .immediate, false⟩).step sessionOpen).pings twoPings).length :=
    (cadence.prompt (by decide +kernel)).1
  have period : Slot.periodOf (.ofMillis 100) = 100 := by decide
  refine ⟨lastOpen, cadence, ?_⟩
  rw [onTime, period, count]

end System

end ChatSocket.Connection
