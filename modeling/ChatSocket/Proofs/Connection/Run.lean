import ChatSocket.Connection.System
import ChatSocket.Proofs.Connection.Reaction
import Mathlib.Data.List.Induction

/-!
# Runs

`Stepped` says what a move does to the loop of a connection: the loop takes a
stimulus, a timer fires, the transport answers, a ping is given up, or nothing
happens.  What holds of the loop at the start and is kept by each of these holds
after every list of moves (`run_invariant`).
-/

set_option autoImplicit false

namespace ChatSocket.Connection

/-- The loop takes no more stimuli. -/
def Loop.isStopped (loop : Loop) : Bool :=
  match loop.phase with
  | .closing .. | .ended => true
  | .idle | .sending .. | .flushing _ => false

theorem Loop.isIdle_iff (loop : Loop) : loop.isIdle = true ↔ loop.phase = .idle := by
  cases phase : loop.phase <;> simp [isIdle, phase]

theorem Loop.isEnded_iff (loop : Loop) : loop.isEnded = true ↔ loop.phase = .ended := by
  cases phase : loop.phase <;> simp [isEnded, phase]

namespace System

/-- The stimulus that a move has for a loop that waits. -/
def offer? (system : System) : Move → Option Stimulus
  | .arrive arrival => some arrival.stimulus
  | .takeTick => system.ticks.head?.map .tick
  | .takeCommand => system.commands.head?.map .command
  | .abandon => if system.handles = 0 ∧ system.commands.isEmpty then some .abandoned else none
  | .deadline => if system.deadline ≤ system.now then some .deadline else none
  | .elapse _ | .fire _ | .submit _ | .acquire | .release | .answer _ | .expire => none

/-- The stimulus that the loop takes at a move. -/
def stimulus? (system : System) (move : Move) : Option Stimulus :=
  if system.loop.isIdle then system.offer? move else none

/-- What a move does to the loop. -/
inductive Stepped (system : System) : Move → Loop → Prop
  | took (move : Move) (stimulus : Stimulus) (after : Loop)
      (taken : system.stimulus? move = some stimulus)
      (reacted : Loop.Reacted system.now system.loop stimulus after) : Stepped system move after
  | fired (kind : TimerKind) :
      Stepped system (.fire kind)
        (system.loop.setSlot kind ((system.loop.slot kind).fire system.now).2)
  | answered (result : Except Error Unit) (after : Loop)
      (resumed : Loop.Resumed system.now system.loop result after) :
      Stepped system (.answer result) after
  | expired (beat : Heartbeat) (limit : Instant)
      (writing : system.loop.phase.errand? = some (.heartbeat beat limit))
      (passed : limit ≤ system.now) :
      Stepped system .expire
        (system.loop.fail (.pingTimeout beat.timeout.millis) (some .goingAway))
  | still (move : Move) (untaken : system.stimulus? move = none)
      (unanswered : ∀ result, move ≠ .answer result) : Stepped system move system.loop

theorem stimulus?_eq_some_iff (system : System) (move : Move) (stimulus : Stimulus) :
    system.stimulus? move = some stimulus ↔
      system.loop.phase = .idle ∧ system.offer? move = some stimulus := by
  rw [← Loop.isIdle_iff]
  cases idle : system.loop.isIdle <;> simp [stimulus?, idle]

theorem running_of_taken (system : System) (move : Move) (stimulus : Stimulus)
    (taken : system.stimulus? move = some stimulus) : system.loop.isStopped = false := by
  have idle := ((stimulus?_eq_some_iff system move stimulus).mp taken).1
  simp [Loop.isStopped, idle]

theorem untaken_of_stopped (system : System) (move : Move)
    (stopped : system.loop.isStopped = true) : system.stimulus? move = none := by
  refine Option.eq_none_iff_forall_ne_some.mpr fun stimulus taken => ?_
  cases stopped.symm.trans (running_of_taken system move stimulus taken)

/-- Where the stimulus of a move comes from. -/
inductive Offers (system : System) : Move → Stimulus → Prop
  | arrival (arrival : Arrival) (stimulus : Stimulus) (same : arrival.stimulus = stimulus) :
      Offers system (.arrive arrival) stimulus
  | tick (tick : Tick) (rest : List Tick) (ticks : system.ticks = tick :: rest) :
      Offers system .takeTick (.tick tick)
  | command (command : Command) (rest : List Command)
      (commands : system.commands = command :: rest) : Offers system .takeCommand (.command command)
  | abandoned (unheld : system.handles = 0) (unasked : system.commands = []) :
      Offers system .abandon .abandoned
  | deadline (passed : system.deadline ≤ system.now) : Offers system .deadline .deadline

theorem offers_of_offer? (system : System) (move : Move) (stimulus : Stimulus)
    (offered : system.offer? move = some stimulus) : Offers system move stimulus := by
  cases move with
  | arrive arrival => exact .arrival arrival stimulus (Option.some.inj offered)
  | takeTick =>
      obtain ⟨tick, first, rfl⟩ := Option.map_eq_some_iff.mp offered
      obtain ⟨rest, ticks⟩ := List.head?_eq_some_iff.mp first
      exact .tick tick rest ticks
  | takeCommand =>
      obtain ⟨command, first, rfl⟩ := Option.map_eq_some_iff.mp offered
      obtain ⟨rest, commands⟩ := List.head?_eq_some_iff.mp first
      exact .command command rest commands
  | abandon =>
      obtain ⟨⟨unheld, unasked⟩, same⟩ := Option.ite_none_right_eq_some.mp offered
      cases same
      exact .abandoned unheld (List.isEmpty_iff.mp unasked)
  | deadline =>
      obtain ⟨passed, same⟩ := Option.ite_none_right_eq_some.mp offered
      cases same
      exact .deadline passed
  | elapse | fire | submit | acquire | release | answer | expire => cases offered

theorem offers_of_taken (system : System) (move : Move) (stimulus : Stimulus)
    (taken : system.stimulus? move = some stimulus) : Offers system move stimulus :=
  offers_of_offer? system move stimulus ((stimulus?_eq_some_iff system move stimulus).mp taken).2

/-- A stimulus that the loop takes decides what it does. -/
theorem step_loop_of_offer? (system : System) (move : Move) (stimulus : Stimulus)
    (idle : system.loop.isIdle = true) (offered : system.offer? move = some stimulus) :
    (system.step move).loop = system.loop.react system.now stimulus := by
  cases offers_of_offer? system move stimulus offered with
  | arrival arrival stimulus same =>
      subst same
      simp [step, handle, Loop.handle, idle]
  | tick tick rest ticks => simp [step, takeTick, ticks, handle, Loop.handle, idle]
  | command command rest commands =>
      simp [step, takeCommand, commands, handle, Loop.handle, idle]
  | abandoned unheld unasked => simp [step, unheld, unasked, handle, Loop.handle, idle]
  | deadline passed => simp [step, passed, handle, Loop.handle, idle]

theorem handle_of_busy (stimulus : Stimulus) (system : System)
    (busy : system.loop.isIdle = false) : system.handle stimulus = system := by
  simp [handle, Loop.handle, busy]

/-- Moves that bring stimuli only. -/
def brings : Move → Bool
  | .arrive _ | .takeTick | .takeCommand | .abandon | .deadline => true
  | _ => false

theorem step_of_untaken (system : System) (move : Move) (untaken : system.stimulus? move = none)
    (bringing : brings move = true) : system.step move = system := by
  cases idle : system.loop.isIdle with
  | false =>
      cases move with
      | takeTick | takeCommand =>
          simp only [step, takeTick, takeCommand, idle]
          split <;> rfl
      | arrive | abandon | deadline => simp [step, handle_of_busy _ system idle]
      | elapse | fire | submit | acquire | release | answer | expire => cases bringing
  | true =>
      have unoffered : system.offer? move = none := by simpa [stimulus?, idle] using untaken
      cases move with
      | arrive arrival => cases unoffered
      | takeTick =>
          have empty : system.ticks = [] := by simpa [offer?] using unoffered
          simp [step, takeTick, empty]
      | takeCommand =>
          have empty : system.commands = [] := by simpa [offer?] using unoffered
          simp [step, takeCommand, empty]
      | abandon =>
          have notAlone : ¬ (system.handles = 0 ∧ system.commands.isEmpty) := by
            simpa [offer?] using unoffered
          rw [step, if_neg notAlone]
      | deadline =>
          have early : ¬ system.deadline ≤ system.now := by simpa [offer?] using unoffered
          rw [step, if_neg early]
      | elapse | fire | submit | acquire | release | answer | expire => cases bringing

theorem step_fire_loop (kind : TimerKind) (system : System) :
    (system.step (.fire kind)).loop =
      system.loop.setSlot kind ((system.loop.slot kind).fire system.now).2 := by
  simp only [step, fire]
  split
  · rename_i generation slot fired
    rw [fired]
  · rename_i slot fired
    rw [Slot.fire_of_none _ _ (by rw [fired]), Loop.setSlot_slot]

/-- A timer that fires posts a tick; one that does not changes nothing. -/
theorem step_fire (kind : TimerKind) (system : System) :
    system.step (.fire kind) =
      match ((system.loop.slot kind).fire system.now).1 with
      | some generation =>
          { system with
            loop := system.loop.setSlot kind ((system.loop.slot kind).fire system.now).2
            ticks := system.ticks ++ [⟨kind, generation⟩] }
      | none => system := by
  simp only [step, fire]
  split <;>
  · rename_i fired
    rw [fired]

theorem limit?_eq_some_iff (loop : Loop) (limit : Instant) :
    loop.limit? = some limit ↔
      ∃ beat, loop.phase.errand? = some (.heartbeat beat limit) := by
  cases phase : loop.phase with
  | sending frame flush errand | flushing errand =>
      cases errand <;> simp [Loop.limit?, Phase.errand?, phase]
  | idle | closing | ended => simp [Loop.limit?, Phase.errand?, phase]

theorem expire_of_writing (loop : Loop) (beat : Heartbeat) (limit : Instant)
    (writing : loop.phase.errand? = some (.heartbeat beat limit)) :
    loop.expire = loop.fail (.pingTimeout beat.timeout.millis) (some .goingAway) := by
  cases phase : loop.phase with
  | sending frame flush errand | flushing errand =>
      rw [phase] at writing
      cases writing
      simp [Loop.expire, phase]
  | idle | closing | ended => simp [Phase.errand?, phase] at writing

theorem step_stepped (system : System) (move : Move) :
    Stepped system move (system.step move).loop := by
  -- Without a stimulus only timers, the transport and a late ping can change the loop.
  cases taken : system.stimulus? move with
  | some stimulus =>
      obtain ⟨idle, offered⟩ := (stimulus?_eq_some_iff system move stimulus).mp taken
      rw [step_loop_of_offer? system move stimulus (system.loop.isIdle_iff.mpr idle) offered]
      exact .took move stimulus _ taken (Loop.react_reacted _ stimulus _)
  | none =>
      cases move with
      | takeTick | takeCommand | abandon | deadline | arrive =>
          rw [step_of_untaken system _ taken rfl]
          exact .still _ taken (by simp)
      | elapse | submit =>
          simp only [step]
          split <;> exact .still _ taken (by simp)
      | acquire | release => exact .still _ taken (by simp)
      | fire kind =>
          rw [step_fire_loop]
          exact .fired kind
      | answer result => exact .answered result _ (Loop.resume_resumed _ result _)
      | expire =>
          simp only [step]
          split
          · rename_i passed
            obtain ⟨limit, limited, late⟩ := (Option.any_eq_true _ _).mp passed
            obtain ⟨beat, writing⟩ := (limit?_eq_some_iff _ limit).mp limited
            simp only [expire_of_writing _ beat limit writing]
            exact .expired beat limit writing (by simpa using late)
          · exact .still _ taken (by simp)

/-! ## The clock and the mailbox -/

theorem now_step (system : System) (move : Move) (timeless : ∀ span, move ≠ .elapse span) :
    (system.step move).now = system.now := by
  cases move with
  | elapse span => exact absurd rfl (timeless span)
  | fire kind =>
      simp only [step, fire]
      split <;> rfl
  | takeTick =>
      simp only [step, takeTick]
      split
      · split <;> rfl
      · rfl
  | takeCommand =>
      simp only [step, takeCommand]
      split
      · split <;> rfl
      · rfl
  | submit | abandon | deadline | expire =>
      simp only [step]
      split <;> rfl
  | arrive | acquire | release | answer => rfl

/-- Only timers post ticks. -/
theorem mem_ticks_of_step (system : System) (move : Move) (tick : Tick)
    (unfired : ∀ kind, move ≠ .fire kind) (posted : tick ∈ (system.step move).ticks) :
    tick ∈ system.ticks := by
  cases move with
  | fire kind => exact absurd rfl (unfired kind)
  | takeTick =>
      simp only [step, takeTick] at posted
      split at posted
      · rename_i first rest ticks
        split at posted
        · rw [ticks]
          exact .tail first posted
        · exact posted
      · exact posted
  | takeCommand =>
      simp only [step, takeCommand] at posted
      split at posted
      · split at posted <;> exact posted
      · exact posted
  | elapse | submit | abandon | deadline | expire =>
      simp only [step] at posted
      split at posted <;> exact posted
  | arrive | acquire | release | answer => exact posted

/-- A tick waits until the loop takes it. -/
theorem mem_ticks_step (system : System) (move : Move) (tick : Tick)
    (posted : tick ∈ system.ticks) :
    tick ∈ (system.step move).ticks ∨ system.stimulus? move = some (.tick tick) := by
  cases move with
  | fire kind =>
      simp only [step, fire]
      split
      · exact Or.inl (List.mem_append_left _ posted)
      · exact Or.inl posted
  | takeTick =>
      cases ticks : system.ticks with
      | nil =>
          rw [ticks] at posted
          cases posted
      | cons first rest =>
          cases idle : system.loop.isIdle with
          | false =>
              rw [ticks] at posted
              simp [step, takeTick, ticks, idle, posted]
          | true =>
              rw [ticks] at posted
              rcases List.mem_cons.mp posted with rfl | later
              · simp [stimulus?, offer?, ticks, idle]
              · simp [step, takeTick, ticks, idle, handle, later]
  | takeCommand =>
      simp only [step, takeCommand]
      split
      · split <;> exact Or.inl posted
      · exact Or.inl posted
  | elapse | submit | abandon | deadline | expire =>
      simp only [step]
      split <;> exact Or.inl posted
  | arrive | acquire | release | answer => exact Or.inl posted

theorem mem_ticks_of_taken (system : System) (move : Move) (tick : Tick)
    (taken : system.stimulus? move = some (.tick tick)) : tick ∈ system.ticks := by
  cases offers_of_taken system move _ taken with
  | arrival arrival stimulus same => cases arrival <;> cases same
  | tick tick rest ticks =>
      rw [ticks]
      exact List.mem_cons_self

/-! ## Runs -/

theorem run_append (system : System) (moves : List Move) (last : Move) :
    system.run (moves ++ [last]) = (system.run moves).step last := by
  simp [run]

theorem run_append_run (system : System) (moves later : List Move) :
    system.run (moves ++ later) = (system.run moves).run later :=
  List.foldl_append

theorem run_append_cons (system : System) (moves later : List Move) (move : Move) :
    system.run (moves ++ move :: later) = ((system.run moves).step move).run later := by
  simp [run]

/-- What every step keeps holds after every run. -/
theorem run_invariant (invariant : System → Prop) (system : System) (moves : List Move)
    (atStart : invariant system)
    (kept : ∀ (system : System) (move : Move), invariant system → invariant (system.step move)) :
    invariant (system.run moves) := by
  induction moves using List.reverseRecOn with
  | nil => exact atStart
  | append_singleton moves last ih =>
      rw [run_append]
      exact kept (system.run moves) last ih

/-- What holds at the end but not at the start began with a move and has held since. -/
theorem run_since (holds : System → Prop) (system : System) (moves : List Move)
    (notAtStart : ¬ holds system) (atEnd : holds (system.run moves)) :
    ∃ before move during, moves = before ++ move :: during ∧ ¬ holds (system.run before) ∧
      ∀ part, part <+: during → holds (system.run (before ++ move :: part)) := by
  induction moves using List.reverseRecOn with
  | nil => exact absurd atEnd notAtStart
  | append_singleton moves last ih =>
      by_cases already : holds (system.run moves)
      · obtain ⟨before, move, during, rfl, notBefore, since⟩ := ih already
        refine ⟨before, move, during ++ [last], by simp, notBefore, ?_⟩
        intro part shorter
        rcases List.prefix_concat_iff.mp shorter with rfl | shorter
        · simpa using atEnd
        · exact since part shorter
      · refine ⟨moves, last, [], rfl, already, ?_⟩
        intro part shorter
        rw [List.prefix_nil.mp shorter]
        exact atEnd

/-- What lasts once it holds begins with one move of a run. -/
theorem run_switch (holds : System → Prop) (system : System) (moves : List Move)
    (lasting : ∀ part later, holds (system.run part) → holds ((system.run part).run later))
    (notAtStart : ¬ holds system) (atEnd : holds (system.run moves)) :
    ∃ before move during, moves = before ++ move :: during ∧
      (∀ part, part <+: before → ¬ holds (system.run part)) ∧
      ∀ part, part <+: during → holds (system.run (before ++ move :: part)) := by
  obtain ⟨before, move, during, split, notBefore, since⟩ :=
    run_since holds system moves notAtStart atEnd
  refine ⟨before, move, during, split, ?_, since⟩
  rintro part ⟨rest, rfl⟩ already
  have stillThere := lasting part rest already
  rw [← run_append_run] at stillThere
  exact notBefore stillThere

/-- No move of a run does it. -/
def Without (happens : System → Move → Prop) (system : System) (moves : List Move) : Prop :=
  ∀ part move rest, moves = part ++ move :: rest → ¬ happens (system.run part) move

theorem without_concat_iff (happens : System → Move → Prop) (system : System)
    (moves : List Move) (last : Move) :
    Without happens system (moves ++ [last]) ↔
      Without happens system moves ∧ ¬ happens (system.run moves) last := by
  constructor
  · intro without
    refine ⟨?_, without moves last [] rfl⟩
    rintro part move rest rfl
    exact without part move (rest ++ [last]) (by simp)
  · rintro ⟨before, notLast⟩ part move rest split
    -- The move is the last one, or it came before.
    rcases List.eq_nil_or_concat rest with rfl | ⟨shorter, final, rfl⟩
    · obtain ⟨rfl, same⟩ := List.append_inj' split rfl
      cases same
      exact notLast
    · rw [List.concat_eq_append, ← List.cons_append, ← List.append_assoc] at split
      obtain ⟨rfl, _⟩ := List.append_inj' split rfl
      exact before part move shorter rfl

theorem without_cons_iff (happens : System → Move → Prop) (system : System) (move : Move)
    (later : List Move) :
    Without happens system (move :: later) ↔
      ¬ happens system move ∧ Without happens (system.step move) later := by
  constructor
  · intro without
    refine ⟨without [] move later rfl, ?_⟩
    rintro part next rest rfl
    exact without (move :: part) next rest rfl
  · rintro ⟨notFirst, after⟩ part next rest split
    cases part with
    | nil =>
        cases split
        exact notFirst
    | cons head tail =>
        cases split
        exact after tail next rest rfl

instance decidableWithout (happens : System → Move → Prop)
    [decides : ∀ system move, Decidable (happens system move)] (system : System) :
    (moves : List Move) → Decidable (Without happens system moves)
  | [] => .isTrue fun part _ _ split => by cases part <;> cases split
  | move :: later =>
      have := decidableWithout happens (system.step move) later
      decidable_of_iff _ (without_cons_iff happens system move later).symm

end System

end ChatSocket.Connection
