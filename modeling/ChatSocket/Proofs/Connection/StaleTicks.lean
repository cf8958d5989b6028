import ChatSocket.Connection.Timer
import Mathlib.Algebra.Group.Nat.Defs
import Mathlib.Data.List.Induction
import Mathlib.Data.List.Nodup

/-!
# Stale ticks

A slot lives through a list of acts: timers are started, taken out and fire, and
the ticks that they have posted are looked at, each of them as late as one likes.
Timers are named by the order in which they start.  `Standing` says of such a list
alone which timer is in force at its end: the last one that was started, unless it
was cancelled or used up since.  `accept_iff_standing` shows that a slot takes the
ticks of that timer and no others.
-/

set_option autoImplicit false

namespace ChatSocket.Connection.Slot

inductive Act where
  | once (now : Instant) (delay : Duration)
  | every (now : Instant) (period : Duration)
  | cancel
  /-- The timer in the slot posts a tick if it is due. -/
  | fire (now : Instant)
  /-- A tick of some timer is looked at. -/
  | accept (timer : Nat) (oneShot : Bool)
  deriving DecidableEq, Repr

def Act.isStart : Act → Bool
  | .once .. | .every .. => true
  | _ => false

/-- Whether the act puts an end to the timer in the slot, whichever it is. -/
def Act.clears : Act → Bool
  | .once .. | .every .. | .cancel => true
  | _ => false

/-- Whether a timer that is in force stays so. -/
def Act.spares (timer : Nat) : Act → Bool
  | .once .. | .every .. | .cancel => false
  | .fire _ => true
  | .accept other oneShot => !(oneShot && other == timer)

def starts (acts : List Act) : Nat := acts.countP Act.isStart

/-- The timer was started, and since then it was neither replaced nor cancelled nor
used up. -/
def Standing (acts : List Act) (timer : Nat) : Prop :=
  ∃ before start after, acts = before ++ start :: after ∧ start.isStart = true ∧
    starts before = timer ∧ ∀ act ∈ after, act.spares timer = true

/-- A slot with the generations of all timers that were started in it, in order.
A timer puts its generation on every tick that it posts. -/
structure Ledger where
  slot : Slot
  generations : List Nat
  deriving DecidableEq, Repr

namespace Ledger

def start (slot : Slot) (ledger : Ledger) : Ledger :=
  ⟨slot, ledger.generations ++ [slot.generation]⟩

/-- A timer that was not started has no tick that could be looked at. -/
def act (ledger : Ledger) : Act → Ledger
  | .once now delay => ledger.start (ledger.slot.once now delay)
  | .every now period => ledger.start (ledger.slot.every now period)
  | .cancel => { ledger with slot := ledger.slot.cancel }
  | .fire now => { ledger with slot := (ledger.slot.fire now).2 }
  | .accept timer oneShot =>
      match ledger.generations[timer]? with
      | some generation => { ledger with slot := (ledger.slot.accept generation oneShot).2 }
      | none => ledger

/-- Whether the slot takes a tick that the timer has posted. -/
def takes (timer : Nat) (oneShot : Bool) (ledger : Ledger) : Bool :=
  ledger.generations[timer]?.any fun generation => (ledger.slot.accept generation oneShot).1

def after (acts : List Act) : Ledger := acts.foldl act ⟨.empty, []⟩

theorem after_append (acts : List Act) (last : Act) :
    after (acts ++ [last]) = (after acts).act last := by
  simp [after]

end Ledger

/-! ## Timers in force -/

theorem starts_append (acts : List Act) (last : Act) :
    starts (acts ++ [last]) = starts acts + (if last.isStart then 1 else 0) := by
  simp [starts, List.countP_append, List.countP_singleton]

theorem standing_append_iff (acts : List Act) (last : Act) (timer : Nat) :
    Standing (acts ++ [last]) timer ↔
      (last.isStart = true ∧ starts acts = timer) ∨
        (last.spares timer = true ∧ Standing acts timer) := by
  constructor
  · rintro ⟨before, start, after, split, started, named, spared⟩
    -- The start is the last act, or it lies among the earlier ones.
    rcases List.eq_nil_or_concat after with rfl | ⟨rest, final, rfl⟩
    · obtain ⟨rfl, same⟩ := List.append_inj' split rfl
      cases same
      exact Or.inl ⟨started, named⟩
    · rw [List.concat_eq_append, ← List.cons_append, ← List.append_assoc] at split
      obtain ⟨rfl, same⟩ := List.append_inj' split rfl
      cases same
      rw [List.concat_eq_append] at spared
      refine Or.inr ⟨spared last (by simp), before, start, rest, rfl, started, named, ?_⟩
      intro act member
      exact spared act (by simp [member])
  · rintro (⟨started, named⟩ | ⟨spares, before, start, after, rfl, started, named, spared⟩)
    · exact ⟨acts, last, [], rfl, started, named, by simp⟩
    · refine ⟨before, start, after ++ [last], by simp, started, named, ?_⟩
      intro act member
      rcases List.mem_append.mp member with earlier | final
      · exact spared act earlier
      · rw [List.mem_singleton.mp final]
        exact spares

theorem standing_lt_starts (acts : List Act) (timer : Nat) (standing : Standing acts timer) :
    timer < starts acts := by
  obtain ⟨before, start, after, rfl, started, rfl, _⟩ := standing
  simp only [starts, List.countP_append, List.countP_cons, started, if_true]
  omega

/-- What clears the slot ends every timer that was started before it, for good. -/
theorem not_standing_of_clears (before after : List Act) (act : Act) (timer : Nat)
    (clears : act.clears = true) (earlier : timer < starts before) :
    ¬ Standing (before ++ act :: after) timer := by
  induction after using List.reverseRecOn with
  | nil =>
      rw [standing_append_iff]
      rintro (⟨_, named⟩ | ⟨spares, _⟩)
      · omega
      · cases act <;> simp [Act.clears, Act.spares] at clears spares
  | append_singleton rest last ih =>
      rw [← List.cons_append, ← List.append_assoc, standing_append_iff]
      rintro (⟨_, named⟩ | ⟨_, standing⟩)
      · simp only [starts, List.countP_append] at named earlier
        omega
      · exact ih standing

/-- A timer whose tick was looked at for good is not in force again. -/
theorem not_standing_of_used (before after : List Act) (timer : Nat)
    (earlier : timer < starts before) :
    ¬ Standing (before ++ .accept timer true :: after) timer := by
  induction after using List.reverseRecOn with
  | nil =>
      rw [standing_append_iff]
      rintro (⟨started, _⟩ | ⟨spares, _⟩)
      · simp [Act.isStart] at started
      · simp [Act.spares] at spares
  | append_singleton rest last ih =>
      rw [← List.cons_append, ← List.append_assoc, standing_append_iff]
      rintro (⟨_, named⟩ | ⟨_, standing⟩)
      · simp only [starts, List.countP_append] at named earlier
        omega
      · exact ih standing

/-! ## Slots and the timers in force -/

/-- A ledger agrees with the acts that made it. -/
structure Kept (acts : List Act) (ledger : Ledger) : Prop where
  length : ledger.generations.length = starts acts
  increasing : ledger.generations.Pairwise (· < ·)
  given : ∀ generation ∈ ledger.generations, generation ≤ ledger.slot.generation
  counted : ledger.slot.generation ≤ acts.length
  known : ∀ generation, ledger.slot.isLive generation = true → generation ∈ ledger.generations
  live : ∀ timer generation, ledger.generations[timer]? = some generation →
    (ledger.slot.isLive generation = true ↔ Standing acts timer)

theorem Kept.distinct (acts : List Act) (ledger : Ledger) (kept : Kept acts ledger) :
    ledger.generations.Nodup :=
  kept.increasing.imp Nat.ne_of_lt

theorem Kept.timer_unique (acts : List Act) (ledger : Ledger) (kept : Kept acts ledger)
    (first second generation : Nat) (firstNamed : ledger.generations[first]? = some generation)
    (secondNamed : ledger.generations[second]? = some generation) : first = second := by
  obtain ⟨bound, _⟩ := List.getElem?_eq_some_iff.mp firstNamed
  have same := firstNamed.trans secondNamed.symm
  exact (List.getElem?_inj bound (kept.distinct acts ledger)).mp same

theorem kept_start (acts : List Act) (last : Act) (ledger : Ledger) (slot : Slot)
    (kept : Kept acts ledger) (started : last.isStart = true)
    (isNew : slot.generation = ledger.slot.generation + 1)
    (holds : ∀ generation, slot.isLive generation = true ↔ generation = slot.generation) :
    Kept (acts ++ [last]) (ledger.start slot) := by
  have notSpared : ∀ timer, last.spares timer = false := by
    intro timer
    cases last <;> simp [Act.isStart] at started <;> rfl
  refine ⟨?_, ?_, ?_, ?_, ?_, ?_⟩
  · rw [starts_append, started]
    simp [Ledger.start, kept.length]
  · refine List.pairwise_append.mpr ⟨kept.increasing, List.pairwise_singleton _ _, ?_⟩
    intro old member fresh isFresh
    rw [List.mem_singleton.mp isFresh, isNew]
    exact Nat.lt_succ_of_le (kept.given old member)
  · intro generation member
    rcases List.mem_append.mp member with old | fresh
    · have bound := kept.given generation old
      simp only [Ledger.start]
      omega
    · rw [List.mem_singleton.mp fresh]
      exact Nat.le_refl _
  · have counted := kept.counted
    simp only [Ledger.start, List.length_append, List.length_singleton]
    omega
  · intro generation isLive
    rw [(holds generation).mp isLive]
    exact List.mem_append_right _ (List.mem_singleton_self _)
  · intro timer generation named
    rw [standing_append_iff, notSpared timer]
    simp only [Ledger.start, holds, started, Bool.false_eq_true, false_and, or_false, true_and]
    rcases Nat.lt_or_ge timer ledger.generations.length with old | fresh
    · -- An older timer: its generation is smaller, and its name is not the new one.
      rw [Ledger.start, List.getElem?_append_left old] at named
      have bound := kept.given generation (List.mem_of_getElem? named)
      have length := kept.length
      constructor <;> intro <;> omega
    · rw [Ledger.start, List.getElem?_append_right fresh] at named
      obtain ⟨index, rfl⟩ := List.getElem?_eq_some_iff.mp named
      have length := kept.length
      simp only [List.length_singleton] at index
      simp only [List.getElem_singleton, true_iff]
      omega

theorem kept_other (acts : List Act) (last : Act) (ledger : Ledger) (slot : Slot)
    (kept : Kept acts ledger) (notStarted : last.isStart = false)
    (grows : ledger.slot.generation ≤ slot.generation)
    (bound : slot.generation ≤ ledger.slot.generation + 1)
    (old : ∀ generation, slot.isLive generation = true → ledger.slot.isLive generation = true)
    (holds : ∀ timer generation, ledger.generations[timer]? = some generation →
      ledger.slot.isLive generation = true →
        (slot.isLive generation = true ↔ last.spares timer = true)) :
    Kept (acts ++ [last]) { ledger with slot } := by
  refine ⟨?_, kept.increasing, ?_, ?_, ?_, ?_⟩
  · rw [starts_append, notStarted]
    simpa using kept.length
  · intro generation member
    exact Nat.le_trans (kept.given generation member) grows
  · have counted := kept.counted
    simp only [List.length_append, List.length_singleton]
    omega
  · intro generation isLive
    exact kept.known generation (old generation isLive)
  · intro timer generation named
    rw [standing_append_iff, notStarted, ← kept.live timer generation named]
    simp only [Bool.false_eq_true, false_and, false_or]
    constructor
    · intro isLive
      have wasLive := old generation isLive
      exact ⟨(holds timer generation named wasLive).mp isLive, wasLive⟩
    · rintro ⟨spares, wasLive⟩
      exact (holds timer generation named wasLive).mpr spares

/-- Looking at a tick for good takes the timer out that posted it, and no other. -/
theorem isLive_accept (acts : List Act) (ledger : Ledger) (kept : Kept acts ledger)
    (looked timer own generation : Nat) (oneShot : Bool)
    (lookedNamed : ledger.generations[looked]? = some own)
    (named : ledger.generations[timer]? = some generation)
    (wasLive : ledger.slot.isLive generation = true) :
    (ledger.slot.accept own oneShot).2.isLive generation = true ↔
      (Act.accept looked oneShot).spares timer = true := by
  by_cases same : looked = timer
  · subst same
    rw [named] at lookedNamed
    cases lookedNamed
    cases oneShot with
    | false => simp [accept_kept, Act.spares, wasLive]
    | true =>
        rw [accept_used own ledger.slot wasLive]
        simp [isLive, Act.spares]
  · have stale : ledger.slot.isLive own = false := by
      refine Bool.eq_false_iff.mpr fun ownLive => same ?_
      have equal := isLive_unique ledger.slot own generation ownLive wasLive
      subst equal
      exact kept.timer_unique acts ledger looked timer own lookedNamed named
    rw [accept_stale own oneShot ledger.slot stale]
    simp [Act.spares, wasLive, same]

theorem kept_act (acts : List Act) (last : Act) (ledger : Ledger) (kept : Kept acts ledger) :
    Kept (acts ++ [last]) (ledger.act last) := by
  cases last with
  | once now delay =>
      exact kept_start acts _ ledger _ kept rfl rfl (isLive_install _ _ · _)
  | every now period =>
      exact kept_start acts _ ledger _ kept rfl rfl (isLive_install _ _ · _)
  | cancel =>
      have grown := generation_cancel ledger.slot
      refine kept_other acts _ ledger _ kept rfl grown.1 grown.2 ?_ ?_
      · intro generation isLive
        simp [isLive_cancel] at isLive
      · intro timer generation _ _
        simp [isLive_cancel, Act.spares]
  | fire now =>
      have same := generation_fire now ledger.slot
      refine kept_other acts _ ledger _ kept rfl (by omega) (by omega) ?_ ?_
      · intro generation isLive
        rwa [isLive_fire] at isLive
      · intro timer generation _ wasLive
        simp [isLive_fire, wasLive, Act.spares]
  | accept looked oneShot =>
      simp only [Ledger.act]
      split
      · rename_i own lookedNamed
        have same := generation_accept own oneShot ledger.slot
        refine kept_other acts _ ledger _ kept rfl (by omega) (by omega) ?_ ?_
        · intro generation isLive
          simp only [accept] at isLive
          split at isLive
          · simp [Slot.isLive] at isLive
          · exact isLive
        · intro timer generation named wasLive
          exact isLive_accept acts ledger kept looked timer own generation oneShot lookedNamed
            named wasLive
      · rename_i unnamed
        refine kept_other acts _ ledger ledger.slot kept rfl (by omega) (by omega)
          (fun _ isLive => isLive) ?_
        intro timer generation named wasLive
        have different : looked ≠ timer := by
          rintro rfl
          simp [unnamed] at named
        simp [wasLive, Act.spares, different]

theorem kept_after (acts : List Act) : Kept acts (Ledger.after acts) := by
  induction acts using List.reverseRecOn with
  | nil =>
      refine ⟨rfl, List.Pairwise.nil, by simp [Ledger.after], by simp [Ledger.after, empty],
        by simp [Ledger.after, empty, isLive], by simp [Ledger.after]⟩
  | append_singleton acts last ih =>
      rw [Ledger.after_append]
      exact kept_act acts last (Ledger.after acts) ih

/-! ## Ticks that are taken -/

theorem takes_iff_isLive (timer : Nat) (oneShot : Bool) (ledger : Ledger) :
    ledger.takes timer oneShot = true ↔
      ∃ generation, ledger.generations[timer]? = some generation ∧
        ledger.slot.isLive generation = true := by
  cases named : ledger.generations[timer]? <;> simp [Ledger.takes, named, accept]

theorem takes_iff_standing (acts : List Act) (timer : Nat) (oneShot : Bool) :
    (Ledger.after acts).takes timer oneShot = true ↔ Standing acts timer := by
  have kept := kept_after acts
  rw [takes_iff_isLive]
  constructor
  · rintro ⟨generation, named, live⟩
    exact (kept.live timer generation named).mp live
  · intro standing
    have bound := standing_lt_starts acts timer standing
    rw [← kept.length] at bound
    have named := List.getElem?_eq_getElem bound
    exact ⟨_, named, (kept.live timer _ named).mpr standing⟩

theorem act_of_not_takes (timer : Nat) (oneShot : Bool) (ledger : Ledger)
    (stale : ledger.takes timer oneShot = false) :
    ledger.act (.accept timer oneShot) = ledger := by
  cases named : ledger.generations[timer]? with
  | none => simp [Ledger.act, named]
  | some generation =>
      have notLive : ledger.slot.isLive generation = false := by
        simpa [Ledger.takes, named, accept] using stale
      simp [Ledger.act, named, accept_stale generation oneShot ledger.slot notLive]

theorem standing_unique (acts : List Act) (first second : Nat)
    (firstStands : Standing acts first) (secondStands : Standing acts second) :
    first = second := by
  have kept := kept_after acts
  obtain ⟨own, firstNamed, firstLive⟩ :=
    (takes_iff_isLive first true _).mp ((takes_iff_standing acts first true).mpr firstStands)
  obtain ⟨other, secondNamed, secondLive⟩ :=
    (takes_iff_isLive second true _).mp ((takes_iff_standing acts second true).mpr secondStands)
  have equal := isLive_unique (Ledger.after acts).slot own other firstLive secondLive
  subst equal
  exact kept.timer_unique acts _ first second own firstNamed secondNamed

/-- The timer that a live generation belongs to. -/
theorem standing_of_isLive (acts : List Act) (generation : Nat)
    (live : (Ledger.after acts).slot.isLive generation = true) :
    ∃ timer, Standing acts timer ∧ (Ledger.after acts).generations[timer]? = some generation := by
  have kept := kept_after acts
  obtain ⟨timer, named⟩ := List.mem_iff_getElem?.mp (kept.known generation live)
  exact ⟨timer, (kept.live timer generation named).mp live, named⟩

theorem isArmed_iff_standing (acts : List Act) :
    (Ledger.after acts).slot.isArmed = true ↔ ∃ timer, Standing acts timer := by
  constructor
  · intro armed
    obtain ⟨current, held⟩ := Option.isSome_iff_exists.mp armed
    obtain ⟨timer, standing, _⟩ :=
      standing_of_isLive acts current.generation ((isLive_iff _ _).mpr ⟨current, held, rfl⟩)
    exact ⟨timer, standing⟩
  · rintro ⟨timer, standing⟩
    obtain ⟨generation, _, live⟩ :=
      (takes_iff_isLive timer true _).mp ((takes_iff_standing acts timer true).mpr standing)
    obtain ⟨current, held, _⟩ := (isLive_iff generation _).mp live
    simp [isArmed, held]

/-- While fewer than `2 ^ 64` things have happened, generations may as well be
counted in words of 64 bits. -/
theorem word_injective (acts : List Act) (few : acts.length < 2 ^ 64) (first second : Nat)
    (firstGiven : first ∈ (Ledger.after acts).generations)
    (secondGiven : second ∈ (Ledger.after acts).generations)
    (equal : first.toUInt64 = second.toUInt64) : first = second := by
  have kept := kept_after acts
  have small : ∀ given ∈ (Ledger.after acts).generations, given < UInt64.size := by
    intro given member
    exact Nat.lt_of_le_of_lt (Nat.le_trans (kept.given given member) kept.counted) few
  have numbers := congrArg UInt64.toNat equal
  rwa [Nat.toUInt64_eq, Nat.toUInt64_eq, UInt64.toNat_ofNat_of_lt' (small _ firstGiven),
    UInt64.toNat_ofNat_of_lt' (small _ secondGiven)] at numbers

theorem isLive_word (acts : List Act) (few : acts.length < 2 ^ 64) (generation : Nat)
    (given : generation ∈ (Ledger.after acts).generations) :
    (Ledger.after acts).slot.current.any (·.generation.toUInt64 == generation.toUInt64) =
      (Ledger.after acts).slot.isLive generation := by
  have kept := kept_after acts
  cases held : (Ledger.after acts).slot.current with
  | none => simp [isLive, held]
  | some current =>
      have currentGiven : current.generation ∈ (Ledger.after acts).generations :=
        kept.known current.generation ((isLive_iff _ _).mpr ⟨current, held, rfl⟩)
      have words : current.generation.toUInt64 = generation.toUInt64 ↔
          current.generation = generation := by
        constructor
        · exact word_injective acts few _ _ currentGiven given
        · rintro rfl
          rfl
      simp only [isLive, held, Option.any_some]
      rw [Bool.eq_iff_iff, beq_iff_eq, beq_iff_eq, words]

/-- A slot takes a tick if and only if the timer that posted it is in force, and a
tick that is not taken changes nothing.  So nothing of a timer is taken any more
once another was started, once the slot was cancelled or once its tick was looked at
for good, whatever happens later.  No two timers have the same generation, also when
generations are words of 64 bits, and at no time is more than one timer in force. -/
theorem accept_iff_standing (acts : List Act) :
    (∀ timer oneShot, (Ledger.after acts).takes timer oneShot = true ↔ Standing acts timer) ∧
    (∀ timer oneShot, (Ledger.after acts).takes timer oneShot = false →
      (Ledger.after acts).act (.accept timer oneShot) = Ledger.after acts) ∧
    (∀ before act after timer oneShot, acts = before ++ act :: after → timer < starts before →
      (act.clears = true ∨ act = .accept timer true) →
      (Ledger.after acts).takes timer oneShot = false) ∧
    (Ledger.after acts).generations.length = starts acts ∧
    (Ledger.after acts).generations.Nodup ∧
    (∀ first second, Standing acts first → Standing acts second → first = second) ∧
    ((Ledger.after acts).slot.isArmed = true ↔ ∃ timer, Standing acts timer) ∧
    (∀ now generation, ((Ledger.after acts).slot.fire now).1 = some generation →
      ∃ timer, Standing acts timer ∧ (Ledger.after acts).generations[timer]? = some generation) ∧
    (acts.length < 2 ^ 64 →
      ((Ledger.after acts).generations.map Nat.toUInt64).Nodup ∧
      ∀ generation ∈ (Ledger.after acts).generations,
        (Ledger.after acts).slot.current.any (·.generation.toUInt64 == generation.toUInt64) =
          (Ledger.after acts).slot.isLive generation) := by
  have kept := kept_after acts
  have distinct := kept.distinct acts _
  refine ⟨takes_iff_standing acts, fun timer oneShot => act_of_not_takes timer oneShot _, ?_,
    kept.length, distinct, standing_unique acts, isArmed_iff_standing acts, ?_,
    fun few => ⟨?_, isLive_word acts few⟩⟩
  · intro before act after timer oneShot split early ended
    rw [Bool.eq_false_iff, ne_eq, takes_iff_standing, split]
    rcases ended with clears | rfl
    · exact not_standing_of_clears before after act timer clears early
    · exact not_standing_of_used before after timer early
  · intro now generation posted
    exact standing_of_isLive acts generation (isLive_of_fire now generation _ posted)
  · refine List.Nodup.map_on ?_ distinct
    intro first firstGiven second secondGiven equal
    exact word_injective acts few first second firstGiven secondGiven equal

/-- A timer that was replaced has posted in vain. -/
theorem stale_of_replaced :
    (Ledger.after [.every 0 (.ofMillis 5), .fire 5, .once 6 (.ofMillis 9)]).takes 0 false = false ∧
      (Ledger.after [.every 0 (.ofMillis 5), .fire 5, .once 6 (.ofMillis 9)]).takes 1 true =
        true := by
  obtain ⟨takes, _, cleared, _⟩ :=
    accept_iff_standing [.every 0 (.ofMillis 5), .fire 5, .once 6 (.ofMillis 9)]
  constructor
  · exact cleared [.every 0 (.ofMillis 5), .fire 5] (.once 6 (.ofMillis 9)) [] 0 false rfl
      (by decide) (Or.inl rfl)
  · exact (takes 1 true).mpr
      ⟨[.every 0 (.ofMillis 5), .fire 5], .once 6 (.ofMillis 9), [], rfl, rfl, rfl, by simp⟩

end ChatSocket.Connection.Slot
