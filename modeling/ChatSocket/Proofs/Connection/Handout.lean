import ChatSocket.Connection.Queue
import Mathlib.Data.List.Induction

/-!
# What the consumers of a queue are handed

A history of acts tells by itself which events were pushed in time and how the queue was
closed first.  `Kept` says how far the calls that returned have come with that: the events
in order, then the end of the queue, then nothing.  `handed_in_order` is what follows for
all consumers together, whichever of them has the lock when.
-/

set_option autoImplicit false

namespace ChatSocket.Connection

/-! ## The queue as a channel -/

/-- What travels from the producer to the consumers. -/
inductive Delivery where
  | event (event : Event)
  | closed (cause : Option Error)

/-- What a call returns for it. -/
def Delivery.item : Delivery → Option (Except Error Event)
  | .event pushed => some (.ok pushed)
  | .closed cause => cause.map .error

def Output.deliveries (output : Output) : List Delivery :=
  output.events.map .event ++ output.closing.toList.map .closed

theorem Output.deliveries_of_event (output : Output) (index : Nat) (event : Event) :
    output.deliveries[index]? = some (.event event) ↔ output.events[index]? = some event := by
  rcases Nat.lt_or_ge index output.events.length with inside | behind
  · rw [deliveries, List.getElem?_append_left (by simpa using inside)]
    simp
  · rw [deliveries, List.getElem?_append_right (by simpa using behind)]
    have nothing : output.events[index]? = none := List.getElem?_eq_none behind
    cases output.closing <;> simp [nothing, List.getElem?_singleton]

/-- What a look at the queue does to the reader. -/
inductive Reader.Received (output : Output) (abandoned : Bool) (reader : Reader) :
    Poll (Except Error Event) → Reader → Prop
  | finished (finished : reader.finished = true) : Received output abandoned reader .ended reader
  | event (event : Event) (unfinished : reader.finished = false)
      (next : output.deliveries[reader.taken]? = some (.event event)) :
      Received output abandoned reader (.ready (.ok event)) ⟨reader.taken + 1, false⟩
  | failed (cause : Error) (unfinished : reader.finished = false)
      (last : output.deliveries.drop reader.taken = [.closed (some cause)]) :
      Received output abandoned reader (.ready (.error cause)) ⟨reader.taken, true⟩
  | closed (unfinished : reader.finished = false)
      (last : output.deliveries.drop reader.taken = [.closed none]) :
      Received output abandoned reader .ended ⟨reader.taken, true⟩
  | abandoned (unfinished : reader.finished = false)
      (nothing : output.deliveries.drop reader.taken = []) (unclosed : output.closing = none)
      (gone : abandoned = true) : Received output abandoned reader .ended ⟨reader.taken, true⟩
  | pending (unfinished : reader.finished = false)
      (nothing : output.deliveries.drop reader.taken = []) (unclosed : output.closing = none)
      (there : abandoned = false) : Received output abandoned reader .pending reader

theorem Reader.receive_received (output : Output) (abandoned : Bool) (reader : Reader)
    (known : reader.taken ≤ output.events.length) :
    Received output abandoned reader (reader.receive output abandoned).1
      (reader.receive output abandoned).2 := by
  obtain ⟨taken, finished⟩ := reader
  cases finished with
  | true => exact .finished rfl
  | false =>
      cases next : output.events[taken]? with
      | some event =>
          simp only [receive, Bool.false_eq_true, if_false, next]
          exact .event event rfl ((output.deliveries_of_event taken event).mpr next)
      | none =>
          have drained := List.getElem?_eq_none_iff.mp next
          have left : output.deliveries.drop taken = output.closing.toList.map .closed := by
            rw [Output.deliveries, List.drop_append, List.drop_eq_nil_of_le (by simpa using drained),
              List.length_map, Nat.sub_eq_zero_of_le known]
            rfl
          simp only [receive, Bool.false_eq_true, if_false, next]
          cases closing : output.closing with
          | some cause =>
              rw [closing] at left
              cases cause with
              | some cause => exact .failed cause rfl left
              | none => exact .closed rfl left
          | none =>
              rw [closing] at left
              cases abandoned with
              | true => exact .abandoned rfl left closing rfl
              | false => exact .pending rfl left closing rfl

namespace Queue

/-! ## Histories -/

/-- Nothing is put into the queue any more. -/
def Act.ends : Act → Bool
  | .close _ | .abandon => true
  | _ => false

/-- The events that were pushed before the queue was closed or left alone. -/
def pushed : List Act → List Event
  | [] => []
  | .push event :: later => event :: pushed later
  | .close _ :: _ | .abandon :: _ => []
  | _ :: later => pushed later

/-- How the queue was closed first. -/
def firstClose : List Act → Option (Option Error)
  | [] => none
  | .close cause :: _ => some cause
  | .abandon :: _ => none
  | _ :: later => firstClose later

theorem pushed_append (acts : List Act) (last : Act) :
    pushed (acts ++ [last]) =
      if acts.any Act.ends then pushed acts else pushed acts ++ pushed [last] := by
  induction acts with
  | nil => rfl
  | cons act later ih =>
      cases act with
      | close | abandon => rfl
      | push event =>
          simp only [List.cons_append, pushed, ih, List.any_cons, Act.ends, Bool.false_or]
          split <;> rfl
      | call | lock | look | release | withdraw =>
          simp only [List.cons_append, pushed, ih, List.any_cons, Act.ends, Bool.false_or]

theorem firstClose_append (acts : List Act) (last : Act) :
    firstClose (acts ++ [last]) =
      if acts.any Act.ends then firstClose acts else firstClose [last] := by
  induction acts with
  | nil => rfl
  | cons act later ih =>
      cases act with
      | close | abandon => rfl
      | push | call | lock | look | release | withdraw =>
          simp only [List.cons_append, firstClose, ih, List.any_cons, Act.ends, Bool.false_or]

theorem firstClose_of_open (acts : List Act) (unended : acts.any Act.ends = false) :
    firstClose acts = none := by
  induction acts with
  | nil => rfl
  | cons act later ih =>
      rw [List.any_cons, Bool.or_eq_false_iff] at unended
      cases act with
      | close | abandon => cases unended.1
      | push | call | lock | look | release | withdraw => exact ih unended.2

/-- All that the producer has put into the queue. -/
def sent (acts : List Act) : List Delivery := Output.deliveries ⟨pushed acts, firstClose acts⟩

theorem sent_append (acts : List Act) (last : Act) :
    sent (acts ++ [last]) = if acts.any Act.ends then sent acts else sent acts ++ sent [last] := by
  rw [sent, pushed_append, firstClose_append]
  cases ended : acts.any Act.ends with
  | true => rfl
  | false =>
      have unclosed := firstClose_of_open acts ended
      simp [sent, Output.deliveries, unclosed]

theorem length_pushed_le (acts : List Act) : (pushed acts).length ≤ (sent acts).length := by
  simp [sent, Output.deliveries]

theorem length_pushed_append (acts : List Act) (last : Act) :
    (pushed acts).length ≤ (pushed (acts ++ [last])).length := by
  rw [pushed_append]
  split
  · exact Nat.le_refl _
  · simp

/-- What the calls of all consumers have returned. -/
def handed (acts : List Act) : List (Option (Except Error Event)) :=
  (after acts).returned.map Prod.snd

/-! ## Queues and their histories -/

/-- What calls have returned when the reader has come so far: deliveries, and nothing more
after the end. -/
structure Reached (acts : List Act) (reader : Reader)
    (items : List (Option (Except Error Event))) : Prop where
  running : reader.finished = false → items = ((sent acts).take reader.taken).map Delivery.item
  finished : reader.finished = true → acts.any Act.ends = true ∧
    ∃ count, items = (sent acts).map Delivery.item ++ List.replicate count none

structure Kept (acts : List Act) (queue : Queue) : Prop where
  output : queue.output = ⟨pushed acts, firstClose acts⟩
  shut : acts.any Act.ends = (queue.output.closing.isSome || queue.abandoned)
  known : queue.reader.taken ≤ queue.output.events.length
  reached : Reached acts queue.reader (queue.returned.map Prod.snd)

theorem kept_empty : Kept [] empty :=
  ⟨rfl, rfl, Nat.le_refl _, fun _ => rfl, nofun⟩

theorem taken_le_pushed (acts : List Act) (queue : Queue) (kept : Kept acts queue) :
    queue.reader.taken ≤ (pushed acts).length := by
  have known := kept.known
  rwa [kept.output] at known

/-! ## What was sent -/

theorem look_unsent (queue : Queue) :
    queue.look.output = queue.output ∧ queue.look.abandoned = queue.abandoned := by
  simp only [look, answer]
  split
  · exact ⟨rfl, rfl⟩
  · split <;> exact ⟨rfl, rfl⟩

/-- Nothing is added to a queue that was closed or left alone. -/
theorem output_late (act : Act) (queue : Queue)
    (shut : (queue.output.closing.isSome || queue.abandoned) = true) :
    (queue.step act).output = queue.output := by
  have unchanged : queue.abandoned = true ∨ ∃ cause, queue.output.closing = some cause := by
    rw [Bool.or_eq_true, Option.isSome_iff_exists] at shut
    exact shut.symm
  cases act with
  | push | close =>
      rcases unchanged with gone | ⟨cause, closing⟩
      · simp [step, gone]
      · simp only [step, Output.push, Output.close, closing]
        split <;> rfl
  | look => exact (look_unsent queue).1
  | call | lock =>
      simp only [step]
      split <;> rfl
  | abandon | release | withdraw => rfl

theorem output_step (acts : List Act) (act : Act) (queue : Queue) (kept : Kept acts queue) :
    (queue.step act).output = ⟨pushed (acts ++ [act]), firstClose (acts ++ [act])⟩ := by
  rw [pushed_append, firstClose_append]
  cases ended : acts.any Act.ends with
  | true =>
      rw [output_late act queue (kept.shut.symm.trans ended)]
      exact kept.output
  | false =>
      have unclosed := firstClose_of_open acts ended
      have there : queue.abandoned = false := (Bool.or_eq_false_iff.mp (kept.shut.symm.trans ended)).2
      have same := kept.output
      rw [unclosed] at same
      cases act with
      | push | close => simp [step, there, Output.push, Output.close, same, pushed, firstClose]
      | look => simp [step, (look_unsent queue).1, same, pushed, firstClose]
      | call | lock =>
          simp only [step]
          split <;> simp [same, pushed, firstClose]
      | abandon | release | withdraw => simp [step, same, pushed, firstClose]

theorem shut_step (acts : List Act) (act : Act) (queue : Queue) (kept : Kept acts queue) :
    (acts ++ [act]).any Act.ends =
      ((queue.step act).output.closing.isSome || (queue.step act).abandoned) := by
  have shut := kept.shut
  rw [List.any_append, List.any_cons, List.any_nil, Bool.or_false, shut]
  cases act with
  | push =>
      cases gone : queue.abandoned <;> cases closing : queue.output.closing <;>
        simp [step, Act.ends, Output.push, gone, closing]
  | close =>
      cases gone : queue.abandoned <;> cases closing : queue.output.closing <;>
        simp [step, Act.ends, Output.close, gone, closing]
  | abandon => simp [step, Act.ends]
  | look =>
      obtain ⟨output, abandoned⟩ := look_unsent queue
      simp [step, Act.ends, output, abandoned]
  | call | lock =>
      simp only [step, Act.ends, Bool.or_false]
      split <;> rfl
  | release | withdraw => simp [step, Act.ends]

/-! ## What was handed out -/

/-- What was handed out so far is handed out so far in a longer history, too. -/
theorem reached_append (acts : List Act) (last : Act) (reader : Reader)
    (items : List (Option (Except Error Event))) (reached : Reached acts reader items)
    (known : reader.taken ≤ (pushed acts).length) : Reached (acts ++ [last]) reader items := by
  refine ⟨fun unfinished => ?_, fun finished => ?_⟩
  · rw [reached.running unfinished, sent_append]
    split
    · rfl
    · rw [List.take_append_of_le_length (Nat.le_trans known (length_pushed_le acts))]
  · obtain ⟨ended, count, same⟩ := reached.finished finished
    refine ⟨by simp [ended], count, ?_⟩
    rw [same, sent_append, if_pos ended]

theorem kept_unread (acts : List Act) (last : Act) (queue : Queue) (kept : Kept acts queue)
    (reader : (queue.step last).reader = queue.reader)
    (returned : (queue.step last).returned = queue.returned) :
    Kept (acts ++ [last]) (queue.step last) := by
  have output := output_step acts last queue kept
  have known := taken_le_pushed acts queue kept
  refine ⟨output, shut_step acts last queue kept, ?_, ?_⟩
  · rw [reader, output]
    exact Nat.le_trans known (length_pushed_append acts last)
  · rw [reader, returned]
    exact reached_append acts last _ _ kept.reached known

/-- What a look gives to the call. -/
def found : Poll (Except Error Event) → List (Option (Except Error Event))
  | .ready item => [some item]
  | .ended => [none]
  | .pending => []

theorem look_of_holder (queue : Queue) (consumer : Consumer)
    (held : queue.holder = some consumer) :
    queue.look.reader = (queue.reader.receive queue.output queue.abandoned).2 ∧
      queue.look.returned = queue.returned ++
        (found (queue.reader.receive queue.output queue.abandoned).1).map (consumer, ·) := by
  rw [look, held]
  cases queue.reader.receive queue.output queue.abandoned with
  | mk poll reader => cases poll <;> simp [found, answer]

theorem ends_of_closed (acts : List Act) (queue : Queue) (kept : Kept acts queue)
    (cause : Option Error)
    (last : queue.output.deliveries.drop queue.reader.taken = [.closed cause]) :
    acts.any Act.ends = true := by
  have member : Delivery.closed cause ∈ queue.output.deliveries :=
    List.mem_of_mem_drop (last ▸ List.mem_singleton_self _)
  rw [kept.shut]
  cases closing : queue.output.closing with
  | none => simp [Output.deliveries, closing] at member
  | some held => rfl

/-- The calls that returned come as far as the reader. -/
theorem reached_of_received (acts : List Act) (queue : Queue) (kept : Kept acts queue)
    (poll : Poll (Except Error Event)) (reader : Reader)
    (received : Reader.Received queue.output queue.abandoned queue.reader poll reader) :
    reader.taken ≤ queue.output.events.length ∧
      Reached acts reader (queue.returned.map Prod.snd ++ found poll) := by
  have whole : queue.output.deliveries = sent acts := by
    rw [kept.output]
    rfl
  -- What is left behind the events is how the queue was closed, if it was.
  have all : ∀ last, queue.output.deliveries.drop queue.reader.taken = last →
      (sent acts).map Delivery.item =
        ((sent acts).take queue.reader.taken).map Delivery.item ++ last.map Delivery.item := by
    rintro last rfl
    rw [← List.map_append, whole, List.take_append_drop]
  cases received with
  | finished finished =>
      obtain ⟨ended, count, same⟩ := kept.reached.finished finished
      refine ⟨kept.known, fun unfinished => ?_, fun _ => ⟨ended, count + 1, ?_⟩⟩
      · cases finished.symm.trans unfinished
      · rw [same, List.append_assoc, List.replicate_succ']
        rfl
  | event event unfinished next =>
      have inside := (queue.output.deliveries_of_event _ event).mp next
      refine ⟨(List.getElem?_eq_some_iff.mp inside).1, fun _ => ?_, nofun⟩
      rw [whole] at next
      rw [kept.reached.running unfinished, List.take_add_one, next, List.map_append]
      rfl
  | failed cause unfinished last =>
      refine ⟨kept.known, nofun, fun _ => ⟨ends_of_closed acts queue kept _ last, 0, ?_⟩⟩
      rw [kept.reached.running unfinished, all _ last, List.replicate_zero, List.append_nil]
      rfl
  | closed unfinished last =>
      refine ⟨kept.known, nofun, fun _ => ⟨ends_of_closed acts queue kept _ last, 0, ?_⟩⟩
      rw [kept.reached.running unfinished, all _ last, List.replicate_zero, List.append_nil]
      rfl
  | abandoned unfinished nothing unclosed gone =>
      refine ⟨kept.known, nofun, fun _ => ⟨by rw [kept.shut, gone, Bool.or_true], 1, ?_⟩⟩
      rw [kept.reached.running unfinished, all _ nothing, List.map_nil, List.append_nil]
      rfl
  | pending unfinished nothing unclosed there =>
      refine ⟨kept.known, fun _ => ?_, fun finished => ?_⟩
      · rw [kept.reached.running unfinished]
        exact List.append_nil _
      · cases unfinished.symm.trans finished

theorem kept_look (acts : List Act) (queue : Queue) (kept : Kept acts queue) :
    Kept (acts ++ [.look]) (queue.step .look) := by
  cases held : queue.holder with
  | none =>
      have idle : queue.step .look = queue := by simp [step, look, held]
      exact kept_unread acts .look queue kept (by rw [idle]) (by rw [idle])
  | some consumer =>
      have output := output_step acts .look queue kept
      obtain ⟨reader, returned⟩ := look_of_holder queue consumer held
      obtain ⟨known, reached⟩ := reached_of_received acts queue kept _ _
        (Reader.receive_received queue.output queue.abandoned queue.reader kept.known)
      have bound : (queue.reader.receive queue.output queue.abandoned).2.taken ≤
          (pushed acts).length := by
        rwa [kept.output] at known ⊢
      have items : queue.look.returned.map Prod.snd = queue.returned.map Prod.snd ++
          found (queue.reader.receive queue.output queue.abandoned).1 := by
        simp [returned, Function.comp_def]
      refine ⟨output, shut_step acts .look queue kept, ?_, ?_⟩
      · rw [output]
        refine Nat.le_trans ?_ (length_pushed_append acts .look)
        rw [step, reader]
        exact bound
      · rw [step, reader, items]
        exact reached_append acts .look _ _ reached bound

theorem kept_step (acts : List Act) (act : Act) (queue : Queue) (kept : Kept acts queue) :
    Kept (acts ++ [act]) (queue.step act) := by
  cases act with
  | look => exact kept_look acts queue kept
  | push | close | call | lock =>
      refine kept_unread acts _ queue kept ?_ ?_ <;>
      · simp only [step]
        split <;> rfl
  | abandon | release | withdraw => exact kept_unread acts _ queue kept rfl rfl

theorem kept_after (acts : List Act) : Kept acts (after acts) := by
  induction acts using List.reverseRecOn with
  | nil => exact kept_empty
  | append_singleton acts last ih =>
      rw [after_append]
      exact kept_step acts last (after acts) ih

/-! ## All consumers together -/

/-- The event of an item. -/
def event? : Option (Except Error Event) → Option Event
  | some (.ok event) => some event
  | _ => none

/-- Events come first, and only after all of them the end: an error if the queue was closed
with one, then nothing. -/
structure Shape (acts : List Act) (events : List Event)
    (rest : List (Option (Except Error Event))) : Prop where
  handed : handed acts = events.map (fun event => some (.ok event)) ++ rest
  inOrder : events <+: pushed acts
  ending : rest = [] ∨ events = pushed acts ∧ acts.any Act.ends = true ∧
    ∃ count, rest = (firstClose acts).toList.map (Option.map .error) ++ List.replicate count none

theorem shape_handed (acts : List Act) : ∃ events rest, Shape acts events rest := by
  obtain ⟨output, shut, known, reached⟩ := kept_after acts
  have events : ∀ part : List Event,
      (part.map Delivery.event).map Delivery.item = part.map fun event => some (.ok event) := by
    intro part
    rw [List.map_map]
    rfl
  cases finished : (after acts).reader.finished with
  | false =>
      refine ⟨(pushed acts).take (after acts).reader.taken, [], ?_, List.take_prefix _ _, Or.inl rfl⟩
      have inside : (after acts).reader.taken ≤ ((pushed acts).map Delivery.event).length := by
        rw [output] at known
        simpa using known
      rw [handed, reached.running finished, sent, Output.deliveries,
        List.take_append_of_le_length inside, ← List.map_take, events, List.append_nil]
  | true =>
      obtain ⟨ended, count, same⟩ := reached.finished finished
      refine ⟨pushed acts, _, ?_, List.prefix_refl _, Or.inr ⟨rfl, ended, count, rfl⟩⟩
      rw [handed, same, sent, Output.deliveries, List.map_append, events, List.append_assoc,
        List.map_map]
      rfl

theorem noEvent_of_shape (acts : List Act) (events : List Event)
    (rest : List (Option (Except Error Event))) (shape : Shape acts events rest) :
    ∀ item ∈ rest, event? item = none := by
  rcases shape.ending with rfl | ⟨_, _, count, rfl⟩
  · simp
  · rcases firstClose acts with _ | _ | cause <;> simp [event?, List.mem_replicate]

theorem filterMap_of_shape (acts : List Act) (events : List Event)
    (rest : List (Option (Except Error Event))) (shape : Shape acts events rest) :
    (handed acts).filterMap event? = events := by
  have front : (events.map fun event => some (Except.ok (ε := Error) event)).filterMap event? =
      events := by
    rw [List.filterMap_map]
    exact List.filterMap_some
  have back : rest.filterMap event? = [] :=
    List.filterMap_eq_nil_iff.mpr (noEvent_of_shape acts events rest shape)
  rw [shape.handed, List.filterMap_append, front, back, List.append_nil]

/-- Only the first thing behind the events can be an error. -/
theorem split_of_ends (closing : Option (Option Error)) (count : Nat)
    (between later : List (Option (Except Error Event))) (item : Option (Except Error Event))
    (split : closing.toList.map (Option.map .error) ++ List.replicate count none =
      between ++ item :: later) :
    (∀ next ∈ later, next = none) ∧
      ∀ cause, item = some (.error cause) → between = [] ∧ closing = some (some cause) := by
  have behind : ∀ next ∈ (between ++ item :: later).tail, next = none := by
    intro next member
    rw [← split] at member
    refine List.eq_of_mem_replicate (n := count) ?_
    cases closing with
    | none => exact List.mem_of_mem_tail member
    | some cause => exact member
  cases between with
  | nil =>
      refine ⟨behind, ?_⟩
      rintro cause rfl
      refine ⟨rfl, ?_⟩
      cases closing with
      | none =>
          have same : List.replicate count none = some (.error cause) :: later := split
          have member : (some (.error cause) : Option (Except Error Event)) ∈
              List.replicate count none := same ▸ List.mem_cons_self
          cases List.eq_of_mem_replicate member
      | some held =>
          injection split with first _
          cases held with
          | none => cases first
          | some held =>
              cases first
              rfl
  | cons head tail =>
      refine ⟨fun next member => behind next (by simp [member]), ?_⟩
      rintro cause rfl
      cases behind (some (.error cause)) (by simp)

/-- An item that is no event stands behind all events, and before nothing but ends. -/
theorem split_at_end (acts : List Act) (before later : List (Option (Except Error Event)))
    (item : Option (Except Error Event)) (split : handed acts = before ++ item :: later)
    (noEvent : event? item = none) :
    before.filterMap event? = pushed acts ∧ (∀ next ∈ later, next = none) ∧
      ∀ cause, item = some (.error cause) → firstClose acts = some (some cause) ∧
        before = (pushed acts).map fun event => some (.ok event) := by
  obtain ⟨events, rest, shape⟩ := shape_handed acts
  have front : ∀ part : List Event, ∀ next ∈ part.map (fun event => some (Except.ok event)),
      event? next ≠ none := by
    intro part next member
    obtain ⟨event, _, rfl⟩ := List.mem_map.mp member
    nofun
  -- The item cannot be one of the events at the front.
  obtain ⟨between, same, restSame⟩ : ∃ between : List (Option (Except Error Event)),
      before = events.map (fun event => some (.ok event)) ++ between ∧
        rest = between ++ item :: later := by
    rcases List.append_eq_append_iff.mp (shape.handed.symm.trans split) with
      ⟨between, same, restSame⟩ | ⟨between, same, restSame⟩
    · exact ⟨between, same, restSame⟩
    · cases between with
      | nil => exact ⟨[], by simpa using same.symm, by simpa using restSame.symm⟩
      | cons head tail =>
          rw [List.cons_append, List.cons.injEq] at restSame
          have member : item ∈ events.map fun event => some (.ok event) := by
            rw [same, restSame.1]
            simp
          exact absurd noEvent (front events item member)
  rcases shape.ending with rfl | ⟨rfl, _, count, ends⟩
  · simp at restSame
  obtain ⟨after, cause⟩ := split_of_ends _ count between later item (ends.symm.trans restSame)
  have whole := filterMap_of_shape acts _ rest shape
  have nothing : later.filterMap event? = [] := by
    rw [List.filterMap_eq_nil_iff]
    intro next member
    rw [after next member]
    rfl
  rw [split, List.filterMap_append, List.filterMap_cons_none noEvent, nothing,
    List.append_nil] at whole
  refine ⟨whole, after, fun held is => ?_⟩
  obtain ⟨rfl, closed⟩ := cause held is
  exact ⟨closed, by rw [same, List.append_nil]⟩

theorem returned_step (queue : Queue) (act : Act) :
    queue.returned <+: (queue.step act).returned := by
  cases act with
  | look =>
      cases held : queue.holder with
      | none => simp [step, look, held]
      | some consumer =>
          rw [step, (look_of_holder queue consumer held).2]
          exact List.prefix_append _ _
  | push | close | call | lock =>
      simp only [step]
      split <;> exact List.prefix_refl _
  | abandon | release | withdraw => exact List.prefix_refl _

theorem returned_grows (acts more : List Act) :
    (after acts).returned <+: (after (acts ++ more)).returned := by
  induction more using List.reverseRecOn with
  | nil => simp
  | append_singleton more last ih =>
      rw [← List.append_assoc, after_append]
      exact ih.trans (returned_step _ last)

/-- A look gives something to the call unless the queue is open and all events are taken. -/
theorem found_iff (acts : List Act) (queue : Queue) (kept : Kept acts queue)
    (poll : Poll (Except Error Event)) (reader : Reader)
    (received : Reader.Received queue.output queue.abandoned queue.reader poll reader) :
    (∃ item, found poll = [item]) ↔
      acts.any Act.ends = true ∨ queue.returned.length < (pushed acts).length := by
  have known := taken_le_pushed acts queue kept
  have taken : queue.reader.finished = false → queue.returned.length = queue.reader.taken := by
    intro unfinished
    have inside := Nat.le_trans known (length_pushed_le acts)
    have same := congrArg List.length (kept.reached.running unfinished)
    rwa [List.length_map, List.length_map, List.length_take_of_le inside] at same
  cases received with
  | finished finished =>
      exact iff_of_true ⟨none, rfl⟩ (Or.inl (kept.reached.finished finished).1)
  | event event unfinished next =>
      refine iff_of_true ⟨some (.ok event), rfl⟩ (Or.inr ?_)
      have inside := (queue.output.deliveries_of_event _ event).mp next
      rw [kept.output] at inside
      rw [taken unfinished]
      exact (List.getElem?_eq_some_iff.mp inside).1
  | failed cause unfinished last =>
      exact iff_of_true ⟨_, rfl⟩ (Or.inl (ends_of_closed acts queue kept _ last))
  | closed unfinished last =>
      exact iff_of_true ⟨_, rfl⟩ (Or.inl (ends_of_closed acts queue kept _ last))
  | abandoned unfinished nothing unclosed gone =>
      exact iff_of_true ⟨none, rfl⟩ (Or.inl (by rw [kept.shut, gone, Bool.or_true]))
  | pending unfinished nothing unclosed there =>
      refine iff_of_false (by simp [found]) ?_
      have drained : (pushed acts).length ≤ queue.reader.taken := by
        have empty := List.drop_eq_nil_iff.mp nothing
        rw [kept.output] at empty
        simp only [Output.deliveries, List.length_append, List.length_map] at empty
        omega
      rw [kept.shut, unclosed, there, taken unfinished]
      simp only [Option.isSome_none, Bool.or_self, Bool.false_eq_true, false_or]
      omega

theorem returns_iff (acts : List Act) (consumer : Consumer)
    (held : (after acts).holder = some consumer) :
    (∃ item, (after (acts ++ [.look])).returned = (after acts).returned ++ [(consumer, item)]) ↔
      acts.any Act.ends = true ∨ (handed acts).length < (pushed acts).length := by
  have kept := kept_after acts
  have received := Reader.receive_received (after acts).output (after acts).abandoned
    (after acts).reader kept.known
  rw [after_append, step, (look_of_holder _ consumer held).2, handed, List.length_map,
    ← found_iff acts _ kept _ _ received]
  refine exists_congr fun item => ?_
  rw [List.append_cancel_left_eq]
  cases found ((after acts).reader.receive (after acts).output (after acts).abandoned).1 with
  | nil => simp
  | cons first later => cases later <;> simp

/-- Whatever the producer and the consumers do, and in whichever order: the events that were
pushed before the first close are handed out in their order, each to one call; after all of
them, and once, the cause of the first close, if it has one; then nothing, to whoever calls.
A call that has the lock waits only while there may still be something for it. -/
theorem handed_in_order (acts : List Act) :
    (handed acts).filterMap event? <+: pushed acts ∧
      (∀ (index : Nat) (event : Event), (handed acts)[index]? = some (some (.ok event)) →
        (pushed acts)[index]? = some event) ∧
      (∀ before cause later, handed acts = before ++ some (.error cause) :: later →
        firstClose acts = some (some cause) ∧
          before = (pushed acts).map (fun event => some (Except.ok event)) ∧
          ∀ item ∈ later, item = none) ∧
      (∀ before later, handed acts = before ++ none :: later →
        before.filterMap event? = pushed acts ∧ ∀ item ∈ later, item = none) ∧
      (∀ more, (after acts).returned <+: (after (acts ++ more)).returned ∧
        ((∃ item ∈ handed acts, event? item = none) →
          ∃ count, handed (acts ++ more) = handed acts ++ List.replicate count none)) ∧
      ∀ consumer, (after acts).holder = some consumer →
        ((∃ item, (after (acts ++ [.look])).returned =
            (after acts).returned ++ [(consumer, item)]) ↔
          acts.any Act.ends = true ∨ (handed acts).length < (pushed acts).length) := by
  refine ⟨?_, ?_, ?_, ?_, fun more => ⟨returned_grows acts more, ?_⟩, returns_iff acts⟩
  · obtain ⟨events, rest, shape⟩ := shape_handed acts
    rw [filterMap_of_shape acts events rest shape]
    exact shape.inOrder
  · intro index event stands
    obtain ⟨events, rest, shape⟩ := shape_handed acts
    rw [shape.handed] at stands
    rcases Nat.lt_or_ge index events.length with inside | behind
    · rw [List.getElem?_append_left (by simpa using inside)] at stands
      obtain ⟨later, whole⟩ := shape.inOrder
      rw [← whole, List.getElem?_append_left inside]
      simpa using stands
    · rw [List.getElem?_append_right (by simpa using behind)] at stands
      cases noEvent_of_shape acts events rest shape _ (List.mem_of_getElem? stands)
  · intro before cause later split
    obtain ⟨_, ended, closed⟩ := split_at_end acts before later _ split rfl
    exact ⟨(closed cause rfl).1, (closed cause rfl).2, ended⟩
  · intro before later split
    obtain ⟨all, ended, _⟩ := split_at_end acts before later _ split rfl
    exact ⟨all, ended⟩
  · rintro ⟨item, member, noEvent⟩
    obtain ⟨before, later, split⟩ := List.append_of_mem member
    obtain ⟨extra, longer⟩ := returned_grows acts more
    have whole : handed (acts ++ more) = before ++ item :: (later ++ extra.map Prod.snd) := by
      rw [handed, ← longer, List.map_append, ← handed, split, List.append_assoc, List.cons_append]
    obtain ⟨_, ended, _⟩ := split_at_end (acts ++ more) before _ item whole noEvent
    refine ⟨extra.length, ?_⟩
    have same : extra.map Prod.snd = List.replicate extra.length none :=
      List.eq_replicate_iff.mpr ⟨List.length_map _, fun next member =>
        ended next (List.mem_append_right _ member)⟩
    rw [whole, same, split, List.append_assoc, List.cons_append]

/-- Two handles and a stream take turns; the queue is closed twice and written to afterwards. -/
def sharing : List Act :=
  [.call (.handle 0), .call (.handle 1), .lock (.handle 0), .look, .push .endpointReady, .look,
    .lock (.handle 1), .push (.typingStatus .on), .close (some .earlyDisconnect),
    .close (some .connectionClosed), .push .endpointReady, .look, .call (.stream 2),
    .lock (.stream 2), .look, .call (.handle 0), .lock (.handle 0)]

theorem handed_of_sharing :
    (after sharing).returned =
        [(.handle 0, some (.ok .endpointReady)), (.handle 1, some (.ok (.typingStatus .on))),
          (.stream 2, some (.error .earlyDisconnect))] ∧
      firstClose sharing = some (some .earlyDisconnect) ∧
      (∃ item, (after (sharing ++ [.look])).returned =
        (after sharing).returned ++ [(.handle 0, item)]) ∧
      ∃ count, handed (sharing ++ [.look]) = handed sharing ++ List.replicate count none := by
  obtain ⟨_, _, failed, _, later, returns⟩ := handed_in_order sharing
  exact ⟨rfl, (failed [some (.ok .endpointReady), some (.ok (.typingStatus .on))]
      .earlyDisconnect [] rfl).1, (returns (.handle 0) rfl).mpr (Or.inl rfl),
    (later [.look]).2 ⟨some (.error .earlyDisconnect), .tail _ (.tail _ (.head _)), rfl⟩⟩

end Queue

end ChatSocket.Connection
