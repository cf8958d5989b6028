import ChatSocket.Connection.Output

/-!
# A queue and its consumers

All who take items from an output share one reader behind a lock.  To take an item is a
call: it waits for the lock, keeps it until there is an item or the end, and may be given
up before.  A stream makes one call after the other, and none after the end.  Which call
gets the lock next, and when the producer does something meanwhile, is left open.
-/

set_option autoImplicit false

namespace ChatSocket.Connection

inductive Consumer where
  /-- A handle of the output, which may make several calls at once. -/
  | handle (name : Nat)
  | stream (name : Nat)
  deriving DecidableEq, Repr

structure Queue where
  output : Output
  /-- The producer is gone. -/
  abandoned : Bool
  reader : Reader
  /-- Calls without the lock. -/
  waiting : List Consumer
  /-- The call that has the lock. -/
  holder : Option Consumer
  /-- Streams that have come to the end. -/
  exhausted : List Consumer
  /-- What calls have returned, in the order in which they did; nothing at the end. -/
  returned : List (Consumer × Option (Except Error Event))

namespace Queue

inductive Act where
  | push (event : Event)
  | close (cause : Option Error)
  /-- The producer goes away. -/
  | abandon
  | call (consumer : Consumer)
  /-- The lock is given to a call that waits. -/
  | lock (consumer : Consumer)
  /-- The call that has the lock looks for an item. -/
  | look
  /-- The call that has the lock is given up. -/
  | release
  /-- A call that waits is given up. -/
  | withdraw (consumer : Consumer)

def empty : Queue := ⟨.empty, false, .start, [], none, [], []⟩

def mayCall (queue : Queue) : Consumer → Bool
  | .handle _ => true
  | .stream name =>
      !(queue.exhausted.contains (.stream name) || queue.waiting.contains (.stream name) ||
        queue.holder == some (.stream name))

/-- The end of a call. -/
def answer (consumer : Consumer) (item : Option (Except Error Event)) (queue : Queue) : Queue :=
  { queue with
    holder := none
    exhausted := match consumer, item with
      | .stream name, none => .stream name :: queue.exhausted
      | _, _ => queue.exhausted
    returned := queue.returned ++ [(consumer, item)] }

def look (queue : Queue) : Queue :=
  match queue.holder with
  | none => queue
  | some consumer =>
      match queue.reader.receive queue.output queue.abandoned with
      | (.ready item, reader) => { queue with reader }.answer consumer (some item)
      | (.ended, reader) => { queue with reader }.answer consumer none
      | (.pending, reader) => { queue with reader }

/-- Does what is possible; a producer that is gone does nothing. -/
def step (queue : Queue) : Act → Queue
  | .push event =>
      if queue.abandoned then queue else { queue with output := queue.output.push event }
  | .close cause =>
      if queue.abandoned then queue else { queue with output := queue.output.close cause }
  | .abandon => { queue with abandoned := true }
  | .call consumer =>
      if queue.mayCall consumer then { queue with waiting := queue.waiting ++ [consumer] }
      else queue
  | .lock consumer =>
      if queue.holder = none ∧ consumer ∈ queue.waiting then
        { queue with holder := some consumer, waiting := queue.waiting.erase consumer }
      else queue
  | .look => queue.look
  | .release => { queue with holder := none }
  | .withdraw consumer => { queue with waiting := queue.waiting.erase consumer }

def after (acts : List Act) : Queue := acts.foldl step empty

theorem after_append (acts : List Act) (last : Act) :
    after (acts ++ [last]) = (after acts).step last := by
  simp [after]

end Queue

end ChatSocket.Connection
