import ChatSocket.Event.Basic
import ChatSocket.Transport.Poll

/-!
# Output of a connection

One producer puts events into a queue and closes it once, perhaps with the error
that ended the connection.  Whoever takes items from the queue gets the events in
order, then that error, then nothing more.
-/

set_option autoImplicit false

namespace ChatSocket.Connection

/-- What the producer has put into the queue. -/
structure Output where
  events : List Event
  /-- How the queue was closed, if it was. -/
  closing : Option (Option Error)

namespace Output

def empty : Output := ⟨[], none⟩

/-- Nothing is added to a closed queue. -/
def push (event : Event) (output : Output) : Output :=
  match output.closing with
  | none => { output with events := output.events ++ [event] }
  | some _ => output

/-- Only the first close counts. -/
def close (cause : Option Error) (output : Output) : Output :=
  match output.closing with
  | none => { output with closing := some cause }
  | some _ => output

end Output

/-- How far the items have been taken, by whomever. -/
structure Reader where
  taken : Nat
  finished : Bool
  deriving DecidableEq, Repr

namespace Reader

def start : Reader := ⟨0, false⟩

/-- Takes the next item.  A producer that went away without closing leaves no
error behind. -/
def receive (output : Output) (abandoned : Bool) (reader : Reader) :
    Poll (Except Error Event) × Reader :=
  if reader.finished then (.ended, reader)
  else
    match output.events[reader.taken]? with
    | some event => (.ready (.ok event), { reader with taken := reader.taken + 1 })
    | none =>
        match output.closing with
        | some (some cause) => (.ready (.error cause), { reader with finished := true })
        | some none => (.ended, { reader with finished := true })
        | none =>
            if abandoned then (.ended, { reader with finished := true }) else (.pending, reader)

/-- Takes up to a number of items, and tells whether the end was reached. -/
def drain (output : Output) (abandoned : Bool) :
    Nat → Reader → List (Except Error Event) × Bool × Reader
  | 0, reader => ([], false, reader)
  | limit + 1, reader =>
      match reader.receive output abandoned with
      | (.ready item, reader) =>
          let (items, ended, reader) := drain output abandoned limit reader
          (item :: items, ended, reader)
      | (.ended, reader) => ([], true, reader)
      | (.pending, reader) => ([], false, reader)

/-- More items than the queue can still hold. -/
def all (output : Output) : Nat := output.events.length + 2

end Reader

end ChatSocket.Connection
