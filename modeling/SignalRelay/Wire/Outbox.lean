import SignalRelay.Wire.Frame

/-!
# Outboxes

The frames queued for one connection, in order.  Queueing never waits; when the far side has gone
away, frames are lost.

`Outbox.receive` is the keep-alive: a ping is answered at once, and only other messages are passed
on.
-/

namespace SignalRelay

/-- The queue of one connection. -/
structure Outbox where
  /-- Whether somebody still takes frames from the queue. -/
  connected : Bool
  /-- All frames queued so far. -/
  frames : List Outbound
  deriving DecidableEq

/-- A queue that nobody takes frames from refuses them. -/
inductive SendError
  | closed
  deriving DecidableEq

def SendError.message : SendError → String
  | .closed => "transport already closed"

namespace Outbox

def fresh : Outbox := ⟨true, []⟩

/-- Queues a frame, if somebody is there to take it. -/
def push (box : Outbox) (frame : Outbound) : Outbox :=
  if box.connected then { box with frames := box.frames ++ [frame] } else box

/-- The far side goes away. -/
def abandon (box : Outbox) : Outbox := { box with connected := false }

def send (box : Outbox) (m : Signal) : Except SendError Outbox :=
  if box.connected then .ok (box.push (.message m)) else .error .closed

/-- Takes a frame that came in.  A ping is answered with its own time and a frame that is no message
is dropped; any other message is given back. -/
def receive (box : Outbox) (frame : Inbound) : Outbox × Option Signal :=
  match Signal.ofFrame? frame with
  | .error _ => (box, none)
  | .ok (.ping time) => (box.push (.message (.pong time)), none)
  | .ok m => (box, some m)

end Outbox

end SignalRelay
