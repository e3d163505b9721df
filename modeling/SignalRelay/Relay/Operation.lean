import SignalRelay.Relay.Forwarding
import SignalRelay.Relay.Streaming

/-!
# Operations of the relay

Everything that can happen to a relay, and the states that it can get into.

* `accept`, `handle`, `receive`, `identifyTimeout`, `close`, `terminate` and `abandon` are the
  operations.
* `Operation` is the type of them, `apply` applies one and `run` a list of them.
-/

namespace SignalRelay

namespace Relay

def accept (r : Relay) (c : ConnectionId) (role : Role) (offerToReceive : Bool) : Relay :=
  match role with
  | .streamer => r.openStreamer c
  | .player => r.openPlayer c offerToReceive
  | .sfu => r.openSfu c

/-- A message comes from a connection.  It is dropped unless the connection is live. -/
def handle (r : Relay) (c : ConnectionId) (m : Signal) : Relay :=
  match r.role? c with
  | none => r
  | some .streamer => r.handleStreamer c m
  | some .player => r.handlePlayer c m
  | some .sfu => r.handleSfu c m

/-- A frame comes from a connection, and is handled unless it is a keep-alive or no message. -/
def receive (r : Relay) (c : ConnectionId) (frame : Inbound) : Relay × Option Signal :=
  let (box, m) := (r.outbox c).receive frame
  let r := r.setOutbox c box
  match m with
  | none => (r, none)
  | some m => (r.handle c m, some m)

/-- The far side of a connection goes away without the relay being told. -/
def abandon (r : Relay) (c : ConnectionId) : Relay := r.setOutbox c (r.outbox c).abandon

end Relay

/-- Something that happens to a relay. -/
inductive Operation
  | accept (c : ConnectionId) (role : Role) (offerToReceive : Bool)
  | message (c : ConnectionId) (m : Signal)
  | frame (c : ConnectionId) (frame : Inbound)
  | identifyTimeout (c : ConnectionId)
  | close (c : ConnectionId)
  | terminate (c : ConnectionId) (reason : String)
  | abandon (c : ConnectionId)
  deriving DecidableEq

namespace Relay

def apply (r : Relay) : Operation → Relay
  | .accept c role offerToReceive => r.accept c role offerToReceive
  | .message c m => r.handle c m
  | .frame c frame => (r.receive c frame).1
  | .identifyTimeout c => r.identifyTimeout c
  | .close c => r.close c
  | .terminate c reason => r.terminate c reason
  | .abandon c => r.abandon c

def run (r : Relay) (operations : List Operation) : Relay := operations.foldl apply r

end Relay

end SignalRelay
