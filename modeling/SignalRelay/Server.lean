import SignalRelay.Relay.Operation
import SignalRelay.Relay.Overview

/-!
# The server

A server is a relay that runs: it takes commands until it is shut down, and it has a clock by which
the timers of its streamers go off.

* `advance` moves the clock; every command and every move ends with the timers that are due.
* `shutdownIn` terminates all connections in a given order, after which every command is refused;
  `release` is what happens when the server has lost everybody who could shut it down.
-/

namespace SignalRelay

namespace Relay

/-- The timers whose time has come, by deadline and then in the order in which they were started. -/
def dueTimers (r : Relay) : List Timer :=
  (r.timers.filter fun t => t.deadline ≤ r.clock).mergeSort fun a b => a.deadline ≤ b.deadline

def fire (r : Relay) (t : Timer) : Relay := (r.stopTimer (some t.number)).identifyTimeout t.connection

def fireDue (r : Relay) : Relay := r.dueTimers.foldl fire r

end Relay

/-- A relay that takes commands while it runs. -/
structure Server where
  relay : Relay
  running : Bool
  deriving DecidableEq

inductive CommandError
  | stopped
  deriving DecidableEq, Repr

def CommandError.message : CommandError → String
  | .stopped => "signalling server is no longer running"

namespace Server

def fresh (settings : Settings) : Server := ⟨Relay.fresh settings, true⟩

def shuttingDown : String := "Server shutting down"

/-- Does something to the relay, and lets the timers go off that are due. -/
def perform (s : Server) (act : Relay → Relay) : Except CommandError Server :=
  if s.running then .ok { s with relay := (act s.relay).fireDue } else .error .stopped

def accept (s : Server) (c : ConnectionId) (role : Role) (offerToReceive : Bool) :
    Except CommandError Server :=
  s.perform (·.accept c role offerToReceive)

def handle (s : Server) (c : ConnectionId) (m : Signal) : Except CommandError Server :=
  s.perform (·.handle c m)

def close (s : Server) (c : ConnectionId) : Except CommandError Server :=
  s.perform (·.close c)

def overview (s : Server) : Except CommandError Overview :=
  if s.running then .ok s.relay.overview else .error .stopped

def advance (s : Server) (milliseconds : Nat) : Server :=
  let relay := { s.relay with clock := s.relay.clock + milliseconds }
  if s.running then { s with relay := relay.fireDue } else { s with relay }

/-- Takes a frame of a connection.  Keep-alives are answered even when the server does not run any
more; the message that the frame carries otherwise is delivered. -/
def receive (s : Server) (c : ConnectionId) (frame : Inbound) :
    Server × Option (Signal × Except CommandError Unit) :=
  let (box, m) := (s.relay.outbox c).receive frame
  let s := { s with relay := s.relay.setOutbox c box }
  match m with
  | none => (s, none)
  | some m =>
    match s.handle c m with
    | .ok s => (s, some (m, .ok ()))
    | .error e => (s, some (m, .error e))

/-- The far side of a connection goes away without the server being told. -/
def abandon (s : Server) (c : ConnectionId) : Server := { s with relay := s.relay.abandon c }

/-- Terminates connections in the given order and stops. -/
def shutdownIn (s : Server) (order : List ConnectionId) : Except CommandError Server :=
  if s.running then .ok ⟨order.foldl (fun r c => r.terminate c shuttingDown) s.relay, false⟩
  else .error .stopped

def shutdown (s : Server) : Except CommandError Server := s.shutdownIn s.relay.sessions.keys

/-- Nobody is left who could give a command, so a server that runs shuts down, in the given order. -/
def release (s : Server) (order : List ConnectionId) : Server := (s.shutdownIn order).toOption.getD s

end Server

end SignalRelay
