import SignalRelay.Relay.Session
import SignalRelay.Relay.Settings
import SignalRelay.Relay.Table
import SignalRelay.Directory.Players
import SignalRelay.Wire.Outbox

/-!
# The state of the relay

The relay holds all routing state: the live sessions, the two directories, the outbox of every
connection, and the timers that run for streamers without an id.  It changes one event at a time.

This module has the state and what everything else is made of: looking up the sides of a session,
changing them, queueing frames, and timers.
-/

namespace SignalRelay

/-- A timer that runs for a streamer. -/
structure Timer where
  number : Nat
  connection : ConnectionId
  deadline : Nat
  deriving DecidableEq, Repr

/-- All routing state. -/
structure Relay where
  settings : Settings
  sessions : Table Session
  streamers : StreamerDirectory
  players : PlayerDirectory
  /-- What is queued for each connection that ever was sent to. -/
  outboxes : Table Outbox
  /-- The time in milliseconds. -/
  clock : Nat
  /-- The timers that run, in the order in which they were started. -/
  timers : List Timer
  nextTimer : Nat
  deriving DecidableEq

namespace Relay

def fresh (settings : Settings) : Relay where
  settings
  sessions := Table.empty
  streamers := StreamerDirectory.fresh settings.defaultStreamerId settings.fallbackStem
  players := PlayerDirectory.fresh
  outboxes := Table.empty
  clock := 0
  timers := []
  nextTimer := 0

/-! ## Sessions -/

/-- The session of a connection, if it is live. -/
def session? (r : Relay) (c : ConnectionId) : Option Session := r.sessions.get? c

def role? (r : Relay) (c : ConnectionId) : Option Role := (r.session? c).map Session.role

def source? (r : Relay) (c : ConnectionId) : Option Source := (r.session? c).bind Session.source?

def viewer? (r : Relay) (c : ConnectionId) : Option Viewer := (r.session? c).bind Session.viewer?

def isSfu (r : Relay) (c : ConnectionId) : Bool := (r.session? c).any Session.isSfu

def insertSession (r : Relay) (c : ConnectionId) (s : Session) : Relay :=
  { r with sessions := r.sessions.set c s }

def eraseSession (r : Relay) (c : ConnectionId) : Relay := { r with sessions := r.sessions.erase c }

def adjustSource (r : Relay) (c : ConnectionId) (f : Source → Source) : Relay :=
  { r with sessions := r.sessions.adjust c (Session.mapSource f) }

def adjustViewer (r : Relay) (c : ConnectionId) (f : Viewer → Viewer) : Relay :=
  { r with sessions := r.sessions.adjust c (Session.mapViewer f) }

/-- Says what a viewer watches. -/
def setSubscribed (r : Relay) (c : ConnectionId) (id : Option String) : Relay :=
  r.adjustViewer c fun viewer => { viewer with subscribed := id }

/-- The connection of the source that a viewer watches. -/
def watched? (r : Relay) (c : ConnectionId) : Option ConnectionId := do
  let viewer ← r.viewer? c
  let id ← viewer.subscribed
  let entry ← r.streamers.find? id
  return entry.connection

/-! ## Frames -/

def outbox (r : Relay) (c : ConnectionId) : Outbox := (r.outboxes.get? c).getD Outbox.fresh

def setOutbox (r : Relay) (c : ConnectionId) (box : Outbox) : Relay :=
  { r with outboxes := r.outboxes.set c box }

/-- Queues a frame for a connection, live or not. -/
def push (r : Relay) (c : ConnectionId) (frame : Outbound) : Relay := r.setOutbox c ((r.outbox c).push frame)

/-- Queues a message for a live connection.  For any other it is dropped. -/
def send (r : Relay) (c : ConnectionId) (m : Signal) : Relay :=
  if (r.session? c).isSome then r.push c (.message m) else r

def sendSettings (r : Relay) (c : ConnectionId) : Relay :=
  r.send c (.config r.settings.peerOptions r.settings.protocolVersion)

/-- Relays a payload to the player that its stamp names, without the stamp.  It is dropped if there
is no stamp or no such player. -/
def relayToPlayer (r : Relay) (kind : RoutedKind) (payload : Payload) : Relay :=
  match payload.takeStamp with
  | (none, _) => r
  | (some playerId, payload) =>
    match r.players.find? playerId with
    | none => r
    | some target => r.send target (.routed kind payload)

/-! ## Timers -/

def startTimer (r : Relay) (c : ConnectionId) : Relay :=
  { r.adjustSource c (fun source => { source with timer := some r.nextTimer }) with
    timers := r.timers ++ [⟨r.nextTimer, c, r.clock + r.settings.identifyTimeout⟩]
    nextTimer := r.nextTimer + 1 }

def stopTimer (r : Relay) (timer : Option Nat) : Relay :=
  { r with timers := r.timers.filter fun t => some t.number ≠ timer }

end Relay

end SignalRelay
