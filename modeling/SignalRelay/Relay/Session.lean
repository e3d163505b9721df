import SignalRelay.Identity.ConnectionId
import SignalRelay.Identity.Role

/-!
# Sessions

What the relay holds about one live connection.  A session has a source side if it can be watched
and a viewer side if it can watch; a forwarding unit has both.

* `Source.addSubscriber` and `Source.removeSubscriber` keep the subscribers in the order in which
  they came, each once.
* `Session.mapSource` and `Session.mapViewer` change one side and leave the other alone.
-/

namespace SignalRelay

/-- The side of a session that is watched. -/
structure Source where
  /-- The id under which the source is registered, if it is. -/
  streamerId : Option String
  /-- The connections that watch, in order of subscription. -/
  subscribers : List ConnectionId
  /-- The number of the timer that runs until the source has to have an id. -/
  timer : Option Nat
  identified : Bool
  deriving DecidableEq, Repr

/-- The side of a session that watches. -/
structure Viewer where
  playerId : String
  /-- The id of the source that is watched. -/
  subscribed : Option String
  /-- Whether the viewer wants the source to make the offer. -/
  sendOffer : Bool
  deriving DecidableEq, Repr

namespace Source

def fresh (streamerId : Option String) : Source := ⟨streamerId, [], none, false⟩

/-- Adds a subscriber at the end, unless it is there. -/
def addSubscriber (source : Source) (c : ConnectionId) : Source :=
  if c ∈ source.subscribers then source else { source with subscribers := source.subscribers ++ [c] }

def removeSubscriber (source : Source) (c : ConnectionId) : Source :=
  { source with subscribers := source.subscribers.filter (· ≠ c) }

end Source

/-- One live connection. -/
inductive Session
  | streamer (source : Source)
  | player (viewer : Viewer)
  | sfu (source : Source) (viewer : Viewer)
  deriving DecidableEq, Repr

namespace Session

def role : Session → Role
  | .streamer _ => .streamer
  | .player _ => .player
  | .sfu _ _ => .sfu

def isSfu (s : Session) : Bool := s.role = .sfu

def source? : Session → Option Source
  | .streamer source => some source
  | .player _ => none
  | .sfu source _ => some source

def viewer? : Session → Option Viewer
  | .streamer _ => none
  | .player viewer => some viewer
  | .sfu _ viewer => some viewer

def mapSource (f : Source → Source) : Session → Session
  | .streamer source => .streamer (f source)
  | .player viewer => .player viewer
  | .sfu source viewer => .sfu (f source) viewer

def mapViewer (f : Viewer → Viewer) : Session → Session
  | .streamer source => .streamer source
  | .player viewer => .player (f viewer)
  | .sfu source viewer => .sfu source (f viewer)

@[simp] theorem role_mapSource (f : Source → Source) (s : Session) : (s.mapSource f).role = s.role := by
  cases s <;> rfl

@[simp] theorem role_mapViewer (f : Viewer → Viewer) (s : Session) : (s.mapViewer f).role = s.role := by
  cases s <;> rfl

@[simp] theorem source?_mapSource (f : Source → Source) (s : Session) :
    (s.mapSource f).source? = s.source?.map f := by
  cases s <;> rfl

@[simp] theorem viewer?_mapSource (f : Source → Source) (s : Session) :
    (s.mapSource f).viewer? = s.viewer? := by
  cases s <;> rfl

@[simp] theorem source?_mapViewer (f : Viewer → Viewer) (s : Session) :
    (s.mapViewer f).source? = s.source? := by
  cases s <;> rfl

@[simp] theorem viewer?_mapViewer (f : Viewer → Viewer) (s : Session) :
    (s.mapViewer f).viewer? = s.viewer?.map f := by
  cases s <;> rfl

end Session

end SignalRelay
