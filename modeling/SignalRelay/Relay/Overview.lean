import SignalRelay.Relay.State

/-!
# Overviews

What the relay shows of itself: the registered streamers and players in order, with the state of
their sessions.  An entry without a live session of the right kind is left out.
-/

namespace SignalRelay

/-- What an overview says about a streamer id. -/
structure StreamerSummary where
  id : String
  streaming : Bool
  sfu : Bool
  identified : Bool
  /-- The player ids of the subscribers. -/
  subscribers : List String
  deriving DecidableEq, Repr

/-- What an overview says about a player id. -/
structure PlayerSummary where
  id : String
  subscribedTo : Option String
  sfu : Bool
  deriving DecidableEq, Repr

/-- What the relay shows of itself. -/
structure Overview where
  streamers : List StreamerSummary
  players : List PlayerSummary
  streamingIds : List String
  deriving DecidableEq, Repr

namespace Relay

def playerIdOf? (r : Relay) (c : ConnectionId) : Option String := (r.viewer? c).map (·.playerId)

def streamerSummary? (r : Relay) (id : String) : Option StreamerSummary := do
  let entry ← r.streamers.find? id
  let session ← r.session? entry.connection
  let source ← session.source?
  return ⟨id, entry.streaming, session.isSfu, source.identified, source.subscribers.filterMap r.playerIdOf?⟩

def playerSummary? (r : Relay) (id : String) : Option PlayerSummary := do
  let c ← r.players.find? id
  let session ← r.session? c
  let viewer ← session.viewer?
  return ⟨id, viewer.subscribed, session.isSfu⟩

def overview (r : Relay) : Overview where
  streamers := r.streamers.ids.filterMap r.streamerSummary?
  players := r.players.ids.filterMap r.playerSummary?
  streamingIds := r.streamers.streamingIds

end Relay

end SignalRelay
