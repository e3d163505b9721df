import SignalRelay.Relay.Subscription

/-!
# Closing connections

When a connection goes, its session goes, its ids leave the directories, and everybody who watched
it is told.  A forwarding unit that loses its source goes too, and so on down the line.

Every step down the line has one session less, so the number of live sessions bounds the depth.
`closeWithin` takes that number as its fuel, and `close` starts it with enough.
-/

namespace SignalRelay

namespace Relay

def sourceLost : String := "Upstream streamer disconnected"

/-- Says whether the source side of a connection has media to offer. -/
def markStreaming (r : Relay) (c : ConnectionId) (streaming : Bool) : Relay :=
  match (r.source? c).bind (·.streamerId) with
  | none => r
  | some id => { r with streamers := r.streamers.markStreaming id streaming }

/-- Queues a close for a live connection and closes it by `shut`. -/
def terminateBy (shut : Relay → ConnectionId → Relay) (r : Relay) (c : ConnectionId) (reason : String) :
    Relay :=
  if (r.session? c).isSome then shut (r.push c (.close reason)) c else r

/-- Tells one former subscriber that the source `id` is gone.  A player is left without a
subscription, a forwarding unit is terminated. -/
def releaseBy (shut : Relay → ConnectionId → Relay) (id : String) (r : Relay) (c : ConnectionId) : Relay :=
  match r.session? c with
  | none => r
  | some (.streamer _) => r
  | some (.player viewer) =>
    if viewer.subscribed = some id then (r.setSubscribed c none).send c .streamerDisconnected else r
  | some (.sfu _ viewer) =>
    if viewer.subscribed = some id then
      terminateBy shut ((r.setSubscribed c none).markStreaming c false) c sourceLost
    else r

/-- Takes the id of a source that has gone out of the directory and tells its subscribers in order.
-/
def retireBy (shut : Relay → ConnectionId → Relay) (r : Relay) (id : String)
    (subscribers : List ConnectionId) : Relay :=
  subscribers.foldl (releaseBy shut id) { r with streamers := r.streamers.remove id }

def retirePlayer (r : Relay) (id : String) : Relay := { r with players := r.players.remove id }

/-- Retires a source that may be without an id. -/
def retireSourceBy (shut : Relay → ConnectionId → Relay) (r : Relay) (source : Source) : Relay :=
  match source.streamerId with
  | none => r
  | some id => retireBy shut r id source.subscribers

/-- Closes a connection; the forwarding units that lose their source by it are closed by `shut`. -/
def closeBy (shut : Relay → ConnectionId → Relay) (r : Relay) (c : ConnectionId) : Relay :=
  match r.session? c with
  | none => r
  | some (.streamer source) => retireSourceBy shut ((r.eraseSession c).stopTimer source.timer) source
  | some (.player viewer) => ((r.unsubscribe c).eraseSession c).retirePlayer viewer.playerId
  | some (.sfu _ _) =>
    let r := r.unsubscribe c
    match r.session? c with
    | some (.sfu source viewer) =>
      (retireSourceBy shut (r.eraseSession c) source).retirePlayer viewer.playerId
    | _ => r

/-- Closes a connection and, at most `fuel` steps down the line, those that go with it. -/
def closeWithin : Nat → Relay → ConnectionId → Relay
  | 0, r, _ => r
  | fuel + 1, r, c => closeBy (closeWithin fuel) r c

/-- Closes a connection.  Closing one that is not live does nothing. -/
def close (r : Relay) (c : ConnectionId) : Relay := closeWithin r.sessions.size r c

def terminate (r : Relay) (c : ConnectionId) (reason : String) : Relay := terminateBy close r c reason

/-- Terminates the connection of a player, if there is such a player. -/
def disconnectPlayer (r : Relay) (playerId : String) (reason : String) : Relay :=
  match r.players.find? playerId with
  | none => r
  | some target => r.terminate target reason

end Relay

end SignalRelay
