import SignalRelay.Relay.State

/-!
# Subscriptions

A subscription is held on both ends: the viewer knows the id of the source, the source knows the
viewer's connection.

* `unsubscribe` ends a subscription on both ends and tells the source.
* `subscribe` starts one, after ending the one before.
-/

namespace SignalRelay

namespace Relay

/-- Ends the subscription of a viewer, if it has one.  A source that has left the directory is not
told. -/
def unsubscribe (r : Relay) (c : ConnectionId) : Relay :=
  match r.viewer? c with
  | none => r
  | some viewer =>
    match viewer.subscribed with
    | none => r
    | some id =>
      let r := r.setSubscribed c none
      match r.streamers.find? id with
      | none => r
      | some entry =>
        (r.adjustSource entry.connection (·.removeSubscriber c)).send entry.connection
          (.playerDisconnected viewer.playerId)

def missingStreamer (id : String) : String := "Streamer '" ++ id ++ "' does not exist"

/-- Subscribes a viewer to the source registered under an id.  A missing source is reported to the
viewer; nothing happens if the source is the viewer itself. -/
def subscribe (r : Relay) (c : ConnectionId) (id : String) : Relay :=
  match r.streamers.find? id with
  | none => r.send c (.subscribeFailed (missingStreamer id))
  | some entry =>
    if entry.connection = c then r
    else
      match r.viewer? c with
      | none => r
      | some viewer =>
        let r := r.unsubscribe c
        let r := r.setSubscribed c (some id)
        let r := r.adjustSource entry.connection (·.addSubscriber c)
        r.send entry.connection (.playerConnected viewer.playerId true (r.isSfu c) viewer.sendOffer)

end Relay

end SignalRelay
