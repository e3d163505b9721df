import SignalRelay.Relay.Teardown

/-!
# Players

A player watches: it subscribes, asks for the registered streamers, and negotiates with its source.
What it relays is stamped with its own id, whatever stamp it put there itself.  Forwarding units
act the same way toward their source.
-/

namespace SignalRelay

namespace Relay

def noStreamers : String := "No streamers available"

/-- Relays a payload of a viewer to its source, stamped. -/
def relayToWatched (r : Relay) (c : ConnectionId) (kind : RoutedKind) (payload : Payload) : Relay :=
  match r.watched? c, r.viewer? c with
  | some target, some viewer => r.send target (.routed kind (payload.withStamp viewer.playerId))
  | _, _ => r

/-- Relays a payload of a viewer to its source.  A viewer without one is subscribed to the first
registered source, and terminated if there is none. -/
def relayToSource (r : Relay) (c : ConnectionId) (kind : RoutedKind) (payload : Payload) : Relay :=
  if (r.watched? c).isSome then r.relayToWatched c kind payload
  else
    match r.streamers.first? with
    | none => r.terminate c noStreamers
    | some first => (r.subscribe c first).relayToWatched c kind payload

def sendStreamerList (r : Relay) (c : ConnectionId) : Relay := r.send c (.streamerList r.streamers.ids)

def openPlayer (r : Relay) (c : ConnectionId) (offerToReceive : Bool) : Relay :=
  let (playerId, players) := r.players.add c
  let r := { r with players }.insertSession c (.player ⟨playerId, none, !offerToReceive⟩)
  r.sendSettings c

/-- A message from a viewer.  Messages that are not a viewer's are ignored. -/
def handlePlayer (r : Relay) (c : ConnectionId) (m : Signal) : Relay :=
  match m with
  | .subscribe id => r.subscribe c id
  | .unsubscribe => r.unsubscribe c
  | .listStreamers => r.sendStreamerList c
  | .routed kind payload =>
    match kind with
    | .offer | .answer | .iceCandidate | .dataChannelRequest | .peerDataChannelsReady =>
      r.relayToSource c kind payload
    | .layerPreference | .streamerDataChannels | .peerDataChannels => r
  | _ => r

end Relay

end SignalRelay
