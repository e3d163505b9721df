import SignalRelay.Relay.Watching

/-!
# Forwarding units

A selective forwarding unit is a source to its players and a viewer to its own source.  It is
registered as both from the start and keeps its streamer id; whether it has media to offer it says
itself.
-/

namespace SignalRelay

namespace Relay

def sfuRefused : String := "SFU id already in use"

/-- Why a viewer is thrown out by a forwarding unit that gives no reason. -/
def sfuKick : String := "Disconnected by SFU"

/-- Opens a forwarding unit, which has no media to offer yet.  A refused one gets a close and no
session. -/
def openSfu (r : Relay) (c : ConnectionId) : Relay :=
  match r.streamers.add r.settings.sfuStreamerId c false with
  | .error _ => r.push c (.close sfuRefused)
  | .ok (id, streamers) =>
    let (playerId, players) := r.players.add c
    let session := Session.sfu (Source.fresh (some id)) ⟨playerId, none, true⟩
    let r := { r with streamers, players }.insertSession c session
    (r.sendSettings c).send c .identify

/-- Relays the set-up of data channels to the source.  The unit's own player id goes along as
`sfuId`, and as the stamp if there is none. -/
def sendDataChannels (r : Relay) (c : ConnectionId) (payload : Payload) : Relay :=
  match r.viewer? c, r.watched? c with
  | some viewer, some target =>
    let payload := payload.insert "sfuId" (.str viewer.playerId)
    let payload := if payload.playerId.isSome then payload else payload.withStamp viewer.playerId
    r.send target (.routed .streamerDataChannels payload)
  | _, _ => r

/-- A message from a forwarding unit.  Candidates with a stamp are for a player, others for the
source.  Messages that are not a forwarding unit's are ignored. -/
def handleSfu (r : Relay) (c : ConnectionId) (m : Signal) : Relay :=
  match m with
  | .endpointId _ => r.adjustSource c fun source => { source with identified := true }
  | .startStreaming => r.markStreaming c true
  | .stopStreaming => r.markStreaming c false
  | .subscribe _ | .unsubscribe | .listStreamers => r.handlePlayer c m
  | .disconnectPlayer playerId reason => r.disconnectPlayer playerId (reason.getD sfuKick)
  | .routed kind payload =>
    match kind with
    | .answer | .dataChannelRequest | .peerDataChannelsReady => r.handlePlayer c m
    | .offer | .peerDataChannels => r.relayToPlayer kind payload
    | .iceCandidate =>
      if payload.playerId.isSome then r.relayToPlayer kind payload else r.relayToSource c kind payload
    | .streamerDataChannels => r.sendDataChannels c payload
    | .layerPreference => r
  | _ => r

end Relay

end SignalRelay
