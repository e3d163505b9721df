import SignalRelay.Relay.Teardown

/-!
# Streamers

A streamer is asked for an id when it connects.  The first claim admits it to the directory, later
ones rename it; one that takes too long gets an id of the relay's making.

* `register` admits a streamer or terminates it.
* `renameStreamer` carries a new id to all subscribers before it is confirmed.
-/

namespace SignalRelay

namespace Relay

def streamerRefused : String := "Streamer id already in use"

/-- Why a viewer is thrown out by a streamer that gives no reason. -/
def streamerKick : String := "Disconnected by streamer"

/-- Opens a streamer, asks it for an id and starts its timer. -/
def openStreamer (r : Relay) (c : ConnectionId) : Relay :=
  let r := r.insertSession c (.streamer (Source.fresh none))
  ((r.sendSettings c).send c .identify).startTimer c

/-- Admits a streamer under a claim and confirms the id it got. -/
def register (r : Relay) (c : ConnectionId) (desired : String) : Relay :=
  match r.streamers.add desired c true with
  | .ok (id, streamers) =>
    ({ r with streamers }.adjustSource c fun source => { source with streamerId := some id }).send c
      (.endpointIdConfirm id)
  | .error _ => r.terminate c streamerRefused

/-- Tells one viewer that its source goes by another id now. -/
def followRename (new : String) (r : Relay) (c : ConnectionId) : Relay :=
  if (r.viewer? c).isSome then (r.setSubscribed c (some new)).send c (.streamerIdChanged new) else r

/-- Settles a new claim of a registered streamer.  If the claim is refused, the streamer keeps its
id and hears nothing. -/
def renameStreamer (r : Relay) (c : ConnectionId) (current desired : String) : Relay :=
  match r.streamers.rename current desired with
  | .error _ => r
  | .ok (new, streamers) =>
    let r := { r with streamers }.adjustSource c fun source => { source with streamerId := some new }
    let subscribers := ((r.source? c).map (·.subscribers)).getD []
    let r := if new = current then r else subscribers.foldl (followRename new) r
    r.send c (.endpointIdConfirm new)

def claimId (r : Relay) (c : ConnectionId) (desired : String) : Relay :=
  match r.source? c with
  | none => r
  | some source =>
    let r := r.adjustSource c fun source => { source with identified := true }
    match source.streamerId with
    | some current => r.renameStreamer c current desired
    | none =>
      ((r.stopTimer source.timer).adjustSource c fun source => { source with timer := none }).register c
        desired

/-- The time in which a streamer had to claim an id is over.  Nothing happens if its timer does not
run any more. -/
def identifyTimeout (r : Relay) (c : ConnectionId) : Relay :=
  match r.source? c with
  | none => r
  | some source =>
    if source.timer.isSome then
      let r := r.adjustSource c fun source => { source with timer := none }
      let (id, streamers) := r.streamers.takeFallbackId
      { r with streamers }.register c id
    else r

/-- Passes a message on to every forwarding unit among the subscribers. -/
def relayToUnits (r : Relay) (c : ConnectionId) (m : Signal) : Relay :=
  (((r.source? c).map (·.subscribers)).getD []).foldl (fun r d => if r.isSfu d then r.send d m else r) r

/-- A message from a streamer.  Messages that are not a streamer's are ignored. -/
def handleStreamer (r : Relay) (c : ConnectionId) (m : Signal) : Relay :=
  match m with
  | .endpointId id => r.claimId c id
  | .disconnectPlayer playerId reason => r.disconnectPlayer playerId (reason.getD streamerKick)
  | .routed kind payload =>
    match kind with
    | .offer | .answer | .iceCandidate => r.relayToPlayer kind payload
    | .layerPreference => r.relayToUnits c m
    | .dataChannelRequest | .peerDataChannelsReady | .streamerDataChannels | .peerDataChannels => r
  | _ => r

end Relay

end SignalRelay
