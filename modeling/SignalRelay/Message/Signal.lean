import SignalRelay.Message.Payload

/-!
# Signalling messages

One frame of the signalling protocol is a message.  Its kind is written in the member `type`; the
other members depend on the kind.  Eight kinds carry a routed payload, whose members stand beside
`type`.

* `RoutedKind` and `Kind` are the kinds, each with its name on the wire; `Kind.ofName?_name` says
  that names are told apart.
* `Signal` is the type of messages.
-/

namespace SignalRelay

/-- The kinds of message that are relayed between peers. -/
inductive RoutedKind
  | offer
  | answer
  | iceCandidate
  | layerPreference
  | dataChannelRequest
  | peerDataChannelsReady
  | streamerDataChannels
  | peerDataChannels
  deriving DecidableEq, Repr

inductive Kind
  | identify
  | endpointId
  | endpointIdConfirm
  | config
  | ping
  | pong
  | listStreamers
  | streamerList
  | subscribe
  | subscribeFailed
  | unsubscribe
  | playerConnected
  | playerDisconnected
  | streamerIdChanged
  | streamerDisconnected
  | disconnectPlayer
  | routed (kind : RoutedKind)
  | startStreaming
  | stopStreaming
  deriving DecidableEq, Repr

def RoutedKind.name : RoutedKind → String
  | .offer => "offer"
  | .answer => "answer"
  | .iceCandidate => "iceCandidate"
  | .layerPreference => "layerPreference"
  | .dataChannelRequest => "dataChannelRequest"
  | .peerDataChannelsReady => "peerDataChannelsReady"
  | .streamerDataChannels => "streamerDataChannels"
  | .peerDataChannels => "peerDataChannels"

namespace Kind

def name : Kind → String
  | .identify => "identify"
  | .endpointId => "endpointId"
  | .endpointIdConfirm => "endpointIdConfirm"
  | .config => "config"
  | .ping => "ping"
  | .pong => "pong"
  | .listStreamers => "listStreamers"
  | .streamerList => "streamerList"
  | .subscribe => "subscribe"
  | .subscribeFailed => "subscribeFailed"
  | .unsubscribe => "unsubscribe"
  | .playerConnected => "playerConnected"
  | .playerDisconnected => "playerDisconnected"
  | .streamerIdChanged => "streamerIdChanged"
  | .streamerDisconnected => "streamerDisconnected"
  | .disconnectPlayer => "disconnectPlayer"
  | .routed kind => kind.name
  | .startStreaming => "startStreaming"
  | .stopStreaming => "stopStreaming"

def ofName? : String → Option Kind
  | "identify" => some .identify
  | "endpointId" => some .endpointId
  | "endpointIdConfirm" => some .endpointIdConfirm
  | "config" => some .config
  | "ping" => some .ping
  | "pong" => some .pong
  | "listStreamers" => some .listStreamers
  | "streamerList" => some .streamerList
  | "subscribe" => some .subscribe
  | "subscribeFailed" => some .subscribeFailed
  | "unsubscribe" => some .unsubscribe
  | "playerConnected" => some .playerConnected
  | "playerDisconnected" => some .playerDisconnected
  | "streamerIdChanged" => some .streamerIdChanged
  | "streamerDisconnected" => some .streamerDisconnected
  | "disconnectPlayer" => some .disconnectPlayer
  | "offer" => some (.routed .offer)
  | "answer" => some (.routed .answer)
  | "iceCandidate" => some (.routed .iceCandidate)
  | "layerPreference" => some (.routed .layerPreference)
  | "dataChannelRequest" => some (.routed .dataChannelRequest)
  | "peerDataChannelsReady" => some (.routed .peerDataChannelsReady)
  | "streamerDataChannels" => some (.routed .streamerDataChannels)
  | "peerDataChannels" => some (.routed .peerDataChannels)
  | "startStreaming" => some .startStreaming
  | "stopStreaming" => some .stopStreaming
  | _ => none

theorem ofName?_name (kind : Kind) : ofName? kind.name = some kind := by
  cases kind with
  | routed kind => cases kind <;> rfl
  | _ => rfl

end Kind

/-- One message of the signalling protocol. -/
inductive Signal
  /-- The relay asks a source for its id. -/
  | identify
  /-- A source claims an id. -/
  | endpointId (id : String)
  /-- The relay tells a source the id it got. -/
  | endpointIdConfirm (committedId : String)
  /-- The relay's first message to every peer. -/
  | config (options : PeerOptions) (protocolVersion : String)
  /-- A sign of life, to be answered with the same time. -/
  | ping (time : Number)
  /-- The answer to a sign of life. -/
  | pong (time : Number)
  /-- A viewer asks for the registered streamers. -/
  | listStreamers
  /-- The registered streamers. -/
  | streamerList (ids : List String)
  /-- A viewer wants to watch a streamer. -/
  | subscribe (streamerId : String)
  /-- The relay turns a subscription down. -/
  | subscribeFailed (message : String)
  /-- A viewer stops watching. -/
  | unsubscribe
  /-- A streamer gets a viewer. -/
  | playerConnected (playerId : String) (dataChannel : Bool) (sfu : Bool) (sendOffer : Bool)
  /-- A streamer loses a viewer. -/
  | playerDisconnected (playerId : String)
  /-- A viewer's streamer goes by another id now. -/
  | streamerIdChanged (newId : String)
  /-- A viewer's streamer is gone. -/
  | streamerDisconnected
  /-- A source throws a viewer out. -/
  | disconnectPlayer (playerId : String) (reason : Option String)
  /-- A payload to be relayed. -/
  | routed (kind : RoutedKind) (payload : Payload)
  /-- A forwarding unit has media to offer. -/
  | startStreaming
  /-- A forwarding unit has no media to offer. -/
  | stopStreaming
  deriving DecidableEq

namespace Signal

def kind : Signal → Kind
  | .identify => .identify
  | .endpointId _ => .endpointId
  | .endpointIdConfirm _ => .endpointIdConfirm
  | .config _ _ => .config
  | .ping _ => .ping
  | .pong _ => .pong
  | .listStreamers => .listStreamers
  | .streamerList _ => .streamerList
  | .subscribe _ => .subscribe
  | .subscribeFailed _ => .subscribeFailed
  | .unsubscribe => .unsubscribe
  | .playerConnected .. => .playerConnected
  | .playerDisconnected _ => .playerDisconnected
  | .streamerIdChanged _ => .streamerIdChanged
  | .streamerDisconnected => .streamerDisconnected
  | .disconnectPlayer _ _ => .disconnectPlayer
  | .routed kind _ => .routed kind
  | .startStreaming => .startStreaming
  | .stopStreaming => .stopStreaming

def payload? : Signal → Option Payload
  | .routed _ payload => some payload
  | _ => none

end Signal

end SignalRelay
