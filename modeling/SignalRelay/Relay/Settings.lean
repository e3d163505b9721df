import SignalRelay.Message.PeerOptions

/-!
# Settings

What can be set about the relay, and what it is when nothing is set.
-/

namespace SignalRelay

/-- The settings that all connections share. -/
structure Settings where
  protocolVersion : String
  peerOptions : PeerOptions
  /-- The milliseconds that a streamer may take to claim an id. -/
  identifyTimeout : Nat
  /-- Stands in for an empty claim. -/
  defaultStreamerId : String
  /-- What the ids of streamers that never claim one begin with. -/
  fallbackStem : String
  /-- What a forwarding unit claims. -/
  sfuStreamerId : String
  deriving DecidableEq

namespace Settings

def defaultIceServer : IceServer := .ofUrl "stun:stun.l.google.com:19302"

def standard : Settings where
  protocolVersion := "1.2.0"
  peerOptions := ⟨[defaultIceServer], Fields.empty⟩
  identifyTimeout := 5000
  defaultStreamerId := "UnknownStreamer"
  fallbackStem := "__LEGACY_STREAMER__"
  sfuStreamerId := "SFU"

end Settings

end SignalRelay
