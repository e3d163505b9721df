import SignalRelay.CommandLine.Arguments
import SignalRelay.Relay.Settings
import SignalRelay.Identity.Role

/-!
# Configuration

What command-line arguments make of the relay: its settings, the addresses of its three surfaces,
and how much it reports.
-/

namespace SignalRelay

/-- The addresses that the surfaces listen on. -/
structure ListenAddresses where
  address : IpAddress
  streamerPort : Nat
  playerPort : Nat
  sfuPort : Nat
  deriving DecidableEq, Repr

namespace ListenAddresses

def text (l : ListenAddresses) : Role → String
  | .streamer => l.address.withPort l.streamerPort
  | .player => l.address.withPort l.playerPort
  | .sfu => l.address.withPort l.sfuPort

end ListenAddresses

/-- Why arguments make no configuration. -/
inductive ConfigurationError
  | invalidPeerOptions
  deriving DecidableEq, Repr

def ConfigurationError.message : ConfigurationError → String
  | .invalidPeerOptions => "Invalid --peer-connection-options"

namespace Arguments

/-- The seconds that a streamer may take to claim an id when nothing is given. -/
def standardTimeoutSecs : Nat := 5

/-- The settings that the arguments ask for.  Servers that are given one by one replace those of the
options. -/
def settings (given : Arguments) : Except ConfigurationError Settings := do
  let options ← match given.peerConnectionOptions with
    | none => .ok Settings.standard.peerOptions
    | some text => (PeerOptions.ofText? text).mapError fun _ => .invalidPeerOptions
  let options :=
    if given.stunServers.isEmpty then options
      else { options with iceServers := given.stunServers.map IceServer.ofUrl }
  .ok { Settings.standard with
    peerOptions := options
    identifyTimeout := 1000 * given.identifyTimeoutSecs.getD standardTimeoutSecs }

def listenAddresses (given : Arguments) : ListenAddresses where
  address := given.bind.getD (.v4 [0, 0, 0, 0])
  streamerPort := given.streamerPort.getD 8888
  playerPort := given.playerPort.getD 80
  sfuPort := given.sfuPort.getD 8889

def logFilter (given : Arguments) : String := given.logLevel.getD "info"

end Arguments

end SignalRelay
