import SignalRelay.CommandLine.Configuration

/-!
# Command line

Reads the arguments and reports the configuration that they make: where the three surfaces listen,
and what every peer is told.  Arguments that are not accepted are reported on standard error.
-/

namespace SignalRelay.CommandLine

def usage : List String :=
  ["WebRTC signalling relay for streamers, players and SFUs",
    "",
    "Options:",
    "  --bind <ADDRESS>                  address every listener binds to [default: 0.0.0.0]",
    "  --streamer-port <PORT>            port of the streamers [default: 8888]",
    "  --player-port <PORT>              port of the players [default: 80]",
    "  --sfu-port <PORT>                 port of the forwarding units [default: 8889]",
    "  --identify-timeout-secs <SECONDS> seconds a streamer has to claim an id [default: 5]",
    "  --peer-connection-options <JSON>  object told to every peer",
    "  --stun-server <URL>               STUN or TURN server, may be repeated",
    "  --log-level <FILTER>              what is reported [default: info]",
    "  -h, --help                        print this text"]

def report (given : Arguments) (settings : Settings) : List String :=
  let listen := given.listenAddresses
  ["streamers: " ++ listen.text .streamer,
    "players: " ++ listen.text .player,
    "forwarding units: " ++ listen.text .sfu,
    "protocol: " ++ settings.protocolVersion,
    "peer connection options: " ++ settings.peerOptions.text,
    "identify timeout: " ++ numeral settings.identifyTimeout ++ " ms",
    "log filter: " ++ given.logFilter]

def printLines (lines : List String) : IO UInt32 := do
  lines.forM IO.println
  return 0

def complain (status : UInt32) (message : String) : IO UInt32 := do
  IO.eprintln message
  return status

/-- Reports the configuration that the arguments make. -/
def reportArguments (args : List String) : IO UInt32 :=
  match Arguments.ofList? args with
  | .error .helpRequested => printLines usage
  | .error e => complain 2 e.message
  | .ok given =>
    match given.settings with
    | .error e => complain 1 e.message
    | .ok settings => printLines (report given settings)

end SignalRelay.CommandLine

def main (args : List String) : IO UInt32 := SignalRelay.CommandLine.reportArguments args
