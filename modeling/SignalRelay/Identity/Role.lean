/-!
# Roles

A connection arrives on one of three surfaces, and the surface decides what it may do.
-/

namespace SignalRelay

/-- What a connection is to the relay: a media source, a viewer, or a selective forwarding unit that
is both. -/
inductive Role
  | streamer
  | player
  | sfu
  deriving DecidableEq, Repr

namespace Role

def name : Role → String
  | .streamer => "streamer"
  | .player => "player"
  | .sfu => "sfu"

def ofName? : String → Option Role
  | "streamer" => some .streamer
  | "player" => some .player
  | "sfu" => some .sfu
  | _ => none

theorem ofName?_name (r : Role) : ofName? r.name = some r := by
  cases r <;> rfl

end Role

end SignalRelay
