import SignalRelay.Server
import SignalRelay.Web.OfferQuery

/-!
# The WebSocket gateway

The gateway has one surface for each role.  A handshake on a surface opens a connection with an id
of its own; what its outbox holds is written to the client, and what the client sends goes to the
server, until one side closes.

* `connect` and `request` answer handshakes and plain requests.
* `receive`, `ping`, `closeByClient` and `abort` are what a client can do with its connection.
* `flush` writes what is queued.  A queued close is written as a close frame if its reason fits, and
  ends the connection in any case; the server is told of every end.
-/

namespace SignalRelay

/-- What a client receives. -/
inductive Arrival
  | text (content : String)
  | pong (octets : List UInt8)
  | close (reason : String) (code : Nat)
  | ended
  deriving DecidableEq

/-- The gateway's end of a connection. -/
structure Socket where
  live : Bool
  /-- The number of frames of the outbox that have been written. -/
  written : Nat
  arrivals : List Arrival
  deriving DecidableEq

namespace Socket

def normalClose : Nat := 1000

/-- The most octets that a frame which controls the connection may carry. -/
def maxControl : Nat := 125

/-- The most octets that the reason in a close frame may have, behind the two of the code. -/
def maxReason : Nat := maxControl - 2

/-- What the client receives for frames of the outbox, and whether the connection ends with them.  A
reason that is too long cannot be sent. -/
def arrivalsOf : List Outbound → List Arrival × Bool
  | [] => ([], false)
  | .message m :: rest =>
    let (arrivals, closed) := arrivalsOf rest
    (.text m.text :: arrivals, closed)
  | .close reason :: _ =>
    (if reason.utf8ByteSize ≤ maxReason then [.close reason normalClose, .ended] else [.ended], true)

end Socket

/-- The surfaces with their connections and the server behind them. -/
structure Gateway where
  server : Server
  sockets : Table Socket
  nextConnection : Nat
  deriving DecidableEq

inductive Refusal
  /-- The method or the target has not the form of one. -/
  | unreadable
  | targetTooLong
  /-- No surface has the path. -/
  | unknownPath
  | methodNotAllowed
  /-- The method is that of a handshake, but the request is none. -/
  | notHandshake
  | unreadableQuery (cause : QueryError)
  deriving DecidableEq, Repr

def Refusal.status : Refusal → Nat
  | .unreadable | .notHandshake | .unreadableQuery _ => 400
  | .unknownPath => 404
  | .methodNotAllowed => 405
  | .targetTooLong => 414

inductive ClientError
  | sendFailed
  deriving DecidableEq, Repr

namespace Gateway

def fresh (settings : Settings) : Gateway := ⟨Server.fresh settings, Table.empty, 0⟩

/-- The socket of a connection that has not ended. -/
def liveSocket? (g : Gateway) (c : ConnectionId) : Option Socket :=
  (g.sockets.get? c).filter (·.live)

def adjustSocket (g : Gateway) (c : ConnectionId) (f : Socket → Socket) : Gateway :=
  { g with sockets := g.sockets.adjust c f }

/-- Closes a connection in the server, if that still runs. -/
def closeSession (g : Gateway) (c : ConnectionId) : Gateway :=
  match g.server.close c with
  | .ok server => { g with server }
  | .error _ => g

/-- Ends a connection: the client is told, if it still listens, and the session goes. -/
def finish (g : Gateway) (c : ConnectionId) (arrivals : List Arrival) : Gateway :=
  (g.adjustSocket c fun socket =>
    { socket with live := false, arrivals := socket.arrivals ++ arrivals }).closeSession c

def flushSocket (g : Gateway) (c : ConnectionId) : Gateway :=
  match g.liveSocket? c with
  | none => g
  | some socket =>
    let frames := (g.server.relay.outbox c).frames
    let (arrivals, closed) := Socket.arrivalsOf (frames.drop socket.written)
    if closed then g.finish c arrivals
    else
      g.adjustSocket c fun socket =>
        { socket with written := frames.length, arrivals := socket.arrivals ++ arrivals }

def flush (g : Gateway) : Gateway := g.sockets.keys.foldl flushSocket g

def arrivals (g : Gateway) (c : ConnectionId) : List Arrival := ((g.sockets.get? c).map (·.arrivals)).getD []

/-! ## Requests -/

def isMethodChar (c : Char) : Bool := c.isAlphanum || "!#$%&'*+-.^_\x60|~".toList.contains c

/-- Whether the surfaces have a path: they have every one that starts at the root. -/
def hasPath (path : List Char) : Bool := path.head? == some '/'

/-- The target of a request.  What cannot stand in the line of a request is refused before the
length of the target, and that before its form. -/
def target? (method target : String) : Except Refusal Uri :=
  if method.isEmpty || !method.toList.all isMethodChar then .error .unreadable
  else if target.isEmpty || !target.toList.all Uri.isVisible then .error .unreadable
  else if Uri.maxLength < target.utf8ByteSize then .error .targetTooLong
  else
    match Uri.ofText? target with
    | none => .error .unreadable
    | some uri => if hasPath uri.lookupPath then .ok uri else .error .unknownPath

def handshakeMethod : String := "GET"

/-- Why a plain request, which is no handshake, is refused. -/
def request (method target : String) : Refusal :=
  match target? method target with
  | .error refusal => refusal
  | .ok _ => if method = handshakeMethod then .notHandshake else .methodNotAllowed

/-- What a handshake asks for: whether a player wants to offer.  Only the surface of players looks
at the query. -/
def admission (surface : Role) (target : String) : Except Refusal Bool := do
  let uri ← target? handshakeMethod target
  match surface with
  | .streamer | .sfu => .ok false
  | .player =>
    match OfferQuery.ofUri? uri with
    | .ok query => .ok query.wantsOffer
    | .error e => .error (.unreadableQuery e)

/-- Answers a handshake.  An accepted connection gets an id of its own, and ends at once if the
server does not run. -/
def connect (g : Gateway) (surface : Role) (target : String) : Gateway × Except Refusal ConnectionId :=
  match admission surface target with
  | .error refusal => (g, .error refusal)
  | .ok offerToReceive =>
    let c : ConnectionId := ⟨g.nextConnection⟩
    let g := { g with nextConnection := g.nextConnection + 1, sockets := g.sockets.set c ⟨true, 0, []⟩ }
    match g.server.accept c surface offerToReceive with
    | .ok server => ({ g with server }.flush, .ok c)
    | .error _ => (g.finish c [.ended], .ok c)

/-! ## Connections -/

/-- A frame of a client goes to the server.  If the server does not run any more, a message in it
ends the connection. -/
def receive (g : Gateway) (c : ConnectionId) (frame : Inbound) : Except ClientError Gateway :=
  match g.liveSocket? c with
  | none => .error .sendFailed
  | some _ =>
    let (server, result) := g.server.receive c frame
    let g := { g with server }
    match result with
    | some (_, .error _) => .ok (g.flush.finish c [.ended])
    | _ => .ok g.flush

/-- A ping of a client is answered with its own content, without the server.  One that carries too
much ends the connection. -/
def ping (g : Gateway) (c : ConnectionId) (octets : List UInt8) : Except ClientError Gateway :=
  match g.liveSocket? c with
  | none => .error .sendFailed
  | some _ =>
    if Socket.maxControl < octets.length then .ok (g.finish c [.ended]).flush
    else .ok (g.adjustSocket c fun socket => { socket with arrivals := socket.arrivals ++ [.pong octets] })

def closeByClient (g : Gateway) (c : ConnectionId) : Except ClientError Gateway :=
  match g.liveSocket? c with
  | none => .error .sendFailed
  | some _ => .ok (g.finish c [.ended]).flush

def abort (g : Gateway) (c : ConnectionId) : Gateway :=
  match g.liveSocket? c with
  | none => g
  | some _ => (g.finish c []).flush

def advance (g : Gateway) (milliseconds : Nat) : Gateway :=
  { g with server := g.server.advance milliseconds }.flush

def shutdown (g : Gateway) : Except CommandError Gateway :=
  match g.server.shutdown with
  | .ok server => .ok { g with server }.flush
  | .error e => .error e

end Gateway

end SignalRelay
