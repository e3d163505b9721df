import SignalRelay.Message.Signal

/-!
# Messages as text

A message is written as an object whose first member is `type`.  It is read from such an object with
its members in any order, or from an array of the kind's name and the members' values in their
written order.

* `Signal.toMembers` gives the members behind `type`, and `Signal.text` the wire text.
* `Signal.ofMembers?` and `Signal.ofItems?` read the members of an object and the elements of an
  array.
* `Signal.read` reads text.  The kind is checked where it stands, the members when the value has
  been read to its end.
-/

namespace SignalRelay

namespace Signal

/-- The members of the object that stands for a message, without `type`. -/
def toMembers : Signal → List (String × Json)
  | .identify | .listStreamers | .unsubscribe | .streamerDisconnected | .startStreaming | .stopStreaming => []
  | .endpointId id => [("id", .str id)]
  | .endpointIdConfirm committedId => [("committedId", .str committedId)]
  | .config options version => [("peerConnectionOptions", options.toJson), ("protocolVersion", .str version)]
  | .ping time | .pong time => [("time", .num time)]
  | .streamerList ids => [("ids", .arr (ids.map .str))]
  | .subscribe streamerId => [("streamerId", .str streamerId)]
  | .subscribeFailed message => [("message", .str message)]
  | .playerConnected playerId dataChannel sfu sendOffer =>
    [("playerId", .str playerId), ("dataChannel", .bool dataChannel), ("sfu", .bool sfu),
      ("sendOffer", .bool sendOffer)]
  | .playerDisconnected playerId => [("playerId", .str playerId)]
  | .streamerIdChanged newId => [("newID", .str newId)]
  | .disconnectPlayer playerId reason => ("playerId", .str playerId) :: Json.optionalMember "reason" reason
  | .routed _ payload => payload.toMembers

def toJson (m : Signal) : Json := .obj (("type", .str m.kind.name) :: m.toMembers)

def text (m : Signal) : String := m.toJson.text

open Json

/-- Reads the members of an object other than `type`.  Members that a kind does not know are
ignored. -/
def ofMembers? (kind : Kind) (members : List (String × Json)) : Option Signal :=
  match kind with
  | .identify => some .identify
  | .endpointId => do return .endpointId (← optional? members "id" "" asText?)
  | .endpointIdConfirm => do return .endpointIdConfirm (← required? members "committedId" asText?)
  | .config => do
    let options ← required? members "peerConnectionOptions" PeerOptions.ofJson?
    let version ← required? members "protocolVersion" asText?
    return .config options version
  | .ping => do return .ping (← required? members "time" asNumber?)
  | .pong => do return .pong (← required? members "time" asNumber?)
  | .listStreamers => some .listStreamers
  | .streamerList => do return .streamerList (← required? members "ids" asTexts?)
  | .subscribe => do return .subscribe (← required? members "streamerId" asText?)
  | .subscribeFailed => do return .subscribeFailed (← required? members "message" asText?)
  | .unsubscribe => some .unsubscribe
  | .playerConnected => do
    let playerId ← required? members "playerId" asText?
    let dataChannel ← required? members "dataChannel" asBool?
    let sfu ← required? members "sfu" asBool?
    let sendOffer ← required? members "sendOffer" asBool?
    return .playerConnected playerId dataChannel sfu sendOffer
  | .playerDisconnected => do return .playerDisconnected (← required? members "playerId" asText?)
  | .streamerIdChanged => do return .streamerIdChanged (← required? members "newID" asText?)
  | .streamerDisconnected => some .streamerDisconnected
  | .disconnectPlayer => do
    let playerId ← required? members "playerId" asText?
    let reason ← optional? members "reason" none asOptionalText?
    return .disconnectPlayer playerId reason
  | .routed kind => do return .routed kind (← Payload.ofMembers? members)
  | .startStreaming => some .startStreaming
  | .stopStreaming => some .stopStreaming

/-- Reads the elements of an array behind the name of the kind.  Routed messages have no such form.
-/
def ofItems? (kind : Kind) (items : List Json) : Option Signal :=
  match kind, items with
  | .identify, [] => some .identify
  | .endpointId, [] => some (.endpointId "")
  | .endpointId, [id] => do return .endpointId (← id.asText?)
  | .endpointIdConfirm, [id] => do return .endpointIdConfirm (← id.asText?)
  | .config, [options, version] => do return .config (← PeerOptions.ofJson? options) (← version.asText?)
  | .ping, [time] => do return .ping (← time.asNumber?)
  | .pong, [time] => do return .pong (← time.asNumber?)
  | .listStreamers, [] => some .listStreamers
  | .streamerList, [ids] => do return .streamerList (← ids.asTexts?)
  | .subscribe, [id] => do return .subscribe (← id.asText?)
  | .subscribeFailed, [message] => do return .subscribeFailed (← message.asText?)
  | .unsubscribe, [] => some .unsubscribe
  | .playerConnected, [playerId, dataChannel, sfu, sendOffer] => do
    return .playerConnected (← playerId.asText?) (← dataChannel.asBool?) (← sfu.asBool?) (← sendOffer.asBool?)
  | .playerDisconnected, [playerId] => do return .playerDisconnected (← playerId.asText?)
  | .streamerIdChanged, [newId] => do return .streamerIdChanged (← newId.asText?)
  | .streamerDisconnected, [] => some .streamerDisconnected
  | .disconnectPlayer, [playerId] => do return .disconnectPlayer (← playerId.asText?) none
  | .disconnectPlayer, [playerId, reason] => do
    return .disconnectPlayer (← playerId.asText?) (← reason.asOptionalText?)
  | .startStreaming, [] => some .startStreaming
  | .stopStreaming, [] => some .stopStreaming
  | _, _ => none

def readKind : Reader Kind := fun cs => do
  let (name, cs) ← text? cs
  match Kind.ofName? name with
  | some kind => .ok (kind, cs)
  | none => .error .mismatch

/-- The members of a message that have been read so far. -/
structure Draft where
  kind : Option Kind
  members : List (String × Json)

/-- Reads one member; the kind must not be repeated. -/
def Draft.member (draft : Draft) (key : String) : Reader Draft := fun cs =>
  if key = "type" then
    if draft.kind.isSome then .error .mismatch
    else do
      let (kind, cs) ← memberValue readKind cs
      .ok ({ draft with kind := some kind }, cs)
  else do
    let (ms, cs) ← gather (value (maxDepth - 1)) draft.members key cs
    .ok ({ draft with members := ms }, cs)

def expect (m : Option Signal) (rest : List Char) : Except Fault (Signal × List Char) :=
  match m with
  | some m => .ok (m, rest)
  | none => .error .mismatch

/-- Reads a message given as an object, from behind its opening bracket. -/
def readObject : Reader Signal := fun cs => do
  let (draft, rest) ← membersOf Draft.member ⟨none, []⟩ cs
  expect (draft.kind.bind (ofMembers? · draft.members)) rest

/-- Reads a message given as an array, from behind its opening bracket. -/
def readArray : Reader Signal := fun cs => do
  match ← advance ']' true cs with
  | .closed _ => .error .mismatch
  | .item cs =>
    let (kind, cs) ← readKind cs
    let (items, rest) ← elements (value (maxDepth - 1)) (cs.length + 1) false cs
    expect (ofItems? kind items) rest

def read : Reader Signal := fun cs =>
  match skipBlank cs with
  | '{' :: rest => readObject rest
  | '[' :: rest => readArray rest
  | cs => .error (wrongKind cs)

def ofText? (s : String) : Except Fault Signal := readAll read s

end Signal

end SignalRelay
