import SignalRelay.Json.Printer
import SignalRelay.Message.PeerOptions

/-!
# Routed payloads

The content of the messages that peers negotiate with.  Only the stamp, the id of the player that a
payload comes from or goes to, means anything to the relay; all other members are carried through
untouched.

* `withStamp` and `takeStamp` put the stamp on and take it off.
* `toMembers` gives the members of the object that stands for a payload; the stamp comes first.
* `ofMembers?` reads them back, and `read` reads text.
-/

namespace SignalRelay

/-- A payload that is relayed between peers. -/
structure Payload where
  playerId : Option String
  fields : Fields
  deriving DecidableEq

namespace Payload

def empty : Payload := ⟨none, Fields.empty⟩

def insert (payload : Payload) (key : String) (value : Json) : Payload :=
  { payload with fields := payload.fields.insert key value }

def get? (payload : Payload) (key : String) : Option Json :=
  payload.fields.get? key

/-- Puts a stamp on, in place of any that the sender put there. -/
def withStamp (payload : Payload) (playerId : String) : Payload :=
  { payload with playerId := some playerId }

def withoutStamp (payload : Payload) : Payload :=
  { payload with playerId := none }

def takeStamp (payload : Payload) : Option String × Payload :=
  (payload.playerId, payload.withoutStamp)

def toMembers (payload : Payload) : List (String × Json) :=
  Json.optionalMember "playerId" payload.playerId ++ payload.fields.members

/-- Reads members.  The stamp may be missing or null, but must not be repeated. -/
def ofMembers? (members : List (String × Json)) : Option Payload := do
  let playerId ← Json.optional? members "playerId" none Json.asOptionalText?
  return ⟨playerId, Fields.ofMembers (members.filter (·.1 != "playerId"))⟩

def text (payload : Payload) : String := (Json.obj payload.toMembers).text

open Json

structure Draft where
  playerId : Option (Option String)
  fields : List (String × Json)

/-- Reads one member; the stamp must not be repeated. -/
def Draft.member (draft : Draft) (key : String) : Reader Draft := fun cs =>
  if key = "playerId" then
    if draft.playerId.isSome then .error .mismatch
    else do
      let (playerId, cs) ← memberValue optionalText cs
      .ok ({ draft with playerId := some playerId }, cs)
  else do
    let (fields, cs) ← gather (value (maxDepth - 1)) draft.fields key cs
    .ok ({ draft with fields := fields }, cs)

def read : Reader Payload := fun cs =>
  match skipBlank cs with
  | '{' :: rest => do
    let (draft, rest) ← membersOf Draft.member ⟨none, []⟩ rest
    .ok (⟨draft.playerId.getD none, Fields.ofMembers draft.fields⟩, rest)
  | cs => .error (wrongKind cs)

def ofText? (s : String) : Except Fault Payload := readAll read s

end Payload

end SignalRelay
