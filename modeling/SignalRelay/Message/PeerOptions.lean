import SignalRelay.Json.Printer
import SignalRelay.Json.Skip

/-!
# Peer connection options

The options that every peer is told to set its connection up with: a list of ICE servers, and
further members that are passed on as they are.

* `IceServer.toJson` and `PeerOptions.toJson` give the object that stands for a value.
* `IceServer.ofJson?` and `PeerOptions.ofJson?` read a tree back.
* `PeerOptions.read` reads text directly.  It agrees with reading a tree except that members of an
  ICE server that nobody knows are passed over unread.
-/

namespace SignalRelay

namespace Json

def asText? : Json → Option String
  | .str s => some s
  | _ => none

def asBool? : Json → Option Bool
  | .bool b => some b
  | _ => none

def asNumber? : Json → Option Number
  | .num n => some n
  | _ => none

def asTexts? : Json → Option (List String)
  | .arr items => items.mapM asText?
  | _ => none

/-- A string, or null for nothing. -/
def asOptionalText? : Json → Option (Option String)
  | .null => some none
  | .str s => some (some s)
  | _ => none

/-- The value of the only member of a name, as read by `read`; nothing if the name is missing or
repeated. -/
def required? {α : Type} (members : List (String × Json)) (key : String) (read : Json → Option α) :
    Option α :=
  match members.filter (·.1 == key) with
  | [(_, value)] => read value
  | _ => none

/-- Like `required?`, with a value for the missing name. -/
def optional? {α : Type} (members : List (String × Json)) (key : String) (missing : α)
    (read : Json → Option α) :
    Option α :=
  match members.filter (·.1 == key) with
  | [] => some missing
  | [(_, value)] => read value
  | _ => none

def optionalMember (key : String) : Option String → List (String × Json)
  | none => []
  | some s => [(key, .str s)]

end Json

/-- One server that helps peers to find a way to each other. -/
structure IceServer where
  urls : List String
  username : Option String
  credential : Option String
  deriving DecidableEq, Repr

namespace IceServer

def ofUrl (url : String) : IceServer := ⟨[url], none, none⟩

def toJson (server : IceServer) : Json :=
  .obj (("urls", .arr (server.urls.map .str)) ::
    (Json.optionalMember "username" server.username ++ Json.optionalMember "credential" server.credential))

/-- Reads an object, or an array of the addresses, the user name and the credential, of which the
last two may be left out. -/
def ofJson? : Json → Option IceServer
  | .obj members => do
    let urls ← Json.required? members "urls" Json.asTexts?
    let username ← Json.optional? members "username" none Json.asOptionalText?
    let credential ← Json.optional? members "credential" none Json.asOptionalText?
    return ⟨urls, username, credential⟩
  | .arr [urls] => do return ⟨← urls.asTexts?, none, none⟩
  | .arr [urls, username] => do return ⟨← urls.asTexts?, ← username.asOptionalText?, none⟩
  | .arr [urls, username, credential] => do
    return ⟨← urls.asTexts?, ← username.asOptionalText?, ← credential.asOptionalText?⟩
  | _ => none

open Json

structure Draft where
  urls : Option (List String)
  username : Option (Option String)
  credential : Option (Option String)

/-- Reads one member; a known one must not be repeated. -/
def Draft.member (draft : Draft) (key : String) : Reader Draft := fun cs =>
  if key = "urls" then
    if draft.urls.isSome then .error .mismatch
    else do
      let (urls, cs) ← memberValue texts cs
      .ok ({ draft with urls := some urls }, cs)
  else if key = "username" then
    if draft.username.isSome then .error .mismatch
    else do
      let (username, cs) ← memberValue optionalText cs
      .ok ({ draft with username := some username }, cs)
  else if key = "credential" then
    if draft.credential.isSome then .error .mismatch
    else do
      let (credential, cs) ← memberValue optionalText cs
      .ok ({ draft with credential := some credential }, cs)
  else do
    let (_, cs) ← memberValue skip cs
    .ok (draft, cs)

/-- The closing bracket of an array that may hold no further element. -/
def closing (cs : List Char) : Except Fault (List Char) :=
  match skipBlank cs with
  | [] => .error .truncated
  | c :: rest => if c = ']' then .ok rest else .error .malformed

def readItems : Reader IceServer := fun cs => do
  match ← advance ']' true cs with
  | .closed _ => .error .mismatch
  | .item cs =>
    let (urls, cs) ← texts cs
    match ← advance ']' false cs with
    | .closed rest => .ok (⟨urls, none, none⟩, rest)
    | .item cs =>
      let (username, cs) ← optionalText cs
      match ← advance ']' false cs with
      | .closed rest => .ok (⟨urls, username, none⟩, rest)
      | .item cs =>
        let (credential, cs) ← optionalText cs
        .ok (⟨urls, username, credential⟩, ← closing cs)

def read : Reader IceServer := fun cs =>
  match skipBlank cs with
  | '{' :: rest => do
    let (draft, rest) ← membersOf Draft.member ⟨none, none, none⟩ rest
    match draft.urls with
    | none => .error .mismatch
    | some urls => .ok (⟨urls, draft.username.getD none, draft.credential.getD none⟩, rest)
  | '[' :: rest => readItems rest
  | cs => .error (wrongKind cs)

end IceServer

/-- The options that every peer is given. -/
structure PeerOptions where
  iceServers : List IceServer
  /-- All members that are not named here. -/
  extra : Fields
  deriving DecidableEq

namespace PeerOptions

def toJson (options : PeerOptions) : Json :=
  .obj (("iceServers", .arr (options.iceServers.map IceServer.toJson)) :: options.extra.members)

def serversOfJson? : Json → Option (List IceServer)
  | .arr items => items.mapM IceServer.ofJson?
  | _ => none

def ofJson? : Json → Option PeerOptions
  | .obj members => do
    let iceServers ← Json.optional? members "iceServers" [] serversOfJson?
    return ⟨iceServers, Fields.ofMembers (members.filter (·.1 != "iceServers"))⟩
  | _ => none

def text (options : PeerOptions) : String := options.toJson.text

open Json

structure Draft where
  iceServers : Option (List IceServer)
  extra : List (String × Json)

def readServers : Reader (List IceServer) := fun cs =>
  match skipBlank cs with
  | '[' :: rest => elementsOf IceServer.read rest
  | cs => .error (wrongKind cs)

/-- Reads one member; the servers must not be repeated. -/
def Draft.member (draft : Draft) (key : String) : Reader Draft := fun cs =>
  if key = "iceServers" then
    if draft.iceServers.isSome then .error .mismatch
    else do
      let (servers, cs) ← memberValue readServers cs
      .ok ({ draft with iceServers := some servers }, cs)
  else do
    let (extra, cs) ← gather (value (maxDepth - 1)) draft.extra key cs
    .ok ({ draft with extra := extra }, cs)

def read : Reader PeerOptions := fun cs =>
  match skipBlank cs with
  | '{' :: rest => do
    let (draft, rest) ← membersOf Draft.member ⟨none, []⟩ rest
    .ok (⟨draft.iceServers.getD [], Fields.ofMembers draft.extra⟩, rest)
  | cs => .error (wrongKind cs)

def ofText? (s : String) : Except Fault PeerOptions := readAll read s

end PeerOptions

end SignalRelay
