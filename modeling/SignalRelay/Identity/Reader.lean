import SignalRelay.Identity.ConnectionId
import SignalRelay.Identity.Role
import SignalRelay.Json.Printer
import SignalRelay.Json.Reader

/-!
# Roles and connection ids as JSON

A role is written as its name and may also be read from an object whose only member has that name
and the value null.  A connection id is written and read as a string.
-/

namespace SignalRelay

open Json

namespace Role

def text (r : Role) : String := (Json.str r.name).text

def readName : Reader Role := fun cs => do
  let (name, cs) ← text? cs
  match ofName? name with
  | some r => .ok (r, cs)
  | none => .error .mismatch

def readNull : Reader Unit := fun cs =>
  match skipBlank cs with
  | 'n' :: rest => do .ok ((), ← word ['u', 'l', 'l'] rest)
  | cs => .error (wrongKind cs)

def read : Reader Role := fun cs =>
  match skipBlank cs with
  | [] => .error .truncated
  | '"' :: rest => readName ('"' :: rest)
  | '{' :: rest =>
    match skipBlank rest with
    | [] => .error .truncated
    | '"' :: rest => do
      let (r, rest) ← readName ('"' :: rest)
      let (_, rest) ← memberValue readNull rest
      match skipBlank rest with
      | [] => .error .truncated
      | '}' :: rest => .ok (r, rest)
      | _ :: _ => .error .malformed
    | _ :: _ => .error .malformed
  | _ :: _ => .error .malformed

def ofText? (s : String) : Except Fault Role := readAll read s

end Role

namespace ConnectionId

def wireText (id : ConnectionId) : String := (Json.str id.text).text

def read : Reader ConnectionId := fun cs => do
  let (s, cs) ← text? cs
  match ofText? s with
  | some id => .ok (id, cs)
  | none => .error .mismatch

def ofWireText? (s : String) : Except Fault ConnectionId := readAll read s

end ConnectionId

end SignalRelay
