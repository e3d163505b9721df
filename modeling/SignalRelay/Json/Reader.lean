import SignalRelay.Json.Lexeme

/-!
# Reading JSON values

Values are read from the front of a text, at most a given number of levels deep.  Arrays and objects
are read by two loops that are generic in what they do with an element or a member, so that a shape
can be checked while it is read.

* `elements` and `members` are the loops; their fuel is the length of the text, which no loop can
  exhaust.
* `value` reads any value.
* `wrongKind` is the fault of a value of which another kind was wanted.
* `Json.ofText?` reads a whole text.
-/

namespace SignalRelay.Json

/-- What stands at the front of the inside of an array or object. -/
inductive Place
  /-- The closing bracket, which has been read. -/
  | closed (rest : List Char)
  /-- The next element or member. -/
  | item (rest : List Char)

/-- Goes to the next element or member, over the comma that has to stand in front of all but the
first. -/
def advance (close : Char) (first : Bool) (cs : List Char) : Except Fault Place :=
  match skipBlank cs with
  | [] => .error .truncated
  | c :: rest =>
    if c = close then .ok (.closed rest)
    else if first then .ok (.item (c :: rest))
    else if c = ',' then
      match skipBlank rest with
      | [] => .error .truncated
      | d :: rest => if d = close then .error .malformed else .ok (.item (d :: rest))
    else .error .malformed

/-- The elements of an array up to its closing bracket. -/
def elements {α : Type} (element : Reader α) : Nat → Bool → Reader (List α)
  | 0, _, _ => .error .truncated
  | fuel + 1, first, cs => do
    match ← advance ']' first cs with
    | .closed rest => .ok ([], rest)
    | .item cs =>
      let (x, cs) ← element cs
      let (xs, cs) ← elements element fuel false cs
      .ok (x :: xs, cs)

/-- The members of an object up to its closing bracket.  After each name `member` is given what was
gathered so far and reads on from behind the name. -/
def members {σ : Type} (member : σ → String → Reader σ) : Nat → Bool → σ → Reader σ
  | 0, _, _, _ => .error .truncated
  | fuel + 1, first, gathered, cs => do
    match ← advance '}' first cs with
    | .closed rest => .ok (gathered, rest)
    | .item ('"' :: cs) =>
      let (key, cs) ← stringBody cs
      let (gathered, cs) ← member gathered key cs
      members member fuel false gathered cs
    | .item _ => .error .malformed

def elementsOf {α : Type} (element : Reader α) : Reader (List α) := fun cs =>
  elements element (cs.length + 1) true cs

def membersOf {σ : Type} (member : σ → String → Reader σ) (start : σ) : Reader σ := fun cs =>
  members member (cs.length + 1) true start cs

def memberValue {α : Type} (read : Reader α) : Reader α := fun cs =>
  match skipBlank cs with
  | [] => .error .truncated
  | ':' :: rest => read rest
  | _ :: _ => .error .malformed

/-- A member with any value, put behind those gathered. -/
def gather (read : Reader Json) (gathered : List (String × Json)) (key : String) :
    Reader (List (String × Json)) :=
  fun cs => do
    let (v, cs) ← memberValue read cs
    .ok (gathered ++ [(key, v)], cs)

/-- Any value, nested at most `depth` levels deep. -/
def value : Nat → Reader Json
  | depth, cs =>
    match skipBlank cs with
    | [] => .error .truncated
    | 'n' :: rest => do .ok (.null, ← word ['u', 'l', 'l'] rest)
    | 't' :: rest => do .ok (.bool true, ← word ['r', 'u', 'e'] rest)
    | 'f' :: rest => do .ok (.bool false, ← word ['a', 'l', 's', 'e'] rest)
    | '"' :: rest => do
      let (s, rest) ← stringBody rest
      .ok (.str s, rest)
    | '[' :: rest =>
      match depth with
      | 0 => .error .malformed
      | depth + 1 => do
        let (items, rest) ← elementsOf (value depth) rest
        .ok (.arr items, rest)
    | '{' :: rest =>
      match depth with
      | 0 => .error .malformed
      | depth + 1 => do
        let (ms, rest) ← membersOf (gather (value depth)) [] rest
        .ok (.obj ms, rest)
    | c :: rest =>
      if c = '-' ∨ c.isDigit then do
        let (n, rest) ← number (c :: rest)
        .ok (.num n, rest)
      else .error .malformed

/-- The fault of a text that begins with a value of an unwanted kind.  Words, strings and numbers
are read first and may be at fault themselves; of arrays and objects only the bracket is looked at.
-/
def wrongKind (cs : List Char) : Fault :=
  match skipBlank cs with
  | '[' :: _ | '{' :: _ => .mismatch
  | cs =>
    match value 0 cs with
    | .ok _ => .mismatch
    | .error fault => fault

def text? : Reader String := fun cs =>
  match skipBlank cs with
  | '"' :: rest => stringBody rest
  | cs => .error (wrongKind cs)

/-- A string, or the word for nothing. -/
def optionalText : Reader (Option String) := fun cs =>
  match skipBlank cs with
  | 'n' :: rest => do .ok (none, ← word ['u', 'l', 'l'] rest)
  | cs => do
    let (s, cs) ← text? cs
    .ok (some s, cs)

def texts : Reader (List String) := fun cs =>
  match skipBlank cs with
  | '[' :: rest => elementsOf text? rest
  | cs => .error (wrongKind cs)

def finished (cs : List Char) : Except Fault Unit :=
  if skipBlank cs = [] then .ok () else .error .malformed

/-- The number of levels that a text may nest. -/
def maxDepth : Nat := 127

def readAll {α : Type} (read : Reader α) (s : String) : Except Fault α := do
  let (x, rest) ← read s.toList
  finished rest
  .ok x

def ofText? (s : String) : Except Fault Json := readAll (value maxDepth) s

end SignalRelay.Json
