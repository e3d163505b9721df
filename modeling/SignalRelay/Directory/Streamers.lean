import SignalRelay.Identity.ConnectionId
import SignalRelay.Directory.Suffix

/-!
# The streamer directory

The directory owns the ids under which sources can be watched.  Entries keep the order of admission,
so that there is a first one, and a renamed entry keeps its place.

* `add`, `rename` and `remove` change the entries and publish what they did.
* `committedId` is the id that a claim is admitted under; a claim that cannot be made free is
  refused.
* `takeFallbackId` is an id for a source that never claimed one.
-/

namespace SignalRelay

/-- A change of a directory, as it is published. -/
inductive DirectoryEvent
  | added (id : String)
  | removed (id : String)
  | renamed (old new : String)
  deriving DecidableEq, Repr

inductive DirectoryError
  /-- The claim stays taken even with a number behind it. -/
  | idCollision (id : String)
  /-- No entry has the id that is to be changed. -/
  | unknownStreamer (id : String)
  deriving DecidableEq, Repr

def DirectoryError.message : DirectoryError → String
  | .idCollision id => "streamer id '" ++ id ++ "' is already registered"
  | .unknownStreamer id => "no streamer registered as '" ++ id ++ "'"

structure ListedStreamer where
  id : String
  connection : ConnectionId
  streaming : Bool
  deriving DecidableEq, Repr

/-- The registered sources in order of admission. -/
structure StreamerDirectory where
  entries : List ListedStreamer
  /-- Stands in for an empty claim. -/
  defaultId : String
  /-- What the ids of sources that never claimed one begin with. -/
  fallbackStem : String
  /-- The number that the next such id is tried with. -/
  fallbackNumber : Nat
  published : List DirectoryEvent
  deriving DecidableEq, Repr

namespace StreamerDirectory

def fresh (defaultId fallbackStem : String) : StreamerDirectory := ⟨[], defaultId, fallbackStem, 0, []⟩

def ids (d : StreamerDirectory) : List String := d.entries.map (·.id)

def streamingIds (d : StreamerDirectory) : List String := (d.entries.filter (·.streaming)).map (·.id)

def first? (d : StreamerDirectory) : Option String := d.ids.head?

def find? (d : StreamerDirectory) (id : String) : Option ListedStreamer := d.entries.find? (·.id == id)

def contains (d : StreamerDirectory) (id : String) : Bool := (d.find? id).isSome

/-- The id that a claim is admitted under next to the ids `taken`. -/
def committedId (d : StreamerDirectory) (desired : String) (taken : List String) :
    Except DirectoryError String :=
  let claim := if desired.isEmpty then d.defaultId else desired
  let id := disambiguate claim taken
  if id ∈ taken then .error (.idCollision id) else .ok id

/-- Admits a source at the end, and tells the id it got. -/
def add (d : StreamerDirectory) (desired : String) (connection : ConnectionId) (streaming : Bool) :
    Except DirectoryError (String × StreamerDirectory) := do
  let id ← d.committedId desired d.ids
  .ok (id, { d with
    entries := d.entries ++ [⟨id, connection, streaming⟩]
    published := d.published ++ [.added id] })

def relabel (old new : String) : List ListedStreamer → List ListedStreamer
  | [] => []
  | e :: rest => if e.id = old then { e with id := new } :: rest else e :: relabel old new rest

/-- Settles a new claim of a registered source, whose own id is no obstacle, and tells the id it
got. -/
def rename (d : StreamerDirectory) (current desired : String) :
    Except DirectoryError (String × StreamerDirectory) :=
  if d.contains current then do
    let id ← d.committedId desired (d.ids.erase current)
    .ok (id, { d with
      entries := relabel current id d.entries
      published := if id = current then d.published else d.published ++ [.renamed current id] })
  else .error (.unknownStreamer current)

def remove (d : StreamerDirectory) (id : String) : StreamerDirectory :=
  if d.contains id then
    { d with
      entries := d.entries.eraseP (·.id == id)
      published := d.published ++ [.removed id] }
  else d

def setFlag (id : String) (streaming : Bool) : List ListedStreamer → List ListedStreamer
  | [] => []
  | e :: rest => if e.id = id then { e with streaming := streaming } :: rest
      else e :: setFlag id streaming rest

def markStreaming (d : StreamerDirectory) (id : String) (streaming : Bool) : StreamerDirectory :=
  { d with entries := setFlag id streaming d.entries }

/-- The first number from `n` on, among at most `rounds + 1` of them, that makes an id which is not
taken. -/
def freeNumber (stem : String) (taken : List String) : Nat → Nat → Nat
  | 0, n => n
  | rounds + 1, n => if stem ++ numeral n ∈ taken then freeNumber stem taken rounds (n + 1) else n

/-- An id that nobody holds, for a source that never claimed one.  As many ids are taken as there
are entries, so one more try finds a free one. -/
def takeFallbackId (d : StreamerDirectory) : String × StreamerDirectory :=
  let n := freeNumber d.fallbackStem d.ids d.entries.length d.fallbackNumber
  (d.fallbackStem ++ numeral n, { d with fallbackNumber := n + 1 })

end StreamerDirectory

end SignalRelay
