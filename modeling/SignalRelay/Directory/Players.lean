import SignalRelay.Directory.Streamers

/-!
# The player directory

The directory owns the ids that viewers are addressed by.  They are numbered in the order of
admission and never used again.  The viewers are kept in a table that has no order of its own, each
with its number, and are sorted by their numbers when they are listed.
-/

namespace SignalRelay

structure ListedPlayer where
  id : String
  connection : ConnectionId
  /-- How many viewers had been admitted before this one. -/
  number : Nat
  deriving DecidableEq, Repr

/-- The registered viewers, one entry each.  Nothing may depend on the order of the entries. -/
structure PlayerDirectory where
  entries : List ListedPlayer
  nextNumber : Nat
  published : List DirectoryEvent
  deriving DecidableEq, Repr

namespace PlayerDirectory

def fresh : PlayerDirectory := ⟨[], 0, []⟩

/-- The id of the viewer that was admitted as number `n`. -/
def idOf (n : Nat) : String := "Player" ++ numeral n

/-- Entries in the order of their numbers. -/
def byNumber (entries : List ListedPlayer) : List ListedPlayer :=
  entries.mergeSort fun e e' => e.number ≤ e'.number

def listing (d : PlayerDirectory) : List ListedPlayer := byNumber d.entries

/-- The registered ids, as they are listed. -/
def ids (d : PlayerDirectory) : List String := d.listing.map (·.id)

def find? (d : PlayerDirectory) (id : String) : Option ConnectionId :=
  (d.entries.find? (·.id == id)).map (·.connection)

def contains (d : PlayerDirectory) (id : String) : Bool := (d.find? id).isSome

/-- Admits a viewer, and tells the id it got. -/
def add (d : PlayerDirectory) (connection : ConnectionId) : String × PlayerDirectory :=
  let id := idOf d.nextNumber
  (id, {
    entries := ⟨id, connection, d.nextNumber⟩ :: d.entries
    nextNumber := d.nextNumber + 1
    published := d.published ++ [.added id] })

def remove (d : PlayerDirectory) (id : String) : PlayerDirectory :=
  if d.contains id then
    { d with
      entries := d.entries.eraseP (·.id == id)
      published := d.published ++ [.removed id] }
  else d

end PlayerDirectory

end SignalRelay
