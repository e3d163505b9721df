import SignalRelay.Text.Blank
import SignalRelay.Web.Form
import SignalRelay.Web.Uri

/-!
# The query of a player

A player may say with its request that it wants to be the one that offers media.  Anything but the
word `true` means that it does not.
-/

namespace SignalRelay

/-- The query that a player connects with. -/
structure OfferQuery where
  offerToReceive : Option String
  deriving DecidableEq, Repr

inductive QueryError
  | duplicateField (name : String)
  deriving DecidableEq, Repr

def QueryError.message : QueryError → String
  | .duplicateField name => "Failed to deserialize query string: duplicate field \x60" ++ name ++ "\x60"

namespace OfferQuery

def fieldName : String := "OfferToReceive"

/-- Reads a query.  The field must not be repeated; other fields do not count. -/
def ofText? (query : String) : Except QueryError OfferQuery :=
  match (Form.pairs query).filter (·.1 == fieldName) with
  | [] => .ok ⟨none⟩
  | [(_, value)] => .ok ⟨some value⟩
  | _ => .error (.duplicateField fieldName)

/-- Reads the query of a request target; a target without one has the empty query. -/
def ofUri? (uri : Uri) : Except QueryError OfferQuery :=
  ofText? (String.ofList (uri.query.getD []))

/-- Whether the player wants to offer: blanks around the word and the case of its letters do not
count. -/
def wantsOffer (q : OfferQuery) : Bool :=
  match q.offerToReceive with
  | none => false
  | some value => (trimBlanks value.toList).map Char.toLower == ['t', 'r', 'u', 'e']

end OfferQuery

end SignalRelay
