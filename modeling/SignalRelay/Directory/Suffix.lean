import SignalRelay.Text.Numeral

/-!
# Numeric suffixes of streamer ids

A streamer id is a base followed by a run of ASCII digits.  Two ids belong to one family when they
share the base, and a claimed id that meets its own family is given the next free number of the
family.

* `splitSuffix` cuts an id into base and suffix; an id of digits alone has the empty base.
* `clashValue?` tells whether a registered id clashes with a claim, and with which suffix value.
* `disambiguate` is the claim itself when nothing clashes, and otherwise the claim followed by one
  more than the largest clashing suffix value.
-/

namespace SignalRelay

/-- The longest tail of ASCII digits of an id, after the part in front of it. -/
def splitSuffix (id : String) : String × String :=
  let backwards := id.toList.reverse
  (String.ofList (backwards.dropWhile Char.isDigit).reverse,
    String.ofList (backwards.takeWhile Char.isDigit).reverse)

/-- The largest number that a suffix can stand for; longer runs of digits count as this one. -/
def suffixLimit : Nat := Nat.pow 2 128 - 1

/-- The number that a suffix stands for; the empty suffix counts as `0`. -/
def suffixValue (suffix : String) : Nat :=
  min (numeralValue suffix.toList) suffixLimit

/-- The suffix value of `registered` if it clashes with the claim `desired`: its base is the claim,
or it consists of digits alone and is the claim. -/
def clashValue? (desired registered : String) : Option Nat :=
  let (base, suffix) := splitSuffix registered
  let clashes := if base.isEmpty then suffix == desired else base == desired
  if clashes then some (suffixValue suffix) else none

/-- The id under which the claim `desired` may be admitted next to the ids `registered`. -/
def disambiguate (desired : String) (registered : List String) : String :=
  match (registered.filterMap (clashValue? desired)).max? with
  | none => desired
  | some top => desired ++ numeral (min (top + 1) suffixLimit)

end SignalRelay
