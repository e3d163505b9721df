import SignalRelay.Text.Hexadecimal
import SignalRelay.Text.Numeral

/-!
# IP addresses

Addresses of both versions as text.

* `IpAddress.ofText?` reads four decimal numbers with points, or up to eight hexadecimal groups with
  colons, in which one run of zero groups may be left out and the last two groups may be an address
  of version 4.
* `IpAddress.text` writes the shortest form, with the first longest run of zero groups left out.
-/

namespace SignalRelay

/-- An address: four octets, or eight groups of 16 bits. -/
inductive IpAddress
  | v4 (octets : List Nat)
  | v6 (groups : List Nat)
  deriving DecidableEq, Repr

namespace IpAddress

/-- Reads something from the front of a text and leaves the rest. -/
abbrev Scanner (α : Type) := List Char → Option (α × List Char)

def scanChar (c : Char) : Scanner Unit
  | d :: rest => if d = c then some ((), rest) else none
  | [] => none

/-- A number of at most three decimal digits below 256, without leading zeros. -/
def scanOctet : Scanner Nat := fun cs =>
  let digits := cs.takeWhile Char.isDigit
  let value := Nat.ofDigitChars 10 digits 0
  if digits.isEmpty || 3 < digits.length || (1 < digits.length && digits.head? == some '0') ||
    255 < value then none
  else some (value, cs.drop digits.length)

/-- A number of at most four hexadecimal digits. -/
def scanGroup : Scanner Nat := fun cs =>
  let digits := cs.takeWhile (hexValue? · |>.isSome)
  if digits.isEmpty || 4 < digits.length then none
  else some ((digits.filterMap hexValue?).foldl (16 * · + ·) 0, cs.drop digits.length)

/-- What `scan` reads, behind a separator unless it is the first. -/
def separated {α : Type} (separator : Char) (index : Nat) (scan : Scanner α) : Scanner α := fun cs =>
  if index = 0 then scan cs
  else do
    let (_, cs) ← scanChar separator cs
    scan cs

def scanV4 : Scanner (List Nat) := fun cs => do
  let (a, cs) ← separated '.' 0 scanOctet cs
  let (b, cs) ← separated '.' 1 scanOctet cs
  let (c, cs) ← separated '.' 2 scanOctet cs
  let (d, cs) ← separated '.' 3 scanOctet cs
  some ([a, b, c, d], cs)

/-- At most `room` more groups, of which `index` have been read, and whether they end in an address
of version 4. -/
def scanGroups : (room index : Nat) → List Char → List Nat × Bool × List Char
  | 0, _, cs => ([], false, cs)
  | room + 1, index, cs =>
    match if 0 < room then separated ':' index scanV4 cs else none with
    | some ([a, b, c, d], rest) => ([256 * a + b, 256 * c + d], true, rest)
    | _ =>
      match separated ':' index scanGroup cs with
      | none => ([], false, cs)
      | some (group, cs) =>
        let (groups, embedded, cs) := scanGroups room (index + 1) cs
        (group :: groups, embedded, cs)

/-- Eight groups, or fewer around a double colon. -/
def scanV6 : Scanner (List Nat) := fun cs =>
  let (head, embedded, cs) := scanGroups 8 0 cs
  if head.length = 8 then some (head, cs)
  else if embedded then none
  else do
    let (_, cs) ← scanChar ':' cs
    let (_, cs) ← scanChar ':' cs
    let (tail, _, cs) := scanGroups (7 - head.length) 0 cs
    some (head ++ List.replicate (8 - head.length - tail.length) 0 ++ tail, cs)

def ofText? (s : String) : Option IpAddress :=
  match scanV4 s.toList with
  | some (octets, rest) => if rest.isEmpty then some (.v4 octets) else none
  | none =>
    match scanV6 s.toList with
    | some (groups, []) => some (.v6 groups)
    | _ => none

def joined (separator : String) (parts : List String) : String := separator.intercalate parts

def textV4 (octets : List Nat) : String := joined "." (octets.map numeral)

/-- A group as text, in lower case and without leading zeros. -/
def groupText (group : Nat) : String := String.ofList (Nat.toDigits 16 group)

/-- The number of zero groups at the front. -/
def zeroRun (groups : List Nat) : Nat := (groups.takeWhile (· == 0)).length

/-- The place and length of the first longest run of zero groups, the first group standing at
`index`. -/
def longestRun : (index : Nat) → List Nat → Nat × Nat
  | _, [] => (0, 0)
  | index, group :: rest =>
    let here := zeroRun (group :: rest)
    let (place, length) := longestRun (index + 1) rest
    if length ≤ here then (index, here) else (place, length)

def textV6 (groups : List Nat) : String :=
  match groups with
  | [0, 0, 0, 0, 0, 0xFFFF, x, y] => "::ffff:" ++ textV4 [x / 256, x % 256, y / 256, y % 256]
  | _ =>
    let (place, length) := longestRun 0 groups
    let part (groups : List Nat) := joined ":" (groups.map groupText)
    if 1 < length then part (groups.take place) ++ "::" ++ part (groups.drop (place + length))
      else part groups

def text : IpAddress → String
  | .v4 octets => textV4 octets
  | .v6 groups => textV6 groups

def withPort (address : IpAddress) (portNumber : Nat) : String :=
  match address with
  | .v4 octets => textV4 octets ++ ":" ++ numeral portNumber
  | .v6 groups => "[" ++ textV6 groups ++ "]:" ++ numeral portNumber

end IpAddress

end SignalRelay
