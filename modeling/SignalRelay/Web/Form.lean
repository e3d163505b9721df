import SignalRelay.Text.Hexadecimal
import SignalRelay.Text.Utf8

/-!
# Form-encoded text

A query is a list of pairs, joined by `&`, of a name and a value, joined by `=`.  In both a plus
sign is a blank and a percent sign with two hexadecimal digits is an octet; the octets are UTF-8,
with replacements where they are not.
-/

namespace SignalRelay.Form

def hexOctet? (a b : UInt8) : Option UInt8 := do
  let x ← hexValue? (Char.ofNat a.toNat)
  let y ← hexValue? (Char.ofNat b.toNat)
  return UInt8.ofNat (16 * x + y)

/-- The octets that encoded octets stand for.  A percent sign without two digits stands for itself.
-/
def decodeOctets : List UInt8 → List UInt8
  | [] => []
  | 0x2B :: rest => 0x20 :: decodeOctets rest
  | 0x25 :: a :: b :: rest =>
    match hexOctet? a b with
    | some octet => octet :: decodeOctets rest
    | none => 0x25 :: decodeOctets (a :: b :: rest)
  | a :: rest => a :: decodeOctets rest

def decode (cs : List Char) : String :=
  Utf8.decodeLossy (decodeOctets (Utf8.encode (String.ofList cs)))

/-- The parts of a text between the characters `c`. -/
def splitAt (c : Char) : List Char → List (List Char)
  | [] => [[]]
  | d :: rest =>
    match splitAt c rest with
    | [] => []
    | part :: parts => if d = c then [] :: part :: parts else (d :: part) :: parts

/-- The name and the value of an encoded pair.  Without an equals sign the value is empty. -/
def pair (cs : List Char) : String × String :=
  (decode (cs.takeWhile (· ≠ '=')), decode (cs.dropWhile (· ≠ '=')).tail)

/-- The pairs of a query.  Empty parts count for nothing. -/
def pairs (query : String) : List (String × String) :=
  ((splitAt '&' query.toList).filter (· ≠ [])).map pair

end SignalRelay.Form
