/-!
# UTF-8

Octets are read as characters one after the other.  Where they form no character, the longest run of
octets that could still have been the start of one is taken together.

* `front` looks at the first character of a list of octets.
* `decode` wants characters throughout and tells where it found none.
* `decodeLossy` puts the replacement character in place of each run that is none.
-/

namespace SignalRelay.Utf8

/-- What stands at the front of a non-empty list of octets. -/
inductive Front
  /-- A character, and the octets behind it. -/
  | char (c : Char) (rest : List UInt8)
  /-- So many octets that are the start of no character. -/
  | invalid (length : Nat)
  /-- The start of a character, broken off by the end. -/
  | incomplete
  deriving DecidableEq

/-- An octet that continues a character. -/
def isTail (b : UInt8) : Bool := 0x80 ≤ b && b ≤ 0xBF

/-- The second octet that may follow a first octet of three. -/
def isSecondOfThree (first second : UInt8) : Bool :=
  if first = 0xE0 then 0xA0 ≤ second && second ≤ 0xBF
  else if first = 0xED then 0x80 ≤ second && second ≤ 0x9F
  else isTail second

/-- The second octet that may follow a first octet of four. -/
def isSecondOfFour (first second : UInt8) : Bool :=
  if first = 0xF0 then 0x90 ≤ second && second ≤ 0xBF
  else if first = 0xF4 then 0x80 ≤ second && second ≤ 0x8F
  else isTail second

def tailBits (b : UInt8) : Nat := b.toNat % 64

def twoOctets (a : UInt8) : List UInt8 → Front
  | [] => .incomplete
  | b :: rest => if isTail b then .char (Char.ofNat (a.toNat % 32 * 64 + tailBits b)) rest else .invalid 1

def threeOctets (a : UInt8) : List UInt8 → Front
  | [] => .incomplete
  | b :: rest =>
    if isSecondOfThree a b then
      match rest with
      | [] => .incomplete
      | c :: rest =>
        if isTail c then .char (Char.ofNat ((a.toNat % 16 * 64 + tailBits b) * 64 + tailBits c)) rest
          else .invalid 2
    else .invalid 1

def fourOctets (a : UInt8) : List UInt8 → Front
  | [] => .incomplete
  | b :: rest =>
    if isSecondOfFour a b then
      match rest with
      | [] => .incomplete
      | c :: rest =>
        if isTail c then
          match rest with
          | [] => .incomplete
          | d :: rest =>
            if isTail d then
              .char (Char.ofNat (((a.toNat % 8 * 64 + tailBits b) * 64 + tailBits c) * 64 + tailBits d)) rest
            else .invalid 3
        else .invalid 2
    else .invalid 1

/-- What stands behind the octet `a` decides together with it. -/
def front (a : UInt8) (rest : List UInt8) : Front :=
  if a < 0x80 then .char (Char.ofNat a.toNat) rest
  else if 0xC2 ≤ a ∧ a ≤ 0xDF then twoOctets a rest
  else if 0xE0 ≤ a ∧ a ≤ 0xEF then threeOctets a rest
  else if 0xF0 ≤ a ∧ a ≤ 0xF4 then fourOctets a rest
  else .invalid 1

/-- Where octets are no text. -/
structure Invalid where
  /-- The number of octets in front that are text. -/
  index : Nat
  /-- The number of octets that form no character, or nothing if the end broke one off. -/
  length : Option Nat
  deriving DecidableEq, Repr

/-- The text of at most `fuel` characters of octets, the first of which stands at `index`. -/
def decodeFrom : Nat → Nat → List UInt8 → Except Invalid (List Char)
  | _, _, [] => .ok []
  | 0, index, _ :: _ => .error ⟨index, none⟩
  | fuel + 1, index, a :: octets =>
    match front a octets with
    | .char c rest => (decodeFrom fuel (index + c.utf8Size) rest).map (c :: ·)
    | .invalid length => .error ⟨index, some length⟩
    | .incomplete => .error ⟨index, none⟩

def decode (octets : List UInt8) : Except Invalid String :=
  (decodeFrom octets.length 0 octets).map String.ofList

/-- The text of at most `fuel` characters of octets, with replacements. -/
def decodeLossyFrom : Nat → List UInt8 → List Char
  | _, [] => []
  | 0, _ :: _ => []
  | fuel + 1, a :: octets =>
    match front a octets with
    | .char c rest => c :: decodeLossyFrom fuel rest
    | .invalid length => '\uFFFD' :: decodeLossyFrom fuel ((a :: octets).drop length)
    | .incomplete => ['\uFFFD']

/-- The text that octets encode, with the replacement character for each run of octets that encodes
nothing. -/
def decodeLossy (octets : List UInt8) : String :=
  String.ofList (decodeLossyFrom octets.length octets)

def encode (s : String) : List UInt8 := s.toUTF8.toList

end SignalRelay.Utf8
