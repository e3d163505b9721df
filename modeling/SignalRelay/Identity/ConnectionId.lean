import SignalRelay.Text.Hexadecimal

/-!
# Connection ids

Every accepted transport has an id of its own, which never changes while the connection lives.  All
routing state is keyed by it.  As text it is 32 hexadecimal digits in five groups.

* `ConnectionId.text` writes the hyphenated lower-case form.
* `ConnectionId.ofText?` reads four forms: hyphenated, bare digits, hyphenated between braces, and
  hyphenated after `urn:uuid:`, letters in either case.
-/

namespace SignalRelay

/-- The key of one connection: a number, of which text shows the lowest 128 bits. -/
structure ConnectionId where
  value : Nat
  deriving DecidableEq, Repr, Inhabited

namespace ConnectionId

/-- The lowest `count` hexadecimal digits of `n`, highest first. -/
def hexDigits (n : Nat) : Nat → List Char
  | 0 => []
  | count + 1 => hexDigits (n / 16) count ++ [hexDigit (n % 16)]

def hexNumber? (digits : List Char) : Option Nat :=
  digits.foldlM (fun n c => (hexValue? c).map (16 * n + ·)) 0

/-- Lower-case digits in groups of 8, 4, 4, 4 and 12, joined by hyphens. -/
def text (id : ConnectionId) : String :=
  let digits := hexDigits id.value 32
  let group (start count : Nat) := (digits.drop start).take count
  String.ofList
    (group 0 8 ++ '-' :: group 8 4 ++ '-' :: group 12 4 ++ '-' :: group 16 4 ++ '-' :: group 20 12)

/-- Reads five groups of 8, 4, 4, 4 and 12 digits with a hyphen after each but the last. -/
def ofHyphenated? (cs : List Char) : Option ConnectionId :=
  let hyphens := [8, 13, 18, 23]
  if cs.length = 36 ∧ hyphens.all (fun i => cs[i]? == some '-') then
    let digits := cs.take 8 ++ (cs.drop 9).take 4 ++ (cs.drop 14).take 4 ++ (cs.drop 19).take 4 ++ cs.drop 24
    (hexNumber? digits).map ConnectionId.mk
  else none

/-- Reads any of the accepted forms; the length of the text tells which one it has to be. -/
def ofText? (s : String) : Option ConnectionId :=
  let cs := s.toList
  match cs.length with
  | 32 => (hexNumber? cs).map ConnectionId.mk
  | 36 => ofHyphenated? cs
  | 38 => if cs.head? = some '{' ∧ cs.getLast? = some '}' then ofHyphenated? (cs.tail.dropLast) else none
  | 45 => if (cs.take 9).map Char.toLower = "urn:uuid:".toList then ofHyphenated? (cs.drop 9) else none
  | _ => none

end ConnectionId

end SignalRelay
