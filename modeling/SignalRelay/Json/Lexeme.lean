import SignalRelay.Json.Value
import SignalRelay.Text.Hexadecimal

/-!
# Lexemes of JSON text

What JSON text is made of below the level of values: blanks, the three words, strings and numbers.
Every function takes the characters that are left and gives back those that remain after the lexeme.

* `Fault` tells the three ways in which reading fails.
* `stringBody` reads a string from behind its opening quote; escapes of surrogates must come in
  pairs.
* `scanNumber` splits a number into its written parts, and `Number.ofWritten?` is the number they
  denote.
-/

namespace SignalRelay.Json

/-- Why a text cannot be read. -/
inductive Fault
  /-- The text is not JSON, nests too deeply, or goes on after the value. -/
  | malformed
  /-- The text ends too early. -/
  | truncated
  /-- The text is JSON as far as it was read, but not of the wanted shape. -/
  | mismatch
  deriving DecidableEq, Repr

/-- Reads something from the front of a text and leaves the rest. -/
abbrev Reader (α : Type) := List Char → Except Fault (α × List Char)

/-- The four characters that may stand between lexemes. -/
def isBlank (c : Char) : Bool :=
  c == ' ' || c == '\n' || c == '\t' || c == '\r'

def skipBlank (cs : List Char) : List Char :=
  cs.dropWhile isBlank

/-- The rest of a word whose first letter has been read. -/
def word : List Char → List Char → Except Fault (List Char)
  | [], cs => .ok cs
  | _ :: _, [] => .error .truncated
  | w :: ws, c :: cs => if c = w then word ws cs else .error .malformed

/-! ## Strings -/

def hexUnit? (a b c d : Char) : Option Nat := do
  let a ← hexValue? a
  let b ← hexValue? b
  let c ← hexValue? c
  let d ← hexValue? d
  return ((a * 16 + b) * 16 + c) * 16 + d

/-- The fault of a text that does not begin with four hexadecimal digits: it ends too early if fewer
than four octets are left. -/
def hexFault (cs : List Char) : Fault :=
  if (cs.take 4).foldl (fun n c => n + c.utf8Size) 0 < 4 then .truncated else .malformed

def hexQuad : Reader Nat
  | a :: b :: c :: d :: rest =>
    match hexUnit? a b c d with
    | some unit => .ok (unit, rest)
    | none => .error (hexFault (a :: b :: c :: d :: rest))
  | cs => .error (hexFault cs)

def simpleEscape? : Char → Option Char
  | '"' => some '"'
  | '\\' => some '\\'
  | '/' => some '/'
  | 'b' => some '\x08'
  | 'f' => some '\x0c'
  | 'n' => some '\n'
  | 'r' => some '\r'
  | 't' => some '\t'
  | _ => none

/-- The first unit of a pair. -/
def isLeading (unit : Nat) : Bool := 0xD800 ≤ unit && unit ≤ 0xDBFF

/-- The second unit of a pair. -/
def isTrailing (unit : Nat) : Bool := 0xDC00 ≤ unit && unit ≤ 0xDFFF

/-- The character beyond the basic plane that a pair of units stands for. -/
def pairedChar (leading trailing : Nat) : Char :=
  Char.ofNat (0x10000 + (leading - 0xD800) * 0x400 + (trailing - 0xDC00))

/-- The escape with code `u`, from behind that letter: one unit, or a leading unit and an escaped
trailing one. -/
def unicodeEscape : Reader Char := fun cs => do
  let (unit, cs) ← hexQuad cs
  if isTrailing unit then .error .malformed
  else if isLeading unit then
    match cs with
    | [] => .error .truncated
    | '\\' :: [] => .error .truncated
    | '\\' :: 'u' :: cs =>
      let (second, cs) ← hexQuad cs
      if isTrailing second then .ok (pairedChar unit second, cs) else .error .malformed
    | _ => .error .malformed
  else .ok (Char.ofNat unit, cs)

def escaped : Reader Char
  | [] => .error .truncated
  | e :: rest =>
    match simpleEscape? e with
    | some c => .ok (c, rest)
    | none => if e = 'u' then unicodeEscape rest else .error .malformed

/-- The characters of a string up to its closing quote, taking at most `fuel` of them. -/
def stringChars : Nat → Reader (List Char)
  | 0, _ => .error .truncated
  | _ + 1, [] => .error .truncated
  | fuel + 1, c :: rest =>
    if c = '"' then .ok ([], rest)
    else if c = '\\' then do
      let (d, rest) ← escaped rest
      let (ds, rest) ← stringChars fuel rest
      .ok (d :: ds, rest)
    else if c.toNat < 0x20 then .error .malformed
    else do
      let (ds, rest) ← stringChars fuel rest
      .ok (c :: ds, rest)

def stringBody : Reader String := fun cs => do
  let (chars, rest) ← stringChars (cs.length + 1) cs
  .ok (String.ofList chars, rest)

/-! ## Numbers -/

structure WrittenNumber where
  negative : Bool
  whole : List Char
  fraction : Option (List Char)
  /-- Whether the exponent is negative, and its digits. -/
  exponent : Option (Bool × List Char)
  deriving DecidableEq, Repr

def digits : Reader (List Char)
  | [] => .error .truncated
  | c :: rest =>
    if c.isDigit then .ok (c :: rest.takeWhile Char.isDigit, rest.dropWhile Char.isDigit)
      else .error .malformed

/-- The digits in front of the point: a single zero, or a run that does not start with one. -/
def wholePart : Reader (List Char)
  | '0' :: c :: rest => if c.isDigit then .error .malformed else .ok (['0'], c :: rest)
  | cs => digits cs

def fractionPart : Reader (Option (List Char))
  | '.' :: rest => do
    let (ds, rest) ← digits rest
    .ok (some ds, rest)
  | cs => .ok (none, cs)

def signedExponent : Reader (Bool × List Char)
  | '+' :: rest => do
    let (ds, rest) ← digits rest
    .ok ((false, ds), rest)
  | '-' :: rest => do
    let (ds, rest) ← digits rest
    .ok ((true, ds), rest)
  | cs => do
    let (ds, rest) ← digits cs
    .ok ((false, ds), rest)

def exponentPart : Reader (Option (Bool × List Char))
  | c :: rest =>
    if c = 'e' ∨ c = 'E' then do
      let (e, rest) ← signedExponent rest
      .ok (some e, rest)
    else .ok (none, c :: rest)
  | [] => .ok (none, [])

def unsignedNumber (negative : Bool) : Reader WrittenNumber := fun cs => do
  let (whole, cs) ← wholePart cs
  let (fraction, cs) ← fractionPart cs
  let (exponent, cs) ← exponentPart cs
  .ok (⟨negative, whole, fraction, exponent⟩, cs)

def scanNumber : Reader WrittenNumber
  | '-' :: rest => unsignedNumber true rest
  | cs => unsignedNumber false cs

/-- Appends digits to a significand for as long as it stays below `2 ^ 64`; the digits that did not
fit are left. -/
def absorb (significand : Nat) : List Char → Nat × List Char
  | [] => (significand, [])
  | d :: rest =>
    let next := significand * 10 + (d.toNat - '0'.toNat)
    if next < Nat.pow 2 64 then absorb next rest else (significand, d :: rest)

/-- The double that written parts denote.  Digits that do not fit the significand count for the
exponent when they stand in front of the point and are dropped behind it. -/
def WrittenNumber.toDouble? (w : WrittenNumber) : Option Double :=
  let (high, dropped) := absorb 0 w.whole
  let fraction := w.fraction.getD []
  let (significand, left) := absorb high fraction
  let exponent : Int :=
    match w.exponent with
    | none => 0
    | some (true, ds) => -(Nat.ofDigitChars 10 ds 0 : Int)
    | some (false, ds) => Nat.ofDigitChars 10 ds 0
  Double.ofDecimal? w.negative significand (dropped.length - (fraction.length - left.length : Nat) + exponent)

/-- The number that written parts denote: an exact integer if no point and no exponent is written
and 64 bits hold it, with zero counting as positive, and else a double.  Nothing if it is too large
for a double. -/
def Number.ofWritten? (w : WrittenNumber) : Option Number :=
  match w.fraction, w.exponent with
  | none, none =>
    let n := Nat.ofDigitChars 10 w.whole 0
    if ¬ w.negative ∧ n < Nat.pow 2 64 then some (.int n)
    else if w.negative ∧ 0 < n ∧ n ≤ Nat.pow 2 63 then some (.int (-n))
    else w.toDouble?.map .double
  | _, _ => w.toDouble?.map .double

def number : Reader Number := fun cs => do
  let (w, rest) ← scanNumber cs
  match Number.ofWritten? w with
  | some n => .ok (n, rest)
  | none => .error .malformed

end SignalRelay.Json
