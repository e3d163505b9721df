/-!
# Decimal numerals

Natural numbers as decimal text: `numeral` writes the shortest numeral, `numeralValue` reads any run
of digits, leading zeros included.  Ids that carry a counter are built from these.
-/

namespace SignalRelay

/-- The decimal numeral of `n`, without leading zeros. -/
def numeral (n : Nat) : String :=
  String.ofList (Nat.toDigits 10 n)

/-- The number that a run of ASCII digits denotes; the empty run denotes `0`. -/
def numeralValue (digits : List Char) : Nat :=
  Nat.ofDigitChars 10 digits 0

theorem toList_numeral (n : Nat) : (numeral n).toList = Nat.toDigits 10 n := by
  simp [numeral]

theorem numeralValue_numeral (n : Nat) : numeralValue (numeral n).toList = n := by
  simp [numeralValue, toList_numeral]

theorem numeral_injective {m n : Nat} (h : numeral m = numeral n) : m = n := by
  rw [← numeralValue_numeral m, h, numeralValue_numeral]

/-- Different numbers behind one stem make different ids. -/
theorem append_numeral_injective {stem : String} {m n : Nat} (h : stem ++ numeral m = stem ++ numeral n) :
    m = n := by
  have hchars := congrArg String.toList h
  rw [String.toList_append, String.toList_append] at hchars
  exact numeral_injective (String.toList_inj.1 (List.append_cancel_left hchars))

end SignalRelay
