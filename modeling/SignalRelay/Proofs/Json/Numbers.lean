import SignalRelay.Proofs.Json.Strings

/-!
# Numbers

A number is written as its digits, maybe with a fraction and an exponent, and ends where the text goes on
with something that is no part of a number (`Delimited`).

* `SpellsNumber` is the grammar, and `scanNumber_of_spells` says that the written parts are found again.
* `WrittenNumber.ofInt` is how an integer is written, and `ofWritten?_ofInt` says that it is read as such
  if 64 bits hold it.
* `number_chars`: what has been written for such an integer is read back.
-/

namespace SignalRelay

/-- The integers that are read as such: those that a signed or an unsigned number of 64 bits can hold. -/
def Number.Exact : Number → Prop
  | .int value => -(Nat.pow 2 63 : Int) ≤ value ∧ value < (Nat.pow 2 64 : Int)
  | .double _ => False

instance (n : Number) : Decidable n.Exact := by
  cases n <;> unfold Number.Exact <;> infer_instance

namespace Json

/-! ### Grammar -/

def Digits (ds : List Char) : Prop := ds ≠ [] ∧ ∀ c ∈ ds, c.isDigit = true

/-- A point and digits behind it, if a fraction is written. -/
def SpellsFraction : Option (List Char) → List Char → Prop
  | none, cs => cs = []
  | some ds, cs => Digits ds ∧ cs = '.' :: ds

/-- The sign of an exponent. -/
inductive SpellsSign : Bool → List Char → Prop
  | none : SpellsSign false []
  | plus : SpellsSign false ['+']
  | minus : SpellsSign true ['-']

def SpellsExponent : Option (Bool × List Char) → List Char → Prop
  | none, cs => cs = []
  | some (negative, ds), cs =>
    Digits ds ∧ ∃ e sign, (e = 'e' ∨ e = 'E') ∧ SpellsSign negative sign ∧ cs = e :: (sign ++ ds)

/-- The parts of a number one after the other.  There is no zero in front of other digits. -/
def SpellsNumber (w : WrittenNumber) (cs : List Char) : Prop :=
  Digits w.whole ∧ (w.whole = ['0'] ∨ w.whole.head? ≠ some '0') ∧
    ∃ fraction exponent, SpellsFraction w.fraction fraction ∧ SpellsExponent w.exponent exponent ∧
      cs = (if w.negative then ['-'] else []) ++ (w.whole ++ (fraction ++ exponent))

/-- A character that a number can begin with. -/
def Leads (c : Char) : Prop := c = '-' ∨ c.isDigit = true

theorem Leads.ne {c d : Char} (hc : Leads c) (hd : d ≠ '-' ∧ d.isDigit = false) : c ≠ d := by
  rintro rfl
  rcases hc with hc | hc
  · exact hd.1 hc
  · rw [hd.2] at hc
    cases hc

theorem Leads.isBlank {c : Char} (hc : Leads c) : isBlank c = false := by
  simp [Json.isBlank, hc.ne (d := ' ') (by decide), hc.ne (d := '\n') (by decide),
    hc.ne (d := '\t') (by decide),
    hc.ne (d := '\r') (by decide)]

theorem exists_leads_of_spells {w : WrittenNumber} {cs : List Char} (h : SpellsNumber w cs) :
    ∃ c rest, cs = c :: rest ∧ Leads c := by
  obtain ⟨⟨hne, hdigits⟩, -, fraction, exponent, -, -, rfl⟩ := h
  obtain ⟨d, ds, hwhole⟩ := List.exists_cons_of_ne_nil hne
  cases w.negative with
  | true => exact ⟨'-', _, rfl, .inl rfl⟩
  | false => exact ⟨d, _, by rw [hwhole]; rfl, .inr (hdigits d (hwhole ▸ List.mem_cons_self))⟩

/-! ### Reading -/

/-- A text that does not go on with anything that could belong to a number. -/
def Delimited (rest : List Char) : Prop :=
  ∀ c ∈ rest.head?, c.isDigit = false ∧ c ≠ '.' ∧ c ≠ 'e' ∧ c ≠ 'E'

theorem delimited_cons {c : Char} (h : c = ',' ∨ c = ']' ∨ c = '}') (rest : List Char) :
    Delimited (c :: rest) := by
  intro d hd
  obtain rfl : c = d := by simpa using hd
  rcases h with rfl | rfl | rfl <;> decide

/-- Digits are read up to something else. -/
theorem digits_append {ds : List Char} (hdigits : ∀ c ∈ ds, c.isDigit = true) (hne : ds ≠ [])
    {rest : List Char} (hrest : ∀ c ∈ rest.head?, c.isDigit = false) :
    digits (ds ++ rest) = .ok (ds, rest) := by
  obtain ⟨c, ds, rfl⟩ := List.exists_cons_of_ne_nil hne
  have hstop : rest.takeWhile Char.isDigit = [] ∧ rest.dropWhile Char.isDigit = rest := by
    cases rest with
    | nil => exact ⟨rfl, rfl⟩
    | cons d rest => simp [hrest d rfl]
  have htail : ∀ d ∈ ds, d.isDigit = true := fun d hd => hdigits d (List.mem_cons_of_mem c hd)
  rw [List.cons_append, digits, if_pos (hdigits c List.mem_cons_self), List.takeWhile_append_of_pos htail,
    List.dropWhile_append_of_pos htail, hstop.1, hstop.2, List.append_nil]

section
variable {w : WrittenNumber} {cs rest : List Char}

/-- No digit comes next. -/
private def Stops (cs : List Char) : Prop := ∀ c ∈ cs.head?, c.isDigit = false

private theorem Delimited.stops (h : Delimited cs) : Stops cs := fun c hc => (h c hc).1

private theorem exponentPart_of_spells {e? : Option (Bool × List Char)} (h : SpellsExponent e? cs)
    (hrest : Delimited rest) : exponentPart (cs ++ rest) = .ok (e?, rest) := by
  match e?, h with
  | none, rfl =>
    cases rest with
    | nil => rfl
    | cons c rest =>
      obtain ⟨-, -, he, hE⟩ := hrest c rfl
      simp [exponentPart, he, hE]
  | some (negative, ds), ⟨⟨hne, hdigits⟩, e, sign, he, hsign, rfl⟩ =>
    have hread : signedExponent (sign ++ (ds ++ rest)) = .ok ((negative, ds), rest) := by
      have hds := digits_append hdigits hne hrest.stops
      cases hsign with
      | none =>
        obtain ⟨d, ds, rfl⟩ := List.exists_cons_of_ne_nil hne
        have hd := hdigits d List.mem_cons_self
        unfold signedExponent
        split
        · rename_i heq
          obtain ⟨rfl, -⟩ := List.cons.inj heq
          cases hd
        · rename_i heq
          obtain ⟨rfl, -⟩ := List.cons.inj heq
          cases hd
        · rw [List.nil_append, hds]
          rfl
      | plus => simp [signedExponent, hds, bind, Except.bind]
      | minus => simp [signedExponent, hds, bind, Except.bind]
    rw [List.cons_append, List.append_assoc, exponentPart, if_pos he, hread]
    rfl

private theorem stops_exponent {e? : Option (Bool × List Char)} (h : SpellsExponent e? cs)
    (hrest : Delimited rest) :
    Stops (cs ++ rest) := by
  match e?, h with
  | none, rfl => exact hrest.stops
  | some (negative, ds), ⟨_, e, sign, he, _, rfl⟩ =>
    rintro c hc
    obtain rfl : e = c := by simpa using hc
    rcases he with rfl | rfl <;> rfl

private theorem fractionPart_of_spells {f? : Option (List Char)} (h : SpellsFraction f? cs)
    (hrest : Stops rest) (hpoint : rest.head? ≠ some '.') : fractionPart (cs ++ rest) = .ok (f?, rest) := by
  match f?, h with
  | none, rfl =>
    rw [List.nil_append]
    unfold fractionPart
    split
    · exact absurd rfl hpoint
    · rfl
  | some ds, ⟨⟨hne, hdigits⟩, rfl⟩ =>
    simp [fractionPart, digits_append hdigits hne hrest, bind, Except.bind]

private theorem stops_fraction {f? : Option (List Char)} (h : SpellsFraction f? cs) (hrest : Stops rest) :
    Stops (cs ++ rest) := by
  match f?, h with
  | none, rfl => exact hrest
  | some ds, ⟨_, rfl⟩ =>
    rintro c hc
    obtain rfl : '.' = c := by simpa using hc
    rfl

private theorem head?_exponent_ne_point {e? : Option (Bool × List Char)} (h : SpellsExponent e? cs)
    (hrest : Delimited rest) : (cs ++ rest).head? ≠ some '.' := by
  match e?, h with
  | none, rfl => exact fun hpoint => (hrest '.' hpoint).2.1 rfl
  | some (negative, ds), ⟨_, e, sign, he, _, rfl⟩ => rcases he with rfl | rfl <;> simp

private theorem wholePart_of_digits {ds : List Char} (h : Digits ds)
    (hzero : ds = ['0'] ∨ ds.head? ≠ some '0') (hrest : Stops rest) :
    wholePart (ds ++ rest) = .ok (ds, rest) := by
  rcases hzero with rfl | hzero
  · cases rest with
    | nil => rfl
    | cons c rest => simp [wholePart, hrest c rfl]
  · obtain ⟨d, ds, rfl⟩ := List.exists_cons_of_ne_nil h.1
    unfold wholePart
    split
    · rename_i heq
      obtain ⟨rfl, -⟩ := List.cons.inj heq
      exact absurd rfl hzero
    · exact digits_append h.2 h.1 hrest

/-- A number is read from its text as it is written. -/
theorem scanNumber_of_spells (h : SpellsNumber w cs) (hrest : Delimited rest) :
    scanNumber (cs ++ rest) = .ok (w, rest) := by
  obtain ⟨hdigits, hzero, fraction, exponent, hfraction, hexponent, rfl⟩ := h
  have hread : ∀ negative, unsignedNumber negative (w.whole ++ (fraction ++ (exponent ++ rest))) =
      .ok ({ w with negative }, rest) := by
    intro negative
    have hstops := stops_exponent hexponent hrest
    have hpoint := head?_exponent_ne_point hexponent hrest
    simp [unsignedNumber, wholePart_of_digits hdigits hzero (stops_fraction hfraction hstops),
      fractionPart_of_spells hfraction hstops hpoint, exponentPart_of_spells hexponent hrest, bind,
      Except.bind]
  simp only [List.append_assoc]
  cases hnegative : w.negative with
  | true =>
    simp only [if_true, List.singleton_append, scanNumber]
    rw [hread, ← hnegative]
  | false =>
    simp only [Bool.false_eq_true, if_false, List.nil_append]
    unfold scanNumber
    split
    · rename_i heq
      obtain ⟨d, ds, hwhole⟩ := List.exists_cons_of_ne_nil hdigits.1
      have hd := hdigits.2 d (hwhole ▸ List.mem_cons_self)
      rw [hwhole, List.cons_append] at heq
      obtain ⟨rfl, -⟩ := List.cons.inj heq
      cases hd
    · rw [hread, ← hnegative]

end

/-! ### Integers -/

/-- The digits of a number have no zero in front, unless it is zero. -/
private theorem toDigits_ne_zero_cons {n : Nat} (hn : 0 < n) (ds : List Char) :
    Nat.toDigits 10 n ≠ '0' :: ds := by
  induction n using Nat.strongRecOn generalizing ds with
  | ind n ih =>
    intro h
    rw [Nat.toDigits_eq_if (by decide)] at h
    split at h
    · rename_i hlt
      have hdigit : ∀ k < 10, 0 < k → Nat.digitChar k ≠ '0' := by decide
      exact hdigit n hlt hn (List.cons.inj h).1
    · -- the first digit is that of `n / 10`
      obtain ⟨c, cs, hcs⟩ := List.exists_cons_of_ne_nil (Nat.toDigits_ne_nil (n := n / 10) (b := 10))
      rw [hcs, List.cons_append] at h
      have hzero : c = '0' := (List.cons.inj h).1
      exact ih (n / 10) (by omega) (by omega) cs (hzero ▸ hcs)

/-- The decimal digits of an integer, without a zero in front of others. -/
def WrittenNumber.ofInt (n : Int) : WrittenNumber := ⟨decide (n < 0), Nat.toDigits 10 n.natAbs, none, none⟩

theorem ofWritten?_ofInt {n : Int} (h : (Number.int n).Exact) :
    Number.ofWritten? (.ofInt n) = some (.int n) := by
  obtain ⟨hmin, hmax⟩ := h
  cases n with
  | ofNat n =>
    have hlt : n < Nat.pow 2 64 := Int.ofNat_lt.1 hmax
    simp [Number.ofWritten?, WrittenNumber.ofInt, hlt]
  | negSucc n =>
    have hle : n + 1 ≤ Nat.pow 2 63 := by omega
    have hvalue : -((n : Int) + 1) = Int.negSucc n := rfl
    simp [Number.ofWritten?, WrittenNumber.ofInt, hle, hvalue]

theorem chars_int (n : Int) : (Number.int n).chars = (toString n).toList := by
  cases n with
  | ofNat n => exact (String.toList_ofList).symm
  | negSucc n =>
    have htext : toString (Int.negSucc n) = "-" ++ String.ofList (Nat.toDigits 10 (n + 1)) := rfl
    simp [htext, Number.chars]

/-- An integer has one numeral. -/
theorem spellsNumber_ofInt {n : Int} {cs : List Char} :
    SpellsNumber (.ofInt n) cs ↔ cs = (toString n).toList := by
  have hdigits : Digits (Nat.toDigits 10 n.natAbs) :=
    ⟨Nat.toDigits_ne_nil, fun c hc => Nat.isDigit_of_mem_toDigits (by decide) (by decide) hc⟩
  have hzero : Nat.toDigits 10 n.natAbs = ['0'] ∨ (Nat.toDigits 10 n.natAbs).head? ≠ some '0' := by
    rcases Nat.eq_zero_or_pos n.natAbs with hn | hn
    · exact .inl (by rw [hn]; rfl)
    · refine .inr fun hhead => ?_
      obtain ⟨ds, hds⟩ := List.head?_eq_some_iff.1 hhead
      exact toDigits_ne_zero_cons hn ds hds
  have htext :
      (if decide (n < 0) then ['-'] else []) ++ (Nat.toDigits 10 n.natAbs ++ ([] ++ [])) =
        (toString n).toList := by
    rw [← chars_int]
    cases n with
    | ofNat n => simp [Number.chars]
    | negSucc n => simp [Number.chars]
  constructor
  · rintro ⟨-, -, fraction, exponent, rfl, rfl, rfl⟩
    exact htext
  · rintro rfl
    exact ⟨hdigits, hzero, [], [], rfl, rfl, htext.symm⟩

/-- An exact integer is written as a number that is read as it. -/
private theorem exists_spells_chars {n : Number} (hn : n.Exact) :
    ∃ w, SpellsNumber w n.chars ∧ Number.ofWritten? w = some n := by
  match n, hn with
  | .int n, hn => exact ⟨.ofInt n, spellsNumber_ofInt.2 (chars_int n), ofWritten?_ofInt hn⟩

theorem exists_chars_eq_cons {n : Number} (hn : n.Exact) : ∃ c cs, n.chars = c :: cs ∧ Leads c := by
  obtain ⟨w, hw, -⟩ := exists_spells_chars hn
  exact exists_leads_of_spells hw

/-- An exact integer is read back, if the text goes on with nothing that could belong to it. -/
theorem number_chars {n : Number} (hn : n.Exact) {rest : List Char} (hrest : Delimited rest) :
    number (n.chars ++ rest) = .ok (n, rest) := by
  obtain ⟨w, hw, hread⟩ := exists_spells_chars hn
  simp [number, scanNumber_of_spells hw hrest, hread, bind, Except.bind]

end Json

end SignalRelay
