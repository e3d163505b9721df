import Mathlib.Tactic.SplitIfs
import SignalRelay.Json.Printer
import SignalRelay.Json.Reader

/-!
# Strings

The units of UTF-16 that a string is made of may stand in a text in several ways: most characters as they are,
some with an escape of one letter, and any unit by its number.  What is read depends on the units alone.

* `units` and `charsOf?` take characters to units and back, which fails for a unit that lacks its partner.
* `SpellsUnits` is the grammar of what stands between the quotes.
* `toOption_stringBody` says what is read, and `stringBody_flatMap` that it is what has been written.
-/

namespace SignalRelay

namespace Json

/-! ### Readers that fail -/

theorem toOption_bind {ε α β : Type} (e : Except ε α) (f : α → Except ε β) :
    (e >>= f).toOption = e.toOption.bind fun x => (f x).toOption := by
  cases e <;> rfl

theorem of_bind_eq_ok {ε α β : Type} {e : Except ε α} {f : α → Except ε β} {y : β} (h : e >>= f = .ok y) :
    ∃ x, e = .ok x ∧ f x = .ok y := by
  cases e with
  | error e => cases h
  | ok x => exact ⟨x, rfl, h⟩

@[simp] theorem toOption_ok {ε α : Type} (x : α) : (Except.ok x : Except ε α).toOption = some x := rfl

@[simp] theorem toOption_error {ε α : Type} (e : ε) : (Except.error e : Except ε α).toOption = none := rfl

theorem eq_ok_of_toOption {ε α : Type} {e : Except ε α} {x : α} (h : e.toOption = some x) : e = .ok x := by
  cases e with
  | error e => cases h
  | ok y => exact congrArg _ (Option.some.inj h)

/-! ### Units -/

/-- The units that a character is encoded as. -/
def units (c : Char) : List UInt16 :=
  if c.toNat < 0x10000 then [.ofNat c.toNat]
  else [.ofNat (0xD800 + (c.toNat - 0x10000) / 0x400), .ofNat (0xDC00 + (c.toNat - 0x10000) % 0x400)]

/-- The characters that units encode. -/
def charsOf? : List UInt16 → Option (List Char)
  | [] => some []
  | u :: rest =>
    if isTrailing u.toNat then none
    else if isLeading u.toNat then
      match rest with
      | [] => none
      | v :: rest =>
        if isTrailing v.toNat then (charsOf? rest).map (pairedChar u.toNat v.toNat :: ·) else none
    else (charsOf? rest).map (Char.ofNat u.toNat :: ·)

def textOf? (us : List UInt16) : Option String := (charsOf? us).map String.ofList

/-- The units of a text. -/
def unitsOf (s : String) : List UInt16 := s.toList.flatMap units

theorem isLeading_iff {n : Nat} : isLeading n = true ↔ 0xD800 ≤ n ∧ n ≤ 0xDBFF := by simp [isLeading]

theorem isTrailing_iff {n : Nat} : isTrailing n = true ↔ 0xDC00 ≤ n ∧ n ≤ 0xDFFF := by simp [isTrailing]

private theorem toNat_ofNat_unit {n : Nat} (hn : n < 0x10000) : (UInt16.ofNat n).toNat = n := by
  simp only [UInt16.toNat_ofNat']
  omega

/-- A character of the basic plane is one unit, which belongs to no pair. -/
private theorem units_basic {c : Char} (hc : c.toNat < 0x10000) :
    ∃ u : UInt16, units c = [u] ∧ Char.ofNat u.toNat = c ∧ isTrailing u.toNat = false ∧
      isLeading u.toNat = false := by
  have hvalid : c.toNat < 0xD800 ∨ 0xDFFF < c.toNat ∧ c.toNat < 0x110000 := c.valid
  have hu := toNat_ofNat_unit hc
  refine ⟨.ofNat c.toNat, if_pos hc, by rw [hu, Char.ofNat_toNat], ?_, ?_⟩
  · rw [hu, Bool.eq_false_iff, Ne, isTrailing_iff]
    omega
  · rw [hu, Bool.eq_false_iff, Ne, isLeading_iff]
    omega

/-- Any other is a pair. -/
private theorem units_paired {c : Char} (hc : ¬ c.toNat < 0x10000) :
    ∃ u v : UInt16, units c = [u, v] ∧ isTrailing u.toNat = false ∧ isLeading u.toNat = true ∧
      isTrailing v.toNat = true ∧ pairedChar u.toNat v.toNat = c := by
  have hvalid : c.toNat < 0xD800 ∨ 0xDFFF < c.toNat ∧ c.toNat < 0x110000 := c.valid
  have hu := toNat_ofNat_unit (n := 0xD800 + (c.toNat - 0x10000) / 0x400) (by omega)
  have hv := toNat_ofNat_unit (n := 0xDC00 + (c.toNat - 0x10000) % 0x400) (by omega)
  refine ⟨_, _, if_neg hc, ?_, ?_, ?_, ?_⟩
  · rw [hu, Bool.eq_false_iff, Ne, isTrailing_iff]
    omega
  · rw [hu, isLeading_iff]
    omega
  · rw [hv, isTrailing_iff]
    omega
  · have hsum : 0x10000 + (0xD800 + (c.toNat - 0x10000) / 0x400 - 0xD800) * 0x400 +
        (0xDC00 + (c.toNat - 0x10000) % 0x400 - 0xDC00) = c.toNat := by omega
    rw [hu, hv, pairedChar, hsum, Char.ofNat_toNat]

theorem charsOf?_cons (u : UInt16) (rest : List UInt16) :
    charsOf? (u :: rest) =
      if isTrailing u.toNat then none
      else if isLeading u.toNat then
        match rest with
        | [] => none
        | v :: rest =>
          if isTrailing v.toNat then (charsOf? rest).map (pairedChar u.toNat v.toNat :: ·) else none
      else (charsOf? rest).map (Char.ofNat u.toNat :: ·) :=
  charsOf?.eq_def _

theorem charsOf?_units_append (c : Char) (us : List UInt16) :
    charsOf? (units c ++ us) = (charsOf? us).map (c :: ·) := by
  by_cases hc : c.toNat < 0x10000
  · obtain ⟨u, hunits, hchar, htrailing, hleading⟩ := units_basic hc
    simp [hunits, charsOf?_cons, htrailing, hleading, hchar]
  · obtain ⟨u, v, hunits, htrailing, hleading, hsecond, hpair⟩ := units_paired hc
    simp [hunits, charsOf?_cons, htrailing, hleading, hsecond, hpair]

/-- A character does not go on with what another one has begun. -/
theorem exists_units_eq_cons (c : Char) : ∃ u us, units c = u :: us ∧ isTrailing u.toNat = false := by
  by_cases hc : c.toNat < 0x10000
  · obtain ⟨u, hunits, -, htrailing, -⟩ := units_basic hc
    exact ⟨u, [], hunits, htrailing⟩
  · obtain ⟨u, v, hunits, htrailing, -⟩ := units_paired hc
    exact ⟨u, [v], hunits, htrailing⟩

private theorem units_ofNat {u : UInt16} (htrailing : ¬ isTrailing u.toNat = true)
    (hleading : ¬ isLeading u.toNat = true) : units (Char.ofNat u.toNat) = [u] := by
  rw [isTrailing_iff] at htrailing
  rw [isLeading_iff] at hleading
  have hlt := u.toNat_lt
  have hvalid : u.toNat.isValidChar := by
    unfold Nat.isValidChar
    omega
  have hnat : (Char.ofNat u.toNat).toNat = u.toNat := by
    rw [Char.ofNat, dif_pos hvalid]
    rfl
  rw [units, if_pos (by omega), hnat, UInt16.ofNat_toNat]

private theorem units_pairedChar {u v : UInt16} (hu : isLeading u.toNat = true)
    (hv : isTrailing v.toNat = true) :
    units (pairedChar u.toNat v.toNat) = [u, v] := by
  rw [isLeading_iff] at hu
  rw [isTrailing_iff] at hv
  have hvalid : (0x10000 + (u.toNat - 0xD800) * 0x400 + (v.toNat - 0xDC00)).isValidChar := by
    unfold Nat.isValidChar
    omega
  have hnat : (pairedChar u.toNat v.toNat).toNat =
      0x10000 + (u.toNat - 0xD800) * 0x400 + (v.toNat - 0xDC00) := by
    rw [pairedChar, Char.ofNat, dif_pos hvalid]
    rfl
  have hfirst : 0xD800 + ((pairedChar u.toNat v.toNat).toNat - 0x10000) / 0x400 = u.toNat := by omega
  have hsecond : 0xDC00 + ((pairedChar u.toNat v.toNat).toNat - 0x10000) % 0x400 = v.toNat := by omega
  rw [units, if_neg (by omega), hfirst, hsecond, UInt16.ofNat_toNat, UInt16.ofNat_toNat]

/-- The characters say what the units were. -/
theorem flatMap_units {us : List UInt16} {cs : List Char} (h : charsOf? us = some cs) :
    cs.flatMap units = us := by
  induction us using charsOf?.induct generalizing cs with
  | case1 =>
    obtain rfl : [] = cs := by simpa [charsOf?] using h
    rfl
  | case2 u rest htrailing => simp [charsOf?_cons, htrailing] at h
  | case3 u htrailing hleading => simp [charsOf?_cons, htrailing, hleading] at h
  | case4 u htrailing hleading v rest hsecond ih =>
    obtain ⟨ds, hds, rfl⟩ : ∃ ds, charsOf? rest = some ds ∧ pairedChar u.toNat v.toNat :: ds = cs := by
      simpa [charsOf?_cons, htrailing, hleading, hsecond] using h
    rw [List.flatMap_cons, units_pairedChar hleading hsecond, ih hds]
    rfl
  | case5 u htrailing hleading v rest hsecond => simp [charsOf?_cons, htrailing, hleading, hsecond] at h
  | case6 u rest htrailing hleading ih =>
    obtain ⟨ds, hds, rfl⟩ : ∃ ds, charsOf? rest = some ds ∧ Char.ofNat u.toNat :: ds = cs := by
      simpa [charsOf?_cons, htrailing, hleading] using h
    rw [List.flatMap_cons, units_ofNat htrailing hleading, ih hds]
    rfl

theorem textOf?_inj {us us' : List UInt16} {s : String} (h : textOf? us = some s)
    (h' : textOf? us' = some s) :
    us = us' := by
  obtain ⟨cs, hcs, rfl⟩ := Option.map_eq_some_iff.1 h
  obtain ⟨cs', hcs', hs⟩ := Option.map_eq_some_iff.1 h'
  rw [← flatMap_units hcs, ← flatMap_units hcs', String.ofList_injective hs]

theorem textOf?_unitsOf (s : String) : textOf? (unitsOf s) = some s := by
  have hchars : ∀ cs : List Char, charsOf? (cs.flatMap units) = some cs := by
    intro cs
    induction cs with
    | nil => rfl
    | cons c cs ih => rw [List.flatMap_cons, charsOf?_units_append, ih, Option.map_some]
  rw [textOf?, unitsOf, hchars, Option.map_some, String.ofList_toList]

/-! ### Grammar -/

/-- What may stand between the quotes for a string of these units. -/
inductive SpellsUnits : List UInt16 → List Char → Prop
  | nil : SpellsUnits [] []
  | plain {c : Char} {us : List UInt16} {cs : List Char} (hcontrol : 0x20 ≤ c.toNat) (hquote : c ≠ '"')
      (hsolidus : c ≠ '\\') (h : SpellsUnits us cs) : SpellsUnits (units c ++ us) (c :: cs)
  /-- An escape of one letter. -/
  | short {e c : Char} {us : List UInt16} {cs : List Char} (he : simpleEscape? e = some c)
      (h : SpellsUnits us cs) :
      SpellsUnits (units c ++ us) ('\\' :: e :: cs)
  /-- An escape by number, which stands for one unit. -/
  | code {a b c d : Char} {u : UInt16} {us : List UInt16} {cs : List Char}
      (hu : hexUnit? a b c d = some u.toNat) (h : SpellsUnits us cs) :
      SpellsUnits (u :: us) ('\\' :: 'u' :: a :: b :: c :: d :: cs)

/-- A character that needs no escape. -/
def isPlain (c : Char) : Bool := decide (0x20 ≤ c.toNat) && c != '"' && c != '\\'

/-- Characters that need no escape stand for themselves. -/
theorem spellsUnits_plain {cs : List Char} (h : cs.all isPlain = true) :
    SpellsUnits (cs.flatMap units) cs := by
  induction cs with
  | nil => exact .nil
  | cons c cs ih =>
    simp only [List.all_cons, isPlain, Bool.and_eq_true, decide_eq_true_eq, bne_iff_ne] at h
    obtain ⟨⟨⟨hcontrol, hquote⟩, hsolidus⟩, hcs⟩ := h
    exact .plain hcontrol hquote hsolidus (ih hcs)

def SpellsString (us : List UInt16) (cs : List Char) : Prop :=
  ∃ inside, SpellsUnits us inside ∧ cs = '"' :: inside ++ ['"']

/-! ### Reading -/

section
variable {a b c d : Char} {n : Nat}

private theorem hexQuad_of_hexUnit? (h : hexUnit? a b c d = some n) (rest : List Char) :
    hexQuad (a :: b :: c :: d :: rest) = .ok (n, rest) := by
  rw [hexQuad, h]

private theorem escaped_code (rest : List Char) : escaped ('u' :: rest) = unicodeEscape rest := rfl

private theorem unicodeEscape_basic (h : hexUnit? a b c d = some n) (htrailing : ¬ isTrailing n = true)
    (hleading : ¬ isLeading n = true) (rest : List Char) :
    unicodeEscape (a :: b :: c :: d :: rest) = .ok (Char.ofNat n, rest) := by
  simp [unicodeEscape, hexQuad_of_hexUnit? h, htrailing, hleading, bind, Except.bind]

private theorem unicodeEscape_trailing (h : hexUnit? a b c d = some n) (htrailing : isTrailing n = true)
    (rest : List Char) : (unicodeEscape (a :: b :: c :: d :: rest)).toOption = none := by
  simp [unicodeEscape, hexQuad_of_hexUnit? h, htrailing, bind, Except.bind]

/-- A leading unit wants another escape by number behind it, -/
private theorem unicodeEscape_lone (h : hexUnit? a b c d = some n) (hleading : isLeading n = true)
    {rest : List Char} (hrest : ∀ cs, rest ≠ '\\' :: 'u' :: cs) :
    (unicodeEscape (a :: b :: c :: d :: rest)).toOption = none := by
  simp only [unicodeEscape, hexQuad_of_hexUnit? h, bind, Except.bind, hleading, if_true]
  split
  · rfl
  · split
    · rfl
    · rfl
    · exact absurd rfl (hrest _)
    · rfl

/-- and one of a trailing unit. -/
private theorem unicodeEscape_pair {a' b' c' d' : Char} {n' : Nat} (h : hexUnit? a b c d = some n)
    (h' : hexUnit? a' b' c' d' = some n') (htrailing : ¬ isTrailing n = true) (hleading : isLeading n = true)
    (rest : List Char) :
    (unicodeEscape (a :: b :: c :: d :: '\\' :: 'u' :: a' :: b' :: c' :: d' :: rest)).toOption =
      if isTrailing n' then some (pairedChar n n', rest) else none := by
  by_cases hsecond : isTrailing n' = true <;>
    simp [unicodeEscape, hexQuad_of_hexUnit? h, hexQuad_of_hexUnit? h', bind, Except.bind, hleading,
      htrailing, hsecond]

end

/-- One escape is read, and then what stands behind it. -/
private theorem toOption_stringChars_escape (fuel : Nat) (rest : List Char) :
    (stringChars (fuel + 1) ('\\' :: rest)).toOption = (escaped rest).toOption.bind fun x =>
      (stringChars fuel x.2).toOption.map fun y => (x.1 :: y.1, y.2) := by
  rw [stringChars, if_neg (by decide), if_pos rfl, toOption_bind]
  congr 1
  funext x
  rw [toOption_bind]
  cases (stringChars fuel x.2).toOption <;> rfl

/-- The characters of a string are read up to its quote, if its units make characters. -/
theorem toOption_stringChars {us : List UInt16} {cs : List Char} (h : SpellsUnits us cs) {fuel : Nat}
    (hfuel : cs.length < fuel) (rest : List Char) :
    (stringChars fuel (cs ++ '"' :: rest)).toOption = (charsOf? us).map (·, rest) := by
  induction hn : cs.length using Nat.strongRecOn generalizing us cs fuel with
  | ind n ih =>
    obtain ⟨fuel, rfl⟩ : ∃ m, fuel = m + 1 := ⟨fuel - 1, by omega⟩
    cases h with
    | nil => simp [stringChars, charsOf?]
    | @plain c us cs hcontrol hquote hsolidus h =>
      simp only [List.length_cons] at hn hfuel
      have hrest := ih _ (by omega) h (show cs.length < fuel by omega) rfl
      have hprintable : ¬ c.toNat < 0x20 := by omega
      rw [charsOf?_units_append, List.cons_append, stringChars, if_neg hquote, if_neg hsolidus,
        if_neg hprintable, toOption_bind, hrest]
      cases charsOf? us <;> rfl
    | @short e c us cs he h =>
      simp only [List.length_cons] at hn hfuel
      have hrest := ih _ (by omega) h (show cs.length < fuel by omega) rfl
      have hescaped : escaped (e :: (cs ++ '"' :: rest)) = .ok (c, cs ++ '"' :: rest) := by simp [escaped, he]
      rw [charsOf?_units_append, List.cons_append, List.cons_append, toOption_stringChars_escape, hescaped]
      simp only [toOption_ok, Option.bind_some, hrest]
      cases charsOf? us <;> rfl
    | @code a b c d u us cs hu h =>
      simp only [List.length_cons] at hn hfuel
      simp only [List.cons_append]
      rw [toOption_stringChars_escape, escaped_code, charsOf?_cons]
      by_cases htrailing : isTrailing u.toNat = true
      · rw [unicodeEscape_trailing hu htrailing, if_pos htrailing]
        rfl
      rw [if_neg htrailing]
      by_cases hleading : isLeading u.toNat = true
      · rw [if_pos hleading]
        -- a leading unit is looked at together with what comes next
        cases h with
        | nil => rw [unicodeEscape_lone hu hleading (by simp)]; rfl
        | @plain c' us cs hcontrol hquote hsolidus h =>
          obtain ⟨v, vs, hunits, hv⟩ := exists_units_eq_cons c'
          rw [unicodeEscape_lone hu hleading (by simp [hsolidus]), hunits]
          simp [hv]
        | @short e c' us cs he h =>
          obtain ⟨v, vs, hunits, hv⟩ := exists_units_eq_cons c'
          have hne : e ≠ 'u' := by
            rintro rfl
            cases he
          rw [unicodeEscape_lone hu hleading (by simp [hne]), hunits]
          simp [hv]
        | @code a' b' c' d' v us cs hv h =>
          simp only [List.length_cons] at hn hfuel
          simp only [List.cons_append]
          have hrest := ih _ (by omega) h (show cs.length < fuel by omega) rfl
          rw [unicodeEscape_pair hu hv htrailing hleading]
          by_cases hsecond : isTrailing v.toNat = true
          · simp only [hsecond, if_true, Option.bind_some, hrest]
            cases charsOf? us <;> rfl
          · simp [hsecond]
      · have hrest := ih _ (by omega) h (show cs.length < fuel by omega) rfl
        rw [if_neg hleading, unicodeEscape_basic hu htrailing hleading]
        simp only [toOption_ok, Option.bind_some, hrest]
        cases charsOf? us <;> rfl

theorem toOption_stringBody {us : List UInt16} {cs : List Char} (h : SpellsUnits us cs) (rest : List Char) :
    (stringBody (cs ++ '"' :: rest)).toOption = (textOf? us).map (·, rest) := by
  rw [stringBody, toOption_bind, toOption_stringChars h (by simp only [List.length_append]; omega), textOf?]
  cases charsOf? us <;> rfl

/-! ### Writing -/

private theorem hexUnit?_hexDigit {n : Nat} (hn : n < 0x20) :
    hexUnit? '0' '0' (hexDigit (n / 16)) (hexDigit (n % 16)) = some n := by
  have hzero : hexValue? '0' = some 0 := by decide
  have hhigh := hexValue?_hexDigit (n := n / 16) (by omega)
  have hlow := hexValue?_hexDigit (n := n % 16) (by omega)
  simp only [hexUnit?, hzero, hhigh, hlow, Option.bind_eq_bind, Option.bind_some, Option.pure_def,
    Option.some.injEq]
  omega

private theorem spellsUnits_escape (c : Char) {us : List UInt16} {cs : List Char} (h : SpellsUnits us cs) :
    SpellsUnits (units c ++ us) (escape c ++ cs) := by
  unfold escape
  split_ifs with hquote hsolidus hb hf hn hr ht hcontrol
  -- seven characters have an escape of one letter
  iterate 7
    · subst_vars
      exact .short rfl h
  · have hu := toNat_ofNat_unit (n := c.toNat) (by omega)
    rw [units, if_pos (by omega)]
    exact .code (hu.symm ▸ hexUnit?_hexDigit hcontrol) h
  · exact .plain (by omega) hquote hsolidus h

theorem spellsUnits_flatMap (cs : List Char) : SpellsUnits (cs.flatMap units) (cs.flatMap escape) := by
  induction cs with
  | nil => exact .nil
  | cons c cs ih => exact spellsUnits_escape c ih

/-- A string is read back up to its quote, from behind the quote in front. -/
theorem stringBody_flatMap (s : String) (rest : List Char) :
    stringBody (s.toList.flatMap escape ++ '"' :: rest) = .ok (s, rest) := by
  have hread := toOption_stringBody (spellsUnits_flatMap s.toList) rest
  rw [← unitsOf, textOf?_unitsOf] at hread
  exact eq_ok_of_toOption hread

theorem quoted_append (s : String) (rest : List Char) :
    quoted s ++ rest = '"' :: (s.toList.flatMap escape ++ '"' :: rest) := by
  simp [quoted]

end Json

end SignalRelay
