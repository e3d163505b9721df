import Mathlib.Data.Finset.Lattice.Fold
import Mathlib.Data.List.TakeWhile
import Mathlib.Data.Nat.Digits.Defs
import Mathlib.Order.Lattice.Nat
import SignalRelay.Directory.Suffix

/-!
# Families of ids

An id is a word with a number behind it, and either may be missing.  A claim is settled among the ids of
its family, which are the claim with numbers behind it: it is left as it is if there are none, and gets
one more than the largest number if there are some.

* `DigitTail` says what the suffix of an id is, and `splitSuffix_eq_iff` that `splitSuffix` finds it.
* `family` and `nextInFamily` say how a claim is settled next to a set of ids, with numbers of any size.
* `disambiguate_eq_nextInFamily`: that is what comes of a list, in which ids may stand in any order, and
  repeatedly.
-/

namespace SignalRelay

/-! ### Suffixes -/

/-- Whether an id consists of digits alone; the empty one does. -/
def isDigits (id : String) : Bool := id.toList.all Char.isDigit

/-- Whether the last character of an id is a digit. -/
def endsInDigit (id : String) : Bool := id.toList.getLast?.any Char.isDigit

/-- The suffix is the longest tail of an id that consists of digits alone, and the base is what
stands before it. -/
structure DigitTail (id base suffix : String) : Prop where
  append : base ++ suffix = id
  digits : isDigits suffix = true
  longest : ∀ base' suffix' : String, base' ++ suffix' = id → isDigits suffix' = true →
    suffix'.length ≤ suffix.length

section
variable {id base suffix : String}

theorem splitSuffix_append (id : String) : (splitSuffix id).1 ++ (splitSuffix id).2 = id := by
  rw [← String.toList_inj, String.toList_append]
  simp only [splitSuffix, String.toList_ofList]
  rw [← List.reverse_append, List.takeWhile_append_dropWhile, List.reverse_reverse]

theorem isDigits_suffix (id : String) : isDigits (splitSuffix id).2 = true := by
  simp only [isDigits, splitSuffix, String.toList_ofList, List.all_reverse, List.all_takeWhile]

/-- The digits at the end of an id do not belong to its base. -/
theorem endsInDigit_base (id : String) : endsInDigit (splitSuffix id).1 = false := by
  simp only [endsInDigit, splitSuffix, String.toList_ofList, List.getLast?_reverse]
  have hhead := List.head?_dropWhile_not Char.isDigit id.toList.reverse
  cases hd : (id.toList.reverse.dropWhile Char.isDigit).head? with
  | none => rfl
  | some d =>
    rw [hd] at hhead
    exact hhead

/-- Every other tail of digits is a tail of the suffix. -/
private theorem length_le_suffix (happend : base ++ suffix = id) (hdigits : isDigits suffix = true) :
    suffix.length ≤ (splitSuffix id).2.length := by
  have hall : ∀ d ∈ suffix.toList.reverse, d.isDigit = true := by
    simpa [isDigits] using hdigits
  simp only [← happend, splitSuffix, ← String.length_toList, String.toList_ofList, String.toList_append,
    List.reverse_append, List.takeWhile_append_of_pos hall, List.length_reverse, List.length_append]
  omega

theorem digitTail_splitSuffix (id : String) : DigitTail id (splitSuffix id).1 (splitSuffix id).2 where
  append := splitSuffix_append id
  digits := isDigits_suffix id
  longest _ _ := length_le_suffix

/-- An id is cut in one place only. -/
theorem splitSuffix_eq_iff : splitSuffix id = (base, suffix) ↔ DigitTail id base suffix := by
  constructor
  · intro h
    have htail := digitTail_splitSuffix id
    rw [h] at htail
    exact htail
  · intro h
    have hlength : (splitSuffix id).2.length = suffix.length :=
      Nat.le_antisymm (h.longest _ _ (splitSuffix_append id) (isDigits_suffix id))
        (length_le_suffix h.append h.digits)
    have happend := (splitSuffix_append id).trans h.append.symm
    rw [← String.toList_inj, String.toList_append, String.toList_append] at happend
    obtain ⟨hbase, hsuffix⟩ := List.append_inj' happend (by simpa only [String.length_toList] using hlength)
    exact Prod.ext (String.toList_inj.1 hbase) (String.toList_inj.1 hsuffix)

/-- Digits behind an id that does not end in one are its suffix. -/
theorem splitSuffix_of_append (hbase : endsInDigit base = false) (hdigits : isDigits suffix = true) :
    splitSuffix (base ++ suffix) = (base, suffix) := by
  have hall : ∀ d ∈ suffix.toList.reverse, d.isDigit = true := by
    simpa [isDigits] using hdigits
  have hrest : base.toList.reverse.takeWhile Char.isDigit = [] ∧
      base.toList.reverse.dropWhile Char.isDigit = base.toList.reverse := by
    rw [endsInDigit, ← List.head?_reverse] at hbase
    cases hb : base.toList.reverse with
    | nil => exact ⟨rfl, rfl⟩
    | cons d rest =>
      have hd : ¬ d.isDigit = true := by simpa [hb] using hbase
      exact ⟨List.takeWhile_cons_of_neg hd, List.dropWhile_cons_of_neg hd⟩
  simp only [splitSuffix, String.toList_append, List.reverse_append, List.takeWhile_append_of_pos hall,
    List.dropWhile_append_of_pos hall, hrest.1, hrest.2, List.append_nil, List.reverse_reverse,
    String.ofList_toList]

/-- An id of digits alone is its own suffix. -/
theorem base_eq_empty_iff : (splitSuffix id).1 = "" ↔ isDigits id = true := by
  constructor
  · intro h
    have happend := splitSuffix_append id
    rw [h, String.empty_append] at happend
    rw [← happend]
    exact isDigits_suffix id
  · intro h
    have hsplit : splitSuffix ("" ++ id) = ("", id) := splitSuffix_of_append rfl h
    rw [String.empty_append] at hsplit
    rw [hsplit]

theorem suffix_eq_self (h : (splitSuffix id).1 = "") : (splitSuffix id).2 = id := by
  have happend := splitSuffix_append id
  rwa [h, String.empty_append] at happend

/-- A numeral consists of digits. -/
theorem isDigits_numeral (n : Nat) : isDigits (numeral n) = true := by
  rw [isDigits, toList_numeral, List.all_eq_true]
  exact fun d hd => Nat.isDigit_of_mem_toDigits (by decide) (by decide) hd

theorem numeral_ne_empty (n : Nat) : numeral n ≠ "" := by
  intro h
  have hnil := congrArg String.toList h
  rw [toList_numeral] at hnil
  exact Nat.toDigits_ne_nil hnil

theorem endsInDigit_append_numeral (stem : String) (n : Nat) : endsInDigit (stem ++ numeral n) = true := by
  have hne : Nat.toDigits 10 n ≠ [] := Nat.toDigits_ne_nil
  have hlast : (stem ++ numeral n).toList.getLast? = some ((Nat.toDigits 10 n).getLast hne) := by
    rw [String.toList_append, toList_numeral, List.getLast?_append, List.getLast?_eq_some_getLast hne,
      Option.some_or]
  rw [endsInDigit, hlast]
  exact Nat.isDigit_of_mem_toDigits (by decide) (by decide) (List.getLast_mem hne)

end

/-! ### Families -/

/-- Whether a registered id belongs to the family of a claim: its base is the claim, or it has no base
and is the claim. -/
def InFamily (desired id : String) : Prop :=
  if (splitSuffix id).1 = "" then (splitSuffix id).2 = desired else (splitSuffix id).1 = desired
deriving Decidable

/-- The number at the end of an id, of any size; `0` if there is none. -/
def suffixNumber (id : String) : Nat :=
  Nat.ofDigits 10 ((splitSuffix id).2.toList.reverse.map fun d => d.toNat - '0'.toNat)

/-- The ids of a set that belong to the family of a claim. -/
def family (desired : String) (taken : Finset String) : Finset String := taken.filter (InFamily desired)

/-- How a claim is settled next to a set of ids. -/
def nextInFamily (desired : String) (taken : Finset String) : String :=
  if (family desired taken).Nonempty then
    desired ++ toString (min (1 + (family desired taken).sup suffixNumber) (2 ^ 128 - 1))
  else desired

section
variable {desired id : String} {taken : List String}

theorem numeralValue_eq_ofDigits (digits : List Char) :
    numeralValue digits = Nat.ofDigits 10 (digits.reverse.map fun d => d.toNat - '0'.toNat) := by
  -- the last digit counts least
  induction digits using List.reverseRecOn with
  | nil => rfl
  | append_singleton digits d ih =>
    rw [List.reverse_append, List.reverse_singleton, List.singleton_append, List.map_cons,
      Nat.ofDigits_cons, ← ih, numeralValue, Nat.ofDigitChars_append, Nat.ofDigitChars_cons, Nat.add_comm]
    rfl

theorem suffixNumber_eq (id : String) : suffixNumber id = numeralValue (splitSuffix id).2.toList :=
  (numeralValue_eq_ofDigits _).symm

theorem clashValue?_eq (desired id : String) :
    clashValue? desired id =
      if InFamily desired id then some (min (suffixNumber id) suffixLimit) else none := by
  have hclash :
      (if (splitSuffix id).1.isEmpty then (splitSuffix id).2 == desired else (splitSuffix id).1 == desired) =
        decide (InFamily desired id) := by
    simp only [InFamily, String.isEmpty_iff]
    split <;> exact beq_eq_decide _ _
  simp only [clashValue?, hclash, decide_eq_true_eq, suffixValue, suffixNumber_eq]

theorem mem_family : id ∈ family desired taken.toFinset ↔ id ∈ taken ∧ InFamily desired id := by
  simp [family]

private theorem mem_clashValues {value : Nat} : value ∈ taken.filterMap (clashValue? desired) ↔
    ∃ id ∈ family desired taken.toFinset, min (suffixNumber id) suffixLimit = value := by
  simp only [List.mem_filterMap, clashValue?_eq, mem_family]
  constructor
  · rintro ⟨id, hid, hvalue⟩
    split at hvalue
    · exact ⟨id, ⟨hid, ‹_›⟩, Option.some.inj hvalue⟩
    · cases hvalue
  · rintro ⟨id, ⟨hid, hfamily⟩, rfl⟩
    exact ⟨id, hid, if_pos hfamily⟩

/-- Numbers beyond the limit count as the limit one by one, which comes to the same as for the
largest of them. -/
theorem disambiguate_eq_nextInFamily (desired : String) (taken : List String) :
    disambiguate desired taken = nextInFamily desired taken.toFinset := by
  unfold disambiguate nextInFamily
  split
  · rename_i hnone
    rw [List.max?_eq_none_iff] at hnone
    have hempty : ¬ (family desired taken.toFinset).Nonempty := by
      rintro ⟨id, hid⟩
      have hmem := mem_clashValues.2 ⟨id, hid, rfl⟩
      rw [hnone] at hmem
      cases hmem
    rw [if_neg hempty]
  · rename_i top htop
    obtain ⟨hmem, hmax⟩ := List.max?_eq_some_iff.1 htop
    obtain ⟨id, hid, hvalue⟩ := mem_clashValues.1 hmem
    -- the largest value is that of the id with the largest number
    obtain ⟨last, hlast, hsup⟩ := (family desired taken.toFinset).exists_mem_eq_sup ⟨id, hid⟩ suffixNumber
    have hle : suffixNumber id ≤ (family desired taken.toFinset).sup suffixNumber := Finset.le_sup hid
    have hge := hmax _ (mem_clashValues.2 ⟨last, hlast, rfl⟩)
    have hnumber : min (top + 1) suffixLimit =
        min (1 + (family desired taken.toFinset).sup suffixNumber) suffixLimit := by
      rw [← hsup] at hge
      omega
    rw [if_pos ⟨id, hid⟩, hnumber]
    rfl

/-- A claim is settled by its family.  An id is cut before its longest tail of digits.  Where the ids
whose base is the claim, or which have no base and are the claim, are none, the claim is left as it is;
where there are some, it gets one more than the largest of their numbers behind it, but not more than the
limit.  Neither the order of the ids matters nor how often one occurs. -/
theorem disambiguation_goes_by_family (desired : String) (taken : List String) :
    (∀ id base suffix, splitSuffix id = (base, suffix) ↔ DigitTail id base suffix) ∧
    disambiguate desired taken = nextInFamily desired taken.toFinset ∧
    ∀ taken' : List String, (∀ id, id ∈ taken' ↔ id ∈ taken) →
      disambiguate desired taken' = disambiguate desired taken := by
  refine ⟨fun _ _ _ => splitSuffix_eq_iff, disambiguate_eq_nextInFamily desired taken, fun taken' hsame => ?_⟩
  have hset : taken'.toFinset = taken.toFinset := by
    ext id
    simpa using hsame id
  rw [disambiguate_eq_nextInFamily, disambiguate_eq_nextInFamily, hset]

/-- A number with leading zeros is the largest, wherever it stands. -/
theorem disambiguation_goes_by_family_shuffled :
    let taken := ["cam", "cam0012", "hall99", "cam7"]
    let taken' := ["cam7", "cam0012", "cam7", "hall99", "cam"]
    (∀ id, id ∈ taken' ↔ id ∈ taken) ∧ disambiguate "cam" taken = "cam13" ∧
      disambiguate "cam" taken' = "cam13" := by
  intro taken taken'
  have hsame : ∀ id, id ∈ taken' ↔ id ∈ taken := by
    intro id
    simp only [taken, taken', List.mem_cons, List.not_mem_nil, or_false]
    tauto
  have hsettled : disambiguate "cam" taken = "cam13" := by decide +kernel
  exact ⟨hsame, hsettled, ((disambiguation_goes_by_family "cam" taken).2.2 taken' hsame).trans hsettled⟩

/-! ### Kinds of claims -/

theorem endsInDigit_of_isDigits (h : isDigits id = true) (hne : id ≠ "") : endsInDigit id = true := by
  have hlist : id.toList ≠ [] := fun hnil => hne (String.toList_eq_nil_iff.1 hnil)
  rw [endsInDigit, List.getLast?_eq_some_getLast hlist]
  exact List.all_eq_true.1 h _ (List.getLast_mem hlist)

/-- The family of a claim that consists of digits is the claim. -/
theorem inFamily_iff_of_isDigits (h : isDigits desired = true) : InFamily desired id ↔ id = desired := by
  unfold InFamily
  split
  · rename_i hbase
    rw [suffix_eq_self hbase]
  · rename_i hbase
    constructor
    · rintro rfl
      have hend := endsInDigit_of_isDigits h hbase
      rw [endsInDigit_base] at hend
      cases hend
    · rintro rfl
      exact absurd (base_eq_empty_iff.2 h) hbase

/-- Any other claim that ends in a digit has no family, since no base ends in one. -/
theorem not_inFamily_of_endsInDigit (hend : endsInDigit desired = true) (hword : isDigits desired = false) :
    ¬ InFamily desired id := by
  unfold InFamily
  split
  · rintro rfl
    rw [isDigits_suffix] at hword
    cases hword
  · rintro rfl
    rw [endsInDigit_base] at hend
    cases hend

/-- The family of a claim that does not end in a digit is the claim with numbers behind it. -/
theorem inFamily_iff_of_word (hne : desired ≠ "") (hend : endsInDigit desired = false) :
    InFamily desired id ↔ (splitSuffix id).1 = desired := by
  unfold InFamily
  split
  · rename_i hbase
    rw [hbase]
    refine ⟨?_, fun h => absurd h.symm hne⟩
    rintro rfl
    rw [endsInDigit_of_isDigits (isDigits_suffix id) hne] at hend
    cases hend
  · rfl

/-- A claim without a family is left as it is. -/
theorem disambiguate_of_not_inFamily (h : ∀ id ∈ taken, ¬ InFamily desired id) :
    disambiguate desired taken = desired := by
  rw [disambiguate_eq_nextInFamily, nextInFamily]
  refine if_neg ?_
  rintro ⟨id, hid⟩
  obtain ⟨hmem, hfamily⟩ := mem_family.1 hid
  exact h id hmem hfamily

theorem disambiguate_of_inFamily (h : ∃ id ∈ taken, InFamily desired id) : disambiguate desired taken =
    desired ++ toString (min (1 + (family desired taken.toFinset).sup suffixNumber) (2 ^ 128 - 1)) := by
  obtain ⟨id, hid⟩ := h
  rw [disambiguate_eq_nextInFamily, nextInFamily, if_pos ⟨id, mem_family.2 hid⟩]

/-- A claim is left as it is only if it has no family. -/
theorem disambiguate_eq_self_iff :
    disambiguate desired taken = desired ↔ ∀ id ∈ taken, ¬ InFamily desired id := by
  refine ⟨fun hself id hid hin => ?_, disambiguate_of_not_inFamily⟩
  rw [disambiguate_of_inFamily ⟨id, hid, hin⟩, String.append_eq_left_iff] at hself
  exact numeral_ne_empty _ hself

/-- Only the empty claim can come to the empty id. -/
theorem eq_empty_of_disambiguate (h : disambiguate desired taken = "") : desired = "" := by
  by_cases hsome : ∃ id ∈ taken, InFamily desired id
  · rw [disambiguate_of_inFamily hsome, String.append_eq_empty_iff] at h
    exact h.1
  · rwa [disambiguate_of_not_inFamily fun id hid hin => hsome ⟨id, hid, hin⟩] at h

theorem disambiguate_of_isDigits (h : isDigits desired = true) (hmem : desired ∈ taken) :
    disambiguate desired taken = desired ++ toString (min (1 + suffixNumber desired) (2 ^ 128 - 1)) := by
  have hfamily : family desired taken.toFinset = {desired} := by
    ext id
    rw [mem_family, inFamily_iff_of_isDigits h, Finset.mem_singleton]
    exact ⟨And.right, fun hid => ⟨hid ▸ hmem, hid⟩⟩
  rw [disambiguate_of_inFamily ⟨desired, hmem, (inFamily_iff_of_isDigits h).2 rfl⟩, hfamily,
    Finset.sup_singleton]

theorem disambiguate_of_numbered (hend : endsInDigit desired = true) (hword : isDigits desired = false) :
    disambiguate desired taken = desired :=
  disambiguate_of_not_inFamily fun _ _ => not_inFamily_of_endsInDigit hend hword

/-- A free claim that ends in a digit is left as it is. -/
theorem disambiguate_of_endsInDigit (hend : endsInDigit desired = true) (hfree : desired ∉ taken) :
    disambiguate desired taken = desired := by
  by_cases hdigits : isDigits desired = true
  · exact disambiguate_of_not_inFamily fun id hid hfamily =>
      hfree ((inFamily_iff_of_isDigits hdigits).1 hfamily ▸ hid)
  · exact disambiguate_of_numbered hend (Bool.eq_false_iff.2 hdigits)

end

end SignalRelay
