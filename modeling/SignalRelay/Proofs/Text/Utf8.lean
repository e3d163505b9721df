import Mathlib.Tactic.SplitIfs
import SignalRelay.Text.Utf8

/-!
# Decoding inverts encoding

Octets are decoded to a text exactly if they are the encoding of that text.

* `front_append` and `eq_append_of_front` are the two directions for one character.  Overlong forms,
  surrogates and numbers that are too large are left out by the second octet, and no other range is looked at.
* `decode_eq_ok_iff` is the result for whole texts.
-/

namespace SignalRelay.Utf8

/-! ### Encoding -/

private theorem toList_loop (octets : ByteArray) (i : Nat) (before : List UInt8) :
    ByteArray.toList.loop octets i before = before.reverse ++ octets.data.toList.drop i := by
  induction hn : octets.size - i generalizing i before with
  | zero =>
    have hsize : octets.data.toList.length ≤ i := by
      rw [Array.length_toList, ByteArray.size_data]
      omega
    rw [ByteArray.toList.loop, if_neg (by omega), List.drop_eq_nil_of_le hsize, List.append_nil]
  | succ n ih =>
    have hi : i < octets.data.toList.length := by
      rw [Array.length_toList, ByteArray.size_data]
      omega
    have hget : octets.get! i = octets.data.toList[i] := getElem!_pos octets.data i hi
    rw [ByteArray.toList.loop, if_pos (by omega), ih _ _ (by omega), hget, List.drop_eq_getElem_cons hi]
    simp

/-- A text is encoded character by character. -/
theorem encode_eq (s : String) : encode s = s.toList.flatMap String.utf8EncodeChar := by
  have hdata : s.toUTF8 = (s.toList.flatMap String.utf8EncodeChar).toByteArray :=
    String.utf8Encode_toList.symm
  rw [encode, ByteArray.toList, toList_loop, hdata, List.toList_data_toByteArray]
  simp

/-! ### One character -/

private theorem toNat_ofNat_octet {n : Nat} (hn : n < 256) : (UInt8.ofNat n).toNat = n := by
  rw [UInt8.toNat_ofNat', Nat.mod_eq_of_lt hn]

private theorem ofNat_eq_octet {n : Nat} {b : UInt8} (h : n = b.toNat) : UInt8.ofNat n = b := by
  rw [h, UInt8.ofNat_toNat]

private theorem toNat_ofNat_char {n : Nat} (hn : n < 0xD800 ∨ 0xDFFF < n ∧ n < 0x110000) :
    (Char.ofNat n).toNat = n := by
  rw [Char.ofNat, dif_pos hn]
  rfl

private theorem isTail_iff {b : UInt8} : isTail b = true ↔ 0x80 ≤ b.toNat ∧ b.toNat ≤ 0xBF := by
  simp [isTail, UInt8.le_iff_toNat_le]

/-- No overlong form begins so, and no surrogate. -/
private theorem isSecondOfThree_iff {a b : UInt8} : isSecondOfThree a b = true ↔
    0x80 ≤ b.toNat ∧ b.toNat ≤ 0xBF ∧ (a.toNat = 0xE0 → 0xA0 ≤ b.toNat) ∧
      (a.toNat = 0xED → b.toNat ≤ 0x9F) := by
  have hE0 : a = 0xE0 ↔ a.toNat = 0xE0 := UInt8.toNat_inj.symm
  have hED : a = 0xED ↔ a.toNat = 0xED := UInt8.toNat_inj.symm
  simp only [isSecondOfThree, hE0, hED]
  split_ifs <;> simp only [Bool.and_eq_true, decide_eq_true_eq, UInt8.le_iff_toNat_le, UInt8.reduceToNat,
    isTail_iff] <;>
    omega

/-- No overlong form begins so, and no number that is too large. -/
private theorem isSecondOfFour_iff {a b : UInt8} : isSecondOfFour a b = true ↔
    0x80 ≤ b.toNat ∧ b.toNat ≤ 0xBF ∧ (a.toNat = 0xF0 → 0x90 ≤ b.toNat) ∧
      (a.toNat = 0xF4 → b.toNat ≤ 0x8F) := by
  have hF0 : a = 0xF0 ↔ a.toNat = 0xF0 := UInt8.toNat_inj.symm
  have hF4 : a = 0xF4 ↔ a.toNat = 0xF4 := UInt8.toNat_inj.symm
  simp only [isSecondOfFour, hF0, hF4]
  split_ifs <;> simp only [Bool.and_eq_true, decide_eq_true_eq, UInt8.le_iff_toNat_le, UInt8.reduceToNat,
    isTail_iff] <;>
    omega

/-- The first octet says how many octets there are. -/
private theorem front_eq (a : UInt8) (octets : List UInt8) :
    front a octets =
      if a.toNat < 0x80 then .char (Char.ofNat a.toNat) octets
      else if 0xC2 ≤ a.toNat ∧ a.toNat ≤ 0xDF then twoOctets a octets
      else if 0xE0 ≤ a.toNat ∧ a.toNat ≤ 0xEF then threeOctets a octets
      else if 0xF0 ≤ a.toNat ∧ a.toNat ≤ 0xF4 then fourOctets a octets
      else .invalid 1 := by
  simp only [front, UInt8.lt_iff_toNat_lt, UInt8.le_iff_toNat_le, UInt8.reduceToNat]

section
variable {c : Char}

private theorem encodeChar_one (hc : c.toNat < 0x80) : String.utf8EncodeChar c = [.ofNat c.toNat] :=
  if_pos (Nat.le_of_lt_succ hc)

private theorem encodeChar_two (hc : 0x80 ≤ c.toNat) (hc' : c.toNat < 0x800) :
    String.utf8EncodeChar c = [.ofNat (c.toNat / 64 % 32 + 192), .ofNat (c.toNat % 64 + 128)] :=
  (if_neg (Nat.not_le.2 hc)).trans (if_pos (Nat.le_of_lt_succ hc'))

private theorem encodeChar_three (hc : 0x800 ≤ c.toNat) (hc' : c.toNat < 0x10000) :
    String.utf8EncodeChar c =
      [.ofNat (c.toNat / 4096 % 16 + 224), .ofNat (c.toNat / 64 % 64 + 128), .ofNat (c.toNat % 64 + 128)] :=
  (if_neg (by change ¬ c.toNat ≤ _; omega)).trans
    ((if_neg (Nat.not_le.2 hc)).trans (if_pos (Nat.le_of_lt_succ hc')))

private theorem encodeChar_four (hc : 0x10000 ≤ c.toNat) :
    String.utf8EncodeChar c =
      [.ofNat (c.toNat / 262144 % 8 + 240), .ofNat (c.toNat / 4096 % 64 + 128),
        .ofNat (c.toNat / 64 % 64 + 128),
        .ofNat (c.toNat % 64 + 128)] :=
  (if_neg (by change ¬ c.toNat ≤ _; omega)).trans
    ((if_neg (by change ¬ c.toNat ≤ _; omega)).trans (if_neg (Nat.not_le.2 hc)))

/-- An encoded character is found at the front. -/
theorem front_append (c : Char) :
    ∃ a octets, String.utf8EncodeChar c = a :: octets ∧ ∀ rest, front a (octets ++ rest) = .char c rest := by
  have hvalid : c.toNat < 0xD800 ∨ 0xDFFF < c.toNat ∧ c.toNat < 0x110000 := c.valid
  have htail : (UInt8.ofNat (c.toNat % 64 + 128)).toNat = c.toNat % 64 + 128 := toNat_ofNat_octet (by omega)
  have hmiddle : (UInt8.ofNat (c.toNat / 64 % 64 + 128)).toNat = c.toNat / 64 % 64 + 128 :=
    toNat_ofNat_octet (by omega)
  rcases Nat.lt_or_ge c.toNat 0x80 with hone | hone
  · refine ⟨_, _, encodeChar_one hone, fun rest => ?_⟩
    rw [front_eq, toNat_ofNat_octet (by omega), if_pos hone, Char.ofNat_toNat]
    rfl
  rcases Nat.lt_or_ge c.toNat 0x800 with htwo | htwo
  · refine ⟨_, _, encodeChar_two hone htwo, fun rest => ?_⟩
    have hfirst : (UInt8.ofNat (c.toNat / 64 % 32 + 192)).toNat = c.toNat / 64 % 32 + 192 :=
      toNat_ofNat_octet (by omega)
    have hchar : (c.toNat / 64 % 32 + 192) % 32 * 64 + (c.toNat % 64 + 128) % 64 = c.toNat := by omega
    rw [front_eq, hfirst, if_neg (by omega), if_pos (by omega), List.singleton_append, twoOctets,
      if_pos (isTail_iff.2 (by omega)), tailBits, hfirst, htail, hchar, Char.ofNat_toNat]
  rcases Nat.lt_or_ge c.toNat 0x10000 with hthree | hthree
  · refine ⟨_, _, encodeChar_three htwo hthree, fun rest => ?_⟩
    have hfirst : (UInt8.ofNat (c.toNat / 4096 % 16 + 224)).toNat = c.toNat / 4096 % 16 + 224 :=
      toNat_ofNat_octet (by omega)
    have hchar : ((c.toNat / 4096 % 16 + 224) % 16 * 64 + (c.toNat / 64 % 64 + 128) % 64) * 64 +
        (c.toNat % 64 + 128) % 64 = c.toNat := by omega
    rw [front_eq, hfirst, if_neg (by omega), if_neg (by omega), if_pos (by omega)]
    simp only [List.cons_append, List.nil_append, threeOctets]
    rw [if_pos (isSecondOfThree_iff.2 (by omega)), if_pos (isTail_iff.2 (by omega)), tailBits, tailBits,
      hfirst, hmiddle, htail, hchar, Char.ofNat_toNat]
  · refine ⟨_, _, encodeChar_four hthree, fun rest => ?_⟩
    have hfirst : (UInt8.ofNat (c.toNat / 262144 % 8 + 240)).toNat = c.toNat / 262144 % 8 + 240 :=
      toNat_ofNat_octet (by omega)
    have hsecond : (UInt8.ofNat (c.toNat / 4096 % 64 + 128)).toNat = c.toNat / 4096 % 64 + 128 :=
      toNat_ofNat_octet (by omega)
    have hchar : (((c.toNat / 262144 % 8 + 240) % 8 * 64 + (c.toNat / 4096 % 64 + 128) % 64) * 64 +
        (c.toNat / 64 % 64 + 128) % 64) * 64 + (c.toNat % 64 + 128) % 64 = c.toNat := by omega
    rw [front_eq, hfirst, if_neg (by omega), if_neg (by omega), if_neg (by omega), if_pos (by omega)]
    simp only [List.cons_append, List.nil_append, fourOctets]
    rw [if_pos (isSecondOfFour_iff.2 (by omega)), if_pos (isTail_iff.2 (by omega)),
      if_pos (isTail_iff.2 (by omega)), tailBits, tailBits, tailBits, hfirst, hsecond, hmiddle, htail,
      hchar, Char.ofNat_toNat]

end

section
variable {a : UInt8} {octets rest : List UInt8} {c : Char}

private theorem eq_append_of_two (ha : 0xC2 ≤ a.toNat ∧ a.toNat ≤ 0xDF)
    (h : twoOctets a octets = .char c rest) :
    a :: octets = String.utf8EncodeChar c ++ rest := by
  unfold twoOctets at h
  split at h
  · cases h
  · rename_i b rest
    split at h
    · rename_i hb
      obtain ⟨rfl, rfl⟩ := Front.char.inj h
      rw [isTail_iff] at hb
      have hc := toNat_ofNat_char (n := a.toNat % 32 * 64 + tailBits b) (by unfold tailBits; omega)
      rw [encodeChar_two (by rw [hc]; unfold tailBits; omega) (by rw [hc]; unfold tailBits; omega), hc]
      simp only [List.cons_append, List.nil_append, tailBits]
      rw [ofNat_eq_octet (b := a) (by omega), ofNat_eq_octet (b := b) (by omega)]
    · cases h

private theorem eq_append_of_three (ha : 0xE0 ≤ a.toNat ∧ a.toNat ≤ 0xEF)
    (h : threeOctets a octets = .char c rest) :
    a :: octets = String.utf8EncodeChar c ++ rest := by
  match octets with
  | [] => cases h
  | [b] =>
    rw [threeOctets] at h
    split at h <;> cases h
  | b :: b' :: octets =>
    simp only [threeOctets] at h
    split_ifs at h with hb hb'
    obtain ⟨rfl, rfl⟩ := Front.char.inj h
    rw [isSecondOfThree_iff] at hb
    rw [isTail_iff] at hb'
    have hc := toNat_ofNat_char (n := (a.toNat % 16 * 64 + tailBits b) * 64 + tailBits b')
      (by unfold tailBits; omega)
    rw [encodeChar_three (by rw [hc]; unfold tailBits; omega) (by rw [hc]; unfold tailBits; omega), hc]
    simp only [List.cons_append, List.nil_append, tailBits]
    rw [ofNat_eq_octet (b := a) (by omega), ofNat_eq_octet (b := b) (by omega),
      ofNat_eq_octet (b := b') (by omega)]

private theorem eq_append_of_four (ha : 0xF0 ≤ a.toNat ∧ a.toNat ≤ 0xF4)
    (h : fourOctets a octets = .char c rest) :
    a :: octets = String.utf8EncodeChar c ++ rest := by
  match octets with
  | [] => cases h
  | [b] =>
    rw [fourOctets] at h
    split at h <;> cases h
  | [b, b'] =>
    simp only [fourOctets] at h
    split_ifs at h
  | b :: b' :: b'' :: octets =>
    simp only [fourOctets] at h
    split_ifs at h with hb hb' hb''
    obtain ⟨rfl, rfl⟩ := Front.char.inj h
    rw [isSecondOfFour_iff] at hb
    rw [isTail_iff] at hb' hb''
    have hc :=
      toNat_ofNat_char (n := ((a.toNat % 8 * 64 + tailBits b) * 64 + tailBits b') * 64 + tailBits b'')
        (by unfold tailBits; omega)
    rw [encodeChar_four (by rw [hc]; unfold tailBits; omega), hc]
    simp only [List.cons_append, List.nil_append, tailBits]
    rw [ofNat_eq_octet (b := a) (by omega), ofNat_eq_octet (b := b) (by omega),
      ofNat_eq_octet (b := b') (by omega),
      ofNat_eq_octet (b := b'') (by omega)]

/-- What is found at the front is an encoded character. -/
theorem eq_append_of_front (h : front a octets = .char c rest) :
    a :: octets = String.utf8EncodeChar c ++ rest := by
  rw [front_eq] at h
  split_ifs at h with hone htwo hthree hfour
  · obtain ⟨rfl, rfl⟩ := Front.char.inj h
    have hc := toNat_ofNat_char (n := a.toNat) (by omega)
    rw [encodeChar_one (by rw [hc]; exact hone), hc, ofNat_eq_octet rfl]
    rfl
  · exact eq_append_of_two htwo h
  · exact eq_append_of_three hthree h
  · exact eq_append_of_four hfour h

end

/-! ### Texts -/

private theorem eq_flatMap_of_decodeFrom {fuel index : Nat} {octets : List UInt8} {cs : List Char}
    (h : decodeFrom fuel index octets = .ok cs) : octets = cs.flatMap String.utf8EncodeChar := by
  induction fuel generalizing index octets cs with
  | zero =>
    cases octets with
    | nil =>
      obtain rfl := Except.ok.inj h
      rfl
    | cons a octets => cases h
  | succ fuel ih =>
    cases octets with
    | nil =>
      obtain rfl := Except.ok.inj h
      rfl
    | cons a octets =>
      rw [decodeFrom] at h
      split at h
      · rename_i c rest hfront
        cases hrest : decodeFrom fuel (index + c.utf8Size) rest with
        | error e =>
          rw [hrest] at h
          cases h
        | ok cs =>
          rw [hrest] at h
          obtain rfl := Except.ok.inj h
          rw [eq_append_of_front hfront, List.flatMap_cons, ← ih hrest]
      · cases h
      · cases h

private theorem decodeFrom_flatMap (cs : List Char) {fuel : Nat} (hfuel : cs.length ≤ fuel) (index : Nat) :
    decodeFrom fuel index (cs.flatMap String.utf8EncodeChar) = .ok cs := by
  induction cs generalizing fuel index with
  | nil => cases fuel <;> rfl
  | cons c cs ih =>
    obtain ⟨fuel, rfl⟩ : ∃ n, fuel = n + 1 := ⟨fuel - 1, by simp at hfuel; omega⟩
    obtain ⟨a, octets, hc, hfront⟩ := front_append c
    rw [List.flatMap_cons, hc, List.cons_append, decodeFrom, hfront]
    simp only [ih (Nat.le_of_succ_le_succ hfuel), Except.map]

private theorem length_le_flatMap (cs : List Char) :
    cs.length ≤ (cs.flatMap String.utf8EncodeChar).length := by
  induction cs with
  | nil => simp
  | cons c cs ih =>
    obtain ⟨a, octets, hc, -⟩ := front_append c
    simp only [List.flatMap_cons, hc, List.cons_append, List.length_cons, List.length_append]
    omega

/-- Octets are decoded to the text that they encode, and to nothing else. -/
theorem decode_eq_ok_iff {octets : List UInt8} {s : String} : decode octets = .ok s ↔ octets = encode s := by
  rw [encode_eq]
  constructor
  · intro h
    cases hcs : decodeFrom octets.length 0 octets with
    | error e =>
      rw [decode, hcs] at h
      cases h
    | ok cs =>
      rw [decode, hcs] at h
      obtain rfl := Except.ok.inj h
      rw [String.toList_ofList]
      exact eq_flatMap_of_decodeFrom hcs
  · rintro rfl
    rw [decode, decodeFrom_flatMap _ (length_le_flatMap _)]
    simp only [Except.map, String.ofList_toList]

end SignalRelay.Utf8
