import SignalRelay.Proofs.Json.Evaluation

/-!
# What is read is JSON text

Nothing is read but text that follows the grammar: whatever a reader takes from the front of a text,
blanks apart, is the text of a document.  So no text that is read is left out where all texts of
documents are spoken of.

* `exists_spellsUnits` and `spells_of_scanNumber` are the parts about strings and numbers.
* `Accepts` is the property of readers, and `AcceptsMember` that of readers of what stands behind a name.
  `spellsItems_of_elements` and `spellsMembers_of_members` are the loops.
* `accepts_value` is the result for any value.
-/

namespace SignalRelay

namespace Json

/-! ### Strings -/

private theorem hexValue?_lt {c : Char} {v : Nat} (h : hexValue? c = some v) : v < 16 := by
  have hle : ∀ a b : Char, a ≤ b ↔ a.toNat ≤ b.toNat := fun _ _ => Iff.rfl
  simp only [hexValue?, hle] at h
  split_ifs at h with hdigit hlower hupper <;> obtain rfl := Option.some.inj h
  · have hnine : '9'.toNat = '0'.toNat + 9 := rfl
    omega
  · have hsix : 'f'.toNat = 'a'.toNat + 5 := rfl
    omega
  · have hsix : 'F'.toNat = 'A'.toNat + 5 := rfl
    omega

private theorem hexUnit?_lt {a b c d : Char} {n : Nat} (h : hexUnit? a b c d = some n) : n < 0x10000 := by
  simp only [hexUnit?, Option.bind_eq_bind, Option.bind_eq_some_iff, Option.pure_def, Option.some.injEq] at h
  obtain ⟨a', ha, b', hb, c', hc, d', hd, rfl⟩ := h
  have := hexValue?_lt ha
  have := hexValue?_lt hb
  have := hexValue?_lt hc
  have := hexValue?_lt hd
  omega

private theorem of_hexQuad {cs rest : List Char} {n : Nat} (h : hexQuad cs = .ok (n, rest)) :
    ∃ (a b c d : Char) (u : UInt16), cs = a :: b :: c :: d :: rest ∧ hexUnit? a b c d = some u.toNat ∧
      u.toNat = n := by
  unfold hexQuad at h
  split at h
  · rename_i a b c d rest'
    split at h
    · rename_i n' hunit
      obtain ⟨rfl, rfl⟩ := Prod.mk.inj (Except.ok.inj h)
      have hu := UInt16.toNat_ofNat_of_lt' (hexUnit?_lt hunit)
      exact ⟨a, b, c, d, .ofNat n', rfl, hu.symm ▸ hunit, hu⟩
    · cases h
  · cases h

/-- An escape may stand in front of the text of any units. -/
private theorem of_escaped {cs rest : List Char} {c : Char} (h : escaped cs = .ok (c, rest)) :
    ∃ escape, cs = escape ++ rest ∧
      ∀ us inside, SpellsUnits us inside → ∃ us', SpellsUnits us' ('\\' :: (escape ++ inside)) := by
  unfold escaped at h
  split at h
  · cases h
  rename_i e cs
  split at h
  · rename_i c' he
    obtain ⟨rfl, rfl⟩ := Prod.mk.inj (Except.ok.inj h)
    exact ⟨[e], rfl, fun us inside hinside => ⟨_, .short he hinside⟩⟩
  split at h
  · rename_i he
    subst he
    obtain ⟨⟨n, cs⟩, hquad, h⟩ := of_bind_eq_ok h
    obtain ⟨a, b, c', d, u, rfl, hu, rfl⟩ := of_hexQuad hquad
    simp only at h
    split at h
    · cases h
    split at h
    · -- a pair of escapes
      split at h
      · cases h
      · cases h
      · obtain ⟨⟨n', cs'⟩, hquad', h⟩ := of_bind_eq_ok h
        obtain ⟨a', b', c'', d', u', rfl, hu', rfl⟩ := of_hexQuad hquad'
        simp only at h
        split at h
        · obtain ⟨-, rfl⟩ := Prod.mk.inj (Except.ok.inj h)
          exact ⟨'u' :: a :: b :: c' :: d :: '\\' :: 'u' :: a' :: b' :: c'' :: d' :: [], rfl,
            fun us inside hinside => ⟨_, .code hu (.code hu' hinside)⟩⟩
        · cases h
      · cases h
    · obtain ⟨-, rfl⟩ := Prod.mk.inj (Except.ok.inj h)
      exact ⟨'u' :: a :: b :: c' :: d :: [], rfl, fun us inside hinside => ⟨_, .code hu hinside⟩⟩
  · cases h

private theorem exists_spellsUnits {fuel : Nat} {cs rest ds : List Char}
    (h : stringChars fuel cs = .ok (ds, rest)) :
    ∃ us inside, SpellsUnits us inside ∧ cs = inside ++ '"' :: rest := by
  induction fuel generalizing cs ds with
  | zero => cases h
  | succ fuel ih =>
    cases cs with
    | nil => cases h
    | cons c cs =>
      rw [stringChars] at h
      split_ifs at h with hquote hsolidus hcontrol
      · obtain ⟨-, rfl⟩ := Prod.mk.inj (Except.ok.inj h)
        exact ⟨[], [], .nil, by rw [hquote]; rfl⟩
      · obtain ⟨⟨d, cs'⟩, hescaped, h⟩ := of_bind_eq_ok h
        obtain ⟨⟨ds', rest'⟩, hrest, h⟩ := of_bind_eq_ok h
        obtain ⟨-, rfl⟩ := Prod.mk.inj (Except.ok.inj h)
        obtain ⟨escape, rfl, hspells⟩ := of_escaped hescaped
        obtain ⟨us, inside, hinside, rfl⟩ := ih hrest
        obtain ⟨us', hus'⟩ := hspells us inside hinside
        exact ⟨us', _, hus', by simp [hsolidus]⟩
      · obtain ⟨⟨ds', rest'⟩, hrest, h⟩ := of_bind_eq_ok h
        obtain ⟨-, rfl⟩ := Prod.mk.inj (Except.ok.inj h)
        obtain ⟨us, inside, hinside, rfl⟩ := ih hrest
        exact ⟨_, _, .plain (by omega) hquote hsolidus hinside, rfl⟩

/-- What is read behind a quote is the text of a string. -/
theorem spellsString_of_stringBody {cs rest : List Char} {s : String} (h : stringBody cs = .ok (s, rest)) :
    ∃ us text, SpellsString us text ∧ '"' :: cs = text ++ rest := by
  obtain ⟨⟨ds, rest'⟩, hchars, h⟩ := of_bind_eq_ok h
  obtain ⟨-, rfl⟩ := Prod.mk.inj (Except.ok.inj h)
  obtain ⟨us, inside, hinside, rfl⟩ := exists_spellsUnits hchars
  exact ⟨us, _, ⟨inside, hinside, rfl⟩, by simp⟩

/-! ### Numbers -/

section
variable {cs rest ds : List Char}

private theorem of_digits (h : digits cs = .ok (ds, rest)) : Digits ds ∧ cs = ds ++ rest := by
  cases cs with
  | nil => cases h
  | cons c cs =>
    rw [digits] at h
    split_ifs at h with hc
    obtain ⟨rfl, rfl⟩ := Prod.mk.inj (Except.ok.inj h)
    refine ⟨⟨by simp, List.forall_mem_cons.2 ⟨hc, fun d hd => ?_⟩⟩, ?_⟩
    · exact List.all_eq_true.1 List.all_takeWhile d hd
    · rw [List.cons_append, List.takeWhile_append_dropWhile]

private theorem of_wholePart (h : wholePart cs = .ok (ds, rest)) :
    Digits ds ∧ (ds = ['0'] ∨ ds.head? ≠ some '0') ∧ cs = ds ++ rest := by
  unfold wholePart at h
  split at h
  · rename_i c cs
    split_ifs at h
    obtain ⟨rfl, rfl⟩ := Prod.mk.inj (Except.ok.inj h)
    exact ⟨⟨by simp, by simp⟩, .inl rfl, rfl⟩
  · rename_i hother
    obtain ⟨hdigits, rfl⟩ := of_digits h
    refine ⟨hdigits, ?_, rfl⟩
    by_cases hzero : ds.head? = some '0'
    · -- a zero is read so only if nothing stands behind it
      obtain ⟨ds, rfl⟩ := List.head?_eq_some_iff.1 hzero
      cases hds : ds ++ rest with
      | nil => exact .inl (by rw [(List.append_eq_nil_iff.1 hds).1])
      | cons c cs => exact absurd (by rw [List.cons_append, hds]) (hother c cs)
    · exact .inr hzero

private theorem of_fractionPart {f? : Option (List Char)} (h : fractionPart cs = .ok (f?, rest)) :
    ∃ text, SpellsFraction f? text ∧ cs = text ++ rest := by
  unfold fractionPart at h
  split at h
  · obtain ⟨⟨ds, rest'⟩, hdigits, h⟩ := of_bind_eq_ok h
    obtain ⟨rfl, rfl⟩ := Prod.mk.inj (Except.ok.inj h)
    obtain ⟨hds, rfl⟩ := of_digits hdigits
    exact ⟨_, ⟨hds, rfl⟩, rfl⟩
  · obtain ⟨rfl, rfl⟩ := Prod.mk.inj (Except.ok.inj h)
    exact ⟨[], rfl, rfl⟩

private theorem of_signedExponent {negative : Bool} (h : signedExponent cs = .ok ((negative, ds), rest)) :
    ∃ sign, SpellsSign negative sign ∧ Digits ds ∧ cs = sign ++ (ds ++ rest) := by
  unfold signedExponent at h
  split at h <;> obtain ⟨⟨ds, rest'⟩, hdigits, h⟩ := of_bind_eq_ok h <;>
    obtain ⟨he, rfl⟩ := Prod.mk.inj (Except.ok.inj h) <;> obtain ⟨rfl, rfl⟩ := Prod.mk.inj he <;>
    obtain ⟨hds, rfl⟩ := of_digits hdigits
  · exact ⟨_, .plus, hds, rfl⟩
  · exact ⟨_, .minus, hds, rfl⟩
  · exact ⟨_, .none, hds, rfl⟩

private theorem of_exponentPart {e? : Option (Bool × List Char)} (h : exponentPart cs = .ok (e?, rest)) :
    ∃ text, SpellsExponent e? text ∧ cs = text ++ rest := by
  cases cs with
  | nil =>
    obtain ⟨rfl, rfl⟩ := Prod.mk.inj (Except.ok.inj h)
    exact ⟨[], rfl, rfl⟩
  | cons c cs =>
    rw [exponentPart] at h
    split_ifs at h with hc
    · obtain ⟨⟨⟨negative, ds⟩, rest'⟩, hsigned, h⟩ := of_bind_eq_ok h
      obtain ⟨rfl, rfl⟩ := Prod.mk.inj (Except.ok.inj h)
      obtain ⟨sign, hsign, hds, rfl⟩ := of_signedExponent hsigned
      exact ⟨_, ⟨hds, c, sign, hc, hsign, rfl⟩, by simp⟩
    · obtain ⟨rfl, rfl⟩ := Prod.mk.inj (Except.ok.inj h)
      exact ⟨[], rfl, rfl⟩

private theorem of_unsignedNumber {negative : Bool} {w : WrittenNumber}
    (h : unsignedNumber negative cs = .ok (w, rest)) :
    ∃ text, SpellsNumber w ((if negative then ['-'] else []) ++ text) ∧ cs = text ++ rest := by
  obtain ⟨⟨whole, cs'⟩, hwhole, h⟩ := of_bind_eq_ok h
  obtain ⟨⟨fraction, cs''⟩, hfraction, h⟩ := of_bind_eq_ok h
  obtain ⟨⟨exponent, rest'⟩, hexponent, h⟩ := of_bind_eq_ok h
  obtain ⟨rfl, rfl⟩ := Prod.mk.inj (Except.ok.inj h)
  obtain ⟨hdigits, hzero, rfl⟩ := of_wholePart hwhole
  obtain ⟨ftext, hftext, rfl⟩ := of_fractionPart hfraction
  obtain ⟨etext, hetext, rfl⟩ := of_exponentPart hexponent
  exact ⟨whole ++ (ftext ++ etext), ⟨hdigits, hzero, ftext, etext, hftext, hetext, rfl⟩, by simp⟩

theorem spells_of_scanNumber {w : WrittenNumber} (h : scanNumber cs = .ok (w, rest)) :
    ∃ text, SpellsNumber w text ∧ cs = text ++ rest := by
  unfold scanNumber at h
  split at h <;> obtain ⟨text, htext, rfl⟩ := of_unsignedNumber h
  · exact ⟨_, htext, rfl⟩
  · exact ⟨_, htext, rfl⟩

end

/-! ### Blanks -/

/-- Blanks that are passed over. -/
theorem exists_blanks (cs : List Char) : ∃ ws, Blanks ws ∧ cs = ws ++ skipBlank cs :=
  ⟨cs.takeWhile isBlank, fun _ hc => List.all_eq_true.1 List.all_takeWhile _ hc,
    List.takeWhile_append_dropWhile.symm⟩

theorem Blanks.append {ws ws' : List Char} (h : Blanks ws) (h' : Blanks ws') : Blanks (ws ++ ws') :=
  List.forall_mem_append.2 ⟨h, h'⟩

/-- Blanks may stand behind a comma. -/
theorem Lead.append {first : Bool} {lead ws : List Char} (h : Lead first lead) (hws : Blanks ws) :
    Lead first (lead ++ ws) := by
  cases first with
  | true => exact Blanks.append h hws
  | false =>
    obtain ⟨before, behind, hbefore, hbehind, rfl⟩ := h
    exact ⟨before, behind ++ ws, hbefore, hbehind.append hws, by simp⟩

/-- Where a loop goes on. -/
theorem advance_cases {close : Char} {first : Bool} {cs : List Char} {place : Place}
    (h : advance close first cs = .ok place) :
    (∃ ws rest, place = .closed rest ∧ Blanks ws ∧ cs = ws ++ close :: rest) ∨
      ∃ lead rest, place = .item rest ∧ Lead first lead ∧ cs = lead ++ rest := by
  obtain ⟨ws, hws, hcs⟩ := exists_blanks cs
  unfold advance at h
  split at h
  · cases h
  rename_i c rest hskip
  rw [hskip] at hcs
  split_ifs at h with hclose hfirst hcomma
  · obtain rfl := Except.ok.inj h
    exact .inl ⟨ws, rest, rfl, hws, hclose ▸ hcs⟩
  · obtain rfl := Except.ok.inj h
    subst hfirst
    exact .inr ⟨ws, c :: rest, rfl, hws, hcs⟩
  · obtain ⟨ws', hws', hrest⟩ := exists_blanks rest
    split at h
    · cases h
    rename_i d rest' hskip'
    rw [hskip'] at hrest
    split_ifs at h
    obtain rfl := Except.ok.inj h
    rw [hcs, hcomma, hrest]
    cases first with
    | true => exact absurd rfl hfirst
    | false => exact .inr ⟨ws ++ ',' :: ws', d :: rest', rfl, ⟨ws, ws', hws, hws', rfl⟩, by simp⟩

/-! ### Loops -/

/-- Whatever the reader takes from the front of a text is the text of a document, behind blanks. -/
def Accepts {α : Type} (read : Reader α) : Prop :=
  ∀ cs x rest, read cs = .ok (x, rest) → ∃ ws d text, Blanks ws ∧ Doc.Spells d text ∧
    cs = ws ++ (text ++ rest)

/-- The same for a reader of what stands behind the name of a member. -/
def AcceptsMember {α : Type} (read : Reader α) : Prop :=
  ∀ cs x rest, read cs = .ok (x, rest) → ∃ before behind d text,
    Blanks before ∧ Blanks behind ∧ Doc.Spells d text ∧ cs = before ++ ':' :: (behind ++ (text ++ rest))

section
variable {α σ : Type} {read : Reader α}

theorem Accepts.memberValue (h : Accepts read) : AcceptsMember (memberValue read) := by
  intro cs x rest hx
  obtain ⟨before, hbefore, hcs⟩ := exists_blanks cs
  unfold Json.memberValue at hx
  split at hx
  · cases hx
  · rename_i rest' hskip
    obtain ⟨behind, d, text, hbehind, htext, rfl⟩ := h _ _ _ hx
    exact ⟨before, behind, d, text, hbefore, hbehind, htext, hskip ▸ hcs⟩
  · cases hx

/-- A reader that goes on without reading any further. -/
theorem AcceptsMember.bind {β : Type} (h : AcceptsMember read)
    {f : α → List Char → Except Fault (β × List Char)}
    (hf : ∀ {x rest y rest'}, f x rest = .ok (y, rest') → rest = rest') :
    AcceptsMember (fun cs => do let (x, rest) ← read cs; f x rest) := by
  intro cs y rest hy
  obtain ⟨⟨x, rest'⟩, hx, hy⟩ := of_bind_eq_ok hy
  obtain rfl := hf hy
  exact h _ _ _ hx

/-- Elements are read up to the closing bracket. -/
theorem spellsItems_of_elements (h : Accepts read) {fuel : Nat} {first : Bool} {cs rest : List Char}
    {xs : List α} (hxs : elements read fuel first cs = .ok (xs, rest)) :
    ∃ items inside, Doc.SpellsItems first items inside ∧ cs = inside ++ rest := by
  induction fuel generalizing first cs xs with
  | zero => cases hxs
  | succ fuel ih =>
    rw [elements] at hxs
    obtain ⟨place, hplace, hgo⟩ := of_bind_eq_ok hxs
    rcases advance_cases hplace with ⟨ws, rest', rfl, hws, rfl⟩ | ⟨lead, cs', rfl, hlead, rfl⟩
    · obtain ⟨-, rfl⟩ := Prod.mk.inj (Except.ok.inj hgo)
      exact ⟨[], ws ++ [']'], ⟨ws, hws, rfl⟩, by simp⟩
    · obtain ⟨⟨x, after⟩, hx, hgo⟩ := of_bind_eq_ok hgo
      obtain ⟨⟨ys, rest'⟩, hys, hgo⟩ := of_bind_eq_ok hgo
      obtain ⟨-, rfl⟩ := Prod.mk.inj (Except.ok.inj hgo)
      obtain ⟨ws, d, text, hws, htext, rfl⟩ := h _ _ _ hx
      obtain ⟨items, behind, hbehind, rfl⟩ := ih hys
      exact ⟨d :: items, _, ⟨lead ++ ws, text, behind, hlead.append hws, htext, hbehind, rfl⟩, by simp⟩

/-- Members are read up to the closing bracket. -/
theorem spellsMembers_of_members {member : σ → String → Reader σ}
    (h : ∀ s key, AcceptsMember (member s key)) {fuel : Nat} {first : Bool} {s t : σ}
    {cs rest : List Char} (ht : members member fuel first s cs = .ok (t, rest)) :
    ∃ ms inside, Doc.SpellsMembers first ms inside ∧ cs = inside ++ rest := by
  induction fuel generalizing first s cs with
  | zero => cases ht
  | succ fuel ih =>
    rw [members] at ht
    obtain ⟨place, hplace, hgo⟩ := of_bind_eq_ok ht
    rcases advance_cases hplace with ⟨ws, rest', rfl, hws, rfl⟩ | ⟨lead, cs', rfl, hlead, rfl⟩
    · obtain ⟨-, rfl⟩ := Prod.mk.inj (Except.ok.inj hgo)
      exact ⟨[], ws ++ ['}'], ⟨ws, hws, rfl⟩, by simp⟩
    · split at hgo
      · rename_i heq
        cases heq
      · rename_i heq
        cases heq
        obtain ⟨⟨key, afterKey⟩, hkey, hgo⟩ := of_bind_eq_ok hgo
        obtain ⟨⟨u, afterMember⟩, hu, hothers⟩ := of_bind_eq_ok hgo
        obtain ⟨us, name, hname, hcs⟩ := spellsString_of_stringBody hkey
        obtain ⟨before, ws, d, text, hbefore, hws, htext, rfl⟩ := h _ _ _ _ _ hu
        obtain ⟨ms, behind, hbehind, rfl⟩ := ih hothers
        refine ⟨(us, d) :: ms, _,
          ⟨lead, _, behind, hlead, ⟨name, before, ws, text, hname, hbefore, hws, htext, rfl⟩,
            hbehind, rfl⟩, ?_⟩
        simp [hcs]
      · cases hgo

end

/-! ### Values -/

private theorem of_word {w cs rest : List Char} (h : word w cs = .ok rest) : cs = w ++ rest := by
  induction w generalizing cs with
  | nil =>
    obtain rfl := Except.ok.inj h
    rfl
  | cons c w ih =>
    cases cs with
    | nil => cases h
    | cons d cs =>
      rw [word] at h
      split_ifs at h with hc
      rw [hc, ih h, List.cons_append]

theorem accepts_gather {read : Reader Json} (h : Accepts read) (gathered : List (String × Json))
    (key : String) :
    AcceptsMember (gather read gathered key) :=
  h.memberValue.bind (f := fun v rest => .ok (gathered ++ [(key, v)], rest)) fun hms =>
    (Prod.mk.inj (Except.ok.inj hms)).2

/-- Whatever is read as a value is the text of a document. -/
theorem accepts_value (depth : Nat) : Accepts (value depth) := by
  induction depth using Nat.strongRecOn with
  | ind depth ih =>
    intro cs j rest hj
    obtain ⟨ws, hws, hcs⟩ := exists_blanks cs
    suffices ∃ d text, Doc.Spells d text ∧ skipBlank cs = text ++ rest by
      obtain ⟨d, text, htext, hskip⟩ := this
      exact ⟨ws, d, text, hws, htext, hskip ▸ hcs⟩
    unfold value at hj
    split at hj <;> rename_i heq
    · cases hj
    · obtain ⟨rest', hword, hj⟩ := of_bind_eq_ok hj
      obtain ⟨-, rfl⟩ := Prod.mk.inj (Except.ok.inj hj)
      exact ⟨.null, _, rfl, by rw [heq, of_word hword]; rfl⟩
    · obtain ⟨rest', hword, hj⟩ := of_bind_eq_ok hj
      obtain ⟨-, rfl⟩ := Prod.mk.inj (Except.ok.inj hj)
      exact ⟨.bool true, _, rfl, by rw [heq, of_word hword]; rfl⟩
    · obtain ⟨rest', hword, hj⟩ := of_bind_eq_ok hj
      obtain ⟨-, rfl⟩ := Prod.mk.inj (Except.ok.inj hj)
      exact ⟨.bool false, _, rfl, by rw [heq, of_word hword]; rfl⟩
    · obtain ⟨⟨s, rest'⟩, hstring, hj⟩ := of_bind_eq_ok hj
      obtain ⟨-, rfl⟩ := Prod.mk.inj (Except.ok.inj hj)
      obtain ⟨us, text, htext, hstring⟩ := spellsString_of_stringBody hstring
      exact ⟨.str us, text, htext, heq.trans hstring⟩
    · cases depth with
      | zero => cases hj
      | succ depth =>
        obtain ⟨⟨items, rest'⟩, hitems, hj⟩ := of_bind_eq_ok hj
        obtain ⟨-, rfl⟩ := Prod.mk.inj (Except.ok.inj hj)
        obtain ⟨ds, inside, hinside, rfl⟩ :=
          spellsItems_of_elements (ih depth (Nat.lt_succ_self depth)) hitems
        exact ⟨.arr ds, _, ⟨inside, hinside, rfl⟩, heq⟩
    · cases depth with
      | zero => cases hj
      | succ depth =>
        obtain ⟨⟨ms, rest'⟩, hms, hj⟩ := of_bind_eq_ok hj
        obtain ⟨-, rfl⟩ := Prod.mk.inj (Except.ok.inj hj)
        obtain ⟨ns, inside, hinside, rfl⟩ :=
          spellsMembers_of_members (accepts_gather (ih depth (Nat.lt_succ_self depth))) hms
        exact ⟨.obj ns, _, ⟨inside, hinside, rfl⟩, heq⟩
    · split at hj
      · obtain ⟨⟨n, rest'⟩, hnumber, hj⟩ := of_bind_eq_ok hj
        obtain ⟨-, rfl⟩ := Prod.mk.inj (Except.ok.inj hj)
        obtain ⟨⟨w, rest'⟩, hscan, hn⟩ := of_bind_eq_ok hnumber
        obtain ⟨text, htext, hrest⟩ := spells_of_scanNumber hscan
        simp only at hn
        split at hn
        · obtain ⟨-, rfl⟩ := Prod.mk.inj (Except.ok.inj hn)
          exact ⟨.num w, text, htext, heq.trans hrest⟩
        · cases hn
      · cases hj

end Json

end SignalRelay
