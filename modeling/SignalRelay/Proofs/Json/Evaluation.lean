import SignalRelay.Proofs.Json.Grammar
import SignalRelay.Proofs.Json.Values

/-!
# What readers make of documents

A reader fails or gives back something, and this depends only on the document that its text spells:
neither on the blanks in it nor on its escapes.

* `Doc.value?` is the tree that a document is read as, if its strings are made of characters, its numbers
  are not too large and it does not nest too deeply.
* `Evaluates` says what a reader makes of a document, in any text of it.  `evaluates_elements` and
  `evaluates_members` are the loops, for any reader of an element and any keeper of members.
* `evaluates_value`: values are read as `Doc.value?` says.
-/

namespace SignalRelay

namespace Json

/-! ### Blanks -/

theorem skipBlank_append {ws : List Char} (hws : Blanks ws) {c : Char} (hc : isBlank c = false)
    (cs : List Char) :
    skipBlank (ws ++ c :: cs) = c :: cs := by
  rw [skipBlank, List.dropWhile_append_of_pos hws]
  simp [hc]

/-- Blanks end a number, -/
theorem delimited_of_blanks {ws : List Char} (hws : Blanks ws) : Delimited ws := by
  intro c hc
  have hblank := hws c (List.mem_of_mem_head? hc)
  simp only [isBlank, Bool.or_eq_true, beq_iff_eq] at hblank
  rcases hblank with ((rfl | rfl) | rfl) | rfl <;> decide

/-- and so does what ends a value, with blanks in front of it. -/
theorem delimited_append {ws : List Char} (hws : Blanks ws) {c : Char} (hc : c = ',' ∨ c = ']' ∨ c = '}')
    (rest : List Char) : Delimited (ws ++ c :: rest) := by
  cases ws with
  | nil => exact delimited_cons hc rest
  | cons b ws =>
    intro d hd
    obtain rfl : b = d := by simpa using hd
    exact delimited_of_blanks hws b rfl

theorem advance_closed {close : Char} (hclose : close = ']' ∨ close = '}') {ws : List Char} (hws : Blanks ws)
    (first : Bool) (rest : List Char) : advance close first (ws ++ close :: rest) = .ok (.closed rest) := by
  have hblank : isBlank close = false := by rcases hclose with rfl | rfl <;> decide
  rw [advance, skipBlank_append hws hblank]
  exact if_pos rfl

/-- In front of an item `advance` passes over blanks, and over the comma if there is one. -/
theorem advance_lead {close : Char} (hclose : close = ']' ∨ close = '}') {first : Bool} {lead cs : List Char}
    (hlead : Lead first lead) (hcs : Begins cs) (rest : List Char) :
    advance close first (lead ++ (cs ++ rest)) = .ok (.item (cs ++ rest)) := by
  obtain ⟨c, cs, rfl, hblank, hitems, hmembers⟩ := hcs
  have hne : c ≠ close := by rcases hclose with rfl | rfl <;> assumption
  cases first with
  | true =>
    rw [advance, List.cons_append, skipBlank_append hlead hblank]
    simp [hne]
  | false =>
    obtain ⟨before, behind, hbefore, hbehind, rfl⟩ := hlead
    have hcomma : ',' ≠ close := by rcases hclose with rfl | rfl <;> decide
    rw [advance, List.append_assoc, List.cons_append, skipBlank_append hbefore (by decide)]
    simp [hcomma, skipBlank_append hbehind hblank, hne]

/-! ### Documents -/

namespace Doc

mutual

/-- The tree that a document is read as, at most so many levels deep. -/
def value? : Doc → Nat → Option Json
  | .null, _ => some .null
  | .bool b, _ => some (.bool b)
  | .num w, _ => (Number.ofWritten? w).map .num
  | .str us, _ => (textOf? us).map .str
  | .arr _, 0 => none
  | .arr items, depth + 1 => (values? items depth).map .arr
  | .obj _, 0 => none
  | .obj members, depth + 1 => (memberValues? members depth).map .obj
  termination_by structural d => d

def values? : List Doc → Nat → Option (List Json)
  | [], _ => some []
  | d :: rest, depth => (value? d depth).bind fun j => (values? rest depth).map (j :: ·)
  termination_by structural items => items

def memberValues? : List (List UInt16 × Doc) → Nat → Option (List (String × Json))
  | [], _ => some []
  | m :: rest, depth => (memberValue? m depth).bind fun n => (memberValues? rest depth).map (n :: ·)
  termination_by structural members => members

def memberValue? : List UInt16 × Doc → Nat → Option (String × Json)
  | (us, d), depth => (textOf? us).bind fun key => (value? d depth).map (key, ·)
  termination_by structural m => m

end

end Doc

theorem Doc.values?_eq_mapM (items : List Doc) (depth : Nat) :
    values? items depth = items.mapM (·.value? depth) := by
  induction items with
  | nil => rfl
  | cons d rest ih =>
    rw [List.mapM_cons, values?, ih]
    cases d.value? depth <;> cases rest.mapM (·.value? depth) <;> rfl

/-- The reader `read` makes of the document `d` what `x?` says, in any text of it and whatever
stands behind. -/
def Evaluates {α : Type} (read : Reader α) (d : Doc) (x? : Option α) : Prop :=
  ∀ ws cs rest, Blanks ws → d.Spells cs → Delimited rest →
    (read (ws ++ (cs ++ rest))).toOption = x?.map (·, rest)

/-- The same for a reader of what stands behind the name of a member. -/
def EvaluatesMember {α : Type} (read : Reader α) (d : Doc) (x? : Option α) : Prop :=
  ∀ before behind cs rest, Blanks before → Blanks behind → d.Spells cs → Delimited rest →
    (read (before ++ ':' :: (behind ++ (cs ++ rest)))).toOption = x?.map (·, rest)

theorem blanks_nil : Blanks [] := fun c hc => by cases hc

section
variable {α β : Type} {read : Reader α} {d : Doc} {x? : Option α}

theorem Evaluates.memberValue (h : Evaluates read d x?) : EvaluatesMember (memberValue read) d x? := by
  intro before behind cs rest hbefore hbehind hcs hrest
  rw [Json.memberValue, skipBlank_append hbefore (by decide)]
  exact h behind cs rest hbehind hcs hrest

/-- A reader that goes on to make something else of what it has read. -/
theorem EvaluatesMember.bind (h : EvaluatesMember read d x?)
    {f : α → List Char → Except Fault (β × List Char)} {g : α → Option β}
    (hf : ∀ x rest, (f x rest).toOption = (g x).map (·, rest)) :
    EvaluatesMember (fun cs => do let (x, rest) ← read cs; f x rest) d (x?.bind g) := by
  intro before behind cs rest hbefore hbehind hcs hrest
  rw [toOption_bind, h before behind cs rest hbefore hbehind hcs hrest]
  cases x? with
  | none => rfl
  | some x => exact hf x rest

theorem EvaluatesMember.map (h : EvaluatesMember read d x?) (f : α → β) :
    EvaluatesMember (fun cs => do let (x, rest) ← read cs; .ok (f x, rest)) d (x?.map f) := by
  rw [Option.map_eq_bind]
  exact h.bind (f := fun x rest => .ok (f x, rest)) (g := fun x => some (f x)) fun _ _ => rfl

end

/-! ### Loops -/

/-- The fuel of a loop is enough for the text that it reads. -/
theorem length_lt_of_append (cs rest : List Char) : cs.length < (cs ++ rest).length + 1 := by
  rw [List.length_append]
  omega

/-- A text of the document can begin with the character. -/
def Doc.Opens : Doc → Char → Prop
  | .null, c => c = 'n'
  | .bool true, c => c = 't'
  | .bool false, c => c = 'f'
  | .num _, c => Leads c
  | .str _, c => c = '"'
  | .arr _, c => c = '['
  | .obj _, c => c = '{'

theorem exists_opens_of_spells {d : Doc} {cs : List Char} (h : d.Spells cs) :
    ∃ c rest, cs = c :: rest ∧ d.Opens c := by
  cases d with
  | null => exact ⟨'n', _, h, rfl⟩
  | bool b => cases b <;> exact ⟨_, _, h, rfl⟩
  | num w => exact exists_leads_of_spells (w := w) h
  | str us =>
    obtain ⟨inside, -, rfl⟩ := h
    exact ⟨'"', _, rfl, rfl⟩
  | arr items =>
    obtain ⟨inside, -, rfl⟩ := h
    exact ⟨'[', _, rfl, rfl⟩
  | obj members =>
    obtain ⟨inside, -, rfl⟩ := h
    exact ⟨'{', _, rfl, rfl⟩

theorem Doc.Opens.ne {d : Doc} {c : Char} (h : d.Opens c) :
    isBlank c = false ∧ c ≠ ']' ∧ c ≠ '}' := by
  cases d with
  | num w => exact ⟨Leads.isBlank h, Leads.ne h (by decide), Leads.ne h (by decide)⟩
  | bool b =>
    cases b <;>
    · obtain rfl : c = _ := h
      decide
  | _ =>
    obtain rfl : c = _ := h
    decide

theorem begins_of_spells {d : Doc} {cs : List Char} (h : d.Spells cs) : Begins cs := by
  obtain ⟨c, rest, rfl, hc⟩ := exists_opens_of_spells h
  exact ⟨c, rest, rfl, hc.ne⟩

theorem delimited_items {items : List Doc} {cs : List Char} (h : Doc.SpellsItems false items cs)
    (rest : List Char) : Delimited (cs ++ rest) := by
  cases items with
  | nil =>
    obtain ⟨ws, hws, rfl⟩ := h
    rw [List.append_assoc]
    exact delimited_append hws (.inr (.inl rfl)) _
  | cons d items =>
    obtain ⟨_, text, behind, ⟨before, ws, hbefore, -, rfl⟩, -, -, rfl⟩ := h
    simp only [List.append_assoc, List.cons_append]
    exact delimited_append hbefore (.inl rfl) _

private theorem delimited_members {ms : List (List UInt16 × Doc)} {cs : List Char}
    (h : Doc.SpellsMembers false ms cs) (rest : List Char) : Delimited (cs ++ rest) := by
  cases ms with
  | nil =>
    obtain ⟨ws, hws, rfl⟩ := h
    rw [List.append_assoc]
    exact delimited_append hws (.inr (.inr rfl)) _
  | cons m ms =>
    obtain ⟨_, text, behind, ⟨before, ws, hbefore, -, rfl⟩, -, -, rfl⟩ := h
    simp only [List.append_assoc, List.cons_append]
    exact delimited_append hbefore (.inl rfl) _

/-- The elements are read one after the other, up to the closing bracket. -/
theorem evaluates_elements {β : Type} {element : Reader β} {ev : Doc → Option β} {items : List Doc}
    (hread : ∀ d ∈ items, Evaluates element d (ev d)) {first : Bool} {inside : List Char}
    (h : Doc.SpellsItems first items inside) {fuel : Nat} (hfuel : inside.length < fuel) (rest : List Char) :
    (elements element fuel first (inside ++ rest)).toOption = (items.mapM ev).map (·, rest) := by
  induction items generalizing first inside fuel with
  | nil =>
    obtain ⟨fuel, rfl⟩ : ∃ n, fuel = n + 1 := ⟨fuel - 1, by omega⟩
    obtain ⟨ws, hws, rfl⟩ := h
    rw [elements, List.append_assoc, List.singleton_append, advance_closed (.inl rfl) hws]
    rfl
  | cons d items ih =>
    obtain ⟨fuel, rfl⟩ : ∃ n, fuel = n + 1 := ⟨fuel - 1, by omega⟩
    obtain ⟨lead, text, behind, hlead, htext, hbehind, rfl⟩ := h
    have hbegins := begins_of_spells htext
    have hlength : behind.length < fuel := by
      obtain ⟨c, cs, rfl, -⟩ := hbegins
      simp only [List.length_append, List.length_cons] at hfuel
      omega
    have hfirst :=
      hread d List.mem_cons_self [] text (behind ++ rest) blanks_nil htext (delimited_items hbehind rest)
    have hothers := ih (fun e he => hread e (List.mem_cons_of_mem d he)) hbehind hlength
    rw [List.nil_append] at hfirst
    simp only [List.append_assoc]
    rw [elements, advance_lead (.inl rfl) hlead hbegins]
    simp only [toOption_bind, toOption_ok, Option.bind_some, hfirst, List.mapM_cons]
    cases ev d with
    | none => rfl
    | some x =>
      simp only [Option.map_some, Option.bind_some, hothers]
      cases items.mapM ev <;> rfl

/-- The members are read one after the other, up to the closing bracket. -/
theorem evaluates_members {σ : Type} {member : σ → String → Reader σ} (step : σ → String → Doc → Option σ)
    {ms : List (List UInt16 × Doc)}
    (hread : ∀ m ∈ ms, ∀ s key, EvaluatesMember (member s key) m.2 (step s key m.2)) {first : Bool}
    {inside : List Char} (h : Doc.SpellsMembers first ms inside) {fuel : Nat}
    (hfuel : inside.length < fuel) (s : σ) (rest : List Char) :
    (members member fuel first s (inside ++ rest)).toOption =
      (ms.foldlM (fun s m => (textOf? m.1).bind fun key => step s key m.2) s).map (·, rest) := by
  induction ms generalizing first inside fuel s with
  | nil =>
    obtain ⟨fuel, rfl⟩ : ∃ n, fuel = n + 1 := ⟨fuel - 1, by omega⟩
    obtain ⟨ws, hws, rfl⟩ := h
    rw [members, List.append_assoc, List.singleton_append, advance_closed (.inr rfl) hws]
    rfl
  | cons m ms ih =>
    obtain ⟨fuel, rfl⟩ : ∃ n, fuel = n + 1 := ⟨fuel - 1, by omega⟩
    obtain ⟨us, d⟩ := m
    obtain ⟨lead, _, behind, hlead, hmember, hbehind, rfl⟩ := h
    obtain ⟨_, before, ws, text, ⟨name, hname, rfl⟩, hbefore, hws, htext, rfl⟩ := hmember
    have hlength : behind.length < fuel := by
      simp only [List.length_append, List.length_cons] at hfuel
      omega
    have hothers := ih (fun n hn => hread n (List.mem_cons_of_mem _ hn)) hbehind hlength
    have hmember :=
      fun key => hread (us, d) List.mem_cons_self s key before ws text (behind ++ rest) hbefore hws htext
        (delimited_members hbehind rest)
    have hbegins : Begins ('"' :: name ++ ['"']) := ⟨'"', name ++ ['"'], rfl, by decide, by decide, by decide⟩
    have hadvance :=
      advance_lead (.inr rfl) hlead hbegins (before ++ ':' :: (ws ++ (text ++ (behind ++ rest))))
    simp only [List.append_assoc, List.cons_append, List.nil_append] at hadvance ⊢
    rw [members, hadvance]
    simp only [toOption_bind, toOption_ok, Option.bind_some, toOption_stringBody hname, List.foldlM_cons]
    cases textOf? us with
    | none => rfl
    | some key =>
      simp only [Option.map_some, Option.bind_some, hmember]
      cases step s key d with
      | none => rfl
      | some s' => exact hothers s'

/-! ### Values -/

/-- Members that are gathered are put one behind the other. -/
private theorem foldlM_gather (ms : List (List UInt16 × Doc)) (depth : Nat)
    (gathered : List (String × Json)) :
    ms.foldlM (fun s m => (textOf? m.1).bind fun key => (m.2.value? depth).map fun v => s ++ [(key, v)])
      gathered =
      (Doc.memberValues? ms depth).map (gathered ++ ·) := by
  induction ms generalizing gathered with
  | nil => simp [Doc.memberValues?]
  | cons m ms ih =>
    obtain ⟨us, d⟩ := m
    rw [List.foldlM_cons, Doc.memberValues?, Doc.memberValue?]
    cases textOf? us with
    | none => rfl
    | some key =>
      cases d.value? depth with
      | none => simp
      | some v =>
        simp only [Option.bind_some, Option.map_some, Option.bind_eq_bind, ih]
        cases Doc.memberValues? ms depth <;> simp

theorem evaluates_gather {read : Reader Json} {d : Doc} {v? : Option Json} (h : Evaluates read d v?)
    (gathered : List (String × Json)) (key : String) :
    EvaluatesMember (gather read gathered key) d (v?.map fun v => gathered ++ [(key, v)]) :=
  h.memberValue.map fun v => gathered ++ [(key, v)]

private theorem evaluates_num (w : WrittenNumber) (depth : Nat) :
    Evaluates (value depth) (.num w) ((Number.ofWritten? w).map .num) := by
  intro ws cs rest hws hcs hrest
  have hscan := scanNumber_of_spells hcs hrest
  have hread : (number (cs ++ rest)).toOption = (Number.ofWritten? w).map (·, rest) := by
    rw [number, toOption_bind, hscan, toOption_ok, Option.bind_some]
    cases hn : Number.ofWritten? w <;> simp [hn]
  obtain ⟨c, cs, rfl, hc⟩ := exists_leads_of_spells (w := w) hcs
  rw [value, List.cons_append, skipBlank_append hws hc.isBlank]
  rw [List.cons_append] at hread
  -- no other kind of value begins like a number
  split <;> rename_i heq
  · cases heq
  iterate 6 exact absurd (List.cons.inj heq).1 (hc.ne (by decide))
  · obtain ⟨rfl, rfl⟩ := List.cons.inj heq
    rw [if_pos (show c = '-' ∨ c.isDigit = true from hc), toOption_bind, hread]
    cases Number.ofWritten? w <;> rfl

mutual

/-- A value is read as its document says, whatever text of it stands there. -/
theorem evaluates_value : (d : Doc) → (depth : Nat) → Evaluates (value depth) d (d.value? depth)
  | .null, depth => by
    rintro ws _ rest hws rfl -
    rw [value, List.cons_append, skipBlank_append hws (by decide)]
    rfl
  | .bool true, depth => by
    rintro ws _ rest hws rfl -
    rw [value, List.cons_append, skipBlank_append hws (by decide)]
    rfl
  | .bool false, depth => by
    rintro ws _ rest hws rfl -
    rw [value, List.cons_append, skipBlank_append hws (by decide)]
    rfl
  | .num w, depth => evaluates_num w depth
  | .str us, depth => by
    rintro ws _ rest hws ⟨inside, hinside, rfl⟩ -
    rw [value, List.cons_append, List.cons_append, skipBlank_append hws (by decide)]
    simp only [List.append_assoc, List.singleton_append, toOption_bind, toOption_stringBody hinside,
      Doc.value?]
    cases textOf? us <;> rfl
  | .arr items, 0 => by
    rintro ws _ rest hws ⟨inside, -, rfl⟩ -
    rw [value, List.cons_append, skipBlank_append hws (by decide)]
    rfl
  | .arr items, depth + 1 => by
    rintro ws _ rest hws ⟨inside, hinside, rfl⟩ -
    have hitems := evaluates_elements (fun d hd => evaluates_items items d hd depth) hinside
      (length_lt_of_append inside rest) rest
    rw [value, List.cons_append, skipBlank_append hws (by decide)]
    simp only [toOption_bind, elementsOf, hitems, Doc.value?, Doc.values?_eq_mapM]
    cases items.mapM (·.value? depth) <;> rfl
  | .obj members, 0 => by
    rintro ws _ rest hws ⟨inside, -, rfl⟩ -
    rw [value, List.cons_append, skipBlank_append hws (by decide)]
    rfl
  | .obj ms, depth + 1 => by
    rintro ws _ rest hws ⟨inside, hinside, rfl⟩ -
    have hmembers := evaluates_members (fun s key d => (d.value? depth).map fun v => s ++ [(key, v)])
      (fun m hm s key => evaluates_gather (evaluates_memberValues ms m hm depth) s key) hinside
      (length_lt_of_append inside rest) [] rest
    rw [value, List.cons_append, skipBlank_append hws (by decide)]
    simp only [toOption_bind, membersOf, hmembers, foldlM_gather, Doc.value?]
    cases Doc.memberValues? ms depth <;> rfl
  termination_by structural d => d

theorem evaluates_items :
    (items : List Doc) → ∀ d ∈ items, ∀ depth, Evaluates (value depth) d (d.value? depth)
  | [] => by simp
  | d :: rest => List.forall_mem_cons.2 ⟨evaluates_value d, evaluates_items rest⟩
  termination_by structural items => items

theorem evaluates_memberValues : (ms : List (List UInt16 × Doc)) → ∀ m ∈ ms, ∀ depth,
    Evaluates (value depth) m.2 (m.2.value? depth)
  | [] => by simp
  | m :: rest => List.forall_mem_cons.2 ⟨evaluates_memberValue m, evaluates_memberValues rest⟩
  termination_by structural ms => ms

theorem evaluates_memberValue :
    (m : List UInt16 × Doc) → ∀ depth, Evaluates (value depth) m.2 (m.2.value? depth)
  | (_, d) => evaluates_value d
  termination_by structural m => m

end

end Json

end SignalRelay
