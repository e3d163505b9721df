import SignalRelay.Proofs.Json.Numbers

/-!
# Values read back

A tree whose numbers are exact integers is read back from its wire text, if reading may go as deep as the
tree nests.  So the printer writes different texts for different trees of this kind.

* `Json.Exact` and `Json.depth` are what the round trip asks of a tree.
* `elementsOf_inside` and `membersOf_inside` are the loops over what stands in brackets, for any reader of
  an element and any keeper of members.
* `value_chars` is the round trip, by recursion on the tree, and `readAll_of_reads` takes it to whole texts.
* `normal_of_canonical`: a canonical tree is its own canonical form, so `Fields` are read back as
  they were written.
-/

namespace SignalRelay

namespace Json

theorem skipBlank_cons {c : Char} (h : isBlank c = false) (cs : List Char) :
    skipBlank (c :: cs) = c :: cs := by
  simp [skipBlank, h]

mutual

/-- All numbers of the tree are exact integers. -/
def Exact : Json → Prop
  | .null | .bool _ | .str _ => True
  | .num n => n.Exact
  | .arr items => ExactItems items
  | .obj members => ExactMembers members
  termination_by structural j => j

def ExactItems : List Json → Prop
  | [] => True
  | j :: rest => Exact j ∧ ExactItems rest
  termination_by structural items => items

def ExactMembers : List (String × Json) → Prop
  | [] => True
  | m :: rest => ExactMember m ∧ ExactMembers rest
  termination_by structural members => members

def ExactMember : String × Json → Prop
  | (_, value) => Exact value
  termination_by structural m => m

end

mutual

/-- The number of levels that a tree nests. -/
def depth : Json → Nat
  | .null | .bool _ | .num _ | .str _ => 0
  | .arr items => depthItems items + 1
  | .obj members => depthMembers members + 1
  termination_by structural j => j

/-- The levels of the deepest element. -/
def depthItems : List Json → Nat
  | [] => 0
  | j :: rest => max (depth j) (depthItems rest)
  termination_by structural items => items

/-- The levels of the deepest member. -/
def depthMembers : List (String × Json) → Nat
  | [] => 0
  | m :: rest => max (depthMember m) (depthMembers rest)
  termination_by structural members => members

def depthMember : String × Json → Nat
  | (_, value) => depth value
  termination_by structural m => m

end

/-! ### What stands in brackets -/

/-- The text of an array behind its opening bracket. -/
def insideItems : List Json → List Char
  | [] => [']']
  | j :: rest => chars j ++ itemsChars rest ++ [']']

/-- The text of an object behind its opening bracket. -/
def insideMembers : List (String × Json) → List Char
  | [] => ['}']
  | m :: rest => memberChars m ++ membersChars rest ++ ['}']

theorem chars_arr (items : List Json) : chars (.arr items) = '[' :: insideItems items := by
  cases items <;> simp [chars, insideItems]

theorem chars_obj (members : List (String × Json)) : chars (.obj members) = '{' :: insideMembers members := by
  cases members <;> simp [chars, insideMembers]

/-- A text that begins with a value. -/
def Begins (cs : List Char) : Prop := ∃ c rest, cs = c :: rest ∧ isBlank c = false ∧ c ≠ ']' ∧ c ≠ '}'

theorem begins_quoted (s : String) : Begins (quoted s) := ⟨'"', _, rfl, by decide, by decide, by decide⟩

theorem begins_obj (members : List (String × Json)) : Begins (chars (.obj members)) := by
  rw [chars_obj]
  exact ⟨'{', _, rfl, by decide, by decide, by decide⟩

theorem begins_chars {j : Json} (hj : j.Exact) : Begins j.chars := by
  cases j with
  | null => exact ⟨'n', _, rfl, by decide, by decide, by decide⟩
  | bool b => cases b <;> exact ⟨_, _, rfl, by decide, by decide, by decide⟩
  | num n =>
    obtain ⟨c, cs, hcs, hc⟩ := exists_chars_eq_cons (n := n) hj
    exact ⟨c, cs, hcs, hc.isBlank, hc.ne (by decide), hc.ne (by decide)⟩
  | str s => exact begins_quoted s
  | arr items =>
    rw [chars_arr]
    exact ⟨'[', _, rfl, by decide, by decide, by decide⟩
  | obj members => exact begins_obj members

/-! ### Readers and loops -/

/-- The reader `read` gives back `x` from the text `cs`, whatever stands behind it. -/
def Reads {α : Type} (read : Reader α) (cs : List Char) (x : α) : Prop :=
  ∀ rest, Delimited rest → read (cs ++ rest) = .ok (x, rest)

theorem Reads.memberValue {α : Type} {read : Reader α} {cs : List Char} {x : α} (h : Reads read cs x) :
    Reads (memberValue read) (':' :: cs) x := by
  intro rest hrest
  simpa [Json.memberValue, skipBlank_cons (show isBlank ':' = false by decide)] using h rest hrest

/-- A reader that goes on to make something else of what it has read. -/
theorem Reads.map {α β : Type} {read : Reader α} {cs : List Char} {x : α} (h : Reads read cs x) (f : α → β) :
    Reads (fun cs => do let (y, rest) ← read cs; .ok (f y, rest)) cs (f x) := by
  intro rest hrest
  simp [h rest hrest, bind, Except.bind]

/-- In front of an item `advance` stops, be it the first or behind a comma. -/
theorem advance_item {close : Char} (hclose : close = ']' ∨ close = '}') {cs : List Char} (hcs : Begins cs)
    (rest : List Char) : advance close true (cs ++ rest) = .ok (.item (cs ++ rest)) ∧
      advance close false (',' :: cs ++ rest) = .ok (.item (cs ++ rest)) := by
  obtain ⟨c, cs, rfl, hblank, hitems, hmembers⟩ := hcs
  have hne : c ≠ close := by rcases hclose with rfl | rfl <;> assumption
  have hcomma : ',' ≠ close := by rcases hclose with rfl | rfl <;> decide
  constructor
  · simp [advance, skipBlank_cons hblank, hne]
  · simp [advance, skipBlank_cons (show isBlank ',' = false by decide), skipBlank_cons hblank, hne, hcomma]

theorem delimited_itemsChars (items : List Json) (rest : List Char) :
    Delimited (itemsChars items ++ ']' :: rest) := by
  cases items with
  | nil => exact delimited_cons (.inr (.inl rfl)) rest
  | cons j items => exact delimited_cons (.inl rfl) _

theorem length_le_itemsChars (items : List Json) : items.length ≤ (itemsChars items).length := by
  induction items with
  | nil => simp
  | cons j items ih =>
    simp only [itemsChars, List.length_cons, List.length_append]
    omega

section
variable {β : Type} {element : Reader β} (toJson : β → Json)

/-- The elements behind the first are read up to the closing bracket. -/
theorem elements_itemsChars {xs : List β} (hread : ∀ x ∈ xs, Reads element (toJson x).chars x)
    (hbegins : ∀ x ∈ xs, Begins (toJson x).chars) {fuel : Nat} (hfuel : xs.length < fuel) (rest : List Char) :
    elements element fuel false (itemsChars (xs.map toJson) ++ ']' :: rest) = .ok (xs, rest) := by
  induction xs generalizing fuel with
  | nil =>
    obtain ⟨fuel, rfl⟩ : ∃ n, fuel = n + 1 := ⟨fuel - 1, by omega⟩
    simp [itemsChars, elements, advance, skipBlank_cons (show isBlank ']' = false by decide), bind,
      Except.bind]
  | cons x xs ih =>
    obtain ⟨fuel, rfl⟩ : ∃ n, fuel = n + 1 := ⟨fuel - 1, by omega⟩
    have htext : itemsChars ((x :: xs).map toJson) ++ ']' :: rest =
        ',' :: (toJson x).chars ++ (itemsChars (xs.map toJson) ++ ']' :: rest) := by
      simp [itemsChars]
    rw [htext, elements, (advance_item (.inl rfl) (hbegins x List.mem_cons_self) _).2]
    have hfirst := hread x List.mem_cons_self _ (delimited_itemsChars (xs.map toJson) rest)
    have hrest := ih (fun y hy => hread y (List.mem_cons_of_mem x hy))
      (fun y hy => hbegins y (List.mem_cons_of_mem x hy)) (Nat.lt_of_succ_lt_succ hfuel)
    simp [hfirst, hrest, bind, Except.bind]

/-- An array is read from behind its opening bracket. -/
theorem elementsOf_inside {xs : List β} (hread : ∀ x ∈ xs, Reads element (toJson x).chars x)
    (hbegins : ∀ x ∈ xs, Begins (toJson x).chars) (rest : List Char) :
    elementsOf element (insideItems (xs.map toJson) ++ rest) = .ok (xs, rest) := by
  cases xs with
  | nil =>
    simp [elementsOf, insideItems, elements, advance, skipBlank_cons (show isBlank ']' = false by decide),
      bind, Except.bind]
  | cons x xs =>
    have htext : insideItems ((x :: xs).map toJson) ++ rest =
        (toJson x).chars ++ (itemsChars (xs.map toJson) ++ ']' :: rest) := by
      simp [insideItems]
    have hlength := length_le_itemsChars (xs.map toJson)
    have hfirst := hread x List.mem_cons_self _ (delimited_itemsChars (xs.map toJson) rest)
    have hrest := elements_itemsChars toJson (fun y hy => hread y (List.mem_cons_of_mem x hy))
      (fun y hy => hbegins y (List.mem_cons_of_mem x hy))
      (show xs.length < ((toJson x).chars ++ (itemsChars (xs.map toJson) ++ ']' :: rest)).length by
        simp only [List.length_append, List.length_cons, List.length_map] at hlength ⊢
        omega) rest
    rw [elementsOf, htext, elements, (advance_item (.inl rfl) (hbegins x List.mem_cons_self) _).1]
    simp only [hfirst, hrest, bind, Except.bind]

end

section
variable {σ : Type} {member : σ → String → Reader σ}

/-- Reading the members one after the other, as they are written, leads from `s` to `s'`. -/
inductive Gathers (member : σ → String → Reader σ) : σ → List (String × Json) → σ → Prop
  | nil (s : σ) : Gathers member s [] s
  | cons {s t s' : σ} {key : String} {value : Json} {ms : List (String × Json)}
      (first : Reads (member s key) (':' :: value.chars) t) (others : Gathers member t ms s') :
      Gathers member s ((key, value) :: ms) s'

theorem Gathers.append {s t s' : σ} {ms ns : List (String × Json)} (hms : Gathers member s ms t)
    (hns : Gathers member t ns s') : Gathers member s (ms ++ ns) s' := by
  induction hms with
  | nil => exact hns
  | cons hread _ ih => exact .cons hread (ih hns)

/-- Members that are all put behind those gathered before. -/
theorem Gathers.of_put (put : List (String × Json) → σ) {ms : List (String × Json)}
    (hread : ∀ m ∈ ms, ∀ xs, Reads (member (put xs) m.1) (':' :: m.2.chars) (put (xs ++ [m])))
    (xs : List (String × Json)) : Gathers member (put xs) ms (put (xs ++ ms)) := by
  induction ms generalizing xs with
  | nil =>
    rw [List.append_nil]
    exact .nil _
  | cons m ms ih =>
    have hrest := ih (fun n hn => hread n (List.mem_cons_of_mem m hn)) (xs ++ [m])
    rw [List.append_assoc, List.singleton_append] at hrest
    exact .cons (hread m List.mem_cons_self xs) hrest

private theorem memberChars_append (key : String) (value : Json) (cs : List Char) :
    memberChars (key, value) ++ cs = quoted key ++ (':' :: value.chars ++ cs) := by
  simp [memberChars]

private theorem members_close (first : Bool) (fuel : Nat) (s : σ) (rest : List Char) :
    members member (fuel + 1) first s ('}' :: rest) = .ok (s, rest) := by
  simp [members, advance, skipBlank_cons (show isBlank '}' = false by decide), bind, Except.bind]

private theorem delimited_membersChars (ms : List (String × Json)) (rest : List Char) :
    Delimited (membersChars ms ++ '}' :: rest) := by
  cases ms with
  | nil => exact delimited_cons (.inr (.inr rfl)) rest
  | cons m ms => exact delimited_cons (.inl rfl) _

/-- The members behind the first are read up to the closing bracket. -/
private theorem members_membersChars {s s' : σ} {ms : List (String × Json)} (h : Gathers member s ms s')
    {fuel : Nat} (hfuel : ms.length < fuel) (rest : List Char) :
    members member fuel false s (membersChars ms ++ '}' :: rest) = .ok (s', rest) := by
  induction h generalizing fuel with
  | nil s =>
    obtain ⟨fuel, rfl⟩ : ∃ n, fuel = n + 1 := ⟨fuel - 1, by omega⟩
    exact members_close false fuel s rest
  | @cons s t s' key value ms hread _ ih =>
    obtain ⟨fuel, rfl⟩ : ∃ n, fuel = n + 1 := ⟨fuel - 1, by omega⟩
    have htext : membersChars ((key, value) :: ms) ++ '}' :: rest =
        ',' :: (memberChars (key, value) ++ (membersChars ms ++ '}' :: rest)) := by
      simp [membersChars]
    have hmember := hread _ (delimited_membersChars ms rest)
    rw [htext, memberChars_append, ← List.cons_append, members,
      (advance_item (.inr rfl) (begins_quoted key) _).2, quoted_append]
    simp only [stringBody_flatMap, hmember, ih (Nat.lt_of_succ_lt_succ hfuel), bind, Except.bind]

private theorem length_le_membersChars (ms : List (String × Json)) :
    ms.length ≤ (membersChars ms).length := by
  induction ms with
  | nil => simp
  | cons m ms ih =>
    simp only [membersChars, List.length_cons, List.length_append]
    omega

/-- An object is read from behind its opening bracket. -/
theorem membersOf_inside {s s' : σ} {ms : List (String × Json)} (h : Gathers member s ms s')
    (rest : List Char) :
    membersOf member s (insideMembers ms ++ rest) = .ok (s', rest) := by
  cases h with
  | nil => exact members_close true _ s rest
  | @cons _ t _ key value ms hread hrest =>
    have htext : insideMembers ((key, value) :: ms) ++ rest =
        memberChars (key, value) ++ (membersChars ms ++ '}' :: rest) := by
      simp [insideMembers]
    have hfuel : ms.length < (memberChars (key, value) ++ (membersChars ms ++ '}' :: rest)).length := by
      have hlength := length_le_membersChars ms
      simp only [List.length_append, List.length_cons]
      omega
    have hmember := hread _ (delimited_membersChars ms rest)
    have hmembers := members_membersChars hrest hfuel rest
    rw [membersOf, htext, members]
    rw [memberChars_append] at hmembers ⊢
    rw [(advance_item (.inr rfl) (begins_quoted key) _).1, quoted_append]
    rw [quoted_append] at hmembers
    simp only [stringBody_flatMap, hmember, hmembers, bind, Except.bind]

end

/-! ### Values -/

theorem reads_gather {read : Reader Json} {m : String × Json} (h : Reads read m.2.chars m.2)
    (gathered : List (String × Json)) :
    Reads (gather read gathered m.1) (':' :: m.2.chars) (gathered ++ [m]) :=
  h.memberValue.map fun v => gathered ++ [(m.1, v)]

private theorem value_num {n : Number} (hn : n.Exact) (d : Nat) : Reads (value d) n.chars (.num n) := by
  intro rest hrest
  have hread := number_chars hn hrest
  obtain ⟨c, cs, hcs, hc⟩ := exists_chars_eq_cons hn
  rw [hcs, List.cons_append] at hread ⊢
  rw [value, skipBlank_cons hc.isBlank]
  -- no other kind of value begins like a number
  split <;> rename_i heq
  · cases heq
  iterate 6 exact absurd (List.cons.inj heq).1 (hc.ne (by decide))
  · obtain ⟨rfl, rfl⟩ := List.cons.inj heq
    rw [if_pos (show c = '-' ∨ c.isDigit = true from hc), hread]
    rfl

mutual

/-- A tree is read back from what is written for it. -/
theorem value_chars : (j : Json) → j.Exact → (d : Nat) → j.depth ≤ d → Reads (value d) j.chars j
  | .null, _, d, _ => fun rest _ => by
    simp [chars, value, skipBlank_cons (show isBlank 'n' = false by decide), word, bind, Except.bind]
  | .bool true, _, d, _ => fun rest _ => by
    simp [chars, value, skipBlank_cons (show isBlank 't' = false by decide), word, bind, Except.bind]
  | .bool false, _, d, _ => fun rest _ => by
    simp [chars, value, skipBlank_cons (show isBlank 'f' = false by decide), word, bind, Except.bind]
  | .num n, hj, d, _ => value_num hj d
  | .str s, _, d, _ => fun rest _ => by
    rw [chars, quoted_append]
    simp [value, skipBlank_cons (show isBlank '"' = false by decide), stringBody_flatMap, bind, Except.bind]
  | .arr items, hj, d, hd => fun rest _ => by
    obtain ⟨d, rfl⟩ : ∃ n, d = n + 1 := ⟨d - 1, by simp only [depth] at hd; omega⟩
    have hitems := value_items items hj d (by simpa [depth] using hd)
    have hinside := elementsOf_inside id (fun j hj => (hitems j hj).2) (fun j hj => (hitems j hj).1) rest
    rw [List.map_id] at hinside
    rw [chars_arr]
    simp [value, skipBlank_cons (show isBlank '[' = false by decide), hinside, bind, Except.bind]
  | .obj members, hj, d, hd => fun rest _ => by
    obtain ⟨d, rfl⟩ : ∃ n, d = n + 1 := ⟨d - 1, by simp only [depth] at hd; omega⟩
    have hmembers := value_members members hj d (by simpa [depth] using hd)
    have hgathers : Gathers (gather (value d)) [] members members :=
      Gathers.of_put id (fun m hm => reads_gather (hmembers m hm).2) []
    have hinside := membersOf_inside hgathers rest
    rw [chars_obj]
    simp [value, skipBlank_cons (show isBlank '{' = false by decide), hinside, bind, Except.bind]
  termination_by structural j => j

theorem value_items : (items : List Json) → ExactItems items → (d : Nat) → depthItems items ≤ d →
    ∀ j ∈ items, Begins j.chars ∧ Reads (value d) j.chars j
  | [], _, _, _ => by simp
  | j :: rest, ⟨hj, hrest⟩, d, hd =>
    have hdepth := Nat.max_le.1 hd
    List.forall_mem_cons.2 ⟨⟨begins_chars hj, value_chars j hj d hdepth.1⟩, value_items rest hrest d hdepth.2⟩
  termination_by structural items => items

theorem value_members : (members : List (String × Json)) → ExactMembers members → (d : Nat) →
    depthMembers members ≤ d → ∀ m ∈ members, Begins m.2.chars ∧ Reads (value d) m.2.chars m.2
  | [], _, _, _ => by simp
  | m :: rest, ⟨hm, hrest⟩, d, hd =>
    have hdepth := Nat.max_le.1 hd
    List.forall_mem_cons.2 ⟨value_member m hm d hdepth.1, value_members rest hrest d hdepth.2⟩
  termination_by structural members => members

theorem value_member : (m : String × Json) → ExactMember m → (d : Nat) → depthMember m ≤ d →
    Begins m.2.chars ∧ Reads (value d) m.2.chars m.2
  | (_, j), hj, d, hd => ⟨begins_chars hj, value_chars j hj d hd⟩
  termination_by structural m => m

end

/-- What is read back in front of any text is read back from a whole text. -/
theorem readAll_of_reads {α : Type} {read : Reader α} {cs : List Char} {x : α} (h : Reads read cs x) :
    readAll read (String.ofList cs) = .ok x := by
  have hread := h [] (by simp [Delimited])
  rw [List.append_nil] at hread
  simp [readAll, finished, skipBlank, hread, bind, Except.bind]

/-! ### Canonical trees -/

private theorem insertMember_of_lt {override : Bool} {m : String × Json} {rest : List (String × Json)}
    (h : ∀ n ∈ rest, m.1 < n.1) : insertMember override m rest = m :: rest := by
  cases rest with
  | nil => rfl
  | cons n rest => rw [insertMember, if_pos (h n List.mem_cons_self)]

mutual

/-- A canonical tree is its own canonical form. -/
theorem normal_of_canonical : (j : Json) → Canonical j → normal j = j
  | .null, _ | .bool _, _ | .num _, _ | .str _, _ => rfl
  | .arr items, hj => by rw [normal, normalItems_of_canonical items hj]
  | .obj members, hj => by rw [normal, normalMembers_of_canonical members hj]
  termination_by structural j => j

theorem normalItems_of_canonical : (items : List Json) → CanonicalItems items → normalItems items = items
  | [], _ => rfl
  | j :: rest, ⟨hj, hrest⟩ => by
    rw [normalItems, normal_of_canonical j hj, normalItems_of_canonical rest hrest]
  termination_by structural items => items

theorem normalMembers_of_canonical : (members : List (String × Json)) → CanonicalMembers members →
    normalMembers members = members
  | [], _ => rfl
  | m :: rest, ⟨hm, hlt, hrest⟩ => by
    rw [normalMembers, normalMember_of_canonical m hm, normalMembers_of_canonical rest hrest,
      insertMember_of_lt hlt]
  termination_by structural members => members

theorem normalMember_of_canonical : (m : String × Json) → CanonicalMember m → normalMember m = m
  | (key, value), hm => by rw [normalMember, normal_of_canonical value hm]
  termination_by structural m => m

end

end Json

theorem Fields.ofMembers_members (fields : Fields) : Fields.ofMembers fields.members = fields := by
  obtain ⟨members, hcanonical⟩ := fields
  simp only [Fields.ofMembers, Json.normalMembers_of_canonical members hcanonical]

end SignalRelay
