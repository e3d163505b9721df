import SignalRelay.Proofs.Json.Evaluation

/-!
# Members in another order

Documents that denote the same value are read as trees that differ at most in the order of members with
distinct names, unless none of them can be read.

* `Json.Alike` relates such trees.  A function respects it if it respects a change of one element
  (`Alike.respects`) and of the members of one object (`Rearranged`).
* `Alike.normal_eq`: the canonical form is the same.
* `Doc.Alike.value?`: so far the documents, this far the trees.
-/

namespace SignalRelay

namespace Json

/-- In an object, one value has been changed as `R` says, or the members stand in another order. -/
inductive Rearranged (R : Json → Json → Prop) : List (String × Json) → List (String × Json) → Prop
  | refl (ms : List (String × Json)) : Rearranged R ms ms
  | member {j j' : Json} (h : R j j') (before : List (String × Json)) (key : String)
      (behind : List (String × Json)) :
      Rearranged R (before ++ (key, j) :: behind) (before ++ (key, j') :: behind)
  | reorder {ms ms' : List (String × Json)} (h : ms.Perm ms') (hnames : (ms.map Prod.fst).Nodup) :
      Rearranged R ms ms'

/-- Trees that differ at most in the order of members with pairwise distinct names, in objects at any
depth. -/
inductive Alike : Json → Json → Prop
  | refl (j : Json) : Alike j j
  | trans {j j' j'' : Json} (h : Alike j j') (h' : Alike j' j'') : Alike j j''
  | item {j j' : Json} (h : Alike j j') (before behind : List Json) :
      Alike (.arr (before ++ j :: behind)) (.arr (before ++ j' :: behind))
  | member {j j' : Json} (h : Alike j j') (before : List (String × Json)) (key : String)
      (behind : List (String × Json)) :
      Alike (.obj (before ++ (key, j) :: behind)) (.obj (before ++ (key, j') :: behind))
  | reorder {ms ms' : List (String × Json)} (h : ms.Perm ms') (hnames : (ms.map Prod.fst).Nodup) :
      Alike (.obj ms) (.obj ms')

/-- What is the same after every single change is the same for all trees that are alike. -/
theorem Alike.respects {β : Type} {f : Json → β}
    (hitem : ∀ {j j'}, Alike j j' → f j = f j' → ∀ before behind,
      f (.arr (before ++ j :: behind)) = f (.arr (before ++ j' :: behind)))
    (hobj : ∀ {ms ms'}, Rearranged (fun j j' => Alike j j' ∧ f j = f j') ms ms' → f (.obj ms) = f (.obj ms'))
    {j j' : Json} (h : Alike j j') : f j = f j' := by
  induction h with
  | refl j => rfl
  | trans _ _ ih ih' => exact ih.trans ih'
  | item h before behind ih => exact hitem h ih before behind
  | member h before key behind ih => exact hobj (.member ⟨h, ih⟩ before key behind)
  | reorder h hnames => exact hobj (.reorder h hnames)

/-! ### What does not depend on the order -/

section
variable {R : Json → Json → Prop} {ms ms' : List (String × Json)}

theorem Rearranged.filter (h : Rearranged R ms ms') (keep : String → Bool) :
    Rearranged R (ms.filter (keep ·.1)) (ms'.filter (keep ·.1)) := by
  cases h with
  | refl ms => exact .refl _
  | @member j j' h before key behind =>
    simp only [List.filter_append, List.filter_cons]
    split
    · exact .member h _ key _
    · exact .refl _
  | reorder h hnames => exact .reorder (h.filter _) (hnames.sublist (List.filter_sublist.map _))

/-- One member is the same as before or changed as `R` says, and otherwise there is none or there are
several. -/
theorem Rearranged.cases_few (h : Rearranged R ms ms') :
    ms = [] ∧ ms' = [] ∨ (∃ key j j', (R j j' ∨ j = j') ∧ ms = [(key, j)] ∧ ms' = [(key, j')]) ∨
      ∃ m n rest m' n' rest', ms = m :: n :: rest ∧ ms' = m' :: n' :: rest' := by
  cases h with
  | refl =>
    match ms with
    | [] => exact .inl ⟨rfl, rfl⟩
    | [(key, j)] => exact .inr (.inl ⟨key, j, j, .inr rfl, rfl, rfl⟩)
    | m :: n :: rest => exact .inr (.inr ⟨m, n, rest, m, n, rest, rfl, rfl⟩)
  | @member j j' h before key behind =>
    match before, behind with
    | [], [] => exact .inr (.inl ⟨key, j, j', .inl h, rfl, rfl⟩)
    | [], m :: behind => exact .inr (.inr ⟨_, m, behind, _, m, behind, rfl, rfl⟩)
    | [m], behind => exact .inr (.inr ⟨m, _, behind, m, _, behind, rfl, rfl⟩)
    | m :: n :: before, behind => exact .inr (.inr ⟨m, n, _, m, n, _, rfl, rfl⟩)
  | reorder h hnames =>
    match ms, ms' with
    | [], ms' => exact .inl ⟨rfl, h.nil_eq.symm⟩
    | [(key, j)], ms' => exact .inr (.inl ⟨key, j, j, .inr rfl, rfl, List.perm_singleton.1 h.symm⟩)
    | m :: n :: rest, m' :: n' :: rest' => exact .inr (.inr ⟨m, n, rest, m', n', rest', rfl, rfl⟩)
    | m :: n :: rest, [] => cases h.length_eq
    | m :: n :: rest, [m'] => cases h.length_eq

end

/-! ### The canonical form -/

theorem insertMember_comm {m n : String × Json} (h : m.1 ≠ n.1) (l : List (String × Json)) :
    insertMember false m (insertMember false n l) = insertMember false n (insertMember false m l) := by
  induction l with
  | nil =>
    simp only [insertMember]
    grind
  | cons x l ih =>
    simp only [insertMember]
    grind [insertMember]

theorem normalItems_eq_map (items : List Json) : normalItems items = items.map normal := by
  induction items with
  | nil => rfl
  | cons j rest ih => rw [normalItems, ih, List.map_cons]

private theorem fst_normalMember (m : String × Json) : (normalMember m).1 = m.1 := by
  obtain ⟨key, v⟩ := m
  rfl

theorem normalMembers_perm {ms ms' : List (String × Json)} (h : ms.Perm ms')
    (hnames : (ms.map Prod.fst).Nodup) :
    normalMembers ms = normalMembers ms' := by
  induction h with
  | nil => rfl
  | cons m _ ih => rw [normalMembers, normalMembers, ih (List.nodup_cons.1 hnames).2]
  | swap m n l =>
    have hne : n.1 ≠ m.1 := fun heq => (List.nodup_cons.1 hnames).1 (by simp [heq])
    exact insertMember_comm (m := normalMember n) (n := normalMember m)
      (by simpa only [fst_normalMember] using hne) _
  | trans h _ ih ih' => exact (ih hnames).trans (ih' ((h.map Prod.fst).nodup_iff.1 hnames))

theorem Rearranged.normalMembers {R : Json → Json → Prop} {ms ms' : List (String × Json)}
    (h : Rearranged R ms ms') (hR : ∀ j j', R j j' → normal j = normal j') :
    Json.normalMembers ms = Json.normalMembers ms' := by
  cases h with
  | refl ms => rfl
  | @member j j' h before key behind =>
    induction before with
    | nil => simp only [List.nil_append, Json.normalMembers, normalMember, hR j j' h]
    | cons m before ih => simp only [List.cons_append, Json.normalMembers, ih]
  | reorder h hnames => exact normalMembers_perm h hnames

/-- Trees that are alike have the same canonical form. -/
theorem Alike.normal_eq {j j' : Json} (h : Alike j j') : j.normal = j'.normal := by
  refine h.respects (fun _ heq before behind => ?_) fun hms => ?_
  · simp only [normal, normalItems_eq_map, List.map_append, List.map_cons, heq]
  · simp only [normal, hms.normalMembers fun j j' h => h.2]

/-! ### Documents and trees -/

section
variable {α β : Type} {R : α → α → Prop} {S : β → β → Prop} {x? y? z? : Option α}

private theorem rel_bind {f g : α → Option β} (h : Option.Rel R x? y?)
    (hfg : ∀ x y, R x y → Option.Rel S (f x) (g y)) :
    Option.Rel S (x?.bind f) (y?.bind g) := by
  cases h with
  | none => exact .none
  | some hxy => exact hfg _ _ hxy

private theorem rel_map {f g : α → β} (h : Option.Rel R x? y?) (hfg : ∀ x y, R x y → S (f x) (g y)) :
    Option.Rel S (x?.map f) (y?.map g) := by
  cases h with
  | none => exact .none
  | some hxy => exact .some (hfg _ _ hxy)

private theorem rel_trans (htrans : ∀ {x y z}, R x y → R y z → R x z) (h : Option.Rel R x? y?)
    (h' : Option.Rel R y? z?) : Option.Rel R x? z? := by
  cases h with
  | none => exact h'
  | some hxy =>
    cases h' with
    | some hyz => exact .some (htrans hxy hyz)

end

section
variable {d d' : Doc} {depth : Nat}

private theorem values?_item (h : Option.Rel Alike (d.value? depth) (d'.value? depth))
    (before behind : List Doc) :
    Option.Rel (fun js js' => ∀ pre, Alike (.arr (pre ++ js)) (.arr (pre ++ js')))
      (Doc.values? (before ++ d :: behind) depth) (Doc.values? (before ++ d' :: behind) depth) := by
  induction before with
  | nil =>
    simp only [List.nil_append, Doc.values?]
    refine rel_bind h fun j j' hj => ?_
    cases Doc.values? behind depth with
    | none => exact .none
    | some js => exact .some fun pre => .item hj pre js
  | cons e before ih =>
    simp only [List.cons_append, Doc.values?]
    cases e.value? depth with
    | none => exact .none
    | some j => exact rel_map ih fun js js' hjs pre => by simpa using hjs (pre ++ [j])

private theorem memberValues?_member (h : Option.Rel Alike (d.value? depth) (d'.value? depth))
    (before : List (List UInt16 × Doc)) (us : List UInt16) (behind : List (List UInt16 × Doc)) :
    Option.Rel (fun ms ms' => ∀ pre, Alike (.obj (pre ++ ms)) (.obj (pre ++ ms')))
      (Doc.memberValues? (before ++ (us, d) :: behind) depth)
      (Doc.memberValues? (before ++ (us, d') :: behind) depth) := by
  induction before with
  | nil =>
    simp only [List.nil_append, Doc.memberValues?, Doc.memberValue?]
    cases textOf? us with
    | none => exact .none
    | some key =>
      refine rel_bind (R := fun m m' => m.1 = key ∧ m'.1 = key ∧ Alike m.2 m'.2)
        (rel_map h fun j j' hj => ⟨rfl, rfl, hj⟩) fun m m' hm => ?_
      cases Doc.memberValues? behind depth with
      | none => exact .none
      | some ms =>
        obtain ⟨⟨_, j⟩, ⟨_, j'⟩⟩ := m, m'
        obtain ⟨rfl, rfl, hj⟩ := hm
        exact .some fun pre => .member hj pre _ ms
  | cons m before ih =>
    simp only [List.cons_append, Doc.memberValues?]
    cases Doc.memberValue? m depth with
    | none => exact .none
    | some n => exact rel_map ih fun ms ms' hms pre => by simpa using hms (pre ++ [n])

private theorem memberValues?_perm {ms ms' : List (List UInt16 × Doc)} (h : ms.Perm ms') (depth : Nat) :
    Option.Rel List.Perm (Doc.memberValues? ms depth) (Doc.memberValues? ms' depth) := by
  induction h with
  | nil => exact .some .nil
  | cons m _ ih =>
    simp only [Doc.memberValues?]
    cases Doc.memberValue? m depth with
    | none => exact .none
    | some n => exact rel_map ih fun _ _ => .cons n
  | swap m n ms =>
    simp only [Doc.memberValues?]
    cases Doc.memberValue? m depth <;> cases Doc.memberValue? n depth <;> cases Doc.memberValues? ms depth
    all_goals first
      | exact .none
      | exact .some (.swap _ _ _)
  | trans _ _ ih ih' => exact rel_trans .trans ih ih'

private theorem textOf?_of_memberValue? {m : List UInt16 × Doc} {n : String × Json}
    (h : Doc.memberValue? m depth = some n) : textOf? m.1 = some n.1 := by
  obtain ⟨us, d⟩ := m
  obtain ⟨key, hkey, hvalue⟩ := Option.bind_eq_some_iff.1 h
  obtain ⟨v, -, rfl⟩ := Option.map_eq_some_iff.1 hvalue
  exact hkey

private theorem exists_of_mem_memberValues? {ms : List (List UInt16 × Doc)} {ns : List (String × Json)}
    (h : Doc.memberValues? ms depth = some ns) {n : String × Json} (hn : n ∈ ns) :
    ∃ m ∈ ms, textOf? m.1 = some n.1 := by
  induction ms generalizing ns with
  | nil =>
    obtain rfl : [] = ns := Option.some.inj h
    cases hn
  | cons m ms ih =>
    obtain ⟨n', hn', h⟩ := Option.bind_eq_some_iff.1 h
    obtain ⟨ns', hns', rfl⟩ := Option.map_eq_some_iff.1 h
    rcases List.mem_cons.1 hn with rfl | hn
    · exact ⟨m, List.mem_cons_self, textOf?_of_memberValue? hn'⟩
    · obtain ⟨m', hm', hkey⟩ := ih hns' hn
      exact ⟨m', List.mem_cons_of_mem m hm', hkey⟩

/-- Names that are spelled with different units are different. -/
private theorem names_nodup {ms : List (List UInt16 × Doc)} {ns : List (String × Json)}
    (h : Doc.memberValues? ms depth = some ns) (hnames : (ms.map Prod.fst).Nodup) :
    (ns.map Prod.fst).Nodup := by
  induction ms generalizing ns with
  | nil =>
    obtain rfl : [] = ns := Option.some.inj h
    exact List.nodup_nil
  | cons m ms ih =>
    rw [List.map_cons, List.nodup_cons] at hnames
    obtain ⟨n, hn, h⟩ := Option.bind_eq_some_iff.1 h
    obtain ⟨ns, hns, rfl⟩ := Option.map_eq_some_iff.1 h
    rw [List.map_cons, List.nodup_cons]
    refine ⟨fun hmem => hnames.1 ?_, ih hns hnames.2⟩
    obtain ⟨n', hn', hsame⟩ := List.mem_map.1 hmem
    obtain ⟨m', hm', hkey'⟩ := exists_of_mem_memberValues? hns hn'
    rw [hsame] at hkey'
    rw [textOf?_inj (textOf?_of_memberValue? hn) hkey']
    exact List.mem_map_of_mem hm'

end

/-- Documents that denote the same value are read as trees that are alike, or none of them is read. -/
theorem Doc.Alike.value? {d d' : Doc} (h : d.Alike d') (depth : Nat) :
    Option.Rel Json.Alike (d.value? depth) (d'.value? depth) := by
  induction h generalizing depth with
  | refl d =>
    cases d.value? depth with
    | none => exact .none
    | some j => exact .some (.refl j)
  | trans _ _ ih ih' => exact rel_trans .trans (ih depth) (ih' depth)
  | item _ before behind ih =>
    cases depth with
    | zero => exact .none
    | succ depth => exact rel_map (values?_item (ih depth) before behind) fun js js' hjs => hjs []
  | member _ before us behind ih =>
    cases depth with
    | zero => exact .none
    | succ depth => exact rel_map (memberValues?_member (ih depth) before us behind) fun ms ms' hms => hms []
  | @reorder ms ms' hperm hnames =>
    cases depth with
    | zero => exact .none
    | succ depth =>
      simp only [Doc.value?]
      have hrel := memberValues?_perm hperm depth
      cases hns : Doc.memberValues? ms depth <;> cases hns' : Doc.memberValues? ms' depth <;>
        rw [hns, hns'] at hrel
      · exact .none
      · cases hrel
      · cases hrel
      · cases hrel with
        | some h => exact .some (.reorder h (names_nodup hns hnames))

end Json

end SignalRelay
