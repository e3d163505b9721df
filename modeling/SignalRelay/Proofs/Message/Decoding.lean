import SignalRelay.Proofs.Json.Evaluation
import SignalRelay.Proofs.Message.RoundTrip

/-!
# What can be decoded

A reader gives back trees of a certain kind only, whatever text it is given.  The members of a payload
that was decoded are neither called `type` nor `playerId`, since these names stand for the kind and the
stamp, and nest no deeper than the reader goes.

* `Json.Gives` says what a reader gives back, with a lemma for each loop; `gives_value` bounds the depth.
* `Json.depth_normal_le` and `Json.exists_of_mem_normalMembers`: the canonical form adds neither depth nor
  names.
* `Signal.clear_of_ofFrame?` is what is known of a payload that was decoded.
-/

namespace SignalRelay

namespace Json

/-- Whatever a reader reads has the property `P`. -/
def Gives {α : Type} (read : Reader α) (P : α → Prop) : Prop := ∀ cs x rest, read cs = .ok (x, rest) → P x

section
variable {α σ : Type} {read : Reader α} {P : α → Prop}

theorem Gives.memberValue (h : Gives read P) : Gives (memberValue read) P := by
  intro cs x rest hx
  unfold Json.memberValue at hx
  split at hx
  · cases hx
  · exact h _ _ _ hx
  · cases hx

theorem Gives.elements (h : Gives read P) (fuel : Nat) (first : Bool) :
    Gives (elements read fuel first) fun xs => ∀ x ∈ xs, P x := by
  induction fuel generalizing first with
  | zero =>
    intro cs xs rest hxs
    cases hxs
  | succ fuel ih =>
    intro cs xs rest hxs
    unfold Json.elements at hxs
    obtain ⟨place, -, hxs⟩ := of_bind_eq_ok hxs
    cases place with
    | closed rest' =>
      obtain ⟨rfl, -⟩ := Prod.mk.inj (Except.ok.inj hxs)
      simp
    | item cs =>
      obtain ⟨⟨x, cs'⟩, hx, hxs⟩ := of_bind_eq_ok hxs
      obtain ⟨⟨ys, rest'⟩, hys, hxs⟩ := of_bind_eq_ok hxs
      obtain ⟨rfl, -⟩ := Prod.mk.inj (Except.ok.inj hxs)
      intro y hy
      rcases List.mem_cons.1 hy with rfl | hy
      · exact h _ _ _ hx
      · exact ih false _ _ _ hys y hy

/-- What every member keeps is kept by all of them. -/
theorem gives_membersOf {member : σ → String → Reader σ} {I : σ → Prop}
    (hmember : ∀ s key, I s → Gives (member s key) I) {start : σ} (hstart : I start) :
    Gives (membersOf member start) I := by
  have hloop : ∀ fuel first s, I s → Gives (members member fuel first s) I := by
    intro fuel
    induction fuel with
    | zero =>
      intro first s _ cs s' rest hs'
      cases hs'
    | succ fuel ih =>
      intro first s hs cs s' rest hs'
      unfold members at hs'
      obtain ⟨place, -, hs'⟩ := of_bind_eq_ok hs'
      split at hs'
      · obtain ⟨rfl, -⟩ := Prod.mk.inj (Except.ok.inj hs')
        exact hs
      · obtain ⟨⟨key, cs'⟩, -, hs'⟩ := of_bind_eq_ok hs'
        obtain ⟨⟨t, cs''⟩, ht, hs'⟩ := of_bind_eq_ok hs'
        exact ih false t (hmember s key hs _ _ _ ht) _ _ _ hs'
      · cases hs'
  exact fun cs => hloop _ true start hstart cs

/-- A member is put behind the others. -/
theorem gives_gather {read : Reader Json} {P : Json → Prop} (h : Gives read P) (ms : List (String × Json))
    (key : String) : Gives (gather read ms key) fun ms' => ∃ v, P v ∧ ms' = ms ++ [(key, v)] := by
  intro cs ms' rest hms'
  obtain ⟨⟨v, cs'⟩, hv, hms'⟩ := of_bind_eq_ok hms'
  obtain ⟨rfl, -⟩ := Prod.mk.inj (Except.ok.inj hms')
  exact ⟨v, h.memberValue _ _ _ hv, rfl⟩

end

/-! ### Depth -/

theorem depthItems_le_iff {items : List Json} {n : Nat} :
    depthItems items ≤ n ↔ ∀ j ∈ items, j.depth ≤ n := by
  induction items with
  | nil => simp [depthItems]
  | cons j rest ih => rw [depthItems, Nat.max_le, ih, List.forall_mem_cons]

theorem depthMembers_le_iff {ms : List (String × Json)} {n : Nat} :
    depthMembers ms ≤ n ↔ ∀ m ∈ ms, m.2.depth ≤ n := by
  induction ms with
  | nil => simp [depthMembers]
  | cons m rest ih => rw [depthMembers, Nat.max_le, ih, List.forall_mem_cons, depthMember]

/-- What ends in a value that does not nest stays within any depth. -/
private theorem depth_le_of_leaf {α : Type} {read : Except Fault α} {f : α → Except Fault (Json × List Char)}
    (hf : ∀ x y, f x = .ok y → y.1.depth = 0) {j : Json} {rest : List Char}
    (h : read >>= f = .ok (j, rest)) (d : Nat) : j.depth ≤ d := by
  obtain ⟨x, -, hx⟩ := of_bind_eq_ok h
  exact Nat.le_trans (Nat.le_of_eq (hf x _ hx)) (Nat.zero_le d)

/-- A value nests no deeper than its reader may go. -/
theorem gives_value (d : Nat) : Gives (value d) fun j => j.depth ≤ d := by
  induction d using Nat.strongRecOn with
  | ind d ih =>
    intro cs j rest hj
    unfold value at hj
    split at hj
    · cases hj
    · exact depth_le_of_leaf (fun _ _ h => Except.ok.inj h ▸ rfl) hj d
    · exact depth_le_of_leaf (fun _ _ h => Except.ok.inj h ▸ rfl) hj d
    · exact depth_le_of_leaf (fun _ _ h => Except.ok.inj h ▸ rfl) hj d
    · exact depth_le_of_leaf (fun _ _ h => Except.ok.inj h ▸ rfl) hj d
    · split at hj
      · cases hj
      · rename_i d
        obtain ⟨⟨items, rest'⟩, hitems, hj⟩ := of_bind_eq_ok hj
        obtain ⟨rfl, -⟩ := Prod.mk.inj (Except.ok.inj hj)
        have hle := (ih d (Nat.lt_succ_self d)).elements _ true _ _ _ hitems
        exact Nat.succ_le_succ (depthItems_le_iff.2 hle)
    · split at hj
      · cases hj
      · rename_i d
        obtain ⟨⟨ms, rest'⟩, hms, hj⟩ := of_bind_eq_ok hj
        obtain ⟨rfl, -⟩ := Prod.mk.inj (Except.ok.inj hj)
        have hle : ∀ m ∈ ms, m.2.depth ≤ d := by
          refine gives_membersOf (I := fun ms => ∀ m ∈ ms, m.2.depth ≤ d) (fun ms key hms => ?_)
            (by simp) _ _ _ hms
          intro cs ms' rest hms'
          obtain ⟨v, hv, rfl⟩ := gives_gather (ih d (Nat.lt_succ_self d)) ms key _ _ _ hms'
          exact List.forall_mem_append.2 ⟨hms, by simpa using hv⟩
        exact Nat.succ_le_succ (depthMembers_le_iff.2 hle)
    · split at hj
      · exact depth_le_of_leaf (fun _ _ h => Except.ok.inj h ▸ rfl) hj d
      · cases hj

/-! ### Canonical form -/

/-- What is true of the new member and of the old ones is true of all. -/
theorem depthMembers_insertMember_le (override : Bool) (m : String × Json) (l : List (String × Json)) :
    depthMembers (insertMember override m l) ≤ max m.2.depth (depthMembers l) := by
  refine depthMembers_le_iff.2 fun x hx => ?_
  rcases mem_insertMember hx with rfl | hx
  · exact Nat.le_max_left _ _
  · exact Nat.le_trans (depthMembers_le_iff.1 (Nat.le_refl _) x hx) (Nat.le_max_right _ _)

mutual

/-- The canonical form nests no deeper. -/
theorem depth_normal_le : (j : Json) → (normal j).depth ≤ j.depth
  | .null | .bool _ | .num _ | .str _ => Nat.le_refl _
  | .arr items => Nat.succ_le_succ (depthItems_normalItems_le items)
  | .obj members => Nat.succ_le_succ (depthMembers_normalMembers_le members)
  termination_by structural j => j

theorem depthItems_normalItems_le : (items : List Json) → depthItems (normalItems items) ≤ depthItems items
  | [] => Nat.le_refl _
  | j :: rest => by
    have hj := depth_normal_le j
    have hrest := depthItems_normalItems_le rest
    simp only [normalItems, depthItems]
    omega
  termination_by structural items => items

theorem depthMembers_normalMembers_le : (members : List (String × Json)) →
    depthMembers (normalMembers members) ≤ depthMembers members
  | [] => Nat.le_refl _
  | m :: rest => by
    have hm := depthMember_normalMember_le m
    have hrest := depthMembers_normalMembers_le rest
    have hinsert := depthMembers_insertMember_le false (normalMember m) (normalMembers rest)
    rw [show (normalMember m).2.depth = depthMember (normalMember m) from (depthMember.eq_1 _ _).symm]
      at hinsert
    simp only [normalMembers, depthMembers]
    omega
  termination_by structural members => members

theorem depthMember_normalMember_le : (m : String × Json) → depthMember (normalMember m) ≤ depthMember m
  | (_, value) => depth_normal_le value
  termination_by structural m => m

end

/-- The canonical form has no new names. -/
theorem exists_of_mem_normalMembers {ms : List (String × Json)} {x : String × Json}
    (h : x ∈ normalMembers ms) :
    ∃ m ∈ ms, m.1 = x.1 := by
  induction ms with
  | nil => cases h
  | cons m rest ih =>
    rcases mem_insertMember h with rfl | h
    · exact ⟨m, List.mem_cons_self, by rw [normalMember]⟩
    · obtain ⟨n, hn, hname⟩ := ih h
      exact ⟨n, List.mem_cons_of_mem m hn, hname⟩

end Json

open Json

theorem Fields.get?_ofMembers_eq_none {ms : List (String × Json)} {key : String} (h : ∀ m ∈ ms, m.1 ≠ key) :
    (Fields.ofMembers ms).get? key = none := by
  refine List.lookup_eq_none_iff.2 fun x hx => ?_
  obtain ⟨m, hm, hname⟩ := exists_of_mem_normalMembers hx
  have hne := h m hm
  rw [hname] at hne
  simpa using Ne.symm hne

/-! ### Payloads -/

/-- No member that a payload carries along bears a name that stands for something else. -/
def Payload.Clear (payload : Payload) : Prop := payload.get? "type" = none ∧ payload.get? "playerId" = none

namespace Payload

/-- Members that are called neither way make such a payload. -/
theorem clear_of_ofMembers? {ms : List (String × Json)} {payload : Payload} {n : Nat}
    (htype : ∀ m ∈ ms, m.1 ≠ "type") (hdepth : ∀ m ∈ ms, m.2.depth ≤ n) (h : ofMembers? ms = some payload) :
    payload.Clear ∧ depthMembers payload.fields.members ≤ n := by
  obtain ⟨playerId, -, h⟩ := Option.bind_eq_some_iff.1 h
  obtain rfl := Option.some.inj h
  refine ⟨⟨?_, ?_⟩, ?_⟩
  · exact Fields.get?_ofMembers_eq_none fun m hm => htype m (List.mem_filter.1 hm).1
  · exact Fields.get?_ofMembers_eq_none fun m hm => by simpa using (List.mem_filter.1 hm).2
  · exact Nat.le_trans (depthMembers_normalMembers_le _)
      (depthMembers_le_iff.2 fun m hm => hdepth m (List.mem_filter.1 hm).1)

end Payload

/-! ### Messages -/

namespace Signal

private theorem ofMembers?_of_routed {kind : Kind} {ms : List (String × Json)} {routed : RoutedKind}
    {payload : Payload} (h : ofMembers? kind ms = some (.routed routed payload)) :
    Payload.ofMembers? ms = some payload := by
  cases kind <;> simp [ofMembers?, Option.bind_eq_some_iff] at h
  exact h.1

/-- Payloads have no array form. -/
private theorem ofItems?_ne_routed (kind : Kind) (items : List Json) (routed : RoutedKind)
    (payload : Payload) :
    ofItems? kind items ≠ some (.routed routed payload) := by
  intro h
  unfold ofItems? at h
  split at h <;> simp [Option.bind_eq_some_iff] at h

/-- The members that have been read so far are not called `type`, and nest no deeper than the reader goes. -/
private theorem gives_draft : Gives (membersOf Draft.member ⟨none, []⟩) fun draft =>
    ∀ m ∈ draft.members, m.1 ≠ "type" ∧ m.2.depth ≤ maxDepth - 1 := by
  refine gives_membersOf (fun draft key hdraft cs draft' rest h => ?_) (by simp)
  unfold Draft.member at h
  split at h
  · split at h
    · cases h
    · obtain ⟨⟨kind, cs'⟩, -, h⟩ := of_bind_eq_ok h
      obtain ⟨rfl, -⟩ := Prod.mk.inj (Except.ok.inj h)
      exact hdraft
  · rename_i hkey
    obtain ⟨⟨ms, cs'⟩, hms, h⟩ := of_bind_eq_ok h
    obtain ⟨rfl, -⟩ := Prod.mk.inj (Except.ok.inj h)
    obtain ⟨v, hv, rfl⟩ := gives_gather (gives_value _) draft.members key _ _ _ hms
    exact List.forall_mem_append.2 ⟨hdraft, by simpa using ⟨hkey, hv⟩⟩

private theorem of_expect_eq_ok {m : Option Signal} {m' : Signal} {rest rest' : List Char}
    (h : expect m rest = .ok (m', rest')) : m = some m' := by
  cases m with
  | none => cases h
  | some m => rw [(Prod.mk.inj (Except.ok.inj h)).1]

/-- Whatever text a payload is read from, its members bear no other names, and are not too deep. -/
theorem gives_read : Gives read fun m => ∀ kind payload, m = .routed kind payload →
    payload.Clear ∧ depthMembers payload.fields.members ≤ maxDepth - 1 := by
  rintro cs m rest h kind payload rfl
  unfold read at h
  split at h
  · obtain ⟨⟨draft, rest'⟩, hdraft, h⟩ := of_bind_eq_ok h
    obtain ⟨kind', -, hmembers⟩ := Option.bind_eq_some_iff.1 (of_expect_eq_ok h)
    have hms := gives_draft _ _ _ hdraft
    exact Payload.clear_of_ofMembers? (fun m hm => (hms m hm).1) (fun m hm => (hms m hm).2)
      (ofMembers?_of_routed hmembers)
  · obtain ⟨place, -, h⟩ := of_bind_eq_ok h
    cases place with
    | closed rest' => cases h
    | item cs' =>
      obtain ⟨⟨kind', cs''⟩, -, h⟩ := of_bind_eq_ok h
      obtain ⟨⟨items, rest'⟩, -, h⟩ := of_bind_eq_ok h
      exact absurd (of_expect_eq_ok h) (ofItems?_ne_routed kind' items kind payload)
  · cases h

private theorem of_ofText?_eq_ok {content : String} {m : Signal} (h : ofText? content = .ok m) :
    ∃ rest, read content.toList = .ok (m, rest) := by
  obtain ⟨⟨m', rest⟩, hread, h⟩ := of_bind_eq_ok h
  obtain ⟨-, -, h⟩ := of_bind_eq_ok h
  obtain rfl := Except.ok.inj h
  exact ⟨rest, hread⟩

/-- A payload that has been decoded from a frame can be told from its kind and its stamp, and be
written again. -/
theorem clear_of_ofFrame? {content : Inbound} {kind : RoutedKind} {payload : Payload}
    (h : ofFrame? content = .ok (.routed kind payload)) :
    payload.Clear ∧ depthMembers payload.fields.members ≤ maxDepth - 1 := by
  have hmap : ∀ {read : Except Fault Signal} {m}, read.mapError FrameError.unreadable = .ok m →
      read = .ok m := by
    intro read m hread
    cases read with
    | error e => cases hread
    | ok m' => rw [Except.ok.inj hread]
  have htext : ∃ content, ofText? content = .ok (.routed kind payload) := by
    cases content with
    | text content => exact ⟨content, hmap h⟩
    | binary octets =>
      simp only [ofFrame?] at h
      split at h
      · rename_i content _
        exact ⟨content, hmap h⟩
      · cases h
  obtain ⟨content, htext⟩ := htext
  obtain ⟨rest, hread⟩ := of_ofText?_eq_ok htext
  exact gives_read _ _ _ hread kind payload rfl

end Signal

end SignalRelay
