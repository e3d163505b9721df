import Mathlib.Data.List.TakeWhile
import SignalRelay.Proofs.Json.Acceptance
import SignalRelay.Proofs.Json.Reordering
import SignalRelay.Wire.Frame

/-!
# Messages in any layout

What message a text is decoded to depends on nothing but the value that it denotes: neither on blanks nor
on escapes nor on the order of members.  In particular the kind may stand anywhere among the members.

* `Signal.ofJson?` reads a message off the tree of a whole text, and `Signal.toOption_ofText?` says that
  reading text comes to the same.
* `Signal.ofJson?_eq` is the part about the order, put together from one lemma for each part of a message.
* `exists_spellsText_of_ofFrame?`: only texts of documents are decoded.
* `decoding_depends_on_value` is the result, for frames.
-/

namespace SignalRelay

open Json

/-! ### Trees that are alike -/

namespace Json

section
variable {j j' : Json} {α : Type}

theorem Alike.asText?_eq (h : Alike j j') : asText? j = asText? j' :=
  h.respects (fun _ _ _ _ => rfl) fun _ => rfl

theorem Alike.asBool?_eq (h : Alike j j') : asBool? j = asBool? j' :=
  h.respects (fun _ _ _ _ => rfl) fun _ => rfl

theorem Alike.asNumber?_eq (h : Alike j j') : asNumber? j = asNumber? j' :=
  h.respects (fun _ _ _ _ => rfl) fun _ => rfl

theorem Alike.asOptionalText?_eq (h : Alike j j') : asOptionalText? j = asOptionalText? j' :=
  h.respects (fun _ _ _ _ => rfl) fun _ => rfl

private theorem mapM_item {read : Json → Option α} (h : read j = read j') (before behind : List Json) :
    (before ++ j :: behind).mapM read = (before ++ j' :: behind).mapM read := by
  simp only [List.mapM_append, List.mapM_cons, h]

theorem Alike.asTexts?_eq (h : Alike j j') : asTexts? j = asTexts? j' :=
  h.respects (fun h _ before behind => mapM_item h.asText?_eq before behind) fun _ => rfl

end

section
variable {R : Json → Json → Prop} {ms ms' : List (String × Json)} {α : Type} {read : Json → Option α}

theorem Rearranged.required?_eq (h : Rearranged R ms ms') (hread : ∀ {j j'}, R j j' → read j = read j')
    (key : String) :
    required? ms key read = required? ms' key read := by
  unfold required?
  rcases (h.filter (· == key)).cases_few with
    ⟨hms, hms'⟩ | ⟨_, j, j', hj, hms, hms'⟩ | ⟨_, _, _, _, _, _, hms, hms'⟩ <;>
    rw [hms, hms']
  rcases hj with hj | rfl
  · exact hread hj
  · rfl

theorem Rearranged.optional?_eq (h : Rearranged R ms ms') (hread : ∀ {j j'}, R j j' → read j = read j')
    (key : String) (missing : α) : optional? ms key missing read = optional? ms' key missing read := by
  unfold optional?
  rcases (h.filter (· == key)).cases_few with
    ⟨hms, hms'⟩ | ⟨_, j, j', hj, hms, hms'⟩ | ⟨_, _, _, _, _, _, hms, hms'⟩ <;>
    rw [hms, hms']
  rcases hj with hj | rfl
  · exact hread hj
  · rfl

/-- Members that are carried along unread. -/
theorem Rearranged.ofMembers_eq (h : Rearranged R ms ms') (hR : ∀ {j j'}, R j j' → Alike j j')
    (keep : String → Bool) :
    Fields.ofMembers (ms.filter (keep ·.1)) = Fields.ofMembers (ms'.filter (keep ·.1)) := by
  simp only [Fields.ofMembers, (h.filter keep).normalMembers fun j j' h => (hR h).normal_eq]

end

section
variable {j j' : Json}

private theorem ofJson?_arr_eq_none {items : List Json} (h : 3 < items.length) :
    IceServer.ofJson? (.arr items) = none := by
  unfold IceServer.ofJson?
  split <;> simp_all

/-- An array stands for a server if it has at most three elements. -/
private theorem iceServer_item (h : Alike j j') (before behind : List Json) :
    IceServer.ofJson? (.arr (before ++ j :: behind)) = IceServer.ofJson? (.arr (before ++ j' :: behind)) := by
  by_cases hlong : 3 < (before ++ j :: behind).length
  · have hlength : (before ++ j' :: behind).length = (before ++ j :: behind).length := by simp
    rw [ofJson?_arr_eq_none hlong, ofJson?_arr_eq_none (hlength ▸ hlong)]
  · match before, behind with
    | [], [] | [], [_] | [], [_, _] | [_], [] | [_], [_] | [_, _], [] =>
      simp only [List.nil_append, List.cons_append, IceServer.ofJson?, h.asTexts?_eq, h.asOptionalText?_eq]
    | [], _ :: _ :: _ :: _ | [_], _ :: _ :: _ | [_, _], _ :: _ | _ :: _ :: _ :: _, _ =>
      exfalso
      simp only [List.length_append, List.length_cons] at hlong
      omega

theorem Alike.iceServer_eq (h : Alike j j') : IceServer.ofJson? j = IceServer.ofJson? j' := by
  refine h.respects (fun h _ before behind => iceServer_item h before behind) fun hms => ?_
  simp only [IceServer.ofJson?, hms.required?_eq (fun h => h.1.asTexts?_eq),
    hms.optional?_eq (fun h => h.1.asOptionalText?_eq)]

theorem Alike.servers_eq (h : Alike j j') : PeerOptions.serversOfJson? j = PeerOptions.serversOfJson? j' :=
  h.respects (fun h _ before behind => mapM_item h.iceServer_eq before behind) fun _ => rfl

theorem Alike.peerOptions_eq (h : Alike j j') : PeerOptions.ofJson? j = PeerOptions.ofJson? j' := by
  refine h.respects (fun _ _ _ _ => rfl) fun hms => ?_
  simp only [PeerOptions.ofJson?, hms.optional?_eq (fun h => h.1.servers_eq),
    hms.ofMembers_eq (fun h => h.1) (· != "iceServers")]

end

end Json

namespace Signal

section
variable {R : Json → Json → Prop} {j j' : Json} {ms ms' : List (String × Json)}

private theorem payload_eq (h : Rearranged R ms ms') (hR : ∀ {j j'}, R j j' → Alike j j') :
    Payload.ofMembers? ms = Payload.ofMembers? ms' := by
  simp only [Payload.ofMembers?, h.optional?_eq (fun h => (hR h).asOptionalText?_eq),
    h.ofMembers_eq hR (· != "playerId")]

/-- The members of a message of any kind may stand in any order. -/
theorem ofMembers?_eq (h : Rearranged R ms ms') (hR : ∀ {j j'}, R j j' → Alike j j') (kind : Kind) :
    ofMembers? kind ms = ofMembers? kind ms' := by
  cases kind <;>
    simp only [ofMembers?, payload_eq h hR, h.required?_eq (fun h => (hR h).asText?_eq),
      h.required?_eq (fun h => (hR h).asBool?_eq), h.required?_eq (fun h => (hR h).asNumber?_eq),
      h.required?_eq (fun h => (hR h).asTexts?_eq), h.required?_eq (fun h => (hR h).peerOptions_eq),
      h.optional?_eq (fun h => (hR h).asText?_eq), h.optional?_eq (fun h => (hR h).asOptionalText?_eq)]

private theorem ofItems?_eq_none {items : List Json} (h : 4 < items.length) (kind : Kind) :
    ofItems? kind items = none := by
  unfold ofItems?
  split <;> simp_all

private theorem ofItems?_item (h : Alike j j') (kind : Kind) (before behind : List Json) :
    ofItems? kind (before ++ j :: behind) = ofItems? kind (before ++ j' :: behind) := by
  by_cases hlong : 4 < (before ++ j :: behind).length
  · have hlength : (before ++ j' :: behind).length = (before ++ j :: behind).length := by simp
    rw [ofItems?_eq_none hlong, ofItems?_eq_none (hlength ▸ hlong)]
  · match before, behind with
    | [], [] | [], [_] | [], [_, _] | [], [_, _, _] | [_], [] | [_], [_] | [_], [_, _]
    | [_, _], [] | [_, _], [_] | [_, _, _], [] =>
      cases kind <;>
        simp only [List.nil_append, List.cons_append, ofItems?, h.asText?_eq, h.asBool?_eq,
          h.asNumber?_eq, h.asTexts?_eq, h.asOptionalText?_eq, h.peerOptions_eq]
    | [], _ :: _ :: _ :: _ :: _ | [_], _ :: _ :: _ :: _ | [_, _], _ :: _ :: _ | [_, _, _], _ :: _
    | _ :: _ :: _ :: _ :: _, _ =>
      exfalso
      simp only [List.length_append, List.length_cons] at hlong
      omega

end

/-! ### Messages and their trees -/

/-- The kind that the value of `type` names. -/
def kindOf? (j : Json) : Option Kind := j.asText?.bind Kind.ofName?

/-- Reads a message off the tree of its text. -/
def ofJson? : Json → Option Signal
  | .obj members => (required? members "type" kindOf?).bind fun kind =>
    ofMembers? kind (members.filter (·.1 != "type"))
  | .arr (name :: items) => (kindOf? name).bind fun kind => ofItems? kind items
  | _ => none

private theorem kindOf?_eq {j j' : Json} (h : Alike j j') : kindOf? j = kindOf? j' := by
  rw [kindOf?, kindOf?, h.asText?_eq]

theorem ofJson?_eq {j j' : Json} (h : Alike j j') : ofJson? j = ofJson? j' := by
  refine h.respects (fun h _ before behind => ?_) fun hms => ?_
  · cases before with
    | nil => simp only [List.nil_append, ofJson?, kindOf?_eq h]
    | cons name before => simp only [List.cons_append, ofJson?, ofItems?_item h]
  · simp only [ofJson?, hms.required?_eq (fun h => kindOf?_eq h.1),
      ofMembers?_eq (hms.filter (· != "type")) (fun h => h.1)]

/-! ### Reading text -/

/-- Only a string is read as one. -/
private theorem bind_asText? (d : Doc) (depth : Nat) :
    (d.value? depth).bind asText? = match d with | .str us => textOf? us | _ => none := by
  cases d with
  | null => rfl
  | bool b => rfl
  | num w => cases hw : Number.ofWritten? w <;> simp [Doc.value?, hw, asText?]
  | str us => cases hus : textOf? us <;> simp [Doc.value?, hus, asText?]
  | arr items =>
    cases depth with
    | zero => rfl
    | succ depth => cases hitems : Doc.values? items depth <;> simp [Doc.value?, hitems, asText?]
  | obj ms =>
    cases depth with
    | zero => rfl
    | succ depth => cases hms : Doc.memberValues? ms depth <;> simp [Doc.value?, hms, asText?]

private theorem evaluates_text? (d : Doc) (depth : Nat) :
    Evaluates text? d ((d.value? depth).bind asText?) := by
  intro ws cs rest hws hcs hrest
  rw [bind_asText?]
  obtain ⟨c, cs, rfl, hc⟩ := exists_opens_of_spells hcs
  have hother : c ≠ '"' → (text? (ws ++ (c :: cs ++ rest))).toOption = none := by
    intro hne
    rw [text?, List.cons_append, skipBlank_append hws hc.ne.1]
    split
    · rename_i heq
      exact absurd (List.cons.inj heq).1 hne
    · rfl
  cases d with
  | str us =>
    obtain ⟨inside, hinside, heq⟩ := hcs
    rw [text?, List.cons_append, skipBlank_append hws hc.ne.1, ← List.cons_append, heq]
    simp only [List.cons_append, List.append_assoc]
    exact toOption_stringBody hinside rest
  | num w => exact hother (Leads.ne hc (by decide))
  | bool b =>
    cases b <;>
    · obtain rfl : c = _ := hc
      exact hother (by decide)
  | _ =>
    obtain rfl : c = _ := hc
    exact hother (by decide)

private theorem evaluates_readKind (d : Doc) (depth : Nat) :
    Evaluates readKind d ((d.value? depth).bind kindOf?) := by
  intro ws cs rest hws hcs hrest
  have htext := evaluates_text? d depth ws cs rest hws hcs hrest
  rw [readKind, toOption_bind, htext]
  cases d.value? depth with
  | none => rfl
  | some j =>
    simp only [Option.bind_some, kindOf?]
    cases j.asText? with
    | none => rfl
    | some name =>
      simp only [Option.map_some, Option.bind_some]
      cases Kind.ofName? name <;> rfl

/-- What a draft becomes by one more member. -/
private def step (draft : Draft) (key : String) (d : Doc) : Option Draft :=
  if key = "type" then
    if draft.kind.isSome then none
    else ((d.value? (maxDepth - 1)).bind kindOf?).map fun kind => { draft with kind := some kind }
  else (d.value? (maxDepth - 1)).map fun v => { draft with members := draft.members ++ [(key, v)] }

private theorem evaluates_draft (draft : Draft) (key : String) (d : Doc) :
    EvaluatesMember (draft.member key) d (step draft key d) := by
  intro before behind cs rest hbefore hbehind hcs hrest
  unfold Draft.member step
  by_cases hkey : key = "type"
  · simp only [if_pos hkey]
    split
    · rfl
    · exact ((evaluates_readKind d (maxDepth - 1)).memberValue.map fun kind =>
        { draft with kind := some kind }) before behind cs rest hbefore hbehind hcs hrest
  · simp only [if_neg hkey]
    have hread := (evaluates_gather (evaluates_value d (maxDepth - 1)) draft.members key).map fun ms =>
      ({ draft with members := ms } : Draft)
    rw [Option.map_map] at hread
    exact hread before behind cs rest hbefore hbehind hcs hrest

private theorem step_type (draft : Draft) (d : Doc) :
    step draft "type" d = if draft.kind.isSome then none
      else ((d.value? (maxDepth - 1)).bind kindOf?).map fun kind => { draft with kind := some kind } :=
  if_pos rfl

private theorem step_other {key : String} (hkey : key ≠ "type") (draft : Draft) (d : Doc) :
    step draft key d = (d.value? (maxDepth - 1)).map fun v =>
      { draft with members := draft.members ++ [(key, v)] } :=
  if_neg hkey

/-- The kind that a draft has in the end, if it begins with `kind` and `types` are the members
called `type`. -/
private def settle : Option Kind → List (String × Json) → Option (Option Kind)
  | kind, [] => some kind
  | none, [(_, j)] => (kindOf? j).map some
  | _, _ => none

/-- Reading all members comes to picking out those that are called `type`, wherever they stand. -/
private theorem foldlM_step (ms : List (List UInt16 × Doc)) (draft : Draft) :
    ms.foldlM (fun draft m => (textOf? m.1).bind fun key => step draft key m.2) draft =
      (Doc.memberValues? ms (maxDepth - 1)).bind fun vs =>
        (settle draft.kind (vs.filter (·.1 == "type"))).map fun kind =>
          ⟨kind, draft.members ++ vs.filter (·.1 != "type")⟩ := by
  induction ms generalizing draft with
  | nil => simp [Doc.memberValues?, settle]
  | cons m ms ih =>
    obtain ⟨us, d⟩ := m
    rw [List.foldlM_cons, Doc.memberValues?, Doc.memberValue?]
    cases textOf? us with
    | none => rfl
    | some key =>
      simp only [Option.bind_some, Option.bind_eq_bind]
      by_cases hkey : key = "type"
      · subst hkey
        rw [step_type]
        obtain ⟨kind?, members⟩ := draft
        cases kind? with
        | some kind =>
          -- the kind has been read before
          cases d.value? (maxDepth - 1) <;> cases Doc.memberValues? ms (maxDepth - 1) <;> simp [settle]
        | none =>
          cases d.value? (maxDepth - 1) with
          | none => rfl
          | some v =>
            cases hkind : kindOf? v with
            | none =>
              cases Doc.memberValues? ms (maxDepth - 1) with
              | none => simp [hkind]
              | some vs => cases htypes : vs.filter (·.1 == "type") <;> simp [hkind, htypes, settle]
            | some kind =>
              simp only [Option.bind_some, hkind, Option.map_some, Option.isSome_none, Bool.false_eq_true,
                if_false, ih]
              cases Doc.memberValues? ms (maxDepth - 1) with
              | none => rfl
              | some vs => cases htypes : vs.filter (·.1 == "type") <;> simp [hkind, htypes, settle]
      · rw [step_other hkey]
        cases d.value? (maxDepth - 1) with
        | none => rfl
        | some v =>
          simp only [Option.map_some, Option.bind_some, ih]
          cases Doc.memberValues? ms (maxDepth - 1) with
          | none => rfl
          | some vs => simp [hkey]

private theorem toOption_expect (m? : Option Signal) (rest : List Char) :
    (expect m? rest).toOption = m?.map (·, rest) := by
  cases m? <;> rfl

/-- An object is read as its members say. -/
private theorem toOption_readObject {ms : List (List UInt16 × Doc)} {inside : List Char}
    (h : Doc.SpellsMembers true ms inside) (rest : List Char) :
    (readObject (inside ++ rest)).toOption = (((Doc.obj ms).value? maxDepth).bind ofJson?).map (·, rest) := by
  have hmembers := evaluates_members step (fun m _ draft key => evaluates_draft draft key m.2) h
    (length_lt_of_append inside rest) ⟨none, []⟩ rest
  have hvalue : (Doc.obj ms).value? maxDepth = (Doc.memberValues? ms (maxDepth - 1)).map .obj := rfl
  rw [readObject, toOption_bind, membersOf, hmembers, foldlM_step, hvalue]
  cases Doc.memberValues? ms (maxDepth - 1) with
  | none => rfl
  | some vs =>
    simp only [Option.map_some, Option.bind_some, ofJson?, required?, List.nil_append]
    generalize vs.filter (·.1 == "type") = types
    match types with
    | [] => rfl
    | [(_, j)] => cases hkind : kindOf? j <;> simp [settle, hkind, toOption_expect]
    | _ :: _ :: _ => rfl

/-- An array is read as its elements say. -/
private theorem toOption_readArray {items : List Doc} {inside : List Char}
    (h : Doc.SpellsItems true items inside) (rest : List Char) :
    (readArray (inside ++ rest)).toOption =
      (((Doc.arr items).value? maxDepth).bind ofJson?).map (·, rest) := by
  cases items with
  | nil =>
    obtain ⟨ws, hws, rfl⟩ := h
    rw [readArray, List.append_assoc, List.singleton_append, advance_closed (.inl rfl) hws]
    rfl
  | cons d items =>
    obtain ⟨lead, text, behind, hlead, htext, hbehind, rfl⟩ := h
    have hkind := evaluates_readKind d (maxDepth - 1) [] text (behind ++ rest) blanks_nil htext
      (delimited_items hbehind rest)
    have hitems := evaluates_elements (fun d _ => evaluates_value d (maxDepth - 1)) hbehind
      (length_lt_of_append behind rest) rest
    rw [List.nil_append] at hkind
    simp only [List.append_assoc]
    rw [readArray, advance_lead (.inl rfl) hlead (begins_of_spells htext)]
    have hvalue : (Doc.arr (d :: items)).value? maxDepth =
        (Doc.values? (d :: items) (maxDepth - 1)).map .arr := rfl
    simp only [toOption_bind, toOption_ok, Option.bind_some, hkind, hvalue, Doc.values?, Doc.values?_eq_mapM]
    cases d.value? (maxDepth - 1) with
    | none => rfl
    | some j =>
      simp only [Option.bind_some]
      cases hkind : kindOf? j with
      | none => cases items.mapM (·.value? (maxDepth - 1)) <;> simp [ofJson?, hkind]
      | some kind =>
        simp only [Option.map_some, Option.bind_some, hitems]
        cases items.mapM (·.value? (maxDepth - 1)) with
        | none => rfl
        | some vs => simp [ofJson?, hkind, toOption_expect]

/-- A message is read as the tree of its text says. -/
theorem evaluates_read (d : Doc) : Evaluates read d ((d.value? maxDepth).bind ofJson?) := by
  intro ws cs rest hws hcs hrest
  obtain ⟨c, cs, rfl, hc⟩ := exists_opens_of_spells hcs
  have hother : c ≠ '[' → c ≠ '\x7b' → (read (ws ++ (c :: cs ++ rest))).toOption = none := by
    intro harr hobj
    rw [read, List.cons_append, skipBlank_append hws hc.ne.1]
    split
    · rename_i heq
      exact absurd (List.cons.inj heq).1 hobj
    · rename_i heq
      exact absurd (List.cons.inj heq).1 harr
    · rfl
  cases d with
  | arr items =>
    obtain ⟨inside, hinside, heq⟩ := hcs
    obtain ⟨rfl, rfl⟩ := List.cons.inj heq
    rw [read, List.cons_append, skipBlank_append hws hc.ne.1]
    exact toOption_readArray hinside rest
  | obj ms =>
    obtain ⟨inside, hinside, heq⟩ := hcs
    obtain ⟨rfl, rfl⟩ := List.cons.inj heq
    rw [read, List.cons_append, skipBlank_append hws hc.ne.1]
    exact toOption_readObject hinside rest
  | num w =>
    rw [hother (Leads.ne hc (by decide)) (Leads.ne hc (by decide)), Doc.value?]
    cases Number.ofWritten? w <;> rfl
  | str us =>
    obtain rfl : c = '"' := hc
    rw [hother (by decide) (by decide), Doc.value?]
    cases textOf? us <;> rfl
  | null =>
    obtain rfl : c = 'n' := hc
    exact hother (by decide) (by decide)
  | bool b =>
    cases b <;>
    · obtain rfl : c = _ := hc
      exact hother (by decide) (by decide)

/-- A whole text is read as its tree says. -/
theorem toOption_ofText? {d : Doc} {s : String} (h : d.SpellsText s) :
    (ofText? s).toOption = (d.value? maxDepth).bind ofJson? := by
  obtain ⟨before, cs, behind, hbefore, hbehind, hcs, hs⟩ := h
  have hfinished : finished behind = .ok () := if_pos (List.dropWhile_eq_nil_iff.2 hbehind)
  rw [ofText?, readAll, toOption_bind, hs,
    evaluates_read d before cs behind hbefore hcs (delimited_of_blanks hbehind)]
  cases (d.value? maxDepth).bind ofJson? with
  | none => rfl
  | some m => simp [hfinished, bind, Except.bind]

/-! ### Reading nothing else -/

private theorem accepts_text? : Accepts text? := by
  intro cs s rest h
  obtain ⟨ws, hws, hcs⟩ := exists_blanks cs
  unfold text? at h
  split at h
  · rename_i heq
    obtain ⟨us, text, htext, hstring⟩ := spellsString_of_stringBody h
    exact ⟨ws, .str us, text, hws, htext, by rw [← hstring, ← heq]; exact hcs⟩
  · cases h

private theorem accepts_readKind : Accepts readKind := by
  intro cs kind rest h
  obtain ⟨⟨name, rest'⟩, hname, h⟩ := of_bind_eq_ok h
  simp only at h
  split at h
  · obtain ⟨-, rfl⟩ := Prod.mk.inj (Except.ok.inj h)
    exact accepts_text? _ _ _ hname
  · cases h

private theorem accepts_draft (draft : Draft) (key : String) : AcceptsMember (draft.member key) := by
  intro cs draft' rest h
  unfold Draft.member at h
  split_ifs at h
  · obtain ⟨⟨kind, rest'⟩, hkind, h⟩ := of_bind_eq_ok h
    obtain ⟨-, rfl⟩ := Prod.mk.inj (Except.ok.inj h)
    exact accepts_readKind.memberValue _ _ _ hkind
  · obtain ⟨⟨ms, rest'⟩, hms, h⟩ := of_bind_eq_ok h
    obtain ⟨-, rfl⟩ := Prod.mk.inj (Except.ok.inj h)
    exact accepts_gather (accepts_value (maxDepth - 1)) draft.members key _ _ _ hms

private theorem eq_of_expect {m? : Option Signal} {m : Signal} {rest rest' : List Char}
    (h : expect m? rest = .ok (m, rest')) : rest = rest' := by
  cases m? with
  | none => cases h
  | some _ => exact (Prod.mk.inj (Except.ok.inj h)).2

/-- Whatever is read as a message is the text of a document. -/
theorem accepts_read : Accepts read := by
  intro cs m rest h
  obtain ⟨ws, hws, hcs⟩ := exists_blanks cs
  unfold read at h
  split at h <;> rename_i heq
  · obtain ⟨⟨draft, rest'⟩, hdraft, hm⟩ := of_bind_eq_ok h
    obtain rfl := eq_of_expect hm
    obtain ⟨ms, inside, hinside, rfl⟩ := spellsMembers_of_members accepts_draft hdraft
    exact ⟨ws, .obj ms, _, hws, ⟨inside, hinside, rfl⟩, hcs.trans (congrArg _ heq)⟩
  · obtain ⟨place, hplace, hgo⟩ := of_bind_eq_ok h
    rcases advance_cases hplace with ⟨ws', rest', rfl, hws', rfl⟩ | ⟨lead, cs', rfl, hlead, rfl⟩
    · cases hgo
    · obtain ⟨⟨kind, behind⟩, hkind, hgo⟩ := of_bind_eq_ok hgo
      obtain ⟨⟨items, rest'⟩, hitems, hm⟩ := of_bind_eq_ok hgo
      obtain rfl := eq_of_expect hm
      obtain ⟨ws', d, text, hws', htext, rfl⟩ := accepts_readKind _ _ _ hkind
      obtain ⟨ds, inside, hinside, rfl⟩ := spellsItems_of_elements (accepts_value (maxDepth - 1)) hitems
      refine ⟨ws, .arr (d :: ds), _, hws,
        ⟨_, ⟨lead ++ ws', text, inside, hlead.append hws', htext, hinside, rfl⟩, rfl⟩, ?_⟩
      rw [hcs, heq]
      simp
  · cases h

theorem exists_spellsText_of_ofText? {s : String} {m : Signal} (h : ofText? s = .ok m) :
    ∃ d : Doc, d.SpellsText s := by
  obtain ⟨⟨m', rest⟩, hm', h⟩ := of_bind_eq_ok h
  obtain ⟨⟨⟩, hfinished, -⟩ := of_bind_eq_ok h
  obtain ⟨ws, d, text, hws, htext, hs⟩ := accepts_read _ _ _ hm'
  have hrest : Blanks rest := by
    unfold finished at hfinished
    split_ifs at hfinished with hskip
    exact List.dropWhile_eq_nil_iff.1 hskip
  exact ⟨d, ws, text, rest, hws, hrest, htext, hs⟩

end Signal

/-- The text of a frame. -/
def Inbound.text? : Inbound → Option String
  | .text content => some content
  | .binary octets => (Utf8.decode octets).toOption

theorem Signal.toOption_ofFrame? {frame : Inbound} {s : String} (h : frame.text? = some s) :
    (ofFrame? frame).toOption = (ofText? s).toOption := by
  have hmap : ((ofText? s).mapError FrameError.unreadable).toOption = (Signal.ofText? s).toOption := by
    cases ofText? s <;> rfl
  cases frame with
  | text content =>
    obtain rfl := Option.some.inj h
    exact hmap
  | binary octets =>
    rw [Inbound.text?] at h
    rw [ofFrame?]
    cases hdecode : Utf8.decode octets with
    | error e =>
      rw [hdecode] at h
      cases h
    | ok content =>
      rw [hdecode] at h
      obtain rfl := Option.some.inj h
      exact hmap

/-- No frame is decoded but those that carry the text of a document. -/
theorem exists_spellsText_of_ofFrame? {frame : Inbound} {m : Signal} (h : Signal.ofFrame? frame = .ok m) :
    ∃ (s : String) (d : Doc), frame.text? = some s ∧ d.SpellsText s := by
  have hread : ∀ {s}, frame.text? = some s → ∃ d : Doc, d.SpellsText s := by
    intro s hs
    have hm := Signal.toOption_ofFrame? hs
    rw [h] at hm
    exact Signal.exists_spellsText_of_ofText? (eq_ok_of_toOption hm.symm)
  cases htext : frame.text? with
  | some s =>
    obtain ⟨d, hd⟩ := hread htext
    exact ⟨s, d, rfl, hd⟩
  | none =>
    cases frame with
    | text content => cases htext
    | binary octets =>
      cases hdecode : Utf8.decode octets <;> simp [Inbound.text?, Signal.ofFrame?, hdecode] at htext h

/-- The trees of alike documents stand for the same message. -/
theorem ofFrame?_of_alike {d d' : Doc} (h : d.Alike d') {s t : String} (hs : d.SpellsText s)
    (ht : d'.SpellsText t) {frame frame' : Inbound} (hframe : frame.text? = some s)
    (hframe' : frame'.text? = some t) :
    (Signal.ofFrame? frame).toOption = (Signal.ofFrame? frame').toOption := by
  rw [Signal.toOption_ofFrame? hframe, Signal.toOption_ofFrame? hframe', Signal.toOption_ofText? hs,
    Signal.toOption_ofText? ht]
  have hvalue := h.value? maxDepth
  generalize d.value? maxDepth = j?, d'.value? maxDepth = j'? at hvalue
  cases hvalue with
  | none => rfl
  | some halike => exact Signal.ofJson?_eq halike

/-- What a frame is decoded to depends on nothing but the value that its text denotes.  Frames that do not
carry the text of a document are rejected.  If the texts of two frames differ only in blanks, in how
strings and names are escaped, and in the order of members of objects whose names are pairwise distinct,
at any depth, then both frames are rejected or both are decoded to the same message. -/
theorem decoding_depends_on_value :
    (∀ frame : Inbound, (∃ e, Signal.ofFrame? frame = .error e) ∨
      ∃ (s : String) (d : Doc), frame.text? = some s ∧ d.SpellsText s) ∧
    ∀ (d d' : Doc), d.Alike d' → ∀ (s t : String), d.SpellsText s → d'.SpellsText t →
      ∀ frame frame' : Inbound, frame.text? = some s → frame'.text? = some t →
        (∃ e e', Signal.ofFrame? frame = .error e ∧ Signal.ofFrame? frame' = .error e') ∨
          ∃ m, Signal.ofFrame? frame = .ok m ∧ Signal.ofFrame? frame' = .ok m := by
  constructor
  · intro frame
    cases hm : Signal.ofFrame? frame with
    | error e => exact .inl ⟨e, rfl⟩
    | ok m => exact .inr (exists_spellsText_of_ofFrame? hm)
  · intro d d' h s t hs ht frame frame' hframe hframe'
    have hsame := ofFrame?_of_alike h hs ht hframe hframe'
    cases hm : Signal.ofFrame? frame <;> cases hm' : Signal.ofFrame? frame' <;> rw [hm, hm'] at hsame
    · exact .inl ⟨_, _, rfl, rfl⟩
    · cases hsame
    · cases hsame
    · obtain rfl := Option.some.inj hsame
      exact .inr ⟨_, rfl, rfl⟩

/-- A keep-alive with blanks, with its kind behind the time, and with two letters escaped. -/
theorem decoding_depends_on_value_ping :
    let type := (unitsOf "type", Doc.str (unitsOf "ping"))
    let time := (unitsOf "time", Doc.num (.ofInt 1))
    let s := "\x7b\"type\":\"ping\",\"time\":1\x7d"
    let t := "\x7b \"time\" : 1,\"t\\u0079pe\":\"\\u0070ing\"\x7d\n"
    (Doc.obj [type, time]).Alike (.obj [time, type]) ∧ (Doc.obj [type, time]).SpellsText s ∧
      (Doc.obj [time, type]).SpellsText t ∧ Signal.ofFrame? (.text s) = .ok (.ping (.int 1)) ∧
      Signal.ofFrame? (.text t) = .ok (.ping (.int 1)) := by
  intro type time s t
  have hcomma : Lead false [','] := ⟨[], [], blanks_nil, blanks_nil, rfl⟩
  have hblank : Blanks [' '] := by simp [Blanks, isBlank]
  have hend : Doc.SpellsMembers false [] ['\x7d'] := ⟨[], blanks_nil, rfl⟩
  have hname : SpellsString time.1 "\"time\"".toList := ⟨_, spellsUnits_plain (by decide), rfl⟩
  have hone : SpellsNumber (.ofInt 1) ['1'] := spellsNumber_ofInt.2 (by decide +kernel)
  have htime : Doc.SpellsMember time "\"time\":1".toList :=
    ⟨_, [], [], _, hname, blanks_nil, blanks_nil, hone, rfl⟩
  have htimeBlanks : Doc.SpellsMember time "\"time\" : 1".toList :=
    ⟨_, [' '], [' '], _, hname, hblank, hblank, hone, rfl⟩
  have htype : Doc.SpellsMember type "\"type\":\"ping\"".toList :=
    ⟨"\"type\"".toList, [], [], "\"ping\"".toList, ⟨_, spellsUnits_plain (by decide), rfl⟩,
      blanks_nil, blanks_nil, ⟨_, spellsUnits_plain (by decide), rfl⟩, rfl⟩
  have hnameEscaped : SpellsUnits type.1 "t\\u0079pe".toList :=
    .plain (by decide) (by decide) (by decide) (.code (by decide) (spellsUnits_plain (by decide)))
  have hkindEscaped : SpellsUnits (unitsOf "ping") "\\u0070ing".toList :=
    .code (by decide) (spellsUnits_plain (by decide))
  have htypeEscaped : Doc.SpellsMember type "\"t\\u0079pe\":\"\\u0070ing\"".toList :=
    ⟨_, [], [], _, ⟨_, hnameEscaped, rfl⟩, blanks_nil, blanks_nil, ⟨_, hkindEscaped, rfl⟩, rfl⟩
  have halike : (Doc.obj [type, time]).Alike (.obj [time, type]) :=
    .reorder (.swap time type []) (by decide +kernel)
  have hs : (Doc.obj [type, time]).SpellsText s :=
    ⟨[], _, [], blanks_nil, blanks_nil,
      ⟨_, ⟨[], _, _, blanks_nil, htype, ⟨[','], _, _, hcomma, htime, hend, rfl⟩, rfl⟩, rfl⟩, by decide⟩
  have ht : (Doc.obj [time, type]).SpellsText t :=
    ⟨[], _, ['\n'], blanks_nil, by simp [Blanks, isBlank],
      ⟨_, ⟨[' '], _, _, hblank, htimeBlanks, ⟨[','], _, _, hcomma, htypeEscaped, hend, rfl⟩, rfl⟩,
        rfl⟩, by decide⟩
  have hping : Signal.ofFrame? (.text s) = .ok (.ping (.int 1)) := by decide +kernel
  refine ⟨halike, hs, ht, hping, ?_⟩
  rcases decoding_depends_on_value.2 _ _ halike s t hs ht (.text s) (.text t) rfl rfl with
    ⟨_, _, he, -⟩ | ⟨m, hm, hm'⟩
  · rw [hping] at he
    cases he
  · rw [hping] at hm
    rw [hm', hm]

end SignalRelay
