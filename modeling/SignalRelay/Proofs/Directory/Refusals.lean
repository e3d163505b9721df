import Mathlib.Data.List.Nodup
import SignalRelay.Proofs.Directory.Families
import SignalRelay.Proofs.Directory.Replay

/-!
# Refused claims

A claim is refused if what it comes to is taken all the same.  `Blocked` says for which claims that is so,
in terms of the ids alone: those with a number of their own cannot be given another, and all others can be
blocked by the largest number there is.

* `disambiguate_mem_iff`: exactly the blocked claims come to an id that is taken.
* `renameInSteps` takes an entry out of the directory while its new claim is settled, and
  `renameInSteps_eq` says that this comes to `rename`: a refused entry is put back where it was.
* `Regular` is what holds of a directory after any changes, so that `refusals_are_exact` holds of them all.
* `Alone` is when an entry that claims its own id again keeps it.
-/

namespace SignalRelay

/-- Why a claim cannot be made free next to the ids that are taken. -/
inductive Blocked (taken : List String) (claim : String) : Prop
  /-- A word with a number that is taken. -/
  | numbered (hend : endsInDigit claim = true) (hbase : (splitSuffix claim).1 ≠ "") (hmem : claim ∈ taken)
  /-- Digits alone, which are taken, as they are and with the next number behind them. -/
  | digits (hdigits : isDigits claim = true) (hmem : claim ∈ taken)
      (hnext : claim ++ toString (min (suffixNumber claim + 1) (2 ^ 128 - 1)) ∈ taken)
  /-- A word that is taken with the largest number behind it. -/
  | word (hne : claim ≠ "") (hend : endsInDigit claim = false)
      (hlast : claim ++ "340282366920938463463374607431768211455" ∈ taken)

section
variable {claim id : String} {taken : List String}

theorem numeral_suffixLimit :
    toString (2 ^ 128 - 1) = "340282366920938463463374607431768211455" := by decide +kernel

theorem splitSuffix_append_toString (hend : endsInDigit claim = false) (n : Nat) :
    splitSuffix (claim ++ toString n) = (claim, toString n) :=
  splitSuffix_of_append hend (isDigits_numeral n)

/-- The number behind a word is the number that was put there. -/
theorem suffixNumber_append (hend : endsInDigit claim = false) (n : Nat) :
    suffixNumber (claim ++ toString n) = n := by
  rw [suffixNumber_eq, splitSuffix_append_toString hend]
  exact numeralValue_numeral n

/-- A word can be given a free number unless the largest one is taken. -/
private theorem mem_of_word (hne : claim ≠ "") (hend : endsInDigit claim = false) :
    disambiguate claim taken ∈ taken ↔ claim ++ toString (2 ^ 128 - 1) ∈ taken := by
  have hfamily : ∀ n, InFamily claim (claim ++ toString n) := fun n =>
    (inFamily_iff_of_word hne hend).2 (by rw [splitSuffix_append_toString hend])
  constructor
  · intro hmem
    by_cases hsome : ∃ id ∈ taken, InFamily claim id
    · rw [disambiguate_of_inFamily hsome] at hmem
      -- the number is in the family, so it is not larger than the largest
      have hle := Finset.le_sup (f := suffixNumber) (mem_family.2 ⟨hmem, hfamily _⟩)
      rw [suffixNumber_append hend] at hle
      have hlast : min (1 + (family claim taken.toFinset).sup suffixNumber) (2 ^ 128 - 1) =
          2 ^ 128 - 1 := by omega
      rwa [hlast] at hmem
    · rw [disambiguate_of_not_inFamily fun id hid hin => hsome ⟨id, hid, hin⟩] at hmem
      refine absurd ⟨claim, hmem, (inFamily_iff_of_word hne hend).2 ?_⟩ hsome
      have hsplit : splitSuffix (claim ++ "") = (claim, "") := splitSuffix_of_append hend rfl
      rw [String.append_empty] at hsplit
      rw [hsplit]
  · intro hlast
    have hle := Finset.le_sup (f := suffixNumber) (mem_family.2 ⟨hlast, hfamily _⟩)
    rw [suffixNumber_append hend] at hle
    have hnumber : min (1 + (family claim taken.toFinset).sup suffixNumber) (2 ^ 128 - 1) =
        2 ^ 128 - 1 := by omega
    rwa [disambiguate_of_inFamily ⟨_, hlast, hfamily _⟩, hnumber]

/-- Exactly the blocked claims come to an id that is taken. -/
theorem disambiguate_mem_iff : disambiguate claim taken ∈ taken ↔ Blocked taken claim := by
  by_cases hdigits : isDigits claim = true
  · constructor
    · intro hmem
      by_cases hclaim : claim ∈ taken
      · rw [disambiguate_of_isDigits hdigits hclaim, Nat.add_comm] at hmem
        exact .digits hdigits hclaim hmem
      · rw [disambiguate_of_not_inFamily fun id hid hin =>
          hclaim ((inFamily_iff_of_isDigits hdigits).1 hin ▸ hid)] at hmem
        exact absurd hmem hclaim
    · rintro (⟨-, hbase, -⟩ | ⟨-, hmem, hnext⟩ | ⟨hne, hend, -⟩)
      · exact absurd (base_eq_empty_iff.2 hdigits) hbase
      · rwa [disambiguate_of_isDigits hdigits hmem, Nat.add_comm]
      · rw [endsInDigit_of_isDigits hdigits hne] at hend
        cases hend
  · have hbase : (splitSuffix claim).1 ≠ "" := fun hbase => hdigits (base_eq_empty_iff.1 hbase)
    cases hend : endsInDigit claim with
    | true =>
      rw [disambiguate_of_numbered hend (Bool.eq_false_iff.2 hdigits)]
      constructor
      · exact .numbered hend hbase
      · rintro (⟨-, -, hmem⟩ | ⟨-, hmem, -⟩ | ⟨-, hword, -⟩)
        · exact hmem
        · exact hmem
        · rw [hend] at hword
          cases hword
    | false =>
      have hne : claim ≠ "" := by
        rintro rfl
        exact hdigits rfl
      rw [mem_of_word hne hend, numeral_suffixLimit]
      constructor
      · exact .word hne hend
      · rintro (⟨hdigit, -, -⟩ | ⟨hall, -, -⟩ | ⟨-, -, hlast⟩)
        · rw [hend] at hdigit
          cases hdigit
        · exact absurd hall hdigits
        · exact hlast

end

namespace StreamerDirectory

variable {d : StreamerDirectory} {current desired id defaultId : String} {taken : List String}

/-- What a claim stands for: an empty one stands for the default id. -/
def claimed (defaultId desired : String) : String := if desired = "" then defaultId else desired

theorem committedId_eq (d : StreamerDirectory) (desired : String) (taken : List String) :
    d.committedId desired taken =
      if disambiguate (claimed d.defaultId desired) taken ∈ taken then
        .error (.idCollision (disambiguate (claimed d.defaultId desired) taken))
      else .ok (disambiguate (claimed d.defaultId desired) taken) := by
  have hclaim : (if desired.isEmpty = true then d.defaultId else desired) = claimed d.defaultId desired := by
    by_cases hempty : desired = "" <;> simp [claimed, hempty]
  simp only [committedId, hclaim]

/-- A claim is refused if it is blocked, and then on account of an id that is taken. -/
theorem committedId_of_blocked (h : Blocked taken (claimed d.defaultId desired)) :
    ∃ id ∈ taken, d.committedId desired taken = .error (.idCollision id) := by
  have hmem := disambiguate_mem_iff.2 h
  exact ⟨_, hmem, by rw [committedId_eq, if_pos hmem]⟩

theorem committedId_of_not_blocked (h : ¬ Blocked taken (claimed d.defaultId desired)) :
    d.committedId desired taken = .ok (disambiguate (claimed d.defaultId desired) taken) := by
  rw [committedId_eq, if_neg fun hmem => h (disambiguate_mem_iff.1 hmem)]

theorem eq_of_committedId (h : d.committedId desired taken = .ok id) :
    id = disambiguate (claimed d.defaultId desired) taken := by
  rw [committedId_eq] at h
  split at h
  · cases h
  · exact (Except.ok.inj h).symm

/-! ### Taking an entry out and putting it back -/

/-- Renames an entry step by step.  It is taken out of its place, its claim is settled among the others,
and it is put back at the same place, under the new id or as it was. -/
def renameInSteps (d : StreamerDirectory) (current desired : String) :
    Except DirectoryError String × StreamerDirectory :=
  let place := d.entries.findIdx (·.id == current)
  match d.entries[place]? with
  | none => (.error (.unknownStreamer current), d)
  | some entry =>
    let others := { d with entries := d.entries.eraseIdx place }
    match others.committedId desired others.ids with
    | .error e => (.error e, { others with entries := others.entries.insertIdx place entry })
    | .ok id =>
      (.ok id, { others with
        entries := others.entries.insertIdx place { entry with id }
        published := if id = entry.id then others.published else others.published ++ [.renamed entry.id id] })

/-- Where an id is found in a list of entries. -/
private theorem findIdx_cases (entries : List ListedStreamer) (id : String) :
    (id ∉ entries.map (·.id) ∧ entries[entries.findIdx (·.id == id)]? = none) ∨
      ∃ before entry after, entries = before ++ entry :: after ∧ entry.id = id ∧ id ∉ before.map (·.id) ∧
        entries.findIdx (·.id == id) = before.length := by
  induction entries with
  | nil => exact .inl ⟨List.not_mem_nil, rfl⟩
  | cons first rest ih =>
    by_cases hfirst : first.id = id
    · exact .inr ⟨[], first, rest, rfl, hfirst, List.not_mem_nil, by simp [List.findIdx_cons, hfirst]⟩
    · have hplace : (first :: rest).findIdx (·.id == id) = rest.findIdx (·.id == id) + 1 := by
        rw [List.findIdx_cons, beq_eq_false_iff_ne.2 hfirst]
        rfl
      rw [hplace]
      rcases ih with ⟨hmissing, hnone⟩ | ⟨before, entry, after, rfl, hentry, hbefore, hlength⟩
      · exact .inl ⟨by simpa [Ne.symm hfirst] using hmissing, by simpa using hnone⟩
      · exact .inr ⟨first :: before, entry, after, rfl, hentry,
          by simpa [Ne.symm hfirst] using hbefore, by simp [hlength]⟩

private theorem insertIdx_length {α : Type} (before after : List α) (x : α) :
    (before ++ after).insertIdx before.length x = before ++ x :: after := by
  induction before with
  | nil => rfl
  | cons first before ih => simp [ih]

private theorem relabel_append {before : List ListedStreamer} {entry : ListedStreamer}
    (h : entry.id ∉ before.map (·.id)) (new : String) (after : List ListedStreamer) :
    relabel entry.id new (before ++ entry :: after) = before ++ { entry with id := new } :: after := by
  induction before with
  | nil => simp [relabel]
  | cons first before ih =>
    rw [List.map_cons, List.mem_cons, not_or] at h
    rw [List.cons_append, relabel, if_neg (Ne.symm h.1), ih h.2]
    rfl

/-- Renaming step by step comes to the same, and an entry whose claim is refused is as it was. -/
theorem renameInSteps_eq (d : StreamerDirectory) (current desired : String) :
    d.renameInSteps current desired =
      match d.rename current desired with
      | .error e => (.error e, d)
      | .ok (id, d') => (.ok id, d') := by
  rcases findIdx_cases d.entries current with
    ⟨hmissing, hnone⟩ | ⟨before, entry, after, hentries, rfl, hbefore, hplace⟩
  · simp only [renameInSteps, hnone, rename_of_notMem hmissing]
  · have hmem : entry.id ∈ d.ids := by simp [ids, hentries]
    have hentry : d.entries[before.length]? = some entry := by simp [hentries]
    have hothers : d.entries.eraseIdx before.length = before ++ after := by
      simp [hentries, List.eraseIdx_append_of_length_le]
    have hids : ids { d with entries := before ++ after } = d.ids.erase entry.id := by
      simp only [ids, hentries, List.map_append, List.map_cons]
      rw [List.erase_append_right _ hbefore, List.erase_cons_head]
    have hrelabel : ∀ id, relabel entry.id id d.entries = before ++ { entry with id } :: after := fun id => by
      rw [hentries, relabel_append hbefore]
    -- the others are settled with the same default id
    have hcommitted : committedId { d with entries := before ++ after } desired (d.ids.erase entry.id) =
        d.committedId desired (d.ids.erase entry.id) := rfl
    rw [rename_of_mem hmem]
    simp only [renameInSteps, hplace, hentry, hothers, insertIdx_length, hids, hrelabel, hcommitted]
    cases d.committedId desired (d.ids.erase entry.id) with
    | error e => simp only [← hentries]
    | ok id => rfl

/-- A registered source that claims an id is refused or gets one. -/
theorem rename_cases (h : current ∈ d.ids) (desired : String) :
    (∃ id, d.rename current desired = .error (.idCollision id)) ∨
      ∃ new d', d.rename current desired = .ok (new, d') := by
  rw [rename_of_mem h]
  by_cases hblocked : Blocked (d.ids.erase current) (claimed d.defaultId desired)
  · obtain ⟨id, -, hid⟩ := committedId_of_blocked hblocked
    exact .inl ⟨id, by rw [hid]⟩
  · exact .inr ⟨_, _, by rw [committedId_of_not_blocked hblocked]⟩

/-- A renamed entry keeps its place, and nothing else of it changes. -/
theorem exists_place_of_rename {new : String} {d' : StreamerDirectory}
    (h : d.rename current desired = .ok (new, d')) :
    ∃ before entry after, d.entries = before ++ entry :: after ∧ entry.id = current ∧ d' = { d with
      entries := before ++ { entry with id := new } :: after
      published := if new = current then d.published else d.published ++ [.renamed current new] } := by
  obtain ⟨hcurrent, -, rfl⟩ := rename_eq_ok_iff.1 h
  rcases findIdx_cases d.entries current with
    ⟨hmissing, -⟩ | ⟨before, entry, after, hentries, rfl, hbefore, -⟩
  · exact absurd hcurrent hmissing
  · exact ⟨before, entry, after, hentries, rfl, by rw [hentries, relabel_append hbefore]⟩

/-- Nobody bears an id that has been given up. -/
theorem find?_rename_eq_none {new : String} {d' : StreamerDirectory} (hnodup : d.ids.Nodup)
    (h : d.rename current desired = .ok (new, d')) (hne : new ≠ current) : d'.find? current = none := by
  obtain ⟨-, -, rfl⟩ := of_rename_eq_ok hnodup h
  simp only [find?, List.find?_eq_none, List.mem_map, beq_iff_eq]
  rintro entry ⟨old, -, rfl⟩
  split
  · exact hne
  · assumption

/-! ### Directories after any changes -/

/-- No id is listed twice, the default id stays, and the empty id is listed only if it is the default. -/
structure Regular (defaultId : String) (d : StreamerDirectory) : Prop where
  nodup : d.ids.Nodup
  defaultId_eq : d.defaultId = defaultId
  default_of_empty : "" ∈ d.ids → defaultId = ""

theorem regular_fresh (defaultId fallbackStem : String) : (fresh defaultId fallbackStem).Regular defaultId :=
  ⟨List.nodup_nil, rfl, fun h => by cases h⟩

theorem default_of_committedId (h : d.committedId desired taken = .ok "") : d.defaultId = "" := by
  have hclaim := eq_empty_of_disambiguate (eq_of_committedId h).symm
  unfold claimed at hclaim
  split at hclaim
  · exact hclaim
  · exact absurd hclaim ‹_›

theorem Regular.add {d' : StreamerDirectory} {c : ConnectionId} {streaming : Bool} (h : d.Regular defaultId)
    (hadd : d.add desired c streaming = .ok (id, d')) : d'.Regular defaultId := by
  obtain ⟨hcommitted, rfl⟩ := add_eq_ok_iff.1 hadd
  have hids : ids { d with
      entries := d.entries ++ [⟨id, c, streaming⟩]
      published := d.published ++ [.added id] } = d.ids ++ [id] := by simp [ids]
  refine ⟨?_, h.defaultId_eq, fun hempty => ?_⟩
  · rw [hids]
    exact List.nodup_append.2 ⟨h.nodup, List.nodup_singleton id,
      fun x hx y hy hxy => notMem_of_committedId hcommitted (List.mem_singleton.1 hy ▸ hxy ▸ hx)⟩
  · rw [hids] at hempty
    rcases List.mem_append.1 hempty with hempty | hempty
    · exact h.default_of_empty hempty
    · exact h.defaultId_eq ▸ default_of_committedId (List.mem_singleton.1 hempty ▸ hcommitted)

/-- A renamed entry gets an id that no other entry has. -/
theorem Regular.rename {d' : StreamerDirectory} {new : String} (h : d.Regular defaultId)
    (hrename : d.rename current desired = .ok (new, d')) : d'.Regular defaultId := by
  obtain ⟨hcurrent, hfree, rfl⟩ := of_rename_eq_ok h.nodup hrename
  have hids : ids { d with
      entries := d.entries.map fun e => if e.id = current then { e with id := new } else e
      published := if new = current then d.published else d.published ++ [.renamed current new] } =
        d.ids.map fun id => if id = current then new else id := by
    simp only [ids, List.map_map]
    refine List.map_congr_left fun e _ => ?_
    by_cases he : e.id = current <;> simp [he]
  refine ⟨?_, h.defaultId_eq, fun hempty => ?_⟩
  · rw [hids]
    refine h.nodup.map_on fun x hx y hy hxy => ?_
    -- two that differ stay apart, since the new id was free but for the renamed one
    by_cases hxc : x = current <;> by_cases hyc : y = current
    · rw [hxc, hyc]
    · rw [if_pos hxc, if_neg hyc] at hxy
      exact absurd (hxy ▸ hfree (hxy ▸ hy)) hyc
    · rw [if_neg hxc, if_pos hyc] at hxy
      exact absurd (hxy ▸ hfree (hxy ▸ hx)) hxc
    · rwa [if_neg hxc, if_neg hyc] at hxy
  · rw [hids] at hempty
    obtain ⟨id, hid, hnew⟩ := List.mem_map.1 hempty
    split at hnew
    · have hcommitted := (rename_eq_ok_iff.1 hrename).2.1
      rw [hnew] at hcommitted
      exact h.defaultId_eq ▸ default_of_committedId hcommitted
    · exact h.default_of_empty (hnew ▸ hid)

theorem Regular.update (h : d.Regular defaultId) (u : Update) : (d.update u).Regular defaultId := by
  cases u with
  | add desired c streaming =>
    simp only [StreamerDirectory.update]
    split
    · rename_i id d' hadd
      exact h.add hadd
    · exact h
  | rename current desired =>
    simp only [StreamerDirectory.update]
    split
    · rename_i new d' hrename
      exact h.rename hrename
    · exact h
  | remove id =>
    rw [StreamerDirectory.update, StreamerDirectory.remove]
    split
    · have hsub : ((d.entries.eraseP (·.id == id)).map (·.id)).Sublist d.ids := List.eraseP_sublist.map _
      exact ⟨h.nodup.sublist hsub, h.defaultId_eq, fun hempty => h.default_of_empty (hsub.subset hempty)⟩
    · exact h
  | markStreaming id streaming =>
    have hids : (d.markStreaming id streaming).ids = d.ids := by
      rw [ids_eq_map_slots, slots_markStreaming, ← ids_eq_map_slots]
    refine ⟨?_, h.defaultId_eq, fun hempty => ?_⟩
    · rw [StreamerDirectory.update, hids]
      exact h.nodup
    · rw [StreamerDirectory.update, hids] at hempty
      exact h.default_of_empty hempty
  | takeFallbackId => exact ⟨h.nodup, h.defaultId_eq, h.default_of_empty⟩

theorem regular_foldl (h : d.Regular defaultId) (updates : List Update) :
    (updates.foldl update d).Regular defaultId :=
  List.foldlRecOn updates update h fun _ h' u _ => h'.update u

/-! ### Exactly the blocked claims are refused -/

/-- A claim `claim` next to the ids `taken` has been refused exactly if it is blocked, and else admitted
under an id that is not taken. -/
structure Settled {α : Type} (taken : List String) (claim : String)
    (result : Except DirectoryError (String × α)) : Prop where
  refused_iff : (∃ id, result = .error (.idCollision id)) ↔ Blocked taken claim
  admitted_iff : (∃ id x, result = .ok (id, x)) ↔ ¬ Blocked taken claim
  notMem : ∀ id x, result = .ok (id, x) → id ∉ taken

theorem settled_of_committedId {α : Type} (d : StreamerDirectory) (desired : String) (taken : List String)
    (f : String → α) :
    Settled taken (claimed d.defaultId desired)
      (match d.committedId desired taken with
      | .error e => .error e
      | .ok id => .ok (id, f id)) := by
  by_cases hblocked : Blocked taken (claimed d.defaultId desired)
  · obtain ⟨id, -, hid⟩ := committedId_of_blocked hblocked
    rw [hid]
    exact {
      refused_iff := ⟨fun _ => hblocked, fun _ => ⟨id, rfl⟩⟩
      admitted_iff := ⟨fun ⟨_, _, h⟩ => (by cases h), fun h => absurd hblocked h⟩
      notMem := fun _ _ h => by cases h }
  · have hid := committedId_of_not_blocked hblocked
    have hfree := notMem_of_committedId hid
    rw [hid]
    exact {
      refused_iff := ⟨fun ⟨_, h⟩ => (by cases h), fun h => absurd h hblocked⟩
      admitted_iff := ⟨fun _ => hblocked, fun _ => ⟨_, _, rfl⟩⟩
      notMem := fun _ _ h => (Prod.mk.inj (Except.ok.inj h)).1 ▸ hfree }

theorem settled_add (h : d.Regular defaultId) (desired : String) (c : ConnectionId) (streaming : Bool) :
    Settled d.ids (claimed defaultId desired) (d.add desired c streaming) := by
  rw [add_eq, ← h.defaultId_eq]
  exact settled_of_committedId d desired d.ids _

/-- The entry that is renamed is not in its own way. -/
theorem settled_rename (h : d.Regular defaultId) (hcurrent : current ∈ d.ids) (desired : String) :
    Settled (d.ids.filter (· ≠ current)) (claimed defaultId desired) (d.rename current desired) := by
  have hothers : d.ids.erase current = d.ids.filter (· ≠ current) := by
    rw [h.nodup.erase_eq_filter]
    exact List.filter_congr fun id _ => by rw [bne, beq_eq_decide, decide_not]
  rw [rename_of_mem hcurrent, hothers, ← h.defaultId_eq]
  exact settled_of_committedId d desired _ _

/-- After any changes of a directory, a claim is refused exactly if it is blocked, and else admitted under
an id that was free; for an entry that is renamed, its own id counts as free.  A refusal changes nothing,
though the entry that was to be renamed has been taken out of its place in between. -/
theorem refusals_are_exact (defaultId fallbackStem : String) (updates : List Update) (desired : String) :
    let d := updates.foldl update (fresh defaultId fallbackStem)
    (∀ c streaming, Settled d.ids (claimed defaultId desired) (d.add desired c streaming) ∧
      ∀ e, d.add desired c streaming = .error e → d.update (.add desired c streaming) = d) ∧
    ∀ current,
      (current ∈ d.ids →
        Settled (d.ids.filter (· ≠ current)) (claimed defaultId desired) (d.rename current desired)) ∧
      (current ∉ d.ids → d.rename current desired = .error (.unknownStreamer current)) ∧
      (∀ e, d.rename current desired = .error e →
        d.renameInSteps current desired = (.error e, d) ∧ d.update (.rename current desired) = d) ∧
      ∀ id d', d.rename current desired = .ok (id, d') → d.renameInSteps current desired = (.ok id, d') := by
  intro d
  have hd : d.Regular defaultId := regular_foldl (regular_fresh defaultId fallbackStem) updates
  constructor
  · intro c streaming
    exact ⟨settled_add hd desired c streaming, fun e he => by rw [update, he]⟩
  · intro current
    refine ⟨fun hcurrent => settled_rename hd hcurrent desired,
      fun hcurrent => rename_of_notMem hcurrent desired, fun e he => ⟨?_, by rw [update, he]⟩,
        fun id d' h => ?_⟩
    · rw [renameInSteps_eq, he]
    · rw [renameInSteps_eq, h]

/-- A number that is taken is refused to a new source and to a registered one, which stays where it was,
but not to the source that has it. -/
theorem refusals_are_exact_numbered :
    let updates : List Update := [.add "hall" ⟨1⟩ true, .add "cam1" ⟨2⟩ true, .add "porch" ⟨3⟩ false]
    let d := updates.foldl update (fresh "camera" "source")
    d.add "cam1" ⟨4⟩ true = .error (.idCollision "cam1") ∧ d.update (.add "cam1" ⟨4⟩ true) = d ∧
      "hall" ∈ d.ids ∧ Blocked (d.ids.filter (· ≠ "hall")) "cam1" ∧
      d.renameInSteps "hall" "cam1" = (.error (.idCollision "cam1"), d) ∧
      "attic" ∉ d.ids ∧ d.rename "attic" "cam1" = .error (.unknownStreamer "attic") ∧
      d.renameInSteps "cam1" "cam1" = (.ok "cam1", d) := by
  intro updates d
  obtain ⟨hadd, hrename⟩ := refusals_are_exact "camera" "source" updates "cam1"
  have hrefused : d.add "cam1" ⟨4⟩ true = .error (.idCollision "cam1") := by decide +kernel
  have hkept : d.rename "hall" "cam1" = .error (.idCollision "cam1") := by decide +kernel
  have hself : d.rename "cam1" "cam1" = .ok ("cam1", d) := by decide +kernel
  have hhall : "hall" ∈ d.ids := by decide +kernel
  have hattic : "attic" ∉ d.ids := by decide +kernel
  obtain ⟨hsettled, -, hsteps, -⟩ := hrename "hall"
  obtain ⟨-, hunknown, -, -⟩ := hrename "attic"
  obtain ⟨-, -, -, hsame⟩ := hrename "cam1"
  exact ⟨hrefused, (hadd ⟨4⟩ true).2 _ hrefused, hhall, (hsettled hhall).refused_iff.1 ⟨_, hkept⟩,
    (hsteps _ hkept).1, hattic, hunknown hattic, hsame _ _ hself⟩

/-! ### Claiming one's own id again -/

/-- Whether nothing is in the way of an id when its own entry is not counted: it is empty, or it ends in a
digit, or nobody has it with a number behind it. -/
def Alone (d : StreamerDirectory) (id : String) : Prop :=
  id = "" ∨ endsInDigit id = true ∨ ∀ number, isDigits number = true → number ≠ "" → id ++ number ∉ d.ids

theorem alone_iff : d.Alone id ↔ ∀ other ∈ d.ids, other ≠ id → ¬ InFamily id other := by
  by_cases hdigits : isDigits id = true
  · have hleft : d.Alone id := by
      by_cases hne : id = ""
      · exact .inl hne
      · exact .inr (.inl (endsInDigit_of_isDigits hdigits hne))
    exact ⟨fun _ other _ hne hin => hne ((inFamily_iff_of_isDigits hdigits).1 hin), fun _ => hleft⟩
  · have hne : id ≠ "" := by
      rintro rfl
      exact hdigits rfl
    cases hend : endsInDigit id with
    | true =>
      exact ⟨fun _ other _ _ => not_inFamily_of_endsInDigit hend (Bool.eq_false_iff.2 hdigits),
        fun _ => .inr (.inl hend)⟩
    | false =>
      simp only [Alone, hne, hend, Bool.false_eq_true, false_or, inFamily_iff_of_word hne hend]
      constructor
      · rintro hfree other hmem hother rfl
        have happend := splitSuffix_append other
        refine hfree _ (isDigits_suffix other) (fun hsuffix => ?_) (happend.symm ▸ hmem)
        rw [hsuffix, String.append_empty] at happend
        exact hother happend.symm
      · intro hfree number hnumber hsome hmem
        refine hfree _ hmem (fun heq => hsome ?_) ?_
        · rwa [String.append_eq_left_iff] at heq
        · rw [splitSuffix_of_append hend hnumber]

theorem relabel_self (id : String) (entries : List ListedStreamer) : relabel id id entries = entries := by
  induction entries with
  | nil => rfl
  | cons e entries ih =>
    unfold relabel
    split
    · rename_i he
      rw [← he]
    · rw [ih]

theorem committedId_self_iff (hnodup : d.ids.Nodup) (hdefault : current = "" → d.defaultId = "") :
    d.committedId current (d.ids.erase current) = .ok current ↔ d.Alone current := by
  have hclaim : claimed d.defaultId current = current := by
    unfold claimed
    split
    · rename_i hempty
      rw [hdefault hempty, hempty]
    · rfl
  have hself : disambiguate current (d.ids.erase current) = current ↔ d.Alone current := by
    simp only [disambiguate_eq_self_iff, alone_iff, hnodup.mem_erase_iff, and_imp]
    exact ⟨fun h other hmem hne => h other hne hmem, fun h other hne hmem => h other hmem hne⟩
  rw [← hself]
  constructor
  · intro h
    have hid := eq_of_committedId h
    rw [hclaim] at hid
    exact hid.symm
  · intro h
    rw [committedId_eq, hclaim, h, if_neg hnodup.not_mem_erase]

theorem rename_self (hnodup : d.ids.Nodup) (hcurrent : current ∈ d.ids)
    (hdefault : current = "" → d.defaultId = "") (h : d.Alone current) :
    d.rename current current = .ok (current, d) := by
  rw [rename_of_mem hcurrent, (committedId_self_iff hnodup hdefault).2 h]
  simp only [relabel_self, if_true]

/-- An entry that claims its own id again keeps it exactly if nothing is in the way, and then
nothing happens. -/
theorem rename_self_iff (hnodup : d.ids.Nodup) (hcurrent : current ∈ d.ids)
    (hdefault : current = "" → d.defaultId = "") :
    (∃ d', d.rename current current = .ok (current, d')) ↔ d.Alone current := by
  constructor
  · rintro ⟨d', hrename⟩
    exact (committedId_self_iff hnodup hdefault).1 (rename_eq_ok_iff.1 hrename).2.1
  · intro halone
    exact ⟨d, rename_self hnodup hcurrent hdefault halone⟩

end StreamerDirectory

end SignalRelay
