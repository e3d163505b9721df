import SignalRelay.Proofs.Directory.Listing
import SignalRelay.Proofs.Lists.Keyed

/-!
# Slots of the directories

A slot is an id together with the connection behind it.  `slots` are the slots of a directory, one for
each entry; what is proved about who is registered is proved about slots, the other columns of an entry
being carried along.

* As long as no id occurs twice, membership in `slots` and look-up of an id are the same (`mem_slots_iff`).
* Every operation of a directory keeps the ids free of repetitions, and its slots are given by one equation.
-/

namespace SignalRelay

/-! ### The streamer directory -/

namespace StreamerDirectory

/-- Who is registered under which id, in order of admission. -/
def slots (d : StreamerDirectory) : List (String × ConnectionId) :=
  d.entries.map fun e => (e.id, e.connection)

/-- The connection that an id stands for. -/
def owner? (d : StreamerDirectory) (id : String) : Option ConnectionId :=
  (d.find? id).map (·.connection)

theorem ids_eq_map_slots (d : StreamerDirectory) : d.ids = d.slots.map Prod.fst := by
  simp [ids, slots, Function.comp_def]

theorem mem_slots_iff_entry {d : StreamerDirectory} {id : String} {c : ConnectionId} :
    (id, c) ∈ d.slots ↔ ∃ e ∈ d.entries, e.id = id ∧ e.connection = c := by
  simp [slots]

/-- Look-up finds the slots. -/
theorem mem_slots_iff {d : StreamerDirectory} (h : d.ids.Nodup) {id : String} {c : ConnectionId} :
    (id, c) ∈ d.slots ↔ d.owner? id = some c :=
  Keyed.mem_map_pair_iff h

theorem find?_eq_some_iff {d : StreamerDirectory} (h : d.ids.Nodup) {id : String} {e : ListedStreamer} :
    d.find? id = some e ↔ e ∈ d.entries ∧ e.id = id :=
  Keyed.find?_eq_some_iff h

theorem contains_iff {d : StreamerDirectory} {id : String} : d.contains id = true ↔ id ∈ d.ids :=
  Keyed.find?_isSome_iff

/-- A claim is settled on an id that is not taken. -/
theorem notMem_of_committedId {d : StreamerDirectory} {desired id : String} {taken : List String}
    (h : d.committedId desired taken = .ok id) : id ∉ taken := by
  simp only [committedId] at h
  generalize disambiguate _ taken = claim at h
  by_cases hc : claim ∈ taken
  · rw [if_pos hc] at h
    cases h
  · rw [if_neg hc] at h
    cases h
    exact hc

theorem add_eq (d : StreamerDirectory) (desired : String) (c : ConnectionId) (streaming : Bool) :
    d.add desired c streaming =
      match d.committedId desired d.ids with
      | .error e => .error e
      | .ok id => .ok (id, { d with
        entries := d.entries ++ [⟨id, c, streaming⟩]
        published := d.published ++ [.added id] }) := by
  rw [add]
  cases d.committedId desired d.ids <;> rfl

theorem rename_of_notMem {d : StreamerDirectory} {current : String} (h : current ∉ d.ids) (desired : String) :
    d.rename current desired = .error (.unknownStreamer current) := by
  rw [rename, if_neg fun hcurrent => h (contains_iff.1 hcurrent)]

theorem rename_of_mem {d : StreamerDirectory} {current : String} (h : current ∈ d.ids) (desired : String) :
    d.rename current desired =
      match d.committedId desired (d.ids.erase current) with
      | .error e => .error e
      | .ok id => .ok (id, { d with
        entries := relabel current id d.entries
        published := if id = current then d.published else d.published ++ [.renamed current id] }) := by
  rw [rename, if_pos (contains_iff.2 h)]
  cases d.committedId desired (d.ids.erase current) <;> rfl

/-- What admitting a source does if its claim is not refused. -/
theorem add_eq_ok_iff {d d' : StreamerDirectory} {desired id : String} {c : ConnectionId} {streaming : Bool} :
    d.add desired c streaming = .ok (id, d') ↔ d.committedId desired d.ids = .ok id ∧ d' = { d with
      entries := d.entries ++ [⟨id, c, streaming⟩]
      published := d.published ++ [.added id] } := by
  rw [add_eq]
  cases d.committedId desired d.ids with
  | error e => simp
  | ok free =>
    simp only [Except.ok.injEq, Prod.mk.injEq]
    refine and_congr_right fun hid => ?_
    rw [hid, eq_comm]

/-- What renaming a source does if its claim is not refused. -/
theorem rename_eq_ok_iff {d d' : StreamerDirectory} {current desired new : String} :
    d.rename current desired = .ok (new, d') ↔
      current ∈ d.ids ∧ d.committedId desired (d.ids.erase current) = .ok new ∧ d' = { d with
        entries := relabel current new d.entries
        published := if new = current then d.published else d.published ++ [.renamed current new] } := by
  by_cases hcurrent : current ∈ d.ids
  · rw [rename_of_mem hcurrent]
    cases d.committedId desired (d.ids.erase current) with
    | error e => simp
    | ok id =>
      simp only [Except.ok.injEq, Prod.mk.injEq, hcurrent, true_and]
      refine and_congr_right fun hid => ?_
      rw [hid, eq_comm]
  · simp [rename_of_notMem hcurrent, hcurrent]

/-- An admitted id was free, and its slot is the last one. -/
theorem of_add_eq_ok {d d' : StreamerDirectory} {desired id : String} {c : ConnectionId} {streaming : Bool}
    (h : d.add desired c streaming = .ok (id, d')) :
    id ∉ d.ids ∧ d' = { d with
      entries := d.entries ++ [⟨id, c, streaming⟩]
      published := d.published ++ [.added id] } := by
  obtain ⟨hid, hd⟩ := add_eq_ok_iff.1 h
  exact ⟨notMem_of_committedId hid, hd⟩

private theorem relabel_eq_map {old : String} (new : String) {entries : List ListedStreamer}
    (h : (entries.map (·.id)).Nodup) :
    relabel old new entries = entries.map fun e => if e.id = old then { e with id := new } else e := by
  induction entries with
  | nil => rfl
  | cons e entries ih =>
    rw [List.map_cons, List.nodup_cons] at h
    unfold relabel
    split
    · rename_i he
      have hrest : entries.map (fun e => if e.id = old then { e with id := new } else e) = entries := by
        rw [List.map_congr_left (g := id), List.map_id]
        intro x hx
        have : x.id ≠ old := fun hxo => h.1 (he ▸ hxo ▸ List.mem_map_of_mem hx)
        simp [this]
      simp [he, hrest]
    · rename_i he
      simp [he, ih h.2]

/-- A renamed entry keeps its place, and the new id was free apart from the old one. -/
theorem of_rename_eq_ok {d d' : StreamerDirectory} (hd : d.ids.Nodup) {current desired new : String}
    (h : d.rename current desired = .ok (new, d')) :
    current ∈ d.ids ∧ (new ∈ d.ids → new = current) ∧ d' = { d with
      entries := d.entries.map fun e => if e.id = current then { e with id := new } else e
      published := if new = current then d.published else d.published ++ [.renamed current new] } := by
  obtain ⟨hcurrent, hid, rfl⟩ := rename_eq_ok_iff.1 h
  refine ⟨hcurrent, fun hmem => ?_, by rw [relabel_eq_map _ hd]⟩
  exact Classical.byContradiction fun hne => notMem_of_committedId hid (hd.mem_erase_iff.2 ⟨hne, hmem⟩)

theorem fallbackStem_rename {d d' : StreamerDirectory} {current desired new : String}
    (h : d.rename current desired = .ok (new, d')) : d'.fallbackStem = d.fallbackStem := by
  obtain ⟨-, -, rfl⟩ := rename_eq_ok_iff.1 h
  rfl

/-- Taking an id out leaves the other entries in order. -/
theorem remove_eq {d : StreamerDirectory} (hd : d.ids.Nodup) {id : String} (h : id ∈ d.ids) :
    d.remove id = { d with
      entries := d.entries.filter (·.id ≠ id)
      published := d.published ++ [.removed id] } := by
  unfold remove
  rw [if_pos (contains_iff.2 h), Keyed.eraseP_eq_filter hd]

/-- Takes several ids out, one after the other. -/
def removeAll (d : StreamerDirectory) (ids : List String) : StreamerDirectory :=
  { d with
    entries := d.entries.filter (·.id ∉ ids)
    published := d.published ++ ids.map .removed }

@[simp] theorem removeAll_nil (d : StreamerDirectory) : d.removeAll [] = d := by
  simp only [removeAll, Keyed.filter_notMem_nil, List.map_nil, List.append_nil]

@[simp] theorem removeAll_removeAll (d : StreamerDirectory) (first second : List String) :
    (d.removeAll first).removeAll second = d.removeAll (first ++ second) := by
  simp only [removeAll, Keyed.filter_filter_notMem, List.append_assoc, List.map_append]

theorem remove_eq_removeAll {d : StreamerDirectory} (hd : d.ids.Nodup) {id : String} (h : id ∈ d.ids) :
    d.remove id = d.removeAll [id] := by
  rw [remove_eq hd h, removeAll, Keyed.filter_notMem_singleton]
  rfl

theorem ids_removeAll (d : StreamerDirectory) (ids : List String) :
    (d.removeAll ids).ids = d.ids.filter (· ∉ ids) :=
  Keyed.map_filter_notMem ListedStreamer.id id d.entries ids

theorem mem_ids_removeAll {d : StreamerDirectory} {ids : List String} {id : String} :
    id ∈ (d.removeAll ids).ids ↔ id ∈ d.ids ∧ id ∉ ids := by
  rw [ids_removeAll, List.mem_filter, decide_eq_true_eq]

theorem slots_removeAll (d : StreamerDirectory) (ids : List String) :
    (d.removeAll ids).slots = d.slots.filter (·.1 ∉ ids) :=
  Keyed.map_filter_notMem (fun e : ListedStreamer => (e.id, e.connection)) Prod.fst d.entries ids

/-! What a source says about its media does not matter for who is registered. -/

private theorem map_setFlag {α : Type} (f : ListedStreamer → α)
    (hf : ∀ e streaming, f { e with streaming } = f e) (id : String) (streaming : Bool)
    (entries : List ListedStreamer) :
    (setFlag id streaming entries).map f = entries.map f := by
  induction entries with
  | nil => rfl
  | cons e entries ih =>
    unfold setFlag
    split <;> simp [ih, hf]

@[simp] theorem slots_markStreaming (d : StreamerDirectory) (id : String) (streaming : Bool) :
    (d.markStreaming id streaming).slots = d.slots :=
  map_setFlag _ (fun _ _ => rfl) id streaming d.entries

private theorem filter_setFlag {id : String} {ids : List String} (h : id ∈ ids) (streaming : Bool)
    (entries : List ListedStreamer) :
    (setFlag id streaming entries).filter (·.id ∉ ids) = entries.filter (·.id ∉ ids) := by
  induction entries with
  | nil => rfl
  | cons e entries ih =>
    unfold setFlag
    split
    · rename_i he
      simp [he, h]
    · rw [List.filter_cons, List.filter_cons, ih]

/-- The flag of an entry goes with the entry. -/
theorem removeAll_markStreaming (d : StreamerDirectory) {id : String} {ids : List String} (h : id ∈ ids)
    (streaming : Bool) : (d.markStreaming id streaming).removeAll ids = d.removeAll ids := by
  simp only [markStreaming, removeAll, filter_setFlag h]

end StreamerDirectory

/-! ### The player directory -/

namespace PlayerDirectory

/-- Who is registered under which id, in no order. -/
def slots (d : PlayerDirectory) : List (String × ConnectionId) :=
  d.entries.map fun e => (e.id, e.connection)

theorem map_fst_slots (d : PlayerDirectory) : d.slots.map Prod.fst = d.entries.map (·.id) := by
  simp [slots, Function.comp_def]

/-- Look-up finds the slots. -/
theorem mem_slots_iff {d : PlayerDirectory} (h : d.ids.Nodup) {id : String} {c : ConnectionId} :
    (id, c) ∈ d.slots ↔ d.find? id = some c :=
  Keyed.mem_map_pair_iff (nodup_ids_iff.1 h)

theorem contains_iff {d : PlayerDirectory} {id : String} : d.contains id = true ↔ id ∈ d.ids := by
  rw [mem_ids_iff, contains, find?, Option.isSome_map]
  exact Keyed.find?_isSome_iff

/-- Different numbers make different ids. -/
theorem idOf_injective {m n : Nat} (h : idOf m = idOf n) : m = n :=
  append_numeral_injective h

/-- Taking an id out leaves the other entries. -/
theorem remove_eq {d : PlayerDirectory} (hd : d.ids.Nodup) {id : String} (h : id ∈ d.ids) :
    d.remove id = { d with
      entries := d.entries.filter (·.id ≠ id)
      published := d.published ++ [.removed id] } := by
  unfold remove
  rw [if_pos (contains_iff.2 h), Keyed.eraseP_eq_filter (nodup_ids_iff.1 hd)]

/-- Takes several ids out, one after the other. -/
def removeAll (d : PlayerDirectory) (ids : List String) : PlayerDirectory :=
  { d with
    entries := d.entries.filter (·.id ∉ ids)
    published := d.published ++ ids.map .removed }

@[simp] theorem removeAll_nil (d : PlayerDirectory) : d.removeAll [] = d := by
  simp only [removeAll, Keyed.filter_notMem_nil, List.map_nil, List.append_nil]

@[simp] theorem removeAll_removeAll (d : PlayerDirectory) (first second : List String) :
    (d.removeAll first).removeAll second = d.removeAll (first ++ second) := by
  simp only [removeAll, Keyed.filter_filter_notMem, List.append_assoc, List.map_append]

theorem remove_eq_removeAll {d : PlayerDirectory} (hd : d.ids.Nodup) {id : String} (h : id ∈ d.ids) :
    d.remove id = d.removeAll [id] := by
  rw [remove_eq hd h, removeAll, Keyed.filter_notMem_singleton]
  rfl

/-- The other ids stay listed as they were. -/
theorem ids_removeAll (d : PlayerDirectory) (ids : List String) :
    (d.removeAll ids).ids = d.ids.filter (· ∉ ids) := by
  have hlisting : (d.removeAll ids).listing = d.listing.filter (·.id ∉ ids) := byNumber_filter _ d.entries
  rw [PlayerDirectory.ids, hlisting]
  exact Keyed.map_filter_notMem ListedPlayer.id id d.listing ids

theorem slots_removeAll (d : PlayerDirectory) (ids : List String) :
    (d.removeAll ids).slots = d.slots.filter (·.1 ∉ ids) :=
  Keyed.map_filter_notMem (fun e : ListedPlayer => (e.id, e.connection)) Prod.fst d.entries ids

end PlayerDirectory

end SignalRelay
