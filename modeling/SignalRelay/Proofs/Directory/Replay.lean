import SignalRelay.Proofs.Directory.Admission

/-!
# Replaying what a directory has published

A directory publishes what it does to its list of ids, and nothing else.  So whoever hears all events in
order knows the list: it appends what is added, deletes what is removed and replaces what is renamed.

* `DirectoryEvent.replay` is what an event does to a list, and `DirectoryEvent.Fits` is when it
  makes sense there.
* `event?` is what a change has to tell, by the answer it gets, and `Publishes` says that just this is
  published: one event that fits and says what becomes of the ids, or nothing exactly if the ids stay.
* `Replays` is what any number of changes come to.
-/

namespace SignalRelay

namespace DirectoryEvent

/-- What an event does to a list of ids. -/
def replay (ids : List String) : DirectoryEvent → List String
  | .added id => ids ++ [id]
  | .removed id => ids.erase id
  | .renamed old new => ids.replace old new

/-- Whether an event says something that can happen to a list of ids. -/
def Fits (ids : List String) : DirectoryEvent → Prop
  | .added id => id ∉ ids
  | .removed id => id ∈ ids
  | .renamed old new => old ∈ ids ∧ new ∉ ids ∧ new ≠ old

end DirectoryEvent

/-- The list of ids that the events come to, from nothing. -/
def replayed (events : List DirectoryEvent) : List String := events.foldl DirectoryEvent.replay []

/-- The events come to the ids, and each fits the list that those before it come to. -/
structure Replays (events : List DirectoryEvent) (ids : List String) : Prop where
  eq : replayed events = ids
  fits : ∀ before e after, events = before ++ e :: after → e.Fits (replayed before)

/-- What has been published by a change of the ids: the event if there is one, which fits the ids and says
what becomes of them, and nothing if the ids stay. -/
structure Publishes (ids : List String) (published : List DirectoryEvent) (event? : Option DirectoryEvent)
    (ids' : List String) (published' : List DirectoryEvent) : Prop where
  published_eq : published' = published ++ event?.toList
  ids_eq : ids' = event?.elim ids (DirectoryEvent.replay ids)
  fits : ∀ e ∈ event?, e.Fits ids
  silent : event? = none ↔ ids' = ids

theorem Replays.nil : Replays [] [] := ⟨rfl, fun before e after h => by cases before <;> cases h⟩

/-- One more event has to fit the list so far. -/
theorem Replays.snoc {events : List DirectoryEvent} {ids : List String} {e : DirectoryEvent}
    (h : Replays events ids) (he : e.Fits ids) : Replays (events ++ [e]) (e.replay ids) where
  eq := by
    rw [replayed, List.foldl_append, ← replayed, h.eq]
    rfl
  fits := by
    intro before e' after heq
    have hprefix : before ++ [e'] <+: events ++ [e] := ⟨after, by simp [heq]⟩
    rcases List.prefix_concat_iff.1 hprefix with hlast | ⟨after', rfl⟩
    · obtain ⟨rfl, hsame⟩ := List.append_inj' hlast rfl
      exact h.eq ▸ List.singleton_inj.1 hsame ▸ he
    · exact h.fits before e' after' (by simp)

/-- What is replaced is there afterwards. -/
private theorem mem_replace {old new : String} {ids : List String} (h : old ∈ ids) :
    new ∈ ids.replace old new := by
  induction ids with
  | nil => cases h
  | cons first rest ih =>
    rw [List.replace_cons]
    split
    · exact List.mem_cons_self
    · rename_i hne
      exact List.mem_cons_of_mem _ (ih ((List.mem_cons.1 h).resolve_left (ne_of_beq_false hne)))

/-- What fits a list changes it. -/
theorem DirectoryEvent.Fits.replay_ne {e : DirectoryEvent} {ids : List String} (h : e.Fits ids) :
    e.replay ids ≠ ids := by
  cases e with
  | added id =>
    intro hsame
    exact h (hsame ▸ List.mem_append_right ids (List.mem_singleton_self id))
  | removed id =>
    intro hsame
    have hlength := List.length_erase_of_mem h
    rw [show ids.erase id = ids from hsame] at hlength
    have := List.length_pos_of_mem h
    omega
  | renamed old new =>
    intro hsame
    exact h.2.1 (hsame ▸ mem_replace h.1)

section
variable {ids ids' : List String} {published published' : List DirectoryEvent}
    {event? : Option DirectoryEvent}

theorem Publishes.nothing (hids : ids' = ids) (hpublished : published' = published) :
    Publishes ids published none ids' published' :=
  ⟨hpublished.trans (List.append_nil _).symm, hids, fun _ he => (by cases he), iff_of_true rfl hids⟩

theorem Publishes.one {e : DirectoryEvent} (he : e.Fits ids) (hids : ids' = e.replay ids)
    (hpublished : published' = published ++ [e]) : Publishes ids published (some e) ids' published' where
  published_eq := hpublished
  ids_eq := hids
  fits := fun _ he' => Option.some.inj he' ▸ he
  silent := iff_of_false (by simp) (hids ▸ he.replay_ne)

theorem Replays.publishes (h : Replays published ids)
    (hstep : Publishes ids published event? ids' published') :
    Replays published' ids' := by
  obtain ⟨rfl, rfl, hfits, -⟩ := hstep
  cases event? with
  | none => simpa using h
  | some e => exact h.snoc (hfits e rfl)

end

/-- Replacing an id by itself does nothing. -/
private theorem replace_self (ids : List String) (id : String) : ids.replace id id = ids := by
  induction ids with
  | nil => rfl
  | cons first rest ih =>
    rw [List.replace_cons, ih]
    split
    · rename_i heq
      rw [beq_iff_eq.1 heq]
    · rfl

/-! ### Streamers -/

namespace StreamerDirectory

/-- A change of a streamer directory. -/
inductive Update
  | add (desired : String) (connection : ConnectionId) (streaming : Bool)
  | rename (current desired : String)
  | remove (id : String)
  | markStreaming (id : String) (streaming : Bool)
  | takeFallbackId
  deriving DecidableEq

/-- Changes a directory, which stays as it is if a claim is refused. -/
def update (d : StreamerDirectory) : Update → StreamerDirectory
  | .add desired connection streaming =>
    match d.add desired connection streaming with
    | .ok (_, d') => d'
    | .error _ => d
  | .rename current desired =>
    match d.rename current desired with
    | .ok (_, d') => d'
    | .error _ => d
  | .remove id => d.remove id
  | .markStreaming id streaming => d.markStreaming id streaming
  | .takeFallbackId => d.takeFallbackId.2

/-- What a change has to tell: the id that a source has been admitted under, the ids that it had
before and after, or the id that has been taken out.  What is refused or leaves the ids as they are
has nothing to tell. -/
def event? (d : StreamerDirectory) : Update → Option DirectoryEvent
  | .add desired connection streaming =>
    match d.add desired connection streaming with
    | .ok (id, _) => some (.added id)
    | .error _ => none
  | .rename current desired =>
    match d.rename current desired with
    | .ok (new, _) => if new = current then none else some (.renamed current new)
    | .error _ => none
  | .remove id => if d.contains id then some (.removed id) else none
  | .markStreaming _ _ => none
  | .takeFallbackId => none

variable {d d' : StreamerDirectory} {current desired id new : String}

/-- A renamed entry keeps its place. -/
theorem map_relabel (old new : String) (entries : List ListedStreamer) :
    (relabel old new entries).map (·.id) = (entries.map (·.id)).replace old new := by
  induction entries with
  | nil => rfl
  | cons e rest ih =>
    rw [relabel, List.map_cons, List.replace_cons]
    split
    · rename_i he
      rw [beq_iff_eq.2 he.symm]
      rfl
    · rename_i he
      rw [beq_eq_false_iff_ne.2 (Ne.symm he), List.map_cons, ih]

theorem publishes_add {c : ConnectionId} {streaming : Bool} (h : d.add desired c streaming = .ok (id, d')) :
    Publishes d.ids d.published (some (.added id)) d'.ids d'.published := by
  obtain ⟨hfree, rfl⟩ := of_add_eq_ok h
  exact .one hfree (by simp [ids, DirectoryEvent.replay]) rfl

theorem publishes_rename (h : d.rename current desired = .ok (new, d')) :
    Publishes d.ids d.published (if new = current then none else some (.renamed current new)) d'.ids
      d'.published := by
  obtain ⟨hcurrent, hid, rfl⟩ := rename_eq_ok_iff.1 h
  have hids : (relabel current new d.entries).map (·.id) = d.ids.replace current new :=
    map_relabel current new d.entries
  by_cases hsame : new = current
  · -- it keeps its id
    rw [if_pos hsame]
    exact .nothing (by rw [StreamerDirectory.ids, hids, hsame, replace_self]) (if_pos hsame)
  · have hfree : new ∉ d.ids := fun hmem => notMem_of_committedId hid ((List.mem_erase_of_ne hsame).2 hmem)
    rw [if_neg hsame]
    exact .one ⟨hcurrent, hfree, hsame⟩ hids (if_neg hsame)

theorem publishes_remove (d : StreamerDirectory) (id : String) :
    Publishes d.ids d.published (d.event? (.remove id)) (d.remove id).ids (d.remove id).published := by
  simp only [event?]
  unfold remove
  split
  · rename_i hid
    exact .one (contains_iff.1 hid) (Keyed.map_eraseP _ d.entries id) rfl
  · exact .nothing rfl rfl

/-- Every change publishes what it has to tell. -/
theorem publishes_update (d : StreamerDirectory) (u : Update) :
    Publishes d.ids d.published (d.event? u) (d.update u).ids (d.update u).published := by
  cases u with
  | add desired c streaming =>
    simp only [update, event?]
    split
    · rename_i hadd
      exact publishes_add hadd
    · exact .nothing rfl rfl
  | rename current desired =>
    simp only [update, event?]
    split
    · rename_i hrename
      exact publishes_rename hrename
    · exact .nothing rfl rfl
  | remove id => exact publishes_remove d id
  | markStreaming id streaming =>
    refine .nothing ?_ rfl
    rw [ids_eq_map_slots, ids_eq_map_slots, update, slots_markStreaming]
  | takeFallbackId => exact .nothing rfl rfl

theorem replays_foldl (h : Replays d.published d.ids) (updates : List Update) :
    Replays (updates.foldl update d).published (updates.foldl update d).ids :=
  List.foldlRecOn (motive := fun d => Replays d.published d.ids) updates update h fun d' h' u _ =>
    h'.publishes (publishes_update d' u)

end StreamerDirectory

/-! ### Players -/

namespace PlayerDirectory

/-- What a change has to tell: the id that a viewer has been given, or the id that has been taken out. -/
def event? (d : PlayerDirectory) : Update → Option DirectoryEvent
  | .add connection => some (.added (d.add connection).1)
  | .remove id => if d.contains id then some (.removed id) else none

variable {d : PlayerDirectory}

theorem replays_fresh : Replays fresh.published fresh.ids := by
  rw [ids_eq_nil rfl]
  exact .nil

/-- Every change publishes what it has to tell. -/
theorem publishes_update (h : d.Numbered) (u : Update) :
    Publishes d.ids d.published (d.event? u) (d.update u).ids (d.update u).published := by
  cases u with
  | add c => exact .one h.idOf_nextNumber_notMem (h.ids_add c) rfl
  | remove id =>
    have hids : (d.remove id).ids = d.ids.erase id := ids_remove h.nodup_ids id
    simp only [update, event?]
    split
    · rename_i hid
      exact .one (contains_iff.1 hid) hids (by rw [remove, if_pos hid])
    · rename_i hid
      exact .nothing (by rw [remove, if_neg hid]) (by rw [remove, if_neg hid])

theorem replays_foldl (h : Replays d.published d.ids) (hnumbered : d.Numbered) (updates : List Update) :
    Replays (updates.foldl update d).published (updates.foldl update d).ids := by
  induction updates generalizing d with
  | nil => exact h
  | cons u updates ih => exact ih (h.publishes (publishes_update hnumbered u)) (hnumbered.update u)

end PlayerDirectory

end SignalRelay
