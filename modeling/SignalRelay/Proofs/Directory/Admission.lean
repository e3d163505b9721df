import Mathlib.Data.List.Sort
import SignalRelay.Proofs.Directory.Slots

/-!
# The order of admission

Players are numbered as they are admitted, and a player directory is listed by number.

* `Numbered` is what the entries and what has been published have to do with the numbers given away.
  Every change keeps it, and so does any number of changes (`Numbered.foldl`).
* `ids_eq_filter_admitted`: listed are those who have been admitted and not been taken out, in the
  order of admission.
* `Reordered`: two tables that differ in the order of their entries only answer alike, and stay so.
-/

namespace SignalRelay

/-- The ids that have been added, in the order in which they were. -/
def admitted (events : List DirectoryEvent) : List String :=
  events.filterMap fun
    | .added id => some id
    | _ => none

namespace PlayerDirectory

/-- A change of a player directory. -/
inductive Update
  | add (connection : ConnectionId)
  | remove (id : String)
  deriving DecidableEq

def update (d : PlayerDirectory) : Update → PlayerDirectory
  | .add connection => (d.add connection).2
  | .remove id => d.remove id

/-- Every entry bears a number of its own that has been given away, and the id that goes with it, and the
numbers have been given away in the order of admission. -/
structure Numbered (d : PlayerDirectory) : Prop where
  id_eq : ∀ e ∈ d.entries, e.id = idOf e.number
  number_lt : ∀ e ∈ d.entries, e.number < d.nextNumber
  nodup : (d.entries.map (·.number)).Nodup
  admitted : admitted d.published = (List.range d.nextNumber).map idOf

/-- Two directories that differ only in the order in which their tables are gone through. -/
structure Reordered (d d' : PlayerDirectory) : Prop where
  entries : d'.entries.Perm d.entries
  nextNumber : d'.nextNumber = d.nextNumber
  published : d'.published = d.published

variable {d d' : PlayerDirectory}

theorem numbered_fresh : fresh.Numbered where
  id_eq := by simp [fresh]
  number_lt := by simp [fresh]
  nodup := List.nodup_nil
  admitted := rfl

/-! ### What the numbers say -/

section
variable (h : d.Numbered)
include h

theorem Numbered.map_id (entries : List ListedPlayer) (hentries : entries.Perm d.entries) :
    entries.map (·.id) = (entries.map (·.number)).map idOf := by
  rw [List.map_map]
  exact List.map_congr_left fun e he => h.id_eq e (hentries.mem_iff.1 he)

theorem Numbered.nodup_ids : d.ids.Nodup := by
  rw [nodup_ids_iff, h.map_id d.entries (.refl _)]
  exact h.nodup.map fun _ _ => idOf_injective

/-- The next id is not taken. -/
theorem Numbered.idOf_nextNumber_notMem : idOf d.nextNumber ∉ d.ids := by
  intro hmem
  obtain ⟨e, he, hid⟩ := List.mem_map.1 (mem_ids_iff.1 hmem)
  exact absurd (idOf_injective ((h.id_eq e he).symm.trans hid)) (Nat.ne_of_lt (h.number_lt e he))

theorem Numbered.ids_add (c : ConnectionId) : (d.add c).2.ids = d.ids ++ [idOf d.nextNumber] := by
  have hlisting : (d.add c).2.listing = d.listing ++ [⟨idOf d.nextNumber, c, d.nextNumber⟩] :=
    byNumber_cons_of_lt h.number_lt
  rw [ids, hlisting, List.map_append]
  rfl

/-- The listed numbers go up. -/
theorem Numbered.pairwise_number : (d.listing.map (·.number)).Pairwise (· < ·) := by
  have hnodup : (d.listing.map (·.number)).Nodup := ((byNumber_perm d.entries).map _).nodup_iff.2 h.nodup
  have hle : (d.listing.map (·.number)).Pairwise (· ≤ ·) := List.pairwise_map.2 (pairwise_byNumber d.entries)
  exact hle.imp₂ (fun _ _ => Nat.lt_of_le_of_ne) hnodup

/-- The listed numbers are those under whose ids somebody is registered, from 0 upward. -/
theorem Numbered.map_number_listing :
    d.listing.map (·.number) = (List.range d.nextNumber).filter fun n => d.contains (idOf n) := by
  refine h.pairwise_number.eq_of_mem_iff (List.pairwise_lt_range.filter _) fun n => ?_
  simp only [List.mem_filter, List.mem_range, contains_iff, mem_ids_iff, List.mem_map, mem_listing_iff]
  constructor
  · rintro ⟨e, he, rfl⟩
    exact ⟨h.number_lt e he, e, he, h.id_eq e he⟩
  · rintro ⟨-, e, he, hid⟩
    exact ⟨e, he, idOf_injective ((h.id_eq e he).symm.trans hid)⟩

/-- Listed are those who have been admitted and not been taken out, in the order in which they were
admitted. -/
theorem Numbered.ids_eq_filter_admitted : d.ids = (SignalRelay.admitted d.published).filter d.contains := by
  rw [ids, h.map_id d.listing (byNumber_perm d.entries), h.map_number_listing, h.admitted, List.filter_map]
  rfl

end

/-! ### Changes -/

theorem ids_remove (hd : d.ids.Nodup) (id : String) : (d.remove id).ids = d.ids.erase id := by
  by_cases hid : id ∈ d.ids
  · rw [remove_eq_removeAll hd hid, ids_removeAll, hd.erase_eq_filter]
    refine List.filter_congr fun x _ => ?_
    rw [Bool.eq_iff_iff]
    simp
  · rw [remove, if_neg fun hmem => hid (contains_iff.1 hmem), List.erase_of_not_mem hid]

theorem Numbered.add (h : d.Numbered) (c : ConnectionId) : (d.add c).2.Numbered where
  id_eq := List.forall_mem_cons.2 ⟨rfl, h.id_eq⟩
  number_lt := List.forall_mem_cons.2 ⟨Nat.lt_succ_self _, fun e he => Nat.lt_succ_of_lt (h.number_lt e he)⟩
  nodup := by
    refine List.nodup_cons.2 ⟨fun hmem => ?_, h.nodup⟩
    obtain ⟨e, he, hnumber⟩ := List.mem_map.1 hmem
    exact absurd hnumber (Nat.ne_of_lt (h.number_lt e he))
  admitted := by
    have hone : SignalRelay.admitted (d.published ++ [.added (idOf d.nextNumber)]) =
        SignalRelay.admitted d.published ++ [idOf d.nextNumber] := List.filterMap_append ..
    show SignalRelay.admitted (d.published ++ [.added (idOf d.nextNumber)]) =
      (List.range (d.nextNumber + 1)).map idOf
    rw [hone, h.admitted, List.range_succ, List.map_append]
    rfl

theorem Numbered.remove (h : d.Numbered) (id : String) : (d.remove id).Numbered := by
  unfold PlayerDirectory.remove
  split
  · have hsub : (d.entries.eraseP (·.id == id)).Sublist d.entries := List.eraseP_sublist
    refine ⟨fun e he => h.id_eq e (hsub.subset he), fun e he => h.number_lt e (hsub.subset he),
      h.nodup.sublist (hsub.map _), ?_⟩
    exact (List.filterMap_append ..).trans ((List.append_nil _).trans h.admitted)
  · exact h

theorem Numbered.update (h : d.Numbered) (u : Update) : (d.update u).Numbered := by
  cases u with
  | add c => exact h.add c
  | remove id => exact h.remove id

theorem Numbered.foldl (h : d.Numbered) (updates : List Update) :
    (updates.foldl PlayerDirectory.update d).Numbered :=
  List.foldlRecOn updates _ h fun _ h' u _ => h'.update u

/-! ### The order of the table -/

section
variable (h : Reordered d d')
include h

theorem Reordered.ids (hd : d.Numbered) : d'.ids = d.ids :=
  congrArg (List.map _) (byNumber_eq_of_perm hd.nodup h.entries)

theorem Reordered.nodup_ids (hd : d.Numbered) : d'.ids.Nodup := h.ids hd ▸ hd.nodup_ids

theorem Reordered.find? (hd : d.Numbered) (id : String) : d'.find? id = d.find? id := by
  refine Option.ext fun c => ?_
  rw [← mem_slots_iff (h.nodup_ids hd), ← mem_slots_iff hd.nodup_ids]
  exact (h.entries.map _).mem_iff

theorem Reordered.update (hd : d.Numbered) (u : Update) : Reordered (d.update u) (d'.update u) := by
  cases u with
  | add c =>
    simp only [PlayerDirectory.update, add, h.nextNumber, h.published]
    exact ⟨h.entries.cons _, rfl, rfl⟩
  | remove id =>
    by_cases hid : id ∈ d.ids
    · rw [PlayerDirectory.update, PlayerDirectory.update, remove_eq hd.nodup_ids hid,
        remove_eq (h.nodup_ids hd) (h.ids hd ▸ hid)]
      exact ⟨h.entries.filter _, h.nextNumber, congrArg (· ++ _) h.published⟩
    · have hid' : id ∉ d'.ids := h.ids hd ▸ hid
      rw [PlayerDirectory.update, PlayerDirectory.update, remove, remove,
        if_neg fun hmem => hid (contains_iff.1 hmem), if_neg fun hmem => hid' (contains_iff.1 hmem)]
      exact h

end

end PlayerDirectory

end SignalRelay
