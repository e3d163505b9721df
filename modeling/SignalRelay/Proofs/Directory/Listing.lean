import Mathlib.Data.List.Nodup
import SignalRelay.Directory.Players

/-!
# The listing of the player directory

The table of a player directory is in no order, and its listing is sorted by the numbers of the entries.

* `byNumber_cons` says where sorting puts an entry, and `byNumber_filter` that entries can be taken
  out before or after.
* `byNumber_eq_of_perm`: as long as no number occurs twice, the listing does not depend on the order of
  the table.
* What is listed is what is in the table (`mem_listing_iff`, `mem_ids_iff`, `nodup_ids_iff`).
-/

namespace SignalRelay

namespace PlayerDirectory

variable {entries entries' : List ListedPlayer}

/-! ### Sorting by number -/

theorem byNumber_perm (entries : List ListedPlayer) : (byNumber entries).Perm entries :=
  List.mergeSort_perm _ _

private theorem number_trans (e e' e'' : ListedPlayer) (h : decide (e.number ≤ e'.number) = true)
    (h' : decide (e'.number ≤ e''.number) = true) : decide (e.number ≤ e''.number) = true :=
  decide_eq_true (Nat.le_trans (of_decide_eq_true h) (of_decide_eq_true h'))

private theorem number_total (e e' : ListedPlayer) :
    (decide (e.number ≤ e'.number) || decide (e'.number ≤ e.number)) = true := by
  simpa using Nat.le_total e.number e'.number

theorem pairwise_byNumber (entries : List ListedPlayer) :
    (byNumber entries).Pairwise fun e e' => e.number ≤ e'.number := by
  simpa [byNumber] using List.pairwise_mergeSort number_trans number_total entries

/-- A list whose first part is below a number, and the other part not, can be cut there. -/
private theorem filter_append_of_cut {front behind : List ListedPlayer} {n : Nat}
    (hfront : ∀ e ∈ front, e.number < n) (hbehind : ∀ e ∈ behind, n ≤ e.number) :
    (front ++ behind).filter (·.number < n) = front ∧
      (front ++ behind).filter (n ≤ ·.number) = behind := by
  constructor
  · rw [List.filter_append, List.filter_eq_self.2 fun e he => by simpa using hfront e he,
      List.filter_eq_nil_iff.2 fun e he => by simpa using hbehind e he, List.append_nil]
  · rw [List.filter_append, List.filter_eq_nil_iff.2 fun e he => by simpa using hfront e he,
      List.filter_eq_self.2 fun e he => by simpa using hbehind e he, List.nil_append]

/-- An entry comes behind those with lower numbers and in front of the others, which stay as they are. -/
theorem byNumber_cons (e : ListedPlayer) (entries : List ListedPlayer) :
    ∃ front behind, byNumber (e :: entries) = front ++ e :: behind ∧ byNumber entries = front ++ behind ∧
      front = (byNumber entries).filter (·.number < e.number) ∧
      behind = (byNumber entries).filter (e.number ≤ ·.number) := by
  obtain ⟨front, behind, hsorted, hrest, hfront⟩ := List.mergeSort_cons number_trans number_total e entries
  have hpairs := pairwise_byNumber (e :: entries)
  rw [byNumber, hsorted, List.pairwise_append, List.pairwise_cons] at hpairs
  obtain ⟨hlow, hhigh⟩ := filter_append_of_cut (fun x hx => by simpa using hfront x hx) hpairs.2.1.1
  exact ⟨front, behind, hsorted, hrest, by rw [byNumber, hrest, hlow], by rw [byNumber, hrest, hhigh]⟩

/-- Whether entries are taken out before or after sorting makes no difference. -/
theorem byNumber_filter (p : ListedPlayer → Bool) (entries : List ListedPlayer) :
    byNumber (entries.filter p) = (byNumber entries).filter p := by
  induction entries with
  | nil => simp [byNumber]
  | cons e entries ih =>
    obtain ⟨front, behind, hsorted, hrest, hfront, hbehind⟩ := byNumber_cons e entries
    by_cases he : p e
    · obtain ⟨front', behind', hsorted', -, hfront', hbehind'⟩ := byNumber_cons e (entries.filter p)
      -- both sides are cut in the same place
      have hcut : front' = front.filter p ∧ behind' = behind.filter p := by
        rw [hfront', hbehind', hfront, hbehind, ih]
        simp only [List.filter_filter, Bool.and_comm, and_self]
      rw [List.filter_cons_of_pos he, hsorted', hsorted, List.filter_append, List.filter_cons_of_pos he,
        hcut.1, hcut.2]
    · rw [List.filter_cons_of_neg he, ih, hsorted, hrest, List.filter_append, List.filter_append,
        List.filter_cons_of_neg he]

/-- An entry with a higher number than all others comes last. -/
theorem byNumber_cons_of_lt {e : ListedPlayer} (h : ∀ x ∈ entries, x.number < e.number) :
    byNumber (e :: entries) = byNumber entries ++ [e] := by
  obtain ⟨front, behind, hsorted, hrest, -, hbehind⟩ := byNumber_cons e entries
  have hnone : behind = [] := by
    rw [hbehind, List.filter_eq_nil_iff]
    intro x hx
    simpa using h x ((byNumber_perm entries).mem_iff.1 hx)
  rw [hsorted, hrest, hnone, List.append_nil]

/-- A table is listed in one way, whatever order it is gone through in. -/
theorem byNumber_eq_of_perm (h : (entries.map (·.number)).Nodup) (hperm : entries'.Perm entries) :
    byNumber entries' = byNumber entries := by
  have hsame : (byNumber entries').Perm (byNumber entries) :=
    (byNumber_perm entries').trans (hperm.trans (byNumber_perm entries).symm)
  refine hsame.eq_of_pairwise (fun e e' he he' hle hle' => ?_) (pairwise_byNumber entries')
    (pairwise_byNumber entries)
  have hmem : e ∈ entries := hperm.mem_iff.1 ((byNumber_perm entries').mem_iff.1 he)
  have hmem' : e' ∈ entries := (byNumber_perm entries).mem_iff.1 he'
  exact List.inj_on_of_nodup_map h hmem hmem' (Nat.le_antisymm hle hle')

/-! ### What is listed -/

variable {d : PlayerDirectory}

theorem mem_listing_iff {e : ListedPlayer} : e ∈ d.listing ↔ e ∈ d.entries :=
  (byNumber_perm d.entries).mem_iff

theorem ids_perm (d : PlayerDirectory) : d.ids.Perm (d.entries.map (·.id)) := (byNumber_perm d.entries).map _

theorem mem_ids_iff {id : String} : id ∈ d.ids ↔ id ∈ d.entries.map (·.id) := d.ids_perm.mem_iff

theorem nodup_ids_iff : d.ids.Nodup ↔ (d.entries.map (·.id)).Nodup := d.ids_perm.nodup_iff

theorem ids_eq_nil (h : d.entries = []) : d.ids = [] := by
  rw [ids, listing, h]
  simp [byNumber]

end PlayerDirectory

end SignalRelay
