import Mathlib.Data.List.Nodup
import Mathlib.Data.List.Perm.Subperm
import SignalRelay.Proofs.Directory.Families
import SignalRelay.Proofs.Directory.Slots

/-!
# Ids for streamers that never claim one

Such an id is made by the directory.  Nobody holds it, since one of the numbers that are tried makes an id
that is free, and it is admitted as it is, since a free id that ends in a digit clashes with no other.
-/

namespace SignalRelay

namespace StreamerDirectory

/-- A free claim that ends in a digit is admitted as it is. -/
theorem add_of_endsInDigit {d : StreamerDirectory} {id : String} (h : endsInDigit id = true)
    (hfree : id ∉ d.ids) (c : ConnectionId) (streaming : Bool) : d.add id c streaming = .ok (id, { d with
      entries := d.entries ++ [⟨id, c, streaming⟩]
      published := d.published ++ [.added id] }) := by
  have hne : id.isEmpty = false := by
    rw [Bool.eq_false_iff]
    intro hempty
    rw [String.isEmpty_iff.1 hempty] at h
    cases h
  have hcommitted : d.committedId id d.ids = .ok id := by
    simp only [committedId, hne, Bool.false_eq_true, if_false, disambiguate_of_endsInDigit h hfree,
      if_neg hfree]
  exact add_eq_ok_iff.2 ⟨hcommitted, rfl⟩

/-! ### Numbers that are tried -/

section
variable {stem : String} {taken : List String}

/-- Every number before the one that is found makes an id that is taken, and so does that one only if the
tries are used up. -/
private theorem freeNumber_spec (stem : String) (taken : List String) (rounds n : Nat) :
    (∀ k, n ≤ k → k < freeNumber stem taken rounds n → stem ++ numeral k ∈ taken) ∧
      n ≤ freeNumber stem taken rounds n ∧ freeNumber stem taken rounds n ≤ n + rounds ∧
      (stem ++ numeral (freeNumber stem taken rounds n) ∈ taken →
        freeNumber stem taken rounds n = n + rounds) := by
  induction rounds generalizing n with
  | zero => exact ⟨fun k hn hk => absurd hk (by simp only [freeNumber]; omega), Nat.le_refl _, Nat.le_refl _,
      fun _ => rfl⟩
  | succ rounds ih =>
    unfold freeNumber
    split
    · rename_i htaken
      obtain ⟨hbelow, hge, hle, hlast⟩ := ih (n + 1)
      refine ⟨fun k hn hk => ?_, by omega, by omega, fun hmem => by have := hlast hmem; omega⟩
      by_cases hkn : k = n
      · exact hkn ▸ htaken
      · exact hbelow k (by omega) hk
    · rename_i hfree
      exact ⟨fun k hn hk => absurd hk (by omega), Nat.le_refl _, Nat.le_add_right _ _,
        fun hmem => absurd hmem hfree⟩

/-- One try more than there are ids finds a free one. -/
theorem notMem_freeNumber (stem : String) (taken : List String) (n : Nat) :
    stem ++ numeral (freeNumber stem taken taken.length n) ∉ taken := by
  intro hmem
  obtain ⟨hbelow, -, -, hlast⟩ := freeNumber_spec stem taken taken.length n
  have hnumber := hlast hmem
  -- otherwise all that were tried are taken, and they are too many
  have htaken : (List.range' n (taken.length + 1)).map (fun k => stem ++ numeral k) ⊆ taken := by
    intro id hid
    obtain ⟨k, hk, rfl⟩ := List.mem_map.1 hid
    rw [List.mem_range'_1] at hk
    by_cases hkn : k = n + taken.length
    · rw [hkn, ← hnumber]
      exact hmem
    · exact hbelow k (by omega) (by omega)
  have hnodup : ((List.range' n (taken.length + 1)).map fun k => stem ++ numeral k).Nodup :=
    List.Nodup.map (fun _ _ => append_numeral_injective) List.nodup_range'
  have hlength := (List.subperm_of_subset hnodup htaken).length_le
  rw [List.length_map, List.length_range'] at hlength
  omega

end

/-- The id that is made is free, while all those that were tried before it are taken. -/
theorem takeFallbackId_spec (d : StreamerDirectory) :
    ∃ n, d.takeFallbackId = (d.fallbackStem ++ numeral n, { d with fallbackNumber := n + 1 }) ∧
      d.fallbackStem ++ numeral n ∉ d.ids ∧ d.fallbackNumber ≤ n ∧ n ≤ d.fallbackNumber + d.entries.length ∧
      ∀ k, d.fallbackNumber ≤ k → k < n → d.fallbackStem ++ numeral k ∈ d.ids := by
  obtain ⟨hbelow, hge, hle, -⟩ := freeNumber_spec d.fallbackStem d.ids d.entries.length d.fallbackNumber
  have hfree := notMem_freeNumber d.fallbackStem d.ids d.fallbackNumber
  rw [ids, List.length_map] at hfree
  exact ⟨_, rfl, hfree, hge, hle, hbelow⟩

end StreamerDirectory

end SignalRelay
