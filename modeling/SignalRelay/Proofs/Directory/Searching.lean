import Mathlib.Logic.Function.Iterate
import SignalRelay.Proofs.Directory.Fallback
import SignalRelay.Proofs.Directory.Replay

/-!
# Searches for free ids

An id for a streamer that never claims one is searched for.  A round tries the next number behind the stem
and counts up, in 64 bits, and the search is over when nobody holds the id that was tried.  Nothing in a
round bounds how many of them there are.

* `Search.round` is one round, and `exists_finds` says that the search ends with the round after the
  last entry at the latest, with what `takeFallbackId` makes: by then more ids have been tried than
  there are entries.
* `Run` is what may happen to a directory, searches included.  `Run.numbered`: the ids that were made bear
  numbers that do not come again.
* `searches_make_new_ids` puts the two together.
-/

namespace SignalRelay

namespace StreamerDirectory

/-- A search in a directory goes on, or it is over. -/
inductive Search
  | going (d : StreamerDirectory)
  | done (id : String) (d : StreamerDirectory)
  deriving DecidableEq

/-- One round of a search.  The number starts again from `0` when 64 bits do not hold it. -/
def Search.round : Search → Search
  | .going d =>
    let id := d.fallbackStem ++ numeral d.fallbackNumber
    let counted := { d with fallbackNumber := (d.fallbackNumber + 1) % Nat.pow 2 64 }
    if counted.contains id then .going counted else .done id counted
  | .done id d => .done id d

/-- A search goes through exactly so many rounds before it is over, and changes nothing but the number. -/
structure Finds (d : StreamerDirectory) (rounds : Nat) (id : String) : Prop where
  going : ∀ k < rounds, Search.round^[k] (.going d) = .going { d with fallbackNumber := d.fallbackNumber + k }
  done : Search.round^[rounds] (.going d) = .done id { d with fallbackNumber := d.fallbackNumber + rounds }

/-- There are numbers left for one try more than there are entries. -/
def HasRoom (d : StreamerDirectory) : Prop := d.fallbackNumber + d.entries.length + 1 < Nat.pow 2 64
deriving Decidable

/-- What has become of a directory through changes and searches, and the ids that the searches have made,
in order.  Every search has begun with room for it. -/
inductive Run (start : StreamerDirectory) : List String → StreamerDirectory → Prop
  | here : Run start [] start
  | update {made : List String} {d : StreamerDirectory} {u : Update} (h : Run start made d)
      (hu : u ≠ .takeFallbackId) : Run start made (d.update u)
  | search {made : List String} {d d' : StreamerDirectory} {rounds : Nat} {id : String} (h : Run start made d)
      (hroom : d.HasRoom) (hdone : Search.round^[rounds] (.going d) = .done id d') :
      Run start (made ++ [id]) d'

variable {d d' start : StreamerDirectory} {made : List String} {stem id : String} {rounds : Nat}

/-! ### One search -/

theorem round_going (h : d.fallbackNumber + 1 < Nat.pow 2 64) :
    Search.round (.going d) =
      if d.fallbackStem ++ numeral d.fallbackNumber ∈ d.ids then
        .going { d with fallbackNumber := d.fallbackNumber + 1 }
      else
        .done (d.fallbackStem ++ numeral d.fallbackNumber)
          { d with fallbackNumber := d.fallbackNumber + 1 } := by
  simp only [Search.round, Nat.mod_eq_of_lt h, contains_iff]
  rfl

/-- The search goes on for as long as the ids that are tried are taken. -/
theorem iterate_round_of_taken (hlimit : d.fallbackNumber + rounds < Nat.pow 2 64)
    (htaken : ∀ k < rounds, d.fallbackStem ++ numeral (d.fallbackNumber + k) ∈ d.ids) :
    Search.round^[rounds] (.going d) = .going { d with fallbackNumber := d.fallbackNumber + rounds } := by
  induction rounds with
  | zero => rfl
  | succ rounds ih =>
    have hbefore := ih (by omega) fun k hk => htaken k (by omega)
    rw [Function.iterate_succ_apply', hbefore, round_going (by simpa only [Nat.add_assoc] using hlimit)]
    exact if_pos (htaken rounds (Nat.lt_succ_self rounds))

/-- The first id that is free ends the search. -/
theorem finds_of_free (hlimit : d.fallbackNumber + rounds + 1 < Nat.pow 2 64)
    (htaken : ∀ k < rounds, d.fallbackStem ++ numeral (d.fallbackNumber + k) ∈ d.ids)
    (hfree : d.fallbackStem ++ numeral (d.fallbackNumber + rounds) ∉ d.ids) :
    d.Finds (rounds + 1) (d.fallbackStem ++ numeral (d.fallbackNumber + rounds)) where
  going k hk := iterate_round_of_taken (by omega) fun j hj => htaken j (by omega)
  done := by
    rw [Function.iterate_succ_apply', iterate_round_of_taken (by omega) htaken, round_going hlimit]
    exact if_neg hfree

/-- With room for it, a search is over after one round more than there are entries, and has made what
`takeFallbackId` makes. -/
theorem exists_finds (h : d.HasRoom) : ∃ rounds id, rounds ≤ d.entries.length + 1 ∧ d.Finds rounds id ∧
    d.takeFallbackId = (id, { d with fallbackNumber := d.fallbackNumber + rounds }) := by
  obtain ⟨n, htake, hfree, hge, hle, htaken⟩ := d.takeFallbackId_spec
  obtain ⟨rounds, rfl⟩ := Nat.exists_eq_add_of_le hge
  unfold HasRoom at h
  exact ⟨rounds + 1, _, by omega,
    finds_of_free (by omega) (fun k hk => htaken _ (by omega) (by omega)) hfree, htake⟩

/-- A search that is over stays so. -/
theorem Finds.over (h : d.Finds rounds id) (more : Nat) : Search.round^[more + rounds] (.going d) =
    .done id { d with fallbackNumber := d.fallbackNumber + rounds } := by
  rw [Function.iterate_add_apply, h.done]
  exact Function.iterate_fixed rfl more

/-- A search has no other end. -/
theorem takeFallbackId_of_done (h : d.HasRoom) (hdone : Search.round^[rounds] (.going d) = .done id d') :
    d.takeFallbackId = (id, d') := by
  obtain ⟨last, found, -, hfinds, htake⟩ := exists_finds h
  -- before the last round it goes on, and from there on it stays over
  by_cases hlt : rounds < last
  · rw [hfinds.going rounds hlt] at hdone
    cases hdone
  · obtain ⟨more, rfl⟩ := Nat.exists_eq_add_of_le' (Nat.le_of_not_lt hlt)
    rw [hfinds.over more] at hdone
    cases hdone
    exact htake

/-! ### Runs -/

/-- The ids that were made bear different numbers, all below the one that is tried next. -/
structure Numbered (stem : String) (made : List String) (d : StreamerDirectory) : Prop where
  stem_eq : d.fallbackStem = stem
  below : ∀ id ∈ made, ∃ n < d.fallbackNumber, id = stem ++ numeral n
  nodup : made.Nodup

/-- Only a search concerns the ids that the directory makes. -/
theorem fallback_update {u : Update} (hu : u ≠ .takeFallbackId) (d : StreamerDirectory) :
    (d.update u).fallbackStem = d.fallbackStem ∧ (d.update u).fallbackNumber = d.fallbackNumber := by
  cases u with
  | add desired c streaming =>
    simp only [update]
    split
    · rename_i id d' hadd
      obtain ⟨-, rfl⟩ := of_add_eq_ok hadd
      exact ⟨rfl, rfl⟩
    · exact ⟨rfl, rfl⟩
  | rename current desired =>
    simp only [update]
    split
    · rename_i new d' hrename
      obtain ⟨-, -, rfl⟩ := rename_eq_ok_iff.1 hrename
      exact ⟨rfl, rfl⟩
    · exact ⟨rfl, rfl⟩
  | remove id =>
    rw [update, remove]
    split <;> exact ⟨rfl, rfl⟩
  | markStreaming id streaming => exact ⟨rfl, rfl⟩
  | takeFallbackId => exact absurd rfl hu

/-- The number of the next id is not below the one that is tried next. -/
theorem Numbered.notMem_takeFallbackId (h : Numbered stem made d) : d.takeFallbackId.1 ∉ made := by
  obtain ⟨n, htake, -, hge, -⟩ := d.takeFallbackId_spec
  intro hmem
  obtain ⟨m, hm, heq⟩ := h.below _ hmem
  rw [htake, h.stem_eq] at heq
  have := append_numeral_injective heq
  omega

theorem Numbered.takeFallbackId (h : Numbered stem made d) :
    Numbered stem (made ++ [d.takeFallbackId.1]) d.takeFallbackId.2 where
  stem_eq := h.stem_eq
  below := by
    obtain ⟨n, htake, -, hge, -⟩ := d.takeFallbackId_spec
    rw [htake]
    intro id hid
    rcases List.mem_append.1 hid with hid | hid
    · obtain ⟨m, hm, rfl⟩ := h.below id hid
      exact ⟨m, Nat.lt_succ_of_lt (Nat.lt_of_lt_of_le hm hge), rfl⟩
    · exact ⟨n, Nat.lt_succ_self n, h.stem_eq ▸ List.mem_singleton.1 hid⟩
  nodup := by
    refine List.nodup_append.2 ⟨h.nodup, List.nodup_singleton _,
      fun x hx y hy hxy => h.notMem_takeFallbackId ?_⟩
    rwa [← List.mem_singleton.1 hy, ← hxy]

theorem Run.numbered (h : Run start made d) : Numbered start.fallbackStem made d := by
  induction h with
  | here => exact ⟨rfl, fun id hid => absurd hid List.not_mem_nil, List.nodup_nil⟩
  | @update made d u _ hu ih =>
    obtain ⟨hstem, hnumber⟩ := fallback_update hu d
    exact ⟨hstem.trans ih.stem_eq, fun id hid => hnumber ▸ ih.below id hid, ih.nodup⟩
  | search _ hroom hdone ih =>
    -- there is room, so the number has not started again from `0`
    have hnext := ih.takeFallbackId
    rwa [takeFallbackId_of_done hroom hdone] at hnext

/-- In a run, whatever directory it has begun with and whatever has been claimed since, no two searches
make the same id.  With room for it, one more search is over after at most one round more than there are
entries.  It changes nothing but the number, and makes an id that nobody holds, that no search has made
before and that is admitted as it is right afterwards; this is what `takeFallbackId` does. -/
theorem searches_make_new_ids (h : Run start made d) :
    made.Nodup ∧
    (d.HasRoom → ∃ rounds id, rounds ≤ d.entries.length + 1 ∧ d.Finds rounds id ∧
      d.takeFallbackId = (id, { d with fallbackNumber := d.fallbackNumber + rounds }) ∧
        id ∉ d.ids ∧ id ∉ made ∧
      ∀ c streaming, add { d with fallbackNumber := d.fallbackNumber + rounds } id c streaming =
        .ok (id, { d with
          entries := d.entries ++ [⟨id, c, streaming⟩]
          fallbackNumber := d.fallbackNumber + rounds
          published := d.published ++ [.added id] })) := by
  refine ⟨h.numbered.nodup, fun hroom => ?_⟩
  obtain ⟨rounds, id, hle, hfinds, htake⟩ := exists_finds hroom
  have hnew : id ∉ made := by
    have hnumber := h.numbered.notMem_takeFallbackId
    rwa [htake] at hnumber
  obtain ⟨n, hmade, hfree, -⟩ := d.takeFallbackId_spec
  obtain rfl : id = d.fallbackStem ++ numeral n := congrArg Prod.fst (htake.symm.trans hmade)
  exact ⟨rounds, _, hle, hfinds, htake, hfree, hnew,
    add_of_endsInDigit (d := { d with fallbackNumber := d.fallbackNumber + rounds })
      (endsInDigit_append_numeral _ n) hfree⟩

/-- A stem of digits, and ids of digits that are claimed before the first search and after it.  That one
of them is free again does not matter. -/
theorem searches_make_new_ids_digits :
    let start := fresh "camera" "7"
    let before := (start.update (.add "70" ⟨1⟩ true)).update (.add "71" ⟨2⟩ true)
    let found := { before with fallbackNumber := 3 }
    let d := (found.update (.remove "70")).update (.rename "71" "73")
    Search.round^[3] (.going before) = .done "72" found ∧ Run start ["72"] d ∧ d.HasRoom ∧ d.Finds 2 "74" ∧
      "74" ∉ d.ids ∧ "74" ∉ ["72"] ∧
      d.takeFallbackId.2.add "74" ⟨3⟩ true = .ok ("74", { d with
        entries := d.entries ++ [⟨"74", ⟨3⟩, true⟩]
        fallbackNumber := 5
        published := d.published ++ [.added "74"] }) := by
  intro start before found d
  have hbefore : Run start [] before := (Run.here.update (by decide)).update (by decide)
  have hdone : Search.round^[3] (.going before) = .done "72" found := by decide +kernel
  have hd : Run start ["72"] d :=
    ((hbefore.search (by decide +kernel) hdone).update (by decide)).update (by decide)
  have hroom : d.HasRoom := by decide +kernel
  have hnumber : d.fallbackNumber = 3 := by decide +kernel
  have hnext : d.takeFallbackId = ("74", { d with fallbackNumber := 3 + 2 }) := by decide +kernel
  clear_value d
  obtain ⟨-, hsearch⟩ := searches_make_new_ids hd
  obtain ⟨rounds, id, -, hfinds, htake, hfree, hnew, hadd⟩ := hsearch hroom
  rw [hnumber] at htake hadd
  obtain ⟨hid, hcounted⟩ := Prod.mk.inj (htake.symm.trans hnext)
  have hrounds : 3 + rounds = 3 + 2 := congrArg fallbackNumber hcounted
  obtain rfl : rounds = 2 := Nat.add_left_cancel hrounds
  obtain rfl : id = "74" := hid
  rw [htake]
  exact ⟨hdone, hd, hroom, hfinds, hfree, hnew, hadd ⟨3⟩ true⟩

end StreamerDirectory

end SignalRelay
