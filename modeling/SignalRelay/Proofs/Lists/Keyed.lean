import Mathlib.Data.List.Nodup

/-!
# Lists with a key

Facts about lists whose elements are told apart by a key.  As long as no key occurs twice, looking a key
up and being in the list are the same (`find?_eq_some_iff`, `mem_map_pair_iff`), and erasing the first
element with a key leaves those with another one (`eraseP_eq_filter`).  Taking out the elements with some
keys, and then those with others, takes out both (`filter_filter_notMem`), and what is left shows in every
column (`map_filter_notMem`).
-/

namespace SignalRelay

namespace Keyed

section
variable {α β : Type} {key : α → String} {l : List α} {id : String}

/-! ### Looking up -/

theorem find?_isSome_iff : (l.find? (key · == id)).isSome ↔ id ∈ l.map key := by
  simp [List.find?_isSome]

theorem find?_eq_some_iff (h : (l.map key).Nodup) {x : α} :
    l.find? (key · == id) = some x ↔ x ∈ l ∧ key x = id := by
  constructor
  · intro hx
    exact ⟨List.mem_of_find?_eq_some hx, by simpa using List.find?_some hx⟩
  · rintro ⟨hx, hid⟩
    have hmem : id ∈ l.map key := List.mem_map.2 ⟨x, hx, hid⟩
    obtain ⟨y, hy⟩ := Option.isSome_iff_exists.1 (find?_isSome_iff.2 hmem)
    have hkey : key y = id := by simpa using List.find?_some hy
    rw [hy, List.inj_on_of_nodup_map h (List.mem_of_find?_eq_some hy) hx (hkey.trans hid.symm)]

/-- A key stands beside a value in the list if the value is found under it. -/
theorem mem_map_pair_iff (h : (l.map key).Nodup) {value : α → β} {y : β} :
    (id, y) ∈ l.map (fun x => (key x, value x)) ↔ (l.find? (key · == id)).map value = some y := by
  simp only [List.mem_map, Prod.mk.injEq, Option.map_eq_some_iff, find?_eq_some_iff h]
  constructor
  · rintro ⟨x, hx, hid, hy⟩
    exact ⟨x, ⟨hx, hid⟩, hy⟩
  · rintro ⟨x, ⟨hx, hid⟩, hy⟩
    exact ⟨x, hx, hid, hy⟩

/-! ### Taking out -/

/-- Erasing the first element with a key erases the key. -/
theorem map_eraseP (key : α → String) (l : List α) (id : String) :
    (l.eraseP (key · == id)).map key = (l.map key).erase id := by
  rw [List.erase_eq_eraseP', List.eraseP_map]
  rfl

theorem eraseP_eq_filter (h : (l.map key).Nodup) (id : String) :
    l.eraseP (key · == id) = l.filter (key · ≠ id) := by
  induction l with
  | nil => rfl
  | cons y l ih =>
    rw [List.map_cons, List.nodup_cons] at h
    by_cases hy : key y = id
    · have hrest : l.filter (key · ≠ id) = l := by
        rw [List.filter_eq_self]
        intro x hx
        have : key x ≠ id := fun he => h.1 (hy ▸ he ▸ List.mem_map_of_mem hx)
        simpa using this
      rw [List.eraseP_cons_of_pos (by simpa using hy), List.filter_cons_of_neg (by simpa using hy), hrest]
    · rw [List.eraseP_cons_of_neg (by simpa using hy), List.filter_cons_of_pos (by simpa using hy), ih h.2]

theorem filter_notMem_nil (key : α → String) (l : List α) : l.filter (key · ∉ []) = l :=
  List.filter_eq_self.2 (by simp)

theorem filter_notMem_singleton (key : α → String) (l : List α) (id : String) :
    l.filter (key · ∉ [id]) = l.filter (key · ≠ id) := by
  simp only [List.mem_singleton, ne_eq]

theorem filter_filter_notMem (key : α → String) (l : List α) (first second : List String) :
    (l.filter (key · ∉ first)).filter (key · ∉ second) = l.filter (key · ∉ first ++ second) := by
  rw [List.filter_filter]
  apply List.filter_congr
  intro x _
  by_cases hx : key x ∈ first <;> simp [hx]

/-- A column that the key can be read off shows what is left. -/
theorem map_filter_notMem (column : α → β) (key : β → String) (l : List α) (ids : List String) :
    (l.filter fun x => key (column x) ∉ ids).map column = (l.map column).filter (key · ∉ ids) := by
  simp only [List.filter_map, Function.comp_def]

end

end Keyed

end SignalRelay
