/-!
# Going through a list

What holds of a list that is gone through from its beginning: a relation between what there was before and
what there is after (`rel_foldl`), what the last entry said (`getLast?_filterMap_cons`) and what none of
them says (`notMem_filterMap_cons`).
-/

namespace SignalRelay

section
variable {α β : Type}

/-- Steps of a reflexive and transitive relation, one for each element, come to one step. -/
theorem rel_foldl {R : β → β → Prop} (refl : ∀ b, R b b) (trans : ∀ {b c d}, R b c → R c d → R b d)
    {f : β → α → β} (h : ∀ b x, R b (f b x)) (l : List α) (b : β) : R b (l.foldl f b) :=
  List.foldlRecOn l f (refl b) fun c hc x _ => trans hc (h c x)

/-- What a list ends with counts before what it begins with. -/
theorem getLast?_filterMap_cons (f : α → Option β) (x : α) (l : List α) :
    ((x :: l).filterMap f).getLast? = (l.filterMap f).getLast?.or (f x) := by
  cases hx : f x with
  | none => rw [List.filterMap_cons_none hx, Option.or_none]
  | some y => rw [List.filterMap_cons_some hx, List.getLast?_cons, Option.or_some]

/-- What a list does not say is said neither by its first element nor by the others. -/
theorem notMem_filterMap_cons {f : α → Option β} {x : α} {l : List α} {y : β} :
    y ∉ (x :: l).filterMap f ↔ f x ≠ some y ∧ y ∉ l.filterMap f := by
  simp [List.mem_filterMap]

end

end SignalRelay
