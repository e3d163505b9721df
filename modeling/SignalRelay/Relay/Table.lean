import SignalRelay.Identity.ConnectionId

/-!
# Tables

Finite maps from connections, kept as lists of pairs in the order in which the connections came.

The lemmas say what each operation does to `get?`.
-/

namespace SignalRelay

/-- A finite map from connections. -/
structure Table (α : Type) where
  entries : List (ConnectionId × α)
  deriving DecidableEq

namespace Table

variable {α : Type}

def empty : Table α := ⟨[]⟩

def get? (t : Table α) (c : ConnectionId) : Option α := t.entries.lookup c

def keys (t : Table α) : List ConnectionId := t.entries.map (·.1)

def size (t : Table α) : Nat := t.entries.length

/-- Changes the value of a connection that has one. -/
def adjust (t : Table α) (c : ConnectionId) (f : α → α) : Table α :=
  ⟨t.entries.map fun e => if e.1 = c then (e.1, f e.2) else e⟩

/-- Gives a connection a value, in its old place if it had one. -/
def set (t : Table α) (c : ConnectionId) (x : α) : Table α :=
  if (t.get? c).isSome then t.adjust c fun _ => x else ⟨t.entries ++ [(c, x)]⟩

def erase (t : Table α) (c : ConnectionId) : Table α :=
  ⟨t.entries.filter fun e => e.1 ≠ c⟩

private theorem lookup_adjust (l : List (ConnectionId × α)) (c d : ConnectionId) (f : α → α) :
    (l.map fun e => if e.1 = c then (e.1, f e.2) else e).lookup d =
      if d = c then (l.lookup d).map f else l.lookup d := by
  induction l with
  | nil => simp
  | cons e rest ih =>
    obtain ⟨u, x⟩ := e
    have hkey : (if u = c then (u, f x) else (u, x)) = (u, if u = c then f x else x) := by split <;> rfl
    rw [List.map_cons, hkey, List.lookup_cons, List.lookup_cons, ih]
    by_cases hd : d = u
    · subst hd
      by_cases hc : d = c <;> simp [hc]
    · simp [beq_eq_false_iff_ne.2 hd]

private theorem lookup_filter_ne (l : List (ConnectionId × α)) (c d : ConnectionId) :
    (l.filter fun e => e.1 ≠ c).lookup d = if d = c then none else l.lookup d := by
  induction l with
  | nil => simp
  | cons e rest ih =>
    obtain ⟨u, x⟩ := e
    rw [List.lookup_cons]
    by_cases hc : u = c
    · rw [List.filter_cons_of_neg (by simpa using hc), ih]
      by_cases hd : d = c
      · simp [hd]
      · simp [hd, beq_eq_false_iff_ne.2 (hc ▸ hd)]
    · rw [List.filter_cons_of_pos (by simpa using hc), List.lookup_cons, ih]
      by_cases hd : d = u
      · simp [hd, hc]
      · simp [beq_eq_false_iff_ne.2 hd]

theorem get?_adjust (t : Table α) (c d : ConnectionId) (f : α → α) :
    (t.adjust c f).get? d = if d = c then (t.get? d).map f else t.get? d :=
  lookup_adjust t.entries c d f

theorem get?_erase (t : Table α) (c d : ConnectionId) :
    (t.erase c).get? d = if d = c then none else t.get? d :=
  lookup_filter_ne t.entries c d

theorem get?_set (t : Table α) (c d : ConnectionId) (x : α) :
    (t.set c x).get? d = if d = c then some x else t.get? d := by
  unfold set
  split
  · rename_i h
    obtain ⟨y, hy⟩ := Option.isSome_iff_exists.1 h
    rw [get?_adjust]
    by_cases hd : d = c
    · subst hd; simp [hy]
    · simp [hd]
  · rename_i h
    have hnone : t.entries.lookup c = none := Option.not_isSome_iff_eq_none.1 h
    show (t.entries ++ [(c, x)]).lookup d = _
    rw [List.lookup_append]
    by_cases hd : d = c
    · subst hd; simp [hnone]
    · simp [hd, get?, List.lookup_cons, beq_eq_false_iff_ne.2 hd]

@[simp] theorem size_adjust (t : Table α) (c : ConnectionId) (f : α → α) : (t.adjust c f).size = t.size := by
  simp [size, adjust]

theorem size_erase_le (t : Table α) (c : ConnectionId) : (t.erase c).size ≤ t.size :=
  List.length_filter_le _ _

/-- The keys are the connections that have a value. -/
theorem mem_keys_iff {t : Table α} {c : ConnectionId} : c ∈ t.keys ↔ (t.get? c).isSome := by
  simp [keys, get?]

theorem size_erase_lt {t : Table α} {c : ConnectionId} {x : α} (h : t.get? c = some x) :
    (t.erase c).size < t.size := by
  obtain ⟨before, after, hentries, -⟩ := List.lookup_eq_some_iff.1 h
  exact List.length_filter_lt_length_iff_exists.2 ⟨(c, x), by simp [hentries], by simp⟩

end Table

end SignalRelay
