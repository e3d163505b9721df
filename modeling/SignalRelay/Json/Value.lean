import SignalRelay.Decimal.Double

/-!
# JSON values

A JSON text is read into a tree that keeps the members of an object in the order and number in which
they stand.  What a message carries on is the canonical form of such a tree: in every object the
names are distinct and increasing.

* `Json` is the tree, with decidable equality.
* `Json.normal` sorts the members of all objects and keeps the last of those that share a name;
  `canonical_normal` says that the result is `Json.Canonical`.
* `Fields` is the member list of a canonical object, and the type of everything that is relayed
  unread.
-/

namespace SignalRelay

/-- A JSON number: an exact integer, or a double. -/
inductive Number
  | int (value : Int)
  | double (value : Double)
  deriving DecidableEq, Repr

inductive Json
  | null
  | bool (value : Bool)
  | num (value : Number)
  | str (value : String)
  | arr (items : List Json)
  | obj (members : List (String × Json))
  deriving Repr

namespace Json

/-! ## Equality -/

mutual

private def decJson : (a b : Json) → Decidable (a = b)
  | .null, .null => isTrue rfl
  | .bool a, .bool b => decidable_of_iff (a = b) (by simp)
  | .num a, .num b => decidable_of_iff (a = b) (by simp)
  | .str a, .str b => decidable_of_iff (a = b) (by simp)
  | .arr a, .arr b =>
    match decItems a b with
    | isTrue h => isTrue (by rw [h])
    | isFalse h => isFalse (by simpa using h)
  | .obj a, .obj b =>
    match decMembers a b with
    | isTrue h => isTrue (by rw [h])
    | isFalse h => isFalse (by simpa using h)
  | .null, .bool _ | .null, .num _ | .null, .str _ | .null, .arr _ | .null, .obj _
  | .bool _, .null | .bool _, .num _ | .bool _, .str _ | .bool _, .arr _ | .bool _, .obj _
  | .num _, .null | .num _, .bool _ | .num _, .str _ | .num _, .arr _ | .num _, .obj _
  | .str _, .null | .str _, .bool _ | .str _, .num _ | .str _, .arr _ | .str _, .obj _
  | .arr _, .null | .arr _, .bool _ | .arr _, .num _ | .arr _, .str _ | .arr _, .obj _
  | .obj _, .null | .obj _, .bool _ | .obj _, .num _ | .obj _, .str _ | .obj _, .arr _ => isFalse (by simp)
  termination_by structural a => a

private def decItems : (a b : List Json) → Decidable (a = b)
  | [], [] => isTrue rfl
  | a :: as, b :: bs =>
    match decJson a b, decItems as bs with
    | isTrue h, isTrue hs => isTrue (by rw [h, hs])
    | isFalse h, _ => isFalse (by simp [h])
    | _, isFalse h => isFalse (by simp [h])
  | [], _ :: _ | _ :: _, [] => isFalse (by simp)
  termination_by structural a => a

private def decMembers : (a b : List (String × Json)) → Decidable (a = b)
  | [], [] => isTrue rfl
  | a :: as, b :: bs =>
    match decMember a b, decMembers as bs with
    | isTrue h, isTrue hs => isTrue (by rw [h, hs])
    | isFalse h, _ => isFalse (by simp [h])
    | _, isFalse h => isFalse (by simp [h])
  | [], _ :: _ | _ :: _, [] => isFalse (by simp)
  termination_by structural a => a

private def decMember : (a b : String × Json) → Decidable (a = b)
  | (k, v), (l, w) =>
    match decEq k l, decJson v w with
    | isTrue h, isTrue hs => isTrue (by rw [h, hs])
    | isFalse h, _ => isFalse (by simp [h])
    | _, isFalse h => isFalse (by simp [h])
  termination_by structural a => a

end

instance : DecidableEq Json := decJson

/-! ## Canonical form -/

/-- Puts a member into an increasing member list.  If its name is taken, `override` says whether it stands
there in place of the other one or is dropped. -/
def insertMember (override : Bool) (m : String × Json) : List (String × Json) → List (String × Json)
  | [] => [m]
  | n :: rest =>
    if m.1 < n.1 then m :: n :: rest
    else if m.1 = n.1 then (if override then m else n) :: rest
    else n :: insertMember override m rest

mutual

/-- The canonical form of a tree. -/
def normal : Json → Json
  | .null => .null
  | .bool b => .bool b
  | .num n => .num n
  | .str s => .str s
  | .arr items => .arr (normalItems items)
  | .obj members => .obj (normalMembers members)
  termination_by structural j => j

def normalItems : List Json → List Json
  | [] => []
  | j :: rest => normal j :: normalItems rest
  termination_by structural items => items

/-- Increasing members with canonical values; of several with one name the last is kept. -/
def normalMembers : List (String × Json) → List (String × Json)
  | [] => []
  | m :: rest => insertMember false (normalMember m) (normalMembers rest)
  termination_by structural members => members

def normalMember : String × Json → String × Json
  | (key, value) => (key, normal value)
  termination_by structural member => member

end

mutual

/-- In every object of the tree the names are increasing, and so distinct. -/
def Canonical : Json → Prop
  | .null | .bool _ | .num _ | .str _ => True
  | .arr items => CanonicalItems items
  | .obj members => CanonicalMembers members
  termination_by structural j => j

def CanonicalItems : List Json → Prop
  | [] => True
  | j :: rest => Canonical j ∧ CanonicalItems rest
  termination_by structural items => items

/-- The names are increasing and all values are canonical. -/
def CanonicalMembers : List (String × Json) → Prop
  | [] => True
  | m :: rest => CanonicalMember m ∧ (∀ n ∈ rest, m.1 < n.1) ∧ CanonicalMembers rest
  termination_by structural members => members

def CanonicalMember : String × Json → Prop
  | (_, value) => Canonical value
  termination_by structural member => member

end

private theorem string_lt_of_not_lt {a b : String} (h : ¬ a < b) (hne : a ≠ b) : b < a :=
  Std.lt_of_le_of_ne h (Ne.symm hne)

theorem mem_insertMember {override : Bool} {m x : String × Json} {l : List (String × Json)}
    (h : x ∈ insertMember override m l) : x = m ∨ x ∈ l := by
  induction l with
  | nil => simpa [insertMember] using h
  | cons n rest ih =>
    unfold insertMember at h
    split at h
    · simpa using h
    · split at h
      · rcases List.mem_cons.1 h with rfl | h'
        · cases override
          · exact .inr List.mem_cons_self
          · exact .inl rfl
        · exact .inr (List.mem_cons_of_mem _ h')
      · rcases List.mem_cons.1 h with rfl | h'
        · exact .inr List.mem_cons_self
        · exact (ih h').imp_right (List.mem_cons_of_mem _)

private theorem lookup_member (m : String × Json) (l : List (String × Json)) (key : String) :
    (m :: l).lookup key = if key = m.1 then some m.2 else l.lookup key := by
  rw [List.lookup_cons]
  by_cases hkey : key = m.1
  · simp [hkey]
  · simp [hkey, beq_eq_false_iff_ne.2 hkey]

theorem lookup_insertMember (m : String × Json) (l : List (String × Json)) (key : String) :
    (insertMember true m l).lookup key = if key = m.1 then some m.2 else l.lookup key := by
  induction l with
  | nil => exact lookup_member m [] key
  | cons n rest ih =>
    unfold insertMember
    split
    · exact lookup_member m (n :: rest) key
    · split
      · rename_i heq
        rw [if_pos rfl, lookup_member, lookup_member n, heq]
        split <;> rfl
      · rename_i hne
        rw [lookup_member, lookup_member n, ih]
        by_cases hkey : key = n.1
        · rw [if_pos hkey, if_pos hkey, if_neg fun he => hne (he.symm.trans hkey)]
        · rw [if_neg hkey, if_neg hkey]

theorem canonicalMembers_insertMember {override : Bool} {m : String × Json} {l : List (String × Json)}
    (hm : CanonicalMember m) (hl : CanonicalMembers l) : CanonicalMembers (insertMember override m l) := by
  induction l with
  | nil => exact ⟨hm, by simp, trivial⟩
  | cons n rest ih =>
    obtain ⟨hn, hrest, hcan⟩ := hl
    unfold insertMember
    split
    · rename_i hlt
      refine ⟨hm, ?_, hn, hrest, hcan⟩
      intro x hx
      rcases List.mem_cons.1 hx with rfl | hx
      · exact hlt
      · exact String.lt_trans hlt (hrest x hx)
    · rename_i hlt
      split
      · rename_i heq
        cases override
        · exact ⟨hn, hrest, hcan⟩
        · exact ⟨hm, fun x hx => heq ▸ hrest x hx, hcan⟩
      · rename_i hne
        refine ⟨hn, ?_, ih hcan⟩
        intro x hx
        rcases mem_insertMember hx with rfl | hx
        · exact string_lt_of_not_lt hlt hne
        · exact hrest x hx

mutual

theorem canonical_normal : (j : Json) → Canonical (normal j)
  | .null | .bool _ | .num _ | .str _ => trivial
  | .arr items => canonicalItems_normalItems items
  | .obj members => canonicalMembers_normalMembers members
  termination_by structural j => j

theorem canonicalItems_normalItems : (items : List Json) → CanonicalItems (normalItems items)
  | [] => trivial
  | j :: rest => ⟨canonical_normal j, canonicalItems_normalItems rest⟩
  termination_by structural items => items

theorem canonicalMembers_normalMembers :
    (members : List (String × Json)) → CanonicalMembers (normalMembers members)
  | [] => trivial
  | m :: rest =>
    canonicalMembers_insertMember (canonicalMember_normalMember m) (canonicalMembers_normalMembers rest)
  termination_by structural members => members

theorem canonicalMember_normalMember : (m : String × Json) → CanonicalMember (normalMember m)
  | (_, value) => canonical_normal value
  termination_by structural m => m

end

end Json

/-- The members of a canonical object: distinct names in increasing order, canonical values. -/
structure Fields where
  members : List (String × Json)
  canonical : Json.CanonicalMembers members
  deriving DecidableEq

namespace Fields

def empty : Fields := ⟨[], trivial⟩

/-- Any members in canonical form; the last of those that share a name is kept. -/
def ofMembers (members : List (String × Json)) : Fields :=
  ⟨Json.normalMembers members, Json.canonicalMembers_normalMembers members⟩

def insert (fields : Fields) (key : String) (value : Json) : Fields :=
  ⟨Json.insertMember true (key, value.normal) fields.members,
    Json.canonicalMembers_insertMember (Json.canonical_normal value) fields.canonical⟩

def get? (fields : Fields) (key : String) : Option Json :=
  fields.members.lookup key

theorem get?_insert (fields : Fields) (key key' : String) (value : Json) :
    (fields.insert key value).get? key' = if key' = key then some value.normal else fields.get? key' :=
  Json.lookup_insertMember _ _ _

end Fields

end SignalRelay
