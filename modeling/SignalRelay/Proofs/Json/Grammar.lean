import SignalRelay.Proofs.Json.Numbers

/-!
# The grammar of JSON text

What a JSON text says is a `Doc`: its strings are the units of UTF-16 that they are made of, escaped or
not, its numbers the parts that are written, and its members stand in their order.

* `Doc.Spells` is the grammar, so that one document has as many texts as there are ways to put blanks
  between its lexemes and escapes into its strings.
* `Doc.Alike` relates documents that denote the same value: they differ at most in the order of members
  with distinct names.
-/

namespace SignalRelay

namespace Json

/-- What a JSON text says. -/
inductive Doc
  | null
  | bool (value : Bool)
  | num (written : WrittenNumber)
  | str (us : List UInt16)
  | arr (items : List Doc)
  | obj (members : List (List UInt16 × Doc))

def Blanks (cs : List Char) : Prop := ∀ c ∈ cs, isBlank c = true

/-- What stands in front of an element or a member: blanks, and a comma in front of all but the first. -/
def Lead : Bool → List Char → Prop
  | true, cs => Blanks cs
  | false, cs => ∃ before behind, Blanks before ∧ Blanks behind ∧ cs = before ++ ',' :: behind

namespace Doc

mutual

/-- A text says what the document says.  It begins and ends with a lexeme. -/
def Spells : Doc → List Char → Prop
  | .null, cs => cs = ['n', 'u', 'l', 'l']
  | .bool true, cs => cs = ['t', 'r', 'u', 'e']
  | .bool false, cs => cs = ['f', 'a', 'l', 's', 'e']
  | .num w, cs => SpellsNumber w cs
  | .str us, cs => SpellsString us cs
  | .arr items, cs => ∃ inside, SpellsItems true items inside ∧ cs = '[' :: inside
  | .obj members, cs => ∃ inside, SpellsMembers true members inside ∧ cs = '{' :: inside
  termination_by structural d => d

/-- The text of elements up to the closing bracket. -/
def SpellsItems : Bool → List Doc → List Char → Prop
  | _, [], cs => ∃ ws, Blanks ws ∧ cs = ws ++ [']']
  | first, d :: rest, cs =>
    ∃ lead text behind, Lead first lead ∧ Spells d text ∧ SpellsItems false rest behind ∧
      cs = lead ++ (text ++ behind)
  termination_by structural _ items => items

/-- The text of members up to the closing bracket. -/
def SpellsMembers : Bool → List (List UInt16 × Doc) → List Char → Prop
  | _, [], cs => ∃ ws, Blanks ws ∧ cs = ws ++ ['}']
  | first, m :: rest, cs =>
    ∃ lead text behind, Lead first lead ∧ SpellsMember m text ∧ SpellsMembers false rest behind ∧
      cs = lead ++ (text ++ behind)
  termination_by structural _ members => members

def SpellsMember : List UInt16 × Doc → List Char → Prop
  | (us, d), cs =>
    ∃ name before behind text, SpellsString us name ∧ Blanks before ∧ Blanks behind ∧ Spells d text ∧
      cs = name ++ (before ++ ':' :: (behind ++ text))
  termination_by structural m => m

end

/-- A whole text, with blanks around it. -/
def SpellsText (d : Doc) (s : String) : Prop :=
  ∃ before cs behind, Blanks before ∧ Blanks behind ∧ d.Spells cs ∧ s.toList = before ++ (cs ++ behind)

/-- Documents that denote the same value: in objects at any depth, members with pairwise distinct names
may stand in another order. -/
inductive Alike : Doc → Doc → Prop
  | refl (d : Doc) : Alike d d
  | trans {d d' d'' : Doc} (h : Alike d d') (h' : Alike d' d'') : Alike d d''
  | item {d d' : Doc} (h : Alike d d') (before behind : List Doc) :
      Alike (.arr (before ++ d :: behind)) (.arr (before ++ d' :: behind))
  | member {d d' : Doc} (h : Alike d d') (before : List (List UInt16 × Doc)) (us : List UInt16)
      (behind : List (List UInt16 × Doc)) :
      Alike (.obj (before ++ (us, d) :: behind)) (.obj (before ++ (us, d') :: behind))
  | reorder {ms ms' : List (List UInt16 × Doc)} (h : ms.Perm ms') (hnames : (ms.map Prod.fst).Nodup) :
      Alike (.obj ms) (.obj ms')

end Doc

end Json

end SignalRelay
