import DirectoryRecords.Error
import DirectoryRecords.Text.Blank
import DirectoryRecords.Value

/-!
# Distinguished names — components from left to right

    A distinguished name is read simply: it is cut at every comma, and each
    piece at its first equals sign into an attribute and a value, both without
    surrounding white space. A blank name has no components; a piece without
    an equals sign makes the whole name malformed. Escapes are not looked at.

    The components of a name group the values of a repeated attribute under
    its first occurrence.
-/

namespace DirectoryRecords

/-- Values under attribute names in order of first appearance. -/
structure DnComponents where
  toList : List (Text × Value)
  deriving DecidableEq

namespace DnComponents

/-- No components. -/
def empty : DnComponents := ⟨[]⟩

instance : EmptyCollection DnComponents := ⟨empty⟩

/-- A list of components with one value more: at the end of its attribute's values, or as a
    component of its own. -/
def insertInto (name value : Text) : List (Text × Value) → List (Text × Value)
  | [] => [(name, .single value)]
  | (other, held) :: rest =>
    if other = name then (other, held.push value) :: rest
    else (other, held) :: insertInto name value rest

/-- The components with one value more. -/
def insert (components : DnComponents) (name value : Text) : DnComponents :=
  ⟨insertInto name value components.toList⟩

/-- The components that arise from inserting pairs in order. -/
def ofPairs (pairs : List (Text × Text)) : DnComponents :=
  pairs.foldl (fun components (name, value) => components.insert name value) ∅

/-- The values of an attribute. -/
def get? (components : DnComponents) (name : Text) : Option Value :=
  components.toList.lookup name

/-- The number of distinct attributes. -/
def size (components : DnComponents) : Nat :=
  components.toList.length

/-- Whether there are no components. -/
def isEmpty (components : DnComponents) : Bool :=
  components.toList.isEmpty

/-- Attribute and value of each component, the values of one attribute next to each other. -/
def pairs (components : DnComponents) : List (Text × Text) :=
  components.toList.flatMap fun (name, value) => value.toList.map (name, ·)

/-- The components as a name: attribute, equals sign and value of each, separated by commas. -/
def toText (components : DnComponents) : Text :=
  Text.joinWith ',' (components.pairs.map fun (name, value) => name ++ '=' :: value)

theorem lookup_insertInto (name value other : Text) :
    (list : List (Text × Value)) →
      (insertInto name value list).lookup other =
        if other = name then
          some (((list.lookup name).map (·.push value)).getD (.single value))
        else list.lookup other
  | [] => by by_cases h : other = name <;> simp [insertInto, List.lookup_cons, h, beq_false_of_ne]
  | (key, held) :: rest => by
    have ih := lookup_insertInto name value other rest
    rw [insertInto]
    split
    · next eq =>
      by_cases h : other = name
      · simp [h, eq]
      · simp [List.lookup_cons, eq, h, beq_false_of_ne h]
    · next ne =>
      by_cases h : other = key
      · simp [h, ne]
      · simp [List.lookup_cons, beq_false_of_ne h, beq_false_of_ne (Ne.symm ne), ih]

/-- A further value goes to the end of its attribute's values and touches no other attribute. -/
@[simp] theorem get?_insert (components : DnComponents) (name value other : Text) :
    (components.insert name value).get? other =
      if other = name then
        some (((components.get? name).map (·.push value)).getD (.single value))
      else components.get? other :=
  lookup_insertInto name value other components.toList

end DnComponents

namespace Dn

/-- The attribute and value of one piece of a name. -/
def component? (piece : Text) : Option (Text × Text) :=
  (Text.cut '=' piece).map fun (name, value) => (Text.trim name, Text.trim value)

/-- The attributes and values of a name in order. -/
def split (dn : Text) : Except Error (List (Text × Text)) :=
  if Text.isAllBlank dn then .ok []
  else (dn.splitOn ',').mapM fun piece =>
    match component? piece with
    | some component => .ok component
    | none => .error (.malformedDn dn piece)

/-- The components of a name. -/
def parse (dn : Text) : Except Error DnComponents :=
  (split dn).map .ofPairs

/-- The values of a name in order, without their attributes. -/
def values (dn : Text) : Except Error (List Text) :=
  (split dn).map (·.map Prod.snd)

/-- The value of the first component, which names what lies below the name. -/
def leafLabel (dn : Text) : Except Error Text :=
  match values dn with
  | .ok (label :: _) => .ok label
  | .ok [] => .error (.malformedDn dn [])
  | .error e => .error e

/-- A relative name below a base; an empty one of the two leaves the other. -/
def below (base relative : Text) : Text :=
  if relative.isEmpty then base
  else if base.isEmpty then relative
  else relative ++ ',' :: base

end Dn

end DirectoryRecords
