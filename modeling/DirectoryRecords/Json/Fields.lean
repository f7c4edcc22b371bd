import DirectoryRecords.Json.Basic

/-!
# Fields — the parts of a structure in a JSON value

    A structure is an object whose members are its fields, in any order, each
    at most once, with other members ignored; or an array of its fields in
    their own order, with trailing ones left out. Either way the result lists,
    for each field, the value that stands for it, if there is one.
-/

namespace DirectoryRecords.Json

/-- The value of the only member with a name, if there is one. Fails where the name is repeated. -/
def member? (name : Text) (members : List (Text × Json)) : Option (Option Json) :=
  match members.filter (·.1 == name) with
  | [] => some none
  | [(_, value)] => some (some value)
  | _ => none

/-- The values of the named fields of a structure. -/
def fields? (names : List Text) : Json → Option (List (Option Json))
  | .object members => names.mapM (member? · members)
  | .array items =>
    if items.length ≤ names.length then
      some (items.map some ++ List.replicate (names.length - items.length) none)
    else none
  | _ => none

/-- A field that must be there. -/
def required {α : Type} (decode : Json → Option α) : Option Json → Option α
  | some value => decode value
  | none => none

/-- A field that stands for `default` where it is left out. -/
def orDefault {α : Type} (default : α) (decode : Json → Option α) : Option Json → Option α
  | some value => decode value
  | none => some default

/-- A field that may be left out or null. -/
def optional {α : Type} (decode : Json → Option α) : Option Json → Option (Option α)
  | some .null | none => some none
  | some value => (decode value).map some

end DirectoryRecords.Json
