import DirectoryRecords.Conditions.Basic
import DirectoryRecords.Json.Fields

/-!
# Conditions in JSON — three spellings

    A string is a free text. A list of pairs is an object of strings, in its
    own order and with repeated keys kept, or an array of arrays of two
    strings. Pairs stand alone, meaning all of them, or as the member
    `entries` of an object whose member `combine` may name the operator.

    The spellings are tried in the order text, `entries`, plain pairs, and the
    first that fits counts: an object whose `entries` is no list of pairs may
    still be an object of strings. The value is held in memory while they are
    tried, so all of it has to be holdable.
-/

namespace DirectoryRecords

namespace Combine

/-- The operator that a string names; an object with one null member names it by its key. -/
def ofJson? : Json → Option Combine
  | .string text => ofName? text
  | .object [(text, .null)] => ofName? text
  | _ => none
where
  /-- The operator of a name. -/
  ofName? (text : Text) : Option Combine :=
    [and, or].find? (name · == text)

end Combine

namespace Conditions

/-- The pair that a member of an object gives. -/
def pairOfMember? : Text × Json → Option (Text × Text)
  | (name, .string value) => some (name, value)
  | _ => none

/-- The pair that an array of two strings gives. -/
def pairOfItem? : Json → Option (Text × Text)
  | .array [.string name, .string value] => some (name, value)
  | _ => none

/-- The pairs of an object of strings or of an array of pairs. -/
def pairsOfJson? : Json → Option (List (Text × Text))
  | .object members => members.mapM pairOfMember?
  | .array items => items.mapM pairOfItem?
  | _ => none

/-- Pairs under `entries`, with or without an operator under `combine`. -/
def groupedOfJson? : Json → Option Conditions
  | .object members => do
    let entries ← Json.member? "entries" members
    let combine ← Json.member? "combine" members
    return .pairs (← Json.required pairsOfJson? entries)
      (← Json.orDefault .and Combine.ofJson? combine)
  | _ => none

/-- The conditions of a value that is held in memory. -/
def ofHeldJson? (json : Json) : Option Conditions :=
  match json with
  | .string expression => some (.text expression)
  | json => (groupedOfJson? json).orElse fun _ => (pairsOfJson? json).map (.pairs · .and)

/-- The conditions of a value. -/
def ofJson? (json : Json) : Option Conditions :=
  if json.holdable Json.depthLimit then ofHeldJson? json else none

/-- Pairs are written under `entries` with their operator, a free text as a string. -/
def toJson : Conditions → Json
  | .pairs entries combine => .object
      [("entries".toList, .array (entries.map fun (name, value) => .strings [name, value])),
       ("combine".toList, .string combine.name)]
  | .text expression => .string expression

end Conditions

end DirectoryRecords
