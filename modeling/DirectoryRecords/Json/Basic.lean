import DirectoryRecords.Json.Number

/-!
# JSON values — trees that keep what a mapping looked like

    A value keeps the members of an object in the order in which they stand,
    repeated keys included, because conditions are read from a mapping in
    that order.

    A string of JSON may name half of a surrogate pair, which is no character.
    Such a string, or an object with such a key, is `illFormed`: it may stand
    where a value is ignored, and nowhere else.
-/

namespace DirectoryRecords

/-- A value of JSON. -/
inductive Json where
  | null
  | bool (value : Bool)
  | number (value : JsonNumber)
  | string (value : Text)
  | illFormed
  | array (items : List Json)
  | object (members : List (Text × Json))

namespace Json

/-- A whole number as a value. -/
def nat (n : Nat) : Json :=
  .number (.ofNat n)

/-- A list of texts as a value. -/
def strings (texts : List Text) : Json :=
  .array (texts.map .string)

/-- The text of a string. -/
def string? : Json → Option Text
  | .string value => some value
  | _ => none

/-- The truth value of `true` and `false`. -/
def bool? : Json → Option Bool
  | .bool value => some value
  | _ => none

/-- A plain whole number of at most `limit`. -/
def natural? (limit : Nat) : Json → Option Nat
  | .number value => value.natural?.filter (· ≤ limit)
  | _ => none

/-- The texts of an array of strings. -/
def strings? : Json → Option (List Text)
  | .array items => items.mapM string?
  | _ => none

mutual

/-- Whether a value can be held in memory: every string is a text, every number is finite, and
    arrays and objects are nested at most `depth` deep. -/
def holdable (depth : Nat) : Json → Bool
  | .null | .bool _ | .string _ => true
  | .illFormed => false
  | .number value => value.isFinite
  | .array items => depth != 0 && allHoldable (depth - 1) items
  | .object members => depth != 0 && allMembersHoldable (depth - 1) members

/-- Whether every item of an array can be held. -/
def allHoldable (depth : Nat) : List Json → Bool
  | [] => true
  | item :: rest => holdable depth item && allHoldable depth rest

/-- Whether every member of an object can be held. -/
def allMembersHoldable (depth : Nat) : List (Text × Json) → Bool
  | [] => true
  | (_, value) :: rest => holdable depth value && allMembersHoldable depth rest

end

/-- How deep arrays and objects may be nested in a value that is held in memory. -/
def depthLimit : Nat := 127

end Json

end DirectoryRecords
