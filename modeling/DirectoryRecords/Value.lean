import DirectoryRecords.Json.Basic

/-!
# Values — what an attribute holds

    An attribute with one value holds it as it is; one with several holds
    them in the order of the directory. Both cases read as a list, and the
    first value is often all that is asked for.
-/

namespace DirectoryRecords

/-- One value, or a sequence of values. -/
inductive Value where
  | single (text : Text)
  | multi (texts : List Text)
  deriving DecidableEq

namespace Value

/-- Every value in order. -/
def toList : Value → List Text
  | single text => [text]
  | multi texts => texts

/-- The value of a list of texts: a list of one is that one. -/
def ofList : List Text → Value
  | [text] => single text
  | texts => multi texts

/-- The text of a single value. -/
def single? : Value → Option Text
  | single text => some text
  | multi _ => none

/-- The first value. -/
def first? (value : Value) : Option Text :=
  value.toList.head?

/-- Whether a value is a sequence. -/
def isMulti : Value → Bool
  | single _ => false
  | multi _ => true

/-- A value with one more text at its end; a single value becomes a sequence of two. -/
def push (value : Value) (text : Text) : Value :=
  multi (value.toList ++ [text])

@[simp] theorem toList_single (text : Text) : (single text).toList = [text] := rfl
@[simp] theorem toList_multi (texts : List Text) : (multi texts).toList = texts := rfl

@[simp] theorem toList_push (value : Value) (text : Text) :
    (value.push text).toList = value.toList ++ [text] := rfl

@[simp] theorem toList_ofList (texts : List Text) : (ofList texts).toList = texts := by
  unfold ofList; split <;> rfl

/-- A single value is a string of JSON, a sequence an array of strings. -/
def toJson : Value → Json
  | single text => .string text
  | multi texts => .strings texts

/-- A string is a single value and an array of strings a sequence of that length. -/
def ofJson? : Json → Option Value
  | .string text => some (single text)
  | json => json.strings?.map multi

end Value

end DirectoryRecords
