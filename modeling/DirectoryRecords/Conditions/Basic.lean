import DirectoryRecords.Filter.Escape
import DirectoryRecords.Text.Blank

/-!
# Conditions — what a caller asks of the entries

    Conditions are pairs of attribute and value, all or any of which must
    hold, or a free text of clauses joined by ` AND ` or by ` OR `. Both are
    put into one filter: a test for each pair or clause, wrapped in one
    operator when there are several, and the filter that matches everything
    when there are none.

    A free text with both words is split at ` OR ` only. A clause may bring
    parentheses of its own; they are kept if they pair up within the clause
    and are written by their codes otherwise.
-/

namespace DirectoryRecords

/-- Whether all or any of several conditions must hold. -/
inductive Combine where
  | and
  | or
  deriving DecidableEq, Repr

/-- Pairs under an operator, or a free text of clauses. -/
inductive Conditions where
  | pairs (entries : List (Text × Text)) (combine : Combine)
  | text (expression : Text)
  deriving DecidableEq

namespace Combine

/-- The sign of an operator in a filter. -/
def sign : Combine → Char
  | and => '&'
  | or => '|'

/-- The word between two clauses of a free text. -/
def separator : Combine → Text
  | and => " AND "
  | or => " OR "

/-- The name of an operator. -/
def name : Combine → Text
  | and => "and"
  | or => "or"

end Combine

/-- The filter that matches every entry. -/
def matchAll : Text := "(objectClass=*)"

namespace Conditions

/-- The conditions that hold of everything. -/
def everything : Conditions := .pairs [] .and

/-- The condition that an attribute has a value. -/
def equals (name value : Text) : Conditions := .pairs [(name, value)] .and

/-- Whether there is nothing to hold. -/
def isEmpty : Conditions → Bool
  | .pairs entries _ => entries.isEmpty
  | .text expression => Text.isAllBlank expression

/-! ## Pairs -/

/-- The test for a pair. -/
def term (name value : Text) : Text :=
  '(' :: Filter.escapeParentheses name ++ '=' :: Filter.escape value ++ [')']

/-- The filters of a list under one operator. -/
def group (combine : Combine) (filters : List Text) : Text :=
  '(' :: combine.sign :: filters.flatten ++ [')']

/-- The filter for pairs: one test stands for itself. -/
def compilePairs (combine : Combine) : List (Text × Text) → Text
  | [] => matchAll
  | [(name, value)] => term name value
  | entries => group combine (entries.map fun (name, value) => term name value)

/-! ## Free text -/

/-- Whether the parentheses of a text pair up, `depth` of them being open before it. -/
def balancedFrom : (depth : Nat) → Text → Bool
  | depth, [] => depth == 0
  | depth, '(' :: rest => balancedFrom (depth + 1) rest
  | 0, ')' :: _ => false
  | depth + 1, ')' :: rest => balancedFrom depth rest
  | depth, _ :: rest => balancedFrom depth rest

/-- Whether the parentheses of a text pair up. -/
def balanced (text : Text) : Bool :=
  balancedFrom 0 text

/-- The filter for a clause: the clause in parentheses, its own being kept if they pair up. -/
def clause (text : Text) : Text :=
  let text := Text.trim text
  '(' :: (if balanced text then text else Filter.escapeParentheses text) ++ [')']

/-- The operator that joins the clauses of a text, if there are several. -/
def joint? (text : Text) : Option Combine :=
  if Text.occurs Combine.or.separator text then some .or
  else if Text.occurs Combine.and.separator text then some .and
  else none

/-- The filter for a free text. -/
def compileText (text : Text) : Text :=
  let text := Text.trim text
  match joint? text with
  | some combine => group combine ((Text.splitAtWord combine.separator text).map clause)
  | none => clause text

/-- The filter for conditions. -/
def compile (conditions : Conditions) : Text :=
  if conditions.isEmpty then matchAll
  else match conditions with
    | .pairs entries combine => compilePairs combine entries
    | .text expression => compileText expression

end Conditions

end DirectoryRecords
