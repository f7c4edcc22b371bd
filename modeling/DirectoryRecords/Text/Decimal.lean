import DirectoryRecords.Text.Basic

/-!
# Decimal numbers — written plainly, read up to a limit

    A number is written in decimal digits without leading zeros. Reading
    takes an optional plus sign and at least one digit, and refuses a number
    above a given limit. Faults are found from left to right: a character
    that is no digit is reported unless the digits before it were already
    too many.
-/

namespace DirectoryRecords

namespace Decimal

/-- Why a text is not a number within the limit. -/
inductive Fault where
  | empty
  | badDigit
  | tooLarge
  deriving DecidableEq, Repr

namespace Fault

/-- The wording of a fault. -/
def message : Fault → Text
  | empty => "cannot parse integer from empty string"
  | badDigit => "invalid digit found in string"
  | tooLarge => "number too large to fit in target type"

end Fault

/-- A number in decimal digits. -/
def write (n : Nat) : Text :=
  Nat.toDigits 10 n

/-- The value of a decimal digit. -/
def digit? (c : Char) : Option Nat :=
  if c.isDigit then some (c.toNat - '0'.toNat) else none

/-- Reads the remaining digits after those that make up `value`. -/
def readFrom (limit : Nat) : (value : Nat) → Text → Except Fault Nat
  | value, [] => .ok value
  | value, c :: rest =>
    match digit? c with
    | none => .error .badDigit
    | some d =>
      if 10 * value + d ≤ limit then readFrom limit (10 * value + d) rest
      else .error .tooLarge

/-- Reads a number of at most `limit`. -/
def read (limit : Nat) : Text → Except Fault Nat
  | [] => .error .empty
  | ['+'] => .error .badDigit
  | '+' :: digits => readFrom limit 0 digits
  | digits => readFrom limit 0 digits

end Decimal

end DirectoryRecords
