import DirectoryRecords.Binary64
import DirectoryRecords.Text.Decimal

/-!
# JSON numbers — decimals, and whether they fit a floating-point number

    A number keeps its decimal form: only plain whole numbers are ever used,
    but the others must be told from texts that are no JSON.

    A number that is held in memory is turned into a binary floating-point
    number of double precision, in steps that round one after the other. Its
    digits, as many from the left as fit in 64 bits, make up a significand;
    the ones that do not fit are dropped and only move the point. Significand
    and power of ten are rounded, and so is their product. A number that comes
    out infinite cannot be held. At the edge of the range this may differ from
    rounding the decimal at once, in either direction.
-/

namespace DirectoryRecords

/-- A number in decimal form: sign, whole part, digits after the point, power of ten. -/
structure JsonNumber where
  negative : Bool
  whole : Text
  decimals : Text
  exponent : Option Int
  deriving DecidableEq

namespace JsonNumber

/-- A whole number without sign, point or exponent. -/
def ofNat (n : Nat) : JsonNumber :=
  ⟨false, Decimal.write n, [], none⟩

/-- The value of a number that has neither sign nor point nor exponent. -/
def natural? (number : JsonNumber) : Option Nat :=
  if number.negative || !number.decimals.isEmpty || number.exponent.isSome then none
  else some (Nat.ofDigitChars 10 number.whole 0)

/-! ## Holding a number in memory -/

/-- Appends digits to a significand for as long as it fits in 64 bits; with it the digits that
    were dropped. -/
def appendDigits : (significand : Nat) → (digits : Text) → Nat × Text
  | significand, [] => (significand, [])
  | significand, c :: rest =>
    if 10 * significand + (c.toNat - '0'.toNat) < UInt64.size then
      appendDigits (10 * significand + (c.toNat - '0'.toNat)) rest
    else (significand, c :: rest)

/-- The significand of a number and the power of ten that belongs to it. -/
def scaled (number : JsonNumber) : Nat × Int :=
  let (significand, skipped) := appendDigits 0 number.whole
  let (significand, dropped) := appendDigits significand number.decimals
  (significand, number.exponent.getD 0 + skipped.length + dropped.length - number.decimals.length)

/-- The largest power of ten that is finite. -/
def powerLimit : Int := 308

/-- Whether a number is finite once it is held in memory. -/
def isFinite (number : JsonNumber) : Bool :=
  let (significand, power) := number.scaled
  significand == 0 || power < 0 ||
    power ≤ powerLimit &&
      Binary64.nearest significand * Binary64.nearest (Nat.pow 10 power.toNat) < Binary64.overflow

end JsonNumber

end DirectoryRecords
