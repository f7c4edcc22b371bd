import DirectoryRecords.Ldap.Settings

/-!
# Decimal numbers — read as they were written

    A number is written in digits whose value is the number. Reading follows
    this value from left to right and compares it with the limit at every
    digit. As the value only grows, a number within the limit is never refused
    on the way (`Decimal.read_write`); a number of JSON has no limit of its
    own, but that of the word it is put into.
-/

namespace DirectoryRecords

namespace Decimal

/-- Further digits never make a value smaller. -/
theorem le_ofDigitChars (digits : Text) (value : Nat) :
    value ≤ Nat.ofDigitChars 10 digits value := by
  induction digits generalizing value with
  | nil => exact Nat.le_refl value
  | cons c rest ih =>
      rw [Nat.ofDigitChars_cons]
      calc value ≤ 10 * value + (c.toNat - '0'.toNat) := by omega
        _ ≤ _ := ih _

/-- Digits are read one after the other as long as their value is within the limit. -/
theorem readFrom_of_le {limit value : Nat} {digits : Text}
    (hdigits : ∀ c ∈ digits, c.isDigit = true) (h : Nat.ofDigitChars 10 digits value ≤ limit) :
    readFrom limit value digits = .ok (Nat.ofDigitChars 10 digits value) := by
  induction digits generalizing value with
  | nil => rfl
  | cons c rest ih =>
      obtain ⟨hc, hrest⟩ := List.forall_mem_cons.mp hdigits
      rw [Nat.ofDigitChars_cons] at h ⊢
      have hvalue : 10 * value + (c.toNat - '0'.toNat) ≤ limit :=
        Nat.le_trans (le_ofDigitChars rest _) h
      have hdigit : digit? c = some (c.toNat - '0'.toNat) := if_pos hc
      rw [readFrom, hdigit]
      show (if 10 * value + (c.toNat - '0'.toNat) ≤ limit then _ else _) = _
      rw [if_pos hvalue, ih hrest h]

theorem isDigit_of_mem_write {n : Nat} {c : Char} (h : c ∈ write n) : c.isDigit = true :=
  Nat.isDigit_of_mem_toDigits (by decide) (by decide) h

/-- The value of the digits of a number. -/
theorem ofDigitChars_write (n : Nat) : Nat.ofDigitChars 10 (write n) 0 = n :=
  Nat.ofDigitChars_ten_toDigits

/-- Without a sign in front, all of a text is digits to read. -/
theorem read_of_head {limit : Nat} {c : Char} (h : c ≠ '+') (rest : Text) :
    read limit (c :: rest) = readFrom limit 0 (c :: rest) := by
  rw [read]
  · exact fun hnil => nomatch hnil
  · exact fun hsign => h (List.cons.inj hsign).1
  · exact fun _ hsign => h (List.cons.inj hsign).1

/-- **A number within the limit is read as it was written.** -/
theorem read_write {limit n : Nat} (h : n ≤ limit) : read limit (write n) = .ok n := by
  have hread : readFrom limit 0 (write n) = .ok n := by
    rw [readFrom_of_le (fun c => isDigit_of_mem_write), ofDigitChars_write]
    rw [ofDigitChars_write]
    exact h
  cases hwrite : write n with
  | nil => exact absurd hwrite Nat.toDigits_ne_nil
  | cons c rest =>
      have hc : c ≠ '+' := by
        rintro rfl
        have hplus : '+' ∈ write n := by
          rw [hwrite]
          exact List.mem_cons_self
        exact absurd (isDigit_of_mem_write hplus) (by decide)
      rw [read_of_head hc, ← hwrite]
      exact hread

end Decimal

/-! ## Numbers of JSON -/

/-- A whole number of JSON has the value it was made of. -/
theorem JsonNumber.natural?_ofNat (n : Nat) : (ofNat n).natural? = some n :=
  congrArg some (Decimal.ofDigitChars_write n)

theorem Json.natural?_nat {limit n : Nat} (h : n ≤ limit) :
    (Json.nat n).natural? limit = some n := by
  rw [nat, natural?, JsonNumber.natural?_ofNat]
  exact Option.filter_some_pos (decide_eq_true h)

/-! ## Words -/

theorem word16_le (word : UInt16) : word.toNat ≤ UInt16.size - 1 :=
  Nat.le_sub_one_of_lt word.toNat_lt

theorem word64_le (word : UInt64) : word.toNat ≤ UInt64.size - 1 :=
  Nat.le_sub_one_of_lt word.toNat_lt

namespace LdapSettings

theorem word16?_nat (word : UInt16) : word16? (.nat word.toNat) = some word := by
  rw [word16?, Json.natural?_nat (word16_le word)]
  exact congrArg some UInt16.ofNat_toNat

theorem word64?_nat (word : UInt64) : word64? (.nat word.toNat) = some word := by
  rw [word64?, Json.natural?_nat (word64_le word)]
  exact congrArg some UInt64.ofNat_toNat

end LdapSettings

end DirectoryRecords
