import DirectoryRecords.Text.Basic

/-!
# Base64 — bytes as text

    The encoding of RFC 4648 with the standard alphabet and padding: three
    bytes become four characters, and a last group of one or two bytes is
    filled up with `=` to four characters.
-/

namespace DirectoryRecords

namespace Base64

/-- The character for a group of six bits. -/
def symbol (n : Nat) : Char :=
  if n < 26 then Char.ofNat ('A'.toNat + n)
  else if n < 52 then Char.ofNat ('a'.toNat + (n - 26))
  else if n < 62 then Char.ofNat ('0'.toNat + (n - 52))
  else if n = 62 then '+'
  else '/'

/-- The text that stands for a list of bytes. -/
def encode : List UInt8 → Text
  | [] => []
  | [a] =>
    [symbol (a.toNat / 4), symbol (a.toNat % 4 * 16), '=', '=']
  | [a, b] =>
    [symbol (a.toNat / 4), symbol (a.toNat % 4 * 16 + b.toNat / 16),
     symbol (b.toNat % 16 * 4), '=']
  | a :: b :: c :: rest =>
    symbol (a.toNat / 4) :: symbol (a.toNat % 4 * 16 + b.toNat / 16) ::
      symbol (b.toNat % 16 * 4 + c.toNat / 64) :: symbol (c.toNat % 64) :: encode rest

end Base64

end DirectoryRecords
