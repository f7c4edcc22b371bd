/-!
# Binary64 — whole numbers to 53 significant bits

    A binary floating-point number of double precision has 53 significant
    bits. The ones next to a whole number lie a power of two apart; rounding
    takes the nearer neighbour, and the one that is an even multiple of the
    spacing when both are equally near.

    The largest finite number is followed by infinity, to which every whole
    number from halfway to the next power of two on is rounded.
-/

namespace DirectoryRecords.Binary64

/-- How far apart the representable numbers next to a whole number are. -/
def spacing (n : Nat) : Nat :=
  Nat.pow 2 (n.log2 - 52)

/-- The representable number nearest to a whole number, a tie going to the even multiple of the
    spacing. -/
def nearest (n : Nat) : Nat :=
  let below := n / spacing n
  let excess := n % spacing n
  if 2 * excess < spacing n ∨ 2 * excess = spacing n ∧ below % 2 = 0 then below * spacing n
  else (below + 1) * spacing n

/-- The least whole number that is rounded to infinity. -/
def overflow : Nat := Nat.pow 2 1024 - Nat.pow 2 970

end DirectoryRecords.Binary64
