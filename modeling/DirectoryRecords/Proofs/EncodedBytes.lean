import DirectoryRecords.Text.Base64
import Mathlib.Algebra.Group.Nat.Defs
import Mathlib.Data.List.Nodup

/-!
# Encoded bytes — Base64 as bits

    RFC 4648 speaks of bits: the bits of all bytes, the highest of each byte
    first, are filled up with zeros to groups of six, each group is a letter
    of the alphabet, and signs of filling bring the text to a multiple of four
    characters (`Layout`). The encoder never sees bits; it takes three bytes
    at a time and computes four letters from them. The two agree:

    * four letters have the bits of their three bytes (`bits_group`), from
      which the text of the encoder is laid out as it should be, by the
      encoder's own cases (`encodes_encode`);
    * no other text is (`Encodes.unique`): the number of bits settles the
      number of letters, and six bits settle a letter.

    So the encoding is the one of the RFC (`encodes_iff`), and whoever reads
    the bits of the letters in groups of eight has the bytes again
    (`decode_encode`).
-/

namespace DirectoryRecords.Base64

/-! ## Bits -/

/-- The lowest bits of a number, the highest of them first. -/
def bits : Nat → Nat → List Bool
  | 0, _ => []
  | width + 1, n => n.testBit width :: bits width n

/-- The number with the given bits. -/
def ofBits : List Bool → Nat
  | [] => 0
  | bit :: rest => 2 ^ rest.length * bit.toNat + ofBits rest

@[simp] theorem length_bits (width n : Nat) : (bits width n).length = width := by
  induction width with
  | zero => rfl
  | succ width ih => rw [bits, List.length_cons, ih]

theorem bits_zero (width : Nat) : bits width 0 = List.replicate width false := by
  induction width with
  | zero => rfl
  | succ width ih => rw [bits, ih, Nat.zero_testBit, List.replicate_succ]

theorem bits_congr {width m n : Nat} (h : ∀ i < width, m.testBit i = n.testBit i) :
    bits width m = bits width n := by
  induction width with
  | zero => rfl
  | succ width ih =>
      rw [bits, bits, h width (Nat.lt_succ_self width), ih fun i hi => h i (Nat.lt_succ_of_lt hi)]

/-- The bits of a number in front of those of a number below it. -/
theorem bits_join (v : Nat) {w high low : Nat} (h : low < 2 ^ w) :
    bits (v + w) (2 ^ w * high + low) = bits v high ++ bits w low := by
  induction v with
  | zero =>
      rw [Nat.zero_add]
      refine bits_congr fun i hi => ?_
      rw [Nat.testBit_two_pow_mul_add high h, if_pos hi]
  | succ v ih =>
      have htop : (2 ^ w * high + low).testBit (v + w) = high.testBit v := by
        rw [Nat.testBit_two_pow_mul_add high h, if_neg (by omega), Nat.add_sub_cancel]
      rw [Nat.succ_add, bits, htop, ih, bits, List.cons_append]

theorem bits_split (v w n : Nat) :
    bits (v + w) n = bits v (n / 2 ^ w) ++ bits w (n % 2 ^ w) := by
  rw [← bits_join v (Nat.mod_lt n (Nat.two_pow_pos w)), Nat.div_add_mod]

theorem ofBits_bits (width n : Nat) : ofBits (bits width n) = n % 2 ^ width := by
  induction width with
  | zero => exact (Nat.mod_one n).symm
  | succ width ih =>
      rw [bits, ofBits, length_bits, ih, Nat.toNat_testBit, Nat.mod_pow_succ, Nat.add_comm]

/-! ## The encoding of the RFC -/

/-- The letters for the numbers below 64, in their order. -/
def alphabet : Text :=
  "ABCDEFGHIJKLMNOPQRSTUVWXYZabcdefghijklmnopqrstuvwxyz0123456789+/"

theorem length_alphabet : alphabet.length = 64 := by decide +kernel

/-- The letter for six bits. -/
def letter (n : Fin 64) : Char :=
  alphabet.get (n.cast length_alphabet.symm)

/-- The six bits of a letter. -/
def sextet (n : Fin 64) : List Bool :=
  bits 6 n

/-- The eight bits of a byte. -/
def octet (byte : UInt8) : List Bool :=
  bits 8 byte.toNat

/-- How a text stands for bytes: its letters have the bits of the bytes and fewer than six zeros
    behind them, and fewer than four signs of filling behind the letters bring the text to a
    multiple of four characters. -/
structure Layout (bytes : List UInt8) (text : Text) where
  groups : List (Fin 64)
  zeros : Nat
  fillers : Nat
  zeros_lt : zeros < 6
  fillers_lt : fillers < 4
  bits_eq : groups.flatMap sextet = bytes.flatMap octet ++ List.replicate zeros false
  text_eq : text = groups.map letter ++ List.replicate fillers '='
  dvd_length : 4 ∣ text.length

/-- A text is an encoding of bytes. -/
def Encodes (bytes : List UInt8) (text : Text) : Prop :=
  Nonempty (Layout bytes text)

/-! ## The encoder -/

theorem symbol_eq_letter (n : Fin 64) : symbol n = letter n := by
  revert n
  decide +kernel

theorem octet_zero : octet 0 = List.replicate 8 false := bits_zero 8

section

variable (a b c : UInt8)

/-- **Four letters have the bits of three bytes.** -/
theorem bits_group :
    bits 6 (a.toNat / 4) ++ (bits 6 (a.toNat % 4 * 16 + b.toNat / 16) ++
        (bits 6 (b.toNat % 16 * 4 + c.toNat / 64) ++ bits 6 (c.toNat % 64)))
      = octet a ++ (octet b ++ octet c) := by
  have ha : octet a = bits 6 (a.toNat / 4) ++ bits 2 (a.toNat % 4) := bits_split 6 2 a.toNat
  have hb : octet b = bits 4 (b.toNat / 16) ++ bits 4 (b.toNat % 16) := bits_split 4 4 b.toNat
  have hc : octet c = bits 2 (c.toNat / 64) ++ bits 6 (c.toNat % 64) := bits_split 2 6 c.toNat
  have hab : bits 6 (a.toNat % 4 * 16 + b.toNat / 16)
      = bits 2 (a.toNat % 4) ++ bits 4 (b.toNat / 16) := by
    have hlow : b.toNat / 16 < 2 ^ 4 := by have := b.toNat_lt; omega
    rw [Nat.mul_comm]
    exact bits_join 2 hlow
  have hbc : bits 6 (b.toNat % 16 * 4 + c.toNat / 64)
      = bits 4 (b.toNat % 16) ++ bits 2 (c.toNat / 64) := by
    have hlow : c.toNat / 64 < 2 ^ 2 := by have := c.toNat_lt; omega
    rw [Nat.mul_comm]
    exact bits_join 4 hlow
  rw [ha, hb, hc, hab, hbc]
  simp only [List.append_assoc]

/-- Three letters have the bits of two bytes and two zeros. A third byte of zeros would give the
    third letter nothing more and a fourth letter of zeros. -/
theorem bits_pair :
    bits 6 (a.toNat / 4) ++ (bits 6 (a.toNat % 4 * 16 + b.toNat / 16) ++ bits 6 (b.toNat % 16 * 4))
      = octet a ++ (octet b ++ List.replicate 2 false) := by
  have h := bits_group a b 0
  rw [UInt8.toNat_zero, Nat.zero_div, Nat.add_zero, Nat.zero_mod, bits_zero, octet_zero] at h
  refine (List.append_left_inj (List.replicate 6 false)).mp ?_
  simp only [List.append_assoc, List.replicate_append_replicate]
  exact h

/-- Two letters have the bits of one byte and four zeros. -/
theorem bits_single :
    bits 6 (a.toNat / 4) ++ bits 6 (a.toNat % 4 * 16) = octet a ++ List.replicate 4 false := by
  have h := bits_pair a 0
  rw [UInt8.toNat_zero, Nat.zero_div, Nat.add_zero, Nat.zero_mod, Nat.zero_mul, bits_zero,
    octet_zero, List.replicate_append_replicate] at h
  refine (List.append_left_inj (List.replicate 6 false)).mp ?_
  simp only [List.append_assoc, List.replicate_append_replicate]
  exact h

theorem encodes_single : Encodes [a] (encode [a]) := by
  have ha := a.toNat_lt
  let first : Fin 64 := ⟨a.toNat / 4, by omega⟩
  let second : Fin 64 := ⟨a.toNat % 4 * 16, by omega⟩
  have hbits : [first, second].flatMap sextet = [a].flatMap octet ++ List.replicate 4 false :=
    bits_single a
  refine ⟨⟨[first, second], 4, 2, by decide, by decide, hbits, ?_, 1, rfl⟩⟩
  rw [encode, symbol_eq_letter first, symbol_eq_letter second]
  rfl

theorem encodes_pair : Encodes [a, b] (encode [a, b]) := by
  have ha := a.toNat_lt
  have hb := b.toNat_lt
  let first : Fin 64 := ⟨a.toNat / 4, by omega⟩
  let second : Fin 64 := ⟨a.toNat % 4 * 16 + b.toNat / 16, by omega⟩
  let third : Fin 64 := ⟨b.toNat % 16 * 4, by omega⟩
  have hbits : [first, second, third].flatMap sextet
      = [a, b].flatMap octet ++ List.replicate 2 false := by
    simpa [first, second, third, sextet] using bits_pair a b
  refine ⟨⟨[first, second, third], 2, 1, by decide, by decide, hbits, ?_, 1, rfl⟩⟩
  rw [encode, symbol_eq_letter first, symbol_eq_letter second, symbol_eq_letter third]
  rfl

/-- Three bytes in front of others put their four letters in front. -/
theorem encodes_group {rest : List UInt8} (h : Encodes rest (encode rest)) :
    Encodes (a :: b :: c :: rest) (encode (a :: b :: c :: rest)) := by
  have ha := a.toNat_lt
  have hb := b.toNat_lt
  have hc := c.toNat_lt
  let first : Fin 64 := ⟨a.toNat / 4, by omega⟩
  let second : Fin 64 := ⟨a.toNat % 4 * 16 + b.toNat / 16, by omega⟩
  let third : Fin 64 := ⟨b.toNat % 16 * 4 + c.toNat / 64, by omega⟩
  let fourth : Fin 64 := ⟨c.toNat % 64, by omega⟩
  obtain ⟨groups, zeros, fillers, hzeros, hfillers, hbits, htext, hdvd⟩ := h
  have hfour : [first, second, third, fourth].flatMap sextet = [a, b, c].flatMap octet := by
    simpa [first, second, third, fourth, sextet] using bits_group a b c
  refine ⟨⟨[first, second, third, fourth] ++ groups, zeros, fillers, hzeros, hfillers, ?_, ?_, ?_⟩⟩
  · rw [List.flatMap_append, hfour, hbits, ← List.append_assoc, ← List.flatMap_append]
    rfl
  · rw [encode, symbol_eq_letter first, symbol_eq_letter second, symbol_eq_letter third,
      symbol_eq_letter fourth, htext]
    rfl
  · show 4 ∣ (encode rest).length + 4
    exact Nat.dvd_add hdvd (Nat.dvd_refl 4)

end

/-- **The text of the encoder is an encoding.** The induction is on the bytes, three at a time. -/
theorem encodes_encode (bytes : List UInt8) : Encodes bytes (encode bytes) := by
  induction bytes using encode.induct with
  | case1 => exact ⟨⟨[], 0, 0, by decide, by decide, rfl, rfl, Nat.dvd_zero 4⟩⟩
  | case2 a => exact encodes_single a
  | case3 a b => exact encodes_pair a b
  | case4 a b c rest ih => exact encodes_group a b c ih

/-! ## No other text -/

theorem length_flatMap_bits {α : Type} {width : Nat} {f : α → List Bool}
    (h : ∀ a, (f a).length = width) (list : List α) :
    (list.flatMap f).length = width * list.length := by
  induction list with
  | nil => rfl
  | cons first rest ih =>
      rw [List.flatMap_cons, List.length_append, h, ih, List.length_cons, Nat.mul_succ,
        Nat.add_comm]

theorem length_sextet (n : Fin 64) : (sextet n).length = 6 := length_bits 6 n

theorem length_octet (byte : UInt8) : (octet byte).length = 8 := length_bits 8 byte.toNat

theorem sextet_injective {m n : Fin 64} (h : sextet m = sextet n) : m = n := by
  have hnumber := congrArg ofBits h
  have hm : m.val % 2 ^ 6 = m.val := Nat.mod_eq_of_lt m.isLt
  have hn : n.val % 2 ^ 6 = n.val := Nat.mod_eq_of_lt n.isLt
  rw [sextet, sextet, ofBits_bits, ofBits_bits, hm, hn] at hnumber
  exact Fin.ext hnumber

theorem flatMap_sextet_injective {left right : List (Fin 64)}
    (hlength : left.length = right.length) (h : left.flatMap sextet = right.flatMap sextet) :
    left = right := by
  induction left generalizing right with
  | nil => exact (List.length_eq_zero_iff.mp hlength.symm).symm
  | cons first rest ih =>
      cases right with
      | nil => exact nomatch hlength
      | cons other others =>
          rw [List.flatMap_cons, List.flatMap_cons] at h
          obtain ⟨hfirst, hrest⟩ :=
            List.append_inj h ((length_sextet first).trans (length_sextet other).symm)
          rw [sextet_injective hfirst, ih (Nat.succ.inj hlength) hrest]

section

variable {bytes : List UInt8} {text left right : Text}

theorem Layout.length_groups (layout : Layout bytes text) :
    6 * layout.groups.length = 8 * bytes.length + layout.zeros := by
  have hlength := congrArg List.length layout.bits_eq
  rw [List.length_append, List.length_replicate, length_flatMap_bits length_sextet,
    length_flatMap_bits length_octet] at hlength
  exact hlength

theorem Layout.length_text (layout : Layout bytes text) :
    text.length = layout.groups.length + layout.fillers := by
  have hlength := congrArg List.length layout.text_eq
  rw [List.length_append, List.length_map, List.length_replicate] at hlength
  exact hlength

/-- **Bytes have one encoding.** The number of bits settles those of letters and zeros, and with the
    length of the text the number of signs of filling. -/
theorem Encodes.unique (hleft : Encodes bytes left) (hright : Encodes bytes right) :
    left = right := by
  obtain ⟨l⟩ := hleft
  obtain ⟨r⟩ := hright
  obtain ⟨hlbits, hrbits⟩ := And.intro l.length_groups r.length_groups
  obtain ⟨hlzeros, hrzeros⟩ := And.intro l.zeros_lt r.zeros_lt
  have hzeros : l.zeros = r.zeros := by omega
  have hnumber : l.groups.length = r.groups.length := by omega
  obtain ⟨hltext, hrtext⟩ := And.intro l.length_text r.length_text
  obtain ⟨hlfillers, hrfillers⟩ := And.intro l.fillers_lt r.fillers_lt
  obtain ⟨hldvd, hrdvd⟩ := And.intro l.dvd_length r.dvd_length
  have hfillers : l.fillers = r.fillers := by omega
  have hgroups : l.groups = r.groups := by
    refine flatMap_sextet_injective hnumber ?_
    rw [l.bits_eq, r.bits_eq, hzeros]
  rw [l.text_eq, r.text_eq, hgroups, hfillers]

/-- **The encoder is that of the RFC.** -/
theorem encodes_iff : Encodes bytes text ↔ text = encode bytes := by
  constructor
  · exact fun h => h.unique (encodes_encode bytes)
  · rintro rfl
    exact encodes_encode bytes

end

/-! ## Reading back -/

/-- The bytes of bits, as far as there are eight of them. -/
def ofOctets : List Bool → List UInt8
  | b7 :: b6 :: b5 :: b4 :: b3 :: b2 :: b1 :: b0 :: rest =>
    UInt8.ofNat (ofBits [b7, b6, b5, b4, b3, b2, b1, b0]) :: ofOctets rest
  | _ => []

/-- The bytes that a text stands for: the bits of its letters up to the signs of filling, eight by
    eight. -/
def decode (text : Text) : List UInt8 :=
  ofOctets ((text.takeWhile (· != '=')).flatMap fun c => bits 6 (alphabet.idxOf c))

theorem ofOctets_octet (byte : UInt8) (rest : List Bool) :
    ofOctets (octet byte ++ rest) = byte :: ofOctets rest := by
  have hbyte : UInt8.ofNat (ofBits (octet byte)) = byte := by
    rw [octet, ofBits_bits, Nat.mod_eq_of_lt byte.toNat_lt, UInt8.ofNat_toNat]
  exact congrArg (· :: ofOctets rest) hbyte

theorem ofOctets_of_length_lt {list : List Bool} (h : list.length < 8) : ofOctets list = [] := by
  unfold ofOctets
  split
  · simp only [List.length_cons] at h
    omega
  · rfl

theorem ofOctets_flatMap_octet (bytes : List UInt8) {zeros : Nat} (h : zeros < 8) :
    ofOctets (bytes.flatMap octet ++ List.replicate zeros false) = bytes := by
  induction bytes with
  | nil =>
      refine ofOctets_of_length_lt ?_
      rw [List.flatMap_nil, List.nil_append, List.length_replicate]
      exact h
  | cons first rest ih => rw [List.flatMap_cons, List.append_assoc, ofOctets_octet, ih]

theorem nodup_alphabet : alphabet.Nodup := by decide +kernel

theorem idxOf_letter (n : Fin 64) : alphabet.idxOf (letter n) = n :=
  nodup_alphabet.idxOf_getElem n _

theorem letter_ne_filler (n : Fin 64) : letter n ≠ '=' :=
  ne_of_mem_of_not_mem (List.get_mem alphabet _) (by decide +kernel)

/-- **Every encoding is read back.** -/
theorem Encodes.decode_eq {bytes : List UInt8} {text : Text} (h : Encodes bytes text) :
    decode text = bytes := by
  obtain ⟨groups, zeros, fillers, hzeros, -, hbits, htext, -⟩ := h
  have hletters : text.takeWhile (· != '=') = groups.map letter := by
    have hfront : ∀ c ∈ groups.map letter, (c != '=') = true := by
      intro c hc
      obtain ⟨n, -, rfl⟩ := List.mem_map.mp hc
      exact bne_iff_ne.mpr (letter_ne_filler n)
    rw [htext, List.takeWhile_append_of_pos hfront, List.takeWhile_replicate]
    exact List.append_nil _
  have hsextets : (groups.map letter).flatMap (fun c => bits 6 (alphabet.idxOf c))
      = groups.flatMap sextet := by
    rw [List.flatMap_map]
    exact congrArg groups.flatMap (funext fun n => congrArg (bits 6) (idxOf_letter n))
  rw [decode, hletters, hsextets, hbits]
  exact ofOctets_flatMap_octet bytes (Nat.lt_trans hzeros (by decide))

theorem decode_encode (bytes : List UInt8) : decode (encode bytes) = bytes :=
  (encodes_encode bytes).decode_eq

example : encode [0xff, 0xd8] = "/9g=" ∧ decode "/9g=" = [0xff, 0xd8] := by
  decide +kernel

end DirectoryRecords.Base64
