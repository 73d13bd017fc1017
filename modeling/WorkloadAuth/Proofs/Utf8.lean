import Mathlib.Tactic.SplitIfs
import WorkloadAuth.Text.Utf8

/-!
# UTF-8 is read back

* `Text.Utf8.tail`: the octet that carries six bits of a character.
* `Text.Utf8.piece_two`, `Text.Utf8.piece_three`, `Text.Utf8.piece_four`: the octets of a character
  are one piece, whatever follows them.
* `Text.Utf8.decode?_encode`: a text is read back from its octets.
-/

namespace WorkloadAuth.Text.Utf8

variable {n : Nat}

/-! ## Octets -/

theorem toNat_octet (h : n < 256) : (UInt8.ofNat n).toNat = n :=
  UInt8.toNat_ofNat_of_lt' h

/-- The octet that carries the lowest six bits of a number. -/
def tail (n : Nat) : UInt8 := UInt8.ofNat (0x80 + n % 64)

theorem toNat_tail (n : Nat) : (tail n).toNat = 0x80 + n % 64 := toNat_octet (by omega)

theorem isTail_tail (n : Nat) : isTail (tail n) = true := by
  simp only [isTail, Bool.and_eq_true, decide_eq_true_eq, UInt8.le_iff_toNat_le, toNat_tail]
  constructor
  · exact Nat.le_add_right _ _
  · show 0x80 + n % 64 ≤ 0xbf
    omega

theorem tailBits_tail (n : Nat) : tailBits (tail n) = n % 64 := by
  rw [tailBits, toNat_tail]
  omega

theorem encodeChar_eq (c : Char) :
    encodeChar c =
      if c.toNat < 0x80 then [UInt8.ofNat c.toNat]
      else if c.toNat < 0x800 then [UInt8.ofNat (0xc0 + c.toNat / 64), tail c.toNat]
      else if c.toNat < 0x10000 then
        [UInt8.ofNat (0xe0 + c.toNat / 4096), tail (c.toNat / 64), tail c.toNat]
      else
        [UInt8.ofNat (0xf0 + c.toNat / 262144), tail (c.toNat / 4096), tail (c.toNat / 64),
          tail c.toNat] := by
  simp [encodeChar, tail, Nat.shiftRight_eq_div_pow]

/-! ## Pieces -/

theorem piece_one (h : n < 0x80) (rest : List UInt8) :
    piece (UInt8.ofNat n) rest = (some (Char.ofNat n), rest) := by
  have ha : (UInt8.ofNat n).toNat = n := toNat_octet (by omega)
  have hlow : UInt8.ofNat n < 0x80 := by
    rw [UInt8.lt_iff_toNat_lt, ha]
    exact h
  unfold piece
  rw [if_pos hlow, ha]

theorem piece_two (hlow : 0x80 ≤ n) (hhigh : n < 0x800) (rest : List UInt8) :
    piece (UInt8.ofNat (0xc0 + n / 64)) (tail n :: rest) = (some (Char.ofNat n), rest) := by
  have ha : (UInt8.ofNat (0xc0 + n / 64)).toNat = 0xc0 + n / 64 := toNat_octet (by omega)
  generalize UInt8.ofNat (0xc0 + n / 64) = a at ha
  have hvalue : a.toNat % 32 * 64 + tailBits (tail n) = n := by
    rw [ha, tailBits_tail]
    omega
  have hone : ¬ a < 0x80 := by
    rw [UInt8.lt_iff_toNat_lt, ha]
    exact Nat.not_lt.2 (show 0x80 ≤ 0xc0 + n / 64 by omega)
  have htwo : (0xc2 ≤ a && a ≤ 0xdf) = true := by
    simp only [Bool.and_eq_true, decide_eq_true_eq, UInt8.le_iff_toNat_le, ha]
    exact ⟨show 0xc2 ≤ 0xc0 + n / 64 by omega, show 0xc0 + n / 64 ≤ 0xdf by omega⟩
  unfold piece
  rw [if_neg hone, if_pos htwo]
  simp only [isTail_tail, if_true, hvalue]

/-- The second octet of a character of three octets, which is no surrogate. -/
theorem isSecond_three (hlow : 0x800 ≤ n) (hhigh : n < 0x10000) (hvalid : n < 0xd800 ∨ 0xdfff < n)
    {a : UInt8} (ha : a.toNat = 0xe0 + n / 4096) : isSecond a (tail (n / 64)) = true := by
  unfold isSecond isTail
  simp only [beq_iff_eq, ← UInt8.toNat_inj, UInt8.le_iff_toNat_le, ha, toNat_tail,
    UInt8.reduceToNat]
  split_ifs <;> simp only [Bool.and_eq_true, decide_eq_true_eq] <;> omega

/-- The second octet of a character of four octets, which is in the range of all characters. -/
theorem isSecond_four (hlow : 0x10000 ≤ n) (hhigh : n < 0x110000) {a : UInt8}
    (ha : a.toNat = 0xf0 + n / 262144) : isSecond a (tail (n / 4096)) = true := by
  unfold isSecond isTail
  simp only [beq_iff_eq, ← UInt8.toNat_inj, UInt8.le_iff_toNat_le, ha, toNat_tail,
    UInt8.reduceToNat]
  split_ifs <;> simp only [Bool.and_eq_true, decide_eq_true_eq] <;> omega

theorem piece_three (hlow : 0x800 ≤ n) (hhigh : n < 0x10000) (hvalid : n < 0xd800 ∨ 0xdfff < n)
    (rest : List UInt8) :
    piece (UInt8.ofNat (0xe0 + n / 4096)) (tail (n / 64) :: tail n :: rest) =
      (some (Char.ofNat n), rest) := by
  have ha : (UInt8.ofNat (0xe0 + n / 4096)).toNat = 0xe0 + n / 4096 := toNat_octet (by omega)
  generalize UInt8.ofNat (0xe0 + n / 4096) = a at ha
  have hvalue : a.toNat % 16 * 4096 + tailBits (tail (n / 64)) * 64 + tailBits (tail n) = n := by
    rw [ha, tailBits_tail, tailBits_tail]
    omega
  have hbounds : (¬ a < 0x80) ∧ ¬ (0xc2 ≤ a && a ≤ 0xdf) = true ∧
      (0xe0 ≤ a && a ≤ 0xef) = true := by
    simp only [Bool.and_eq_true, decide_eq_true_eq, UInt8.lt_iff_toNat_lt, UInt8.le_iff_toNat_le,
      ha, UInt8.reduceToNat]
    omega
  unfold piece
  rw [if_neg hbounds.1, if_neg hbounds.2.1, if_pos hbounds.2.2]
  simp only [isSecond_three hlow hhigh hvalid ha, isTail_tail, if_true, hvalue]

theorem piece_four (hlow : 0x10000 ≤ n) (hhigh : n < 0x110000) (rest : List UInt8) :
    piece (UInt8.ofNat (0xf0 + n / 262144))
        (tail (n / 4096) :: tail (n / 64) :: tail n :: rest) =
      (some (Char.ofNat n), rest) := by
  have ha : (UInt8.ofNat (0xf0 + n / 262144)).toNat = 0xf0 + n / 262144 := toNat_octet (by omega)
  generalize UInt8.ofNat (0xf0 + n / 262144) = a at ha
  have hvalue : a.toNat % 8 * 262144 + tailBits (tail (n / 4096)) * 4096 +
      tailBits (tail (n / 64)) * 64 + tailBits (tail n) = n := by
    rw [ha, tailBits_tail, tailBits_tail, tailBits_tail]
    omega
  have hbounds : (¬ a < 0x80) ∧ ¬ (0xc2 ≤ a && a ≤ 0xdf) = true ∧
      ¬ (0xe0 ≤ a && a ≤ 0xef) = true ∧ (0xf0 ≤ a && a ≤ 0xf4) = true := by
    simp only [Bool.and_eq_true, decide_eq_true_eq, UInt8.lt_iff_toNat_lt, UInt8.le_iff_toNat_le,
      ha, UInt8.reduceToNat]
    omega
  unfold piece
  rw [if_neg hbounds.1, if_neg hbounds.2.1, if_neg hbounds.2.2.1, if_pos hbounds.2.2.2]
  simp only [isSecond_four hlow hhigh ha, isTail_tail, if_true, hvalue]

/-! ## Texts -/

theorem pieces_cons {a : UInt8} {bytes rest : List UInt8} {p : Option Char}
    (h : piece a bytes = (p, rest)) : pieces (a :: bytes) = p :: pieces rest := by
  rw [pieces, h]

/-- The octets of a character are a piece of their own. -/
theorem pieces_encodeChar_append (c : Char) (rest : List UInt8) :
    pieces (encodeChar c ++ rest) = some c :: pieces rest := by
  have hvalid : c.toNat < 0xd800 ∨ (0xdfff < c.toNat ∧ c.toNat < 0x110000) := c.valid
  have hback : Char.ofNat c.toNat = c := Char.ofNat_toNat c
  rw [encodeChar_eq]
  split_ifs with hone htwo hthree
  · rw [List.singleton_append, pieces_cons (piece_one hone rest), hback]
  · have hpiece := piece_two (Nat.le_of_not_lt hone) htwo rest
    rw [hback] at hpiece
    exact pieces_cons hpiece
  · have hpiece := piece_three (Nat.le_of_not_lt htwo) hthree (hvalid.imp_right And.left) rest
    rw [hback] at hpiece
    exact pieces_cons hpiece
  · have hpiece := piece_four (Nat.le_of_not_lt hthree) (by omega) rest
    rw [hback] at hpiece
    exact pieces_cons hpiece

/-- A text is read back from its octets. -/
theorem decode?_encode (cs : List Char) : decode? (encode cs) = some cs := by
  unfold decode? encode
  induction cs with
  | nil => simp [pieces, wellFormed]
  | cons c cs ih =>
    rw [List.flatMap_cons, pieces_encodeChar_append, wellFormed, ih]
    rfl

end WorkloadAuth.Text.Utf8
