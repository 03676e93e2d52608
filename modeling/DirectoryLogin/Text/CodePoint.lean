/-!
# Code Point Sets

A property of characters beyond ASCII is kept as the list of its ranges of code points; membership is a
look-up in that list.
-/

namespace DirectoryLogin.Text

/-- The code point of a character lies in one of the closed ranges. -/
def inRanges (ranges : List (Nat × Nat)) (c : Char) : Bool :=
  ranges.any fun r => r.1 ≤ c.toNat && c.toNat ≤ r.2

/-- The character with a given code point, the replacement character if there is none. -/
def charOfNat (n : Nat) : Char :=
  if n.isValidChar then Char.ofNat n else '\uFFFD'

theorem charOfNat_toNat (c : Char) : charOfNat c.toNat = c := by
  have hvalid : c.toNat.isValidChar := c.valid
  rw [charOfNat, if_pos hvalid, Char.ofNat_toNat]

theorem toNat_ofNat_of_isValidChar {n : Nat} (h : n.isValidChar) : (Char.ofNat n).toNat = n := by
  rw [Char.ofNat, dif_pos h]
  rfl

end DirectoryLogin.Text
