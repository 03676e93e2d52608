/-!
# Blank Characters

Which characters surround a value without belonging to it, and how they are taken off.

Two sets are used. `isWhiteSpace` is the Unicode property; `isBlank` also counts the four separator controls
U+001C to U+001F, and is the set that names, URLs and lists are trimmed with.
-/

namespace DirectoryLogin.Text

/-- The Unicode property White_Space. -/
def isWhiteSpace (c : Char) : Bool :=
  let n := c.toNat
  (9 ≤ n && n ≤ 13) || n == 0x20 || n == 0x85 || n == 0xA0 || n == 0x1680 || (0x2000 ≤ n && n ≤ 0x200A)
    || n == 0x2028 || n == 0x2029 || n == 0x202F || n == 0x205F || n == 0x3000

/-- White space, or one of the separator controls U+001C to U+001F. -/
def isBlank (c : Char) : Bool :=
  isWhiteSpace c || (0x1C ≤ c.toNat && c.toNat ≤ 0x1F)

/-- Take the characters of a set off both ends. -/
def trimList (p : Char → Bool) (cs : List Char) : List Char :=
  ((cs.dropWhile p).reverse.dropWhile p).reverse

/-- A text without the blanks around it. -/
def strip (s : String) : String :=
  String.ofList (trimList isBlank s.toList)

/-! ## Small facts -/

/-- Nothing is taken off where neither end is in the set. -/
theorem trimList_eq_self {p : Char → Bool} {cs : List Char}
    (first : ∀ c, cs.head? = some c → p c = false) (last : ∀ c, cs.getLast? = some c → p c = false) :
    trimList p cs = cs := by
  have left : cs.dropWhile p = cs := by
    cases cs with
    | nil => rfl
    | cons c rest => simp [first c rfl]
  have right : cs.reverse.dropWhile p = cs.reverse := by
    cases h : cs.reverse with
    | nil => rfl
    | cons c rest =>
      have : p c = false := last c (by rw [← List.head?_reverse, h]; rfl)
      simp [this]
  rw [trimList, left, right, List.reverse_reverse]

end DirectoryLogin.Text
