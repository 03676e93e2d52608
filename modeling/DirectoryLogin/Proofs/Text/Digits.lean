import DirectoryLogin.Text.Digit
/-!
# Digits and Letters

Where the ASCII digits and letters are, and what a row of digits is worth.

- `Text.isDigit_iff`, `Text.isLower_iff`, `Text.isAlphanum_cases`: the ranges of digits and letters.
- `Text.foldl_asciiDigit?`: the worth of a row of digits.
-/

namespace DirectoryLogin.Text

theorem isDigit_iff {c : Char} : c.isDigit = true ↔ '0' ≤ c ∧ c ≤ '9' := by
  rw [Char.isDigit, Bool.and_eq_true, decide_eq_true_eq, decide_eq_true_eq]
  rfl

theorem isLower_iff {c : Char} : c.isLower = true ↔ 'a' ≤ c ∧ c ≤ 'z' := by
  change (decide ('a' ≤ c) && decide (c ≤ 'z')) = true ↔ _
  rw [Bool.and_eq_true, decide_eq_true_eq, decide_eq_true_eq]

theorem isAlphanum_cases {c : Char} (h : c.isAlphanum = true) :
    ('A' ≤ c ∧ c ≤ 'Z') ∨ ('a' ≤ c ∧ c ≤ 'z') ∨ '0' ≤ c ∧ c ≤ '9' := by
  rcases (Bool.or_eq_true c.isAlpha c.isDigit).mp h with hletter | hdigit
  · rcases (Bool.or_eq_true c.isUpper c.isLower).mp hletter with hupper | hlower
    · exact .inl (of_decide_eq_true hupper)
    · exact .inr (.inl (isLower_iff.mp hlower))
  · exact .inr (.inr (isDigit_iff.mp hdigit))

theorem asciiDigit?_eq (c : Char) : asciiDigit? c = if c.isDigit then some (c.toNat - '0'.toNat) else none := by
  simp only [asciiDigit?, isDigit_iff]

theorem isSome_asciiDigit? (c : Char) : (asciiDigit? c).isSome = c.isDigit := by
  rw [asciiDigit?_eq]
  cases c.isDigit <;> rfl

/-- **A row of digits** is worth what its digits say, the first one most. -/
theorem foldl_asciiDigit? {cs : List Char} (h : ∀ c ∈ cs, c.isDigit = true) (n : Nat) :
    cs.foldl (fun n c => 10 * n + (asciiDigit? c).getD 0) n = Nat.ofDigitChars 10 cs n := by
  induction cs generalizing n with
  | nil => rfl
  | cons c rest ih =>
    obtain ⟨hc, hrest⟩ := List.forall_mem_cons.mp h
    rw [List.foldl_cons, ih hrest, Nat.ofDigitChars_cons, asciiDigit?_eq, if_pos hc]
    rfl

end DirectoryLogin.Text
