import DirectoryLogin.Number.Binary64
import DirectoryLogin.Number.Literal
import DirectoryLogin.Proofs.Text.Digits
import DirectoryLogin.Proofs.Text.Trimming
import Mathlib.Data.Rat.Cast.Order
import Mathlib.Tactic.FieldSimp
import Mathlib.Tactic.NormNum
/-!
# What Spells a Whole Number

A text spells a whole number if there is nothing in it but white space around, a sign, digits in groups with single
underscores between them, and perhaps a point with zeros behind it. A binary number is whole if its value is.

- `Number.Spells`: the texts, and the numbers they spell.
- `Number.settingInteger?_eq_some_iff`: just these are read.
- `Binary64.toInt?_eq_some_iff`: just the binary numbers without a fraction are whole.
-/

namespace DirectoryLogin

namespace Number

/-! ## §1 Texts -/

/-- Digits with single underscores between them, and the digits alone. -/
inductive Grouped : List Char → List Char → Prop
  | last {c : Char} (hc : c.isDigit = true) : Grouped [c] [c]
  | digit {c : Char} {cs digits : List Char} (hc : c.isDigit = true) (h : Grouped cs digits) :
      Grouped (c :: cs) (c :: digits)
  | gap {c : Char} {cs digits : List Char} (hc : c.isDigit = true) (h : Grouped cs digits) :
      Grouped (c :: '_' :: cs) (c :: digits)

/-- Grouped digits, perhaps with a point and nothing but zeros behind it, and what they are worth. -/
def WholeDecimal (cs : List Char) (n : Nat) : Prop :=
  ∃ body digits, Grouped body digits ∧ n = Nat.ofDigitChars 10 digits 0 ∧
    (cs = body ∨ ∃ zeros, cs = body ++ '.' :: zeros ∧ ∀ c ∈ zeros, c = '0')

/-- A sign that may stand before a number. -/
inductive Signed : List Char → Nat → Int → Prop
  | plain (n : Nat) : Signed [] n n
  | plus (n : Nat) : Signed ['+'] n n
  | minus (n : Nat) : Signed ['-'] n (-n)

/-- A text spells a whole number. -/
def Spells (s : String) (n : Int) : Prop :=
  ∃ front sign cs back size, s.toList = front ++ ((sign ++ cs) ++ back) ∧
    (∀ c ∈ front, Text.isWhiteSpace c = true) ∧ (∀ c ∈ back, Text.isWhiteSpace c = true) ∧
    Signed sign size n ∧ WholeDecimal cs size

theorem Grouped.mem {cs digits : List Char} (h : Grouped cs digits) {c : Char} (hc : c ∈ cs) :
    c.isDigit = true ∨ c = '_' := by
  induction h with
  | last hd => exact .inl (List.mem_singleton.mp hc ▸ hd)
  | digit hd _ ih =>
    rcases List.mem_cons.mp hc with rfl | hc
    · exact .inl hd
    · exact ih hc
  | gap hd _ ih =>
    -- an underline between two digits
    rcases List.mem_cons.mp hc with rfl | hc
    · exact .inl hd
    rcases List.mem_cons.mp hc with rfl | hc
    · exact .inr rfl
    · exact ih hc

/-- Grouped digits begin with a digit, and end there, go on at once or after an underscore. -/
theorem grouped_cons_iff {c : Char} {rest digits : List Char} :
    Grouped (c :: rest) digits ↔ c.isDigit = true ∧ ∃ more, digits = c :: more ∧
      (rest = [] ∧ more = [] ∨ Grouped rest more ∨ ∃ behind, rest = '_' :: behind ∧ Grouped behind more) := by
  constructor
  · intro h
    cases h with
    | last hc => exact ⟨hc, [], rfl, .inl ⟨rfl, rfl⟩⟩
    | digit hc h => exact ⟨hc, _, rfl, .inr (.inl h)⟩
    | gap hc h => exact ⟨hc, _, rfl, .inr (.inr ⟨_, rfl, h⟩)⟩
  · rintro ⟨hc, more, rfl, ⟨rfl, rfl⟩ | h | ⟨behind, rfl, h⟩⟩
    · exact .last hc
    · exact .digit hc h
    · exact .gap hc h

/-- **Reading on** in the middle of grouped digits: behind a digit they may end, or go on with an underscore. -/
theorem groupedFrom_eq_some_iff (value : Nat) (afterDigit : Bool) (cs : List Char) (n : Nat) :
    groupedFrom Text.asciiDigit? value afterDigit cs = some n ↔
      (∃ digits, Grouped cs digits ∧ n = Nat.ofDigitChars 10 digits value) ∨
      afterDigit = true ∧ (cs = [] ∧ n = value ∨
        ∃ rest digits, cs = '_' :: rest ∧ Grouped rest digits ∧ n = Nat.ofDigitChars 10 digits value) := by
  induction cs generalizing value afterDigit with
  | nil =>
    have hnone : ¬ ∃ digits, Grouped [] digits ∧ n = Nat.ofDigitChars 10 digits value := by
      rintro ⟨_, h, -⟩
      cases h
    rw [groupedFrom]
    cases afterDigit <;> simp [hnone, eq_comm]
  | cons c rest ih =>
    rw [groupedFrom, Text.asciiDigit?_eq]
    by_cases hc : c.isDigit = true
    · have hgap : c ≠ '_' := by
        rintro rfl
        exact absurd hc (by decide)
      rw [if_pos hc]
      dsimp only
      rw [ih]
      -- what follows the digit is worth as much with it in front
      constructor
      · rintro (⟨digits, h, rfl⟩ | ⟨-, ⟨rfl, rfl⟩ | ⟨behind, digits, rfl, h, rfl⟩⟩)
        · exact .inl ⟨_, .digit hc h, (Nat.ofDigitChars_cons ..).symm⟩
        · exact .inl ⟨_, .last hc, by rw [Nat.ofDigitChars_cons, Nat.ofDigitChars_nil]⟩
        · exact .inl ⟨_, .gap hc h, (Nat.ofDigitChars_cons ..).symm⟩
      · rintro (⟨digits, h, rfl⟩ | ⟨-, ⟨hnil, -⟩ | ⟨behind, digits, heq, -⟩⟩)
        · obtain ⟨-, more, rfl, ⟨rfl, rfl⟩ | hmore | ⟨behind, rfl, hmore⟩⟩ := grouped_cons_iff.mp h
          · exact .inr ⟨rfl, .inl ⟨rfl, by rw [Nat.ofDigitChars_cons, Nat.ofDigitChars_nil]⟩⟩
          · exact .inl ⟨more, hmore, Nat.ofDigitChars_cons ..⟩
          · exact .inr ⟨rfl, .inr ⟨behind, more, rfl, hmore, Nat.ofDigitChars_cons ..⟩⟩
        · cases hnil
        · exact absurd (List.cons.inj heq).1 hgap
    · have hnone : ∀ digits, ¬ Grouped (c :: rest) digits := fun digits h => hc (grouped_cons_iff.mp h).1
      rw [if_neg hc]
      dsimp only
      -- only an underscore behind a digit is read over
      by_cases hgap : (c == '_' && afterDigit) = true
      · rw [if_pos hgap, ih]
        obtain ⟨hc', rfl⟩ := Bool.and_eq_true_iff.mp hgap
        obtain rfl := eq_of_beq hc'
        simp [hnone]
      · rw [if_neg hgap]
        rw [Bool.and_eq_true_iff, beq_iff_eq] at hgap
        constructor
        · intro h
          cases h
        · rintro (⟨digits, h, -⟩ | ⟨rfl, ⟨hnil, -⟩ | ⟨behind, digits, heq, -⟩⟩)
          · exact absurd h (hnone digits)
          · cases hnil
          · exact absurd ⟨(List.cons.inj heq).1, rfl⟩ hgap

theorem grouped?_eq_some_iff {cs : List Char} {n : Nat} :
    grouped? Text.asciiDigit? cs = some n ↔ ∃ digits, Grouped cs digits ∧ n = Nat.ofDigitChars 10 digits 0 := by
  rw [grouped?, groupedFrom_eq_some_iff]
  simp

/-- **A point** may stand behind grouped digits, with nothing but zeros behind it. -/
theorem wholeDecimal?_eq_some_iff {cs : List Char} {n : Nat} : wholeDecimal? cs = some n ↔ WholeDecimal cs n := by
  -- no point stands among grouped digits, so the cut at the first point is the right one
  have hpoint {body digits : List Char} (h : Grouped body digits) : ∀ c ∈ body, (c != '.') = true := by
    intro c hc
    rcases h.mem hc with hdigit | rfl
    · refine bne_iff_ne.mpr ?_
      rintro rfl
      exact absurd hdigit (by decide)
    · decide
  have hcut : cs.takeWhile (· != '.') ++ cs.dropWhile (· != '.') = cs := List.takeWhile_append_dropWhile
  constructor
  · -- what is read is cut at the first point, with nothing but zeros behind it
    intro h
    unfold wholeDecimal? at h
    split at h
    · rename_i point fraction hdrop
      split at h
      · rename_i hzeros
        obtain ⟨digits, hbody, hn⟩ := grouped?_eq_some_iff.mp h
        refine ⟨_, digits, hbody, hn, .inr ⟨fraction, ?_, fun c hc => ?_⟩⟩
        · have hhead := List.head?_dropWhile_not (· != '.') cs
          rw [hdrop] at hhead
          obtain rfl : point = '.' := by simpa using hhead
          rw [← hdrop, hcut]
        · exact eq_of_beq (List.all_eq_true.mp hzeros c hc)
      · cases h
    · obtain ⟨digits, hbody, hn⟩ := grouped?_eq_some_iff.mp h
      exact ⟨cs, digits, hbody, hn, .inl rfl⟩
  · -- the other way round, with and without zeros behind a point
    rintro ⟨body, digits, hbody, hn, rfl | ⟨zeros, rfl, hzeros⟩⟩
    · rw [wholeDecimal?, List.dropWhile_eq_nil_iff.mpr (hpoint hbody)]
      exact grouped?_eq_some_iff.mpr ⟨digits, hbody, hn⟩
    · have hall : zeros.all (· == '0') = true := List.all_eq_true.mpr fun c hc => beq_iff_eq.mpr (hzeros c hc)
      rw [wholeDecimal?, List.dropWhile_append_of_pos (hpoint hbody), List.takeWhile_append_of_pos (hpoint hbody)]
      simpa [hall] using grouped?_eq_some_iff.mpr ⟨digits, hbody, hn⟩

/-- A whole decimal begins with a digit. -/
theorem WholeDecimal.head {cs : List Char} {n : Nat} (h : WholeDecimal cs n) :
    ∃ c rest, cs = c :: rest ∧ c.isDigit = true := by
  obtain ⟨body, digits, hbody, -, hcs⟩ := h
  cases body with
  | nil => cases hbody
  | cons c rest =>
    have hc := (grouped_cons_iff.mp hbody).1
    rcases hcs with rfl | ⟨zeros, rfl, -⟩
    · exact ⟨c, rest, rfl, hc⟩
    · exact ⟨c, rest ++ '.' :: zeros, rfl, hc⟩

/-- **A sign** may stand in front. -/
theorem signed_eq_some_iff {cs : List Char} {n : Int} :
    signed wholeDecimal? cs = some n ↔
      ∃ sign body size, cs = sign ++ body ∧ Signed sign size n ∧ WholeDecimal body size := by
  constructor
  · intro h
    unfold signed at h
    split at h
    · rename_i rest
      rcases hsize : wholeDecimal? rest with _ | size
      · simp [hsize] at h
      obtain rfl : -(size : Int) = n := by simpa [hsize] using h
      exact ⟨['-'], rest, size, rfl, .minus size, wholeDecimal?_eq_some_iff.mp hsize⟩
    · rename_i rest
      rcases hsize : wholeDecimal? rest with _ | size
      · simp [hsize] at h
      obtain rfl : (size : Int) = n := by simpa [hsize] using h
      exact ⟨['+'], rest, size, rfl, .plus size, wholeDecimal?_eq_some_iff.mp hsize⟩
    · rcases hsize : wholeDecimal? cs with _ | size
      · simp [hsize] at h
      obtain rfl : (size : Int) = n := by simpa [hsize] using h
      exact ⟨[], cs, size, rfl, .plain size, wholeDecimal?_eq_some_iff.mp hsize⟩
  · rintro ⟨sign, body, size, rfl, hsign, hbody⟩
    have hread := wholeDecimal?_eq_some_iff.mpr hbody
    cases hsign with
    | minus => simp [signed, hread]
    | plus => simp [signed, hread]
    | plain =>
      -- what begins with a digit begins with no sign
      obtain ⟨c, rest, rfl, hc⟩ := hbody.head
      rw [List.nil_append]
      unfold signed
      split
      · rename_i heq
        obtain rfl := (List.cons.inj heq).1
        exact absurd hc (by decide)
      · rename_i heq
        obtain rfl := (List.cons.inj heq).1
        exact absurd hc (by decide)
      · simp [hread]

/-- Nothing that spells a whole number is white space. -/
theorem not_isWhiteSpace_of_mem {sign body : List Char} {size : Nat} {n : Int} (hsign : Signed sign size n)
    (hbody : WholeDecimal body size) : ∀ c ∈ sign ++ body, Text.isWhiteSpace c = false := by
  -- a digit is no white space, and neither is what stands between digits
  have hdigit (c : Char) (hc : c.isDigit = true) : Text.isWhiteSpace c = false := by
    have hblank : Text.isBlank c = false := Text.isBlank_of_between (by decide) (Text.isDigit_iff.mp hc)
    exact (Bool.or_eq_false_iff.mp hblank).1
  intro c hc
  rcases List.mem_append.mp hc with hc | hc
  · -- a sign is none either
    cases hsign with
    | plain => cases hc
    | plus =>
      obtain rfl := List.mem_singleton.mp hc
      decide
    | minus =>
      obtain rfl := List.mem_singleton.mp hc
      decide
  · obtain ⟨grouped, digits, hgrouped, -, hbody⟩ := hbody
    have hin : c ∈ grouped → Text.isWhiteSpace c = false := fun hc => by
      rcases hgrouped.mem hc with hc | rfl
      · exact hdigit c hc
      · decide
    -- behind a point there are only zeros
    rcases hbody with rfl | ⟨zeros, rfl, hzeros⟩
    · exact hin hc
    · rcases List.mem_append.mp hc with hc | hc
      · exact hin hc
      rcases List.mem_cons.mp hc with rfl | hc
      · decide
      · rw [hzeros c hc]
        decide

/-- **The texts that are read** as the whole number of a setting are those that spell one. -/
theorem settingInteger?_eq_some_iff {s : String} {n : Int} : settingInteger? s = some n ↔ Spells s n := by
  rw [settingInteger?, signed_eq_some_iff]
  constructor
  · rintro ⟨sign, body, size, hcs, hsign, hbody⟩
    obtain ⟨front, back, hs, hfront, hback⟩ := Text.exists_trimList Text.isWhiteSpace s.toList
    exact ⟨front, sign, body, back, size, hcs ▸ hs, hfront, hback, hsign, hbody⟩
  · rintro ⟨front, sign, body, back, size, hs, hfront, hback, hsign, hbody⟩
    refine ⟨sign, body, size, ?_, hsign, hbody⟩
    rw [hs, Text.trimList_between hfront (not_isWhiteSpace_of_mem hsign hbody) hback]

end Number

/-! ## §2 Binary numbers -/

namespace Binary64

/-- The number that it is. -/
def toRat (x : Binary64) : ℚ :=
  (if x.negative then -1 else 1) * x.mantissa * 2 ^ x.exponent

/-- A fraction with a power of two below is whole if that power divides what is above. -/
theorem mul_inv_twoTo_eq_iff (m k : Nat) (n : Int) :
    (m : ℚ) * ((twoTo k : ℕ) : ℚ)⁻¹ = n ↔ m % twoTo k = 0 ∧ ((m / twoTo k : ℕ) : Int) = n := by
  have hpos : 0 < twoTo k := Nat.pow_pos (by decide)
  have hne : ((twoTo k : ℕ) : ℚ) ≠ 0 := by exact_mod_cast hpos.ne'
  rw [mul_inv_eq_iff_eq_mul₀ hne]
  constructor
  · intro h
    -- the fraction is whole, so the denominator divides the mantissa
    have hint : (m : Int) = n * (twoTo k : ℕ) := by exact_mod_cast h
    have hdvd : twoTo k ∣ m := Int.natCast_dvd_natCast.mp ⟨n, by rw [hint, mul_comm]⟩
    refine ⟨Nat.mod_eq_zero_of_dvd hdvd, ?_⟩
    rw [Int.natCast_div, hint, Int.mul_ediv_cancel _ (by exact_mod_cast hpos.ne')]
  · rintro ⟨hmod, rfl⟩
    have hm : m = m / twoTo k * twoTo k := (Nat.div_mul_cancel (Nat.dvd_of_mod_eq_zero hmod)).symm
    exact_mod_cast hm

theorem toInt?_unsigned (m : Nat) (e n : Int) : toInt? ⟨false, m, e⟩ = some n ↔ (m : ℚ) * 2 ^ e = n := by
  have hpower (k : Nat) : ((2 : ℚ) ^ k) = (twoTo k : ℕ) := by
    rw [twoTo, Nat.pow_eq]
    push_cast
    rfl
  -- a negative exponent divides, the other one multiplies
  rcases lt_or_ge e 0 with hneg | hpos
  · obtain ⟨k, rfl⟩ := Int.exists_eq_neg_ofNat hneg.le
    rw [zpow_neg, zpow_natCast, hpower, mul_inv_twoTo_eq_iff]
    have hk : 0 < k := by omega
    simp [toInt?, isWhole, truncate, hk, hk.ne']
  · obtain ⟨k, rfl⟩ := Int.eq_ofNat_of_zero_le hpos
    rw [zpow_natCast, hpower]
    simp [toInt?, isWhole, truncate]
    norm_cast

theorem toInt?_negated (m : Nat) (e : Int) : toInt? ⟨true, m, e⟩ = (toInt? ⟨false, m, e⟩).map (- ·) := by
  unfold toInt? isWhole truncate
  split <;> rfl

/-- **A binary number** is whole if its value is a whole number. -/
theorem toInt?_eq_some_iff {x : Binary64} {n : Int} : x.toInt? = some n ↔ x.toRat = n := by
  obtain ⟨negative, mantissa, exponent⟩ := x
  cases negative with
  | false => simp [toRat, toInt?_unsigned]
  | true =>
    -- a negative number is whole as its opposite is
    have hneg : toInt? ⟨true, mantissa, exponent⟩ = some n ↔ toInt? ⟨false, mantissa, exponent⟩ = some (-n) := by
      rw [toInt?_negated, Option.map_eq_some_iff]
      constructor
      · rintro ⟨k, hk, rfl⟩
        rw [hk, neg_neg]
      · intro h
        exact ⟨-n, h, neg_neg n⟩
    rw [hneg, toInt?_unsigned, toRat, Int.cast_neg, if_pos rfl, mul_assoc, neg_one_mul, neg_eq_iff_eq_neg]

end Binary64

end DirectoryLogin
