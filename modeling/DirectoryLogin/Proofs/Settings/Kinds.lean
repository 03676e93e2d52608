import DirectoryLogin.Proofs.Number.WholeNumbers
import DirectoryLogin.Settings.Load
/-!
# Kinds of Settings and their Rules

A value fits the kind of a setting or it does not, and what it then becomes is settled by its own meaning: a text by the
number it spells, a binary number by its value. A value of the right kind may still break the rule of its setting.

- `Settings.Coerces`, `Settings.Misfits`: what a value becomes, and why it becomes nothing.
- `Settings.Breaks`: the values of the right kind that a setting does not take.
- `Settings.coerce_eq_ok_iff`, `Settings.coerce_eq_error_iff`, `Settings.rule_eq_error_iff`: settings are brought to
  their kinds and checked by these relations.
- `Settings.value_ofValues`: settings that are put together from values of their kinds have these values.
-/

namespace DirectoryLogin.Settings

variable {f : Field} {k : Field.Kind} {v w : Value} {p : Problem}

/-! ## §1 Whole numbers -/

/-- A whole number of a machine word; the ends of the range are left out. -/
def InWord (n : Int) : Prop :=
  -2 ^ 63 < n ∧ n < 2 ^ 63

theorem fitsWord_iff {n : Int} : fitsWord n = true ↔ InWord n := by
  rw [fitsWord, decide_eq_true_eq, InWord, Nat.pow_eq]
  omega

/-- A whole number of as many digits as a numeral may have. -/
def InNumeral (n : Int) : Prop :=
  n.natAbs < 10 ^ Number.digitLimit

theorem fitsNumeral_iff {n : Int} : fitsNumeral n = true ↔ InNumeral n := by
  rw [fitsNumeral, decide_eq_true_eq, InNumeral, Nat.pow_eq]

/-- The whole number that a value stands for. -/
inductive IsWholeNumber : Value → Int → Prop
  | integer (n : Int) : IsWholeNumber (.integer n) n
  | no : IsWholeNumber (.flag false) 0
  | yes : IsWholeNumber (.flag true) 1
  | real {x : Binary64} {n : Int} (h : x.toRat = n) (hfits : InWord n) : IsWholeNumber (.real x) n
  | text {s : String} {n : Int} (h : Number.Spells s n) (hfits : InNumeral n) : IsWholeNumber (.text s) n

/-- Why a value stands for no whole number. -/
inductive NoWholeNumber : Value → Problem → Prop
  | fraction {x : Binary64} (h : ∀ n : Int, x.toRat ≠ n) : NoWholeNumber (.real x) .fraction
  | large {x : Binary64} {n : Int} (h : x.toRat = n) (hlarge : ¬ InWord n) : NoWholeNumber (.real x) .tooLarge
  | text {s : String} (h : ∀ n, ¬ Number.Spells s n) : NoWholeNumber (.text s) .unreadableInteger
  | long {s : String} {n : Int} (h : Number.Spells s n) (hlong : ¬ InNumeral n) : NoWholeNumber (.text s) .tooLarge
  | broken (b : Text.Broken) : NoWholeNumber (.broken b) .notUnicode
  | null : NoWholeNumber .null .notInteger
  | bytes (data : List UInt8) : NoWholeNumber (.bytes data) .notInteger
  | list (items : List Value) : NoWholeNumber (.list items) .notInteger
  | object (fields : List (String × Value)) : NoWholeNumber (.object fields) .notInteger

theorem toInt?_eq_none_of {x : Binary64} (h : ∀ n : Int, x.toRat ≠ n) : x.toInt? = none :=
  Option.eq_none_iff_forall_ne_some.mpr fun n hn => h n (Binary64.toInt?_eq_some_iff.mp hn)

theorem toInteger_eq_ok_of {n : Int} (h : IsWholeNumber v n) : toInteger v = .ok n := by
  cases h with
  | integer | no | yes => rfl
  | real h hfits =>
    rw [toInteger, Binary64.toInt?_eq_some_iff.mpr h]
    exact if_pos (fitsWord_iff.mpr hfits)
  | text h hfits =>
    rw [toInteger, Number.settingInteger?_eq_some_iff.mpr h]
    exact if_pos (fitsNumeral_iff.mpr hfits)

theorem toInteger_eq_error_of (h : NoWholeNumber v p) : toInteger v = .error p := by
  cases h with
  | fraction h => rw [toInteger, toInt?_eq_none_of h]
  | large h hlarge =>
    -- the real is whole, but beyond what the kind holds
    rw [toInteger, Binary64.toInt?_eq_some_iff.mpr h]
    exact if_neg (mt fitsWord_iff.mp hlarge)
  | @text s h =>
    have hnone : Number.settingInteger? s = none :=
      Option.eq_none_iff_forall_ne_some.mpr fun n hn => h n (Number.settingInteger?_eq_some_iff.mp hn)
    rw [toInteger, hnone]
  | long h hlong =>
    -- the text is a numeral, but has too many digits
    rw [toInteger, Number.settingInteger?_eq_some_iff.mpr h]
    exact if_neg (mt fitsNumeral_iff.mp hlong)
  | broken | null | bytes | list | object => rfl

/-- A value stands for a whole number, or there is a reason why not. -/
theorem isWholeNumber_or (v : Value) : (∃ n, IsWholeNumber v n) ∨ ∃ p, NoWholeNumber v p := by
  cases v with
  | null => exact .inr ⟨_, .null⟩
  | flag b => cases b with
    | false => exact .inl ⟨_, .no⟩
    | true => exact .inl ⟨_, .yes⟩
  | integer n => exact .inl ⟨n, .integer n⟩
  | real x =>
    -- a number is whole or has a fraction, and a whole one fits or is too large
    by_cases h : ∃ n : Int, x.toRat = n
    · obtain ⟨n, hn⟩ := h
      by_cases hfits : InWord n
      · exact .inl ⟨n, .real hn hfits⟩
      · exact .inr ⟨_, .large hn hfits⟩
    · exact .inr ⟨_, .fraction (not_exists.mp h)⟩
  | text s =>
    -- likewise for the number that a text spells
    by_cases h : ∃ n, Number.Spells s n
    · obtain ⟨n, hn⟩ := h
      by_cases hfits : InNumeral n
      · exact .inl ⟨n, .text hn hfits⟩
      · exact .inr ⟨_, .long hn hfits⟩
    · exact .inr ⟨_, .text (not_exists.mp h)⟩
  | broken b => exact .inr ⟨_, .broken b⟩
  | bytes data => exact .inr ⟨_, .bytes data⟩
  | list items => exact .inr ⟨_, .list items⟩
  | object fields => exact .inr ⟨_, .object fields⟩

/-! ## §2 Truth values -/

/-- The truth value that a value stands for; texts in any case. -/
inductive IsTruthValue : Value → Bool → Prop
  | flag (b : Bool) : IsTruthValue (.flag b) b
  | zero : IsTruthValue (.integer 0) false
  | one : IsTruthValue (.integer 1) true
  | realZero {x : Binary64} (h : x.toRat = 0) : IsTruthValue (.real x) false
  | realOne {x : Binary64} (h : x.toRat = 1) : IsTruthValue (.real x) true
  | no {s : String} (h : Text.lower s ∈ ["0", "off", "f", "false", "n", "no"]) : IsTruthValue (.text s) false
  | yes {s : String} (h : Text.lower s ∈ ["1", "on", "t", "true", "y", "yes"]) : IsTruthValue (.text s) true

/-- Why a value stands for no truth value. A binary number is taken for another whole number only if it fits into a
machine word. -/
inductive NoTruthValue : Value → Problem → Prop
  | integer {n : Int} (hzero : n ≠ 0) (hone : n ≠ 1) : NoTruthValue (.integer n) .unreadableFlag
  | text {s : String} (hno : Text.lower s ∉ ["0", "off", "f", "false", "n", "no"])
      (hyes : Text.lower s ∉ ["1", "on", "t", "true", "y", "yes"]) : NoTruthValue (.text s) .unreadableFlag
  | real {x : Binary64} {n : Int} (h : x.toRat = n) (hzero : n ≠ 0) (hone : n ≠ 1) (hfits : InWord n) :
      NoTruthValue (.real x) .unreadableFlag
  | large {x : Binary64} {n : Int} (h : x.toRat = n) (hlarge : ¬ InWord n) : NoTruthValue (.real x) .notFlag
  | fraction {x : Binary64} (h : ∀ n : Int, x.toRat ≠ n) : NoTruthValue (.real x) .notFlag
  | broken (b : Text.Broken) : NoTruthValue (.broken b) .notUnicode
  | null : NoTruthValue .null .notFlag
  | bytes (data : List UInt8) : NoTruthValue (.bytes data) .notFlag
  | list (items : List Value) : NoTruthValue (.list items) .notFlag
  | object (fields : List (String × Value)) : NoTruthValue (.object fields) .notFlag

theorem toFlag_eq_ok_of {b : Bool} (h : IsTruthValue v b) : toFlag v = .ok b := by
  cases h with
  | flag | zero | one => rfl
  | @realZero x h =>
    -- a real is a truth value only as 0 or 1
    have hint : x.toInt? = some 0 := Binary64.toInt?_eq_some_iff.mpr (by rw [h, Int.cast_zero])
    simp only [toFlag, hint, if_pos]
  | @realOne x h =>
    have hint : x.toInt? = some 1 := Binary64.toInt?_eq_some_iff.mpr (by rw [h, Int.cast_one])
    simp only [toFlag, hint, one_ne_zero, if_false, if_pos]
  | no h | yes h =>
    -- a text is one only by its lower-case spelling
    rw [toFlag]
    simp only [List.mem_cons, List.not_mem_nil, or_false] at h
    rcases h with h | h | h | h | h | h <;> rw [h] <;> rfl

theorem toFlag_eq_error_of (h : NoTruthValue v p) : toFlag v = .error p := by
  cases h with
  | integer hzero hone => rw [toFlag, if_neg hzero, if_neg hone]
  | @text s hno hyes =>
    have hnone : flagSpellings.lookup (Text.lower s) = none := by
      simp only [List.mem_cons, List.not_mem_nil, or_false, not_or] at hno hyes
      simp [List.lookup_eq_none_iff, flagSpellings, hno, hyes]
    rw [toFlag, hnone]
  | real h hzero hone hfits =>
    simp only [toFlag, Binary64.toInt?_eq_some_iff.mpr h, if_neg hzero, if_neg hone, fitsWord_iff.mpr hfits, if_pos]
  | @large x n h hlarge =>
    -- the ends of a word are far from zero and one
    have hzero : n ≠ 0 := by
      rintro rfl
      exact hlarge ⟨by decide, by decide⟩
    have hone : n ≠ 1 := by
      rintro rfl
      exact hlarge ⟨by decide, by decide⟩
    simp only [toFlag, Binary64.toInt?_eq_some_iff.mpr h, if_neg hzero, if_neg hone]
    exact if_neg (mt fitsWord_iff.mp hlarge)
  | fraction h => rw [toFlag, toInt?_eq_none_of h]
  | broken | null | bytes | list | object => rfl

/-- A value stands for a truth value, or there is a reason why not. -/
theorem isTruthValue_or (v : Value) : (∃ b, IsTruthValue v b) ∨ ∃ p, NoTruthValue v p := by
  cases v with
  | null => exact .inr ⟨_, .null⟩
  | flag b => exact .inl ⟨b, .flag b⟩
  | integer n =>
    by_cases hzero : n = 0
    · subst hzero
      exact .inl ⟨_, .zero⟩
    by_cases hone : n = 1
    · subst hone
      exact .inl ⟨_, .one⟩
    · exact .inr ⟨_, .integer hzero hone⟩
  | real x =>
    -- 0 and 1 are the truth values, and of the other numbers only the reason differs
    by_cases h : ∃ n : Int, x.toRat = n
    · obtain ⟨n, hn⟩ := h
      by_cases hzero : n = 0
      · exact .inl ⟨_, .realZero (by rw [hn, hzero, Int.cast_zero])⟩
      by_cases hone : n = 1
      · exact .inl ⟨_, .realOne (by rw [hn, hone, Int.cast_one])⟩
      by_cases hfits : InWord n
      · exact .inr ⟨_, .real hn hzero hone hfits⟩
      · exact .inr ⟨_, .large hn hfits⟩
    · exact .inr ⟨_, .fraction (not_exists.mp h)⟩
  | text s =>
    -- a text is one of the words for no, or for yes, or neither
    by_cases hno : Text.lower s ∈ ["0", "off", "f", "false", "n", "no"]
    · exact .inl ⟨_, .no hno⟩
    by_cases hyes : Text.lower s ∈ ["1", "on", "t", "true", "y", "yes"]
    · exact .inl ⟨_, .yes hyes⟩
    · exact .inr ⟨_, .text hno hyes⟩
  | broken b => exact .inr ⟨_, .broken b⟩
  | bytes data => exact .inr ⟨_, .bytes data⟩
  | list items => exact .inr ⟨_, .list items⟩
  | object fields => exact .inr ⟨_, .object fields⟩

/-! ## §3 Kinds -/

/-- What a value becomes if it fits a kind. -/
inductive Coerces : Field.Kind → Value → Value → Prop
  | text (s : String) : Coerces .text (.text s) (.text s)
  | optionalText (s : String) : Coerces .optionalText (.text s) (.text s)
  | absent : Coerces .optionalText .null .null
  | integer {v : Value} {n : Int} (h : IsWholeNumber v n) : Coerces .integer v (.integer n)
  | flag {v : Value} {b : Bool} (h : IsTruthValue v b) : Coerces .flag v (.flag b)

/-- Why a value does not fit a kind. -/
inductive Misfits : Field.Kind → Value → Problem → Prop
  | text {v : Value} (h : ∀ s, v ≠ .text s) (hbroken : ∀ b, v ≠ .broken b) : Misfits .text v .notText
  | optionalText {v : Value} (h : ∀ s, v ≠ .text s) (hbroken : ∀ b, v ≠ .broken b) (hnull : v ≠ .null) :
      Misfits .optionalText v .notText
  | broken {k : Field.Kind} (b : Text.Broken) : Misfits k (.broken b) .notUnicode
  | integer {v : Value} {p : Problem} (h : NoWholeNumber v p) : Misfits .integer v p
  | flag {v : Value} {p : Problem} (h : NoTruthValue v p) : Misfits .flag v p

theorem coerce_eq_ok_of (h : Coerces k v w) : coerce k v = .ok w := by
  cases h with
  | text | optionalText | absent => rfl
  | integer h => rw [coerce, toInteger_eq_ok_of h, Except.map]
  | flag h => rw [coerce, toFlag_eq_ok_of h, Except.map]

theorem coerce_eq_error_of (h : Misfits k v p) : coerce k v = .error p := by
  cases h with
  | text h hbroken =>
    -- a text would fit, and a broken one is refused for being broken
    cases v with
    | text s => exact absurd rfl (h s)
    | broken b => exact absurd rfl (hbroken b)
    | _ => rfl
  | optionalText h hbroken hnull =>
    cases v with
    | text s => exact absurd rfl (h s)
    | broken b => exact absurd rfl (hbroken b)
    | null => exact absurd rfl hnull
    | _ => rfl
  | broken b => cases k <;> rfl
  | integer h => rw [coerce, toInteger_eq_error_of h, Except.map]
  | flag h => rw [coerce, toFlag_eq_error_of h, Except.map]

/-- A value fits a kind, or there is a reason why not. -/
theorem coerces_or (k : Field.Kind) (v : Value) : (∃ w, Coerces k v w) ∨ ∃ p, Misfits k v p := by
  cases k with
  | text =>
    -- a text that is well formed, one that is not, or something else
    by_cases htext : ∃ s, v = .text s
    · obtain ⟨s, rfl⟩ := htext
      exact .inl ⟨_, .text s⟩
    by_cases hbroken : ∃ b, v = .broken b
    · obtain ⟨b, rfl⟩ := hbroken
      exact .inr ⟨_, .broken b⟩
    · exact .inr ⟨_, .text (not_exists.mp htext) (not_exists.mp hbroken)⟩
  | optionalText =>
    by_cases htext : ∃ s, v = .text s
    · obtain ⟨s, rfl⟩ := htext
      exact .inl ⟨_, .optionalText s⟩
    by_cases hbroken : ∃ b, v = .broken b
    · obtain ⟨b, rfl⟩ := hbroken
      exact .inr ⟨_, .broken b⟩
    by_cases hnull : v = .null
    · subst hnull
      exact .inl ⟨_, .absent⟩
    · exact .inr ⟨_, .optionalText (not_exists.mp htext) (not_exists.mp hbroken) hnull⟩
  | integer =>
    rcases isWholeNumber_or v with ⟨n, h⟩ | ⟨p, h⟩
    · exact .inl ⟨_, .integer h⟩
    · exact .inr ⟨p, .integer h⟩
  | flag =>
    rcases isTruthValue_or v with ⟨b, h⟩ | ⟨p, h⟩
    · exact .inl ⟨_, .flag h⟩
    · exact .inr ⟨p, .flag h⟩

/-- **A value is brought to a kind** if it fits, and becomes what it stands for. -/
theorem coerce_eq_ok_iff : coerce k v = .ok w ↔ Coerces k v w := by
  refine ⟨fun h => ?_, coerce_eq_ok_of⟩
  rcases coerces_or k v with ⟨w', hw⟩ | ⟨p, hp⟩
  · obtain rfl : w' = w := Except.ok.inj ((coerce_eq_ok_of hw).symm.trans h)
    exact hw
  · rw [coerce_eq_error_of hp] at h
    cases h

/-- **A value is refused** if it does not fit, for the reason why not. -/
theorem coerce_eq_error_iff : coerce k v = .error p ↔ Misfits k v p := by
  refine ⟨fun h => ?_, coerce_eq_error_of⟩
  rcases coerces_or k v with ⟨w, hw⟩ | ⟨p', hp⟩
  · rw [coerce_eq_ok_of hw] at h
    cases h
  · obtain rfl : p' = p := Except.error.inj ((coerce_eq_error_of hp).symm.trans h)
    exact hp

/-! ## §4 Rules -/

/-- The values of the right kind that a setting does not take. -/
inductive Breaks : Field → Value → Problem → Prop
  | referrals {s : String} (h : s ∉ ["ignore", "follow", "throw"]) :
      Breaks .referrals (.text s) (.notAmong "referrals" ["ignore", "follow", "throw"])
  | derefAliases {s : String} (h : s ∉ ["always", "never", "finding", "searching"]) :
      Breaks .derefAliases (.text s) (.notAmong "deref_aliases" ["always", "never", "finding", "searching"])
  | pool {n : Int} (h : n < 1) : Breaks .connectionPoolSize (.integer n) .poolTooSmall
  | negative {f : Field} {n : Int} (hf : f ∈ [.connectionTimeout, .readTimeout, .sizeLimit, .timeLimit])
      (h : n < 0) : Breaks f (.integer n) .negative

theorem amongRule_eq_error_iff {name : String} {allowed : List String} :
    amongRule name allowed v = .error p ↔ ∃ s, v = .text s ∧ s ∉ allowed ∧ p = .notAmong name allowed := by
  cases v with
  | text s =>
    rw [amongRule]
    by_cases hs : s ∈ allowed
    · simp [hs]
    · simp [hs, eq_comm]
  | _ => simp [amongRule]

theorem leastRule_eq_error_iff {least : Int} {problem : Problem} :
    leastRule least problem v = .error p ↔ ∃ n, v = .integer n ∧ n < least ∧ p = problem := by
  cases v with
  | integer n =>
    rw [leastRule]
    by_cases hn : n < least
    · simp [hn, eq_comm]
    · simp [hn]
  | _ => simp [leastRule]

/-- **The rule of a setting** refuses the values that break it. -/
theorem rule_eq_error_iff : rule f v = .error p ↔ Breaks f v p := by
  constructor
  · -- a setting is refused by the one rule that it has
    intro h
    cases f with
    | referrals =>
      obtain ⟨s, rfl, hs, rfl⟩ := amongRule_eq_error_iff.mp h
      exact .referrals hs
    | derefAliases =>
      obtain ⟨s, rfl, hs, rfl⟩ := amongRule_eq_error_iff.mp h
      exact .derefAliases hs
    | connectionPoolSize =>
      obtain ⟨n, rfl, hn, rfl⟩ := leastRule_eq_error_iff.mp h
      exact .pool hn
    | connectionTimeout | readTimeout | sizeLimit | timeLimit =>
      obtain ⟨n, rfl, hn, rfl⟩ := leastRule_eq_error_iff.mp h
      exact .negative (by decide) hn
    | _ => cases h
  · intro h
    cases h with
    | referrals hs => exact amongRule_eq_error_iff.mpr ⟨_, rfl, hs, rfl⟩
    | derefAliases hs => exact amongRule_eq_error_iff.mpr ⟨_, rfl, hs, rfl⟩
    | pool hn => exact leastRule_eq_error_iff.mpr ⟨_, rfl, hn, rfl⟩
    | negative hf hn =>
      have hrule : leastRule 0 .negative _ = .error .negative := leastRule_eq_error_iff.mpr ⟨_, rfl, hn, rfl⟩
      -- four settings share the rule about negative numbers
      simp only [List.mem_cons, List.not_mem_nil, or_false] at hf
      rcases hf with rfl | rfl | rfl | rfl <;> exact hrule

/-! ## §5 Values of their kinds -/

/-- A value is of a kind. -/
inductive HasKind : Field.Kind → Value → Prop
  | text (s : String) : HasKind .text (.text s)
  | optionalText (s : String) : HasKind .optionalText (.text s)
  | absent : HasKind .optionalText .null
  | integer (n : Int) : HasKind .integer (.integer n)
  | flag (b : Bool) : HasKind .flag (.flag b)

theorem Coerces.hasKind (h : Coerces k v w) : HasKind k w := by
  cases h with
  | text s => exact .text s
  | optionalText s => exact .optionalText s
  | absent => exact .absent
  | integer => exact .integer _
  | flag => exact .flag _

/-- A value of a kind stays as it is. -/
theorem HasKind.coerces (h : HasKind k v) : Coerces k v v := by
  cases h with
  | text s => exact .text s
  | optionalText s => exact .optionalText s
  | absent => exact .absent
  | integer n => exact .integer (.integer n)
  | flag b => exact .flag (.flag b)

theorem HasKind.text_textOf (h : HasKind .text v) : .text (textOf v) = v := by
  cases h
  rfl

theorem HasKind.ofOption_text? (h : HasKind .optionalText v) : .ofOption v.text? = v := by
  cases h <;> rfl

theorem HasKind.integer_integerOf (h : HasKind .integer v) : .integer (integerOf v) = v := by
  cases h
  rfl

theorem HasKind.flag_flagOf (h : HasKind .flag v) : .flag (flagOf v) = v := by
  cases h
  rfl

theorem hasKind_ofOption (o : Option String) : HasKind .optionalText (.ofOption o) := by
  cases o with
  | none => exact .absent
  | some s => exact .optionalText s

/-- The values of settings are of their kinds. -/
theorem hasKind_value (s : Settings) (f : Field) : HasKind f.kind (s.value f) := by
  cases f <;> first
    | exact hasKind_ofOption _
    | exact .text _
    | exact .integer _
    | exact .flag _

/-- **Settings put together** from values of their kinds have these values. -/
theorem value_ofValues {values : Field → Value} (h : ∀ f, HasKind f.kind (values f)) (f : Field) :
    (ofValues values).value f = values f := by
  have hf := h f
  cases f <;> first
    | exact HasKind.ofOption_text? hf
    | exact HasKind.text_textOf hf
    | exact HasKind.integer_integerOf hf
    | exact HasKind.flag_flagOf hf

/-- Every usual value obeys the rule of its setting. -/
theorem rule_usual (f : Field) : rule f (usual.value f) = .ok () := by
  cases f <;> rfl

theorem not_breaks_usual (f : Field) (p : Problem) : ¬ Breaks f (usual.value f) p := by
  rw [← rule_eq_error_iff, rule_usual]
  rintro ⟨⟩

end DirectoryLogin.Settings
