import DirectoryLogin.Proofs.Text.Trimming
import DirectoryLogin.Proofs.Text.Unescaping
/-!
# The Ends of Escaped Values

A name is read without the blanks around its values, and a number sign at the beginning of a value has a meaning of its
own. So the ends of a value are escaped where what stands in the middle is not: a space at either end, and a number sign
at the beginning. Other blanks stay, at the ends as well.

- `Name.head?_escapeChars`, `Name.getLast?_escapeChars`: what stands at the ends.
- `Name.equals_mem_escapeChars_iff`, `Name.sharp_mem_escapeChars_iff`: equals and number signs are left in it.
-/

namespace DirectoryLogin

namespace Name

/-! ## §1 One character -/

/-- A hexadecimal digit, in upper or lower case. -/
def isHexDigit (c : Char) : Bool :=
  (Text.hexDigit? c).isSome

/-- The digits that escaping writes are hexadecimal digits. -/
theorem isHexDigit_of_isEscapeDigit {c : Char} (h : isEscapeDigit c = true) : isHexDigit c = true := by
  simp only [isEscapeDigit, Char.isDigit, Bool.or_eq_true, Bool.and_eq_true, decide_eq_true_eq] at h
  unfold isHexDigit Text.hexDigit?
  split_ifs with hdecimal _ hupper
  · rfl
  · rfl
  · rfl
  · rcases h with h | h
    · exact absurd h hdecimal
    · exact absurd h hupper

/-- A digit is no blank. -/
theorem isBlank_of_isHexDigit {c : Char} (h : isHexDigit c = true) : Text.isBlank c = false := by
  unfold isHexDigit Text.hexDigit? at h
  split_ifs at h with hdecimal hlower hupper
  · exact Text.isBlank_of_between (by decide) hdecimal
  · exact Text.isBlank_of_between (by decide) hlower
  · exact Text.isBlank_of_between (by decide) hupper
  · cases h

theorem isBlank_of_isEscapeDigit {c : Char} (h : isEscapeDigit c = true) : Text.isBlank c = false :=
  isBlank_of_isHexDigit (isHexDigit_of_isEscapeDigit h)

/-- A character in the middle of a value stays, or it is one that is not kept, and no blank. -/
theorem escapeChar_cases (c : Char) :
    escapeChar c = [c] ∨ escaping.kept c = false ∧ Text.isBlank c = false ∧ ∃ d d', escapeChar c = ['\\', d, d'] ∧
      isEscapeDigit d = true ∧ isEscapeDigit d' = true := by
  cases hkept : escaping.kept c with
  | true => exact .inl (escapeChar_of_kept hkept)
  | false =>
    obtain ⟨d, d', _, _, hescape, hd, hd', -⟩ := exists_escapeChar hkept
    refine .inr ⟨rfl, ?_, d, d', hescape, hd, hd'⟩
    rcases eq_of_not_kept hkept with rfl | rfl | rfl | rfl | rfl | rfl | rfl | rfl <;> decide

/-- A character at the beginning of a value stays, or it is escaped and no blank but a space. -/
theorem escapeFirst_cases (c : Char) :
    escapeFirst c = [c] ∧ c ≠ ' ' ∧ c ≠ '#' ∨ (Text.isBlank c = true → c = ' ') ∧
      ∃ d d', escapeFirst c = ['\\', d, d'] ∧ isEscapeDigit d = true ∧ isEscapeDigit d' = true := by
  unfold escapeFirst
  split_ifs with hspace hsharp
  · exact .inr ⟨fun _ => eq_of_beq hspace, _, _, rfl, rfl, rfl⟩
  · rw [eq_of_beq hsharp]
    exact .inr ⟨by decide, _, _, rfl, rfl, rfl⟩
  · rcases escapeChar_cases c with h | ⟨-, hblank, d, d', h, hd, hd'⟩
    · exact .inl ⟨h, by simpa using hspace, by simpa using hsharp⟩
    · exact .inr ⟨fun htrue => absurd htrue (by simp [hblank]), d, d', h, hd, hd'⟩

/-! ## §2 The ends -/

/-- **The first character** of an escaped value: that of the value, or a backslash. -/
theorem head?_escapeChars (c : Char) (rest : List Char) :
    ∃ x, (escapeChars (c :: rest)).head? = some x ∧
      (x = c ∧ c ≠ ' ' ∧ c ≠ '#' ∨ x = '\\' ∧ (Text.isBlank c = true → c = ' ')) := by
  rw [escapeChars]
  rcases escapeFirst_cases c with ⟨h, hne⟩ | ⟨hblank, _, _, h, -⟩
  · exact ⟨c, by rw [h]; rfl, .inl ⟨rfl, hne⟩⟩
  · exact ⟨'\\', by rw [h]; rfl, .inr ⟨rfl, hblank⟩⟩

/-- The last character behind the first one. -/
theorem getLast?_escapeRest {cs : List Char} {c : Char} (h : cs.getLast? = some c) :
    ∃ x, (escapeRest cs).getLast? = some x ∧
      (x = c ∧ c ≠ ' ' ∨ isEscapeDigit x = true ∧ (Text.isBlank c = true → c = ' ')) := by
  induction cs using escapeRest.induct with
  | case1 => cases h
  | case2 d hspace =>
    -- the last character alone: a space becomes an escape, and so does what is special
    obtain rfl : d = c := Option.some.inj h
    rw [escapeRest, if_pos hspace]
    exact ⟨'0', rfl, .inr ⟨rfl, fun _ => eq_of_beq hspace⟩⟩
  | case3 d hspace =>
    obtain rfl : d = c := Option.some.inj h
    rw [escapeRest, if_neg hspace]
    rcases escapeChar_cases d with h | ⟨-, hblank, _, d', h, -, hd'⟩
    · exact ⟨d, by rw [h]; rfl, .inl ⟨rfl, by simpa using hspace⟩⟩
    · exact ⟨d', by rw [h]; rfl, .inr ⟨hd', fun htrue => absurd htrue (by simp [hblank])⟩⟩
  | case4 d e rest ih =>
    -- in front of the last one nothing changes at the end
    rw [List.getLast?_cons_cons] at h
    obtain ⟨x, hx, hcases⟩ := ih h
    refine ⟨x, ?_, hcases⟩
    rw [escapeRest, List.getLast?_append, hx]
    rfl

/-- **The last character** of an escaped value: that of the value, or a digit. -/
theorem getLast?_escapeChars {value : List Char} {c : Char} (h : value.getLast? = some c) :
    ∃ x, (escapeChars value).getLast? = some x ∧
      (x = c ∧ c ≠ ' ' ∨ isEscapeDigit x = true ∧ (Text.isBlank c = true → c = ' ')) := by
  cases value with
  | nil => cases h
  | cons first rest =>
    cases rest with
    | nil =>
      -- one character is the first and the last
      obtain rfl : first = c := Option.some.inj h
      rw [escapeChars, escapeRest, List.append_nil]
      rcases escapeFirst_cases first with ⟨h, hne, -⟩ | ⟨hblank, _, d', h, -, hd'⟩
      · exact ⟨first, by rw [h]; rfl, .inl ⟨rfl, hne⟩⟩
      · exact ⟨d', by rw [h]; rfl, .inr ⟨hd', hblank⟩⟩
    | cons second rest =>
      -- of two or more, the last is one of the rest
      rw [List.getLast?_cons_cons] at h
      obtain ⟨x, hx, hcases⟩ := getLast?_escapeRest h
      exact ⟨x, by rw [escapeChars, List.getLast?_append, hx]; rfl, hcases⟩

/-- **Neither a space nor a number sign** begins an escaped value. -/
theorem head?_escapeChars_ne (value : List Char) :
    (escapeChars value).head? ≠ some ' ' ∧ (escapeChars value).head? ≠ some '#' := by
  cases value with
  | nil => exact ⟨nofun, nofun⟩
  | cons c rest =>
    obtain ⟨x, hx, hcases⟩ := head?_escapeChars c rest
    rw [hx]
    rcases hcases with ⟨rfl, hspace, hsharp⟩ | ⟨rfl, -⟩
    · simp [hspace, hsharp]
    · decide

/-- **No space** ends an escaped value. -/
theorem getLast?_escapeChars_ne (value : List Char) : (escapeChars value).getLast? ≠ some ' ' := by
  rcases hlast : value.getLast? with _ | c
  · rw [List.getLast?_eq_none_iff.mp hlast]
    nofun
  · obtain ⟨x, hx, ⟨rfl, hspace⟩ | ⟨hdigit, -⟩⟩ := getLast?_escapeChars hlast
    · simp [hx, hspace]
    · rw [hx]
      rintro h
      cases h
      cases hdigit

/-! ## §3 What is left -/

section Left

variable {c : Char} (hkept : escaping.kept c = true) (hdigit : isEscapeDigit c = false)
include hkept hdigit

/-- A character that is neither escaped nor part of an escape comes from itself. -/
theorem mem_escapeChar_iff (d : Char) : c ∈ escapeChar d ↔ c = d := by
  have hne : c ≠ '\\' := escaping.ne_backslash hkept
  rcases escapeChar_cases d with h | ⟨hlost, -, x, x', h, hx, hx'⟩
  · rw [h, List.mem_singleton]
  · -- an escape holds a backslash and two digits, and `c` is none of them
    have hout {y : Char} (hy : isEscapeDigit y = true) : c ≠ y := by
      rintro rfl
      rw [hdigit] at hy
      cases hy
    have hcd : c ≠ d := by
      rintro rfl
      rw [hkept] at hlost
      cases hlost
    simp [h, hne, hout hx, hout hx', hcd]

/-- Behind the first character a character is left where it was. -/
theorem mem_escapeRest_iff (hspace : c ≠ ' ') (cs : List Char) : c ∈ escapeRest cs ↔ c ∈ cs := by
  induction cs using escapeRest.induct with
  | case1 => rfl
  | case2 d hd =>
    -- nor does the escape of a trailing blank hold it
    have hne : c ∉ escapedSpace := fun hmem => by
      have hcases : c = '\\' ∨ c = '2' ∨ c = '0' := by simpa [escapedSpace] using hmem
      rcases hcases with rfl | rfl | rfl
      · cases hkept
      · cases hdigit
      · cases hdigit
    rw [escapeRest, if_pos hd, eq_of_beq hd, List.mem_singleton]
    simp [hne, hspace]
  | case3 d hd => rw [escapeRest, if_neg hd, mem_escapeChar_iff hkept hdigit, List.mem_singleton]
  | case4 d e rest ih =>
    rw [escapeRest, List.mem_append, mem_escapeChar_iff hkept hdigit, ih, ← List.mem_cons]

end Left

/-- **An equals sign** is never escaped. -/
theorem equals_mem_escapeChars_iff (value : List Char) : '=' ∈ escapeChars value ↔ '=' ∈ value := by
  cases value with
  | nil => rfl
  | cons c rest =>
    have hfirst : '=' ∈ escapeFirst c ↔ '=' = c := by
      unfold escapeFirst
      split_ifs with hspace hsharp
      · rw [eq_of_beq hspace]; decide
      · rw [eq_of_beq hsharp]; decide
      · exact mem_escapeChar_iff rfl rfl c
    rw [escapeChars, List.mem_append, hfirst, mem_escapeRest_iff rfl rfl (by decide), List.mem_cons]

/-- **A number sign** is escaped at the beginning only. -/
theorem sharp_mem_escapeChars_iff (value : List Char) : '#' ∈ escapeChars value ↔ '#' ∈ value.tail := by
  cases value with
  | nil => rfl
  | cons c rest =>
    -- a hash in front is escaped
    have hfirst : '#' ∉ escapeFirst c := by
      unfold escapeFirst
      split_ifs with hspace hsharp
      · decide
      · decide
      · rw [mem_escapeChar_iff rfl rfl]
        rintro rfl
        exact hsharp rfl
    -- behind the first character a hash is left alone
    rw [escapeChars, List.mem_append, mem_escapeRest_iff rfl rfl (by decide), List.tail_cons]
    simp [hfirst]

end Name

end DirectoryLogin
