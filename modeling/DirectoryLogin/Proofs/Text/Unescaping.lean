import DirectoryLogin.Filter.Escape
import DirectoryLogin.Name.Escape
import DirectoryLogin.Proofs.Text.Coding
/-!
# Escaped Texts Are Read Back

What a directory makes of an escaped value: a backslash and two hexadecimal digits are one byte, every other character
stands for its own bytes (RFC 4515). Inside a name, a backslash may also stand before a special character
(RFC 4514). Both escapings of values are read back as the value, whatever characters there are in it.

- `Text.unescape?`: what an escaped text stands for.
- `Text.Escaping.Written`: a text that is a value with its reserved characters escaped.
- `Filter.unescape?_escape`, `Name.unescape?_escapeValue`: nothing is lost by escaping.
-/

namespace DirectoryLogin

namespace Text

/-! ## §1 Reading an escaped text -/

/-- The bytes that an escaped text stands for; absent if there is a backslash that begins no escape. A backslash makes
a special character stand for itself. -/
def unescapedBytes? (special : Char → Bool) : List Char → Option (List UInt8)
  | [] => some []
  | '\\' :: c :: rest =>
    if special c then (unescapedBytes? special rest).map (utf8Char c ++ ·)
    else
      match rest with
      | [] => none
      | d :: rest =>
        match hexDigit? c, hexDigit? d with
        | some high, some low => (unescapedBytes? special rest).map (UInt8.ofNat (16 * high + low) :: ·)
        | _, _ => none
  | c :: rest => if c == '\\' then none else (unescapedBytes? special rest).map (utf8Char c ++ ·)

/-- The text that an escaped text stands for. -/
def unescape? (special : Char → Bool) (s : String) : Option String :=
  (unescapedBytes? special s.toList).map decodeUtf8

section Reading

variable {special : Char → Bool} (rest : List Char)

/-- A character that is not a backslash stands for itself. -/
theorem unescapedBytes?_literal {c : Char} (hc : c ≠ '\\') :
    unescapedBytes? special (c :: rest) = (unescapedBytes? special rest).map (utf8Char c ++ ·) := by
  rw [unescapedBytes?, if_neg (by simpa using hc)]
  exact fun _ _ h _ => hc h

/-- A backslash makes a special character stand for itself. -/
theorem unescapedBytes?_special {c : Char} (hc : special c = true) :
    unescapedBytes? special ('\\' :: c :: rest) = (unescapedBytes? special rest).map (utf8Char c ++ ·) := by
  cases rest with
  | nil => simp [unescapedBytes?, hc]
  | cons d rest => rw [unescapedBytes?, if_pos hc]

/-- A backslash and two digits stand for a byte. -/
theorem unescapedBytes?_pair {c d : Char} {high low : Nat} (hc : special c = false)
    (hhigh : hexDigit? c = some high) (hlow : hexDigit? d = some low) :
    unescapedBytes? special ('\\' :: c :: d :: rest) =
      (unescapedBytes? special rest).map (UInt8.ofNat (16 * high + low) :: ·) := by
  rw [unescapedBytes?, hc, if_neg Bool.false_ne_true]
  simp only [hhigh, hlow]

end Reading

/-! ## §2 Escapings -/

/-- Every backslash in a text stands before two digits. -/
def EscapesBy (digit : Char → Bool) (text : List Char) : Prop :=
  ∀ rest, '\\' :: rest <:+ text → ∃ c d tail, rest = c :: d :: tail ∧ digit c = true ∧ digit d = true

namespace EscapesBy

variable {digit : Char → Bool} {text : List Char}

theorem nil : EscapesBy digit [] :=
  fun _ h => absurd (List.suffix_nil.mp h) (List.cons_ne_nil _ _)

/-- A text without backslashes. -/
theorem of_not_mem (h : '\\' ∉ text) : EscapesBy digit text :=
  fun _ hrest => absurd (hrest.subset List.mem_cons_self) h

theorem tail {c : Char} (h : EscapesBy digit (c :: text)) : EscapesBy digit text :=
  fun rest hrest => h rest (hrest.trans (List.suffix_cons c text))

theorem mono {digit' : Char → Bool} (h : EscapesBy digit text) (hdigit : ∀ c, digit c = true → digit' c = true) :
    EscapesBy digit' text := by
  intro rest hrest
  obtain ⟨c, d, tail, heq, hc, hd⟩ := h rest hrest
  exact ⟨c, d, tail, heq, hdigit c hc, hdigit d hd⟩

/-- A character that is not a backslash. -/
theorem literal {c : Char} (hc : c ≠ '\\') (h : EscapesBy digit text) : EscapesBy digit (c :: text) := by
  intro rest hrest
  rcases List.suffix_cons_iff.mp hrest with heq | hrest
  · exact absurd (List.cons.inj heq).1.symm hc
  · exact h rest hrest

/-- A backslash before two digits. -/
theorem backslash {c d : Char} (hc : digit c = true) (hd : digit d = true) (h : EscapesBy digit (c :: d :: text)) :
    EscapesBy digit ('\\' :: c :: d :: text) := by
  intro rest hrest
  rcases List.suffix_cons_iff.mp hrest with heq | hrest
  · exact ⟨c, d, text, (List.cons.inj heq).2, hc, hd⟩
  · exact h rest hrest

/-- A backslash and two digits, of which none is a backslash. -/
theorem pair (hbackslash : digit '\\' = false) {c d : Char} (hc : digit c = true) (hd : digit d = true)
    (h : EscapesBy digit text) : EscapesBy digit ('\\' :: c :: d :: text) := by
  have hne {x : Char} (hx : digit x = true) : x ≠ '\\' := by
    rintro rfl
    rw [hbackslash] at hx
    cases hx
  exact backslash hc hd (literal (hne hc) (literal (hne hd) h))

theorem append {text' : List Char} (h : EscapesBy digit text) (h' : EscapesBy digit text') :
    EscapesBy digit (text ++ text') := by
  induction text with
  | nil => exact h'
  | cons c rest ih =>
    by_cases hc : c = '\\'
    · subst hc
      obtain ⟨d, d', tail, rfl, hd, hd'⟩ := h rest List.suffix_rfl
      exact backslash hd hd' (ih h.tail)
    · exact literal hc (ih h.tail)

/-- Such a text is made of characters that are not backslashes, and of backslashes with two digits. -/
@[elab_as_elim]
theorem induction {motive : List Char → Prop} (h : EscapesBy digit text) (nil : motive [])
    (literal : ∀ c text, c ≠ '\\' → motive text → motive (c :: text))
    (pair : ∀ c d text, digit c = true → digit d = true → motive text → motive ('\\' :: c :: d :: text)) :
    motive text := by
  -- by length, since an escape takes three characters at once
  induction hlength : text.length using Nat.strong_induction_on generalizing text with
  | _ n ih =>
    subst hlength
    cases text with
    | nil => exact nil
    | cons c rest =>
      by_cases hc : c = '\\'
      · subst hc
        obtain ⟨d, d', tail, rfl, hd, hd'⟩ := h rest List.suffix_rfl
        exact pair d d' tail hd hd' (ih tail.length (by simp; omega) h.tail.tail.tail rfl)
      · exact literal c rest hc (ih rest.length (by simp) h.tail rfl)

end EscapesBy

/-- A way of escaping reserved characters. -/
structure Escaping where
  /-- The characters that may stand for themselves. -/
  kept : Char → Bool
  /-- The digits of an escape. -/
  digit : Char → Bool
  /-- The characters that a backslash makes stand for themselves. -/
  special : Char → Bool
  /-- A backslash always begins an escape. -/
  kept_backslash : kept '\\' = false
  /-- A backslash is no digit. -/
  digit_backslash : digit '\\' = false
  /-- An escape by digits is not taken for one of the other kind. -/
  special_of_digit : ∀ c, digit c = true → special c = false

namespace Escaping

/-- A text is a value of which some characters are escaped: all those that may not stand for themselves, and
perhaps others. -/
inductive Written (e : Escaping) : List Char → List Char → Prop
  | nil : Written e [] []
  /-- A character that stands for itself. -/
  | itself {c : Char} {value text : List Char} (hkept : e.kept c = true) (hrest : Written e value text) :
      Written e (c :: value) (c :: text)
  /-- A character as an escape. -/
  | pair {c d d' : Char} {high low : Nat} {value text : List Char} (hd : e.digit d = true) (hd' : e.digit d' = true)
      (hhigh : hexDigit? d = some high) (hlow : hexDigit? d' = some low)
      (hbyte : utf8Char c = [UInt8.ofNat (16 * high + low)]) (hrest : Written e value text) :
      Written e (c :: value) ('\\' :: d :: d' :: text)

theorem ne_backslash (e : Escaping) {c : Char} (hkept : e.kept c = true) : c ≠ '\\' := by
  rintro rfl
  rw [e.kept_backslash] at hkept
  cases hkept

namespace Written

variable {e : Escaping} {value text : List Char}

/-- The text stands for the bytes of the value. -/
theorem unescapedBytes? (h : e.Written value text) :
    Text.unescapedBytes? e.special text = some (utf8Chars value) := by
  induction h with
  | nil => rw [Text.unescapedBytes?]; rfl
  | itself hkept _ ih =>
    rw [unescapedBytes?_literal _ (e.ne_backslash hkept), ih]
    rfl
  | @pair _ d _ _ _ _ _ hd _ hhigh hlow hbyte _ ih =>
    rw [unescapedBytes?_pair _ (e.special_of_digit d hd) hhigh hlow, ih]
    simp only [utf8Chars, List.flatMap_cons, hbyte, Option.map_some, List.singleton_append]

/-- **An escaped value is read back.** -/
theorem unescape? {value text : String} (h : e.Written value.toList text.toList) :
    Text.unescape? e.special text = some value := by
  rw [Text.unescape?, h.unescapedBytes?, Option.map_some, decodeUtf8_utf8Chars, String.ofList_toList]

/-- In an escaped value every backslash begins an escape. -/
theorem escapesBy (h : e.Written value text) : EscapesBy e.digit text := by
  induction h with
  | nil => exact .nil
  | itself hkept _ ih => exact .literal (e.ne_backslash hkept) ih
  | pair hd hd' _ _ _ _ ih => exact .pair e.digit_backslash hd hd' ih

/-- What an escaped value is made of. -/
theorem of_mem (h : e.Written value text) {c : Char} (hc : c ∈ text) :
    e.kept c = true ∨ c = '\\' ∨ e.digit c = true := by
  induction h with
  | nil => cases hc
  | itself hkept _ ih =>
    rcases List.mem_cons.mp hc with rfl | hc
    · exact .inl hkept
    · exact ih hc
  | pair hd hd' _ _ _ _ ih =>
    -- an escape is a backslash and two digits
    rcases List.mem_cons.mp hc with rfl | hc
    · exact .inr (.inl rfl)
    rcases List.mem_cons.mp hc with rfl | hc
    · exact .inr (.inr hd)
    rcases List.mem_cons.mp hc with rfl | hc
    · exact .inr (.inr hd')
    · exact ih hc

/-- An escaped value holds nothing of a kind that is neither kept nor part of an escape. -/
theorem filter_eq_nil (h : e.Written value text) {raw : Char → Bool} (hkept : ∀ c, e.kept c = true → raw c = false)
    (hbackslash : raw '\\' = false) (hdigit : ∀ c, e.digit c = true → raw c = false) : text.filter raw = [] := by
  refine List.filter_eq_nil_iff.mpr fun c hc => Bool.not_eq_true _ ▸ ?_
  rcases h.of_mem hc with hc | rfl | hc
  · exact hkept c hc
  · exact hbackslash
  · exact hdigit c hc

end Written

end Escaping

end Text

/-! ## §3 Values in filters -/

namespace Filter

/-- A character that is syntax in a filter wherever it stands. -/
def isRaw (c : Char) : Bool :=
  c == '(' || c == ')' || c == '*' || c == '\x00'

/-- A digit of an escape in a filter. -/
def isEscapeDigit (c : Char) : Bool :=
  c.isDigit || (decide ('a' ≤ c) && decide (c ≤ 'f'))

/-- A digit is no syntax. -/
theorem isRaw_of_isEscapeDigit (c : Char) (h : isEscapeDigit c = true) : isRaw c = false := by
  by_contra hraw
  simp only [Bool.not_eq_false, isRaw, Bool.or_eq_true, beq_iff_eq, or_assoc] at hraw
  rcases hraw with rfl | rfl | rfl | rfl <;> cases h

/-- The escaping of values in filters. -/
def escaping : Text.Escaping where
  kept c := !isRaw c && c != '\\'
  digit := isEscapeDigit
  special _ := false
  kept_backslash := rfl
  digit_backslash := rfl
  special_of_digit _ _ := rfl

/-- The text that an escaped text in a filter stands for. -/
def unescape? (s : String) : Option String :=
  Text.unescape? escaping.special s

/-- One more character of a value. -/
theorem written_escapeChar {value text : List Char} (c : Char) (h : escaping.Written value text) :
    escaping.Written (c :: value) (escapeChar c ++ text) := by
  unfold escapeChar
  split_ifs
  case neg => exact .itself (by simp_all [escaping, isRaw]) h
  all_goals
    -- the character is known, and its escape stands for its byte
    simp only [beq_iff_eq] at *
    subst_vars
    exact .pair rfl rfl rfl rfl rfl h

/-- An escaped value. -/
theorem written_escape (value : String) : escaping.Written value.toList (escape value).toList := by
  rw [toList_escape]
  induction value.toList with
  | nil => exact .nil
  | cons c rest ih => exact written_escapeChar c ih

/-- An escaped value holds no syntax. -/
theorem filter_escape (value : String) : (escape value).toList.filter isRaw = [] :=
  (written_escape value).filter_eq_nil (fun c hc => by simpa using (Bool.and_eq_true _ _).mp hc |>.1) rfl
    isRaw_of_isEscapeDigit

/-- **A value in a filter** is read back as it was. -/
@[simp] theorem unescape?_escape (value : String) : unescape? (escape value) = some value :=
  (written_escape value).unescape?

end Filter

/-! ## §4 Values in names -/

namespace Name

/-- A character that is syntax in a name wherever it stands. -/
def isRaw (c : Char) : Bool :=
  c == ',' || c == '+' || c == ';' || c == '"' || c == '<' || c == '>' || c == '\x00'

/-- A character that may stand behind a backslash in a name. -/
def isSpecial (c : Char) : Bool :=
  isRaw c && c != '\x00' || c == ' ' || c == '#' || c == '=' || c == '\\'

/-- A digit of an escape in an escaped value. -/
def isEscapeDigit (c : Char) : Bool :=
  c.isDigit || (decide ('A' ≤ c) && decide (c ≤ 'F'))

/-- A digit is no special character. -/
theorem isSpecial_of_isEscapeDigit (c : Char) (h : isEscapeDigit c = true) : isSpecial c = false := by
  by_contra hspecial
  rw [Bool.not_eq_false] at hspecial
  simp only [isSpecial, isRaw, Bool.or_eq_true, Bool.and_eq_true, beq_iff_eq, or_assoc] at hspecial
  obtain ⟨rfl | rfl | rfl | rfl | rfl | rfl | rfl, -⟩ | rfl | rfl | rfl | rfl := hspecial <;> cases h

/-- A digit is no syntax. -/
theorem isRaw_of_isEscapeDigit (c : Char) (h : isEscapeDigit c = true) : isRaw c = false := by
  by_contra hraw
  simp only [Bool.not_eq_false, isRaw, Bool.or_eq_true, beq_iff_eq, or_assoc] at hraw
  rcases hraw with rfl | rfl | rfl | rfl | rfl | rfl | rfl <;> cases h

/-- The escaping of values in names. -/
def escaping : Text.Escaping where
  kept c := !isRaw c && c != '\\'
  digit := isEscapeDigit
  special := isSpecial
  kept_backslash := rfl
  digit_backslash := rfl
  special_of_digit := isSpecial_of_isEscapeDigit

/-- The text that an escaped text in a name stands for. -/
def unescape? (s : String) : Option String :=
  Text.unescape? escaping.special s

/-- The characters that may not stand for themselves. -/
theorem eq_of_not_kept {c : Char} (h : escaping.kept c = false) :
    c = ',' ∨ c = '+' ∨ c = ';' ∨ c = '"' ∨ c = '<' ∨ c = '>' ∨ c = '\x00' ∨ c = '\\' := by
  have hcases : isRaw c = true ∨ c = '\\' := by
    simpa only [escaping, Bool.and_eq_false_iff, Bool.not_eq_false', bne_eq_false_iff_eq] using h
  simpa only [isRaw, Bool.or_eq_true, beq_iff_eq, or_assoc] using hcases

/-- A character that may stand for itself is not escaped. -/
theorem escapeChar_of_kept {c : Char} (h : escaping.kept c = true) : escapeChar c = [c] := by
  have hne {x : Char} (hx : escaping.kept x = false) : ¬(c == x) = true := by
    intro heq
    rw [eq_of_beq heq, hx] at h
    cases h
  unfold escapeChar
  repeat rw [if_neg (hne rfl)]

/-- Any other character is escaped by two digits that stand for its byte. -/
theorem exists_escapeChar {c : Char} (h : escaping.kept c = false) :
    ∃ d d' high low, escapeChar c = ['\\', d, d'] ∧ isEscapeDigit d = true ∧ isEscapeDigit d' = true ∧
      Text.hexDigit? d = some high ∧ Text.hexDigit? d' = some low ∧
      Text.utf8Char c = [UInt8.ofNat (16 * high + low)] := by
  rcases eq_of_not_kept h with rfl | rfl | rfl | rfl | rfl | rfl | rfl | rfl
  all_goals exact ⟨_, _, _, _, rfl, rfl, rfl, rfl, rfl, rfl⟩

section Written

variable {value text : List Char} (h : escaping.Written value text)
include h

/-- A character anywhere in a value. -/
theorem written_escapeChar (c : Char) : escaping.Written (c :: value) (escapeChar c ++ text) := by
  cases hkept : escaping.kept c with
  | true =>
    rw [escapeChar_of_kept hkept]
    exact .itself hkept h
  | false =>
    obtain ⟨d, d', high, low, hescape, hd, hd', hhigh, hlow, hbyte⟩ := exists_escapeChar hkept
    rw [hescape]
    exact .pair hd hd' hhigh hlow hbyte h

/-- A space at an end of a value. -/
theorem written_escapedSpace : escaping.Written (' ' :: value) (escapedSpace ++ text) :=
  .pair rfl rfl rfl rfl rfl h

/-- The first character of a value. -/
theorem written_escapeFirst (c : Char) : escaping.Written (c :: value) (escapeFirst c ++ text) := by
  unfold escapeFirst
  split_ifs with hspace hsharp
  · rw [eq_of_beq hspace]; exact written_escapedSpace h
  · rw [eq_of_beq hsharp]; exact .pair rfl rfl rfl rfl rfl h
  · exact written_escapeChar h c

end Written

/-- The characters of a value after the first one. -/
theorem written_escapeRest (cs : List Char) : escaping.Written cs (escapeRest cs) := by
  induction cs using escapeRest.induct with
  | case1 => exact .nil
  | case2 c hspace =>
    rw [escapeRest, if_pos hspace, eq_of_beq hspace]
    exact written_escapedSpace .nil
  | case3 c hspace =>
    rw [escapeRest, if_neg hspace, ← List.append_nil (escapeChar c)]
    exact written_escapeChar .nil c
  | case4 c d rest ih =>
    rw [escapeRest]
    exact written_escapeChar ih c

/-- An escaped value. -/
theorem written_escapeValue (value : String) : escaping.Written value.toList (escapeValue value).toList := by
  rw [toList_escapeValue]
  cases value.toList with
  | nil => exact .nil
  | cons c rest => exact written_escapeFirst (written_escapeRest rest) c

/-- An escaped value holds no syntax. -/
theorem filter_escapeValue (value : String) : (escapeValue value).toList.filter isRaw = [] :=
  (written_escapeValue value).filter_eq_nil (fun c hc => by simpa using (Bool.and_eq_true _ _).mp hc |>.1) rfl
    isRaw_of_isEscapeDigit

/-- **A value in a name** is read back as it was. -/
@[simp] theorem unescape?_escapeValue (value : String) : unescape? (escapeValue value) = some value :=
  (written_escapeValue value).unescape?

end Name

end DirectoryLogin
