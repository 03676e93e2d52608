import DirectoryLogin.Proofs.Name.EscapedValues
import DirectoryLogin.Proofs.Templates
/-!
# The Normal Form of Names

Inside a name, a backslash stands before a special character or before two hexadecimal digits. In the normal form only
the second kind is left. A text may hold other backslashes too: before a character that is not special, or at the end.
These stay as they are.

- `Name.normalizeChars_eq_self_iff`: a text is in normal form just where nothing is left to rewrite.
- `Name.IsEscaped.unescapedBytes?_normalizeChars`: a text in normal form stands for what it stood for.
- `Name.normal_form_keeps_meaning`: what rewriting does to any text, to texts with complete escapes, and to the names of
  users.
-/

namespace DirectoryLogin

open Text (EscapesBy hexDigit?)

namespace Name

/-! ## §1 Special characters -/

/-- A special character is no hexadecimal digit. -/
theorem isSpecial_of_isHexDigit {c : Char} (h : isHexDigit c = true) : isSpecial c = false := by
  by_contra hspecial
  rw [Bool.not_eq_false] at hspecial
  simp only [isSpecial, isRaw, Bool.or_eq_true, Bool.and_eq_true, beq_iff_eq, or_assoc] at hspecial
  obtain ⟨rfl | rfl | rfl | rfl | rfl | rfl | rfl, -⟩ | rfl | rfl | rfl | rfl := hspecial <;> cases h

/-- The escape of a special character: two digits that stand for its byte. -/
theorem exists_hexEscape {c : Char} (h : isSpecial c = true) :
    ∃ d d' high low, hexEscape c = ['\\', d, d'] ∧ isEscapeDigit d = true ∧ isEscapeDigit d' = true ∧
      hexDigit? d = some high ∧ hexDigit? d' = some low ∧
      Text.utf8Char c = [UInt8.ofNat (16 * high + low)] := by
  simp only [isSpecial, isRaw, Bool.or_eq_true, Bool.and_eq_true, beq_iff_eq, or_assoc] at h
  obtain ⟨rfl | rfl | rfl | rfl | rfl | rfl | rfl, hnul⟩ | rfl | rfl | rfl | rfl := h
  case inl.inr.inr.inr.inr.inr.inr => cases hnul
  all_goals exact ⟨_, _, _, _, rfl, rfl, rfl, rfl, rfl, rfl⟩

/-- A character that is not special stays behind its backslash. -/
theorem hexEscape_of_not_special {c : Char} (h : isSpecial c = false) : hexEscape c = ['\\', c] := by
  have hne {x : Char} (hx : isSpecial x = true) : ¬(c == x) = true := by
    intro heq
    rw [eq_of_beq heq, hx] at h
    cases h
  unfold hexEscape
  repeat rw [if_neg (hne rfl)]

/-! ## §2 The normal form -/

/-- A text of which no backslash stands before a special character. -/
inductive IsNormal : List Char → Prop
  | nil : IsNormal []
  /-- A backslash at the very end. -/
  | lone : IsNormal ['\\']
  | literal {c : Char} {text : List Char} (hc : c ≠ '\\') (hrest : IsNormal text) : IsNormal (c :: text)
  | escape {c : Char} {text : List Char} (hc : isSpecial c = false) (hrest : IsNormal text) :
      IsNormal ('\\' :: c :: text)

/-- A character that is not a backslash stays. -/
theorem normalizeChars_literal {c : Char} (hc : c ≠ '\\') (text : List Char) :
    normalizeChars (c :: text) = c :: normalizeChars text := by
  rw [normalizeChars]
  · exact fun h _ => hc h
  · exact fun _ _ h _ => hc h

/-- **Rewriting** leaves nothing to rewrite. -/
theorem isNormal_normalizeChars (cs : List Char) : IsNormal (normalizeChars cs) := by
  induction cs using normalizeChars.induct with
  | case1 => exact .nil
  | case2 => exact .lone
  | case3 c rest ih =>
    rw [normalizeChars]
    cases hc : isSpecial c with
    | true =>
      -- a special character is written as two digits, which stand for themselves
      obtain ⟨d, d', _, _, hescape, hd, hd', -⟩ := exists_hexEscape hc
      rw [hescape]
      exact .escape (isSpecial_of_isEscapeDigit d hd) (.literal (by rintro rfl; cases hd') ih)
    | false =>
      -- any other escaped character stays escaped
      rw [hexEscape_of_not_special hc]
      exact .escape hc ih
  | case4 c rest hlone hescape ih =>
    -- a backslash here would have been one of the cases before
    have hc : c ≠ '\\' := by
      rintro rfl
      cases rest with
      | nil => exact hlone rfl rfl
      | cons d rest => exact hescape d rest rfl rfl
    rw [normalizeChars_literal hc]
    exact .literal hc ih

/-- What is in normal form stays. -/
theorem IsNormal.normalizeChars_eq {cs : List Char} (h : IsNormal cs) : normalizeChars cs = cs := by
  induction h with
  | nil => rfl
  | lone => rfl
  | literal hc _ ih => rw [normalizeChars_literal hc, ih]
  | escape hc _ ih => rw [normalizeChars, ih, hexEscape_of_not_special hc]; rfl

/-- **The texts that stay** are those in normal form. -/
theorem normalizeChars_eq_self_iff (cs : List Char) : normalizeChars cs = cs ↔ IsNormal cs :=
  ⟨fun h => h ▸ isNormal_normalizeChars cs, IsNormal.normalizeChars_eq⟩

/-- A text with digits behind every backslash is in normal form. -/
theorem isNormal_of_escapesBy {cs : List Char} (h : EscapesBy isHexDigit cs) : IsNormal cs := by
  refine h.induction .nil (fun _ _ hc ih => .literal hc ih) fun c d text hc hd ih => ?_
  have hne : d ≠ '\\' := by rintro rfl; cases hd
  exact .escape (isSpecial_of_isHexDigit hc) (.literal hne ih)

/-! ## §3 What a text stands for -/

/-- A text in which every backslash begins an escape: it stands before a special character, or before two hexadecimal
digits. -/
inductive IsEscaped : List Char → Prop
  | nil : IsEscaped []
  | literal {c : Char} {text : List Char} (hc : c ≠ '\\') (hrest : IsEscaped text) : IsEscaped (c :: text)
  | special {c : Char} {text : List Char} (hc : isSpecial c = true) (hrest : IsEscaped text) :
      IsEscaped ('\\' :: c :: text)
  | pair {c d : Char} {text : List Char} (hc : isHexDigit c = true) (hd : isHexDigit d = true)
      (hrest : IsEscaped text) : IsEscaped ('\\' :: c :: d :: text)

namespace IsEscaped

variable {text : List Char} (h : IsEscaped text)
include h

/-- A text with complete escapes stands for something. -/
theorem isSome_unescapedBytes? : (Text.unescapedBytes? isSpecial text).isSome = true := by
  induction h with
  | nil => rfl
  | literal hc _ ih => rwa [Text.unescapedBytes?_literal _ hc, Option.isSome_map]
  | special hc _ ih => rwa [Text.unescapedBytes?_special _ hc, Option.isSome_map]
  | pair hc hd _ ih =>
    obtain ⟨_, hhigh⟩ := Option.isSome_iff_exists.mp hc
    obtain ⟨_, hlow⟩ := Option.isSome_iff_exists.mp hd
    rwa [Text.unescapedBytes?_pair _ (isSpecial_of_isHexDigit hc) hhigh hlow, Option.isSome_map]

/-- **The meaning stays**: in normal form, a text with complete escapes stands for the same bytes. -/
theorem unescapedBytes?_normalizeChars :
    Text.unescapedBytes? isSpecial (normalizeChars text) = Text.unescapedBytes? isSpecial text := by
  induction h with
  | nil => rfl
  | literal hc _ ih =>
    -- a literal character is not touched
    rw [normalizeChars_literal hc, Text.unescapedBytes?_literal _ hc, Text.unescapedBytes?_literal _ hc, ih]
  | special hc _ ih =>
    -- an escaped special character becomes the two digits of its code
    obtain ⟨d, d', high, low, hescape, hd, -, hhigh, hlow, hbyte⟩ := exists_hexEscape hc
    rw [normalizeChars, hescape, Text.unescapedBytes?_special _ hc, hbyte, ← ih]
    exact Text.unescapedBytes?_pair _ (isSpecial_of_isEscapeDigit d hd) hhigh hlow
  | @pair c d _ hc hd _ ih =>
    -- two digits behind a backslash stand for the same byte as before
    obtain ⟨_, hhigh⟩ := Option.isSome_iff_exists.mp hc
    obtain ⟨_, hlow⟩ := Option.isSome_iff_exists.mp hd
    have hspecial := isSpecial_of_isHexDigit hc
    have hne : d ≠ '\\' := by rintro rfl; cases hd
    rw [normalizeChars, hexEscape_of_not_special hspecial, normalizeChars_literal hne]
    rw [Text.unescapedBytes?_pair _ hspecial hhigh hlow, ← ih]
    exact Text.unescapedBytes?_pair _ hspecial hhigh hlow

/-- **Only digits are left** behind the backslashes of a text with complete escapes. -/
theorem escapesBy_normalizeChars : EscapesBy isHexDigit (normalizeChars text) := by
  induction h with
  | nil => exact .nil
  | literal hc _ ih =>
    rw [normalizeChars_literal hc]
    exact .literal hc ih
  | special hc _ ih =>
    -- a special character becomes an escape
    obtain ⟨d, d', _, _, hescape, hd, hd', -⟩ := exists_hexEscape hc
    rw [normalizeChars, hescape]
    exact .pair rfl (isHexDigit_of_isEscapeDigit hd) (isHexDigit_of_isEscapeDigit hd') ih
  | @pair c d _ hc hd _ ih =>
    -- an escape stays, since its digits are not special
    have hne : d ≠ '\\' := by rintro rfl; cases hd
    rw [normalizeChars, hexEscape_of_not_special (isSpecial_of_isHexDigit hc), normalizeChars_literal hne]
    exact .pair rfl hc hd ih

end IsEscaped

/-! ## §4 Names of users -/

/-- An escaped value has digits behind its backslashes. -/
theorem escapesBy_escapeValue (value : String) : EscapesBy isHexDigit (escapeValue value).toList :=
  (written_escapeValue value).escapesBy.mono fun _ => isHexDigit_of_isEscapeDigit

end Name

namespace Template

/-- Every backslash in a pattern stands before two digits of the pattern. -/
def EscapesBy (digit : Char → Bool) (pieces : List Piece) : Prop :=
  ∀ rest, .literal '\\' :: rest <:+ pieces →
    ∃ c d tail, rest = .literal c :: .literal d :: tail ∧ digit c = true ∧ digit d = true

theorem EscapesBy.tail {digit : Char → Bool} {piece : Piece} {pieces : List Piece}
    (h : EscapesBy digit (piece :: pieces)) : EscapesBy digit pieces :=
  fun rest hrest => h rest (hrest.trans (List.suffix_cons piece pieces))

/-- A pattern is filled to a text with digits behind every backslash, if what is put into its slots is such a text. -/
theorem EscapesBy.fill {digit : Char → Bool} {arguments : List (Option String)} {pieces : List Piece}
    (h : EscapesBy digit pieces) (hslots : ∀ n, Text.EscapesBy digit (Piece.fill arguments (.slot n))) :
    Text.EscapesBy digit (pieces.flatMap (Piece.fill arguments)) := by
  induction pieces with
  | nil => exact .nil
  | cons piece rest ih =>
    have hrest := ih h.tail
    cases piece with
    | slot n => exact .append (hslots n) hrest
    | literal c =>
      by_cases hc : c = '\\'
      · -- the digits behind the backslash are the pattern's own, so no slot comes between
        subst hc
        obtain ⟨d, d', tail, rfl, hd, hd'⟩ := h rest List.suffix_rfl
        exact .backslash hd hd' hrest
      · exact .literal hc hrest

/-- What is put into the slots of a pattern has digits behind its backslashes. -/
theorem escapesBy_fill_nameOf (username : String) (n : Nat) :
    Text.EscapesBy Name.isHexDigit (Piece.fill [some (Name.escapeValue username)] (.slot n)) := by
  rw [fill_nameOf]
  split
  · exact Name.escapesBy_escapeValue username
  · apply Text.EscapesBy.of_not_mem
    intro hmem
    rcases of_mem_slotText hmem with h | h | h <;> cases h

end Template

namespace Name

/-! ## §5 The theorem -/

/-- A text with digits behind every backslash stays. -/
theorem normalizeEscapes_of_escapesBy {s : String} (h : EscapesBy isHexDigit s.toList) : normalizeEscapes s = s := by
  rw [normalizeEscapes, (isNormal_of_escapesBy h).normalizeChars_eq, String.ofList_toList]

/-- **The normal form of names.** Rewriting a text that has been rewritten changes nothing. Where every backslash of a
text begins an escape, before a special character or before two digits, the text in normal form stands for the same
value, and two digits are behind every backslash that is left. An escaped value is in normal form. So is the name that
a pattern gives a user, if the pattern has two digits behind its own backslashes. -/
theorem normal_form_keeps_meaning :
    (∀ s, normalizeEscapes (normalizeEscapes s) = normalizeEscapes s) ∧
    (∀ s, IsEscaped s.toList →
      (∃ value, unescape? s = some value ∧ unescape? (normalizeEscapes s) = some value) ∧
      EscapesBy isHexDigit (normalizeEscapes s).toList) ∧
    (∀ value, normalizeEscapes (escapeValue value) = escapeValue value) ∧
    ∀ (t : Template) (username : String), Template.EscapesBy isHexDigit t.pieces →
      normalizeEscapes (t.nameOf username) = t.nameOf username := by
  refine ⟨fun s => ?_, fun s hs => ⟨?_, ?_⟩, fun value => ?_, fun t username ht => ?_⟩
  · -- rewriting once leaves nothing to rewrite
    have hnormal := isNormal_normalizeChars s.toList
    rw [normalizeEscapes, toList_normalizeEscapes, hnormal.normalizeChars_eq, normalizeEscapes]
  · -- before and after, the escapes stand for the same bytes, and so for the same value
    obtain ⟨bytes, hbytes⟩ := Option.isSome_iff_exists.mp hs.isSome_unescapedBytes?
    have hnormal := hs.unescapedBytes?_normalizeChars
    rw [hbytes, ← toList_normalizeEscapes] at hnormal
    refine ⟨Text.decodeUtf8 bytes, ?_, ?_⟩
    · show (Text.unescapedBytes? isSpecial s.toList).map Text.decodeUtf8 = some (Text.decodeUtf8 bytes)
      rw [hbytes, Option.map_some]
    · show (Text.unescapedBytes? isSpecial (normalizeEscapes s).toList).map Text.decodeUtf8 =
        some (Text.decodeUtf8 bytes)
      rw [hnormal, Option.map_some]
  · -- every backslash has its two digits now
    rw [toList_normalizeEscapes]
    exact hs.escapesBy_normalizeChars
  · -- the values that are put into names have such escapes from the start
    exact normalizeEscapes_of_escapesBy (escapesBy_escapeValue value)
  · -- and if the pattern has them too, so does the name it gives
    apply normalizeEscapes_of_escapesBy
    rw [Template.nameOf, Template.toList_fill]
    exact ht.fill (Template.escapesBy_fill_nameOf username)

/-- A comma behind a backslash and one as two digits are the same, and the second form is the normal one. -/
theorem normal_form_of_two_commas :
    IsEscaped "o\\,\\2c".toList ∧ normalizeEscapes "o\\,\\2c" = "o\\2C\\2c" ∧
      unescape? "o\\2C\\2c" = some "o,," ∧ unescape? "o\\,\\2c" = some "o,," := by
  have hescaped : IsEscaped "o\\,\\2c".toList := .literal (by decide) (.special rfl (.pair rfl rfl .nil))
  have hnormal : normalizeEscapes "o\\,\\2c" = "o\\2C\\2c" := by decide +kernel
  obtain ⟨⟨value, hvalue, hsame⟩, -⟩ := normal_form_keeps_meaning.2.1 "o\\,\\2c" hescaped
  rw [hnormal] at hsame
  have hread : unescape? "o\\2C\\2c" = some "o,," := by decide +kernel
  exact ⟨hescaped, hnormal, hread, hvalue.trans (hsame.symm.trans hread)⟩

end Name

end DirectoryLogin
