import DirectoryLogin.Name.Escape
import DirectoryLogin.Template
import Mathlib.Algebra.Order.BigOperators.Group.List
import Mathlib.Algebra.Order.Ring.Nat
/-!
# Filled Templates

What a filled template keeps of the template, and what it tells of its arguments.

- `Template.slotTail?_eq_some_iff`: how the number of a slot is written, and how long it is.
- `Template.filter_fill`: where the arguments hold nothing of a kind, what there is of it is the template's own.
- `Template.fill_ne_fill`: another text in one slot gives another text, however often the slot occurs.
- `Template.compile_append`, `Template.fill_append`: texts that are put together are compiled and filled one by one.
- `Template.nameOf`: the name that a pattern gives a user.
-/

namespace DirectoryLogin

namespace Template

variable {t : Template} {arguments others : List (Option String)}

/-! ## §1 Slots -/

/-- A slot with an argument. -/
theorem fill_slot {n : Nat} {value : Option String} (h : arguments[n]? = some value) :
    Piece.fill arguments (.slot n) = (value.getD "").toList := by
  rw [Piece.fill, h]
  cases value <;> rfl

/-- What a slot that stays is made of. -/
theorem of_mem_slotText {n : Nat} {c : Char} (h : c ∈ slotText n) :
    c = openBrace ∨ c = closeBrace ∨ c.isDigit = true := by
  rw [slotText, List.cons_append, List.mem_cons, List.mem_append, List.mem_singleton] at h
  rcases h with h | h | h
  · exact .inl h
  · exact .inr (.inr (Nat.isDigit_of_mem_toDigits (by decide) (by decide) h))
  · exact .inr (.inl h)

/-- A slot that stays holds nothing of a kind that neither braces nor digits are of. -/
theorem filter_slotText {p : Char → Bool} (hopen : p openBrace = false) (hclose : p closeBrace = false)
    (hdigit : ∀ c, c.isDigit = true → p c = false) (n : Nat) : (slotText n).filter p = [] := by
  refine List.filter_eq_nil_iff.mpr fun c hc => Bool.not_eq_true _ ▸ ?_
  rcases of_mem_slotText hc with rfl | rfl | hc
  · exact hopen
  · exact hclose
  · exact hdigit c hc

/-- A template with a slot for a text that is not empty is not filled to nothing. -/
theorem fill_ne_empty {n : Nat} {value : String} (hslot : .slot n ∈ t.pieces) (h : arguments[n]? = some (some value))
    (hvalue : value ≠ "") : t.fill arguments ≠ "" := by
  intro hempty
  have hnil : t.pieces.flatMap (Piece.fill arguments) = [] := by rw [← toList_fill, hempty]; rfl
  have hpiece := List.flatMap_eq_nil_iff.mp hnil _ hslot
  rw [fill_slot h] at hpiece
  exact hvalue (String.toList_eq_nil_iff.mp hpiece)

/-! ## §2 Numerals -/

/-- The number of a slot as it is written: one digit or more, of any script. -/
def IsNumeral (digits : List Char) : Prop :=
  digits ≠ [] ∧ ∀ c ∈ digits, (Text.decimalDigit? c).isSome = true

instance (digits : List Char) : Decidable (IsNumeral digits) :=
  decidable_of_iff (digits ≠ [] ∧ digits.all (fun c => (Text.decimalDigit? c).isSome) = true)
    (and_congr_right' List.all_eq_true)

/-- The value of a numeral with one more digit. -/
def withDigit (value : Nat) (c : Char) : Nat :=
  10 * value + (Text.decimalDigit? c).getD 0

/-- The value of a numeral. -/
def numeralValue (digits : List Char) : Nat :=
  digits.foldl withDigit 0

/-- Digits are read to their end, and counted. -/
theorem slotTail?_digits {value count : Nat} {digits : List Char} (h : count ≠ 0 ∨ digits ≠ [])
    (hdigits : ∀ c ∈ digits, (Text.decimalDigit? c).isSome = true) (rest : List Char) :
    slotTail? value count (digits ++ closeBrace :: rest) =
      some (digits.foldl withDigit value, count + digits.length, rest) := by
  induction digits generalizing value count with
  | nil =>
    -- at the closing brace there has been a digit
    have hcount : count ≠ 0 := h.resolve_right (absurd rfl)
    have hbrace : Text.decimalDigit? closeBrace = none := rfl
    rw [List.nil_append, slotTail?, hbrace]
    exact if_pos (by simpa using hcount)
  | cons c digits ih =>
    obtain ⟨hc, hdigits⟩ := List.forall_mem_cons.mp hdigits
    obtain ⟨d, hd⟩ := Option.isSome_iff_exists.mp hc
    have hvalue : withDigit value c = 10 * value + d := by rw [withDigit, hd, Option.getD_some]
    have hlength : count + (c :: digits).length = count + 1 + digits.length := by rw [List.length_cons]; omega
    -- one more digit is counted, and its value put behind the others
    rw [List.cons_append, slotTail?, hd, List.foldl_cons, hvalue, hlength]
    exact ih (.inl (Nat.succ_ne_zero _)) hdigits

/-- Only digits are read, and the brace behind them. -/
theorem exists_of_slotTail? {value count n k : Nat} {cs rest : List Char}
    (h : slotTail? value count cs = some (n, k, rest)) :
    ∃ digits, (count ≠ 0 ∨ digits ≠ []) ∧ (∀ c ∈ digits, (Text.decimalDigit? c).isSome = true) ∧
      cs = digits ++ closeBrace :: rest := by
  induction cs generalizing value count with
  | nil => cases h
  | cons c cs ih =>
    rw [slotTail?] at h
    split at h
    · rename_i d hd
      obtain ⟨digits, -, hdigits, rfl⟩ := ih h
      exact ⟨c :: digits, .inr (List.cons_ne_nil _ _), List.forall_mem_cons.mpr ⟨hd ▸ rfl, hdigits⟩, rfl⟩
    · split at h
      · rename_i hclose
        cases h
        -- the brace closes a slot if a digit has been counted
        obtain ⟨hc, hsome⟩ := (Bool.and_eq_true _ _).mp hclose
        exact ⟨[], .inl (bne_iff_ne.mp hsome), fun _ hmem => absurd hmem List.not_mem_nil, eq_of_beq hc ▸ rfl⟩
      · cases h

/-- **The text of a slot** from its number on: a numeral, and the brace that ends it. -/
theorem slotTail?_eq_some_iff {n k : Nat} {cs rest : List Char} : slotTail? 0 0 cs = some (n, k, rest) ↔
    ∃ digits, IsNumeral digits ∧ cs = digits ++ closeBrace :: rest ∧ n = numeralValue digits ∧ k = digits.length := by
  have hread {digits : List Char} (hne : 0 ≠ 0 ∨ digits ≠ [])
      (hdigits : ∀ c ∈ digits, (Text.decimalDigit? c).isSome = true) :
      slotTail? 0 0 (digits ++ closeBrace :: rest) = some (numeralValue digits, digits.length, rest) := by
    rw [slotTail?_digits hne hdigits, Nat.zero_add, numeralValue]
  constructor
  · -- what was read are digits up to a brace, and reading them says which number they are
    intro h
    obtain ⟨digits, hne, hdigits, rfl⟩ := exists_of_slotTail? h
    rw [hread hne hdigits] at h
    cases h
    exact ⟨digits, ⟨hne.resolve_left (absurd rfl), hdigits⟩, rfl, rfl, rfl⟩
  · rintro ⟨digits, ⟨hne, hdigits⟩, rfl, rfl, rfl⟩
    exact hread (.inr hne) hdigits

/-! ## §3 What is the template's own -/

/-- The character that a part of a template stands for by itself. -/
def Piece.literal? : Piece → Option Char
  | .literal c => some c
  | .slot _ => none

/-- The text of a template without its slots. -/
def literals (t : Template) : List Char :=
  t.pieces.filterMap Piece.literal?

/-- **What the slots do not hold** is as in the template: the same characters in the same order. -/
theorem filter_fill {p : Char → Bool} (hslots : ∀ n, (Piece.fill arguments (.slot n)).filter p = []) :
    (t.fill arguments).toList.filter p = t.literals.filter p := by
  rw [toList_fill, literals]
  induction t.pieces with
  | nil => rfl
  | cons piece rest ih =>
    rw [List.flatMap_cons, List.filter_append, ih]
    cases piece with
    | slot n => rw [hslots n, List.nil_append]; rfl
    | literal c => rw [List.filterMap_cons_some (by rfl), ← List.singleton_append, List.filter_append]; rfl

/-- A compiled template is the text with its parts. -/
theorem compile_eq_ok_iff {pattern : String} {t : Template} :
    compile pattern = .ok t ↔ readPieces pattern.toList = .ok t.pieces ∧ t.pattern = pattern := by
  unfold compile
  split
  · rename_i pieces hpieces
    rw [hpieces]
    constructor
    · -- the pattern that was compiled is kept beside its pieces
      rintro ⟨⟩
      exact ⟨rfl, rfl⟩
    · rintro ⟨heq, rfl⟩
      cases heq
      rfl
  · rename_i fault hfault
    simp [hfault]

/-- Parts are read one by one. -/
theorem exists_of_map_cons_eq_ok {parts : Except Fault (List Piece)} {piece : Piece} {pieces : List Piece}
    (h : parts.map (piece :: ·) = .ok pieces) : ∃ tail, parts = .ok tail ∧ pieces = piece :: tail := by
  cases parts with
  | error fault => cases h
  | ok tail =>
    cases h
    exact ⟨tail, rfl, rfl⟩

section Compiled

variable {p : Char → Bool} (hopen : p openBrace = false) (hclose : p closeBrace = false)
  (hdigit : ∀ c, (Text.decimalDigit? c).isSome = true → p c = false)
include hopen hclose hdigit

/-- The text of a template has the same characters as its literals, but for the braces and digits of its slots. -/
theorem filter_literals_of_readPieces {cs : List Char} {pieces : List Piece} (h : readPieces cs = .ok pieces) :
    (pieces.filterMap Piece.literal?).filter p = cs.filter p := by
  fun_induction readPieces cs generalizing pieces with
  | case1 => cases h; rfl
  | case2 c rest hbrace n k after hslot _ ih =>
    obtain ⟨tail, htail, rfl⟩ := exists_of_map_cons_eq_ok h
    obtain ⟨digits, ⟨-, hdigits⟩, rfl, -, -⟩ := slotTail?_eq_some_iff.mp hslot
    -- a slot holds nothing of the kind, and nothing of a slot is a literal
    have hnone : digits.filter p = [] :=
      List.filter_eq_nil_iff.mpr fun d hd => by simp [hdigit d (hdigits d hd)]
    rw [eq_of_beq hbrace, List.filter_cons_of_neg (by simp [hopen]), List.filter_append, hnone,
      List.nil_append, List.filter_cons_of_neg (by simp [hclose]), ← ih htail]
    rfl
  | case3 => cases h
  | case4 => cases h
  | case5 => cases h
  | case6 c rest _ _ ih =>
    obtain ⟨tail, htail, rfl⟩ := exists_of_map_cons_eq_ok h
    rw [List.filterMap_cons_some (by rfl), List.filter_cons, List.filter_cons, ih htail]

/-- **The literals of a compiled template** are its text without the slots. -/
theorem filter_literals_of_compile {pattern : String} (h : compile pattern = .ok t) :
    t.literals.filter p = pattern.toList.filter p := by
  obtain ⟨hpieces, rfl⟩ := compile_eq_ok_iff.mp h
  exact filter_literals_of_readPieces hopen hclose hdigit hpieces

end Compiled

/-! ## §4 What a filled template tells -/

/-- Parts of the same lengths can be told apart in their concatenation. -/
theorem eq_of_flatMap_eq {α β : Type} {f g : α → List β} {l : List α} (h : l.flatMap f = l.flatMap g)
    (hlengths : ∀ x ∈ l, (f x).length = (g x).length) : ∀ x ∈ l, f x = g x := by
  induction l with
  | nil => exact fun _ hx => absurd hx List.not_mem_nil
  | cons y rest ih =>
    rw [List.flatMap_cons, List.flatMap_cons] at h
    obtain ⟨hfirst, hrest⟩ := List.append_inj h (hlengths y List.mem_cons_self)
    rintro x (_ | ⟨_, hx⟩)
    · exact hfirst
    · exact ih hrest (fun x hx => hlengths x (List.mem_cons_of_mem y hx)) x hx

section Slots

variable {n : Nat} (hslot : .slot n ∈ t.pieces)
  (hothers : ∀ piece, piece ≠ .slot n → Piece.fill arguments piece = Piece.fill others piece)
include hslot hothers

/-- A longer text in one slot gives a longer text. -/
theorem length_fill_lt
    (hlength : (Piece.fill arguments (.slot n)).length < (Piece.fill others (.slot n)).length) :
    (t.fill arguments).toList.length < (t.fill others).toList.length := by
  rw [toList_fill, toList_fill, List.length_flatMap, List.length_flatMap]
  refine List.sum_lt_sum _ _ (fun piece _ => ?_) ⟨_, hslot, hlength⟩
  by_cases hpiece : piece = .slot n
  · rw [hpiece]; exact hlength.le
  · rw [hothers piece hpiece]

/-- **Another text in one slot** gives another text. -/
theorem fill_ne_fill (hne : Piece.fill arguments (.slot n) ≠ Piece.fill others (.slot n)) :
    t.fill arguments ≠ t.fill others := by
  intro heq
  rcases lt_trichotomy (Piece.fill arguments (.slot n)).length (Piece.fill others (.slot n)).length with h | h | h
  · exact absurd (heq ▸ length_fill_lt hslot hothers h) (Nat.lt_irrefl _)
  · -- all parts have the same lengths, so they are equal one by one
    refine hne (eq_of_flatMap_eq ?_ (fun piece _ => ?_) _ hslot)
    · rw [← toList_fill, ← toList_fill, heq]
    · by_cases hpiece : piece = .slot n
      · rw [hpiece, h]
      · rw [hothers piece hpiece]
  · exact absurd (heq ▸ length_fill_lt hslot (fun piece hpiece => (hothers piece hpiece).symm) h) (Nat.lt_irrefl _)

end Slots

/-! ## §5 Concatenated templates -/

/-- A slot is read to its end, whatever follows it. -/
theorem slotTail?_append {value count n k : Nat} {cs rest : List Char}
    (h : slotTail? value count cs = some (n, k, rest)) (more : List Char) :
    slotTail? value count (cs ++ more) = some (n, k, rest ++ more) := by
  induction cs generalizing value count with
  | nil => cases h
  | cons c cs ih =>
    rw [slotTail?] at h
    rw [List.cons_append, slotTail?]
    split at h
    · -- a further digit: the rest of the slot is read with it
      rename_i d hd
      exact ih h
    · -- the closing brace ends the slot, whatever follows it
      split at h
      · rename_i hclose
        cases h
        exact if_pos hclose
      · cases h

/-- A slot, and what follows it. -/
theorem readPieces_slot {n k : Nat} {cs rest : List Char} (h : slotTail? 0 0 cs = some (n, k, rest)) :
    readPieces (openBrace :: cs) =
      if k ≤ Number.digitLimit then (readPieces rest).map (.slot n :: ·) else .error (.longNumber k) := by
  rw [readPieces, if_pos (beq_self_eq_true _)]
  split
  · rename_i hslot
    rw [h] at hslot
    cases hslot
    rfl
  · rename_i hslot
    rw [h] at hslot
    cases hslot

/-- A character that is no brace. -/
theorem readPieces_literal {c : Char} (hopen : c ≠ openBrace) (hclose : c ≠ closeBrace) (cs : List Char) :
    readPieces (c :: cs) = (readPieces cs).map (.literal c :: ·) := by
  rw [readPieces, if_neg (by simpa using hopen), if_neg (by simpa using hclose)]

/-- **The parts of two texts** are those of the one and of the other. -/
theorem readPieces_append {cs cs' : List Char} {pieces pieces' : List Piece} (h : readPieces cs = .ok pieces)
    (h' : readPieces cs' = .ok pieces') : readPieces (cs ++ cs') = .ok (pieces ++ pieces') := by
  fun_induction readPieces cs generalizing pieces with
  | case1 => cases h; exact h'
  | case2 c rest hbrace n k after hslot hk ih =>
    -- a slot is read alike with more text behind it
    obtain ⟨tail, htail, rfl⟩ := exists_of_map_cons_eq_ok h
    rw [eq_of_beq hbrace, List.cons_append, readPieces_slot (slotTail?_append hslot cs'), if_pos hk, ih htail]
    rfl
  | case3 => cases h
  | case4 => cases h
  | case5 => cases h
  | case6 c rest hopen hclose ih =>
    -- so is a literal character
    obtain ⟨tail, htail, rfl⟩ := exists_of_map_cons_eq_ok h
    rw [List.cons_append, readPieces_literal (by simpa using hopen) (by simpa using hclose), ih htail]
    rfl

/-- A text without braces has no slots. -/
theorem readPieces_of_no_brace {cs : List Char} (hopen : openBrace ∉ cs) (hclose : closeBrace ∉ cs) :
    readPieces cs = .ok (cs.map .literal) := by
  induction cs with
  | nil => rw [readPieces]; rfl
  | cons c cs ih =>
    rw [List.mem_cons, not_or] at hopen hclose
    rw [readPieces_literal (Ne.symm hopen.1) (Ne.symm hclose.1), ih hopen.2 hclose.2]
    rfl

/-- Two templates, one behind the other. -/
instance : Append Template where
  append t t' := ⟨t.pattern ++ t'.pattern, t.pieces ++ t'.pieces⟩

/-- A template without slots. -/
def ofText (text : String) : Template where
  pattern := text
  pieces := text.toList.map .literal

/-- **Concatenated texts** are compiled to both templates, one behind the other. -/
theorem compile_append {p p' : String} {t t' : Template} (h : compile p = .ok t) (h' : compile p' = .ok t') :
    compile (p ++ p') = .ok (t ++ t') := by
  obtain ⟨hpieces, rfl⟩ := compile_eq_ok_iff.mp h
  obtain ⟨hpieces', rfl⟩ := compile_eq_ok_iff.mp h'
  rw [compile_eq_ok_iff, String.toList_append]
  exact ⟨readPieces_append hpieces hpieces', rfl⟩

/-- **Concatenated templates** are filled one by one. -/
@[simp] theorem fill_append (t t' : Template) (arguments : List (Option String)) :
    (t ++ t').fill arguments = t.fill arguments ++ t'.fill arguments := by
  rw [← String.toList_inj, String.toList_append, toList_fill, toList_fill, toList_fill]
  exact List.flatMap_append

/-- A text without braces is a template without slots. -/
theorem compile_of_no_brace {text : String} (hopen : openBrace ∉ text.toList) (hclose : closeBrace ∉ text.toList) :
    compile text = .ok (ofText text) :=
  compile_eq_ok_iff.mpr ⟨readPieces_of_no_brace hopen hclose, rfl⟩

/-- A template without slots is filled to its text. -/
@[simp] theorem fill_ofText (text : String) (arguments : List (Option String)) :
    (ofText text).fill arguments = text := by
  have hfill : (text.toList.map Piece.literal).flatMap (Piece.fill arguments) = text.toList := by
    rw [List.flatMap_map]
    exact List.flatMap_singleton' _
  rw [← String.toList_inj, toList_fill]
  exact hfill

/-! ## §6 Patterns of names -/

/-- The name that a pattern gives a user. -/
def nameOf (t : Template) (username : String) : String :=
  t.fill [some (Name.escapeValue username)]

/-- What a pattern puts into a slot: the escaped user name into the first one, and the others stay. -/
theorem fill_nameOf (username : String) (n : Nat) :
    Piece.fill [some (Name.escapeValue username)] (.slot n) =
      if n = 0 then (Name.escapeValue username).toList else slotText n := by
  cases n <;> rfl

/-- The name that a pattern of two parts gives is put together from what the parts give. -/
@[simp] theorem nameOf_append (t t' : Template) (username : String) :
    (t ++ t').nameOf username = t.nameOf username ++ t'.nameOf username :=
  fill_append t t' _

end Template

end DirectoryLogin
