import DirectoryLogin.Proofs.Templates
/-!
# Simultaneous Substitution

The slots of a template are found in its text once, before there are arguments. So an argument that looks like a slot
is text like any other.

- `Template.withoutSlots`, `Template.numerals`: a text with its slots deleted, and the numbers of these slots.
- `Template.readPieces_cases`: a text is a template if no brace is left then and no number is too long.
- `Template.fill_eq_of_take_eq`: which arguments a template has slots for.
- `Template.slots_filled_at_once`: what templates are filled to, from brace-free texts and slots upwards.
-/

namespace DirectoryLogin

namespace Template

variable {t : Template} {arguments others : List (Option String)} {n : Nat}
  {c : Char} {cs rest after digits : List Char}

/-! ## §1 Deleted slots -/

/-- A text without braces. -/
def HasNoBrace (cs : List Char) : Prop :=
  openBrace ∉ cs ∧ closeBrace ∉ cs

instance (cs : List Char) : Decidable (HasNoBrace cs) :=
  inferInstanceAs (Decidable (_ ∧ _))

/-- A slot as it is written. -/
def slotOf (digits : List Char) : String :=
  String.ofList (openBrace :: digits ++ [closeBrace])

/-- The numeral of the slot that a text begins with, and what is behind the slot. -/
def slotInFront? : List Char → Option (List Char × List Char)
  | [] => none
  | c :: rest =>
    let digits := rest.takeWhile fun c => (Text.decimalDigit? c).isSome
    let behind := rest.dropWhile fun c => (Text.decimalDigit? c).isSome
    if c = openBrace ∧ digits ≠ [] ∧ behind.head? = some closeBrace then some (digits, behind.tail) else none

/-- A slot is a numeral between braces. -/
theorem slotInFront?_eq_some_iff :
    slotInFront? cs = some (digits, after) ↔ IsNumeral digits ∧ cs = openBrace :: digits ++ closeBrace :: after := by
  constructor
  · -- what is taken for a slot is a brace, some digits and a brace
    intro h
    cases cs with
    | nil => cases h
    | cons c rest =>
      rw [slotInFront?] at h
      split at h
      · rename_i hslot
        obtain ⟨rfl, hne, hclose⟩ := hslot
        cases h
        refine ⟨⟨hne, List.all_eq_true.mp List.all_takeWhile⟩, ?_⟩
        rw [List.cons_append, ← List.eq_cons_of_mem_head? hclose, List.takeWhile_append_dropWhile]
      · cases h
  · -- the digits are taken up to the closing brace, which is none
    rintro ⟨⟨hne, hdigits⟩, rfl⟩
    have htake : (closeBrace :: after).takeWhile (fun c => (Text.decimalDigit? c).isSome) = [] := rfl
    have hdrop : (closeBrace :: after).dropWhile (fun c => (Text.decimalDigit? c).isSome) = closeBrace :: after := rfl
    rw [List.cons_append, slotInFront?, List.takeWhile_append_of_pos hdigits, List.dropWhile_append_of_pos hdigits,
      htake, hdrop, List.append_nil]
    exact if_pos ⟨rfl, hne, rfl⟩

theorem length_of_slotInFront? (h : slotInFront? cs = some (digits, after)) : after.length < cs.length := by
  obtain ⟨-, rfl⟩ := slotInFront?_eq_some_iff.mp h
  simp only [List.length_append, List.length_cons]
  omega

/-- A text as it is cut, from left to right: each slot, by its numeral, and each character that is not of a slot. -/
def segments : List Char → List (List Char ⊕ Char)
  | [] => []
  | c :: rest =>
    match _h : slotInFront? (c :: rest) with
    | some (digits, after) => .inl digits :: segments after
    | none => .inr c :: segments rest
termination_by cs => cs.length
decreasing_by
  · exact length_of_slotInFront? _h
  · exact Nat.lt_succ_self _

/-- A text without its slots: each one is deleted, and nothing else. -/
def withoutSlots (cs : List Char) : List Char :=
  (segments cs).filterMap Sum.getRight?

/-- The numerals of the slots of a text. -/
def numerals (cs : List Char) : List (List Char) :=
  (segments cs).filterMap Sum.getLeft?

theorem segments_of_some (h : slotInFront? cs = some (digits, after)) :
    segments cs = .inl digits :: segments after := by
  cases cs with
  | nil => cases h
  | cons c rest =>
    rw [segments]
    split
    · rename_i hslot
      cases h.symm.trans hslot
      rfl
    · rename_i hslot
      cases h.symm.trans hslot

theorem segments_of_none (h : slotInFront? (c :: rest) = none) : segments (c :: rest) = .inr c :: segments rest := by
  rw [segments]
  split
  · rename_i hslot
    cases h.symm.trans hslot
  · rfl

/-- Compiling a text finds the same slots. -/
theorem slotTail?_of_slotInFront? (h : slotInFront? (openBrace :: rest) = some (digits, after)) :
    slotTail? 0 0 rest = some (numeralValue digits, digits.length, after) := by
  obtain ⟨hdigits, heq⟩ := slotInFront?_eq_some_iff.mp h
  exact slotTail?_eq_some_iff.mpr ⟨digits, hdigits, List.tail_eq_of_cons_eq heq, rfl, rfl⟩

theorem slotInFront?_of_slotTail? {k : Nat} (h : slotTail? 0 0 rest = some (n, k, after)) :
    ∃ digits, slotInFront? (openBrace :: rest) = some (digits, after) ∧ k = digits.length := by
  obtain ⟨digits, hdigits, rfl, -, hk⟩ := slotTail?_eq_some_iff.mp h
  exact ⟨digits, slotInFront?_eq_some_iff.mpr ⟨hdigits, rfl⟩, hk⟩

theorem slotInFront?_of_slotTail?_eq_none (h : slotTail? 0 0 rest = none) :
    slotInFront? (openBrace :: rest) = none := by
  rw [Option.eq_none_iff_forall_ne_some]
  rintro ⟨digits, after⟩ hslot
  cases h.symm.trans (slotTail?_of_slotInFront? hslot)

theorem slotInFront?_of_ne (h : c ≠ openBrace) : slotInFront? (c :: rest) = none := by
  rw [slotInFront?, if_neg fun hslot => h hslot.1]

/-- A numeral is short enough to be read. -/
def IsShort (digits : List Char) : Prop :=
  digits.length ≤ Number.digitLimit

instance (digits : List Char) : Decidable (IsShort digits) :=
  inferInstanceAs (Decidable (_ ≤ _))

/-- What is wrong with one segment of a text. -/
def segmentFault? : List Char ⊕ Char → Option Fault
  | .inl digits => if IsShort digits then none else some (.longNumber digits.length)
  | .inr c => if c = openBrace ∨ c = closeBrace then some .strayBrace else none

theorem map_cons_eq_error_iff {parts : Except Fault (List Piece)} {piece : Piece} {fault : Fault} :
    parts.map (piece :: ·) = .error fault ↔ parts = .error fault := by
  cases parts <;> simp [Except.map]

/-- **The first fault** of a text from the left is the one that is found. -/
theorem readPieces_eq_error_iff {fault : Fault} :
    readPieces cs = .error fault ↔ (segments cs).findSome? segmentFault? = some fault := by
  fun_induction readPieces cs with
  | case1 => simp [segments]
  | case2 c rest hopen n k after hslot hk ih =>
    obtain rfl := eq_of_beq hopen
    obtain ⟨digits, hfront, rfl⟩ := slotInFront?_of_slotTail? hslot
    have hnone : segmentFault? (.inl digits) = none := if_pos hk
    -- a slot with a short numeral is no fault, and the rest is read as before
    rw [map_cons_eq_error_iff, ih, segments_of_some hfront, List.findSome?_cons_of_isNone (by rw [hnone]; rfl)]
  | case3 c rest hopen n k after hslot hk =>
    obtain rfl := eq_of_beq hopen
    obtain ⟨digits, hfront, rfl⟩ := slotInFront?_of_slotTail? hslot
    have hlong : segmentFault? (.inl digits) = some (.longNumber digits.length) := if_neg hk
    -- one with a long numeral is the first fault
    rw [segments_of_some hfront, List.findSome?_cons, hlong]
    simp
  | case4 c rest hopen hslot =>
    obtain rfl := eq_of_beq hopen
    have hstray : segmentFault? (.inr openBrace) = some .strayBrace := rfl
    -- an opening brace without a slot is one too, and so is a closing brace
    rw [segments_of_none (slotInFront?_of_slotTail?_eq_none hslot), List.findSome?_cons, hstray]
    simp
  | case5 c rest hopen hclose =>
    obtain rfl := eq_of_beq hclose
    have hstray : segmentFault? (.inr closeBrace) = some .strayBrace := rfl
    rw [segments_of_none (slotInFront?_of_ne (by simpa using hopen)), List.findSome?_cons, hstray]
    simp
  | case6 c rest hopen hclose ih =>
    have hopen : c ≠ openBrace := by simpa using hopen
    have hclose : c ≠ closeBrace := by simpa using hclose
    have hnone : segmentFault? (.inr c) = none := if_neg (not_or.mpr ⟨hopen, hclose⟩)
    -- any other character is read as it is
    rw [map_cons_eq_error_iff, ih, segments_of_none (slotInFront?_of_ne hopen),
      List.findSome?_cons_of_isNone (by rw [hnone]; rfl)]

theorem hasNoBrace_withoutSlots_iff :
    HasNoBrace (withoutSlots cs) ↔ ∀ c, .inr c ∈ segments cs → segmentFault? (.inr c) = none := by
  have hmem (c : Char) : c ∈ withoutSlots cs ↔ .inr c ∈ segments cs := by simp [withoutSlots]
  simp only [HasNoBrace, hmem, segmentFault?, ite_eq_right_iff, reduceCtorEq, imp_false]
  grind

theorem forall_isShort_iff :
    (∀ digits ∈ numerals cs, IsShort digits) ↔
      ∀ digits, .inl digits ∈ segments cs → segmentFault? (.inl digits) = none := by
  have hmem (digits : List Char) : digits ∈ numerals cs ↔ .inl digits ∈ segments cs := by simp [numerals]
  simp only [hmem, segmentFault?, ite_eq_left_iff, reduceCtorEq, imp_false, not_not]

/-- **A text is a template** exactly if no brace is left when its slots are deleted, and their numerals are short. -/
theorem exists_compile_iff {pattern : String} : (∃ t, compile pattern = .ok t) ↔
    HasNoBrace (withoutSlots pattern.toList) ∧ ∀ digits ∈ numerals pattern.toList, IsShort digits := by
  rw [hasNoBrace_withoutSlots_iff, forall_isShort_iff]
  -- a text is refused just if one of its segments is at fault
  have hnone : (∃ t, compile pattern = .ok t) ↔ (segments pattern.toList).findSome? segmentFault? = none := by
    rw [Option.eq_none_iff_forall_ne_some]
    constructor
    · rintro ⟨t, h⟩ fault hfault
      have hpieces := (compile_eq_ok_iff.mp h).1
      rw [readPieces_eq_error_iff.mpr hfault] at hpieces
      cases hpieces
    · intro h
      rcases hread : readPieces pattern.toList with fault | pieces
      · exact absurd (readPieces_eq_error_iff.mp hread) (h fault)
      · exact ⟨⟨pattern, pieces⟩, compile_eq_ok_iff.mpr ⟨hread, rfl⟩⟩
  rw [hnone, List.findSome?_eq_none_iff]
  constructor
  · exact fun h => ⟨fun c => h _, fun digits => h _⟩
  · -- a segment is a numeral or a character
    rintro ⟨hchars, hnumerals⟩ (digits | c) hmem
    · exact hnumerals digits hmem
    · exact hchars c hmem

/-- **A text without a stray brace** is refused for one of its numerals only, and as a value. -/
theorem exists_of_compile_eq_error {pattern : String} {e : Failure} (hbraces : HasNoBrace (withoutSlots pattern.toList))
    (h : compile pattern = .error e) : ∃ digits ∈ numerals pattern.toList, ¬ IsShort digits ∧
      e = .defect .longSlot (Number.limitText digits.length) := by
  unfold compile at h
  split at h
  · cases h
  · rename_i fault hread
    cases h
    -- the first segment at fault is a numeral, since no brace is left
    obtain ⟨segment, hmem, hfault⟩ := List.exists_of_findSome?_eq_some (readPieces_eq_error_iff.mp hread)
    rcases segment with digits | c
    · rw [segmentFault?] at hfault
      split at hfault
      · cases hfault
      · rename_i hlong
        cases hfault
        exact ⟨digits, by simpa [numerals] using hmem, hlong, rfl⟩
    · rw [hasNoBrace_withoutSlots_iff.mp hbraces c hmem] at hfault
      cases hfault

/-! ## §2 Filled slots -/

/-- The template of a single slot. -/
theorem compile_slotOf (h : IsNumeral digits) (hshort : IsShort digits) :
    compile (slotOf digits) = .ok ⟨slotOf digits, [.slot (numeralValue digits)]⟩ := by
  have hslot : slotTail? 0 0 (digits ++ [closeBrace]) = some (numeralValue digits, digits.length, []) :=
    slotTail?_eq_some_iff.mpr ⟨digits, h, rfl, rfl, rfl⟩
  have hread : readPieces (openBrace :: (digits ++ [closeBrace])) = .ok [.slot (numeralValue digits)] := by
    rw [readPieces_slot hslot, readPieces]
    exact if_pos hshort
  rw [compile_eq_ok_iff, slotOf, String.toList_ofList]
  exact ⟨hread, rfl⟩

/-- A single slot with too long a numeral is no template, though nothing is left of it without the slot. -/
theorem slotOf_refused (h : IsNumeral digits) (hlong : ¬ IsShort digits) :
    HasNoBrace (withoutSlots (slotOf digits).toList) ∧ ¬ ∃ t, compile (slotOf digits) = .ok t := by
  have hsegments : segments (slotOf digits).toList = [.inl digits] := by
    have hfront : slotInFront? (slotOf digits).toList = some (digits, []) :=
      slotInFront?_eq_some_iff.mpr ⟨h, String.toList_ofList⟩
    rw [segments_of_some hfront, segments]
  constructor
  · rw [withoutSlots, hsegments]
    exact ⟨List.not_mem_nil, List.not_mem_nil⟩
  · intro hcompile
    refine hlong ((exists_compile_iff.mp hcompile).2 digits ?_)
    rw [numerals, hsegments]
    exact List.mem_singleton_self digits

theorem fill_single (pattern : String) (n : Nat) (arguments : List (Option String)) :
    (Template.mk pattern [.slot n]).fill arguments = String.ofList (Piece.fill arguments (.slot n)) := by
  rw [fill, List.flatMap_singleton]

/-- There are more arguments than the number of any slot. -/
theorem lt_argumentCount (h : .slot n ∈ t.pieces) : n < t.argumentCount := by
  have hreach : n + 1 ∈ t.pieces.map Piece.reach := List.mem_map_of_mem h
  rw [argumentCount, List.foldl_max_eq_max (List.ne_nil_of_mem hreach)]
  exact (List.le_max_of_mem hreach).trans (Nat.le_max_right _ _)

/-- **Arguments without a slot** are not put in. -/
theorem fill_eq_of_take_eq (h : arguments.take t.argumentCount = others.take t.argumentCount) :
    t.fill arguments = t.fill others := by
  have hpieces : ∀ piece ∈ t.pieces, Piece.fill arguments piece = Piece.fill others piece := by
    intro piece hpiece
    cases piece with
    | literal c => rfl
    | slot n =>
      have hn := lt_argumentCount hpiece
      have hargument : arguments[n]? = others[n]? := by
        rw [← List.getElem?_take_of_lt hn, h, List.getElem?_take_of_lt hn]
      rw [Piece.fill, Piece.fill, hargument]
  rw [fill, fill, List.flatMap_congr hpieces]

/-! ## §3 Filling at once -/

/-- **All slots are filled at once.** A text is a template exactly if no brace is left when its slots are deleted, and
no numeral of a slot is too long to be read; if there is no brace left, one of these numerals is all that it can be
refused for, and then it is refused as a value. A text without any brace is filled to itself. A single slot, whatever
the script and the leading zeros of its numeral, is filled to its argument, which is nothing if it is absent, and
without an argument it stays as a slot with its number in decimal. A template is filled alike with any arguments that
agree as far as it has slots. Two templates, one behind the other, are a template, and it is filled to what both are
filled to. So a slot between two templates is filled to its argument, between what these are filled to, even if the
argument looks like a slot itself. -/
theorem slots_filled_at_once (p : String) :
    ((∃ t, compile p = .ok t) ↔
      HasNoBrace (withoutSlots p.toList) ∧ ∀ digits ∈ numerals p.toList, IsShort digits) ∧
    (HasNoBrace (withoutSlots p.toList) → ∀ e, compile p = .error e →
      ∃ digits ∈ numerals p.toList, ¬ IsShort digits ∧ e = .defect .longSlot (Number.limitText digits.length)) ∧
    (HasNoBrace p.toList → ∃ t, compile p = .ok t ∧ ∀ arguments, t.fill arguments = p) ∧
    (∀ digits, IsNumeral digits → IsShort digits → ∃ t, compile (slotOf digits) = .ok t ∧ ∀ arguments,
      (∀ value, arguments[numeralValue digits]? = some value → t.fill arguments = value.getD "") ∧
      (arguments.length ≤ numeralValue digits →
        t.fill arguments = slotOf (Nat.toDigits 10 (numeralValue digits)))) ∧
    ∀ t, compile p = .ok t →
      (∀ arguments others, arguments.take t.argumentCount = others.take t.argumentCount →
        t.fill arguments = t.fill others) ∧
      ∀ q t', compile q = .ok t' →
        (∃ both, compile (p ++ q) = .ok both ∧
          ∀ arguments, both.fill arguments = t.fill arguments ++ t'.fill arguments) ∧
        ∀ digits, IsNumeral digits → IsShort digits → ∃ all, compile (p ++ slotOf digits ++ q) = .ok all ∧
          ∀ arguments value, arguments[numeralValue digits]? = some value →
            all.fill arguments = t.fill arguments ++ value.getD "" ++ t'.fill arguments := by
  have hfilled : ∀ digits arguments value, arguments[numeralValue digits]? = some value →
      (Template.mk (slotOf digits) [.slot (numeralValue digits)]).fill arguments = value.getD "" := by
    intro digits arguments value hvalue
    rw [fill_single, fill_slot hvalue, String.ofList_toList]
  refine ⟨exists_compile_iff, fun hbraces _ => exists_of_compile_eq_error hbraces,
    fun h => ⟨_, compile_of_no_brace h.1 h.2, fill_ofText p⟩, fun digits hdigits hshort => ?_,
    fun t ht => ⟨fun _ _ => fill_eq_of_take_eq, fun q t' ht' => ⟨?_, fun digits hdigits hshort => ?_⟩⟩⟩
  -- a single slot, filled or not
  · refine ⟨_, compile_slotOf hdigits hshort, fun arguments => ⟨hfilled digits arguments, fun hlength => ?_⟩⟩
    rw [fill_single, Piece.fill, List.getElem?_eq_none hlength]
    rfl
  -- two templates, and two with a slot between them
  · exact ⟨t ++ t', compile_append ht ht', fill_append t t'⟩
  · refine ⟨_, compile_append (compile_append ht (compile_slotOf hdigits hshort)) ht', fun arguments value hvalue => ?_⟩
    rw [fill_append, fill_append, hfilled digits arguments value hvalue]

/-- The name of a user looks like the slot behind it, and only that one is filled. -/
theorem name_like_slot_kept : ∃ t, compile "cn=\x7b0\x7d,ou=\x7b1\x7d" = .ok t ∧
    t.fill [some "\x7b1\x7d", some "day"] = "cn=\x7b1\x7d,ou=day" := by
  -- one character behind the other: three texts without a brace, and a slot between each two of them
  obtain ⟨-, -, hname, -, hbehindName⟩ := slots_filled_at_once "cn="
  obtain ⟨name, hname, hfillName⟩ := hname (by decide +kernel)
  obtain ⟨-, -, hunit, -⟩ := slots_filled_at_once ",ou="
  obtain ⟨unit, hunit, hfillUnit⟩ := hunit (by decide +kernel)
  obtain ⟨-, -, hend, -⟩ := slots_filled_at_once ""
  obtain ⟨ending, hend, hfillEnd⟩ := hend (by decide +kernel)
  obtain ⟨front, hfront, hfillFront⟩ :=
    ((hbehindName name hname).2 _ unit hunit).2 ['0'] (by decide +kernel) (by decide +kernel)
  obtain ⟨-, -, -, -, hbehindFront⟩ := slots_filled_at_once ("cn=" ++ slotOf ['0'] ++ ",ou=")
  obtain ⟨whole, hwhole, hfill⟩ :=
    ((hbehindFront front hfront).2 _ ending hend).2 ['1'] (by decide +kernel) (by decide +kernel)
  refine ⟨whole, hwhole, ?_⟩
  rw [hfill _ _ rfl, hfillFront _ _ rfl, hfillName, hfillUnit, hfillEnd]
  decide +kernel

/-- A slot for the second argument, with 4300 zeros in front of its number. -/
def longSlot : String :=
  slotOf (List.replicate 4300 '0' ++ ['1'])

/-- Nothing is left of a long slot when it is deleted, and still it is no template. -/
theorem long_slot_refused :
    ¬ ((∃ t, compile longSlot = .ok t) ↔ HasNoBrace (withoutSlots longSlot.toList)) := by
  have hnumeral : IsNumeral (List.replicate 4300 '0' ++ ['1']) := by
    refine ⟨List.append_ne_nil_of_right_ne_nil _ (List.cons_ne_nil _ _), fun c hc => ?_⟩
    -- the numeral is a row of zeros and a one
    rcases List.mem_append.mp hc with hc | hc
    · rw [List.eq_of_mem_replicate hc]
      rfl
    · rw [List.mem_singleton.mp hc]
      rfl
  have hlong : ¬ IsShort (List.replicate 4300 '0' ++ ['1']) := by
    rw [IsShort, List.length_append, List.length_replicate]
    decide
  obtain ⟨hbraces, hrefused⟩ := slotOf_refused hnumeral hlong
  exact fun hiff => hrefused (hiff.mpr hbraces)

end Template

end DirectoryLogin
