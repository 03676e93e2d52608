import DirectoryLogin.Name.Components
import DirectoryLogin.Proofs.Text.Trimming
import Mathlib.Data.List.Basic
/-!
# Where Names Are Cut

A name is cut into pieces at separators. Which separator ends the first piece depends on the equals sign that comes
after it, and whether a mark counts at all depends on the backslashes in front of it. Two kinds of text make this easy.
A *whole* text holds no separator that counts, and a separator behind it does count. A text that *begins an assignment*
has an equals sign with nothing but plain characters before it. Behind a whole text, in front of a text that begins an
assignment, there is the first cut.

- `Name.mem_marksFrom_iff`: the positions of the marks that count.
- `Name.pieces_append`: the first cut, and what follows it is cut on its own.
- `Name.flatMap_written_glue_pieces`: nothing is lost by cutting and gluing.
- `Name.readings?_append`: the assignments of a name, the first one split off.
-/

namespace DirectoryLogin

namespace Name

/-! ## §1 Marks -/

/-- Behind a character that is not a backslash a mark counts. -/
theorem isUnescaped_cons_of_ne {c : Char} (hc : c ≠ '\\') (before : List Char) : isUnescaped (c :: before) = true := by
  cases before with
  | nil => simp [isUnescaped, hc]
  | cons d rest => simp [isUnescaped, hc]

/-- A backslash changes whether a mark counts, unless it is one of the first two characters. -/
theorem isUnescaped_backslash {before : List Char} (hbefore : 2 ≤ before.length) :
    isUnescaped ('\\' :: before) = !isUnescaped before := by
  match before, hbefore with
  | a :: b :: rest, _ =>
    -- one more backslash in the run, whose parity decides
    have hrun : ((('\\' :: a :: b :: rest).dropLast.takeWhile (· == '\\')).length) =
        ((a :: b :: rest).dropLast.takeWhile (· == '\\')).length + 1 := by
      rw [List.dropLast_cons_cons, List.takeWhile_cons_of_pos (by rfl), List.length_cons]
    rw [isUnescaped, isUnescaped, hrun]
    · generalize ((a :: b :: rest).dropLast.takeWhile (· == '\\')).length = run
      rcases Nat.mod_two_eq_zero_or_one run with h | h <;> simp [Nat.add_mod, h]
    all_goals nofun

section Marks

variable {mark : Char} {before cs : List Char} {n : Nat}

theorem marksFrom_append (mark : Char) (before xs ys : List Char) :
    marksFrom mark before (xs ++ ys) = marksFrom mark before xs ++ marksFrom mark (xs.reverse ++ before) ys := by
  induction xs generalizing before with
  | nil => rfl
  | cons c rest ih =>
    have hreverse : (c :: rest).reverse ++ before = rest.reverse ++ c :: before := by simp
    rw [List.cons_append, marksFrom, marksFrom, ih, hreverse]
    split <;> rfl

/-- **The marks that count**: those with characters before them that make them count. -/
theorem mem_marksFrom_iff : n ∈ marksFrom mark before cs ↔
    ∃ xs ys, cs = xs ++ mark :: ys ∧ n = before.length + xs.length ∧ isUnescaped (xs.reverse ++ before) = true := by
  constructor
  · intro h
    induction cs generalizing before with
    | nil => cases h
    | cons c rest ih =>
      -- the mark is the first character, or it is one behind it
      have hcases : (n = before.length ∧ c = mark ∧ isUnescaped before = true) ∨
          n ∈ marksFrom mark (c :: before) rest := by
        rw [marksFrom] at h
        split at h
        · rename_i hfirst
          obtain ⟨hmark, hcounts⟩ := (Bool.and_eq_true _ _).mp hfirst
          exact (List.mem_cons.mp h).imp (⟨·, eq_of_beq hmark, hcounts⟩) id
        · exact .inr h
      rcases hcases with ⟨hn, rfl, hcounts⟩ | hlater
      · exact ⟨[], rest, rfl, hn, hcounts⟩
      · obtain ⟨xs, ys, rfl, hn, hcounts⟩ := ih hlater
        refine ⟨c :: xs, ys, rfl, ?_, by simpa using hcounts⟩
        simp only [List.length_cons] at hn ⊢
        omega
  · rintro ⟨xs, ys, rfl, rfl, hcounts⟩
    rw [marksFrom_append, marksFrom, hcounts]
    simp [Nat.add_comm]

theorem marksFrom_eq_nil_of_not_mem (hmark : mark ∉ cs) : marksFrom mark before cs = [] := by
  refine List.eq_nil_iff_forall_not_mem.mpr fun n hn => ?_
  obtain ⟨xs, ys, rfl, -⟩ := mem_marksFrom_iff.mp hn
  exact hmark (by simp)

/-- The marks of a text are inside it. -/
theorem bounds_of_mem_marksFrom (hn : n ∈ marksFrom mark before cs) :
    before.length ≤ n ∧ n < before.length + cs.length := by
  obtain ⟨xs, ys, rfl, rfl, -⟩ := mem_marksFrom_iff.mp hn
  simp only [List.length_append, List.length_cons]
  omega

end Marks

/-! ## §2 The first cut -/

/-- A character that decides where a name is cut, or keeps another one from it. -/
def isSyntax (c : Char) : Bool :=
  c == ',' || c == '+' || c == '=' || c == '\\'

/-- Behind plain characters a mark counts. -/
theorem isUnescaped_plain {front : List Char} (hne : front ≠ []) (hfront : ∀ c ∈ front, isSyntax c = false)
    (before : List Char) : isUnescaped (front.reverse ++ before) = true := by
  obtain ⟨xs, c, rfl⟩ := List.eq_nil_or_concat' front |>.resolve_left hne
  have hc : c ≠ '\\' := by
    rintro rfl
    have hnot : '\\' ∉ xs ++ ['\\'] := Text.not_mem_of_forall hfront rfl
    exact hnot (by simp)
  rw [List.reverse_append]
  exact isUnescaped_cons_of_ne hc _

/-- A text that begins an assignment: an equals sign with plain characters before it. -/
def BeginsAssignment (cs : List Char) : Prop :=
  ∃ front more, cs = front ++ '=' :: more ∧ front ≠ [] ∧ ∀ c ∈ front, isSyntax c = false

theorem BeginsAssignment.append {cs : List Char} (h : BeginsAssignment cs) (more : List Char) :
    BeginsAssignment (cs ++ more) := by
  obtain ⟨front, rest, rfl, hne, hfront⟩ := h
  exact ⟨front, rest ++ more, by simp, hne, hfront⟩

theorem BeginsAssignment.ne_nil {cs : List Char} (h : BeginsAssignment cs) : cs ≠ [] := by
  obtain ⟨front, more, rfl, -⟩ := h
  simp

/-- A text without a separator that counts, behind which a separator does count. -/
structure IsWhole (cs : List Char) : Prop where
  noComma : marks ',' cs = []
  noPlus : marks '+' cs = []
  unescaped : isUnescaped cs.reverse = true

theorem IsWhole.ne_nil {cs : List Char} (h : IsWhole cs) : cs ≠ [] := by
  rintro rfl
  cases h.unescaped

/-- A separator is cut at if the next equals sign is behind it, not at once, and all later separators follow that. -/
theorem cut?_eq_some {n equal : Nat} {later equals : List Nat} (hfind : equals.find? (n < ·) = some equal)
    (hnext : n + 1 < equal) (hlater : ∀ x ∈ later, equal < x) : cut? (n :: later) equals = some n := by
  have hnone : later.filter (· < equal) = [] :=
    List.filter_eq_nil_iff.mpr fun x hx => by simpa using Nat.le_of_lt (hlater x hx)
  have hfirst : n < equal := by omega
  simp [cut?, hfind, hnext, hnone, hfirst]

theorem plusComesFirst_of_forall_lt {n : Nat} {commas : List Nat} (h : ∀ x ∈ commas, n < x) (pluses : List Nat) :
    plusComesFirst (n :: pluses) commas = true := by
  cases commas with
  | nil => rfl
  | cons comma rest => simpa [plusComesFirst] using h comma List.mem_cons_self

theorem not_plusComesFirst_of_forall_lt {n : Nat} {pluses : List Nat} (h : ∀ x ∈ pluses, n < x) (commas : List Nat) :
    plusComesFirst pluses (n :: commas) = false := by
  cases pluses with
  | nil => rfl
  | cons plus rest => simpa [plusComesFirst] using Nat.le_of_lt (h plus List.mem_cons_self)

/-- All marks are inside the text. -/
theorem find?_marks (mark : Char) (cs : List Char) : (marks mark cs).find? (cs.length < ·) = none := by
  refine List.find?_eq_none.mpr fun x hx => ?_
  have hbound := (bounds_of_mem_marksFrom hx).2
  simp only [List.length_nil, decide_eq_true_eq] at hbound ⊢
  omega

section Cut

variable {cs : List Char} {separator : Char}

/-- The marks of a name that is put together. -/
theorem marks_append (mark : Char) (hcs : isUnescaped cs.reverse = true) (tail : List Char) :
    marks mark (cs ++ separator :: tail) = marks mark cs ++
      ((if separator = mark then [cs.length] else []) ++ marksFrom mark (separator :: cs.reverse) tail) := by
  rw [marks, marksFrom_append, List.append_nil, marksFrom, hcs]
  by_cases h : separator = mark
  · simp [marks, h]
  · simp [marks, h]

section Front

variable {front : List Char} (hfront : ∀ c ∈ front, isSyntax c = false) (more : List Char)
include hfront

/-- Behind the separator there is no other one before the equals sign. -/
theorem lt_of_mem_marksFrom {mark : Char} (hmark : isSyntax mark = true) (hother : mark ≠ '=') {x : Nat}
    (hx : x ∈ marksFrom mark (separator :: cs.reverse) (front ++ '=' :: more)) :
    cs.length + 1 + front.length < x := by
  have hplain : marksFrom mark (separator :: cs.reverse) front = [] :=
    marksFrom_eq_nil_of_not_mem (Text.not_mem_of_forall hfront hmark)
  have hequal : ('=' == mark) = false := by simpa using hother.symm
  rw [marksFrom_append, hplain, List.nil_append, marksFrom, hequal] at hx
  have hbound := (bounds_of_mem_marksFrom hx).1
  simp only [List.length_cons, List.length_append, List.length_reverse] at hbound
  omega

/-- The next equals sign behind the separator is the one that the plain characters are in front of. -/
theorem find?_marks_equals (hne : front ≠ []) (hcs : isUnescaped cs.reverse = true) (hother : separator ≠ '=') :
    (marks '=' (cs ++ separator :: (front ++ '=' :: more))).find? (cs.length < ·) =
      some (cs.length + 1 + front.length) := by
  have hplain : marksFrom '=' (separator :: cs.reverse) front = [] :=
    marksFrom_eq_nil_of_not_mem (Text.not_mem_of_forall hfront rfl)
  rw [marks_append '=' hcs, if_neg hother, List.nil_append, List.find?_append, find?_marks, Option.none_or,
    marksFrom_append, hplain, List.nil_append, marksFrom, isUnescaped_plain hne hfront]
  simp [Nat.add_comm, Nat.add_left_comm]

end Front

/-- **The first cut** is behind a whole text, where what follows begins an assignment. -/
theorem firstCut?_append {tail : List Char} (hcs : IsWhole cs) (htail : BeginsAssignment tail)
    (hseparator : separator = ',' ∨ separator = '+') :
    firstCut? (cs ++ separator :: tail) = some (cs.length, separator) := by
  obtain ⟨front, more, rfl, hne, hfront⟩ := htail
  have hlength : 0 < front.length := List.length_pos_iff.mpr hne
  have hother : separator ≠ '=' := by rcases hseparator with rfl | rfl <;> decide
  have hfind := find?_marks_equals hfront more hne hcs.unescaped hother
  have hcommas : ∀ x ∈ marksFrom ',' (separator :: cs.reverse) (front ++ '=' :: more),
      cs.length + 1 + front.length < x := fun _ => lt_of_mem_marksFrom hfront more rfl (by decide)
  have hpluses : ∀ x ∈ marksFrom '+' (separator :: cs.reverse) (front ++ '=' :: more),
      cs.length + 1 + front.length < x := fun _ => lt_of_mem_marksFrom hfront more rfl (by decide)
  rw [firstCut?, marks_append ',' hcs.unescaped, marks_append '+' hcs.unescaped, hcs.noComma, hcs.noPlus]
  rcases hseparator with rfl | rfl
  · -- every plus sign is behind the comma
    have hlast := not_plusComesFirst_of_forall_lt (n := cs.length) (fun x hx => by have := hpluses x hx; omega)
      (marksFrom ',' (',' :: cs.reverse) (front ++ '=' :: more))
    simp [hlast, cut?_eq_some hfind (by omega) hcommas]
  · have hfirst := plusComesFirst_of_forall_lt (n := cs.length) (fun x hx => by have := hcommas x hx; omega)
      (marksFrom '+' ('+' :: cs.reverse) (front ++ '=' :: more))
    simp [hfirst, cut?_eq_some hfind (by omega) hpluses]

/-- **No cut** is behind a whole text where no assignment follows. -/
theorem firstCut?_eq_none {back : List Char} (hcs : IsWhole cs) (hback : ∀ c ∈ back, isSyntax c = false) :
    firstCut? (cs ++ ',' :: back) = none := by
  have hplain {mark : Char} (hmark : isSyntax mark = true) : marksFrom mark (',' :: cs.reverse) back = [] :=
    marksFrom_eq_nil_of_not_mem (Text.not_mem_of_forall hback hmark)
  rw [firstCut?, marks_append ',' hcs.unescaped, marks_append '+' hcs.unescaped, marks_append '=' hcs.unescaped,
    hcs.noComma, hcs.noPlus, hplain rfl, hplain rfl, hplain rfl]
  simp [cut?, plusComesFirst, find?_marks]

end Cut

/-- A cut is at a separator. -/
theorem of_firstCut? {cs : List Char} {n : Nat} {separator : Char} (h : firstCut? cs = some (n, separator)) :
    (separator = ',' ∨ separator = '+') ∧ n ∈ marks separator cs := by
  -- a cut is made at one of the marks it is given
  have hmem {separators equals : List Nat} (hcut : cut? separators equals = some n) : n ∈ separators := by
    unfold cut? at hcut
    split at hcut
    · cases hcut
    split at hcut
    · split at hcut
      · exact (List.mem_filter.mp (List.mem_of_getLast? hcut)).1
      · cases hcut
    · cases hcut
  rw [firstCut?, Option.or_eq_some_iff] at h
  -- a plus is tried first, the comma after it
  rcases h with h | ⟨-, h⟩
  · split at h
    · obtain ⟨m, hcut, heq⟩ := Option.map_eq_some_iff.mp h
      cases heq
      exact ⟨.inr rfl, hmem hcut⟩
    · cases h
  · obtain ⟨m, hcut, heq⟩ := Option.map_eq_some_iff.mp h
    cases heq
    exact ⟨.inl rfl, hmem hcut⟩

/-! ## §3 Pieces -/

/-- A piece as it stands in a name. -/
def Piece.written (p : Piece) : List Char :=
  p.chars ++ p.separator.toList

theorem pieces_of_firstCut? {cs : List Char} {n : Nat} {separator : Char} (h : firstCut? cs = some (n, separator)) :
    pieces cs = ⟨cs.take n, some separator⟩ :: pieces (cs.drop (n + 1)) := by
  have hne : cs ≠ [] := by
    rintro rfl
    cases h
  rw [pieces, dif_neg hne, h]

theorem pieces_of_uncut {cs : List Char} (hne : cs ≠ []) (h : firstCut? cs = none) : pieces cs = [⟨cs, none⟩] := by
  rw [pieces, dif_neg hne, h]

/-- **Cutting** a name at its first separator. -/
theorem pieces_append {cs tail : List Char} {separator : Char} (hcs : IsWhole cs) (htail : BeginsAssignment tail)
    (hseparator : separator = ',' ∨ separator = '+') :
    pieces (cs ++ separator :: tail) = ⟨cs, some separator⟩ :: pieces tail := by
  rw [pieces_of_firstCut? (firstCut?_append hcs htail hseparator), List.take_left,
    List.drop_append, List.drop_of_length_le (by omega), Nat.add_sub_cancel_left]
  rfl

/-- A whole text is not cut. -/
theorem pieces_whole {cs : List Char} (hcs : IsWhole cs) : pieces cs = [⟨cs, none⟩] :=
  pieces_of_uncut hcs.ne_nil (by simp [firstCut?, hcs.noComma, hcs.noPlus, cut?, plusComesFirst])

/-- **Nothing is lost** by cutting. -/
theorem flatMap_written_pieces (cs : List Char) : (pieces cs).flatMap Piece.written = cs := by
  induction cs using pieces.induct with
  | case1 => rw [pieces]; rfl
  | case2 cs hne n separator hcut ih =>
    obtain ⟨xs, ys, rfl, hn, -⟩ := mem_marksFrom_iff.mp (of_firstCut? hcut).2
    obtain rfl : n = xs.length := by simpa using hn
    rw [pieces_of_firstCut? hcut, List.flatMap_cons, ih]
    simp [Piece.written]
  | case3 cs hne hcut =>
    rw [pieces_of_uncut hne hcut]
    simp [Piece.written]

/-- What begins an assignment has one in its first piece. -/
theorem BeginsAssignment.pieces_eq {cs : List Char} (h : BeginsAssignment cs) :
    ∃ p rest, pieces cs = p :: rest ∧ p.hasAssignment = true := by
  obtain ⟨front, more, rfl, hne, hfront⟩ := h
  have hassigns (more : List Char) (separator : Option Char) :
      Piece.hasAssignment ⟨front ++ '=' :: more, separator⟩ = true := by
    have hmem : front.length ∈ marks '=' (front ++ '=' :: more) := by
      rw [marks, mem_marksFrom_iff]
      exact ⟨front, more, rfl, by simp, isUnescaped_plain hne hfront []⟩
    simp [Piece.hasAssignment, List.ne_nil_of_mem hmem]
  rcases hcut : firstCut? (front ++ '=' :: more) with _ | ⟨n, separator⟩
  · exact ⟨_, [], pieces_of_uncut (by simp) hcut, hassigns more none⟩
  · -- the cut is at a separator, so it is behind the equals sign
    obtain ⟨hseparator, hn⟩ := of_firstCut? hcut
    have hbehind : front.length + 1 ≤ n := by
      have hplain : marksFrom separator [] front = [] := by
        refine marksFrom_eq_nil_of_not_mem (Text.not_mem_of_forall hfront ?_)
        rcases hseparator with rfl | rfl <;> rfl
      have hequal : ('=' == separator) = false := by rcases hseparator with rfl | rfl <;> rfl
      rw [marks, marksFrom_append, hplain, List.nil_append, marksFrom, hequal] at hn
      simpa using (bounds_of_mem_marksFrom hn).1
    have htake : (front ++ '=' :: more).take n = front ++ '=' :: more.take (n - front.length - 1) := by
      obtain ⟨k, rfl⟩ : ∃ k, n = front.length + (k + 1) := ⟨n - front.length - 1, by omega⟩
      rw [List.take_length_add_append, List.take_succ_cons]
      simp
    refine ⟨_, _, pieces_of_firstCut? hcut, ?_⟩
    rw [htake]
    exact hassigns _ _

/-! ## §4 Gluing -/

theorem glue_cons (p q : Piece) (rest : List Piece) (hq : q.hasAssignment = true) :
    glue (p :: q :: rest) = p :: glue (q :: rest) := by
  rw [glue, glueTo, if_pos hq, glue]

/-- **Nothing is lost** by gluing. -/
theorem flatMap_written_glueTo (current : Piece) (rest : List Piece) :
    (glueTo current rest).flatMap Piece.written = (current :: rest).flatMap Piece.written := by
  induction rest generalizing current with
  | nil => rfl
  | cons next rest ih =>
    rw [glueTo]
    split
    · rw [List.flatMap_cons, ih]
      rfl
    · rw [ih]
      simp [Piece.written, Piece.join]

/-- **Nothing is lost** on the way to the assignments of a name. -/
theorem flatMap_written_glue_pieces (cs : List Char) : (glue (pieces cs)).flatMap Piece.written = cs := by
  have hpieces := flatMap_written_pieces cs
  cases h : pieces cs with
  | nil => rwa [h] at hpieces
  | cons p rest => rw [glue, flatMap_written_glueTo, ← h, hpieces]

/-! ## §5 Readings -/

/-- The assignments of a name with the separators behind them; absent if one cannot be read. -/
def readings? (cs : List Char) : Option (List (List Char × Option Char)) :=
  (glue (pieces cs)).mapM fun p => (assignment? p.chars).map (·, p.separator)

/-- The components of a name are put together from its assignments. -/
theorem written?_eq (cs : List Char) :
    written? cs = (readings? cs).bind fun rs => if rs.isEmpty then none else some (components [] rs) :=
  rfl

theorem readings?_whole {cs : List Char} (hcs : IsWhole cs) :
    readings? cs = (assignment? cs).map fun a => [(a, none)] := by
  rw [readings?, pieces_whole hcs, glue, glueTo, List.mapM_cons, List.mapM_nil]
  cases assignment? cs <;> rfl

/-- **Reading** a name up to its first separator. -/
theorem readings?_append {cs tail : List Char} {separator : Char} (hcs : IsWhole cs) (htail : BeginsAssignment tail)
    (hseparator : separator = ',' ∨ separator = '+') :
    readings? (cs ++ separator :: tail) =
      (assignment? cs).bind fun a => (readings? tail).map fun rs => (a, some separator) :: rs := by
  obtain ⟨q, rest, hpieces, hq⟩ := htail.pieces_eq
  rw [readings?, pieces_append hcs htail hseparator, hpieces, glue_cons _ _ _ hq, List.mapM_cons, ← hpieces,
    ← readings?]
  cases assignment? cs with
  | none => rfl
  | some a => cases readings? tail <;> rfl

end Name

end DirectoryLogin
