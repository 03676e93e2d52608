import DirectoryLogin.Text.Case
import Mathlib.Data.List.Basic
/-!
# Lower Case around Commas

A comma has no case, so what stands before a comma and what stands behind it are put into lower case each on its own:
even a sigma does not look beyond it. And no other character becomes a comma. Only the lengths differ: a dotted capital
I becomes two characters, every other character becomes one.

- `Text.length_lowerAfter`: how long a text is in lower case.
- `Text.lowerAfter_append_comma`, `Text.exists_of_lowerAfter_eq`: lower case before and behind a comma.
- `Text.sameIgnoringCase_iff`: the same text in any case.
-/

namespace DirectoryLogin.Text

/-! ## §1 One character among others -/

/-- The capital I with a dot, the only character that becomes two in lower case. -/
abbrev dottedI : Char := 'İ'

/-- The lower case form of a character between others. -/
def lowerBetween (before rest : List Char) (c : Char) : List Char :=
  if c == 'Σ' then (if nextIsCased before && !nextIsCased rest then ['ς'] else ['σ']) else lowerChar c

theorem lowerAfter_cons (before rest : List Char) (c : Char) :
    lowerAfter before (c :: rest) = lowerBetween before rest c ++ lowerAfter (c :: before) rest := rfl

/-- Apart from a sigma, the neighbours do not matter. -/
theorem lowerBetween_cases (before rest : List Char) (c : Char) :
    c = 'Σ' ∧ (lowerBetween before rest c = ['ς'] ∨ lowerBetween before rest c = ['σ']) ∨
      c ≠ 'Σ' ∧ lowerBetween before rest c = lowerChar c := by
  unfold lowerBetween
  by_cases hsigma : c = 'Σ'
  · subst hsigma
    refine .inl ⟨rfl, ?_⟩
    rw [if_pos (beq_self_eq_true _)]
    split
    · exact .inl rfl
    · exact .inr rfl
  · exact .inr ⟨hsigma, if_neg fun h => hsigma (eq_of_beq h)⟩

theorem dottedI_iff {c : Char} : c = dottedI ↔ c.toNat = 0x130 := by
  constructor
  · rintro rfl
    rfl
  · intro h
    rw [← Char.ofNat_toNat c, h]

/-! ## §2 Lengths -/

theorem length_lowerChar (c : Char) : (lowerChar c).length = if c = dottedI then 2 else 1 := by
  unfold lowerChar
  dsimp only
  by_cases hascii : c.toNat < 128
  · rw [if_pos hascii, if_neg (by rw [dottedI_iff]; omega)]
    rfl
  rw [if_neg hascii]
  by_cases hc : c = dottedI
  · rw [if_pos (beq_iff_eq.mpr (dottedI_iff.mp hc)), if_pos hc]
    rfl
  · rw [if_neg (fun h => hc (dottedI_iff.mpr (beq_iff_eq.mp h))), if_neg hc]
    split <;> rfl

/-- How long a text is in lower case. -/
theorem length_lowerAfter (before cs : List Char) :
    (lowerAfter before cs).length = cs.length + cs.count dottedI := by
  induction cs generalizing before with
  | nil => rfl
  | cons c rest ih =>
    -- a dotted I becomes two characters, and any other one
    have hhere : (lowerBetween before rest c).length = 1 + if c == dottedI then 1 else 0 := by
      rcases lowerBetween_cases before rest c with ⟨rfl, h | h⟩ | ⟨-, h⟩
      · rw [h]
        rfl
      · rw [h]
        rfl
      · rw [h, length_lowerChar]
        by_cases hc : c = dottedI
        · rw [if_pos hc, if_pos (beq_iff_eq.mpr hc)]
        · rw [if_neg hc, if_neg fun h => hc (eq_of_beq h)]
    rw [lowerAfter_cons, List.length_append, hhere, ih, List.count_cons, List.length_cons]
    omega

/-- In lower case a text is longer than its end. -/
theorem eq_nil_of_lowerAfter_append {front tail : List Char}
    (h : lowerAfter [] (front ++ tail) = lowerAfter [] tail) : front = [] := by
  have hlength := congrArg List.length h
  rw [length_lowerAfter, length_lowerAfter, List.length_append, List.count_append] at hlength
  exact List.length_eq_zero_iff.mp (by omega)

/-- Ends of a text that are the same in any case are the same end. -/
theorem append_inj_of_lowerAfter_eq {front tail front' tail' : List Char} (happend : front ++ tail = front' ++ tail')
    (h : lowerAfter [] tail = lowerAfter [] tail') : front = front' ∧ tail = tail' := by
  rcases List.append_eq_append_iff.mp happend with ⟨more, rfl, rfl⟩ | ⟨more, rfl, rfl⟩
  · rw [eq_nil_of_lowerAfter_append h, List.append_nil, List.nil_append]
    exact ⟨rfl, rfl⟩
  · rw [eq_nil_of_lowerAfter_append h.symm, List.append_nil, List.nil_append]
    exact ⟨rfl, rfl⟩

/-! ## §3 Commas -/

/-- Nobody looks for the neighbour of a letter beyond a comma. -/
theorem nextIsCased_append_comma (cs rest : List Char) : nextIsCased (cs ++ ',' :: rest) = nextIsCased cs := by
  induction cs with
  | nil => rfl
  | cons c cs ih =>
    unfold nextIsCased at ih ⊢
    rw [List.cons_append, List.dropWhile_cons, List.dropWhile_cons]
    by_cases hc : isCaseIgnorable c = true
    · rw [if_pos hc, if_pos hc]
      exact ih
    · rw [if_neg hc, if_neg hc]

/-- What stands behind a comma does not depend on what stands before it. -/
theorem lowerAfter_comma_append (recent before cs : List Char) :
    lowerAfter (recent ++ ',' :: before) cs = lowerAfter recent cs := by
  induction cs generalizing recent with
  | nil => rfl
  | cons c rest ih =>
    have hrest := ih (c :: recent)
    rw [List.cons_append] at hrest
    rw [lowerAfter, lowerAfter, nextIsCased_append_comma, hrest]

/-- **Before and behind a comma**, lower case is a matter of either side alone. -/
theorem lowerAfter_append_comma (before front tail : List Char) :
    lowerAfter before (front ++ ',' :: tail) = lowerAfter before front ++ ',' :: lowerAfter [] tail := by
  induction front generalizing before with
  | nil => exact congrArg (List.cons ',') (lowerAfter_comma_append [] before tail)
  | cons c rest ih =>
    rw [List.cons_append, lowerAfter, lowerAfter, ih, nextIsCased_append_comma, List.append_assoc]

theorem CaseRun.ne_comma_of_apply? {n m : Nat} (h : CaseRun.apply? lowerRuns n = some m) : m ≠ 44 := by
  have hall : ∀ r ∈ lowerRuns, (44 : Int) < r.first + r.shift := by decide +kernel
  obtain ⟨r, hr, rfl⟩ := Option.map_eq_some_iff.mp h
  have hfirst := hall r (List.mem_of_find?_eq_some hr)
  have hholds := List.find?_some hr
  simp only [CaseRun.holds, Bool.and_eq_true, decide_eq_true_eq] at hholds
  omega

theorem charOfNat_ne_comma {n : Nat} (h : n ≠ 44) : charOfNat n ≠ ',' := by
  unfold charOfNat
  split
  · rename_i hvalid
    intro hcomma
    have hcode : (Char.ofNat n).toNat = n := toNat_ofNat_of_isValidChar hvalid
    rw [hcomma] at hcode
    exact h hcode.symm
  · decide

/-- No other character becomes a comma in lower case. -/
theorem eq_comma_of_mem_lowerChar {c : Char} (h : ',' ∈ lowerChar c) : c = ',' := by
  unfold lowerChar at h
  dsimp only at h
  split at h
  · -- within ASCII the characters are tried, one by one
    rename_i hascii
    have hall : ∀ n < 128, (Char.ofNat n).toLower = ',' → n = 44 := by decide
    have hcode := hall c.toNat hascii (by rw [Char.ofNat_toNat]; exact (List.mem_singleton.mp h).symm)
    rw [← Char.ofNat_toNat c, hcode]
  -- beyond it the run tables give no comma
  split at h
  · exact absurd h (by decide)
  split at h
  · exact absurd (List.mem_singleton.mp h).symm (charOfNat_ne_comma (CaseRun.ne_comma_of_apply? ‹_›))
  · exact (List.mem_singleton.mp h).symm

theorem lowerBetween_comma (before rest : List Char) : lowerBetween before rest ',' = [','] := rfl

theorem lowerBetween_append_comma (before front tail : List Char) (c : Char) :
    lowerBetween before (front ++ ',' :: tail) c = lowerBetween before front c := by
  rw [lowerBetween, lowerBetween, nextIsCased_append_comma]

theorem eq_comma_of_mem_lowerBetween {before rest : List Char} {c : Char} (h : ',' ∈ lowerBetween before rest c) :
    c = ',' := by
  rcases lowerBetween_cases before rest c with ⟨rfl, hc | hc⟩ | ⟨-, hc⟩
  all_goals rw [hc] at h
  · exact absurd h (by decide)
  · exact absurd h (by decide)
  · exact eq_comma_of_mem_lowerChar h

/-- **A comma in lower case** was one before, with what stands before it and what stands behind it. -/
theorem exists_of_lowerAfter_eq {before cs left right : List Char} (h : lowerAfter before cs = left ++ ',' :: right) :
    ∃ front tail, cs = front ++ ',' :: tail ∧ lowerAfter before front = left ∧ lowerAfter [] tail = right := by
  induction cs generalizing before left with
  | nil => exact absurd h (by simp [lowerAfter])
  | cons c rest ih =>
    rw [lowerAfter_cons] at h
    have hlater (more : List Char) (hleft : left = lowerBetween before rest c ++ more)
        (hmore : lowerAfter (c :: before) rest = more ++ ',' :: right) :
        ∃ front tail, c :: rest = front ++ ',' :: tail ∧ lowerAfter before front = left ∧
          lowerAfter [] tail = right := by
      obtain ⟨front, tail, rfl, hfront, htail⟩ := ih hmore
      refine ⟨c :: front, tail, rfl, ?_, htail⟩
      rw [lowerAfter_cons, hfront, hleft, lowerBetween_append_comma]
    rcases List.append_eq_append_iff.mp h with ⟨more, hleft, hmore⟩ | ⟨more, hhere, hmore⟩
    · exact hlater more hleft hmore
    · rcases more with _ | ⟨d, more⟩
      · rw [List.append_nil] at hhere
        exact hlater [] (by rw [hhere, List.append_nil]) hmore.symm
      · -- the comma is in what has become of the first character, so that is a comma
        obtain ⟨rfl, hright⟩ := List.cons.inj hmore
        obtain rfl : c = ',' := eq_comma_of_mem_lowerBetween (hhere ▸ List.mem_append_right left List.mem_cons_self)
        rw [lowerBetween_comma] at hhere
        obtain ⟨rfl, hnothing⟩ := List.append_eq_singleton_iff.mp hhere.symm |>.resolve_right nofun
        obtain rfl : more = [] := (List.cons.inj hnothing).2
        refine ⟨[], rest, rfl, rfl, ?_⟩
        rw [hright]
        exact (lowerAfter_comma_append [] before rest).symm

/-! ## §4 Texts in any case -/

theorem sameIgnoringCase_iff {s t : String} :
    sameIgnoringCase s t = true ↔ lowerAfter [] s.toList = lowerAfter [] t.toList := by
  rw [sameIgnoringCase, beq_iff_eq, lower, lower, String.ofList_inj]

end DirectoryLogin.Text
