import DirectoryLogin.Proofs.Name.NormalForm
import DirectoryLogin.Proofs.Name.Rejoining
/-!
# A Component in Front of a Name

A type and an escaped value are put in front of a name. The name is cut behind them whatever the value is. But the value
is read by a grammar that asks for more escapes than were written: an equals sign has none, and a number sign only has
one at the beginning. And it is read without the blanks around it, of which only spaces are escaped.

- `Name.isReadable`: the values that are read at all.
- `Name.keepsEnds`: the values of which no blanks are taken off.
- `Name.parse_assignment_append`: what is read of the longer name.
-/

namespace DirectoryLogin

open Text (EscapesBy)

namespace Text

variable {digit p : Char → Bool} {text : List Char}

/-- No escape reaches into what holds no digits. -/
theorem EscapesBy.of_append {back : List Char} (h : EscapesBy digit (text ++ back))
    (hback : ∀ c ∈ back, digit c = false) : EscapesBy digit text := by
  rintro rest ⟨front, rfl⟩
  obtain ⟨c, d, tail, heq, hc, hd⟩ := h (rest ++ back) ⟨front, by simp⟩
  have hout {x : Char} (hx : digit x = true) : x ∉ back := not_mem_of_forall hback hx
  -- the digits of an escape lie within the text: `back` begins with none
  match rest, heq with
  | [], heq =>
    obtain rfl : back = c :: d :: tail := heq
    exact absurd List.mem_cons_self (hout hc)
  | [x], heq =>
    obtain rfl : back = d :: tail := (List.cons.inj heq).2
    exact absurd List.mem_cons_self (hout hd)
  | x :: y :: rest, heq =>
    simp only [List.cons_append, List.cons.injEq] at heq
    obtain ⟨rfl, rfl, -⟩ := heq
    exact ⟨_, _, rest, rfl, hc, hd⟩

/-- No escape is taken apart where a text is trimmed. -/
theorem EscapesBy.trimList (h : EscapesBy digit text) (hdigit : ∀ c, digit c = true → p c = false) :
    EscapesBy digit (Text.trimList p text) := by
  obtain ⟨front, back, htext, -, hback⟩ := exists_trimList p text
  have hsuffix : EscapesBy digit (Text.trimList p text ++ back) := fun rest hrest =>
    h rest (hrest.trans ⟨front, htext.symm⟩)
  refine hsuffix.of_append fun c hc => ?_
  by_contra hnot
  have hlost := hback c hc
  rw [hdigit c (by simpa using hnot)] at hlost
  cases hlost

end Text

namespace Name

/-! ## §1 Values with two digits behind every backslash -/

theorem needsEscape_of_isHexDigit {c : Char} (h : isHexDigit c = true) : needsEscape c = false := by
  by_contra hneeds
  rw [isHexDigit, hexDigit?_of_needsEscape (by simpa using hneeds)] at h
  cases h

/-- What is no syntax in an escaped value may need an escape all the same: an equals sign and a number sign. -/
theorem needsEscape_of_not_raw {c : Char} (h : isRaw c = false) : needsEscape c = (c == '=' || c == '#') := by
  simp only [isRaw, Bool.or_eq_false_iff] at h
  simp only [needsEscape, List.contains_cons, List.contains_nil, h, Bool.false_or, Bool.or_false]
  exact Bool.or_comm _ _

/-- **A value with two digits behind every backslash** is read just where nothing that needs an escape is in it. -/
theorem isValueFrom_iff {text : List Char} (h : EscapesBy isHexDigit text) :
    isValueFrom .plain text = true ↔ ∀ c ∈ text, needsEscape c = false := by
  refine h.induction ?nil (fun c text hc ih => ?literal) (fun c d text hc hd ih => ?pair)
  case nil => simp [isValueFrom]
  case literal =>
    rw [isValueFrom, if_neg (by simpa using hc), Bool.and_eq_true, ih, List.forall_mem_cons]
    simp
  case pair =>
    -- an escape is read as one unit
    have hread : isValueFrom .plain ('\\' :: c :: d :: text) = isValueFrom .plain text := by
      unfold isHexDigit at hc hd
      simp [isValueFrom, hc, hd]
    -- and neither the backslash nor its digits need escaping
    have hbackslash : needsEscape '\\' = false := rfl
    rw [hread, ih]
    simp [hbackslash, needsEscape_of_isHexDigit hc, needsEscape_of_isHexDigit hd]

/-! ## §2 Escaped values -/

/-- The character is read at an end of an escaped value: it is no blank, or a space, which is escaped there. -/
def keepsEnd (c : Char) : Bool :=
  !Text.isBlank c || c == ' '

/-- The escaped value is read as a value: it is not blank, and nothing is left in it that would need an escape. -/
def isReadable (value : String) : Bool :=
  !value.toList.contains '=' && !value.toList.tail.contains '#' && !(escapeValue value).toList.all Text.isBlank

/-- No blanks are taken off an escaped value: at the ends, it has no others than spaces. -/
def keepsEnds (value : String) : Bool :=
  value.toList.head?.all keepsEnd && value.toList.getLast?.all keepsEnd

/-- A blank that is escaped, or no blank at all: then what is written in its place is no blank. -/
theorem isBlank_iff_keepsEnd {c x : Char}
    (h : x = c ∧ c ≠ ' ' ∨ Text.isBlank x = false ∧ (Text.isBlank c = true → c = ' ')) :
    Text.isBlank x = false ↔ keepsEnd c = true := by
  rw [keepsEnd, Bool.or_eq_true, Bool.not_eq_true', beq_iff_eq]
  rcases h with ⟨rfl, hne⟩ | ⟨hblank, hspace⟩
  · simp [hne]
  · simp only [hblank, true_iff]
    exact Bool.eq_false_or_eq_true _ |>.symm.imp_right hspace

/-- **What is read of an escaped value**, without the blanks around it. -/
theorem isValue_strip (value : String) : isValue (Text.strip (escapeValue value)).toList = isReadable value := by
  have hescapes := (escapesBy_escapeValue value).trimList fun _ => isBlank_of_isHexDigit
  -- trimming takes away nothing that the reader would stop at
  have hleft {c : Char} (hc : Text.isBlank c = false) :
      c ∈ Text.trimList Text.isBlank (escapeValue value).toList ↔ c ∈ escapeChars value.toList := by
    rw [← toList_escapeValue]
    exact ⟨Text.mem_of_mem_trimList, fun h => Text.mem_trimList_of_mem h hc⟩
  have hneeds : (∀ c ∈ Text.trimList Text.isBlank (escapeValue value).toList, needsEscape c = false) ↔
      '=' ∉ value.toList ∧ '#' ∉ value.toList.tail := by
    rw [← equals_mem_escapeChars_iff, ← sharp_mem_escapeChars_iff, ← hleft (by decide), ← hleft (by decide)]
    constructor
    · intro h
      constructor
      · exact fun hmem => Bool.noConfusion ((h '=' hmem).symm.trans rfl)
      · exact fun hmem => Bool.noConfusion ((h '#' hmem).symm.trans rfl)
    · rintro ⟨hequals, hsharp⟩ c hc
      have hraw : isRaw c = false := by
        simpa using List.filter_eq_nil_iff.mp (filter_escapeValue value) c (Text.mem_of_mem_trimList hc)
      rw [needsEscape_of_not_raw hraw, Bool.or_eq_false_iff, beq_eq_false_iff_ne, beq_eq_false_iff_ne]
      exact ⟨fun h => hequals (h ▸ hc), fun h => hsharp (h ▸ hc)⟩
  rw [Text.strip, String.toList_ofList, Bool.eq_iff_iff, isValue, Bool.and_eq_true, isValueFrom_iff hescapes, hneeds]
  simp only [isReadable, Bool.and_eq_true, Bool.not_eq_true', List.contains_eq_mem, decide_eq_false_iff_not,
    List.isEmpty_eq_false_iff, ne_eq, Text.trimList_eq_nil_iff, Bool.not_eq_true]
  exact And.comm

/-- **Nothing is taken off** an escaped value just where its ends keep. -/
theorem strip_eq_iff (value : String) :
    Text.strip (escapeValue value) = escapeValue value ↔ keepsEnds value = true := by
  -- each end by itself: what is written there is a blank just where the character does not keep
  have hfirst : (∀ x, (escapeChars value.toList).head? = some x → Text.isBlank x = false) ↔
      value.toList.head?.all keepsEnd = true := by
    cases value.toList with
    | nil => simp [escapeChars]
    | cons c rest =>
      obtain ⟨x, hx, hcases⟩ := head?_escapeChars c rest
      have hiff : Text.isBlank x = false ↔ keepsEnd c = true := by
        apply isBlank_iff_keepsEnd
        rcases hcases with ⟨rfl, hne, -⟩ | ⟨rfl, hspace⟩
        · exact .inl ⟨rfl, hne⟩
        · exact .inr ⟨by decide, hspace⟩
      simpa [hx] using hiff
  have hlast : (∀ x, (escapeChars value.toList).getLast? = some x → Text.isBlank x = false) ↔
      value.toList.getLast?.all keepsEnd = true := by
    rcases hend : value.toList.getLast? with _ | c
    · simp [List.getLast?_eq_none_iff.mp hend, escapeChars]
    · obtain ⟨x, hx, hcases⟩ := getLast?_escapeChars hend
      have hiff : Text.isBlank x = false ↔ keepsEnd c = true := by
        apply isBlank_iff_keepsEnd
        rcases hcases with h | ⟨hdigit, hspace⟩
        · exact .inl h
        · exact .inr ⟨isBlank_of_isEscapeDigit hdigit, hspace⟩
      simpa [hx] using hiff
  rw [Text.strip, ← String.toList_inj, String.toList_ofList, toList_escapeValue, Text.trimList_eq_self_iff, hfirst,
    hlast, keepsEnds, Bool.and_eq_true]

/-! ## §3 Longer names -/

section Front

variable {kind text tail : List Char} (hkind : isAttributeType kind = true)
  (hescapes : EscapesBy isHexDigit text) (hraw : ∀ c ∈ text, isRaw c = false)
include hkind hescapes hraw

/-- A type and an escaped value hold no separator that counts. -/
theorem isWhole_assignment : IsWhole (kind ++ '=' :: text) := by
  have hplain : ∀ c ∈ kind, isSyntax c = false := fun _ hc => isSyntax_of_isTypeChar (isTypeChar_of_mem hkind hc)
  have hnone {mark : Char} (hmark : isRaw mark = true) : mark ∉ text := Text.not_mem_of_forall hraw hmark
  refine ⟨?_, ?_, ?_⟩
  · rw [marks_assignment hplain rfl (by decide)]
    exact marksFrom_eq_nil_of_not_mem (hnone rfl)
  · rw [marks_assignment hplain rfl (by decide)]
    exact marksFrom_eq_nil_of_not_mem (hnone rfl)
  · rcases List.eq_nil_or_concat' text with rfl | ⟨front, c, rfl⟩
    · rw [List.reverse_append]
      exact isUnescaped_cons_of_ne (by decide) _
    · -- a backslash at the end would have no digits behind it
      have hc : c ≠ '\\' := by
        rintro rfl
        obtain ⟨_, _, _, heq, -⟩ := hescapes [] (List.suffix_append front _)
        cases heq
      rw [List.reverse_append, List.reverse_cons, List.reverse_append]
      exact isUnescaped_cons_of_ne hc _

/-- **In front of a name** one component is added, if its value can be read. -/
theorem written?_assignment_append {parts : List (List Char)} (htail : written? tail = some parts) :
    written? (kind ++ '=' :: text ++ ',' :: tail) =
      if isValue (Text.trimList Text.isBlank text) = true then
        some ((kind ++ '=' :: Text.trimList Text.isBlank text) :: parts)
      else none := by
  -- the pieces of the tail follow a cut at the comma
  have hbegins := beginsAssignment_of_written? htail
  rw [written?_eq] at htail
  obtain ⟨rs, hrs, htail⟩ := Option.bind_eq_some_iff.mp htail
  rw [written?_eq, readings?_append (isWhole_assignment hkind hescapes hraw) hbegins (.inl rfl), hrs,
    assignment?_of_isAttributeType hkind]
  split
  · -- the assignment in front ends its component there
    rw [Option.bind_some, Option.map_some, Option.bind_some, List.isEmpty_cons, if_neg Bool.false_ne_true,
      components_comma]
    split at htail
    · cases htail
    · cases htail
      rfl
  · rfl

/-- In front of blanks, the comma is taken for a part of the value, where it would need an escape. -/
theorem written?_assignment_blank (htail : tail.all Text.isBlank = true) :
    written? (kind ++ '=' :: text ++ ',' :: tail) = none := by
  have hplain : ∀ c ∈ tail, isSyntax c = false := fun c hc => isSyntax_of_isBlank (List.all_eq_true.mp htail c hc)
  -- with nothing behind the comma, the comma would belong to the value
  have hvalue : isValue (Text.trimList Text.isBlank (text ++ ',' :: tail)) = false := by
    have hall : EscapesBy isHexDigit (text ++ ',' :: tail) :=
      hescapes.append (.literal (by decide) (.of_not_mem (Text.not_mem_of_forall hplain rfl)))
    have hcomma : ',' ∈ Text.trimList Text.isBlank (text ++ ',' :: tail) :=
      Text.mem_trimList_of_mem (by simp) (by decide)
    by_contra hvalue
    have hread := ((Bool.and_eq_true _ _).mp (eq_true_of_ne_false hvalue)).2
    cases (isValueFrom_iff (hall.trimList fun _ => isBlank_of_isHexDigit)).mp hread ',' hcomma
  -- nothing cuts the text, so it is read as one assignment
  have huncut := firstCut?_eq_none (isWhole_assignment hkind hescapes hraw) hplain
  rw [written?_eq, readings?, pieces_of_uncut (by simp) huncut, List.append_assoc, List.cons_append]
  show (((assignment? (kind ++ '=' :: (text ++ ',' :: tail))).map _).bind _).bind _ = none
  rw [assignment?_of_isAttributeType hkind, hvalue]
  rfl

end Front

/-- **A type and an escaped value in front of a name** are read as one more component, the least significant one, just
where the name is not blank and the value is readable; otherwise nothing is read. Blanks at the ends of the value are
lost, but for spaces. -/
theorem parse_assignment_append {kind dn : String} {parts : List String}
    (hkind : isAttributeType kind.toList = true) (value : String) (hdn : parse dn = .ok parts) :
    parse (kind ++ "=" ++ escapeValue value ++ "," ++ dn) =
      if parts ≠ [] ∧ isReadable value = true then
        .ok (parts ++ [kind ++ "=" ++ Text.strip (escapeValue value)])
      else .error (.directory (.invalidDn (kind ++ "=" ++ escapeValue value ++ "," ++ dn))) := by
  have hescapes := escapesBy_escapeValue value
  have hraw : ∀ c ∈ (escapeValue value).toList, isRaw c = false := fun c hc => by
    simpa using List.filter_eq_nil_iff.mp (filter_escapeValue value) c hc
  have htext : (kind ++ "=" ++ escapeValue value ++ "," ++ dn).toList =
      kind.toList ++ '=' :: (escapeValue value).toList ++ ',' :: dn.toList := by
    simp
  generalize kind ++ "=" ++ escapeValue value ++ "," ++ dn = name at htext ⊢
  have hname : name.toList.all Text.isBlank = false := List.all_eq_false.mpr ⟨'=', by simp [htext], by decide⟩
  rw [parse, hname, if_neg Bool.false_ne_true, htext]
  cases hblank : dn.toList.all Text.isBlank with
  | true =>
    -- the rest has no components, and the comma in front of it is none that counts
    rw [parse, hblank, if_pos rfl] at hdn
    cases hdn
    rw [written?_assignment_blank hkind hescapes hraw hblank, if_neg (fun h => h.1 rfl)]
  | false =>
    obtain ⟨written, hwritten, rfl⟩ := (parse_eq_ok_iff hblank).mp hdn
    have hne : written.reverse.map String.ofList ≠ [] := by simpa using (isComponent_of_written? hwritten).1
    have hvalue := isValue_strip value
    rw [Text.strip, String.toList_ofList] at hvalue
    rw [written?_assignment_append hkind hescapes hraw hwritten, hvalue]
    cases isReadable value with
    | true =>
      rw [if_pos rfl, if_pos ⟨hne, rfl⟩]
      simp [Text.strip, ← String.toList_inj]
    | false =>
      rw [if_neg Bool.false_ne_true, if_neg (fun h => Bool.false_ne_true h.2)]

end Name

end DirectoryLogin
