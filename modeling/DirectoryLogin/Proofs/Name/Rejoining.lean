import DirectoryLogin.Proofs.Name.Cutting
import DirectoryLogin.Proofs.Text.Digits
/-!
# Names Put Together Again

A name is read as its components, and blanks around types and values are lost on the way. What is left is a name in
its own right: its components, put together with commas, are read as the same components again. For a component is made
of assignments whose values hold no unescaped separator, and these are cut apart where they were put together.

- `Name.IsComponent`: the grammar of a component.
- `Name.isComponent_of_written?`: every component that is read is of this form.
- `Name.written?_intercalate`: components of this form are read back.
- `rejoined_name_read_alike`: what is read of a name is read again.
-/

namespace DirectoryLogin

namespace Name

/-! ## §1 Types -/

/-- A character of a type of attribute. -/
def isTypeChar (c : Char) : Bool :=
  c.isAlphanum || c == '-' || c == '<'

theorem isTypeChar_of_mem {kind : List Char} (h : isAttributeType kind = true) {c : Char} (hc : c ∈ kind) :
    isTypeChar c = true := by
  unfold isAttributeType at h
  rcases (Bool.or_eq_true _ _).mp h with h | h
  · rw [eq_of_beq h] at hc
    simp only [List.mem_cons, List.not_mem_nil, or_false] at hc
    rcases hc with rfl | rfl | rfl | rfl | rfl <;> rfl
  · cases kind with
    | nil => cases h
    | cons d rest =>
      have hall := List.all_eq_true.mp ((Bool.and_eq_true _ _).mp h).2 c hc
      simp only [isTypeChar, Bool.or_eq_true] at hall ⊢
      exact .inl hall

theorem ne_nil_of_isAttributeType {kind : List Char} (h : isAttributeType kind = true) : kind ≠ [] := by
  rintro rfl
  cases h

theorem isSyntax_of_isTypeChar {c : Char} (h : isTypeChar c = true) : isSyntax c = false := by
  by_contra hmark
  simp only [Bool.not_eq_false, isSyntax, Bool.or_eq_true, beq_iff_eq, or_assoc] at hmark
  rcases hmark with rfl | rfl | rfl | rfl <;> cases h

theorem isBlank_of_isTypeChar {c : Char} (h : isTypeChar c = true) : Text.isBlank c = false := by
  simp only [isTypeChar, Bool.or_eq_true, beq_iff_eq] at h
  rcases h with (halphanum | rfl) | rfl
  · rcases Text.isAlphanum_cases halphanum with hrange | hrange | hrange
    · exact Text.isBlank_of_between (by decide) hrange
    · exact Text.isBlank_of_between (by decide) hrange
    · exact Text.isBlank_of_between (by decide) hrange
  · decide
  · decide

theorem isSyntax_of_isBlank {c : Char} (h : Text.isBlank c = true) : isSyntax c = false := by
  by_contra hmark
  simp only [Bool.not_eq_false, isSyntax, Bool.or_eq_true, beq_iff_eq, or_assoc] at hmark
  rcases hmark with rfl | rfl | rfl | rfl <;> revert h <;> decide

/-- A type holds no syntax, whatever blanks are around it. -/
theorem isSyntax_of_mem {kind : List Char} (h : isAttributeType (Text.trimList Text.isBlank kind) = true) :
    ∀ c ∈ kind, isSyntax c = false := by
  intro c hc
  cases hblank : Text.isBlank c with
  | true => exact isSyntax_of_isBlank hblank
  | false => exact isSyntax_of_isTypeChar (isTypeChar_of_mem h (Text.mem_trimList_of_mem hc hblank))

/-- There are no blanks around a type. -/
theorem trimList_of_isAttributeType {kind : List Char} (h : isAttributeType kind = true) :
    Text.trimList Text.isBlank kind = kind :=
  Text.trimList_eq_self (fun _ hc => isBlank_of_isTypeChar (isTypeChar_of_mem h (List.mem_of_head? hc)))
    fun _ hc => isBlank_of_isTypeChar (isTypeChar_of_mem h (List.mem_of_getLast? hc))

/-! ## §2 Assignments -/

/-- Splitting takes nothing away but the equals sign. -/
theorem eq_of_splitAssignment? {previous : Option Char} {cs kind value : List Char}
    (h : splitAssignment? previous cs = some (kind, value)) : cs = kind ++ '=' :: value := by
  induction cs generalizing previous kind with
  | nil => cases h
  | cons c rest ih =>
    rw [splitAssignment?] at h
    -- the equal sign that cuts
    split at h
    · rename_i hequal
      cases h
      rw [eq_of_beq ((Bool.and_eq_true _ _).mp hequal).1]
      rfl
    · -- a character of the kind in front of it
      obtain ⟨⟨kind', value'⟩, hrest, heq⟩ := Option.map_eq_some_iff.mp h
      cases heq
      rw [ih hrest]
      rfl

/-- An assignment is split at the first equals sign behind plain characters. -/
theorem splitAssignment?_append {previous : Option Char} {kind : List Char} (hkind : ∀ c ∈ kind, isSyntax c = false)
    (hprevious : kind ≠ [] ∨ previous.any (· != '\\') = true) (value : List Char) :
    splitAssignment? previous (kind ++ '=' :: value) = some (kind, value) := by
  induction kind generalizing previous with
  | nil => simp [splitAssignment?, hprevious.resolve_left (fun h => h rfl)]
  | cons c rest ih =>
    have hplain := hkind c List.mem_cons_self
    -- a character of the kind neither cuts nor escapes
    have hequal : (c == '=') = false := by
      rw [beq_eq_false_iff_ne]
      rintro rfl
      cases hplain
    have hbackslash : c ≠ '\\' := by
      rintro rfl
      cases hplain
    have hprevious : rest ≠ [] ∨ (some c).any (· != '\\') = true := .inr (by simpa using hbackslash)
    have hrest := ih (fun d hd => hkind d (List.mem_cons_of_mem c hd)) hprevious
    rw [List.cons_append, splitAssignment?, hequal, Bool.false_and, if_neg Bool.false_ne_true, hrest]
    rfl

/-- What is read as an assignment: a type and a value, and no blanks around the value. -/
structure IsAssignment (kind value : List Char) : Prop where
  isType : isAttributeType kind = true
  isValue : isValue value = true
  trimmed : Text.trimList Text.isBlank value = value

/-- An assignment as it is read: the type, and the value without the blanks around it. -/
theorem assignment?_append {kind : List Char} (hkind : isAttributeType (Text.trimList Text.isBlank kind) = true)
    (value : List Char) :
    assignment? (kind ++ '=' :: value) =
      if isValue (Text.trimList Text.isBlank value) = true then
        some (Text.trimList Text.isBlank kind ++ '=' :: Text.trimList Text.isBlank value)
      else none := by
  have hne : kind ≠ [] := by
    rintro rfl
    cases hkind
  rw [assignment?, splitAssignment?_append (isSyntax_of_mem hkind) (.inl hne)]
  simp [hkind]

/-- An assignment behind a type without blanks. -/
theorem assignment?_of_isAttributeType {kind : List Char} (hkind : isAttributeType kind = true) (value : List Char) :
    assignment? (kind ++ '=' :: value) =
      if isValue (Text.trimList Text.isBlank value) = true then
        some (kind ++ '=' :: Text.trimList Text.isBlank value)
      else none := by
  have htrim := trimList_of_isAttributeType hkind
  rw [assignment?_append (htrim.symm ▸ hkind), htrim]

/-- An assignment is read as it is. -/
theorem IsAssignment.assignment?_eq {kind value : List Char} (h : IsAssignment kind value) :
    assignment? (kind ++ '=' :: value) = some (kind ++ '=' :: value) := by
  rw [assignment?_of_isAttributeType h.isType, h.trimmed, if_pos h.isValue]

/-- Whatever is read as an assignment is one, and it was one with blanks. -/
theorem of_assignment? {cs a : List Char} (h : assignment? cs = some a) :
    BeginsAssignment cs ∧ ∃ kind value, IsAssignment kind value ∧ a = kind ++ '=' :: value := by
  rw [assignment?] at h
  obtain ⟨⟨kind, value⟩, hsplit, hrest⟩ := Option.bind_eq_some_iff.mp h
  dsimp only at hrest
  split at hrest
  · rename_i hvalid
    cases hrest
    obtain ⟨hkind, hvalue⟩ := (Bool.and_eq_true _ _).mp hvalid
    -- an empty kind is no attribute type
    have hne : kind ≠ [] := by
      rintro rfl
      cases hkind
    exact ⟨⟨kind, value, eq_of_splitAssignment? hsplit, hne, isSyntax_of_mem hkind⟩, _, _,
      ⟨hkind, hvalue, Text.trimList_trimList _ _⟩, rfl⟩
  · cases hrest

/-! ## §3 Values -/

/-- A character that needs an escape is no hexadecimal digit. -/
theorem hexDigit?_of_needsEscape {c : Char} (h : needsEscape c = true) : Text.hexDigit? c = none := by
  simp only [needsEscape, List.contains_cons, List.contains_nil, Bool.or_false, Bool.or_eq_true, beq_iff_eq] at h
  rcases h with rfl | rfl | rfl | rfl | rfl | rfl | rfl | rfl | rfl <;> rfl

/-- One more character of a value: after an odd number of backslashes the reader is inside an escape, and a character
that needs an escape counts nowhere else. -/
theorem isValueFrom_step {state : ValueState} {before rest : List Char} {c : Char} (hbefore : 2 ≤ before.length)
    (hstate : isUnescaped before = (state != .escape)) (hvalue : isValueFrom state (c :: rest) = true) :
    ∃ state', isValueFrom state' rest = true ∧ isUnescaped (c :: before) = (state' != .escape) ∧
      ∀ mark, needsEscape mark = true → (c == mark && isUnescaped before) = false := by
  have hother (hneeds : needsEscape c = false) (mark : Char) (hmark : needsEscape mark = true) :
      (c == mark && isUnescaped before) = false := by
    have hne : c ≠ mark := by
      rintro rfl
      rw [hmark] at hneeds
      cases hneeds
    simp [hne]
  have hdigit (hhex : (Text.hexDigit? c).isSome = true) : c ≠ '\\' ∧ needsEscape c = false := by
    constructor
    · rintro rfl
      cases hhex
    · by_contra hneeds
      rw [hexDigit?_of_needsEscape (by simpa using hneeds)] at hhex
      cases hhex
  cases state with
  | plain =>
    rw [isValueFrom] at hvalue
    split at hvalue
    · rename_i hbackslash
      obtain rfl : c = '\\' := eq_of_beq hbackslash
      exact ⟨.escape, hvalue, by rw [isUnescaped_backslash hbefore, hstate]; rfl, hother rfl⟩
    · rename_i hbackslash
      obtain ⟨hneeds, hvalue⟩ := (Bool.and_eq_true _ _).mp hvalue
      exact ⟨.plain, hvalue, isUnescaped_cons_of_ne (by simpa using hbackslash) _, hother (by simpa using hneeds)⟩
  | escape =>
    -- behind the backslash no mark counts
    have hescaped : isUnescaped before = false := hstate
    have hnomark (mark : Char) (_ : needsEscape mark = true) : (c == mark && isUnescaped before) = false := by
      rw [hescaped, Bool.and_false]
    rw [isValueFrom] at hvalue
    split at hvalue
    · rename_i hhex
      exact ⟨.pair, hvalue, isUnescaped_cons_of_ne (hdigit hhex).1 _, hnomark⟩
    · refine ⟨.plain, ((Bool.and_eq_true _ _).mp hvalue).2, ?_, hnomark⟩
      by_cases hbackslash : c = '\\'
      · rw [hbackslash, isUnescaped_backslash hbefore, hescaped]
        rfl
      · exact isUnescaped_cons_of_ne hbackslash _
  | pair =>
    rw [isValueFrom] at hvalue
    obtain ⟨hhex, hvalue⟩ := (Bool.and_eq_true _ _).mp hvalue
    exact ⟨.plain, hvalue, isUnescaped_cons_of_ne (hdigit hhex).1 _, hother (hdigit hhex).2⟩

/-- **Reading a value**: nothing that needs an escape counts in it, and behind it a mark does count. -/
theorem isValueFrom_run {state : ValueState} {before cs : List Char} (hbefore : 2 ≤ before.length)
    (hstate : isUnescaped before = (state != .escape)) (hvalue : isValueFrom state cs = true) :
    isUnescaped (cs.reverse ++ before) = true ∧
      ∀ mark, needsEscape mark = true → marksFrom mark before cs = [] := by
  induction cs generalizing state before with
  | nil =>
    -- at the end: the value must not stop in an escape
    refine ⟨?_, fun _ _ => rfl⟩
    rw [List.reverse_nil, List.nil_append, hstate]
    cases state <;> simp_all [isValueFrom]
  | cons c rest ih =>
    -- the state says whether the next character is escaped, and a mark that needs escaping is
    obtain ⟨state', hvalue', hstate', hnomark⟩ := isValueFrom_step hbefore hstate hvalue
    have hlength : 2 ≤ (c :: before).length := by simp; omega
    obtain ⟨hend, hmarks⟩ := ih hlength hstate' hvalue'
    refine ⟨by simpa using hend, fun mark hmark => ?_⟩
    rw [marksFrom, hnomark mark hmark, if_neg Bool.false_ne_true]
    exact hmarks mark hmark

/-- The marks behind the type of an assignment are those of its value. -/
theorem marks_assignment {kind : List Char} (hkind : ∀ c ∈ kind, isSyntax c = false) {mark : Char}
    (hmark : isSyntax mark = true) (hother : mark ≠ '=') (value : List Char) :
    marks mark (kind ++ '=' :: value) = marksFrom mark ('=' :: kind.reverse) value := by
  have hplain : marksFrom mark [] kind = [] := marksFrom_eq_nil_of_not_mem (Text.not_mem_of_forall hkind hmark)
  have hequal : ('=' == mark) = false := by simpa using hother.symm
  rw [marks, marksFrom_append, hplain, List.nil_append, List.append_nil, marksFrom, hequal]
  rfl

namespace IsAssignment

variable {kind value : List Char} (h : IsAssignment kind value)
include h

theorem plain : ∀ c ∈ kind, isSyntax c = false :=
  fun _ hc => isSyntax_of_isTypeChar (isTypeChar_of_mem h.isType hc)

theorem run_value : isUnescaped (value.reverse ++ '=' :: kind.reverse) = true ∧
    ∀ mark, needsEscape mark = true → marksFrom mark ('=' :: kind.reverse) value = [] := by
  have hlength : 0 < kind.length := List.length_pos_iff.mpr (ne_nil_of_isAttributeType h.isType)
  have hbefore : 2 ≤ ('=' :: kind.reverse).length := by simp; omega
  exact isValueFrom_run hbefore (isUnescaped_cons_of_ne (by decide) _) ((Bool.and_eq_true _ _).mp h.isValue).2

/-- **An assignment is whole**: no separator counts in it. -/
theorem isWhole : IsWhole (kind ++ '=' :: value) where
  noComma := by
    rw [marks_assignment h.plain rfl (by decide)]
    exact h.run_value.2 ',' rfl
  noPlus := by
    rw [marks_assignment h.plain rfl (by decide)]
    exact h.run_value.2 '+' rfl
  unescaped := by simpa using h.run_value.1

theorem beginsAssignment : BeginsAssignment (kind ++ '=' :: value) :=
  ⟨kind, value, rfl, ne_nil_of_isAttributeType h.isType, h.plain⟩

end IsAssignment

/-! ## §4 Components -/

/-- A component: assignments with plus signs between them. -/
inductive IsComponent : List Char → Prop
  | single {kind value : List Char} (h : IsAssignment kind value) : IsComponent (kind ++ '=' :: value)
  | plus {kind value rest : List Char} (h : IsAssignment kind value) (hrest : IsComponent rest) :
      IsComponent (kind ++ '=' :: value ++ '+' :: rest)

/-- A component with some more behind it. -/
def addTo (pending cs : List Char) : List Char :=
  if pending.isEmpty then cs else pending ++ '+' :: cs

theorem components_comma (pending a : List Char) (rs : List (List Char × Option Char)) :
    components pending ((a, some ',') :: rs) = addTo pending a :: components [] rs :=
  rfl

theorem addTo_addTo {a : List Char} (ha : a ≠ []) (pending rest : List Char) :
    addTo (addTo pending a) rest = addTo pending (a ++ '+' :: rest) := by
  cases pending with
  | nil => cases a with
    | nil => exact absurd rfl ha
    | cons c cs => rfl
  | cons c cs => simp [addTo]

namespace IsComponent

variable {cs : List Char}

theorem beginsAssignment (h : IsComponent cs) : BeginsAssignment cs := by
  cases h with
  | single h => exact h.beginsAssignment
  | plus h _ => exact h.beginsAssignment.append _

/-- One more assignment behind a component. -/
theorem concat (h : IsComponent cs) {kind value : List Char} (ha : IsAssignment kind value) :
    IsComponent (cs ++ '+' :: (kind ++ '=' :: value)) := by
  induction h with
  | single h => exact .plus h (.single ha)
  | plus h _ ih =>
    rw [List.append_assoc, List.cons_append]
    exact .plus h ih

/-- **A component** in front of a comma is read as one. -/
theorem readings?_comma (h : IsComponent cs) {tail : List Char} (htail : BeginsAssignment tail) (pending : List Char) :
    (readings? (cs ++ ',' :: tail)).map (components pending) =
      (readings? tail).map fun rs => addTo pending cs :: components [] rs := by
  induction h generalizing pending with
  | single h =>
    rw [readings?_append h.isWhole htail (.inl rfl), h.assignment?_eq, Option.bind_some, Option.map_map]
    rfl
  | @plus kind value rest h hrest ih =>
    have hwhole := h.isWhole
    rw [List.append_assoc, List.cons_append, readings?_append hwhole (hrest.beginsAssignment.append _) (.inr rfl),
      h.assignment?_eq, Option.bind_some, Option.map_map, ← addTo_addTo hwhole.ne_nil, ← ih]
    rfl

/-- **A component** at the end is read as one. -/
theorem readings?_last (h : IsComponent cs) (pending : List Char) :
    (readings? cs).map (components pending) = some [addTo pending cs] := by
  induction h generalizing pending with
  | single h =>
    rw [readings?_whole h.isWhole, h.assignment?_eq]
    rfl
  | @plus kind value rest h hrest ih =>
    have hwhole := h.isWhole
    rw [readings?_append hwhole hrest.beginsAssignment (.inr rfl), h.assignment?_eq, Option.bind_some, Option.map_map,
      ← addTo_addTo hwhole.ne_nil, ← ih]
    rfl

end IsComponent

/-- **Components with commas between them** are read back. -/
theorem readings?_intercalate {parts : List (List Char)} (hne : parts ≠ []) (hparts : ∀ p ∈ parts, IsComponent p) :
    BeginsAssignment ([','].intercalate parts) ∧
      (readings? ([','].intercalate parts)).map (components []) = some parts := by
  induction parts with
  | nil => exact absurd rfl hne
  | cons part rest ih =>
    -- induction on the parts: a comma in front of something that begins like an assignment ends a part
    obtain ⟨hpart, hrest⟩ := List.forall_mem_cons.mp hparts
    cases rest with
    | nil =>
      rw [List.intercalate_singleton]
      exact ⟨hpart.beginsAssignment, hpart.readings?_last []⟩
    | cons next rest =>
      -- the rest begins with the next part, so it is read as the induction hypothesis says
      obtain ⟨hbegins, hread⟩ := ih (List.cons_ne_nil _ _) hrest
      rw [List.intercalate_cons_cons, List.append_assoc, List.singleton_append]
      refine ⟨hpart.beginsAssignment.append _, ?_⟩
      rw [hpart.readings?_comma hbegins]
      obtain ⟨rs, hrs, heq⟩ := Option.map_eq_some_iff.mp hread
      rw [hrs, Option.map_some, heq]
      rfl

theorem written?_intercalate {parts : List (List Char)} (hne : parts ≠ []) (hparts : ∀ p ∈ parts, IsComponent p) :
    written? ([','].intercalate parts) = some parts := by
  obtain ⟨rs, hrs, heq⟩ := Option.map_eq_some_iff.mp (readings?_intercalate hne hparts).2
  have hsome : rs ≠ [] := by
    rintro rfl
    exact hne heq.symm
  rw [written?_eq, hrs, Option.bind_some, if_neg (by simpa using hsome), heq]

/-! ## §5 What is read -/

/-- What is read of a name are assignments. -/
theorem of_readings? {cs : List Char} {rs : List (List Char × Option Char)} (h : readings? cs = some rs) :
    ∀ r ∈ rs, ∃ kind value, IsAssignment kind value ∧ r.1 = kind ++ '=' :: value := by
  unfold readings? at h
  generalize glue (pieces cs) = ps at h
  -- the induction is on the pieces, each of which is one reading
  induction ps generalizing rs with
  | nil =>
    cases h
    exact fun _ hr => absurd hr List.not_mem_nil
  | cons p rest ih =>
    rw [List.mapM_cons] at h
    obtain ⟨r, hr, h⟩ := Option.bind_eq_some_iff.mp h
    obtain ⟨rs', hrs', h⟩ := Option.bind_eq_some_iff.mp h
    cases h
    obtain ⟨a, ha, rfl⟩ := Option.map_eq_some_iff.mp hr
    obtain ⟨-, kind, value, hassignment, rfl⟩ := of_assignment? ha
    exact List.forall_mem_cons.mpr ⟨⟨kind, value, hassignment, rfl⟩, ih hrs'⟩

/-- One more assignment behind what is pending makes a component. -/
theorem IsComponent.addTo {pending kind value : List Char} (hpending : pending = [] ∨ IsComponent pending)
    (h : IsAssignment kind value) : IsComponent (addTo pending (kind ++ '=' :: value)) := by
  rcases hpending with rfl | hpending
  · exact .single h
  · have hne : pending ≠ [] := hpending.beginsAssignment.ne_nil
    rw [Name.addTo, if_neg (by simpa using hne)]
    exact hpending.concat h

section Components

variable {pending : List Char} {rs : List (List Char × Option Char)} (hpending : pending = [] ∨ IsComponent pending)
  (hrs : ∀ r ∈ rs, ∃ kind value, IsAssignment kind value ∧ r.1 = kind ++ '=' :: value)
include hpending hrs

/-- **What is put together** from assignments are components. -/
theorem isComponent_of_mem_components : ∀ part ∈ components pending rs, IsComponent part := by
  induction rs generalizing pending with
  | nil =>
    -- what is pending in the end is a part if there is anything
    rcases hpending with rfl | hpending
    · exact fun _ h => absurd h List.not_mem_nil
    · have hne : pending ≠ [] := hpending.beginsAssignment.ne_nil
      rw [components, if_neg (by simpa using hne)]
      exact List.forall_mem_singleton.mpr hpending
  | cons r rest ih =>
    obtain ⟨a, separator⟩ := r
    obtain ⟨⟨kind, value, h, rfl⟩, hrest⟩ := List.forall_mem_cons.mp hrs
    have hwhole : IsComponent (addTo pending (kind ++ '=' :: value)) := .addTo hpending h
    -- behind a plus the part goes on, and otherwise it is done
    show ∀ part ∈ (if separator == some '+' then components (addTo pending (kind ++ '=' :: value)) rest
      else addTo pending (kind ++ '=' :: value) :: components [] rest), IsComponent part
    split
    · exact ih (.inr hwhole) hrest
    · exact List.forall_mem_cons.mpr ⟨hwhole, ih (.inl rfl) hrest⟩

/-- Nothing that is pending or behind it is lost. -/
theorem components_ne_nil (hne : pending ≠ [] ∨ rs ≠ []) : components pending rs ≠ [] := by
  induction rs generalizing pending with
  | nil =>
    rw [components, if_neg (by simpa using hne)]
    exact List.cons_ne_nil _ _
  | cons r rest ih =>
    obtain ⟨a, separator⟩ := r
    obtain ⟨⟨kind, value, h, rfl⟩, hrest⟩ := List.forall_mem_cons.mp hrs
    -- the assignment joins the component that is being gathered
    have hwhole : IsComponent (addTo pending (kind ++ '=' :: value)) := .addTo hpending h
    show (if separator == some '+' then components (addTo pending (kind ++ '=' :: value)) rest
      else addTo pending (kind ++ '=' :: value) :: components [] rest) ≠ []
    split
    · exact ih (.inr hwhole) hrest (.inl hwhole.beginsAssignment.ne_nil)
    · exact List.cons_ne_nil _ _

end Components

/-- **Every component that is read** is of this form, and there is one. -/
theorem isComponent_of_written? {cs : List Char} {parts : List (List Char)} (h : written? cs = some parts) :
    parts ≠ [] ∧ ∀ part ∈ parts, IsComponent part := by
  rw [written?_eq] at h
  obtain ⟨rs, hrs, h⟩ := Option.bind_eq_some_iff.mp h
  split at h
  · cases h
  · rename_i hne
    cases h
    have hassignments := of_readings? hrs
    exact ⟨components_ne_nil (.inl rfl) hassignments (.inr (by simpa using hne)),
      isComponent_of_mem_components (.inl rfl) hassignments⟩

/-- What is read at all begins an assignment. -/
theorem beginsAssignment_of_written? {cs : List Char} {parts : List (List Char)} (h : written? cs = some parts) :
    BeginsAssignment cs := by
  rw [written?_eq, readings?] at h
  obtain ⟨rs, hrs, h⟩ := Option.bind_eq_some_iff.mp h
  have hcs := flatMap_written_glue_pieces cs
  cases hpieces : glue (pieces cs) with
  | nil =>
    -- without a piece there is no component
    rw [hpieces] at hrs
    cases hrs
    cases h
  | cons p rest =>
    rw [hpieces, List.mapM_cons] at hrs
    obtain ⟨r, hr, -⟩ := Option.bind_eq_some_iff.mp hrs
    obtain ⟨a, ha, -⟩ := Option.map_eq_some_iff.mp hr
    rw [← hcs, hpieces, List.flatMap_cons, Piece.written, List.append_assoc]
    exact (of_assignment? ha).1.append _

/-! ## §6 Types and values -/

/-- Wherever a character stands in a text, an odd number of backslashes is right before it. -/
def IsEscapedIn (text : List Char) (c : Char) : Prop :=
  ∀ front back, text = front ++ c :: back → (front.reverse.takeWhile (· == '\\')).length % 2 = 1

/-- In a value a mark counts if an even number of backslashes is before it: no run of them reaches beyond the equals
sign. -/
theorem isUnescaped_value {kind : List Char} (hkind : kind ≠ []) (before : List Char) :
    isUnescaped (before ++ '=' :: kind) = ((before.takeWhile (· == '\\')).length % 2 == 0) := by
  have hlength : 0 < kind.length := List.length_pos_iff.mpr hkind
  induction before with
  | nil => exact isUnescaped_cons_of_ne (by decide) kind
  | cons c rest ih =>
    -- each backslash in front turns the parity round
    by_cases hc : c = '\\'
    · subst hc
      rw [List.cons_append, isUnescaped_backslash (by simp; omega), ih, List.takeWhile_cons_of_pos (by rfl),
        List.length_cons]
      generalize (rest.takeWhile (· == '\\')).length = run
      rcases Nat.mod_two_eq_zero_or_one run with h | h <;> simp [Nat.add_mod, h]
    · rw [List.cons_append, isUnescaped_cons_of_ne hc, List.takeWhile_cons_of_neg (by simpa using hc)]
      rfl

/-- What needs an escape has one in a value. -/
theorem IsAssignment.isEscapedIn {kind value : List Char} (h : IsAssignment kind value) {c : Char}
    (hc : needsEscape c = true) : IsEscapedIn value c := by
  rintro front back rfl
  have hkind : kind.reverse ≠ [] := by simpa using ne_nil_of_isAttributeType h.isType
  by_contra hodd
  have hcounts : isUnescaped (front.reverse ++ '=' :: kind.reverse) = true := by
    rw [isUnescaped_value hkind]
    simpa using hodd
  have hmem : ('=' :: kind.reverse).length + front.length ∈ marksFrom c ('=' :: kind.reverse) (front ++ c :: back) :=
    mem_marksFrom_iff.mpr ⟨front, back, rfl, rfl, hcounts⟩
  rw [h.run_value.2 c hc] at hmem
  cases hmem

/-- A type and a value that hold no separator: both are there, and the separators in the value are escaped. -/
structure HoldsNoSeparator (kind value : String) : Prop where
  isType : isAttributeType kind.toList = true
  kind_ne : kind ≠ ""
  value_ne : value ≠ ""
  comma : IsEscapedIn value.toList ','
  plus : IsEscapedIn value.toList '+'

theorem IsAssignment.holdsNoSeparator {kind value : List Char} (h : IsAssignment kind value) :
    HoldsNoSeparator (String.ofList kind) (String.ofList value) where
  isType := by simpa using h.isType
  kind_ne := by simpa using ne_nil_of_isAttributeType h.isType
  value_ne := by
    have hvalue := ((Bool.and_eq_true _ _).mp h.isValue).1
    simpa using hvalue
  comma := by simpa using h.isEscapedIn (c := ',') rfl
  plus := by simpa using h.isEscapedIn (c := '+') rfl

/-- The assignments of a component, as text. -/
theorem IsComponent.exists_assignments {cs : List Char} (h : IsComponent cs) :
    ∃ assignments : List (String × String), assignments ≠ [] ∧
      String.ofList cs = "+".intercalate (assignments.map fun a => a.1 ++ "=" ++ a.2) ∧
      ∀ a ∈ assignments, HoldsNoSeparator a.1 a.2 := by
  induction h with
  | @single kind value h =>
    -- a component of one assignment
    refine ⟨[(String.ofList kind, String.ofList value)], List.cons_ne_nil _ _, ?_,
      List.forall_mem_singleton.mpr h.holdsNoSeparator⟩
    rw [List.map_singleton, String.intercalate_singleton, ← String.toList_inj]
    simp
  | @plus kind value rest h hrest ih =>
    -- one more assignment in front of a component
    obtain ⟨assignments, hne, htext, hall⟩ := ih
    refine ⟨(String.ofList kind, String.ofList value) :: assignments, List.cons_ne_nil _ _, ?_,
      List.forall_mem_cons.mpr ⟨h.holdsNoSeparator, hall⟩⟩
    rw [List.map_cons, String.intercalate_cons_of_ne_nil (by simpa using hne), ← htext, ← String.toList_inj]
    simp

/-! ## §7 The theorem -/

/-- A name that is not blank is read as its components, the last one first. -/
theorem parse_eq_ok_iff {dn : String} (hblank : dn.toList.all Text.isBlank = false) {parts : List String} :
    parse dn = .ok parts ↔ ∃ written, written? dn.toList = some written ∧
      parts = written.reverse.map String.ofList := by
  rw [parse, hblank, if_neg Bool.false_ne_true]
  cases written? dn.toList with
  | none => simp
  | some written => simp [eq_comm]

theorem BeginsAssignment.not_blank {cs : List Char} (h : BeginsAssignment cs) : cs.all Text.isBlank = false := by
  obtain ⟨front, more, rfl, -⟩ := h
  rw [List.all_eq_false]
  exact ⟨'=', by simp, by decide⟩

end Name

open Name

/-- **What is read of a name is read again.** Let a name be read as some components, the most significant one first. Put
together with commas in the order in which they were written, they are read as the same components. Each of them is made
of assignments with plus signs between them: a type, an equals sign and a value, neither of them empty, and no comma or
plus sign stands in the value without an escape. -/
theorem rejoined_name_read_alike {dn : String} {parts : List String} (h : Name.parse dn = .ok parts) :
    Name.parse (",".intercalate parts.reverse) = .ok parts ∧
    ∀ part ∈ parts, ∃ assignments : List (String × String), assignments ≠ [] ∧
      part = "+".intercalate (assignments.map fun a => a.1 ++ "=" ++ a.2) ∧
      ∀ a ∈ assignments, HoldsNoSeparator a.1 a.2 := by
  cases hblank : dn.toList.all Text.isBlank with
  | true =>
    -- a blank name has no components
    rw [Name.parse, hblank, if_pos rfl] at h
    cases h
    exact ⟨rfl, fun _ hpart => absurd hpart List.not_mem_nil⟩
  | false =>
    obtain ⟨written, hwritten, rfl⟩ := (parse_eq_ok_iff hblank).mp h
    obtain ⟨hne, hparts⟩ := isComponent_of_written? hwritten
    have hjoined :
        (",".intercalate (written.reverse.map String.ofList).reverse).toList = [','].intercalate written := by
      rw [String.toList_intercalate, ← List.map_reverse, List.reverse_reverse, List.map_map]
      simp [Function.comp_def]
    constructor
    · have hbegins := (readings?_intercalate hne hparts).1
      rw [parse_eq_ok_iff (by rw [hjoined]; exact hbegins.not_blank), hjoined]
      exact ⟨written, written?_intercalate hne hparts, rfl⟩
    · intro part hpart
      obtain ⟨cs, hcs, rfl⟩ := List.mem_map.mp hpart
      exact (hparts cs (List.mem_reverse.mp hcs)).exists_assignments

/-- Blanks are lost, and what is left is read again: a component of two assignments, and an escaped comma in a value. -/
theorem name_with_blanks_read_again :
    Name.parse " uid = ada + cn=Lace\\, Ada ,ou=people" = .ok ["ou=people", "uid=ada+cn=Lace\\, Ada"] ∧
    Name.parse "uid=ada+cn=Lace\\, Ada,ou=people" = .ok ["ou=people", "uid=ada+cn=Lace\\, Ada"] :=
  have h : Name.parse " uid = ada + cn=Lace\\, Ada ,ou=people" = .ok ["ou=people", "uid=ada+cn=Lace\\, Ada"] := by
    decide +kernel
  ⟨h, (rejoined_name_read_alike h).1⟩

end DirectoryLogin
