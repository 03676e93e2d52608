import DirectoryLogin.Roles
import DirectoryLogin.Proofs.Templates
import DirectoryLogin.Proofs.Text.Unescaping
/-!
# Filters Cannot Be Injected

A filter is a template whose slots take escaped values. Some slots take a value as it is, others take it as the value of
an attribute in a name, so that it is escaped twice. Whatever the values are, the syntax of the filter is the
template's own, every value can be read back from its slot, and other values give another filter.

- `Filter.arguments`: what goes into the slots.
- `Filter.syntax_and_values`: the syntax stays, the values are read back, other values give other filters.
-/

namespace DirectoryLogin

open Text (EscapesBy)

namespace Filter

/-! ## §1 Arguments -/

/-- What a filter says of a value: the value itself, or the form that the value has in a name. -/
def carried (inName : Bool) (value : String) : String :=
  if inName then Name.escapeValue value else value

/-- What goes into the slots of a filter. The slots in `inName` take values as they are in a name. -/
def arguments (inName : Nat → Bool) (values : List (Option String)) : List (Option String) :=
  values.mapIdx fun n value => value.map fun v => escape (carried (inName n) v)

variable {inName : Nat → Bool} {values : List (Option String)} {n : Nat} {value : Option String}

/-- The filter for the groups of a user takes the name of its entry as it is, the rest as in a name. -/
theorem roleFilter_eq_fill (template : Template) (dn username : String) (roleId : Option String) :
    Exchange.roleFilter template dn username roleId =
      template.fill (arguments (· != 0) [some dn, some username, roleId]) :=
  rfl

/-- The filter for the groups of a group takes the name of its entry as it is, its role as in a name. -/
theorem nestedFilter_eq_fill (template : Template) (g : Group) :
    Exchange.nestedFilter template g =
      template.fill (arguments (· != 0) [some g.dn, some g.name, some g.name]) :=
  rfl

/-! ## §2 One slot -/

/-- The text of a slot: an absent value is empty. -/
theorem fill_arguments (h : values[n]? = some value) :
    Template.Piece.fill (arguments inName values) (.slot n) =
      (escape (carried (inName n) (value.getD ""))).toList := by
  have hargument : (arguments inName values)[n]? =
      some (value.map fun v => escape (carried (inName n) v)) := by
    rw [arguments, List.getElem?_mapIdx, h]
    rfl
  rw [Template.fill_slot hargument]
  cases value with
  | some v => rfl
  | none => cases inName n <;> rfl

/-- A slot without a value stays. -/
theorem fill_arguments_of_none (h : values[n]? = none) :
    Template.Piece.fill (arguments inName values) (.slot n) = Template.slotText n := by
  have hargument : (arguments inName values)[n]? = none := by
    rw [arguments, List.getElem?_mapIdx, h]
    rfl
  rw [Template.Piece.fill, hargument]

/-- A slot that stays holds no syntax. -/
theorem filter_slotText (n : Nat) : (Template.slotText n).filter isRaw = [] :=
  Template.filter_slotText rfl rfl (fun c hc => isRaw_of_isEscapeDigit c (by simp [isEscapeDigit, hc])) n

/-- **No slot holds syntax.** -/
theorem filter_fill_slot (inName : Nat → Bool) (values : List (Option String)) (n : Nat) :
    (Template.Piece.fill (arguments inName values) (.slot n)).filter isRaw = [] := by
  cases h : values[n]? with
  | some value => rw [fill_arguments h, filter_escape]
  | none => rw [fill_arguments_of_none h, filter_slotText]

/-- What a filter says of a value is read back as the value. -/
theorem escape_carried_injective (inName : Bool) :
    Function.Injective fun v => escape (carried inName v) := by
  intro v v' h
  have hcarried : carried inName v = carried inName v' := by
    simpa using congrArg unescape? h
  cases inName with
  | false => exact hcarried
  | true => simpa [carried] using congrArg Name.unescape? hcarried

/-! ## §3 Whole filters -/

/-- Values that differ in one slot only give the same text everywhere else. -/
theorem fill_arguments_set {piece : Template.Piece} (hpiece : piece ≠ .slot n) :
    Template.Piece.fill (arguments inName values) piece =
      Template.Piece.fill (arguments inName (values.set n value)) piece := by
  cases piece with
  | literal c => rfl
  | slot m =>
    have hm : n ≠ m := fun h => hpiece (h ▸ rfl)
    simp only [Template.Piece.fill, arguments, List.getElem?_mapIdx, List.getElem?_set_ne hm]

/-- **Filters cannot be injected**, for every template and all values, present or not. The characters that are syntax in
a filter are those of the template. In a slot that is given a value, every backslash begins an escape of two lower case
digits, and reading the escapes gives back what the slot was to carry: the value, or its form in a name, from which
the value is read back in turn. So two lists of values that differ only in a slot which the template has give different
filters. -/
theorem syntax_and_values (t : Template) (inName : Nat → Bool) (values : List (Option String)) :
    (t.fill (arguments inName values)).toList.filter isRaw = t.literals.filter isRaw ∧
    (∀ n value, values[n]? = some value →
      let text := Template.Piece.fill (arguments inName values) (.slot n)
      EscapesBy isEscapeDigit text ∧
      unescape? (String.ofList text) = some (carried (inName n) (value.getD "")) ∧
      (inName n = true → (unescape? (String.ofList text)).bind Name.unescape? = some (value.getD ""))) ∧
    ∀ n value other, values[n]? = some value → .slot n ∈ t.pieces → value.getD "" ≠ other.getD "" →
      t.fill (arguments inName values) ≠ t.fill (arguments inName (values.set n other)) := by
  refine ⟨Template.filter_fill (filter_fill_slot inName values), fun n value hvalue => ?_,
    fun n value other hvalue hslot hne => ?_⟩
  · simp only [fill_arguments hvalue, String.ofList_toList, unescape?_escape]
    refine ⟨(written_escape _).escapesBy, trivial, fun hname => ?_⟩
    rw [Option.bind_some, hname, carried, if_pos rfl, Name.unescape?_escapeValue]
  · have hlength : n < values.length := (List.getElem?_eq_some_iff.mp hvalue).1
    have hother : (values.set n other)[n]? = some other := List.getElem?_set_self hlength
    refine Template.fill_ne_fill hslot (fun piece hpiece => fill_arguments_set hpiece) fun h => hne ?_
    rw [fill_arguments hvalue, fill_arguments hother, String.toList_inj] at h
    exact escape_carried_injective (inName n) h

/-! ### A run -/

/-- The groups whose owner or member is the user. -/
def memberOrOwner : Template where
  pattern := "(|(member={0})(owner={1}))"
  pieces := "(|(member=".toList.map .literal ++ [.slot 0] ++ ")(owner=".toList.map .literal ++ [.slot 1] ++
    "))".toList.map .literal

/-- A user name that looks like the rest of the filter is read back from it, and it finds no group of the user that it
begins with. -/
theorem syntax_and_values_memberOrOwner :
    Template.compile memberOrOwner.pattern = .ok memberOrOwner ∧
    (Exchange.roleFilter memberOrOwner "uid=ada" "ada)(cn=*" none).toList.filter isRaw =
      memberOrOwner.literals.filter isRaw ∧
    Exchange.roleFilter memberOrOwner "uid=ada" "ada)(cn=*" none ≠
      Exchange.roleFilter memberOrOwner "uid=ada" "ada" none :=
  have h := syntax_and_values memberOrOwner (· != 0) [some "uid=ada", some "ada)(cn=*", none]
  ⟨by decide +kernel, h.1, h.2.2 1 (some "ada)(cn=*") (some "ada") rfl (by decide) (by decide)⟩

end Filter

end DirectoryLogin
