import DirectoryLogin.Proofs.Name.EscapedValues
import DirectoryLogin.Proofs.Templates
import DirectoryLogin.Proofs.Users.EntryNames
/-!
# Names Cannot Be Injected Into Patterns

A pattern gives a user the name of an entry, with the escaped user name in its slots. Whatever the user name is, the
syntax of the name is the pattern's own, and the user name can be read back from its slot. So users with different names
have different entries.

- `Template.filter_nameOf`: the syntax of a name is that of the pattern.
- `Template.nameOf_injective`: different users have different names.
- `pattern_names_not_injected`: what holds of every pattern and every user name.
-/

namespace DirectoryLogin

open Text (EscapesBy)

namespace Template

/-! ## §1 Syntax -/

/-- A digit of any script is no syntax in a name. -/
theorem isRaw_of_decimalDigit? (c : Char) (h : (Text.decimalDigit? c).isSome = true) : Name.isRaw c = false := by
  by_contra hraw
  simp only [Bool.not_eq_false, Name.isRaw, Bool.or_eq_true, beq_iff_eq, or_assoc] at hraw
  rcases hraw with rfl | rfl | rfl | rfl | rfl | rfl | rfl <;> cases h

/-- No slot holds syntax. -/
theorem filter_fill_nameOf (username : String) (n : Nat) :
    (Piece.fill [some (Name.escapeValue username)] (.slot n)).filter Name.isRaw = [] := by
  rw [fill_nameOf]
  split
  · exact Name.filter_escapeValue username
  · exact filter_slotText rfl rfl (fun c hc => Name.isRaw_of_isEscapeDigit c (by simp [Name.isEscapeDigit, hc])) n

/-- **The syntax of a name** is that of the pattern. -/
theorem filter_nameOf (t : Template) (username : String) :
    (t.nameOf username).toList.filter Name.isRaw = t.literals.filter Name.isRaw :=
  filter_fill (filter_fill_nameOf username)

/-! ## §2 Different users -/

/-- **Different users** have different names, however often the pattern takes the user name. -/
theorem nameOf_injective {t : Template} (hslot : .slot 0 ∈ t.pieces) : Function.Injective t.nameOf := by
  intro username other heq
  by_contra hne
  refine fill_ne_fill hslot (fun piece hpiece => ?_) (fun hsame => hne ?_) heq
  · -- only the slot of the user name depends on the user name
    cases piece with
    | literal c => rfl
    | slot n =>
      have hn : n ≠ 0 := fun h => hpiece (h ▸ rfl)
      rw [fill_nameOf, fill_nameOf, if_neg hn, if_neg hn]
  · rw [fill_nameOf, fill_nameOf, if_pos rfl, if_pos rfl, String.toList_inj] at hsame
    simpa using congrArg Name.unescape? hsame

end Template

/-! ## §3 Lookups -/

/-- A user who is found by a pattern has the name that the pattern gives. -/
theorem Exchange.dn_of_userByPattern {h : Handle} {name : String} {password : Option Password} {ids : List String}
    {index : Int} {ch ch' : Channel} {user : User} {patterns : List Template} {t : Template}
    (hpatterns : h.templates.userPatterns = some patterns) (hat : patternAt patterns index = .ok (some t))
    (hrun : (userByPattern h (some name) password ids index).perform ch = (.ok (some user), ch')) :
    user.dn = some (t.nameOf name) := by
  by_cases hids : ids = []
  · -- nothing is read of the entry
    subst hids
    unfold userByPattern at hrun
    rw [hpatterns] at hrun
    obtain ⟨pattern, ch₀, hpattern, hrun⟩ := Session.of_perform_bind_ok hrun
    have hsome : pattern = some t := Except.ok.inj ((congrArg Prod.fst hpattern).symm.trans hat)
    rw [hsome] at hrun
    cases hrun
    rfl
  · obtain ⟨patterns', t', hpatterns', hat', hdn, -⟩ := userByPattern_reads hids hrun
    rw [hpatterns] at hpatterns'
    cases hpatterns'
    rw [hat] at hat'
    cases hat'
    exact hdn

/-! ## §4 The theorem -/

open Exchange

/-- **Names cannot be injected into patterns**, for every pattern and every user name. The characters that are syntax
in a name are those of the pattern, in the same order: of its literals, which are its text without the slots. The
escaped user name begins with neither a space nor a number sign and ends with no space, two upper case digits are behind
each of its backslashes, and reading the escapes gives the user name. So a pattern that takes the user name gives
different users different names; and these are the names of the users who are found by the pattern. -/
theorem pattern_names_not_injected (t : Template) (username : String) :
    let value := Name.escapeValue username
    (t.nameOf username).toList.filter Name.isRaw = t.literals.filter Name.isRaw ∧
    (∀ pattern, Template.compile pattern = .ok t →
      t.literals.filter Name.isRaw = pattern.toList.filter Name.isRaw) ∧
    (value.toList.head? ≠ some ' ' ∧ value.toList.head? ≠ some '#' ∧ value.toList.getLast? ≠ some ' ') ∧
    EscapesBy Name.isEscapeDigit value.toList ∧ Name.unescape? value = some username ∧
    (.slot 0 ∈ t.pieces → ∀ other, other ≠ username → t.nameOf other ≠ t.nameOf username) ∧
    ∀ (h : Handle) (patterns : List Template) (index : Int) (password : Option Password) (ids : List String)
      (ch ch' : Channel) (user : User), h.templates.userPatterns = some patterns →
      patternAt patterns index = .ok (some t) →
      (userByPattern h (some username) password ids index).perform ch = (.ok (some user), ch') →
        user.dn = some (t.nameOf username) := by
  refine ⟨t.filter_nameOf username, fun pattern hpattern => ?_, ?_, (Name.written_escapeValue username).escapesBy,
    Name.unescape?_escapeValue username, fun hslot other hne heq => hne (Template.nameOf_injective hslot heq), ?_⟩
  · exact Template.filter_literals_of_compile rfl rfl Template.isRaw_of_decimalDigit? hpattern
  · rw [Name.toList_escapeValue]
    obtain ⟨hspace, hsharp⟩ := Name.head?_escapeChars_ne username.toList
    exact ⟨hspace, hsharp, Name.getLast?_escapeChars_ne username.toList⟩
  · intro h patterns index password ids ch ch' user hpatterns hat hrun
    exact dn_of_userByPattern hpatterns hat hrun

/-! ### A run -/

/-- The entries of people, and of their own units. -/
def Template.twiceNamed : Template where
  pattern := "uid={0},ou={0}"
  pieces := "uid=".toList.map .literal ++ [.slot 0] ++ ",ou=".toList.map .literal ++ [.slot 0]

def Handle.twiceNamed : Handle :=
  { Handle.withOnePattern with
    templates := { Handle.withOnePattern.templates with userPatterns := some [.twiceNamed] } }

/-- The user that the pattern gives. -/
def User.twiceNamed : User where
  username := some "ada,ou=ada"
  dn := some "uid=ada\\2Cou=ada,ou=ada\\2Cou=ada"

/-- A user name that looks like the rest of a name adds nothing to the name that is looked up, and the name is not that
of another user. -/
theorem ada_and_her_unit_not_injected :
    Template.compile "uid={0},ou={0}" = .ok .twiceNamed ∧
    (Template.twiceNamed.nameOf "ada,ou=ada").toList.filter Name.isRaw = [','] ∧
    Template.twiceNamed.nameOf "ada" ≠ Template.twiceNamed.nameOf "ada,ou=ada" ∧
    (userByPattern .twiceNamed (some "ada,ou=ada") none [] 0).perform (.ofOwnName "") =
      (.ok (some .twiceNamed), .ofOwnName "") ∧
    User.twiceNamed.dn = some (Template.twiceNamed.nameOf "ada,ou=ada") := by
  have hcompile : Template.compile "uid={0},ou={0}" = .ok .twiceNamed := by decide +kernel
  have hname : Template.twiceNamed.nameOf "ada,ou=ada" = "uid=ada\\2Cou=ada,ou=ada\\2Cou=ada" := by decide +kernel
  have hrun : (userByPattern .twiceNamed (some "ada,ou=ada") none [] 0).perform (.ofOwnName "") =
      (.ok (some .twiceNamed), .ofOwnName "") := by
    rw [User.twiceNamed, ← hname]
    rfl
  obtain ⟨hown, htext, -, -, -, hothers, hlookup⟩ := pattern_names_not_injected .twiceNamed "ada,ou=ada"
  refine ⟨hcompile, ?_, hothers (by decide) "ada" (by decide), hrun, hlookup _ _ _ _ _ _ _ _ rfl rfl hrun⟩
  rw [hown, htext _ hcompile]
  decide +kernel

end DirectoryLogin
