import DirectoryLogin.Proofs.Name.FirstComponent
import DirectoryLogin.Proofs.Users.PatternNames
import DirectoryLogin.Roles
/-!
# The Components of Names From Patterns

A pattern that begins with one assignment of the user name, `type={0},`, puts one component in front of the rest of the
name. The roles of a user are searched below a base that may take the components of that name. So the name has to be
read again, and it is not for every user: the name of a user is escaped for the directory, while the name of the entry
is read by a grammar that asks for more.

- `Template.compile_assigning`: the pattern is compiled if its rest is, and the name it gives is put together.
- `Name.normalizeEscapes_strip`: the component of a user is in normal form.
- `pattern_name_components`: what is read of the name, and where roles are searched.
-/

namespace DirectoryLogin

open Text (EscapesBy)

/-! ## §1 Patterns that begin with an assignment -/

namespace Template

/-- The user name behind an equals sign, and a comma. -/
def assigned : Template where
  pattern := "={0},"
  pieces := [.literal '=', .slot 0, .literal ',']

theorem nameOf_assigned (username : String) : assigned.nameOf username = "=" ++ Name.escapeValue username ++ "," := by
  rw [nameOf, ← String.toList_inj, toList_fill]
  simp [assigned, Piece.fill]

/-- **A pattern that begins with an assignment** is compiled if its rest is. The name it gives is the type with the
escaped user name, in front of what the rest gives. -/
theorem compile_assigning {kind suffix : String} {rest : Template} (hkind : Name.isAttributeType kind.toList = true)
    (hrest : compile suffix = .ok rest) :
    ∃ t, compile (kind ++ "={0}," ++ suffix) = .ok t ∧ ∀ username,
      t.nameOf username = kind ++ "=" ++ Name.escapeValue username ++ "," ++ rest.nameOf username := by
  have hassigned : compile "={0}," = .ok assigned := by decide +kernel
  have hfront : compile kind = .ok (ofText kind) :=
    compile_of_no_brace (fun hmem => Bool.noConfusion (Name.isTypeChar_of_mem hkind hmem))
      fun hmem => Bool.noConfusion (Name.isTypeChar_of_mem hkind hmem)
  refine ⟨_, compile_append (compile_append hfront hassigned) hrest, fun username => ?_⟩
  rw [nameOf_append, nameOf_append, nameOf_assigned, nameOf, fill_ofText]
  simp only [String.append_assoc]

/-- A rest without braces is the same for every user. -/
theorem nameOf_of_no_brace {suffix : String} {rest : Template} (hrest : compile suffix = .ok rest)
    (hopen : openBrace ∉ suffix.toList) (hclose : closeBrace ∉ suffix.toList) (username : String) :
    rest.nameOf username = suffix := by
  rw [compile_of_no_brace hopen hclose] at hrest
  cases hrest
  exact fill_ofText suffix _

end Template

/-! ## §2 Normal form -/

/-- The component of a user is in normal form. -/
theorem Name.normalizeEscapes_strip {kind : String} (hkind : isAttributeType kind.toList = true) (username : String) :
    normalizeEscapes (kind ++ "=" ++ Text.strip (escapeValue username)) =
      kind ++ "=" ++ Text.strip (escapeValue username) := by
  -- the kind and the equal sign hold no backslash
  have hplain : '\\' ∉ kind.toList ++ ['='] := by
    intro hmem
    rcases List.mem_append.mp hmem with hmem | hmem
    · cases isTypeChar_of_mem hkind hmem
    · cases List.mem_singleton.mp hmem
  -- the value has only whole escapes, also after trimming
  have hvalue : EscapesBy isHexDigit (Text.strip (escapeValue username)).toList := by
    rw [Text.strip, String.toList_ofList]
    exact (escapesBy_escapeValue username).trimList fun _ => isBlank_of_isHexDigit
  have htext : (kind ++ "=" ++ Text.strip (escapeValue username)).toList =
      (kind.toList ++ ['=']) ++ (Text.strip (escapeValue username)).toList := by
    simp
  apply normalizeEscapes_of_escapesBy
  rw [htext]
  exact .append (.of_not_mem hplain) hvalue

/-! ## §3 The theorem -/

open Exchange

/-- **The components of a user's name**, for a pattern that begins with an assignment of the user name, and whose rest
gives a name that is read as `parts`. The name of the user is read just where the rest is not blank and the user name is
readable: it holds no equals sign and no number sign but at the beginning, and it is not blank, spaces at the ends
apart. Then it has one component more, the type with the escaped user name without the blanks around it; and that is
the escaped user name itself just where no other blanks than spaces are at its ends. The base of a role search that
takes components of the name takes these; and there is none where the name is not read. -/
theorem pattern_name_components {kind suffix username : String} {rest : Template} {parts : List String}
    (hkind : Name.isAttributeType kind.toList = true) (hrest : Template.compile suffix = .ok rest)
    (hparts : Name.parse (rest.nameOf username) = .ok parts) :
    ∃ t, Template.compile (kind ++ "={0}," ++ suffix) = .ok t ∧
      (Template.openBrace ∉ suffix.toList → Template.closeBrace ∉ suffix.toList → rest.nameOf username = suffix) ∧
      t.nameOf username = kind ++ "=" ++ Name.escapeValue username ++ "," ++ rest.nameOf username ∧
      Name.parse (t.nameOf username) =
        (if parts ≠ [] ∧ Name.isReadable username = true then
          .ok (parts ++ [kind ++ "=" ++ Text.strip (Name.escapeValue username)])
        else .error (.directory (.invalidDn (t.nameOf username)))) ∧
      (Name.parse (t.nameOf username) = .ok (parts ++ [kind ++ "=" ++ Name.escapeValue username]) ↔
        parts ≠ [] ∧ Name.isReadable username = true ∧ Name.keepsEnds username = true) ∧
      ∀ (h : Handle) (base : Template), h.templates.roleBase = some base → base.argumentCount ≠ 0 →
        roleBase h (t.nameOf username) =
          if parts ≠ [] ∧ Name.isReadable username = true then
            .ok (base.fill (parts.map (fun part => some (Name.normalizeEscapes part)) ++
              [some (kind ++ "=" ++ Text.strip (Name.escapeValue username))]))
          else .error (.directory (.invalidDn (t.nameOf username))) := by
  obtain ⟨t, hcompile, hname⟩ := Template.compile_assigning hkind hrest
  have hparse := Name.parse_assignment_append hkind username hparts
  -- the name of the pattern is the given assignment in front of the name of the rest
  rw [← hname] at hparse
  refine ⟨t, hcompile, fun hopen hclose => Template.nameOf_of_no_brace hrest hopen hclose username, hname username,
    hparse, ?_, ?_⟩
  · -- it is read back unchanged just if nothing has to be taken off the ends
    rw [hparse, ← Name.strip_eq_iff, ← and_assoc]
    split
    · rename_i hread
      simp [hread, ← String.toList_inj]
    · rename_i hunread
      simp [hunread]
  · -- the parts become the arguments of the base, in normal form
    intro h base hbase hcount
    rw [roleBase, hbase]
    dsimp only
    rw [if_neg (by simpa using hcount), hparse]
    split
    · simp [Except.map, Name.normalizeEscapes_strip hkind]
    · rfl

/-! ### Runs -/

/-- Roles are searched below the user. -/
def Handle.withOwnGroups : Handle where
  snapshot := ⟨0, {}⟩
  pooled := false
  templates :=
    { userSearch := none
      userPatterns := none
      roleBase := some ⟨"ou=groups,{1},{0}", "ou=groups,".toList.map .literal ++ [.slot 1, .literal ',', .slot 0]⟩
      roleSearch := none }

/-- A user name with a comma in it is one component, and roles are searched below it. -/
theorem groups_below_lace :
    ∃ t, Template.compile "uid={0},ou=people" = .ok t ∧ t.nameOf "lace, ada" = "uid=lace\\2C ada,ou=people" ∧
      Name.parse (t.nameOf "lace, ada") = .ok ["ou=people", "uid=lace\\2C ada"] ∧
      roleBase .withOwnGroups (t.nameOf "lace, ada") = .ok "ou=groups,uid=lace\\2C ada,ou=people" := by
  -- the rest of the pattern has no slot, so it names itself
  have hpeople : Template.compile "ou=people" = .ok (.ofText "ou=people") := by decide +kernel
  have hrest : (Template.ofText "ou=people").nameOf "lace, ada" = "ou=people" :=
    Template.nameOf_of_no_brace hpeople (by decide) (by decide) "lace, ada"
  have hparts : Name.parse ((Template.ofText "ou=people").nameOf "lace, ada") = .ok ["ou=people"] := by
    rw [hrest]
    decide +kernel
  have hread : Name.isReadable "lace, ada" = true := by decide +kernel
  have hends : Name.keepsEnds "lace, ada" = true := by decide +kernel
  have hkind : Name.isAttributeType "uid".toList = true := by decide
  -- the general statement is taken at this pattern and this name
  obtain ⟨t, hcompile, -, hname, -, hiff, hbase⟩ := pattern_name_components hkind hpeople hparts
  refine ⟨t, hcompile, ?_, (hiff.mpr ⟨by decide, hread, hends⟩).trans (by decide +kernel), ?_⟩
  · rw [hname, hrest]
    decide +kernel
  · rw [hbase .withOwnGroups _ rfl (by decide), if_pos ⟨by decide, hread⟩]
    decide +kernel

/-- The entries of people. -/
def Template.ofPeople : Template where
  pattern := "uid={0},ou=people"
  pieces := "uid=".toList.map .literal ++ .slot 0 :: ",ou=people".toList.map .literal

/-- The rest of a pattern is read, but the name of a user with an equals sign in it is not, and there is no base for the
roles of that user. -/
theorem equals_sign_not_read :
    Template.compile "uid={0},ou=people" = .ok .ofPeople ∧ Name.parse "ou=people" = .ok ["ou=people"] ∧
      Template.ofPeople.nameOf "a=b" = "uid=a=b,ou=people" ∧
      Name.parse (Template.ofPeople.nameOf "a=b") = .error (.directory (.invalidDn "uid=a=b,ou=people")) ∧
      roleBase .withOwnGroups (Template.ofPeople.nameOf "a=b") =
        .error (.directory (.invalidDn "uid=a=b,ou=people")) := by
  refine ⟨?_, ?_, ?_, ?_, ?_⟩
  all_goals decide +kernel

end DirectoryLogin
