import DirectoryLogin.Proofs.Session.Failing
import DirectoryLogin.Realm
import Mathlib.Tactic.Common
/-!
# Reading Lists of Patterns

What a list of patterns is read as depends on each parenthesis and its two neighbours alone. A backslash in front makes
it part of a pattern, and a bar behind makes it the beginning of the list as a whole.

- `Somewhere`: what holds of some character of a text and its neighbours.
- `outside_enclosed`, `outside_flatMap_enclosed`: patterns that are written down are read back.
- `outside_eq_nil_iff`: when there is nothing to read.
- `pattern_list_read_back`: both ways of writing a list of patterns.
- `no_patterns_iff`: the texts that are read as no pattern at all.
-/

namespace DirectoryLogin

namespace PatternList

/-! ## §1 Characters and their neighbours -/

section Somewhere

variable {P : Option Char → Char → Option Char → Prop} {previous : Option Char} {c : Char} {cs rest : List Char}

/-- Some character of the text is such that `P` holds of the one before it, the character and the one behind it.
Before the text there is `previous`. -/
def Somewhere (P : Option Char → Char → Option Char → Prop) (previous : Option Char) (cs : List Char) : Prop :=
  ∃ front c back, cs = front ++ c :: back ∧ P (front.getLast?.or previous) c back.head?

@[simp] theorem not_somewhere_nil : ¬ Somewhere P previous [] := by
  rintro ⟨front, c, back, hcs, -⟩
  cases front <;> cases hcs

/-- It is the first character, or a later one, which has the first one before it. -/
theorem somewhere_cons : Somewhere P previous (c :: rest) ↔ P previous c rest.head? ∨ Somewhere P (some c) rest := by
  constructor
  · -- the place is in front, or behind at least one character
    rintro ⟨front, d, back, hcs, hd⟩
    cases front with
    | nil =>
      cases hcs
      exact .inl hd
    | cons first front =>
      cases hcs
      refine .inr ⟨front, d, back, rfl, ?_⟩
      rwa [List.getLast?_cons, Option.some_or, ← Option.or_some] at hd
  · rintro (hc | ⟨front, d, back, rfl, hd⟩)
    · exact ⟨[], c, rest, rfl, hc⟩
    · refine ⟨c :: front, d, back, rfl, ?_⟩
      rwa [List.getLast?_cons, Option.some_or, ← Option.or_some]

instance decidableSomewhere [∀ before c behind, Decidable (P before c behind)] :
    ∀ previous cs, Decidable (Somewhere P previous cs)
  | _, [] => isFalse not_somewhere_nil
  | _, c :: rest =>
    have := decidableSomewhere (some c) rest
    decidable_of_iff _ somewhere_cons.symm

end Somewhere

/-! ## §2 Parentheses -/

/-- A parenthesis that has no backslash before it. -/
def IsBareParenthesis (before : Option Char) (c : Char) (_behind : Option Char) : Prop :=
  (c = '(' ∨ c = ')') ∧ before ≠ some '\\'

/-- A parenthesis that begins a pattern: it has no backslash before it and no bar behind it. -/
def BeginsPattern (before : Option Char) (c : Char) (behind : Option Char) : Prop :=
  c = '(' ∧ before ≠ some '\\' ∧ behind ≠ some '|'

instance (before : Option Char) (c : Char) (behind : Option Char) : Decidable (IsBareParenthesis before c behind) :=
  inferInstanceAs (Decidable (_ ∧ _))

instance (before : Option Char) (c : Char) (behind : Option Char) : Decidable (BeginsPattern before c behind) :=
  inferInstanceAs (Decidable (_ ∧ _))

/-- Every parenthesis of the text has a backslash right before it. -/
def EscapesParentheses (text : String) : Prop :=
  ∀ front c back, text.toList = front ++ c :: back → c = '(' ∨ c = ')' → front.getLast? = some '\\'

/-- What may be written as a pattern of a list: its parentheses are escaped, and neither a bar at its beginning nor a
backslash at its end changes what the parentheses around it mean. -/
structure IsPattern (p : String) : Prop where
  escapes : EscapesParentheses p
  head : p.toList.head? ≠ some '|'
  last : p.toList.getLast? ≠ some '\\'

theorem escapesParentheses_iff {text : String} :
    EscapesParentheses text ↔ ¬ Somewhere IsBareParenthesis none text.toList := by
  constructor
  · rintro h ⟨front, c, back, htext, hc, hbare⟩
    rw [Option.or_none] at hbare
    exact hbare (h front c back htext hc)
  · intro h front c back htext hc
    by_contra hbare
    exact h ⟨front, c, back, htext, hc, by rwa [Option.or_none]⟩

instance (text : String) : Decidable (EscapesParentheses text) :=
  decidable_of_iff _ escapesParentheses_iff.symm

theorem isPattern_iff {p : String} :
    IsPattern p ↔ EscapesParentheses p ∧ p.toList.head? ≠ some '|' ∧ p.toList.getLast? ≠ some '\\' :=
  ⟨fun h => ⟨h.escapes, h.head, h.last⟩, fun h => ⟨h.1, h.2.1, h.2.2⟩⟩

instance (p : String) : Decidable (IsPattern p) :=
  decidable_of_iff _ isPattern_iff.symm

variable {previous : Option Char} {p raw : String} {patterns : List String} {cs rest : List Char}

/-- Whatever is before the text, its first character is no parenthesis. -/
theorem EscapesParentheses.not_somewhere (h : EscapesParentheses p) (previous : Option Char) :
    ¬ Somewhere IsBareParenthesis previous p.toList := by
  rw [escapesParentheses_iff] at h
  cases hp : p.toList with
  | nil => exact not_somewhere_nil
  | cons c rest =>
    rw [hp, somewhere_cons] at h
    rw [somewhere_cons]
    rintro (⟨hc, -⟩ | hrest)
    · exact h (.inl ⟨hc, nofun⟩)
    · exact h (.inr hrest)

/-! ## §3 Nothing to read -/

theorem outside_cons (c : Char) : outside previous (c :: rest) =
    if BeginsPattern previous c rest.head? then inside '(' [] rest else outside (some c) rest := by
  rw [outside]
  congr 1
  simp [BeginsPattern]

/-- A pattern that has been begun is not forgotten. -/
theorem inside_ne_nil {previous : Char} {body : List Char} : inside previous body cs ≠ some [] := by
  induction cs generalizing previous body with
  | nil => rw [inside]; nofun
  | cons c cs ih =>
    rw [inside]
    split
    · rcases outside (some c) cs with _ | patterns <;> nofun
    · exact ih

/-- **There is no pattern** exactly if none is begun. -/
theorem outside_eq_nil_iff : outside previous cs = some [] ↔ ¬ Somewhere BeginsPattern previous cs := by
  induction cs generalizing previous with
  | nil => exact iff_of_true (by rw [outside]) not_somewhere_nil
  | cons c cs ih =>
    rw [outside_cons, somewhere_cons]
    split
    · rename_i hbegins
      exact iff_of_false inside_ne_nil fun h => h (.inl hbegins)
    · rename_i hnot
      rw [ih, not_or, and_iff_right hnot]

theorem outside_of_not_mem (h : '(' ∉ cs) : outside previous cs = some [] := by
  rw [outside_eq_nil_iff]
  rintro ⟨front, c, back, rfl, rfl, -⟩
  exact h (List.mem_append_right front List.mem_cons_self)

/-- A parenthesis that begins a pattern is not escaped. -/
theorem EscapesParentheses.outside_eq_nil (h : EscapesParentheses raw) : outside none raw.toList = some [] := by
  rw [outside_eq_nil_iff]
  rintro ⟨front, c, back, hraw, rfl, hbare, -⟩
  rw [Option.or_none] at hbare
  exact hbare (h front _ back hraw (.inl rfl))

/-! ## §4 Patterns that are read back -/

/-- A pattern in parentheses. -/
def enclosed (p : String) : List Char :=
  '(' :: p.toList ++ [')']

/-- Patterns in parentheses, one behind the other. -/
def listing (patterns : List String) : String :=
  String.ofList (patterns.flatMap enclosed)

/-- The same as alternatives of one filter. -/
def alternatives (patterns : List String) : String :=
  "(|" ++ listing patterns ++ ")"

/-- **Inside a pattern** everything is read up to the parenthesis that ends it. -/
theorem inside_append {previous : Char} {body p : List Char}
    (hescapes : ¬ Somewhere IsBareParenthesis (some previous) p) (hlast : p.getLast?.getD previous ≠ '\\') :
    inside previous body (p ++ ')' :: rest) =
      (outside (some ')') rest).map (String.ofList (body.reverse ++ p) :: ·) := by
  induction p generalizing previous body with
  | nil =>
    have hbare : previous ≠ '\\' := hlast
    rw [List.nil_append, inside, if_pos (by simpa using hbare), List.append_nil]
  | cons c p ih =>
    rw [somewhere_cons, not_or] at hescapes
    rw [List.getLast?_cons, Option.getD_some] at hlast
    -- an escaped parenthesis does not end the pattern
    have hkept : ¬ (c == ')' && previous != '\\') = true := by
      intro hends
      simp only [Bool.and_eq_true, beq_iff_eq, bne_iff_ne] at hends
      exact hescapes.1 ⟨.inr hends.1, fun heq => hends.2 (Option.some.inj heq)⟩
    rw [List.cons_append, inside, if_neg hkept, ih hescapes.2 hlast, List.reverse_cons, List.append_assoc]
    rfl

/-- **A pattern in parentheses** is the first one to be read. -/
theorem outside_enclosed (hp : IsPattern p) (hprevious : previous ≠ some '\\') (rest : List Char) :
    outside previous (enclosed p ++ rest) = (outside (some ')') rest).map (p :: ·) := by
  -- the parenthesis in front begins a pattern, and what is in it neither begins one nor ends in a backslash
  have hbegins : BeginsPattern previous '(' (p.toList ++ ')' :: rest).head? := by
    refine ⟨rfl, hprevious, ?_⟩
    cases hcs : p.toList with
    | nil => nofun
    | cons c cs =>
      have hhead := hp.head
      rwa [hcs] at hhead
  have hlast : p.toList.getLast?.getD '(' ≠ '\\' := by
    cases hcs : p.toList.getLast? with
    | none => nofun
    | some c => exact fun heq => hp.last (hcs.trans (congrArg some heq))
  have henclosed : enclosed p ++ rest = '(' :: (p.toList ++ ')' :: rest) := by simp [enclosed]
  rw [henclosed, outside_cons, if_pos hbegins, inside_append (hp.escapes.not_somewhere _) hlast,
    List.reverse_nil, List.nil_append, String.ofList_toList]

/-- **Patterns one behind the other** are all read, in their order. -/
theorem outside_flatMap_enclosed (h : ∀ p ∈ patterns, IsPattern p) (hprevious : previous ≠ some '\\')
    (hrest : '(' ∉ rest) : outside previous (patterns.flatMap enclosed ++ rest) = some patterns := by
  induction patterns generalizing previous with
  | nil => exact outside_of_not_mem hrest
  | cons p patterns ih =>
    obtain ⟨hp, hpatterns⟩ := List.forall_mem_cons.mp h
    have hclosed : some ')' ≠ some '\\' := by decide
    rw [List.flatMap_cons, List.append_assoc, outside_enclosed hp hprevious, ih hpatterns hclosed]
    rfl

/-- The bar behind the first parenthesis makes it part of the list as a whole. -/
theorem outside_alternatives (h : ∀ p ∈ patterns, IsPattern p) :
    outside none (alternatives patterns).toList = some patterns := by
  have htext : (alternatives patterns).toList = '(' :: '|' :: (patterns.flatMap enclosed ++ [')']) := by
    simp [alternatives, listing]
  rw [htext, outside_cons, if_neg fun hbegins => hbegins.2.2 rfl, outside_cons, if_neg fun hbegins => nomatch hbegins.1]
  exact outside_flatMap_enclosed h (by decide) (by decide)

/-! ## §5 Reading texts -/

theorem parse_of_not_mem (h : '(' ∉ raw.toList) : parse raw = .ok [raw] := by
  rw [parse, if_neg (by simpa using h)]

theorem parse_eq_ok_iff (h : '(' ∈ raw.toList) :
    parse raw = .ok patterns ↔ outside none raw.toList = some patterns := by
  rw [parse, if_pos (by simpa using h)]
  rcases outside none raw.toList with _ | read
  · exact iff_of_false nofun nofun
  · exact ⟨fun heq => congrArg some (Except.ok.inj heq), fun heq => congrArg Except.ok (Option.some.inj heq)⟩

theorem mem_listing (hne : patterns ≠ []) : '(' ∈ (listing patterns).toList := by
  obtain ⟨p, rest, rfl⟩ := List.exists_cons_of_ne_nil hne
  simp [listing, enclosed]

end PatternList

/-! ## §6 Templates of patterns -/

/-- The templates of a list of patterns, if there is a list. -/
def Templates.ofPatterns : Option (List String) → Except Failure (Option (List Template))
  | some patterns => (patterns.mapM Template.compile).map some
  | none => .ok none

/-- **The templates of the patterns** are those of the list that the settings give. -/
theorem Templates.ofPatterns_of_compile {s : Settings} {templates : Templates} {list : Option (List String)}
    (h : Templates.compile s = .ok templates) (hlist : s.userPatternList = .ok list) :
    ofPatterns list = .ok templates.userPatterns := by
  obtain ⟨userSearch, -, h⟩ := exists_of_bind_eq_ok h
  obtain ⟨read, hread, h⟩ := exists_of_bind_eq_ok h
  cases hlist.symm.trans hread
  rcases list with _ | patterns
  all_goals
    obtain ⟨userPatterns, hpatterns, h⟩ := exists_of_bind_eq_ok h
    -- whatever becomes of the templates for roles, the patterns are left as they are
    have hkept : templates.userPatterns = userPatterns := by
      dsimp only at h
      split at h <;>
      · obtain ⟨roleBase, -, h⟩ := exists_of_bind_eq_ok h
        obtain ⟨roleSearch, -, h⟩ := exists_of_bind_eq_ok h
        cases h
        rfl
    rw [hkept]
    exact hpatterns

/-- Without a pattern nobody is looked up, and nothing is sent. -/
theorem Exchange.authenticate_of_no_patterns {h : Handle} (hnone : h.templates.userPatterns = some []) (m : Matcher)
    (username : String) (password : Password) (ch : Channel) :
    (authenticate h m username password).perform ch = (.ok none, ch) := by
  rw [authenticate, hnone]
  rfl

/-! ## §7 The theorems -/

open PatternList

/-- **Lists of patterns are read back.** Take any list of at least one pattern, such that every parenthesis in a pattern
has a backslash right before it, and no pattern begins with a bar or ends with a backslash. Patterns may be empty. Write
them one behind the other, each in parentheses, as they are or as alternatives of one filter: either text is read as
exactly these patterns, in this order, and so are settings with either text. -/
theorem pattern_list_read_back {patterns : List String} (hne : patterns ≠ []) (h : ∀ p ∈ patterns, IsPattern p) :
    parse (listing patterns) = .ok patterns ∧ parse (alternatives patterns) = .ok patterns ∧
    ∀ s : Settings, s.userPattern = some (listing patterns) ∨ s.userPattern = some (alternatives patterns) →
      s.userPatternList = .ok (some patterns) := by
  -- both forms are read as a row of enclosed patterns
  have hlisting : parse (listing patterns) = .ok patterns := by
    have hread : outside none (patterns.flatMap enclosed ++ []) = some patterns :=
      outside_flatMap_enclosed h nofun List.not_mem_nil
    rw [List.append_nil] at hread
    rwa [parse_eq_ok_iff (mem_listing hne), listing, String.toList_ofList]
  have halternatives : parse (alternatives patterns) = .ok patterns :=
    (parse_eq_ok_iff (by simp [alternatives])).mpr (outside_alternatives h)
  refine ⟨hlisting, halternatives, fun s hs => ?_⟩
  rw [Settings.userPatternList]
  rcases hs with hs | hs
  · rw [hs, parse?, hlisting]
    rfl
  · rw [hs, parse?, halternatives]
    rfl

/-- A pattern with a group of its own, one that is empty, and a plain one. -/
theorem escaped_group_read_back :
    parse "(cn={0}\\(x\\),ou=day)()(cn={0},ou=night)" = .ok ["cn={0}\\(x\\),ou=day", "", "cn={0},ou=night"] ∧
    parse "(|(cn={0}\\(x\\),ou=day)()(cn={0},ou=night))" =
      .ok ["cn={0}\\(x\\),ou=day", "", "cn={0},ou=night"] := by
  have h : ∀ p ∈ ["cn={0}\\(x\\),ou=day", "", "cn={0},ou=night"], IsPattern p := by decide +kernel
  obtain ⟨hlisting, halternatives, -⟩ := pattern_list_read_back (List.cons_ne_nil _ _) h
  have htext : listing ["cn={0}\\(x\\),ou=day", "", "cn={0},ou=night"] =
      "(cn={0}\\(x\\),ou=day)()(cn={0},ou=night)" := by decide +kernel
  rw [alternatives] at halternatives
  rw [htext] at hlisting halternatives
  exact ⟨hlisting, halternatives⟩

/-- **Texts that are read as no pattern.** A text is read as the empty list exactly if it has a parenthesis that opens,
but none that begins a pattern: each one has a backslash before it or a bar behind it. So a text all of whose
parentheses are escaped, although none of them delimits anything, is read as one pattern only if none of them opens, and
otherwise as no pattern. No fault is reported for such settings: a handle is made for them, and with it every login ends
without a principal, before anything is sent. -/
theorem no_patterns_iff (raw : String) :
    (parse raw = .ok [] ↔ '(' ∈ raw.toList ∧ ¬ Somewhere BeginsPattern none raw.toList) ∧
    (EscapesParentheses raw → parse raw = .ok (if '(' ∈ raw.toList then [] else [raw])) ∧
    ∀ h : Handle, Templates.compile h.settings = .ok h.templates → h.settings.userPattern = some raw →
      parse raw = .ok [] → ∀ (m : Matcher) (username : String) (password : Password) (ch : Channel),
        (Exchange.authenticate h m username password).perform ch = (.ok none, ch) := by
  refine ⟨?_, fun hescapes => ?_, fun h hcompile hpattern hempty m username password ch => ?_⟩
  · -- with a parenthesis the text is a list, and it is empty if no pattern begins in it
    by_cases hopen : '(' ∈ raw.toList
    · rw [parse_eq_ok_iff hopen, outside_eq_nil_iff, and_iff_right hopen]
    · rw [parse_of_not_mem hopen]
      exact iff_of_false nofun fun h => hopen h.1
  · -- if all parentheses are escaped, nothing begins, but a text without any is itself the pattern
    split
    · rename_i hopen
      exact (parse_eq_ok_iff hopen).mpr hescapes.outside_eq_nil
    · rename_i hopen
      exact parse_of_not_mem hopen
  · -- without patterns the loop has nothing to try
    have hlist : h.settings.userPatternList = .ok (some []) := by
      rw [Settings.userPatternList, hpattern, parse?, hempty]
      rfl
    have hnone : h.templates.userPatterns = some [] :=
      (Except.ok.inj (Templates.ofPatterns_of_compile hcompile hlist)).symm
    exact Exchange.authenticate_of_no_patterns hnone m username password ch

/-- Settings for users whose names end in a remark. -/
def Settings.withRemark : Settings where
  connectionUrl := some "ldap://directory"
  userPattern := some "cn={0} \\(staff\\)"

/-- The handle that is made for them has no patterns. -/
def Handle.withRemark : Handle where
  snapshot := ⟨0, .withRemark⟩
  pooled := false
  templates := ⟨none, some [], none, none⟩

/-- Such users are never logged in, and no setting is said to be wrong. -/
theorem remark_never_logged_in :
    Templates.compile .withRemark = .ok Handle.withRemark.templates ∧ parse "cn={0} \\(staff\\)" = .ok [] ∧
    ∀ (m : Matcher) (ch : Channel),
      (Exchange.authenticate .withRemark m "ada" "pearl").perform ch = (.ok none, ch) := by
  obtain ⟨-, hescaped, hlogin⟩ := no_patterns_iff "cn={0} \\(staff\\)"
  have hcompile : Templates.compile .withRemark = .ok Handle.withRemark.templates := by decide +kernel
  have hempty : parse "cn={0} \\(staff\\)" = .ok [] := hescaped (by decide +kernel)
  exact ⟨hcompile, hempty, fun m ch => hlogin .withRemark hcompile rfl hempty m "ada" "pearl" ch⟩

/-- A bare pattern with an escaped group is lost. -/
theorem bare_pattern_lost :
    EscapesParentheses "cn={0}\\(x\\)" ∧ parse "cn={0}\\(x\\)" = .ok [] ∧
      parse "cn={0}\\(x\\)" ≠ .ok ["cn={0}\\(x\\)"] := by
  decide +kernel

end DirectoryLogin
