import DirectoryLogin.Proofs.Settings.Kinds
import Mathlib.Data.List.Nodup
/-!
# Which Settings are Accepted

The value of a setting is the last argument of its name, else the text of the last variable `REALM_<NAME>`, else the
usual one; names are compared without case. Settings are accepted if every value fits its kind and obeys its rule, and
every argument is a setting. Otherwise all faults are listed, and nothing else.

- `Settings.Picked`: the value that is taken for a setting.
- `Settings.Fails`: what is wrong with that value.
- `Settings.IsListed`, `Settings.Accepted`: what a rejection lists, and what accepted settings are like.
- `Settings.settings_validation`: rejection and acceptance of all arguments and variables.
-/

namespace DirectoryLogin.Settings

variable {arguments : Arguments} {vars : Variables} {f : Field} {v w : Value} {p : Problem}

/-! ## §1 Names -/

theorem Field.mem_all (f : Field) : f ∈ Field.all := by
  cases f <;> decide

theorem Field.nodup_all : Field.all.Nodup := by
  decide

/-- No setting has the name, in whatever case. -/
def Unknown (name : String) : Prop :=
  ∀ f : Field, f.name ≠ Text.lower name

theorem isKnown_eq_false_iff {name : String} : isKnown name = false ↔ Unknown name := by
  rw [isKnown, List.any_eq_false]
  constructor
  · intro h f hf
    exact h f f.mem_all (beq_iff_eq.mpr hf)
  · intro h f _ hf
    exact h f (beq_iff_eq.mp hf)

instance (name : String) : Decidable (Unknown name) :=
  decidable_of_iff _ isKnown_eq_false_iff

/-- The last entry of a name, in whatever case. -/
def IsLastNamed {α : Type} (name : String) (entries : List (String × α)) (a : α) : Prop :=
  ∃ before spelling behind, entries = before ++ (spelling, a) :: behind ∧ Text.lower spelling = name ∧
    ∀ e ∈ behind, Text.lower e.1 ≠ name

/-- No entry has the name, in whatever case. -/
def IsUnnamed {α : Type} (name : String) (entries : List (String × α)) : Prop :=
  ∀ e ∈ entries, Text.lower e.1 ≠ name

theorem lastNamed?_eq_some_iff {α : Type} {name : String} {entries : List (String × α)} {a : α} :
    lastNamed? name entries = some a ↔ IsLastNamed name entries a := by
  rw [lastNamed?, Option.map_eq_some_iff]
  -- the entries are searched from their end
  constructor
  · rintro ⟨⟨spelling, a⟩, hfind, rfl⟩
    obtain ⟨hname, behind, before, hentries, hbehind⟩ := List.find?_eq_some_iff_append.mp hfind
    refine ⟨before.reverse, spelling, behind.reverse, ?_, eq_of_beq hname, fun e he => ?_⟩
    · rw [← List.reverse_reverse entries, hentries]
      simp
    · simpa using hbehind e (List.mem_reverse.mp he)
  · rintro ⟨before, spelling, behind, rfl, hname, hbehind⟩
    refine ⟨(spelling, a), List.find?_eq_some_iff_append.mpr ⟨beq_iff_eq.mpr hname, ?_⟩, rfl⟩
    refine ⟨behind.reverse, before.reverse, by simp, fun e he => ?_⟩
    simpa using hbehind e (List.mem_reverse.mp he)

theorem lastNamed?_eq_none_iff {α : Type} {name : String} {entries : List (String × α)} :
    lastNamed? name entries = none ↔ IsUnnamed name entries := by
  simp [lastNamed?, IsUnnamed]

/-! ## §2 One value -/

/-- A value brought to the kind of a setting and checked by its rule. -/
def checked (f : Field) (v : Value) : Except Problem Value := do
  let w ← coerce f.kind v
  rule f w
  return w

theorem checked_of_coerces (h : Coerces f.kind v w) : checked f v = (rule f w).map fun _ => w := by
  rw [checked, coerce_eq_ok_iff.mpr h]
  rfl

theorem checked_of_misfits (h : Misfits f.kind v p) : checked f v = .error p := by
  rw [checked, coerce_eq_error_iff.mpr h]
  rfl

theorem checked_eq_error_iff :
    checked f v = .error p ↔ Misfits f.kind v p ∨ ∃ w, Coerces f.kind v w ∧ Breaks f w p := by
  constructor
  · intro h
    rcases coerces_or f.kind v with ⟨w, hw⟩ | ⟨p', hp⟩
    · -- what fits can only break the rule
      rw [checked_of_coerces hw] at h
      rcases hrule : rule f w with p' | ⟨⟩ <;> rw [hrule] at h <;> cases h
      exact .inr ⟨w, hw, rule_eq_error_iff.mp hrule⟩
    · obtain rfl := Except.error.inj ((checked_of_misfits hp).symm.trans h)
      exact .inl hp
  · rintro (hp | ⟨w, hw, hp⟩)
    · exact checked_of_misfits hp
    · rw [checked_of_coerces hw, rule_eq_error_iff.mpr hp]
      rfl

theorem checked_eq_ok_iff : checked f v = .ok w ↔ Coerces f.kind v w ∧ ∀ p, ¬ Breaks f w p := by
  constructor
  · intro h
    -- a value that coerces is let through if it breaks no rule
    rcases coerces_or f.kind v with ⟨w', hw⟩ | ⟨p, hp⟩
    · rw [checked_of_coerces hw] at h
      rcases hrule : rule f w' with p' | ⟨⟩ <;> rw [hrule] at h <;> cases h
      refine ⟨hw, fun p hp => ?_⟩
      rw [rule_eq_error_iff.mpr hp] at hrule
      cases hrule
    · rw [checked_of_misfits hp] at h
      cases h
  · rintro ⟨hw, hobeys⟩
    rw [checked_of_coerces hw]
    rcases hrule : rule f w with p | ⟨⟩
    · exact absurd (rule_eq_error_iff.mp hrule) (hobeys p)
    · rfl

/-- The usual value of a setting stays as it is. -/
theorem checked_usual (f : Field) : checked f (usual.value f) = .ok (usual.value f) :=
  checked_eq_ok_iff.mpr ⟨(hasKind_value usual f).coerces, not_breaks_usual f⟩

/-! ## §3 One setting -/

/-- The value that is taken for a setting. -/
inductive Picked (arguments : Arguments) (vars : Variables) (f : Field) : Value → Prop
  | argument {v : Value} (h : IsLastNamed f.name arguments v) : Picked arguments vars f v
  | variable {s : String} (harguments : IsUnnamed f.name arguments) (h : IsLastNamed ("realm_" ++ f.name) vars s) :
      Picked arguments vars f (.text s)
  | usual (harguments : IsUnnamed f.name arguments) (hvars : IsUnnamed ("realm_" ++ f.name) vars) :
      Picked arguments vars f (usual.value f)

/-- **One value** is taken for every setting. -/
theorem picked_iff : Picked arguments vars f v ↔ v = (given? arguments vars f).getD (usual.value f) := by
  rcases harguments : lastNamed? f.name arguments with _ | argument
  · rcases hvars : lastNamed? (variableName f) vars with _ | text
    · -- neither an argument nor a variable
      have hgiven : given? arguments vars f = none := by simp only [given?, harguments, hvars, Option.map_none]
      rw [hgiven, Option.getD_none]
      constructor
      · rintro (h | ⟨-, h⟩ | -)
        · simp [lastNamed?_eq_some_iff.mpr h] at harguments
        · simp [variableName, lastNamed?_eq_some_iff.mpr h] at hvars
        · rfl
      · rintro rfl
        exact .usual (lastNamed?_eq_none_iff.mp harguments) (lastNamed?_eq_none_iff.mp hvars)
    · -- a variable, but no argument
      have hgiven : given? arguments vars f = some (.text text) := by
        simp only [given?, harguments, hvars, Option.map_some]
      rw [hgiven, Option.getD_some]
      constructor
      · rintro (h | ⟨-, h⟩ | ⟨-, h⟩)
        · simp [lastNamed?_eq_some_iff.mpr h] at harguments
        · obtain rfl := Option.some.inj ((lastNamed?_eq_some_iff.mpr h).symm.trans hvars)
          rfl
        · simp [variableName, lastNamed?_eq_none_iff.mpr h] at hvars
      · rintro rfl
        exact .variable (lastNamed?_eq_none_iff.mp harguments) (lastNamed?_eq_some_iff.mp hvars)
  · -- an argument, whatever variables there are
    have hgiven : given? arguments vars f = some argument := by simp only [given?, harguments]
    rw [hgiven, Option.getD_some]
    constructor
    · rintro (h | ⟨h, -⟩ | ⟨h, -⟩)
      · exact Option.some.inj ((lastNamed?_eq_some_iff.mpr h).symm.trans harguments)
      · simp [lastNamed?_eq_none_iff.mpr h] at harguments
      · simp [lastNamed?_eq_none_iff.mpr h] at harguments
    · rintro rfl
      exact .argument (lastNamed?_eq_some_iff.mp harguments)

theorem exists_picked (arguments : Arguments) (vars : Variables) (f : Field) : ∃ v, Picked arguments vars f v :=
  ⟨_, picked_iff.mpr rfl⟩

/-- The value of a setting is checked wherever it comes from. -/
theorem chosen_of_picked (h : Picked arguments vars f v) : chosen arguments vars f = checked f v := by
  rw [picked_iff] at h
  rw [chosen]
  split
  · rename_i hgiven
    rw [h, hgiven, Option.getD_some, checked]
  · rename_i hgiven
    rw [h, hgiven, Option.getD_none, checked_usual]

/-- What is wrong with the value that is taken for a setting. -/
def Fails (arguments : Arguments) (vars : Variables) (f : Field) (p : Problem) : Prop :=
  ∃ v, Picked arguments vars f v ∧ (Misfits f.kind v p ∨ ∃ w, Coerces f.kind v w ∧ Breaks f w p)

/-- **A setting is at fault** if its value does not fit, or breaks its rule once it fits. -/
theorem chosen_eq_error_iff : chosen arguments vars f = .error p ↔ Fails arguments vars f p := by
  constructor
  · intro h
    obtain ⟨v, hv⟩ := exists_picked arguments vars f
    rw [chosen_of_picked hv] at h
    exact ⟨v, hv, checked_eq_error_iff.mp h⟩
  · rintro ⟨v, hv, h⟩
    rw [chosen_of_picked hv]
    exact checked_eq_error_iff.mpr h

/-- **A setting has a value** if the one taken fits and obeys its rule. -/
theorem chosen_eq_ok_iff :
    chosen arguments vars f = .ok w ↔
      ∃ v, Picked arguments vars f v ∧ Coerces f.kind v w ∧ ∀ p, ¬ Breaks f w p := by
  constructor
  · intro h
    obtain ⟨v, hv⟩ := exists_picked arguments vars f
    rw [chosen_of_picked hv] at h
    exact ⟨v, hv, checked_eq_ok_iff.mp h⟩
  · rintro ⟨v, hv, h⟩
    rw [chosen_of_picked hv]
    exact checked_eq_ok_iff.mpr h

/-! ## §4 All faults -/

/-- The settings at fault, each with its problem. -/
def failing (arguments : Arguments) (vars : Variables) : List (Field × Problem) :=
  Field.all.filterMap fun f =>
    match chosen arguments vars f with
    | .error problem => some (f, problem)
    | .ok _ => none

theorem mem_failing_iff : (f, p) ∈ failing arguments vars ↔ Fails arguments vars f p := by
  rw [failing, List.mem_filterMap, ← chosen_eq_error_iff]
  constructor
  · rintro ⟨f', -, h⟩
    split at h
    · rename_i hchosen
      cases h
      exact hchosen
    · cases h
  · intro h
    exact ⟨f, f.mem_all, by rw [h]⟩

/-- No setting is at fault twice, and the order is that of the settings. -/
theorem map_fst_failing_sublist (arguments : Arguments) (vars : Variables) :
    ((failing arguments vars).map Prod.fst).Sublist Field.all := by
  have hfilter : (failing arguments vars).map Prod.fst
      = Field.all.filterMap (Option.guard fun f => (chosen arguments vars f).toOption.isNone) := by
    rw [failing, List.map_filterMap]
    congr 1
    funext f
    rcases hchosen : chosen arguments vars f with problem | w <;> simp [hchosen, Option.guard, Except.toOption]
  rw [hfilter, List.filterMap_eq_filter]
  exact List.filter_sublist

/-- What a rejection lists: one detail for each setting at fault, in the order of the settings, then one for each
argument that is no setting, in the order given. -/
def IsListed (arguments : Arguments) (vars : Variables) (details : List Detail) : Prop :=
  ∃ failing : List (Field × Problem),
    (failing.map Prod.fst).Sublist Field.all ∧ (failing.map Prod.fst).Nodup ∧
    (∀ f p, (f, p) ∈ failing ↔ Fails arguments vars f p) ∧
    details = (failing.map fun e => ⟨e.1.name, e.2⟩)
      ++ (arguments.filter fun a => Unknown a.1).map fun a => ⟨a.1, .unknownName⟩

theorem faults_eq (arguments : Arguments) (vars : Variables) :
    faults arguments vars = ((failing arguments vars).map fun e => ⟨e.1.name, e.2⟩)
      ++ (arguments.filter fun a => Unknown a.1).map fun a => ⟨a.1, .unknownName⟩ := by
  have hfields : Field.all.filterMap (fault? arguments vars)
      = (failing arguments vars).map fun e => ⟨e.1.name, e.2⟩ := by
    rw [failing, List.map_filterMap]
    congr 1
    funext f
    rw [fault?]
    cases chosen arguments vars f <;> rfl
  have hunknown (a : String × Value) : (!isKnown a.1) = decide (Unknown a.1) := by
    rw [Bool.eq_iff_iff, Bool.not_eq_true', isKnown_eq_false_iff, decide_eq_true_eq]
  rw [faults, hfields]
  simp only [hunknown]

theorem isListed_faults (arguments : Arguments) (vars : Variables) :
    IsListed arguments vars (faults arguments vars) := by
  have hsublist := map_fst_failing_sublist arguments vars
  exact ⟨failing arguments vars, hsublist, hsublist.nodup Field.nodup_all, fun _ _ => mem_failing_iff,
    faults_eq arguments vars⟩

/-- **Nothing is listed** just if no argument is unknown and no setting is at fault. -/
theorem faults_eq_nil_iff :
    faults arguments vars = [] ↔ ¬ ((∃ a ∈ arguments, Unknown a.1) ∨ ∃ f p, Fails arguments vars f p) := by
  rw [faults_eq, List.append_eq_nil_iff, List.map_eq_nil_iff, List.map_eq_nil_iff, List.filter_eq_nil_iff,
    List.eq_nil_iff_forall_not_mem]
  constructor
  · rintro ⟨hfields, harguments⟩ (⟨a, ha, hunknown⟩ | ⟨f, p, h⟩)
    · exact harguments a ha (decide_eq_true hunknown)
    · exact hfields (f, p) (mem_failing_iff.mpr h)
  · intro h
    refine ⟨fun e he => h (.inr ⟨e.1, e.2, mem_failing_iff.mp he⟩), fun a ha hunknown => ?_⟩
    exact h (.inl ⟨a, ha, of_decide_eq_true hunknown⟩)

/-! ## §5 Accepted settings -/

/-- What settings are like that are accepted: they are what their values become, and all rules are obeyed. -/
structure Accepted (arguments : Arguments) (vars : Variables) (s : Settings) : Prop where
  values : ∀ f, ∃ v, Picked arguments vars f v ∧ Coerces f.kind v (s.value f)
  pool : 1 ≤ s.connectionPoolSize
  connectionTimeout : 0 ≤ s.connectionTimeout
  readTimeout : 0 ≤ s.readTimeout
  sizeLimit : 0 ≤ s.sizeLimit
  timeLimit : 0 ≤ s.timeLimit
  referrals : ∀ mode, s.referrals = some mode → mode ∈ ["ignore", "follow", "throw"]
  derefAliases : ∀ mode, s.derefAliases = some mode → mode ∈ ["always", "never", "finding", "searching"]

/-- Settings whose values obey their rules. -/
theorem accepted_of_obeys {s : Settings} (hvalues : ∀ f, ∃ v, Picked arguments vars f v ∧ Coerces f.kind v (s.value f))
    (hobeys : ∀ f p, ¬ Breaks f (s.value f) p) : Accepted arguments vars s where
  values := hvalues
  pool := by
    -- each limit by contradiction: a smaller value would break the rule of its setting
    by_contra h
    exact hobeys .connectionPoolSize _ (.pool (by omega))
  connectionTimeout := by
    by_contra h
    exact hobeys .connectionTimeout _ (.negative (by decide) (by omega))
  readTimeout := by
    by_contra h
    exact hobeys .readTimeout _ (.negative (by decide) (by omega))
  sizeLimit := by
    by_contra h
    exact hobeys .sizeLimit _ (.negative (by decide) (by omega))
  timeLimit := by
    by_contra h
    exact hobeys .timeLimit _ (.negative (by decide) (by omega))
  referrals := by
    intro mode hmode
    -- so would a mode that is not among those listed
    by_contra h
    have hvalue : s.value .referrals = .text mode := by rw [value, hmode, Value.ofOption]
    exact hobeys .referrals _ (by rw [hvalue]; exact .referrals h)
  derefAliases := by
    intro mode hmode
    by_contra h
    have hvalue : s.value .derefAliases = .text mode := by rw [value, hmode, Value.ofOption]
    exact hobeys .derefAliases _ (by rw [hvalue]; exact .derefAliases h)

/-- Settings without a fault have the values that were chosen. -/
theorem accepted_of_faults_eq_nil (h : faults arguments vars = []) :
    Accepted arguments vars (ofValues (chosenValue arguments vars)) := by
  -- no fault is left, so every field has a value that fits
  have hchosen (f : Field) : ∃ v, Picked arguments vars f v ∧ Coerces f.kind v (chosenValue arguments vars f) ∧
      ∀ p, ¬ Breaks f (chosenValue arguments vars f) p := by
    rw [← chosen_eq_ok_iff, chosenValue]
    rcases hf : chosen arguments vars f with p | w
    · exact absurd (.inr ⟨f, p, chosen_eq_error_iff.mp hf⟩) (faults_eq_nil_iff.mp h)
    · rfl
  -- what is put into the fields is read back
  have hvalue (f : Field) : (ofValues (chosenValue arguments vars)).value f = chosenValue arguments vars f := by
    refine value_ofValues (fun f => ?_) f
    obtain ⟨v, -, hv, -⟩ := hchosen f
    exact hv.hasKind
  refine accepted_of_obeys (fun f => ?_) fun f => ?_
  · obtain ⟨v, hv, hcoerces, -⟩ := hchosen f
    exact ⟨v, hv, hvalue f ▸ hcoerces⟩
  · obtain ⟨v, -, -, hobeys⟩ := hchosen f
    exact hvalue f ▸ hobeys

/-! ## §6 Loading -/

/-- **Loading settings** fails if and only if an argument is no setting, in whatever case, or the value taken for a
setting does not fit its kind or breaks its rule. All of these faults are listed, and nothing else. Settings that are
accepted have the values that were taken, brought to their kinds, and obey all rules. -/
theorem settings_validation (arguments : Arguments) (vars : Variables) :
    ((∃ e, load arguments vars = .error e) ↔
      (∃ a ∈ arguments, Unknown a.1) ∨ ∃ f p, Fails arguments vars f p) ∧
    (∀ e, load arguments vars = .error e →
      ∃ details, e = .configuration (.settings details) ∧ IsListed arguments vars details) ∧
    ∀ s, load arguments vars = .ok s → Accepted arguments vars s := by
  have hlisted := isListed_faults arguments vars
  rw [load]
  rcases hfaults : faults arguments vars with _ | ⟨detail, details⟩
  · refine ⟨?_, ?_, ?_⟩
    · -- there is nothing to list
      simpa using not_or.mp (faults_eq_nil_iff.mp hfaults)
    · rintro e ⟨⟩
    · rintro s ⟨⟩
      exact accepted_of_faults_eq_nil hfaults
  · rw [hfaults] at hlisted
    -- what is listed is at fault
    have hfault : (∃ a ∈ arguments, Unknown a.1) ∨ ∃ f p, Fails arguments vars f p := by
      by_contra h
      rw [faults_eq_nil_iff.mpr h] at hfaults
      cases hfaults
    refine ⟨⟨fun _ => hfault, fun _ => ⟨_, rfl⟩⟩, ?_, ?_⟩
    · rintro e ⟨⟩
      exact ⟨_, rfl, hlisted⟩
    · rintro s ⟨⟩

/-- The settings in which a number comes from an argument and a text from a variable. -/
def limitedSettings : Settings :=
  { usual with sizeLimit := 1000, userBase := "ou=people" }

/-- A number with a sign, groups of digits and zeros behind a point is accepted, under a name in mixed case. -/
theorem limited_settings_accepted :
    load [("Size_Limit", .text " +1_000.0 ")] [("REALM_user_base", "ou=people")] = .ok limitedSettings ∧
      Accepted [("Size_Limit", .text " +1_000.0 ")] [("REALM_user_base", "ou=people")] limitedSettings := by
  have hload : load [("Size_Limit", .text " +1_000.0 ")] [("REALM_user_base", "ou=people")] = .ok limitedSettings := by
    decide +kernel
  exact ⟨hload, (settings_validation _ _).2.2 limitedSettings hload⟩

/-- No setting has this very name, and yet it is taken for the one that it names in another case. -/
theorem capital_name_accepted :
    (∀ f : Field, f.name ≠ "USER_BASE") ∧
      load [("USER_BASE", .text "ou=people")] [] = .ok { usual with userBase := "ou=people" } := by
  refine ⟨fun f => ?_, ?_⟩
  · cases f <;> decide
  · rfl

end DirectoryLogin.Settings
