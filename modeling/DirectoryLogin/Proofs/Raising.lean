import DirectoryLogin.Proofs.Connection.Results
import DirectoryLogin.Proofs.Session.Failing
import DirectoryLogin.Realm
/-!
# Failures That Programs Raise

Before new settings take effect, it is found out whether they can be used, and if not, the failure says so. Whatever a
program over a connection raises of its own accord is another kind of failure: it says that a request was refused, that
a name cannot be read or that something is missing, and it can be caught.

- `Failure.isRejection`: what settings are rejected for.
- `Failure.isRaised`: what programs raise; there is one lemma for each computation that they make.
-/

namespace DirectoryLogin

/-! ## §1 Failures -/

/-- Settings are rejected for this fault: a template that is malformed, or a name that nothing goes by. -/
def ConfigurationFault.isRejection : ConfigurationFault → Bool
  | .template _ | .userPattern _ | .sslProtocol _ _ | .unknownEntry _ _ _ => true
  | .settings _ | .urlScheme _ _ | .urlHost _ | .mechanism _ => false

namespace Failure

/-- The failure says why settings are rejected. A number of a template that is too long is no configuration fault. -/
def isRejection : Failure → Bool
  | .configuration fault => fault.isRejection
  | .defect .longSlot _ => true
  | _ => false

/-- The failure can be caught, and it rejects no settings. -/
def isRaised (e : Failure) : Bool :=
  e.isOrdinary && !e.isRejection

theorem ordinary_of_isRaised {e : Failure} (h : e.isRaised = true) : e.isOrdinary = true :=
  ((Bool.and_eq_true _ _).mp h).1

theorem not_isRejection_of_isRaised {e : Failure} (h : e.isRaised = true) : e.isRejection = false :=
  (Bool.not_eq_true' _).mp ((Bool.and_eq_true _ _).mp h).2

/-- Only what can be caught rejects settings. -/
theorem ordinary_of_isRejection {e : Failure} (h : e.isRejection = true) : e.isOrdinary = true := by
  cases e with
  | interrupt text => cases h
  | blocked => cases h
  | _ => rfl

/-- An interrupt rejects no settings. -/
theorem not_isRejection_of_interrupt {e : Failure} (h : e.isOrdinary = false) : e.isRejection = false := by
  refine Bool.eq_false_iff.mpr fun hrejection => ?_
  rw [ordinary_of_isRejection hrejection] at h
  cases h

/-- Nothing is tried again because settings were rejected. -/
theorem not_isRetryable_of_isRejection {e : Failure} (h : e.isRejection = true) : e.isRetryable = false := by
  cases e with
  | directory fault => cases h
  | defect kind text =>
    cases kind with
    | missingAttribute => cases h
    | _ => rfl
  | _ => rfl

end Failure

/-! ## §2 Computations -/

/-- A computation that fails only in ways in which programs fail. -/
abbrev Raises {α : Type} (x : Except Failure α) : Prop :=
  FailsAs (fun e => e.isRaised = true) x

theorem Name.parse_raises (dn : String) : Raises (Name.parse dn) := by
  unfold Name.parse
  split
  · exact .ok _
  split
  · exact .ok _
  · exact .error rfl

theorem Name.ofUrl_raises (text : String) : Raises (Name.ofUrl text) := by
  unfold Name.ofUrl
  rcases Url.split text with _ | url
  · exact .error rfl
  simp only [Except.mapError]
  exact FailsAs.bind (.ok url) fun url => .ite (.error rfl) ((Name.parse_raises _).bind fun _ => .ok _)

theorem Name.ofResult_raises (namespaceName base : String) (result : SearchResult) (normalize : Bool) :
    Raises (Name.ofResult namespaceName base result normalize) := by
  unfold Name.ofResult
  exact .ite (.ok _) ((Name.ofUrl_raises _).bind fun _ => .ok _)

theorem Password.encode_raises (p : Password) : Raises p.encode := by
  cases p with
  | text s => exact .ok _
  | broken b => exact .error rfl

theorem Matcher.compare_raises (m : Matcher) (presented stored : Option Password) :
    Raises (m.compare presented stored) := by
  cases m with
  | plain =>
    unfold Matcher.compare
    dsimp only
    split
    · -- either text may hold what cannot be encoded
      exact (Password.encode_raises _).bind fun _ => (Password.encode_raises _).bind fun _ => .ok _
    · exact .ok _
  | always | never => exact .ok _
  | reversed =>
    unfold Matcher.compare
    dsimp only
    split
    · exact .ok _
    · exact .ok _
  | unprovided => exact .error rfl

theorem BindRequest.ofEnvironment_raises (e : Environment) : Raises (ofEnvironment e) := by
  unfold ofEnvironment
  split
  · exact .ite (.ok _) (.ite (.ok _) (.ite (.ok _) (.ite (.ok _) (.error rfl))))
  · exact .error rfl

/-- The failure that follows the results of a search. -/
theorem Results.ofItems_raises {base : String} {isReferred asReferral : Bool} {items : List ResponseItem} {e : Failure}
    (h : (ofItems base isReferred asReferral items).ending = some e) : e.isRaised = true := by
  have hkind := kind_of_ending_ofItems base isReferred asReferral h
  cases e with
  | directory fault => rfl
  | _ => cases hkind

namespace Exchange

theorem patternAt_raises (patterns : List Template) (index : Int) : Raises (patternAt patterns index) :=
  .ite (.ok _) (.ite (.ok _) (.error rfl))

theorem roleBase_raises (h : Handle) (dn : String) : Raises (roleBase h dn) := by
  unfold roleBase
  split
  · exact .ok _
  · exact .ite (.ok _) ((Name.parse_raises dn).map _)

theorem collectGroups_raises (s : Settings) (namespaceName base : String) (groups : List Group)
    (results : List SearchResult) : Raises (collectGroups s namespaceName base groups results) := by
  induction results generalizing groups with
  | nil => exact .ok groups
  | cons r rest ih =>
    unfold collectGroups
    split
    · exact ih groups
    · refine (Name.ofResult_raises _ _ _ _).bind fun dn => ?_
      split
      · exact ih _
      · exact ih _

end Exchange

end DirectoryLogin
