import DirectoryLogin.Proofs.Raising
/-!
# Settings that Are Rejected

Before new settings take effect, their templates are compiled and their collaborators chosen. Either may be rejected,
and then the failure says what is wrong with the configuration; nothing else can go wrong at this point.

- `Handle.create_rejected`, `Registry.collaborators_rejected`: the two tests that new settings have to pass.
- `Registry.of_collaborators_ok`: what settings choose that have passed.
-/

namespace DirectoryLogin

/-! ## §1 Computations that reject -/

/-- A computation that fails only in ways that say why settings are rejected. -/
abbrev Rejects {α : Type} (x : Except Failure α) : Prop :=
  FailsAs (fun e => e.isRejection = true) x

/-! ## §2 Templates -/

theorem Template.Fault.isRejection_toFailure (pattern : String) (fault : Template.Fault) :
    (fault.toFailure pattern).isRejection = true := by
  cases fault with
  | strayBrace => rfl
  | longNumber digits => rfl

theorem Template.compile_rejected (pattern : String) : Rejects (Template.compile pattern) := by
  unfold Template.compile
  split
  · exact .ok _
  · exact .error (Template.Fault.isRejection_toFailure _ _)

theorem Template.compile?_rejected (pattern : Option String) : Rejects (Template.compile? pattern) := by
  rcases pattern with _ | pattern
  · exact .ok _
  · exact (compile_rejected pattern).map _

theorem PatternList.parse?_rejected (raw : Option String) : Rejects (PatternList.parse? raw) := by
  rcases raw with _ | raw
  · exact .ok _
  · refine FailsAs.map ?_ _
    unfold PatternList.parse
    split
    · split
      · exact .ok _
      · exact .error rfl
    · exact .ok _

theorem Templates.compile_rejected (s : Settings) : Rejects (Templates.compile s) := by
  refine (Template.compile?_rejected _).bind fun userSearch => ?_
  refine (PatternList.parse?_rejected _).bind fun patterns => ?_
  -- without patterns and without a base there is nothing to compile
  rcases patterns with _ | patterns
  all_goals
    refine FailsAs.bind ?_ fun userPatterns => ?_
    · first
      | exact .ok _
      | exact (FailsAs.mapM Template.compile_rejected patterns).map _
    split
    · exact (FailsAs.ok none).bind fun roleBase => (Template.compile?_rejected _).bind fun roleSearch => .ok _
    · refine ((Template.compile_rejected _).map _).bind fun roleBase => ?_
      exact (Template.compile?_rejected _).bind fun roleSearch => .ok _

/-- **A handle cannot be made** for templates that are rejected, and for nothing else. -/
theorem Handle.create_rejected (snapshot : Snapshot) (pooled : Bool) : Rejects (Handle.create snapshot pooled) :=
  (Templates.compile_rejected _).bind fun _ => .ok _

/-! ## §3 Collaborators -/

theorem Registry.find_rejected {α : Type} (kind : RegistryKind) (entries : List (String × α)) (name : String) :
    Rejects (Registry.find kind entries name) := by
  unfold Registry.find
  split
  · exact .ok _
  · exact .error rfl

theorem SocketFactory.arguments_rejected (factory : SocketFactory) (s : Settings) : Rejects (factory.arguments s) := by
  rcases factory with _ | arguments
  · unfold SocketFactory.arguments
    dsimp only
    split
    · exact .ok _
    · exact .error rfl
  · exact .ok _

theorem Registry.tlsArguments_rejected (r : Registry) (s : Settings) : Rejects (r.tlsArguments s) := by
  refine (find_rejected _ _ _).bind fun factory => (SocketFactory.arguments_rejected factory s).bind fun given => ?_
  refine (find_rejected _ _ _).bind fun verifier => ?_
  split
  · exact .ok _
  · exact .ok _

/-- **Settings choose nothing** if they name what no registry knows, or an unknown protocol version. -/
theorem Registry.collaborators_rejected (r : Registry) (s : Settings) : Rejects (r.collaborators s) := by
  refine (find_rejected _ _ _).bind fun connector => ?_
  split
  · exact (tlsArguments_rejected r s).bind fun tls => .ok _
  · exact .ok _

/-- **What settings choose**: the connections of their context factory, encrypted if they say so. -/
theorem Registry.of_collaborators_ok {r : Registry} {s : Settings} {chosen : Collaborators}
    (h : r.collaborators s = .ok chosen) :
    r.connector s.contextFactory = .ok chosen.connector ∧ chosen.tls.isSome = s.useStartTls := by
  obtain ⟨connector, hconnector, h⟩ := exists_of_bind_eq_ok h
  by_cases hstart : s.useStartTls = true
  · rw [if_pos hstart] at h
    obtain ⟨tls, -, h⟩ := exists_of_bind_eq_ok h
    cases h
    exact ⟨hconnector, hstart.symm⟩
  · rw [if_neg hstart] at h
    cases h
    exact ⟨hconnector, (Bool.eq_false_iff.mpr hstart).symm⟩

end DirectoryLogin
