import DirectoryLogin.Proofs.Similar
/-!
# What a Read Comes To

Without faults, what is read over a connection is a matter of the directory, of the identity in the environment and of
the connection's own name. Who is bound at the moment plays no part: either the identity is bound already, or it is
bound now.

- `Directory.readOutcome`: what a read comes to.
- `Exchange.read_outcome`: over a connection to the directory without faults, reading comes to that.
- `Directory.Shows`: an entry that somebody may read.
- `Directory.OpenTo`: somebody may read all entries, so that no read fails for want of an identity.
-/

namespace DirectoryLogin

/-! ## §1 The outcome of a read -/

/-- What a read comes to over a connection: the bind may fail, then the request, and the answer may hold no entry. -/
def Directory.readOutcome (d : Directory) (c : Connection) (dn : String) (names : Option (List String)) :
    Except Failure (Option Attributes) := do
  let user ← d.bindOutcome c.environment
  let response ← (d.search user (Exchange.readRequest c dn names)).mapError
    fun e => e.toFailure c.environment.throwsReferrals
  Exchange.readAnswer dn response

namespace Exchange

variable {ch : Channel}

/-- The request of a read, once the bind has gone through for the user of this name. -/
theorem result_readBound {v user : Value} (hquiet : ch.world.faults = []) (hkind : ch.connection.kind = .standard)
    (hwire : ch.wireUser = some v) (hequals : v.Equals user) (dn : String) (names : Option (List String)) :
    ((readBound dn names).perform ch).1 =
      ((ch.world.directory.search user (readRequest ch.connection dn names)).mapError
        fun e => e.toFailure ch.connection.environment.throwsReferrals).bind (readAnswer dn) := by
  have hcarried : ((ch.world.wire? ch.connection.wire).map (·.boundUser)).getD .null = v :=
    congrArg (·.getD .null) hwire
  simp only [readBound_eq, hkind, World.searchWire_eq, hquiet, Fault.strike, Fault.verdict, hcarried,
    World.search_congr hequals]
  rcases ch.world.directory.search user (readRequest ch.connection dn names) with e | response
  · rfl
  · rfl

/-- **A read without faults** comes to its outcome. -/
theorem read_outcome (hquiet : ch.world.faults = []) (hhonest : ch.Honest) (hkind : ch.connection.kind = .standard)
    (dn : String) (names : Option (List String)) :
    ((read dn names).perform ch).1 = ch.world.directory.readOutcome ch.connection dn names := by
  have hbind := perform_bind_outcome ch hquiet hhonest
  have hproceeds := bind_proceeds ch
  rw [read_eq, Session.perform_bind, Directory.readOutcome]
  rcases hrun : bind.perform ch with ⟨result, ch₁⟩
  rw [hrun] at hbind hproceeds
  rcases houtcome : ch.world.directory.bindOutcome ch.connection.environment with e | user
  · rw [houtcome] at hbind
    cases hbind
    rfl
  · rw [houtcome] at hbind
    cases hbind
    -- the wire carries a name equal to the one that the directory knows
    obtain ⟨v, v', hv, hwire, hequals⟩ := wireUser_of_bind_ok hhonest hrun
    rw [houtcome] at hv
    cases hv
    dsimp only at hproceeds
    have hrequest : readRequest ch₁.connection dn names = readRequest ch.connection dn names := by
      simp only [readRequest, Connection.fullName, hproceeds.namespaceName, hproceeds.environment]
    have hdirectory : ch₁.world.directory = ch.world.directory := hproceeds.world.directory
    dsimp only
    rw [result_readBound (hproceeds.world.quiet hquiet) (hproceeds.kind.trans hkind) hwire hequals, hrequest,
      hdirectory, hproceeds.environment]
    rfl

end Exchange

/-! ## §2 Entries that are shown -/

/-- The directory shows somebody the entry of this name: it is the root, or it has a name that can be read, it is not
guarded against this reader, and there is something to return of it. -/
def Directory.Shows (d : Directory) (reader : String) (name : String) : Prop :=
  name = "" ∨ name ∉ d.malformed ∧ (name ∈ d.guarded → name = reader) ∧ name ∉ d.ghosts ∧
    (d.entries.lookup name).isSome

/-- The entry of this name is one that only its owner may read, and the reader is another. -/
def Directory.Withholds (d : Directory) (reader : String) (name : String) : Prop :=
  name ≠ "" ∧ name ∉ d.malformed ∧ name ∈ d.guarded ∧ name ≠ reader

/-- What is withheld is not shown. -/
theorem Directory.Withholds.not_shows {d : Directory} {reader name : String} (h : d.Withholds reader name) :
    ¬ d.Shows reader name := by
  rintro (hroot | ⟨-, hallowed, -⟩)
  · exact h.1 hroot
  · exact h.2.2.2 (hallowed h.2.2.1)

namespace Exchange

variable {d : Directory} {reader : String} {c : Connection} {names : Option (List String)}

/-- The connection's own name is its full name for nothing. -/
theorem fullName_empty (c : Connection) : c.fullName "" = c.namespaceName := by
  by_cases hname : c.namespaceName = ""
  · rw [Connection.fullName, hname]
    rfl
  · simp [Connection.fullName, joinNames, hname]

/-- **What the directory answers** to a read of one entry: the entry, an answer without one, or an error that is about
who reads it only if the entry is withheld. -/
theorem read_cases (hordinary : d.fixedResponse = none) (reader : String) {request : SearchRequest}
    (hscope : request.scope = .base) :
    (d.Shows reader request.base ∧
      ∃ dn attributes, d.search (.text reader) request = .ok { items := [.entry dn attributes] }) ∨
    ¬ d.Shows reader request.base ∧ ¬ d.Withholds reader request.base ∧ d.search (.text reader) request = .ok {} ∨
    ¬ d.Shows reader request.base ∧ ∃ e, d.search (.text reader) request = .error e ∧
      ∀ referrals, e.kind referrals = .authentication ↔ d.Withholds reader request.base := by
  have hsearch : d.search (.text reader) request = d.read (.text reader) request.base request.wanted := by
    simp only [Directory.search, hordinary, hscope]
  rw [hsearch]
  generalize request.base = name
  -- the guard keeps out everybody but the reader whose entry it is
  have hguard : (d.guarded.contains name && !(Value.text reader).same (.text name)) = true ↔
      name ∈ d.guarded ∧ name ≠ reader := by
    rw [Bool.and_eq_true, List.contains_iff_mem, Bool.not_eq_true', Bool.eq_false_iff, Ne, Value.same_text_right,
      Value.text.injEq, eq_comm]
  -- the cases of the directory, in its order: the root, a name it cannot read, a guarded entry, one that is not there
  by_cases hroot : name = ""
  · rw [Directory.read, if_pos (beq_iff_eq.mpr hroot)]
    exact .inl ⟨.inl hroot, _, _, rfl⟩
  rw [Directory.read, if_neg (by simpa using hroot)]
  by_cases hmalformed : name ∈ d.malformed
  · rw [if_pos (List.contains_iff_mem.mpr hmalformed)]
    refine .inr (.inr ⟨fun h => h.elim hroot fun h => h.1 hmalformed, _, rfl, fun referrals => ?_⟩)
    exact iff_of_false (by simp [ClientError.kind, authenticationErrors]) fun h => h.2.1 hmalformed
  rw [if_neg (by simpa using hmalformed)]
  by_cases hguarded : name ∈ d.guarded ∧ name ≠ reader
  · have hwithheld : d.Withholds reader name := ⟨hroot, hmalformed, hguarded⟩
    rw [if_pos (hguard.mpr hguarded)]
    refine .inr (.inr ⟨fun h => h.elim hroot fun h => hguarded.2 (h.2.1 hguarded.1), _, rfl, fun referrals => ?_⟩)
    exact iff_of_true (by simp [ClientError.kind, authenticationErrors]) hwithheld
  -- from here on the reader is let through
  have hallowed : name ∈ d.guarded → name = reader := fun h => not_not.mp fun hne => hguarded ⟨h, hne⟩
  have hnotWithheld : ¬ d.Withholds reader name := fun h => hguarded h.2.2
  rw [if_neg (mt hguard.mp hguarded)]
  by_cases hghost : name ∈ d.ghosts
  · rw [if_pos (List.contains_iff_mem.mpr hghost)]
    exact .inr (.inl ⟨fun h => h.elim hroot fun h => h.2.2.1 hghost, hnotWithheld, rfl⟩)
  rw [if_neg (by simpa using hghost)]
  -- what is left is whether there is such an entry
  rcases hentry : d.entries.lookup name with _ | attributes
  · refine .inr (.inr ⟨fun h => h.elim hroot fun h => ?_, _, rfl, fun referrals => ?_⟩)
    · rw [hentry] at h
      exact Bool.false_ne_true h.2.2.2
    · exact iff_of_false (by simp [ClientError.kind, authenticationErrors]) hnotWithheld
  · exact .inl ⟨.inr ⟨hmalformed, hallowed, hghost, by rw [hentry]; rfl⟩, _, _, rfl⟩

/-- Under an identity that is accepted, it is up to the request. -/
theorem readOutcome_of_binds {user : Value} (haccepted : d.bindOutcome c.environment = .ok user) (dn : String)
    (names : Option (List String)) :
    d.readOutcome c dn names = ((d.search user (readRequest c dn names)).mapError
      fun e => e.toFailure c.environment.throwsReferrals).bind (readAnswer dn) := by
  rw [Directory.readOutcome, haccepted]
  rfl

/-- **Reading the connection's own entry** under an identity that is accepted: it goes through if the entry is shown,
and otherwise fails, with a failure that is about the identity only if the entry is withheld. -/
theorem readOutcome_own (hordinary : d.fixedResponse = none)
    (haccepted : d.bindOutcome c.environment = .ok (.text reader)) :
    (d.Shows reader c.namespaceName ∧ ∃ attributes, d.readOutcome c "" none = .ok attributes) ∨
      ¬ d.Shows reader c.namespaceName ∧ ∃ e, d.readOutcome c "" none = .error e ∧
        (e.directoryKind? = some .authentication ↔ d.Withholds reader c.namespaceName) := by
  have hbase : (readRequest c "" none).base = c.namespaceName := fullName_empty c
  have hcases := read_cases hordinary reader (rfl : (readRequest c "" none).scope = .base)
  rw [hbase] at hcases
  rw [readOutcome_of_binds haccepted]
  -- the entry is shown, or is not there, or the read fails
  rcases hcases with ⟨hshows, dn, attributes, hsearch⟩ | ⟨hshows, hnotWithheld, hsearch⟩ | ⟨hshows, e, hsearch, hkind⟩
  · rw [hsearch]
    exact .inl ⟨hshows, _, rfl⟩
  · rw [hsearch]
    exact .inr ⟨hshows, _, rfl, iff_of_false (by nofun) hnotWithheld⟩
  · rw [hsearch]
    refine .inr ⟨hshows, _, rfl, Iff.trans ?_ (hkind c.environment.throwsReferrals)⟩
    exact Option.some_inj

end Exchange

/-! ## §3 Directories without secrets -/

/-- Nothing in the directory is guarded against this reader. -/
def Directory.OpenTo (d : Directory) (reader : Value) : Prop :=
  ∀ name ∈ d.guarded, reader = .text name

namespace Directory.OpenTo

variable {d : Directory} {reader : Value}

/-- A read of one entry is never refused to this reader. -/
theorem kind_of_search (hopen : d.OpenTo reader) {request : SearchRequest} {e : ClientError}
    (h : d.search reader request = .error e) (referrals : Bool) : e.kind referrals ≠ .authentication := by
  rw [Directory.search] at h
  split at h
  · cases h
  split at h
  · rw [Directory.read] at h
    split_ifs at h with hroot hmalformed hguarded hghost
    · cases h
      simp [ClientError.kind, authenticationErrors]
    · -- what is guarded, is guarded against others
      obtain ⟨hmem, hother⟩ := (Bool.and_eq_true _ _).mp hguarded
      have hreader := hopen _ (List.contains_iff_mem.mp hmem)
      rw [(Value.same_text_right _ _).mpr hreader] at hother
      cases hother
    · split at h
      · cases h
      · cases h
        simp [ClientError.kind, authenticationErrors]
  · cases h
  · cases h

/-- **No read fails for want of an identity**, once this reader is bound. -/
theorem kind_of_readOutcome (hopen : d.OpenTo reader) {c : Connection}
    (hbinds : d.bindOutcome c.environment = .ok reader) {dn : String} {names : Option (List String)} {e : Failure}
    (h : d.readOutcome c dn names = .error e) :
    e.directoryKind? ≠ some .authentication := by
  rw [Exchange.readOutcome_of_binds hbinds] at h
  rcases hsearch : d.search reader (Exchange.readRequest c dn names) with error | response
  · rw [hsearch] at h
    cases h
    exact fun hkind => hopen.kind_of_search hsearch _ (Option.some.inj hkind)
  · -- an answer may still be without an entry, which is another failure
    rw [hsearch] at h
    change Exchange.readAnswer dn response = .error e at h
    rw [Exchange.readAnswer] at h
    split at h
    · cases h
    · cases h
      intro hkind
      cases hkind

end Directory.OpenTo

end DirectoryLogin
