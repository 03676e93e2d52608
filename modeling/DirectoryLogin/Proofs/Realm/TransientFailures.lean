import DirectoryLogin.Proofs.Manager.SearchFaults
import DirectoryLogin.Proofs.Realm.HistoryIndependence
/-!
# One Transient Failure is Invisible

Over a directory that does not change, let one search fail in a way that may be due to the connection, whichever search
that is. A realm gives the same answer as without the failure: the attempt that meets it ends with nothing but that
failure, the retry begins like a new attempt, and a new attempt has the one answer that the directory and the settings
determine.

- `Managed.attempt_shadowed`: an attempt meets the failure, or is none the wiser.
- `Managed.answer_shadowed`: what is answered is the same.
- `transient_failure_invisible`: the first call on a new realm has the same value, with and without the failure.
-/

namespace DirectoryLogin

variable {α : Type}

/-! ## §1 Transient failures -/

theorem Failure.isRetryable_of_isTransient {e : Failure} (h : e.isTransient = true) : e.isRetryable = true := by
  cases e with
  | directory fault => rfl
  | defect kind text =>
    cases kind with
    | missingAttribute => rfl
    | _ => cases h
  | _ => cases h

theorem Failure.isOrdinary_of_isTransient {e : Failure} (h : e.isTransient = true) : e.isOrdinary = true := by
  cases e with
  | interrupt | blocked => cases h
  | _ => rfl

/-- A program that was struck has served the connection as if no fault had been due. -/
theorem Channel.Serves.of_withFaults {s : Settings} {faults : List Fault} {ch ch' : Channel}
    (h : Serves s (ch.withFaults faults) ch') (hquiet : ch'.Quiet) : Serves s ch ch' where
  kind := h.kind
  wire := h.wire
  namespaceName := h.namespaceName
  world := ⟨h.world.directory, h.world.length, h.world.others, fun _ => hquiet, h.world.events⟩
  bound := h.bound
  honest hhonest := h.honest ⟨hhonest.hasWire, hhonest.identified⟩
  environment := h.environment

namespace Managed

open Manager

/-! ## §2 Attempts -/

/-- Give a handle back after a program has ended with some result, and end with that result. -/
def giveBack (id : HandleId) : Except Failure α → Managed α
  | .ok a => do
    release id
    return a
  | .error e => do
    close id
    drainPool
    throw e

/-- An attempt acquires a handle, runs the program and gives the handle back. -/
theorem perform_lent (id : HandleId) (x : Managed α) (m : Manager) :
    ((x.onFailure (fun _ => true) fun _ => do
        close id
        drainPool) >>= fun a => release id >>= fun _ => pure a).perform m =
      (giveBack id (x.perform m).1).perform (x.perform m).2 := by
  rw [Session.perform_bind, Session.perform_onFailure]
  rcases x.perform m with ⟨e | a, m₁⟩
  · simp only [if_true, giveBack, Session.perform_bind]
    rcases (close id).perform m₁ with ⟨e' | _, m₂⟩
    · rfl
    · dsimp only
      rcases drainPool.perform m₂ with ⟨e' | _, m₃⟩
      · rfl
      · rfl
  · rfl

theorem giveBack_commutes {faults : List Fault} (honly : Fault.OnlySearches faults) (id : HandleId)
    (result : Except Failure α) : Session.Commutes (withFaults faults) Quiet (giveBack id result) := by
  cases result with
  | ok a => exact .bind (release_commutes honly id) fun _ => .pure a
  | error e => exact .bind (close_commutes honly id) fun _ => .bind (drainPool_commutes honly) fun _ => .throw e

theorem giveBack_run {m : Manager} (hm : m.Regular) {id : HandleId} {pooled : Bool} (hserving : m.Serving id pooled)
    (hlocked : m.isLocked = !pooled) (result : Except Failure α) :
    ∃ m', (giveBack id result).perform m = (result, m') ∧ m'.Regular ∧ m'.isLocked = false := by
  cases result with
  | ok a =>
    obtain ⟨m₁, hrelease, hm₁, hunlocked⟩ := release_run hm hserving hlocked
    rw [giveBack, Session.perform_bind_of_ok hrelease]
    exact ⟨m₁, rfl, hm₁, hunlocked⟩
  | error e =>
    obtain ⟨m₁, hclose, hm₁, hunlocked⟩ := close_run hm hserving hlocked
    obtain ⟨m₂, hdrain, hm₂, hlocked₂⟩ := drainPool_run hm₁
    rw [giveBack, Session.perform_bind_of_ok hclose, Session.perform_bind_of_ok hdrain]
    exact ⟨m₂, rfl, hm₂, hlocked₂.trans hunlocked⟩

/-- An attempt, and the attempt under a fault of one search. The fault is still to come and has made no difference, or
it has struck: then the attempt has failed in passing, and the manager is ready for another one. -/
inductive Shadowed (e : Failure) (m : Manager) (run run' : Except Failure α × Manager) : Prop
  | pending (skip : Nat) (h : run' = (run.1, run.2.withFaults [.ofSearch skip e]))
  | struck (failure : Failure) (m' : Manager) (h : run' = (.error failure, m'))
      (htransient : failure.isTransient = true) (hm' : m'.Regular) (hunlocked : m'.isLocked = false)
      (halike : m.Alike m')

section Faulty

variable {m : Manager} {e : Failure} {x : Handle → Exchange α} (hx : Exchange.Uniform x)
  (htransient : ∀ throwsReferrals, (e.interpreted throwsReferrals).isTransient = true)
include hx htransient

/-- **An attempt under a fault** does the same as without it, or fails in passing. -/
theorem attempt_shadowed (hm : m.Regular) (hunlocked : m.isLocked = false) (skip : Nat) :
    Shadowed e m ((attempt x).perform m) ((attempt x).perform (m.withFaults [.ofSearch skip e])) := by
  have honly (skip : Nat) := Fault.onlySearches_ofSearch skip e
  have hacquire := acquire_run hm hunlocked
  have hstays := attempt_stays (fun h => (hx.orderly h).serves) (m.withFaults [.ofSearch skip e])
  rw [attempt_eq] at hstays ⊢
  rw [withConnection] at hstays ⊢
  rcases hrun : acquire.perform m with ⟨result, m₁⟩
  rw [hrun] at hacquire
  obtain ⟨hrun', -⟩ := (acquire_commutes (honly skip)).of_perform hrun hm.quiet
  cases hacquire with
  | failed _ failure =>
    rw [Session.perform_bind_of_error hrun, Session.perform_bind_of_error hrun']
    exact .pending skip rfl
  | opened _ id c pooled hm₁ hserving hc hlocked =>
    rw [Session.perform_bind_of_ok hrun'] at hstays
    rw [Session.perform_bind_of_ok hrun, Session.perform_bind_of_ok hrun']
    rw [perform_lent] at hstays ⊢
    rw [perform_lent]
    obtain ⟨h, hid⟩ : ∃ h, m₁.handle? id = some h := hserving.imp fun _ hh => hh.1
    rw [connection?_of_handle hid] at hc
    have hopen := perform_onHandle_of_open hid hc x
    have hopen' := perform_onHandle_of_open (m := m₁.withFaults [.ofSearch skip e]) hid hc x
    rw [hopen'] at hstays ⊢
    rw [hopen]
    have hserves := (hx.orderly h).serves ⟨c, m₁.world⟩
    have hserves' := (hx.orderly h).serves (Channel.withFaults [.ofSearch skip e] ⟨c, m₁.world⟩)
    have hquiet : Channel.Quiet ⟨c, m₁.world⟩ := hm₁.quiet
    have hprogram := (hx.orderly h).shadowed htransient hquiet skip
    have hchannel : Channel.mk c (m₁.withFaults [.ofSearch skip e]).world =
      Channel.withFaults [.ofSearch skip e] ⟨c, m₁.world⟩ := rfl
    rw [hchannel] at hstays ⊢
    generalize (x h).perform ⟨c, m₁.world⟩ = run at hserves hprogram ⊢
    generalize (x h).perform (Channel.withFaults [.ofSearch skip e] ⟨c, m₁.world⟩) = run' at hserves' hprogram hstays ⊢
    cases hprogram with
    | pending left hsame =>
      -- the program has ended the same way, and giving the handle back does not search
      subst hsame
      have hquiet := (hm₁.ofServes hid hc hserves).quiet
      exact .pending left (giveBack_commutes (honly left) id run.1 _ hquiet).1
    | struck failure hfailed hpasses hquiet =>
      have hm₂ := hm₁.ofServes hid hc (hserves'.of_withFaults hquiet)
      have hserving₂ : Serving { m₁.setConnection id (some run'.2.connection) with world := run'.2.world } id pooled :=
        hserving.setConnection id _
      obtain ⟨m', hgiven, hm', hunlocked'⟩ := giveBack_run hm₂ hserving₂ hlocked (.error failure : Except Failure α)
      have hgiven : (giveBack id run'.1).perform { (m₁.withFaults [.ofSearch skip e]).setConnection id
          (some run'.2.connection) with world := run'.2.world } = (.error failure, m') := by
        rw [hfailed]
        exact hgiven
      rw [hgiven] at hstays ⊢
      have halike := hstays.alike
      exact .struck failure m' rfl hpasses hm' hunlocked' ⟨halike.registry, halike.settings, halike.directory⟩

end Faulty

/-! ## §3 Retries -/

/-- The message that a failure is not the end of it. -/
def retryNote (description : String) (e : Failure) : Message :=
  ⟨.info, .realm, "Directory " ++ description ++ " failed, retrying on a new connection: " ++ e.message⟩

/-- The second attempt is made after the message. -/
theorem perform_attemptTwice (description : String) (x : Handle → Exchange α) (m : Manager) :
    (attemptTwice description x).perform m =
      match (attempt x).perform m with
      | (.ok a, m') => (.ok a, m')
      | (.error e, m') =>
        if e.isRetryable then (attempt x).perform { m' with world := m'.world.write (retryNote description e) }
        else (.error e, m') := by
  rw [attemptTwice, Session.perform_rescue]
  rcases (attempt x).perform m with ⟨e | a, m'⟩
  · dsimp only
    by_cases hretry : e.isRetryable = true
    · simp only [hretry, if_true]
      rfl
    · simp only [hretry]
      rfl
  · rfl

/-- Messages make no difference to a manager. -/
theorem regular_write {m : Manager} (hm : m.Regular) (note : Message) :
    Regular { m with world := m.world.write note } ∧ m.Alike { m with world := m.world.write note } :=
  ⟨hm.ofWorld (Connection.say_extends note.level note.source note.text m.world), rfl, rfl, rfl⟩

section Faulty

variable {m : Manager} {e : Failure}
  (htransient : ∀ throwsReferrals, (e.interpreted throwsReferrals).isTransient = true)
include htransient

/-- A retry has the answer of a first attempt. A fault can be what is reported only if there is no answer but a
failure. -/
theorem attemptTwice_shadowed {x : Handle → Exchange α} (hx : Exchange.Uniform x) (description : String)
    (hm : m.Regular) (hunlocked : m.isLocked = false) (skip : Nat) :
    ((attemptTwice description x).perform (m.withFaults [.ofSearch skip e])).1 =
      ((attemptTwice description x).perform m).1 ∨
    ∃ failure failure', ((attemptTwice description x).perform m).1 = .error failure ∧
      ((attemptTwice description x).perform (m.withFaults [.ofSearch skip e])).1 = .error failure' ∧
      failure'.isTransient = true := by
  obtain ⟨a, m₁, hrun, hm₁, hunlocked₁, ha⟩ := attempt_run hx hm hunlocked
  obtain ⟨b, m₂, htwice, -, -, hb⟩ := attemptTwice_run description hx hm hunlocked
  obtain rfl := ha.unique hx hb
  rw [htwice]
  have hfirst := attempt_shadowed hx htransient hm hunlocked skip
  rw [hrun] at hfirst
  rw [perform_attemptTwice] at htwice ⊢
  rw [hrun] at htwice
  cases hfirst with
  | pending left hsame =>
    rw [hsame]
    rcases a with failure | a
    · dsimp only at htwice ⊢
      split at htwice
      · -- the first attempt has failed of itself, and now the fault may strike the second one
        rename_i hretry
        have ⟨hm₁', _⟩ := regular_write hm₁ (retryNote description failure)
        rw [if_pos hretry]
        have hsecond := attempt_shadowed hx htransient hm₁' hunlocked₁ left
        rw [htwice] at hsecond
        cases hsecond with
        | pending _ hsame' =>
          refine .inl ?_
          have hsame' := congrArg Prod.fst hsame'
          exact hsame'
        | struck failure' _ hfailed hpasses =>
          exact .inr ⟨failure, failure', rfl, congrArg Prod.fst hfailed, hpasses⟩
      · rename_i hretry
        rw [if_neg hretry]
        exact .inl rfl
    · exact .inl rfl
  | struck failure m' hfailed hpasses hm' hunlocked' halike =>
    -- the fault is gone, and what is left to do is a first attempt
    have ⟨hnoted, hnotedAlike⟩ := regular_write hm' (retryNote description failure)
    obtain ⟨b, m₃, hretried, -, -, hb⟩ := attempt_run hx hnoted hunlocked'
    have hb' := (hb.alike hnoted hm' hnotedAlike.symm).alike hm' hm halike.symm
    obtain rfl := ha.unique hx hb'
    rw [hfailed]
    dsimp only
    rw [if_pos (Failure.isRetryable_of_isTransient hpasses), hretried]
    exact .inl rfl

omit htransient in
/-- What is answered is the value, or nothing after a failure that can be caught. -/
theorem answer_value {x : Handle → Exchange (Option α)} {description : String} {a : Except Failure (Option α)}
    (ha : FailsOrdinarily a) (hrun : ((attemptTwice description x).perform m).1 = a) :
    ((answer description x).perform m).1 = .ok a.toOption.join := by
  rw [answer, Session.perform_rescue]
  rcases hattempts : (attemptTwice description x).perform m with ⟨result, m'⟩
  rw [hattempts] at hrun
  dsimp only at hrun
  subst hrun
  rcases result with failure | value
  · simp only [ha failure rfl, if_true]
    rfl
  · rfl

/-- **What is answered is the same** with a transient failure and without. -/
theorem answer_shadowed {x : Handle → Exchange (Option α)} (hx : Exchange.Uniform x) (description : String)
    (hm : m.Regular) (hunlocked : m.isLocked = false) (skip : Nat) :
    ∃ value, ((answer description x).perform m).1 = .ok value ∧
      ((answer description x).perform (m.withFaults [.ofSearch skip e])).1 = .ok value := by
  obtain ⟨a, m', hrun, -, -, ha⟩ := attemptTwice_run description hx hm hunlocked
  have hordinary := ha.failsOrdinarily hx
  have hvalue := answer_value hordinary (congrArg Prod.fst hrun)
  refine ⟨a.toOption.join, hvalue, ?_⟩
  have hresult : ((attemptTwice description x).perform m).1 = a := congrArg Prod.fst hrun
  rcases attemptTwice_shadowed htransient hx description hm hunlocked skip with
    hsame | ⟨failure, failure', hfailed, hfailed', hpasses⟩
  · -- the fault struck nothing that shows
    exact answer_value hordinary (hsame.trans hresult)
  · -- both end in nothing: the one failure passes, and so did the other
    rw [hresult] at hfailed
    subst hfailed
    have hnone := answer_value (.error (Failure.isOrdinary_of_isTransient hpasses)) hfailed'
    exact hnone

end Faulty

end Managed

/-! ## §4 First calls -/

namespace Realm

/-- The realm with these faults due. -/
def withFaults (faults : List Fault) (r : Realm) : Realm :=
  { r with manager := r.manager.withFaults faults }

/-- A realm is built the same way whatever faults are due. -/
theorem create_withFaults {registry : Registry} {snapshot : Snapshot} {given : Option Matcher} {w : World} {r : Realm}
    (hcreate : ((create registry snapshot given).perform w).1 = .ok r) (faults : List Fault) :
    ((create registry snapshot given).perform (w.withFaults faults)).1 = .ok (r.withFaults faults) := by
  obtain ⟨matcher, chosen, templates, hmatcher, hchosen, htemplates, rfl⟩ := of_create_ok hcreate
  -- no search is asked while the realm is made, so its parts are the same
  have hhandle : Handle.create snapshot false =
      .ok { snapshot := snapshot, pooled := false, templates := templates } := by
    rw [Handle.create, htemplates]
    rfl
  have hmanager := Manager.perform_create registry snapshot (w.withFaults faults)
  simp only [hchosen, hhandle] at hmanager
  have hmatcher : (Session.ofExcept (chooseMatcher given registry snapshot.settings) : Session World Matcher).perform
      (w.withFaults faults) = (.ok matcher, w.withFaults faults) := by
    rw [hmatcher]
    rfl
  rw [create, Session.perform_bind_of_ok hmatcher, Session.perform_bind_of_ok hmanager]
  rfl

end Realm

/-- **One transient failure is invisible.** Take any settings, with the connectors and matchers that they choose from,
and a world over any directory in which no fault is due. Build a realm in it, and another one where a search is going to
fail: whichever search that is, and with whatever error, as long as it is reported as a transient failure or is the
defect that counts as one. The first call of either realm, a login, the look-up of a known user or of a stored password,
has one and the same value. -/
theorem transient_failure_invisible {registry : Registry} {snapshot : Snapshot} {given : Option Matcher} {w : World}
    {r : Realm} (hcreate : ((Realm.create registry snapshot given).perform w).1 = .ok r) (hquiet : w.faults = [])
    (skip : Nat) {e : Failure} (htransient : ∀ throwsReferrals, (e.interpreted throwsReferrals).isTransient = true) :
    ∃ r', ((Realm.create registry snapshot given).perform { w with faults := [⟨some .search, skip, some e⟩] }).1 =
        .ok r' ∧
      (∀ username password, Login.SameValue r r' (Login.authenticate username password)) ∧
      (∀ username credential, Login.SameValue r r' (Login.getPrincipal username credential)) ∧
      ∀ username, Login.SameValue r r' (Login.getPassword username) := by
  have hregular := Realm.Regular.of_create hquiet hcreate
  have hanswer {α : Type} (description : String) {x : Handle → Exchange (Option α)} (hx : Exchange.Uniform x) :
      Login.SameValue r (r.withFaults [.ofSearch skip e]) (Login.onManager (Managed.answer description x)) :=
    Managed.answer_shadowed htransient hx description hregular.manager hregular.unlocked skip
  exact ⟨r.withFaults [.ofSearch skip e], Realm.create_withFaults hcreate _, Login.authenticate_sameValue hanswer rfl,
    Login.getPrincipal_sameValue hanswer, Login.getPassword_sameValue hanswer rfl⟩

/-! ### A run -/

/-- Settings under which the groups of groups are looked up. -/
def Settings.ofNestedGroups : Settings where
  connectionUrl := some "ldap://directory"
  connectionName := some "cn=service"
  connectionPassword := some "spruce"
  userPattern := some "uid={0}"
  roleSearch := some "(member={0})"
  roleName := some "cn"
  roleNested := true

/-- A world with a user in a group that is itself in a group. -/
def World.ofNestedGroups : World where
  directory :=
    { passwords := [("cn=service", "spruce"), ("uid=ada", "pearl")]
      answers :=
        [("(member=uid=ada)", [.item (.entry "cn=owls" (some [("cn", .list [.text "owls"])]))]),
          ("(member=cn=owls)", [.item (.entry "cn=birds" (some [("cn", .list [.text "birds"])]))])] }

/-- The connection breaks at the third search, the one for the groups of the group: the password has been checked, and
one role has been found. -/
theorem broken_role_search_repeated :
    ∃ r r', ((Realm.create {} ⟨0, .ofNestedGroups⟩ none).perform .ofNestedGroups).1 = .ok r ∧
      ((Realm.create {} ⟨0, .ofNestedGroups⟩ none).perform { World.ofNestedGroups with
        faults := [⟨some .search, 2, some (.client ⟨"LDAPSocketSendError", "broken pipe"⟩)⟩] }).1 = .ok r' ∧
      ((Login.authenticate (some "ada") (some "pearl")).perform r').2.manager.world.faults = [] ∧
      ∃ p, p.roles = ["owls", "birds"] ∧
        ((Login.authenticate (some "ada") (some "pearl")).perform r).1 = .ok (some p) ∧
        ((Login.authenticate (some "ada") (some "pearl")).perform r').1 = .ok (some p) := by
  have hrun : (((Realm.create {} ⟨0, .ofNestedGroups⟩ none).perform .ofNestedGroups).1.toOption.any fun r =>
      ((Login.authenticate (some "ada") (some "pearl")).perform r).1.toOption.any fun value =>
        value.any (·.roles == ["owls", "birds"])) = true := by decide +kernel
  have hstruck : (((Realm.create {} ⟨0, .ofNestedGroups⟩ none).perform { World.ofNestedGroups with
      faults := [⟨some .search, 2, some (.client ⟨"LDAPSocketSendError", "broken pipe"⟩)⟩] }).1.toOption.any fun r =>
      ((Login.authenticate (some "ada") (some "pearl")).perform r).2.manager.world.faults.isEmpty) = true := by
    decide +kernel
  obtain ⟨r, hcreate, hrun⟩ := exists_ok_of_any hrun
  obtain ⟨r', hcreate', hstruck⟩ := exists_ok_of_any hstruck
  obtain ⟨value, hvalue, hrun⟩ := exists_ok_of_any hrun
  obtain ⟨p, rfl, hroles⟩ := (Option.any_eq_true _ _).mp hrun
  -- a broken pipe is transient, however referrals are treated
  have hlost : ∀ throwsReferrals, ((Failure.client ⟨"LDAPSocketSendError", "broken pipe"⟩).interpreted
      throwsReferrals).isTransient = true := by decide +kernel
  -- so the login comes to the same in both worlds
  obtain ⟨fresh, hfresh, hlogin, -, -⟩ := transient_failure_invisible hcreate rfl 2 hlost
  rw [hcreate'] at hfresh
  cases hfresh
  obtain ⟨value, hsame, hsame'⟩ := hlogin (some "ada") (some "pearl")
  rw [hvalue] at hsame
  cases hsame
  exact ⟨r, r', hcreate, hcreate', List.isEmpty_iff.mp hstruck, p, eq_of_beq hroles, hvalue, hsame'⟩

end DirectoryLogin
