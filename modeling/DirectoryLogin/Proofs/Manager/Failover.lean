import DirectoryLogin.Proofs.Manager.Completing
/-!
# Failover

The connection of a handle is opened to the usual URL, and if that fails for whatever reason, once more to the alternate
URL, if there is one. What comes of it is what came of the last attempt.

- `Connection.Attempt`, `Connection.Failover`: the attempts that are made, each in the world that the one before has
  left.
- `Connection.establish_fails_over`: opening a connection for some settings is making these attempts.
- `open_fails_over`: what they mean for a handle and its manager.
-/

namespace DirectoryLogin

/-! ## §1 Environments of attempts -/

namespace Environment

/-- Attempts differ in the URL, and in nothing else. -/
theorem get?_ofSettings (s : Settings) (name : String) (attempt : Int) :
    (ofSettings s attempt).get? name =
      if name = providerUrl then (urlOf s attempt).map .text else (ofSettings s 0).get? name := by
  by_cases hname : name = providerUrl
  · rw [if_pos hname, hname]
    simp [ofSettings, get?_insertText?, get?_insert, get?, principal, credentials, authentication, protocol, referral,
      derefAliases, connectTimeout, readTimeout, providerUrl]
  · simp only [ofSettings, get?_insertText?, if_neg hname]

end Environment

namespace Connection

variable {kind : ConnectionKind} {policy : Option TlsArguments} {s : Settings} {w : World}

/-! ## §2 Attempts -/

/-- An attempt that was made to open a connection for some settings: its number, and the worlds before and after it. -/
structure Attempt (kind : ConnectionKind) (policy : Option TlsArguments) (s : Settings) where
  number : Int
  before : World
  result : Except Failure Connection
  after : World
  made : (openWith kind policy (Environment.ofSettings s number)).perform before = (result, after)

namespace Attempt

variable (a : Attempt kind policy s)

theorem result_eq : a.result = ((openWith kind policy (Environment.ofSettings s a.number)).perform a.before).1 := by
  rw [a.made]

theorem after_eq : a.after = ((openWith kind policy (Environment.ofSettings s a.number)).perform a.before).2 := by
  rw [a.made]

end Attempt

/-- What is written when the usual URL has failed, before the alternate one is tried. -/
def alternateNotice (s : Settings) (e : Failure) : Message where
  level := .info
  source := .connections
  text := "Connection to " ++ s.connectionUrl.getD "None" ++ " failed (" ++ e.message ++ "), trying alternate URL "
    ++ s.alternateUrl.getD "None"

/-- The attempts that are made, beginning in a world: one, and one more exactly if it fails and there is an alternate
URL. Nothing happens in between but that a message is written. -/
structure Failover (kind : ConnectionKind) (policy : Option TlsArguments) (s : Settings) (w : World) where
  first : Attempt kind policy s
  second : Option (Attempt kind policy s)
  first_number : first.number = 0
  first_before : first.before = w
  isSome_second_iff : second.isSome = true ↔ (∃ e, first.result = .error e) ∧ s.alternateUrl.isSome = true
  second_number : ∀ a, second = some a → a.number = 1
  second_before : ∀ a, second = some a →
    ∀ e, first.result = .error e → a.before = first.after.write (alternateNotice s e)

namespace Failover

/-- The last attempt that was made. -/
def last (a : Failover kind policy s w) : Attempt kind policy s :=
  a.second.getD a.first

/-- A single attempt, which leaves nothing to be tried. -/
def single (first : Attempt kind policy s) (hnumber : first.number = 0) (hbefore : first.before = w)
    (hlast : ∀ e, first.result = .error e → s.alternateUrl = none) : Failover kind policy s w where
  first := first
  second := none
  first_number := hnumber
  first_before := hbefore
  isSome_second_iff := by
    refine iff_of_false Bool.false_ne_true ?_
    rintro ⟨⟨e, he⟩, halternate⟩
    rw [hlast e he] at halternate
    cases halternate
  second_number := by
    rintro _ ⟨⟩
  second_before := by
    rintro _ ⟨⟩

/-- Two attempts, the first of which has failed. -/
def both (first second : Attempt kind policy s) (hnumber : first.number = 0) (hbefore : first.before = w) {e : Failure}
    (hfailed : first.result = .error e) (halternate : s.alternateUrl.isSome = true) (hnumber' : second.number = 1)
    (hbefore' : second.before = first.after.write (alternateNotice s e)) : Failover kind policy s w where
  first := first
  second := some second
  first_number := hnumber
  first_before := hbefore
  isSome_second_iff := iff_of_true rfl ⟨⟨e, hfailed⟩, halternate⟩
  second_number := by
    rintro _ ⟨⟩
    exact hnumber'
  second_before := by
    rintro _ ⟨⟩ e' he'
    cases hfailed.symm.trans he'
    exact hbefore'

end Failover

/-- Without interrupts, an attempt fails in a way that can be caught. -/
theorem ordinary_of_openWith {e : Environment} {failure : Failure} {w' : World} (hcalm : w.Calm)
    (h : (openWith kind policy e).perform w = (.error failure, w')) : failure.isOrdinary = true ∧ w'.Calm := by
  obtain ⟨hordinary, hcalm'⟩ := openWith_completes kind policy e w hcalm
  rw [h] at hordinary hcalm'
  exact ⟨hordinary failure rfl, hcalm'⟩

/-- **Opening a connection** for some settings is making these attempts. Its failure names the URL of the last one. -/
theorem establish_fails_over (kind : ConnectionKind) (policy : Option TlsArguments) (s : Settings) (hcalm : w.Calm) :
    ∃ a : Failover kind policy s w, (establish kind policy s).perform w =
      (a.last.result.mapError (.unreachable (Environment.urlOf s a.last.number)), a.last.after) := by
  rw [establish, Session.perform_rescue]
  rcases hfirst : (openWith kind policy (Environment.ofSettings s 0)).perform w with ⟨e | c, w₁⟩
  · obtain ⟨he, hcalm⟩ := ordinary_of_openWith hcalm hfirst
    simp only [he, Bool.not_true, Bool.false_eq_true, if_false]
    rcases halternate : s.alternateUrl with _ | alternate
    · -- there is no alternate URL, so the first attempt was the only one
      exact ⟨.single ⟨0, w, .error e, w₁, hfirst⟩ rfl rfl fun _ _ => halternate, rfl⟩
    · -- the notice is written between the two attempts
      have hsome : s.alternateUrl.isSome = true := by rw [halternate, Option.isSome_some]
      have hsaid : (World.say .info .connections ("Connection to " ++ s.connectionUrl.getD "None" ++ " failed ("
          ++ e.message ++ "), trying alternate URL " ++ alternate)).perform w₁ =
          (.ok (), w₁.write (alternateNotice s e)) := by
        rw [World.perform_say, alternateNotice, halternate, Option.getD_some]
      dsimp only
      rw [Session.perform_bind_of_ok hsaid, Session.perform_rescue]
      rcases hsecond : (openWith kind policy (Environment.ofSettings s 1)).perform (w₁.write (alternateNotice s e))
        with ⟨e' | c, w₂⟩
      · have hnoted : (w₁.write (alternateNotice s e)).Calm := hcalm
        obtain ⟨he', -⟩ := ordinary_of_openWith hnoted hsecond
        refine ⟨.both ⟨0, w, .error e, w₁, hfirst⟩ ⟨1, _, .error e', w₂, hsecond⟩ rfl rfl rfl hsome rfl rfl, ?_⟩
        simp only [he', if_true]
        rw [← halternate]
        rfl
      · exact ⟨.both ⟨0, w, .error e, w₁, hfirst⟩ ⟨1, _, .ok c, w₂, hsecond⟩ rfl rfl rfl hsome rfl rfl, rfl⟩
  · -- the first attempt succeeded
    refine ⟨.single ⟨0, w, .ok c, w₁, hfirst⟩ rfl rfl ?_, rfl⟩
    rintro _ ⟨⟩

end Connection

/-! ## §3 Opening a handle -/

open Managed Connection

/-- **Opening a handle fails over.** Let a handle have no connection, and let no fault that is due be an interrupt. Then
opening it is making one attempt with the first environment of its settings, and one more with the second one exactly if
that fails, for whatever reason, and there is an alternate URL. The environments differ in the URL only. The handle is
opened exactly if the last attempt succeeds, and then it has the connection of this attempt. Otherwise the failure is
that the URL of the last attempt cannot be reached, and the handle has no connection. All else that has changed is what
the attempts have done outside: the settings, the pool and all other books are as they were, and so are the connections
of the other handles. -/
theorem open_fails_over {m : Manager} {id : HandleId} {h : Handle} (hid : m.handle? id = some h)
    (hclosed : h.connection = none) (hcalm : m.Calm) :
    ∃ (a : Failover m.connector m.tls h.settings m.world) (result : Except Failure Unit) (m' : Manager),
      (openHandle id).perform m = (result, m') ∧
      (result = .ok () ↔ ∃ c, a.last.result = .ok c) ∧
      (∀ c, a.last.result = .ok c → m'.connection? id = some c) ∧
      (∀ e, a.last.result = .error e →
        result = .error (.unreachable (Environment.urlOf h.settings a.last.number) e) ∧ m'.connection? id = none) ∧
      m'.world = a.last.after ∧ m.SameBooks m' ∧ (∀ other, other ≠ id → m'.connection? other = m.connection? other) ∧
      ∀ name attempt, (Environment.ofSettings h.settings attempt).get? name =
        if name = Environment.providerUrl then (Environment.urlOf h.settings attempt).map .text
        else (Environment.ofSettings h.settings 0).get? name := by
  obtain ⟨a, hestablish⟩ := establish_fails_over m.connector m.tls h.settings hcalm
  have hbooks : m.SameBooks ((openHandle id).perform m).2 := openHandle_sameBooks id m
  rcases hlast : a.last.result with e | c
  · -- the last attempt failed: nothing is stored, and the failure says where it was made
    have hrun : (openHandle id).perform m =
        (.error (.unreachable (Environment.urlOf h.settings a.last.number) e), { m with world := a.last.after }) := by
      rw [perform_openHandle hid, hestablish, hlast]
      rfl
    rw [hrun] at hbooks
    refine ⟨a, _, _, hrun, ?_⟩
    rw [hlast]
    refine ⟨iff_of_false ?_ ?_, ?_, ?_, rfl, hbooks, fun _ _ => rfl, Environment.get?_ofSettings h.settings⟩
    · rintro ⟨⟩
    · rintro ⟨_, ⟨⟩⟩
    · rintro _ ⟨⟩
    · rintro _ ⟨⟩
      have hnone : m.connection? id = none := by rw [Manager.connection?, hid, Option.bind_some, hclosed]
      exact ⟨rfl, hnone⟩
  · -- the last attempt gave a connection, which is stored with the handle
    have hrun : (openHandle id).perform m =
        (.ok (), { m.setConnection id (some c) with world := a.last.after }) := by
      rw [perform_openHandle hid, hestablish, hlast]
      rfl
    rw [hrun] at hbooks
    refine ⟨a, _, _, hrun, ?_⟩
    rw [hlast]
    refine ⟨iff_of_true rfl ⟨c, rfl⟩, ?_, ?_, rfl, hbooks, ?_, Environment.get?_ofSettings h.settings⟩
    · rintro _ ⟨⟩
      have hheld : (m.setConnection id (some c)).connection? id = some c := by
        rw [connection?_setConnection, if_pos rfl, hid, Option.bind_some]
      exact hheld
    · rintro _ ⟨⟩
    · intro other hother
      have hkept : (m.setConnection id (some c)).connection? other = m.connection? other := by
        rw [connection?_setConnection, if_neg hother]
      exact hkept

/-! ### A run -/

/-- Settings with a URL for the day and one for the night. -/
def Settings.dayAndNight : Settings where
  connectionUrl := some "ldap://day"
  alternateUrl := some "ldap://night"

/-- A manager with a handle for these settings, and a fault of the driver's own that is due when a wire is opened. -/
def Manager.dayAndNight : Manager where
  registry := {}
  active := ⟨0, .dayAndNight⟩
  connector := .standard
  tls := none
  pool := none
  handles := [⟨⟨0, .dayAndNight⟩, false, ⟨none, none, none, none⟩, none⟩]
  world := {
    faults := [{ on := some .connect, skip := 0, failure := some (.defect (.other "RuntimeError") "driver broke") }] }

/-- After the fault, the handle is opened to the other URL. -/
theorem opened_to_night_after_fault : ∃ m' c, (openHandle 0).perform .dayAndNight = (.ok (), m') ∧
    m'.connection? 0 = some c ∧ c.environment.value Environment.providerUrl = .text "ldap://night" := by
  have hcalm : Manager.dayAndNight.Calm := by
    intro f hf e he
    cases List.mem_singleton.mp hf
    cases he
    rfl
  obtain ⟨a, result, m', hrun, hok, hholds, -⟩ := @open_fails_over .dayAndNight 0 _ rfl rfl hcalm
  -- the one fault strikes the first attempt
  have hfirst : a.first.result = .error (.defect (.other "RuntimeError") "driver broke") := by
    rw [a.first.result_eq, a.first_number, a.first_before]
    rfl
  obtain ⟨second, hsecond⟩ := Option.isSome_iff_exists.mp (a.isSome_second_iff.mpr ⟨⟨_, hfirst⟩, rfl⟩)
  have hlast : a.last = second := by rw [Failover.last, hsecond, Option.getD_some]
  -- so the second one, to the other URL, succeeds
  have hopened : ∃ c, second.result = .ok c := by
    rw [second.result_eq, a.second_number _ hsecond, a.second_before _ hsecond _ hfirst, a.first.after_eq,
      a.first_number, a.first_before]
    exact ⟨_, rfl⟩
  obtain ⟨c, hc⟩ := hopened
  have hmade := second.made
  rw [hc, a.second_number _ hsecond] at hmade
  have hurl : c.environment.value Environment.providerUrl = .text "ldap://night" :=
    ((openWith_opened hmade).environment.value_eq _).trans rfl
  rw [← hlast] at hc
  exact ⟨m', c, hrun.trans (by rw [hok.mpr ⟨c, hc⟩]), hholds c hc, hurl⟩

end DirectoryLogin
