import DirectoryLogin.Proofs.Faults
import DirectoryLogin.Proofs.Manager.Choosing
import DirectoryLogin.Proofs.Manager.Encrypting
import DirectoryLogin.Proofs.Manager.Faultless
/-!
# Handles of Settings That Can Be Used

The templates of the active settings have been compiled once, so they can be compiled again, whenever a handle is made
for them. Then nothing else in lending a handle out, or in taking it back, can reject settings: failures to open a
connection are reported as such, and closing one only fails by an interrupt.

- `Managed.acquire_unrejected`, `Managed.release_unrejected`: lending and giving back.
- `Managed.attemptTwice_confines`: a program with a retry fails in ways in which programs fail, or as a fault makes it
  fail.
-/

namespace DirectoryLogin

namespace Managed

open Session (Confines)

variable {α : Type} {m : Manager} {snapshot : Snapshot} {templates : Templates}

/-! ## §1 Lending and giving back -/

/-- The step rejects no settings, in whatever state it is begun. -/
abbrev Unrejected (x : Managed α) : Prop :=
  x.Confines (fun _ => True) fun e => e.isRejection = false

theorem closeConnection_unrejected (id : HandleId) : Unrejected (closeConnection id) :=
  (closeConnection_interrupted id).mono fun _ => Failure.not_isRejection_of_interrupt

theorem lock_unrejected : Unrejected lock :=
  lock_interrupted.mono fun _ => Failure.not_isRejection_of_interrupt

theorem unlock_unrejected : Unrejected unlock := by
  refine .bind .get fun m => ?_
  split
  · exact .bind (.throw rfl) fun _ => .modify fun _ _ => trivial
  · exact .modify fun _ _ => trivial

theorem unlockFor_unrejected (id : HandleId) : Unrejected (unlockFor id) := by
  refine .bind .get fun m => ?_
  split
  · exact unlock_unrejected
  · exact .pure _

theorem release_unrejected (id : HandleId) : Unrejected (release id) := by
  refine .bind .get fun m => ?_
  split
  · split
    · exact fun _ _ => ⟨.ok _, trivial⟩
    · exact closeConnection_unrejected id
  · split
    · exact .bind (closeConnection_unrejected id) fun _ => unlock_unrejected
    · exact unlock_unrejected

theorem close_unrejected (id : HandleId) : Unrejected (close id) := by
  rw [close_eq]
  exact .bind (closeConnection_unrejected id) fun _ => unlockFor_unrejected id

theorem drainPool_unrejected : Unrejected drainPool := by
  refine .bind .get fun m => ?_
  split
  · exact .pure _
  · exact .bind (fun _ _ => ⟨.ok _, trivial⟩) fun _ => .forM closeConnection_unrejected _

/-- Whatever goes wrong on the way to a connection, what is reported is that there is none. -/
theorem openHandle_unrejected (id : HandleId) : Unrejected (openHandle id) := by
  have hany (s : Settings) (attempt : Int) : (openAttempt id s attempt).Confines (fun _ => True) fun _ => True :=
    fun _ _ => ⟨fun _ _ => trivial, trivial⟩
  refine .bind .get fun m => ?_
  split
  · -- only interrupts pass through; everything else is reported anew, by this attempt or by the one at the other URL
    refine .rescue (hany _ 0) (fun e _ hpass => ?_) fun e y hy => ?_
    all_goals by_cases hordinary : e.isOrdinary = true
    · simp [hordinary] at hpass
    · exact Failure.not_isRejection_of_interrupt (Bool.eq_false_iff.mpr hordinary)
    · simp only [hordinary, Bool.not_true, Bool.false_eq_true, if_false, Option.some.injEq] at hy
      subst hy
      split
      · exact .throw rfl
      refine .bind (fun _ _ => ⟨.ok _, trivial⟩) fun _ =>
        .rescue (hany _ 1) (fun e' _ hpass' => ?_) fun e' y' hy' => ?_
      · split at hpass'
        · cases hpass'
        · exact Failure.not_isRejection_of_interrupt (Bool.eq_false_iff.mpr ‹_›)
      · split at hy'
        · cases hy'
          exact .throw rfl
        · cases hy'
    · simp [hordinary] at hy
  · exact .throw rfl

section Compiled

variable (htemplates : Templates.compile snapshot.settings = .ok templates)
include htemplates

theorem newHandle_unrejected (pooled : Bool) : Unrejected (newHandle snapshot pooled) := by
  intro m _
  rw [perform_newHandle htemplates]
  exact ⟨.ok _, trivial⟩

theorem sharedHandle_unrejected : Unrejected (sharedHandle snapshot) := by
  intro m _
  rw [perform_sharedHandle]
  split
  · exact ⟨.ok _, trivial⟩
  refine Confines.bind (.forM closeConnection_unrejected _) (fun _ => .bind .get fun m => ?_) m trivial
  -- sharing the handle raises nothing
  have hshare (id : HandleId) : Unrejected (do
      modify fun m : Manager => { m with shared := some id }
      return id) := .bind (.modify fun _ _ => trivial) fun _ => .pure _
  refine .bind (fun _ _ => ⟨.ok _, trivial⟩) fun _ => ?_
  split
  · exact .bind (.pure _) hshare
  · exact .bind (newHandle_unrejected htemplates false) hshare

end Compiled

theorem takeHandle_unrejected (htemplates : Templates.compile m.active.settings = .ok templates) :
    FailsAs (fun e => e.isRejection = false) (takeHandle.perform m).1 := by
  rw [takeHandle, Session.perform_bind_of_ok (Session.perform_get m)]
  split
  · split
    · exact .ok _
    · exact (newHandle_unrejected htemplates true m trivial).1
  · have hshared : Unrejected (lock >>= fun _ =>
        (sharedHandle m.active).onFailure Failure.isOrdinary fun _ => unlock) :=
      .bind lock_unrejected fun _ => .onFailure (sharedHandle_unrejected htemplates) fun _ => unlock_unrejected
    exact (hshared m trivial).1

/-- **A handle can be acquired**, as far as the settings are concerned. -/
theorem acquire_unrejected (htemplates : Templates.compile m.active.settings = .ok templates) :
    FailsAs (fun e => e.isRejection = false) (acquire.perform m).1 := by
  rw [acquire_eq]
  have htake := takeHandle_unrejected htemplates
  rcases hrun : takeHandle.perform m with ⟨e | id, m₁⟩
  · rw [hrun] at htake
    rw [Session.perform_bind_of_error hrun]
    exact htake
  · rw [Session.perform_bind_of_ok hrun, Session.perform_bind_of_ok (Session.perform_get _)]
    split
    · -- a handle that is closed is opened, and its mutex given back when that fails
      have hopen : Unrejected (((openHandle id).onFailure Failure.isOrdinary fun _ => unlockFor id) >>= fun _ =>
          (pure id : Managed HandleId)) :=
        .bind (.onFailure (openHandle_unrejected id) fun _ => unlockFor_unrejected id) fun _ => .pure _
      exact (hopen m₁ trivial).1
    · exact .ok _

end Managed

/-! ## §2 Programs -/

/-- The faults that are left were there before. -/
theorem Fault.failure_of_hear {events : List Event} {faults : List Fault} {f : Fault}
    (h : f ∈ (hear faults events).2) : ∃ g ∈ faults, f.failure = g.failure := by
  induction events generalizing faults with
  | nil => exact ⟨f, h, rfl⟩
  | cons event rest ih =>
    obtain ⟨g, hg, hsame⟩ := ih h
    split at hg
    · obtain ⟨g', hg', hsame'⟩ := failure_of_strike (.inr hg)
      exact ⟨g', hg', hsame.trans hsame'⟩
    · exact ⟨g, hg, hsame⟩

/-- Whatever was sent, the faults that are left bring nothing new. -/
theorem World.Hears.brings {P : Failure → Prop} {es : List Heard} {w w' : World} (h : Hears es w w')
    (hw : w.Brings P) : w'.Brings P := by
  intro f hf e he
  have hleft : f ∈ (Fault.hear w.faults (es.map (·.event))).2 := by
    rw [h.verdicts]
    exact hf
  obtain ⟨g, hg, hsame⟩ := Fault.failure_of_hear hleft
  exact hw g hg e (hsame ▸ he)

/-- What the faults that are due would bring. -/
def Manager.Brings (P : Failure → Prop) (m : Manager) : Prop :=
  m.world.Brings P

theorem Manager.Conducts.brings {P : Failure → Prop} {Q : Bool → Request → Prop} {m m' : Manager}
    (h : Conducts Q m m') (hm : m.Brings P) : m'.Brings P := by
  obtain ⟨_, hes, -, -⟩ := h.guards
  exact hes.brings hm

namespace Managed

open Manager (Brings Conducts)
open Session (Confines)

variable {α : Type} {m : Manager} {P : Failure → Prop} (hP : ∀ e, e.isRejection = false → P e)
include hP

/-- A step that rejects no settings, and sends what it may send. -/
theorem Unrejected.confines {x : Managed α} (hx : Unrejected x) (hc : x.Respects (Conducts Request.OpensWith)) :
    x.Confines (Brings P) P :=
  fun m hm => ⟨(hx m trivial).1.mono hP, (hc m).brings hm⟩

variable {x : Handle → Exchange α} (hx : ∀ h, Exchange.Orderly h.settings (fun _ => True) (x h))
include hx

theorem onHandle_confines (id : HandleId) : (onHandle id x).Confines (Brings P) P := by
  intro m hm
  rcases hid : m.handle? id with _ | h
  · rw [perform_onHandle_of_none hid]
    exact ⟨.error (hP _ rfl), hm⟩
  rw [perform_onHandle_of_some hid, perform_onConnection]
  rcases m.connection? id with _ | c
  · exact ⟨.error (hP _ rfl), hm⟩
  · exact (hx h).confines (fun e he => hP e (Failure.not_isRejection_of_isRaised he)) ⟨c, m.world⟩ hm

/-- **A program on a handle** fails in ways in which programs fail, or as a fault makes it fail. -/
theorem attempt_confines {templates : Templates} (htemplates : Templates.compile m.active.settings = .ok templates)
    (hm : m.Brings P) : FailsAs P ((attempt x).perform m).1 := by
  rw [attempt_eq, withConnection]
  have hacquire := acquire_unrejected htemplates
  have hbrings := (acquire_conducts m).brings hm
  rcases hrun : acquire.perform m with ⟨e | id, m₁⟩
  all_goals rw [hrun] at hacquire hbrings
  · rw [Session.perform_bind_of_error hrun]
    exact .error (hP e (hacquire e rfl))
  · rw [Session.perform_bind_of_ok hrun]
    have hservice : ∀ (b : Bool) (request : Request), request.isService = true → request.OpensWith b :=
      fun _ _ => .of_isService
    have hclose : (close id).Confines (Brings P) P :=
      (close_unrejected id).confines hP (close_conducts hservice id)
    have hdrain : drainPool.Confines (Brings P) P := drainPool_unrejected.confines hP (drainPool_conducts hservice)
    have hrelease : (release id).Confines (Brings P) P :=
      (release_unrejected id).confines hP (release_conducts hservice id)
    -- the program itself, and then one of the two ways of giving the handle back
    refine (Confines.bind (.onFailure (onHandle_confines hP hx id) fun _ => ?_) (fun a => ?_) m₁ hbrings).1
    · exact .bind hclose fun _ => hdrain
    · exact .bind hrelease fun _ => .pure a

/-- The same with a retry. What the first attempt leaves behind changes neither the settings nor what faults bring. -/
theorem attemptTwice_confines {templates : Templates}
    (htemplates : Templates.compile m.active.settings = .ok templates) (hm : m.Brings P) (description : String) :
    FailsAs P ((attemptTwice description x).perform m).1 := by
  have hfirst := attempt_confines hP hx htemplates hm
  have habides := attempt_abides x m
  have hbrings := (attempt_conducts (fun h => (hx h).converses) m).brings hm
  rw [attemptTwice, Session.perform_rescue]
  rcases hrun : (attempt x).perform m with ⟨e | a, m₁⟩
  all_goals rw [hrun] at hfirst habides hbrings
  · by_cases hretry : e.isRetryable = true
    · simp only [hretry, if_true]
      have hactive : m₁.active = m.active := habides.active
      -- the second block runs under the same settings, so with the same templates
      exact attempt_confines hP hx (by rwa [← hactive] at htemplates) hbrings
    · simp only [hretry]
      exact hfirst
  · exact .ok a

end Managed

end DirectoryLogin
