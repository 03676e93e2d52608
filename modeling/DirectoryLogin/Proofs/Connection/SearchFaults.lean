import DirectoryLogin.Proofs.Session.Commuting
import DirectoryLogin.Proofs.Similar
/-!
# Faults that Hit Searches

A fault that is due for a search is not noticed by anything else: other requests commute with it. A program that
searches is the same as without the fault until the fault strikes. From then on there is only a failure that may be due
to the connection, and an orderly program lets it pass.

- `World.withFaults`: the world with some faults due.
- `Exchange.Shadowed`: the runs of a program without a fault and with it, side by side.
- `Exchange.Orderly.shadowed`: under a fault, an orderly program does the same or fails in passing.
-/

namespace DirectoryLogin

open Session (Commutes)

/-! ## §1 Faults that are due -/

/-- The fault that makes one search fail, after so many that succeed. -/
def Fault.ofSearch (skip : Nat) (e : Failure) : Fault :=
  ⟨some .search, skip, some e⟩

/-- Faults that hit nothing but searches. -/
def Fault.OnlySearches (faults : List Fault) : Prop :=
  ∀ f ∈ faults, f.on = some .search

theorem Fault.onlySearches_ofSearch (skip : Nat) (e : Failure) : OnlySearches [ofSearch skip e] := by
  intro f hf
  rw [List.mem_singleton.mp hf]
  rfl

/-- Other calls pass, and the faults stay due. -/
theorem Fault.OnlySearches.strike {faults : List Fault} (h : OnlySearches faults) {call : Call}
    (hcall : call ≠ .search) : Fault.strike call faults = (none, faults) := by
  induction faults with
  | nil => rfl
  | cons f rest ih =>
    have hpasses : f.hits call = false := by
      rw [hits, h f List.mem_cons_self, Option.all_some]
      exact beq_eq_false_iff_ne.mpr hcall.symm
    rw [Fault.strike, hpasses, ih fun g hg => h g (List.mem_cons_of_mem f hg)]
    rfl

namespace World

/-- No fault is due. -/
def Quiet (w : World) : Prop :=
  w.faults = []

/-- The world with these faults due. -/
def withFaults (faults : List Fault) (w : World) : World :=
  { w with faults := faults }

theorem withFaults_updateWire (faults : List Fault) (w : World) (n : Nat) (f : Wire → Wire) :
    (w.withFaults faults).updateWire n f = (w.updateWire n f).withFaults faults := by
  unfold updateWire
  split
  · rfl
  · rfl

/-! ## §2 Requests other than searches -/

section Requests

variable {faults : List Fault} (honly : Fault.OnlySearches faults)
include honly

theorem send_commutes {call : Call} (hcall : call ≠ .search) (n : Nat) (request : Request) :
    Commutes (withFaults faults) Quiet (send call n request) := by
  intro w hquiet
  have hpass : Fault.strike call (w.withFaults faults).faults = (none, faults) := honly.strike hcall
  rw [send_eq, send_eq_of_quiet hquiet, hpass]
  refine ⟨?_, hquiet⟩
  simp only [Fault.verdict, sent, hpass]
  rfl

theorem openWire_commutes (n : Nat) (request : OpenRequest) :
    Commutes (withFaults faults) Quiet (openWire n request) := by
  have hopened : Commutes (withFaults faults) Quiet
      (modify (·.updateWire n fun wire => { wire with isOpen := true }) : Session World Unit) :=
    .modify (fun w _ => withFaults_updateWire faults w n _) fun w hquiet => (updateWire_faults w n _).trans hquiet
  refine .bind (send_commutes honly (by decide) _ _) fun _ => .bind_get (fun _ _ => rfl) fun w => ?_
  split
  · exact .bind (.throw _) fun _ => hopened
  · exact hopened

theorem bindWire_commutes (n : Nat) (request : BindRequest) :
    Commutes (withFaults faults) Quiet (bindWire n request) := by
  refine .bind (send_commutes honly (by decide) _ _) fun passed => ?_
  split
  · refine .bind_get (fun _ _ => rfl) fun w => ?_
    split
    · refine .bind (.modify (fun w _ => withFaults_updateWire faults w n _) fun w hquiet => ?_) fun _ => .pure _
      exact (updateWire_faults w n _).trans hquiet
    · exact .throw _
  · exact .pure _

theorem unbindWire_commutes (n : Nat) : Commutes (withFaults faults) Quiet (unbindWire n) := by
  refine .bind (.modify (fun w _ => withFaults_updateWire faults w n _) fun w hquiet => ?_) fun _ => ?_
  · exact (updateWire_faults w n _).trans hquiet
  · exact .bind (send_commutes honly (by decide) _ _) fun _ => .pure _

end Requests

theorem say_commutes (faults : List Fault) (level : Level) (source : Source) (text : String) :
    Commutes (withFaults faults) Quiet (say level source text) :=
  .modify (fun _ _ => rfl) fun _ hquiet => hquiet

end World

/-! ## §3 Steps on a connection that do not search -/

namespace Channel

def Quiet (ch : Channel) : Prop :=
  ch.world.Quiet

/-- The channel with these faults due. -/
def withFaults (faults : List Fault) (ch : Channel) : Channel :=
  { ch with world := ch.world.withFaults faults }

@[simp] theorem connection_withFaults (faults : List Fault) (ch : Channel) :
    (ch.withFaults faults).connection = ch.connection := rfl

end Channel

namespace Exchange

open Channel

variable {α β : Type} {faults : List Fault}

theorem onWorld_commutes {x : Session World α} (hx : Commutes (World.withFaults faults) World.Quiet x) :
    Commutes (withFaults faults) Quiet (onWorld x) :=
  .within hx (fun _ => rfl) (fun _ _ => rfl) (fun _ h => h) fun _ _ _ h => h

theorem connection_commutes : Commutes (withFaults faults) Quiet connection :=
  fun _ hquiet => ⟨rfl, hquiet⟩

theorem modifyConnection_commutes (f : Connection → Connection) :
    Commutes (withFaults faults) Quiet (modifyConnection f) :=
  .modify (fun _ _ => rfl) fun _ hquiet => hquiet

theorem classified_commutes {x : Exchange α} (hx : Commutes (withFaults faults) Quiet x) :
    Commutes (withFaults faults) Quiet (classified x) := by
  refine .rescue hx fun e y hy => ?_
  split at hy
  · cases hy
    exact .bind connection_commutes fun _ => .throw _
  · cases hy

section Requests

variable (honly : Fault.OnlySearches faults)
include honly

theorem bind_commutes : Commutes (withFaults faults) Quiet bind := by
  -- the request, and what its answer does to the connection, without regard to the faults
  have hrequest (c : Connection) (request : BindRequest) : Commutes (withFaults faults) Quiet (do
      let accepted ← classified (onWorld (World.bindWire c.wire request))
      if !accepted then throw (.directory .bindRefused)
      modifyConnection fun d => { d with bound := some c.environment.identity } : Exchange Unit) := by
    refine .bind (classified_commutes (onWorld_commutes (World.bindWire_commutes honly _ _))) fun accepted => ?_
    split
    · exact .bind (.throw _) fun _ => modifyConnection_commutes _
    · exact modifyConnection_commutes _
  refine .bind connection_commutes fun c => ?_
  split
  · exact .pure _
  · exact .bind (.ofExcept _) fun request => .bind (modifyConnection_commutes _) fun _ => hrequest c request

theorem startTls_commutes : Commutes (withFaults faults) Quiet startTls := by
  refine .bind connection_commutes fun c => ?_
  have hother : Call.startTls ≠ .search := by decide
  have hsend := World.send_commutes honly hother c.wire .startTls
  refine .bind (classified_commutes (onWorld_commutes hsend)) fun accepted => ?_
  split
  on_goal 1 => refine .bind (.throw _) fun _ => ?_
  all_goals
    refine .bind (modifyConnection_commutes _) fun _ => .bind_get (fun _ _ => rfl) fun ch => ?_
    split
    · exact .pure _
    · exact .pure _

theorem close_commutes : Commutes (withFaults faults) Quiet close :=
  .bind connection_commutes fun _ =>
    .ensure (classified_commutes (onWorld_commutes (World.unbindWire_commutes honly _))) (modifyConnection_commutes _)

end Requests

/-! ## §4 Programs under a fault -/

/-- A run, and the run under a fault of the same search. The fault is still to come and has made no difference, or it
has struck and only a transient failure has come of it. -/
inductive Shadowed (e : Failure) (run run' : Except Failure α × Channel) : Prop
  | pending (skip : Nat) (h : run' = (run.1, run.2.withFaults [.ofSearch skip e]))
  | struck (failure : Failure) (hfailed : run'.1 = .error failure) (htransient : failure.isTransient = true)
      (hquiet : run'.2.Quiet)

variable {e : Failure} {ch : Channel}

/-- What commutes with every fault of a search is left alone by it. -/
theorem Shadowed.of_commutes {x : Exchange α} (hx : ∀ skip, Commutes (withFaults [.ofSearch skip e]) Quiet x)
    (hquiet : ch.Quiet) (skip : Nat) : Shadowed e (x.perform ch) (x.perform (ch.withFaults [.ofSearch skip e])) :=
  .pending skip (hx skip ch hquiet).1

/-- Once the fault has struck in the first step, nothing follows. -/
theorem Shadowed.bind {x : Exchange α} {k : α → Exchange β} {skip : Nat}
    (hx : Shadowed e (x.perform ch) (x.perform (ch.withFaults [.ofSearch skip e])))
    (hk : ∀ a ch₁, x.perform ch = (.ok a, ch₁) → ∀ skip,
      Shadowed e ((k a).perform ch₁) ((k a).perform (ch₁.withFaults [.ofSearch skip e]))) :
    Shadowed e ((x >>= k).perform ch) ((x >>= k).perform (ch.withFaults [.ofSearch skip e])) := by
  cases hx with
  | pending left h =>
    rcases hrun : x.perform ch with ⟨failure | a, ch₁⟩
    -- the fault is still pending, so the first step goes as it does without it
    all_goals rw [hrun] at h
    · rw [Session.perform_bind_of_error hrun, Session.perform_bind_of_error h]
      exact .pending left rfl
    · rw [Session.perform_bind_of_ok hrun, Session.perform_bind_of_ok h]
      exact hk a ch₁ hrun left
  | struck failure hfailed htransient hquiet =>
    -- the fault has struck in the first step, and what follows is not reached
    rcases hrun : x.perform (ch.withFaults [.ofSearch skip e]) with ⟨result, ch'⟩
    rw [hrun] at hfailed hquiet
    dsimp only at hfailed hquiet
    subst hfailed
    rw [Session.perform_bind_of_error hrun]
    exact .struck failure rfl htransient hquiet

/-- One search on the wire is let pass, or it is struck. -/
theorem searchWire_shadowed (e : Failure) {w : World} (hquiet : w.Quiet) (n : Nat) (request : SearchRequest)
    (skip : Nat) :
    (∃ left, (World.searchWire n request).perform (w.withFaults [.ofSearch skip e]) =
      (((World.searchWire n request).perform w).1,
        ((World.searchWire n request).perform w).2.withFaults [.ofSearch left e])) ∨
    ∃ w', (World.searchWire n request).perform (w.withFaults [.ofSearch skip e]) = (.error e, w') ∧ w'.Quiet := by
  have hfaults : w.faults = [] := hquiet
  rw [World.searchWire_eq, World.searchWire_eq, hfaults]
  cases skip with
  | zero => exact .inr ⟨_, rfl, rfl⟩
  | succ left => exact .inl ⟨left, rfl⟩

/-- What is made of the answer to one request: `f` gives the result, and the connection is as it was. -/
theorem Shadowed.of_request {f : Except Failure Response → Except Failure α} {failure : Failure}
    (hfails : f (.error e) = .error failure) (htransient : failure.isTransient = true) (hquiet : ch.Quiet) (n : Nat)
    (request : SearchRequest) (skip : Nat) :
    Shadowed e
      (f ((World.searchWire n request).perform ch.world).1,
        { ch with world := ((World.searchWire n request).perform ch.world).2 })
      (f ((World.searchWire n request).perform (ch.world.withFaults [.ofSearch skip e])).1,
        { ch with world := ((World.searchWire n request).perform (ch.world.withFaults [.ofSearch skip e])).2 }) := by
  -- the fault either strikes this request, or stays for a later one
  rcases searchWire_shadowed e hquiet n request skip with ⟨left, h⟩ | ⟨w', h, hquiet'⟩
  · refine .pending left ?_
    rw [h]
    rfl
  · rw [h]
    exact .struck failure hfails htransient hquiet'

section Programs

variable (htransient : ∀ throwsReferrals, (e.interpreted throwsReferrals).isTransient = true)
include htransient

theorem searchBound_shadowed (base filter : String) (controls : SearchControls) (hquiet : ch.Quiet) (skip : Nat) :
    Shadowed e ((searchBound base filter controls).perform ch)
      ((searchBound base filter controls).perform (ch.withFaults [.ofSearch skip e])) := by
  rw [searchBound_eq, searchBound_eq, Channel.connection_withFaults]
  -- only a standard connection sends a request that the fault could strike
  rcases ch.connection.kind with _ | _
  · let referrals := ch.connection.environment.throwsReferrals
    let request := searchRequest ch.connection base filter controls
    exact Shadowed.of_request (f := fun answer => (answer.mapError (Failure.interpreted referrals)).map
      (Results.ofResponse request.base referrals)) rfl (htransient referrals) hquiet _ request skip
  · exact .pending skip rfl

theorem readBound_shadowed (dn : String) (names : Option (List String)) (hquiet : ch.Quiet) (skip : Nat) :
    Shadowed e ((readBound dn names).perform ch)
      ((readBound dn names).perform (ch.withFaults [.ofSearch skip e])) := by
  rw [readBound_eq, readBound_eq, Channel.connection_withFaults]
  rcases ch.connection.kind with _ | _
  · let referrals := ch.connection.environment.throwsReferrals
    let request := readRequest ch.connection dn names
    exact Shadowed.of_request (f := fun answer => (answer.mapError (Failure.interpreted referrals)).bind
      (readAnswer dn)) rfl (htransient referrals) hquiet _ request skip
  · exact .pending skip rfl

variable {s : Settings} {P : α → Prop} {x : Exchange α}

/-- **Orderly programs under a fault** of a search: the fault makes no difference, or it comes out as a transient
failure. No handler takes such a failure for an answer. -/
theorem Orderly.shadowed (hx : Orderly s P x) (hquiet : ch.Quiet) (skip : Nat) :
    Shadowed e (x.perform ch) (x.perform (ch.withFaults [.ofSearch skip e])) := by
  have honly (skip : Nat) := Fault.onlySearches_ofSearch skip e
  have hbound {ch ch₁ : Channel} {result : Except Failure Unit} (h : Exchange.bind.perform ch = (result, ch₁))
      (hquiet : ch.Quiet) : ch₁.Quiet := ((bind_commutes (honly 0)).of_perform h hquiet).2
  -- over the ways of putting programs together; the fault strikes at most once on the way
  induction hx generalizing ch skip with
  | pure => exact .pending skip rfl
  | throw => exact .pending skip rfl
  | bind hx _ ihx ihf =>
    refine (ihx hquiet skip).bind fun a ch₁ hrun skip => ihf a (hx.value hrun) ?_ skip
    have hserves := hx.serves ch
    rw [hrun] at hserves
    exact hserves.world.quiet hquiet
  | @rescue _ _ x handler? hx _ hpass ihx ihh =>
    rw [Session.perform_rescue, Session.perform_rescue]
    cases ihx hquiet skip with
    | pending left h =>
      have hserves := hx.serves ch
      rw [h]
      rcases hrun : x.perform ch with ⟨failure | a, ch₁⟩
      all_goals
        rw [hrun] at hserves
        dsimp only
      · rcases hhandler : handler? failure with _ | y
        · exact .pending left rfl
        · exact ihh failure y hhandler (hserves.world.quiet hquiet) left
      · exact .pending left rfl
    | struck failure hfailed htransient hquiet' =>
      rcases hrun : x.perform (ch.withFaults [.ofSearch skip e]) with ⟨result, ch'⟩
      rw [hrun] at hfailed hquiet'
      dsimp only at hfailed
      subst hfailed
      have hnone : handler? failure = none := by
        rcases hhandler : handler? failure with _ | y
        · rfl
        · rw [hpass failure y hhandler] at htransient
          cases htransient
      simp only [hnone]
      exact .struck failure rfl htransient hquiet'
  | say => exact .of_commutes (fun _ => onWorld_commutes (World.say_commutes _ _ _ _)) hquiet skip
  | relative _ ih => exact ih _ hquiet skip
  | sized _ ih => exact ih _ hquiet skip
  | search =>
    refine (Shadowed.of_commutes (fun skip => bind_commutes (honly skip)) hquiet skip).bind fun _ ch₁ hrun skip => ?_
    exact searchBound_shadowed htransient _ _ _ (hbound hrun hquiet) skip
  | read =>
    refine (Shadowed.of_commutes (fun skip => bind_commutes (honly skip)) hquiet skip).bind fun _ ch₁ hrun skip => ?_
    exact readBound_shadowed htransient _ _ (hbound hrun hquiet) skip
  | @bracketed _ _ enter leave x _ _ _ _ ih =>
    -- the edits of the environment have nothing to do with the world
    have hentered : (ch.withEnvironment (enter ch.connection.environment)).Quiet := hquiet
    cases ih hentered skip with
    | pending left h =>
      refine .pending left ?_
      have h : x.perform ((ch.withFaults [.ofSearch skip e]).withEnvironment (enter ch.connection.environment)) = _ := h
      simp only [Exchange.bracketed, Session.perform_ofFunction]
      rw [Channel.connection_withFaults, h]
      rfl
    | struck failure hfailed htransient hquiet' => exact .struck failure hfailed htransient hquiet'

end Programs

end Exchange

end DirectoryLogin
