import DirectoryLogin.Proofs.Orderly
/-!
# What Faults Bring

A request fails for one of two reasons: the directory has answered with an error, or a fault that was due has struck.
Errors of the directory are among the failures that programs raise; a fault may bring any failure whatsoever. So let `P`
be any property that the failures raised by programs have. If what the faults would bring has it as well, then whatever
goes wrong with a request has it, and so it is with whatever faults are left.

- `Fault.failure_of_strike`: faults strike or are left; none is added.
- `World.Brings`: what the faults that are due would bring.
- `World.…_confines`, `Exchange.…_confines`: one lemma for each request.
- `Exchange.Orderly.confines`: orderly programs fail in ways in which programs fail, or as a fault makes them fail.
-/

namespace DirectoryLogin

open Session (Confines)

/-! ## §1 Faults -/

/-- A fault that strikes or is left was there before, perhaps with more calls to let pass. -/
theorem Fault.failure_of_strike {call : Call} {faults : List Fault} {f : Fault}
    (h : f ∈ (strike call faults).1 ∨ f ∈ (strike call faults).2) : ∃ g ∈ faults, f.failure = g.failure := by
  induction faults with
  | nil => rcases h with h | h <;> cases h
  | cons g rest ih =>
    have hrest (h : f ∈ (strike call rest).1 ∨ f ∈ (strike call rest).2) : ∃ g' ∈ g :: rest, f.failure = g'.failure :=
      let ⟨g', hg', hsame⟩ := ih h
      ⟨g', List.mem_cons_of_mem g hg', hsame⟩
    unfold strike at h
    by_cases hhits : g.hits call = true
    · rw [if_pos hhits] at h
      rcases hskip : g.skip with _ | skip
      · -- the first fault strikes
        rw [hskip] at h
        rcases h with h | h
        · cases h
          exact ⟨f, List.mem_cons_self, rfl⟩
        · exact ⟨f, List.mem_cons_of_mem g h, rfl⟩
      · rw [hskip] at h
        rcases h with h | h
        · cases h
        · rcases List.mem_cons.mp h with rfl | h
          · exact ⟨g, List.mem_cons_self, rfl⟩
          · exact ⟨f, List.mem_cons_of_mem g h, rfl⟩
    · rw [if_neg hhits] at h
      rcases h with h | h
      · exact hrest (.inl h)
      · rcases List.mem_cons.mp h with rfl | h
        · exact ⟨f, List.mem_cons_self, rfl⟩
        · exact hrest (.inr h)

namespace World

variable {P : Failure → Prop} {w w' : World}

/-- What the faults that are due would bring. -/
def Brings (P : Failure → Prop) (w : World) : Prop :=
  ∀ f ∈ w.faults, ∀ e, f.failure = some e → P e

theorem Brings.frame (hw : w.Brings P) (hfaults : w'.faults = w.faults) : w'.Brings P :=
  fun f hf => hw f (hfaults ▸ hf)

theorem Brings.verdict (hw : w.Brings P) (call : Call) : FailsAs P (Fault.verdict (Fault.strike call w.faults).1) := by
  rcases hstrike : (Fault.strike call w.faults).1 with _ | f
  · exact .ok true
  · obtain ⟨g, hg, hsame⟩ := Fault.failure_of_strike (f := f) (.inl hstrike)
    unfold Fault.verdict
    rcases hfailure : f.failure with _ | e
    · simp only [hfailure]
      exact .ok false
    · simp only [hfailure]
      exact .error (hw g hg e (hsame ▸ hfailure))

theorem Brings.sent (hw : w.Brings P) (call : Call) (n : Nat) (request : Request) :
    (w.sent call n request).Brings P := by
  intro f hf e he
  obtain ⟨g, hg, hsame⟩ := Fault.failure_of_strike (.inr hf)
  exact hw g hg e (hsame ▸ he)

theorem Brings.updateWire (hw : w.Brings P) (n : Nat) (f : Wire → Wire) : (w.updateWire n f).Brings P :=
  hw.frame (updateWire_faults w n f)

/-! ## §2 Requests -/

theorem send_confines (call : Call) (n : Nat) (request : Request) : (send call n request).Confines (Brings P) P := by
  intro w hw
  rw [send_eq]
  exact ⟨hw.verdict call, hw.sent call n request⟩

theorem unbindWire_confines (n : Nat) : (unbindWire n).Confines (Brings P) P :=
  .bind (.modify fun _ hw => hw.updateWire n _) fun _ => .bind (send_confines _ _ _) fun _ => .pure _

theorem say_confines (level : Level) (source : Source) (text : String) :
    (say level source text).Confines (Brings P) P :=
  .modify fun _ hw => hw

section Raising

variable (hP : ∀ e, e.isRaised = true → P e)
include hP

theorem openWire_confines (n : Nat) (request : OpenRequest) : (openWire n request).Confines (Brings P) P := by
  have hopen : Confines (Brings P) P (modify (·.updateWire n fun wire => { wire with isOpen := true })) :=
    .modify fun _ hw => hw.updateWire n _
  refine .bind (send_confines _ _ _) fun _ => .bind .get fun w => ?_
  split
  · exact .bind (.throw (hP _ rfl)) fun _ => hopen
  · exact hopen

theorem bindWire_confines (n : Nat) (request : BindRequest) : (bindWire n request).Confines (Brings P) P := by
  refine .bind (send_confines _ _ _) fun passed => ?_
  split
  · refine .bind .get fun w => ?_
    split
    · exact .bind (.modify fun _ hw => hw.updateWire n _) fun _ => .pure _
    · exact .throw (hP _ rfl)
  · exact .pure _

theorem searchWire_confines (n : Nat) (request : SearchRequest) : (searchWire n request).Confines (Brings P) P := by
  refine .bind (send_confines _ _ _) fun _ => .bind .get fun w => ?_
  split
  · exact .pure _
  · exact .throw (hP _ rfl)

end Raising

end World

/-! ## §3 Over a connection -/

/-- What the faults that are due over the connection would bring. -/
def Channel.Brings (P : Failure → Prop) (ch : Channel) : Prop :=
  ch.world.Brings P

namespace Exchange

open Channel

variable {α : Type} {P : Failure → Prop}

theorem onWorld_confines {x : Session World α} (hx : x.Confines (World.Brings P) P) :
    (onWorld x).Confines (Brings P) P :=
  .within hx (fun _ h => h) fun _ _ _ h => h

theorem modifyConnection_confines (f : Connection → Connection) : (modifyConnection f).Confines (Brings P) P :=
  .modify fun _ h => h

theorem connection_confines : connection.Confines (Brings P) P :=
  .bind .get fun _ => .pure _

variable (hP : ∀ e, e.isRaised = true → P e)
include hP

theorem classified_confines {x : Exchange α} (hx : x.Confines (Brings P) P) : (classified x).Confines (Brings P) P := by
  refine .rescue hx (fun e he _ => he) fun e y hy => ?_
  -- errors of the protocol are the only failures that are renamed
  rcases e with _ | _ | _ | _ | e
  case client =>
    cases hy
    exact .bind connection_confines fun c => .throw (hP _ rfl)
  all_goals cases hy

theorem bind_confines : bind.Confines (Brings P) P := by
  refine .bind connection_confines fun c => ?_
  split
  · exact .pure _
  refine .bind (.ofExcept ((BindRequest.ofEnvironment_raises _).mono hP)) fun request => ?_
  refine .bind (modifyConnection_confines _) fun _ => ?_
  refine .bind (classified_confines hP (onWorld_confines (World.bindWire_confines hP _ _))) fun accepted => ?_
  split
  · exact .bind (.throw (hP _ rfl)) fun _ => modifyConnection_confines _
  · exact modifyConnection_confines _

theorem searchBound_confines (base filter : String) (controls : SearchControls) :
    (searchBound base filter controls).Confines (Brings P) P := by
  refine .bind connection_confines fun c => ?_
  split
  · exact .bind (classified_confines hP (onWorld_confines (World.searchWire_confines hP _ _))) fun _ => .pure _
  · exact .bind (onWorld_confines (.modify fun _ h => h)) fun _ => .bind .get fun _ => .pure _

theorem search_confines (base filter : String) (controls : SearchControls) :
    (search base filter controls).Confines (Brings P) P :=
  .bind (bind_confines hP) fun _ => searchBound_confines hP _ _ _

theorem read_confines (dn : String) (names : Option (List String)) : (read dn names).Confines (Brings P) P := by
  refine .bind (bind_confines hP) fun _ => .bind connection_confines fun c => ?_
  split
  · refine .bind (classified_confines hP (onWorld_confines (World.searchWire_confines hP _ _))) fun response => ?_
    split
    · exact .pure _
    · exact .throw (hP _ rfl)
  · exact .bind (onWorld_confines (.modify fun _ h => h)) fun _ => .bind .get fun _ => .pure _

theorem startTls_confines : startTls.Confines (Brings P) P := by
  refine .bind connection_confines fun c => ?_
  refine .bind (classified_confines hP (onWorld_confines (World.send_confines _ _ _))) fun accepted => ?_
  split
  on_goal 1 => refine .bind (.throw (hP _ rfl)) fun _ => ?_
  all_goals
    refine .bind (modifyConnection_confines _) fun _ => .bind .get fun ch => ?_
    split
    · exact .pure _
    · exact .pure _

theorem close_confines : close.Confines (Brings P) P :=
  .bind connection_confines fun _ =>
    .ensure (classified_confines hP (onWorld_confines (World.unbindWire_confines _))) (modifyConnection_confines _)

/-- **Orderly programs** fail in ways in which programs fail, or as a fault makes them fail. -/
theorem Orderly.confines {s : Settings} {Q : α → Prop} {x : Exchange α} (hx : Orderly s Q x) :
    x.Confines (Brings P) P := by
  -- over the ways of putting programs together
  induction hx with
  | pure => exact .pure _
  | throw he => exact .throw (hP _ he)
  | bind hx _ ihx ihf => exact .bind_of_value ihx fun _ a ch' h => ihf a (hx.value h) ch'
  | rescue _ _ _ ihx ihh => exact .rescue ihx (fun e he _ => he) ihh
  | say => exact onWorld_confines (World.say_confines _ _ _)
  | relative _ ih => exact .bind connection_confines fun c => ih c.namespaceName
  | sized _ ih => exact .bind .get fun ch => ih ch.world.directory.extent
  | search => exact search_confines hP _ _ _
  | read => exact read_confines hP _ _
  | bracketed _ _ _ _ ih =>
    -- editing the environment does not touch the world
    exact fun ch hch => ih (ch.withEnvironment _) hch

end Exchange

end DirectoryLogin
