import DirectoryLogin.Proofs.Phases
import Mathlib.Data.List.Induction
/-!
# Lives of Wires

A wire comes to life when it has been opened, and its life ends with the request to end it. While it lives it may be
used; before and after that nothing may be sent on it.

Whether a wire has been opened is not in a transcript alone: the directory may refuse a request that went through. So
the transcript is settled with the directory first.

- `World.Recounts`: the settled transcript of what happened between two worlds.
- `Life.after`: a monitor that follows a settled transcript.
- `Heard.WithinLife`: the rule for what may be sent, in terms of what comes before what.
- `Life.withinLife`: a transcript that the monitor follows obeys the rule.
-/

namespace DirectoryLogin

/-! ## §1 Settled transcripts -/

namespace Heard

/-- What became of a request in the end. A wire that the directory refuses is not opened, even if the request went
through. -/
def settledBy (d : Directory) (x : Heard) : Heard :=
  match x.event.request, x.verdict with
  | .connect request, .ok _ =>
    if d.refuses request.host request.port then
      { x with verdict := .error (.client ⟨"LDAPSocketOpenError",
          "refused by " ++ request.host ++ ":" ++ toString request.port⟩) }
    else x
  | _, _ => x

@[simp] theorem settledBy_event (d : Directory) (x : Heard) : (x.settledBy d).event = x.event := by
  unfold settledBy
  split
  · split <;> rfl
  · rfl

theorem map_settledBy_event (d : Directory) (es : List Heard) :
    (es.map (settledBy d)).map (·.event) = es.map (·.event) := by
  rw [List.map_map]
  exact List.map_congr_left fun x _ => settledBy_event d x

/-- Only openings are settled by the directory. -/
theorem settledBy_eq_self {x : Heard} (h : ∀ request, x.event.request ≠ .connect request) (d : Directory) :
    x.settledBy d = x := by
  unfold settledBy
  split
  · rename_i request _ heq _
    exact absurd heq (h request)
  · rfl

end Heard

namespace World

/-- From one world to the other, these requests were sent, and this became of them in the end. -/
structure Recounts (es : List Heard) (w w' : World) : Prop where
  directory : w'.directory = w.directory
  heard : ∃ said, Hears said w w' ∧ es = said.map (Heard.settledBy w.directory)

namespace Recounts

variable {es es' : List Heard} {w w' w'' : World}

/-- Nothing was sent. -/
theorem nil (hdirectory : w'.directory = w.directory) (hes : Hears [] w w') : Recounts [] w w' :=
  ⟨hdirectory, [], hes, rfl⟩

theorem trans (h : Recounts es w w') (h' : Recounts es' w' w'') : Recounts (es ++ es') w w'' := by
  obtain ⟨hdirectory, said, hsaid, rfl⟩ := h
  obtain ⟨hdirectory', said', hsaid', rfl⟩ := h'
  rw [hdirectory, ← List.map_append]
  exact ⟨hdirectory'.trans hdirectory, said ++ said', hsaid.trans hsaid', rfl⟩

/-- Nothing was opened, so that there is nothing to settle. -/
theorem ofHears (hdirectory : w'.directory = w.directory) (hes : Hears es w w')
    (hopens : ∀ x ∈ es, ∀ request, x.event.request ≠ .connect request) : Recounts es w w' := by
  refine ⟨hdirectory, es, hes, ?_⟩
  rw [List.map_congr_left fun x hx => Heard.settledBy_eq_self (hopens x hx) w.directory, List.map_id']

theorem events (h : Recounts es w w') : w'.events = w.events ++ es.map (·.event) := by
  obtain ⟨-, said, hsaid, rfl⟩ := h
  rw [hsaid.events, Heard.map_settledBy_event]

/-- The settled transcript can be read off the two worlds. -/
theorem eq_heard (h : Recounts es w w') : es = (w.heard w').map (Heard.settledBy w.directory) := by
  obtain ⟨-, said, hsaid, rfl⟩ := h
  rw [hsaid.heard_eq]

end Recounts

end World

/-! ## §2 The monitor -/

/-- What has become of a wire. -/
inductive Life where
  /-- Nothing has been sent. -/
  | unborn
  /-- It could not be opened. -/
  | failed
  /-- It has been opened. -/
  | alive
  /-- It has been opened and ended. -/
  | ended
deriving DecidableEq

/-- A request over a wire that has been opened, and that does not end it. -/
def Request.isUse : Request → Bool
  | .connect _ | .unbind => false
  | _ => true

namespace Life

/-- What becomes of the wire by one more request, if the request may come now. -/
def next (l : Life) (x : Heard) : Option Life :=
  match l with
  | .unborn =>
    match x.event.request, x.verdict with
    | .connect _, .ok _ => some .alive
    | .connect _, .error _ => some .failed
    | _, _ => none
  | .alive =>
    match x.event.request with
    | .connect _ => none
    | .unbind => some .ended
    | _ => some .alive
  | .failed | .ended => none

/-- What becomes of the wire by some requests, if they come as they may. -/
def after (l : Life) (es : List Heard) : Option Life :=
  es.foldlM next l

variable {l l' : Life} {x : Heard} {es es' : List Heard}

theorem after_singleton (l : Life) (x : Heard) : l.after [x] = l.next x := by
  rw [after, List.foldlM_cons]
  rcases l.next x <;> rfl

theorem after_append (l : Life) (es es' : List Heard) : l.after (es ++ es') = (l.after es).bind (·.after es') :=
  List.foldlM_append

theorem after_append_of_some (h : l.after es = some l') : l.after (es ++ es') = l'.after es' := by
  rw [after_append, h, Option.bind_some]

/-- A wire that is used lives on. -/
theorem alive_after_of_isUse (h : ∀ x ∈ es, x.event.request.isUse = true) : alive.after es = some alive := by
  induction es with
  | nil => rfl
  | cons x rest ih =>
    -- neither of the two requests that change a life is a use
    have hnext : alive.next x = some alive := by
      have huse := h x List.mem_cons_self
      unfold next
      cases hrequest : x.event.request with
      | connect | unbind =>
        rw [hrequest] at huse
        cases huse
      | _ => rfl
    rw [after, List.foldlM_cons, hnext]
    exact ih fun y hy => h y (List.mem_cons_of_mem x hy)

/-- A request may come when the wire is to be opened, or when it is alive and not opened again. -/
theorem of_next (h : l.next x = some l') :
    l = unborn ∧ (∃ request, x.event.request = .connect request) ∧ (l' = alive → ∃ b, x.verdict = .ok b) ∨
      l = alive ∧ (∀ request, x.event.request ≠ .connect request) ∧ (l' = alive → x.event.request ≠ .unbind) := by
  rcases x with ⟨⟨n, request⟩, verdict⟩
  cases l with
  | unborn =>
    -- only an opening brings a wire to life, and only one that succeeded leaves it alive
    cases request with
    | connect request =>
      refine .inl ⟨rfl, ⟨request, rfl⟩, fun halive => ?_⟩
      subst halive
      cases verdict with
      | ok b => exact ⟨b, rfl⟩
      | error => cases h
    | _ => cases h
  | alive =>
    refine .inr ⟨rfl, ?_⟩
    -- an open wire is not opened again, and a request to end it ends it
    cases request with
    | connect => cases h
    | unbind =>
      cases h
      exact ⟨nofun, nofun⟩
    | _ => exact ⟨nofun, fun _ => nofun⟩
  | failed | ended => cases h

/-- The monitor has followed every request of a transcript. -/
theorem of_after_append_singleton (h : l.after (es ++ [x]) = some l') :
    ∃ p, l.after es = some p ∧ p.next x = some l' := by
  rw [after_append] at h
  obtain ⟨p, hp, hx⟩ := Option.bind_eq_some_iff.mp h
  rw [after_singleton] at hx
  exact ⟨p, hp, hx⟩

/-- An unborn wire is one on which nothing was sent. -/
theorem eq_nil_of_after_unborn (h : unborn.after es = some unborn) : es = [] := by
  rcases List.eq_nil_or_concat es with rfl | ⟨before, x, rfl⟩
  · rfl
  · rw [List.concat_eq_append] at h
    obtain ⟨p, -, hnext⟩ := of_after_append_singleton h
    unfold next at hnext
    -- no request leads back
    repeat' split at hnext
    all_goals cases hnext

/-- A wire that is alive has been opened, and has not been ended. -/
theorem of_after_alive (h : unborn.after es = some alive) :
    (∃ y ∈ es, (∃ request, y.event.request = .connect request) ∧ ∃ b, y.verdict = .ok b) ∧
      ∀ y ∈ es, y.event.request ≠ .unbind := by
  -- the last request has opened the wire, or has used one that was alive already
  induction es using List.reverseRecOn with
  | nil => cases h
  | append_singleton before x ih =>
    obtain ⟨p, hbefore, hnext⟩ := of_after_append_singleton h
    rcases of_next hnext with ⟨rfl, hopens, haccepted⟩ | ⟨rfl, -, huses⟩
    · obtain rfl := eq_nil_of_after_unborn hbefore
      obtain ⟨request, hrequest⟩ := hopens
      refine ⟨⟨x, List.mem_append_right _ List.mem_cons_self, ⟨request, hrequest⟩, haccepted rfl⟩, fun y hy => ?_⟩
      rw [List.nil_append] at hy
      rw [List.mem_singleton.mp hy, hrequest]
      exact nofun
    · obtain ⟨⟨y, hy, hopened⟩, hlives⟩ := ih hbefore
      exact ⟨⟨y, List.mem_append_left _ hy, hopened⟩,
        List.forall_mem_append.mpr ⟨hlives, List.forall_mem_singleton.mpr (huses rfl)⟩⟩

end Life

/-! ## §3 The rule -/

/-- Nothing is sent on a wire outside its life: all that was sent on it is `es`. -/
structure Heard.WithinLife (es : List Heard) : Prop where
  /-- Everything but the request to open the wire comes after one that succeeded. -/
  opened : ∀ before x later, es = before ++ x :: later → (∀ request, x.event.request ≠ .connect request) →
    ∃ y ∈ before, (∃ request, y.event.request = .connect request) ∧ ∃ b, y.verdict = .ok b
  /-- Nothing comes after a request to end the connection, and so no second one either. -/
  ended : ∀ before x later, es = before ++ x :: later → ∀ y ∈ before, y.event.request ≠ .unbind

/-- **A transcript that the monitor follows obeys the rule.** -/
theorem Life.withinLife {l : Life} {es : List Heard} (h : unborn.after es = some l) : Heard.WithinLife es := by
  have hsplit {before later : List Heard} {x : Heard} (heq : es = before ++ x :: later) :
      ∃ p q, unborn.after before = some p ∧ p.next x = some q := by
    rw [heq, after_append] at h
    obtain ⟨p, hbefore, hrest⟩ := Option.bind_eq_some_iff.mp h
    obtain ⟨q, hnext, -⟩ := Option.bind_eq_some_iff.mp hrest
    exact ⟨p, q, hbefore, hnext⟩
  refine ⟨fun before x later heq hother => ?_, fun before x later heq y hy => ?_⟩
  -- either nothing has been sent before, or the wire is alive
  all_goals
    obtain ⟨p, q, hbefore, hnext⟩ := hsplit heq
    rcases of_next hnext with ⟨rfl, ⟨request, hopens⟩, -⟩ | ⟨rfl, -⟩
  · exact absurd hopens (hother request)
  · exact (of_after_alive hbefore).1
  · rw [eq_nil_of_after_unborn hbefore] at hy
    cases hy
  · exact (of_after_alive hbefore).2 y hy

end DirectoryLogin
