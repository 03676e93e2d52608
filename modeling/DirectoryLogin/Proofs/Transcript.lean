import DirectoryLogin.Proofs.Opening
import DirectoryLogin.Proofs.Orderly
/-!
# Transcripts

The record of a world says which requests were sent. What became of them is not on record, but it is settled by the
faults that were due when the first of them was sent: each request meets the faults that the ones before it have left.
A transcript is the record read that way.

- `World.heard`: the transcript of what happened between two worlds.
- `World.Hears`: the transcript, together with the faults that are left; transcripts are put together end to end.
- `World.Converses`: what was sent on one wire, and was of a certain kind.
-/

namespace DirectoryLogin

/-! ## §1 Reading the record -/

/-- The call that faults look at. Nobody is called for prepared results. -/
def Request.call? : Request → Option Call
  | .connect _ => some .connect
  | .bind _ => some .bind
  | .search _ => some .search
  | .startTls => some .startTls
  | .unbind => some .unbind
  | .preparedSearch .. | .preparedRead _ => none

theorem Request.exists_eq_connect {request : Request} (h : request.call? = some .connect) :
    ∃ q, request = .connect q := by
  cases request with
  | connect q => exact ⟨q, rfl⟩
  | _ => cases h

/-- Whom a request binds as. -/
def Request.bind? : Request → Option BindRequest
  | .bind q => some q
  | _ => none

theorem Request.eq_bind_of_bind? {request : Request} {q : BindRequest} (h : request.bind? = some q) :
    request = .bind q := by
  cases request with
  | bind q' => exact congrArg Request.bind (Option.some.inj h)
  | _ => cases h

/-- A request that was sent, and whether it went through: it may have been refused or have failed on the way. -/
structure Heard where
  event : Event
  /-- Whether it went through. -/
  verdict : Except Failure Bool

/-- What the faults that are due make of a request, and the faults that are left. -/
def Fault.meet (faults : List Fault) (request : Request) : Option Fault × List Fault :=
  match request.call? with
  | some call => strike call faults
  | none => (none, faults)

/-- What the faults that are due make of requests, one after the other, and the faults that are left. -/
def Fault.hear : List Fault → List Event → List Heard × List Fault
  | faults, [] => ([], faults)
  | faults, event :: rest =>
    let (struck, left) := meet faults event.request
    let (heard, left) := hear left rest
    (⟨event, verdict struck⟩ :: heard, left)

theorem Fault.hear_append (faults : List Fault) (events later : List Event) :
    hear faults (events ++ later) =
      ((hear faults events).1 ++ (hear (hear faults events).2 later).1, (hear (hear faults events).2 later).2) := by
  induction events generalizing faults with
  | nil => rfl
  | cons event rest ih =>
    simp only [List.cons_append, hear, ih]

namespace World

/-- The transcript of what happened between two worlds. -/
def heard (w w' : World) : List Heard :=
  (Fault.hear w.faults (w'.events.drop w.events.length)).1

/-- From one world to the other, these requests were sent, and this became of them. -/
structure Hears (es : List Heard) (w w' : World) : Prop where
  events : w'.events = w.events ++ es.map (·.event)
  verdicts : Fault.hear w.faults (es.map (·.event)) = (es, w'.faults)

namespace Hears

variable {es es' : List Heard} {w w' w'' : World}

/-- Nothing was sent. -/
theorem nil (hevents : w'.events = w.events) (hfaults : w'.faults = w.faults) : Hears [] w w' where
  events := by rw [hevents, List.map_nil, List.append_nil]
  verdicts := by rw [hfaults]; rfl

theorem trans (h : Hears es w w') (h' : Hears es' w' w'') : Hears (es ++ es') w w'' where
  events := by rw [h'.events, h.events, List.map_append, List.append_assoc]
  verdicts := by rw [List.map_append, Fault.hear_append, h.verdicts, h'.verdicts]

theorem heard_eq (h : Hears es w w') : w.heard w' = es := by
  rw [heard, h.events, List.drop_left, h.verdicts]

end Hears

/-- **A transcript tells what has happened**: the request that was sent is heard with the verdict that its sender
got. -/
theorem send_hears (w : World) {call : Call} (n : Nat) (request : Request) (hcall : request.call? = some call) :
    Hears [⟨⟨n, request⟩, ((send call n request).perform w).1⟩] w ((send call n request).perform w).2 := by
  rw [send_eq]
  refine ⟨rfl, ?_⟩
  simp only [List.map_cons, List.map_nil, Fault.hear, Fault.meet, hcall]
  rfl

theorem record_hears (w : World) (n : Nat) {request : Request} (hcall : request.call? = none) :
    Hears [⟨⟨n, request⟩, .ok true⟩] w (w.record n request) := by
  refine ⟨rfl, ?_⟩
  simp only [List.map_cons, List.map_nil, Fault.hear, Fault.meet, hcall]
  rfl

/-! ## §2 Conversations on a wire -/

/-- The world has moved on by requests on wire `n` with `P`. -/
structure Converses (P : Request → Prop) (n : Nat) (w w' : World) : Prop where
  length : w'.wires.length = w.wires.length
  heard : ∃ es, Hears es w w' ∧ ∀ x ∈ es, x.event.wire = n ∧ P x.event.request

instance (P : Request → Prop) (n : Nat) : IsPreorder World (Converses P n) where
  refl w := ⟨rfl, [], .nil rfl rfl, List.forall_mem_nil _⟩
  trans _ _ _ h g := by
    obtain ⟨es, hes, hall⟩ := h.heard
    obtain ⟨es', hes', hall'⟩ := g.heard
    exact ⟨g.length.trans h.length, es ++ es', hes.trans hes', List.forall_mem_append.mpr ⟨hall, hall'⟩⟩

section Requests

variable {P : Request → Prop} {n : Nat}

theorem Converses.updateWire (w : World) (f : Wire → Wire) : Converses P n w (w.updateWire n f) :=
  ⟨length_updateWire w n f, [], .nil (updateWire_events w n f) (updateWire_faults w n f), List.forall_mem_nil _⟩

theorem Converses.write (w : World) (m : Message) : Converses P n w (w.write m) :=
  ⟨rfl, [], .nil rfl rfl, List.forall_mem_nil _⟩

theorem send_converses {call : Call} {request : Request} (hcall : request.call? = some call) (h : P request) :
    (send call n request).Respects (Converses P n) := by
  intro w
  refine ⟨?_, _, send_hears w n request hcall, List.forall_mem_singleton.mpr ⟨rfl, h⟩⟩
  rw [send_eq]
  rfl

theorem bindWire_converses {request : BindRequest} (h : P (.bind request)) :
    (bindWire n request).Respects (Converses P n) := by
  refine .bind (send_converses rfl h) fun passed => ?_
  split
  · refine .bind_get fun w => ?_
    split
    · exact .updateWire w _
    · exact refl_of _ w
  · exact .pure _

theorem searchWire_converses {request : SearchRequest} (h : P (.search request)) :
    (searchWire n request).Respects (Converses P n) := by
  refine .bind (send_converses rfl h) fun _ => .bind .get fun w => ?_
  split
  · exact .pure _
  · exact .throw _

theorem unbindWire_converses (h : P .unbind) : (unbindWire n).Respects (Converses P n) :=
  .bind (.modify fun w => .updateWire w _) fun _ => .bind (send_converses rfl h) fun _ => .pure _

end Requests

end World

/-! ## §3 Conversations of a connection -/

/-- Requests with `P` were sent over a connection, which keeps its wire. -/
structure Channel.Converses (P : Request → Prop) (ch ch' : Channel) : Prop where
  wire : ch'.connection.wire = ch.connection.wire
  world : World.Converses P ch.connection.wire ch.world ch'.world

instance (P : Request → Prop) : IsPreorder Channel (Channel.Converses P) where
  refl ch := ⟨rfl, refl_of _ ch.world⟩
  trans _ _ _ h g := ⟨g.wire.trans h.wire, trans_of _ h.world (h.wire ▸ g.world)⟩

/-- A request over a connection that has been opened and, if it is to be encrypted, upgraded. -/
def Request.isService : Request → Bool
  | .connect _ | .startTls => false
  | _ => true

namespace Exchange

open Channel

variable {α : Type} {P : Request → Prop}

theorem bind_converses (hP : ∀ request, P (.bind request)) : bind.Respects (Converses P) := by
  intro ch
  have hwire (r : BindRequest) := World.bindWire_converses (n := ch.connection.wire) (hP r) ch.world
  rcases hresult : bind.perform ch with ⟨result, ch'⟩
  have hrun := bind_run ch
  rw [hresult] at hrun
  cases hrun with
  | skipped => exact refl_of _ _
  | unsupported => exact refl_of _ _
  | accepted _ r w _ hanswer =>
    -- the wire is the same, and what was sent over it is the bind
    refine ⟨rfl, ?_⟩
    have hworld := hwire r
    rwa [hanswer] at hworld
  | refused _ r answer w e _ hanswer =>
    refine ⟨rfl, ?_⟩
    have hworld := hwire r
    rwa [hanswer] at hworld

/-- **Closing** sends one request. -/
theorem close_converses (hP : P .unbind) : close.Respects (Converses P) := by
  intro ch
  rw [close_eq]
  exact ⟨rfl, World.unbindWire_converses hP ch.world⟩

theorem searchBound_converses (hsearch : ∀ request, P (.search request))
    (hprepared : ∀ base filter, P (.preparedSearch base filter)) (base filter : String) (controls : SearchControls) :
    (searchBound base filter controls).Respects (Converses P) := by
  intro ch
  rw [searchBound_eq]
  split
  · exact ⟨rfl, World.searchWire_converses (hsearch _) ch.world⟩
  · exact ⟨rfl, rfl, _, World.record_hears _ _ rfl, List.forall_mem_singleton.mpr ⟨rfl, hprepared _ _⟩⟩

theorem readBound_converses (hsearch : ∀ request, P (.search request)) (hprepared : ∀ dn, P (.preparedRead dn))
    (dn : String) (names : Option (List String)) : (readBound dn names).Respects (Converses P) := by
  intro ch
  rw [readBound_eq]
  split
  · exact ⟨rfl, World.searchWire_converses (hsearch _) ch.world⟩
  · exact ⟨rfl, rfl, _, World.record_hears _ _ rfl, List.forall_mem_singleton.mpr ⟨rfl, hprepared _⟩⟩

/-- An edit of the environment sends nothing. -/
theorem edit_converses (f : Environment → Environment) : (edit f).Respects (Converses P) :=
  .modify fun ch => ⟨rfl, refl_of _ ch.world⟩

variable {s : Settings} {Q : α → Prop} {x : Exchange α}

/-- **Orderly programs** only ask for service. -/
theorem Orderly.converses (hx : Orderly s Q x) : x.Respects (Converses fun request => request.isService = true) := by
  -- over the ways of putting programs together; only a search and a read send anything
  induction hx with
  | pure => exact .pure _
  | throw => exact .throw _
  | bind hx _ ihx ihf => exact .bind_of_value ihx fun _ a ch' h => ihf a (hx.value h) ch'
  | rescue _ _ _ ihx ihh => exact .rescue ihx ihh
  | say => exact fun ch => ⟨rfl, .write ch.world _⟩
  | relative _ ih => exact fun ch => ih _ ch
  | sized _ ih => exact .bind_get fun ch => ih _ ch
  | search =>
    exact .bind (bind_converses fun _ => rfl) fun _ => searchBound_converses (fun _ => rfl) (fun _ _ => rfl) _ _ _
  | read => exact .bind (bind_converses fun _ => rfl) fun _ => readBound_converses (fun _ => rfl) (fun _ => rfl) _ _
  | @bracketed _ _ enter leave x _ _ _ _ ih =>
    -- the brackets edit the environment, and nothing else
    intro ch
    have hrun := ih (ch.withEnvironment (enter ch.connection.environment))
    exact ⟨hrun.wire, hrun.world⟩

end Exchange

end DirectoryLogin
