import DirectoryLogin.Proofs.Connection.Requests
import Mathlib.Data.List.Induction
import Mathlib.Tactic.Push
/-!
# Every Request Runs under the Prescribed Identity

A connection remembers which identity it has bound, and compares only that before it sends a request. What it has
really sent is another matter: the mechanism is read without case, it has a default, and a bind may be refused,
fail or be impossible. Here the two are kept in step over every run.

- `Sent.Standing`: a bind that still holds, read off what was sent alone.
- `Channel.InStep`: the remembered identity is that of the standing bind.
- `transcript_lawful`: every query has a standing bind for the identity of its environment, and every bind a reason.
-/

namespace DirectoryLogin

/-! ## §1 What was sent -/

/-- The directory accepts a request, if it is a bind. -/
def World.accepts (w : World) (n : Nat) : Request → Bool
  | .bind r =>
    match ((bindWire n r).perform w).1 with
    | .ok accepted => accepted
    | .error _ => false
  | _ => false

/-- A request as it was sent. -/
structure Sent where
  request : Request
  /-- The environment of the connection at that moment. -/
  environment : Environment
  /-- The request is a bind, and it was accepted. -/
  accepted : Bool

namespace Sent

/-- The request is a bind. -/
def IsBind (e : Sent) : Prop :=
  ∃ r, e.request = .bind r

/-- The request asks for entries. -/
def IsQuery (e : Sent) : Prop :=
  (∃ r, e.request = .search r) ∨ (∃ base filter, e.request = .preparedSearch base filter)
    ∨ ∃ dn, e.request = .preparedRead dn

/-- The request ends the connection. -/
def IsEnd (e : Sent) : Prop :=
  e.request = .unbind

/-- Among the requests of the past, `b` is the latest bind, and `since` is what has been sent after it. -/
structure IsLatestBind (past : List Sent) (b : Sent) (since : List Sent) : Prop where
  isBind : b.IsBind
  split : ∃ earlier, past = earlier ++ b :: since
  noOther : ∀ x ∈ since, ¬ x.IsBind

/-- The latest bind was accepted, and the connection has not been closed since. -/
def Standing (past : List Sent) (b : Sent) : Prop :=
  ∃ since, IsLatestBind past b since ∧ b.accepted = true ∧ ∀ x ∈ since, ¬ x.IsEnd

/-- A request runs under the prescribed identity: the latest bind was accepted, and what was sent with it is what the
environment would send at this moment. -/
def RunsAsPrescribed (past : List Sent) (e : Sent) : Prop :=
  ∃ b since r q, IsLatestBind past b since ∧ b.accepted = true ∧ b.request = .bind r ∧
    BindRequest.ofEnvironment e.environment = .ok q ∧ r.Equals q ∧ (e.environment.identity.IsTextual → r = q)

/-- There is a reason for a bind: there was none before, the latest one was for another identity or was not accepted,
or the connection was closed since. -/
def HasReason (past : List Sent) (e : Sent) : Prop :=
  (∀ b ∈ past, ¬ b.IsBind) ∨
    ∃ b since, IsLatestBind past b since ∧
      (e.environment.identity.same b.environment.identity = false ∨ b.accepted = false ∨ ∃ x ∈ since, x.IsEnd)

/-- What is asked of one request, given those before it. -/
def Lawful (past : List Sent) (e : Sent) : Prop :=
  (e.IsQuery → RunsAsPrescribed past e) ∧ (e.IsBind → HasReason past e)

/-- All requests of a list are lawful, each one after those before it. -/
def AllLawful (past : List Sent) : List Sent → Prop
  | [] => True
  | e :: rest => Lawful past e ∧ AllLawful (past ++ [e]) rest

end Sent

/-! ## §2 Operations and runs -/

/-- What a step has sent, each request with the environment that the step began with: the steps that send anything
leave the environment alone. -/
def Exchange.sent {α : Type} (x : Exchange α) (ch : Channel) : List Sent :=
  ((x.perform ch).2.world.events.drop ch.world.events.length).map fun event =>
    ⟨event.request, ch.connection.environment, ch.world.accepts ch.connection.wire event.request⟩

/-- An operation on a connection, or something that happens meanwhile. -/
inductive Operation where
  /-- The environment is edited in any way. -/
  | edit (f : Environment → Environment)
  /-- Bind, if need be. -/
  | bind
  | search (base filter : String) (controls : SearchControls)
  /-- Read the attributes of an entry. -/
  | read (dn : String) (names : Option (List String))
  /-- Upgrade to TLS. -/
  | startTls
  /-- Close the connection. -/
  | close
  /-- Everything outside may change: the directory, the faults that are due, the other connections. -/
  | elsewhere (w : World)

namespace Operation

/-- The channel after an operation, whether it has failed or not. -/
def apply : Operation → Channel → Channel
  | edit f, ch => ((Exchange.edit f).perform ch).2
  | bind, ch => (Exchange.bind.perform ch).2
  | search base filter controls, ch => ((Exchange.search base filter controls).perform ch).2
  | read dn names, ch => ((Exchange.read dn names).perform ch).2
  | startTls, ch => (Exchange.startTls.perform ch).2
  | close, ch => (Exchange.close.perform ch).2
  | elsewhere w, ch => { ch with world := w }

/-- What an operation sends; whatever happens elsewhere is none of its doing. -/
def sent : Operation → Channel → List Sent
  | edit f, ch => (Exchange.edit f).sent ch
  | bind, ch => Exchange.bind.sent ch
  | search base filter controls, ch => (Exchange.search base filter controls).sent ch
  | read dn names, ch => (Exchange.read dn names).sent ch
  | startTls, ch => Exchange.startTls.sent ch
  | close, ch => Exchange.close.sent ch
  | elsewhere _, _ => []

end Operation

/-- Everything that a connection sends in a run of operations, oldest first. -/
def Channel.transcript (ch : Channel) : List Operation → List Sent
  | [] => []
  | o :: rest => o.sent ch ++ (o.apply ch).transcript rest

/-- The remembered identity is that of the standing bind; without one, nobody is remembered. -/
def Channel.InStep (past : List Sent) (ch : Channel) : Prop :=
  match ch.connection.bound with
  | some i => ∃ b, Sent.Standing past b ∧ b.environment.identity = i ∧
      ∃ r, b.request = .bind r ∧ BindRequest.ofEnvironment b.environment = .ok r
  | none => ∀ b, ¬ Sent.Standing past b

/-! ## §3 The latest bind -/

namespace Sent

variable {past : List Sent} {e b : Sent} {since : List Sent}

/-- One more request is the latest bind, or comes after it. -/
theorem isLatestBind_concat_iff : IsLatestBind (past ++ [e]) b since ↔
    (b = e ∧ since = [] ∧ e.IsBind) ∨
      ∃ since', since = since' ++ [e] ∧ ¬ e.IsBind ∧ IsLatestBind past b since' := by
  constructor
  · rintro ⟨hbind, ⟨earlier, hsplit⟩, hother⟩
    -- either the bind comes last, or something that is no bind comes after it
    rcases List.eq_nil_or_concat' since with rfl | ⟨since', x, rfl⟩
    · have heq : past = earlier ∧ e = b := by simpa using List.append_inj' hsplit rfl
      obtain ⟨rfl, rfl⟩ := heq
      exact .inl ⟨rfl, rfl, hbind⟩
    · have hsplit' : past ++ [e] = (earlier ++ b :: since') ++ [x] := by simpa using hsplit
      obtain ⟨hpast, hx⟩ := List.append_inj' hsplit' rfl
      cases hx
      have hno : ¬ e.IsBind := hother e (by simp)
      have hothers : ∀ y ∈ since', ¬ y.IsBind := fun y hy => hother y (by simp [hy])
      exact .inr ⟨since', rfl, hno, hbind, ⟨earlier, hpast⟩, hothers⟩
  · rintro (⟨rfl, rfl, hbind⟩ | ⟨since', rfl, hno, hlatest⟩)
    · exact ⟨hbind, ⟨past, rfl⟩, by simp⟩
    · obtain ⟨earlier, rfl⟩ := hlatest.split
      refine ⟨hlatest.isBind, ⟨earlier, by simp⟩, ?_⟩
      intro x hx
      rcases List.mem_append.mp hx with hx | hx
      · exact hlatest.noOther x hx
      · rw [List.mem_singleton.mp hx]
        exact hno

/-- If anything was bound, there is a latest bind. -/
theorem exists_isLatestBind (past : List Sent) :
    (∀ b ∈ past, ¬ b.IsBind) ∨ ∃ b since, IsLatestBind past b since := by
  induction past using List.reverseRecOn with
  | nil => exact .inl (by simp)
  | append_singleton past e ih =>
    -- the last request is a bind, or the latest one is that of the requests before
    by_cases hbind : e.IsBind
    · exact .inr ⟨e, [], isLatestBind_concat_iff.mpr (.inl ⟨rfl, rfl, hbind⟩)⟩
    rcases ih with hnone | ⟨b, since, hlatest⟩
    · left
      intro x hx
      rcases List.mem_append.mp hx with hx | hx
      · exact hnone x hx
      · rw [List.mem_singleton.mp hx]
        exact hbind
    · exact .inr ⟨b, since ++ [e], isLatestBind_concat_iff.mpr (.inr ⟨since, rfl, hbind, hlatest⟩)⟩

/-- After a bind, only that bind can stand. -/
theorem standing_concat_bind (hbind : e.IsBind) : Standing (past ++ [e]) b ↔ b = e ∧ e.accepted = true := by
  constructor
  · rintro ⟨since, hlatest, haccepted, -⟩
    rcases isLatestBind_concat_iff.mp hlatest with ⟨rfl, -, -⟩ | ⟨-, -, hno, -⟩
    · exact ⟨rfl, haccepted⟩
    · exact absurd hbind hno
  · rintro ⟨rfl, haccepted⟩
    exact ⟨[], isLatestBind_concat_iff.mpr (.inl ⟨rfl, rfl, hbind⟩), haccepted, by simp⟩

/-- The end of the connection leaves no bind standing. -/
theorem not_standing_concat_end (hend : e.IsEnd) : ¬ Standing (past ++ [e]) b := by
  rintro ⟨since, hlatest, -, hopen⟩
  rcases isLatestBind_concat_iff.mp hlatest with ⟨-, -, r, hr⟩ | ⟨since', rfl, -, -⟩
  · rw [IsEnd, hr] at hend
    cases hend
  · exact hopen e (by simp) hend

/-- Any other request leaves standing what stood. -/
theorem standing_concat_of_neither (hbind : ¬ e.IsBind) (hend : ¬ e.IsEnd) :
    Standing (past ++ [e]) b ↔ Standing past b := by
  constructor
  · -- the request behind is not the latest bind, and does not end the one that is
    rintro ⟨since, hlatest, haccepted, hopen⟩
    rcases isLatestBind_concat_iff.mp hlatest with ⟨-, -, h⟩ | ⟨since', rfl, -, hbefore⟩
    · exact absurd h hbind
    · exact ⟨since', hbefore, haccepted, fun x hx => hopen x (by simp [hx])⟩
  · rintro ⟨since, hlatest, haccepted, hopen⟩
    refine ⟨since ++ [e], isLatestBind_concat_iff.mpr (.inr ⟨since, rfl, hbind, hlatest⟩), haccepted, ?_⟩
    intro x hx
    rcases List.mem_append.mp hx with hx | hx
    · exact hopen x hx
    · rw [List.mem_singleton.mp hx]
      exact hend

/-- Without a standing bind there is a reason to bind. -/
theorem hasReason_of_not_standing (h : ∀ b, ¬ Standing past b) (e : Sent) : HasReason past e := by
  rcases exists_isLatestBind past with hnone | ⟨b, since, hlatest⟩
  · exact .inl hnone
  refine .inr ⟨b, since, hlatest, ?_⟩
  by_contra hcon
  push Not at hcon
  obtain ⟨-, haccepted, hopen⟩ := hcon
  exact h b ⟨since, hlatest, by simpa using haccepted, hopen⟩

theorem allLawful_append_iff {log log' : List Sent} :
    AllLawful past (log ++ log') ↔ AllLawful past log ∧ AllLawful (past ++ log) log' := by
  induction log generalizing past with
  | nil => simp [AllLawful]
  | cons e rest ih => simp [AllLawful, ih, and_assoc]

theorem AllLawful.of_split {before after : List Sent} (h : AllLawful past (before ++ e :: after)) :
    Lawful (past ++ before) e :=
  (allLawful_append_iff.mp h).2.1

/-- Other requests may be sent at any time. -/
theorem lawful_of_neither (hquery : ¬ e.IsQuery) (hbind : ¬ e.IsBind) : Lawful past e :=
  ⟨fun h => absurd h hquery, fun h => absurd h hbind⟩

end Sent

/-! ## §4 What each operation sends -/

namespace Exchange

variable {α β : Type}

/-- What a step has sent, from what it has recorded. -/
theorem sent_of_events {x : Exchange α} {ch : Channel} (requests : List Request)
    (h : (x.perform ch).2.world.events = ch.world.events ++ requests.map (Event.mk ch.connection.wire)) :
    x.sent ch = requests.map fun request =>
      ⟨request, ch.connection.environment, ch.world.accepts ch.connection.wire request⟩ := by
  simp [sent, h]

/-- A step that records nothing sends nothing. -/
theorem sent_eq_nil {x : Exchange α} {ch : Channel} (h : (x.perform ch).2.world.events = ch.world.events) :
    x.sent ch = [] :=
  sent_of_events [] (by simpa using h)

/-- The bind of a channel: what it sends, and whether a remembered identity comes of it. -/
inductive BindSends (ch : Channel) : List Sent → Channel → Prop
  /-- Nothing was sent, and nothing is changed. -/
  | nothing : BindSends ch [] ch
  /-- The identity of the environment was accepted, and is remembered. -/
  | accepted (hbound : ch.connection.isBound = false) (r : BindRequest) (w : World)
      (hrequest : BindRequest.ofEnvironment ch.connection.environment = .ok r) :
      BindSends ch [⟨.bind r, ch.connection.environment, true⟩]
        ⟨{ ch.connection with bound := some ch.connection.environment.identity }, w⟩
  /-- The identity was not accepted, and nobody is remembered. -/
  | refused (hbound : ch.connection.isBound = false) (r : BindRequest) (w : World) :
      BindSends ch [⟨.bind r, ch.connection.environment, false⟩] ⟨{ ch.connection with bound := none }, w⟩

theorem bind_sends (ch : Channel) : BindSends ch (bind.sent ch) (bind.perform ch).2 := by
  rcases hresult : bind.perform ch with ⟨result, ch'⟩
  have hrun := bind_run ch
  rw [hresult] at hrun
  cases hrun with
  | skipped =>
    rw [sent_eq_nil (by rw [hresult])]
    exact .nothing
  | unsupported =>
    rw [sent_eq_nil (by rw [hresult])]
    exact .nothing
  | accepted hbound r w hrequest hanswer =>
    obtain ⟨user, -, hw⟩ := World.of_bindWire_accepted hanswer
    have haccepts : ch.world.accepts ch.connection.wire (.bind r) = true := by
      simp [World.accepts, hanswer]
    rw [sent_of_events [.bind r] (by simp [hresult, hw])]
    simp only [List.map_cons, List.map_nil, haccepts]
    exact .accepted hbound r w hrequest
  | refused hbound r answer w e hrequest hanswer hfalse =>
    -- a refused bind and one that failed look alike on record
    have hw := World.of_bindWire_refused hanswer hfalse
    have haccepts : ch.world.accepts ch.connection.wire (.bind r) = false := by
      rw [World.accepts, hanswer]
      rcases answer with _ | _ | _
      · rfl
      · rfl
      · exact absurd rfl hfalse
    rw [sent_of_events [.bind r] (by simp [hresult, hw])]
    simp only [List.map_cons, List.map_nil, haccepts]
    exact .refused hbound r w

/-- A query after the bind: nothing else is sent, and only if the bind has gone through. -/
theorem sent_bind_query {body : Exchange α} {query : Connection → Request} (ch : Channel)
    (hbody : ∀ ch, ∃ faults, (body.perform ch).2 =
      { ch with world := { ch.world.record ch.connection.wire (query ch.connection) with faults := faults } })
    (hquery : ∀ c r, query c ≠ .bind r) :
    ((bind >>= fun _ => body).sent ch = bind.sent ch ∧
        ((bind >>= fun _ => body).perform ch).2 = (bind.perform ch).2) ∨
      ∃ c w w', bind.perform ch = (.ok (), ⟨c, w⟩) ∧ ((bind >>= fun _ => body).perform ch).2 = ⟨c, w'⟩ ∧
        (bind >>= fun _ => body).sent ch = bind.sent ch ++ [⟨query c, ch.connection.environment, false⟩] := by
  rcases hresult : bind.perform ch with ⟨e | _, ch'⟩
  · have hstate : ((bind >>= fun _ => body).perform ch).2 = ch' := by
      rw [Session.perform_bind_of_error hresult]
    refine .inl ⟨?_, hstate⟩
    rw [sent, hstate, sent, hresult]
  · right
    obtain ⟨faults, hafter⟩ := hbody ch'
    rw [← Session.perform_bind_of_ok hresult (fun _ => body)] at hafter
    refine ⟨ch'.connection, ch'.world, _, rfl, hafter, ?_⟩
    -- the bind has only added to what is on record
    have hproceeds : Channel.Proceeds ch ch' := by
      have h := bind_proceeds ch
      rwa [hresult] at h
    have hlength := hproceeds.world.length_events
    have haccepts : ch.world.accepts ch.connection.wire (query ch'.connection) = false := by
      unfold World.accepts
      split
      · rename_i r hr
        exact absurd hr (hquery _ r)
      · rfl
    rw [sent, hafter, sent, hresult]
    simp [World.record, List.drop_append_of_le_length hlength, haccepts]

end Exchange

/-! ## §5 Memory and wire stay in step -/

open Sent

namespace Channel

variable {past : List Sent} {ch ch' : Channel}

theorem InStep.of_bound_eq (h : InStep past ch) (hbound : ch'.connection.bound = ch.connection.bound) :
    InStep past ch' := by
  rw [InStep, hbound]
  exact h

/-- A request that is neither a bind nor the end changes neither side. -/
theorem InStep.concat_of_neither (h : InStep past ch) {e : Sent} (hbind : ¬ e.IsBind) (hend : ¬ e.IsEnd) :
    InStep (past ++ [e]) ch := by
  unfold InStep at h ⊢
  simp only [standing_concat_of_neither hbind hend]
  exact h

/-- A bind that is due has a reason. -/
theorem InStep.hasReason (h : InStep past ch) (hbound : ch.connection.isBound = false) {e : Sent}
    (he : e.environment = ch.connection.environment) : HasReason past e := by
  unfold InStep at h
  unfold Connection.isBound at hbound
  rcases hremembered : ch.connection.bound with _ | i
  · rw [hremembered] at h
    exact hasReason_of_not_standing h e
  · rw [hremembered] at h hbound
    obtain ⟨b, ⟨since, hlatest, -, -⟩, rfl, -⟩ := h
    refine .inr ⟨b, since, hlatest, .inl ?_⟩
    rw [he]
    exact hbound

/-- A query on a bound connection runs under the prescribed identity. -/
theorem InStep.runsAsPrescribed (h : InStep past ch) {i : Identity} (hi : ch.connection.bound = some i) {e : Sent}
    (hmatches : i.Matches e.environment.identity) : RunsAsPrescribed past e := by
  rw [InStep, hi] at h
  obtain ⟨b, ⟨since, hlatest, haccepted, -⟩, rfl, r, hr, hrequest⟩ := h
  rw [BindRequest.ofEnvironment_eq_ofIdentity] at hrequest
  obtain ⟨q, hq, hequals⟩ := BindRequest.ofIdentity_congr hmatches hrequest
  refine ⟨b, since, r, q, hlatest, haccepted, hr, hq, hequals, ?_⟩
  intro htextual
  -- texts match only themselves, so it is the same identity and the same request
  rw [htextual.eq_of_matches hmatches.symm] at hrequest
  have heq := hrequest.symm.trans hq
  cases heq
  rfl

end Channel

open Channel

variable {past : List Sent} {ch : Channel}

theorem bind_lawful (h : InStep past ch) :
    AllLawful past (Exchange.bind.sent ch) ∧ InStep (past ++ Exchange.bind.sent ch) (Exchange.bind.perform ch).2 := by
  have hsends := Exchange.bind_sends ch
  generalize Exchange.bind.sent ch = log at hsends ⊢
  generalize (Exchange.bind.perform ch).2 = ch' at hsends ⊢
  have notQuery (r : BindRequest) (accepted : Bool) :
      ¬ IsQuery ⟨.bind r, ch.connection.environment, accepted⟩ := by
    rintro (⟨_, h⟩ | ⟨_, _, h⟩ | ⟨_, h⟩) <;> cases h
  cases hsends with
  | nothing => exact ⟨trivial, by simpa using h⟩
  | accepted hbound r w hrequest =>
    -- memory and wire agree from now on about this very bind
    refine ⟨⟨⟨fun hquery => absurd hquery (notQuery r _), fun _ => h.hasReason hbound rfl⟩, trivial⟩, ?_⟩
    exact ⟨_, (standing_concat_bind ⟨r, rfl⟩).mpr ⟨rfl, rfl⟩, rfl, r, rfl, hrequest⟩
  | refused hbound r w =>
    refine ⟨⟨⟨fun hquery => absurd hquery (notQuery r _), fun _ => h.hasReason hbound rfl⟩, trivial⟩, ?_⟩
    -- nobody is remembered, and nothing stands
    intro b hstanding
    have haccepted := ((standing_concat_bind ⟨r, rfl⟩).mp hstanding).2
    cases haccepted

/-- The operations that bind and then ask. -/
theorem query_lawful {α : Type} {body : Exchange α} (query : Connection → Request) (h : InStep past ch)
    (hbody : ∀ ch, ∃ faults, (body.perform ch).2 =
      { ch with world := { ch.world.record ch.connection.wire (query ch.connection) with faults := faults } })
    (hquery : ∀ c r, query c ≠ .bind r) (hend : ∀ c, query c ≠ .unbind) :
    AllLawful past ((Exchange.bind >>= fun _ => body).sent ch) ∧
      InStep (past ++ (Exchange.bind >>= fun _ => body).sent ch)
        ((Exchange.bind >>= fun _ => body).perform ch).2 := by
  obtain ⟨hlawful, hstep⟩ := bind_lawful h
  -- the query is sent only if the bind has gone through, and then it runs under the identity just bound
  rcases Exchange.sent_bind_query ch hbody hquery with ⟨hsent, hstate⟩ | ⟨c, w, w', hbind, hstate, hsent⟩
  · rw [hsent, hstate]
    exact ⟨hlawful, hstep⟩
  · rw [hbind] at hstep
    rw [hsent, hstate, allLawful_append_iff, ← List.append_assoc]
    have hnotBind : ¬ IsBind ⟨query c, ch.connection.environment, false⟩ := fun ⟨r, hr⟩ => hquery c r hr
    have hnotEnd : ¬ IsEnd ⟨query c, ch.connection.environment, false⟩ := hend c
    obtain ⟨i, hi, hmatches⟩ := Exchange.matches_of_bind_ok hbind
    have hprescribed := hstep.runsAsPrescribed (e := ⟨query c, ch.connection.environment, false⟩) hi hmatches
    refine ⟨⟨hlawful, ⟨fun _ => hprescribed, fun hb => absurd hb hnotBind⟩, trivial⟩, ?_⟩
    exact (hstep.concat_of_neither hnotBind hnotEnd).of_bound_eq rfl

/-- **One operation keeps memory and wire in step**, and sends nothing unlawful. -/
theorem operation_lawful (h : InStep past ch) (o : Operation) :
    AllLawful past (o.sent ch) ∧ InStep (past ++ o.sent ch) (o.apply ch) := by
  cases o with
  | edit f =>
    have hsent : (Exchange.edit f).sent ch = [] := Exchange.sent_eq_nil rfl
    simp only [Operation.sent, hsent, List.append_nil]
    exact ⟨trivial, h.of_bound_eq rfl⟩
  | elsewhere w =>
    rw [Operation.sent, List.append_nil]
    exact ⟨trivial, h.of_bound_eq rfl⟩
  | bind => exact bind_lawful h
  | search base filter controls =>
    refine query_lawful (fun c => Exchange.searchQuery c base filter controls) h (fun ch => ?_) ?_ ?_
    · obtain ⟨faults, -, hstate⟩ := Exchange.searchBound_state base filter controls ch
      exact ⟨faults, hstate⟩
    · intro c r
      unfold Exchange.searchQuery
      split <;> nofun
    · intro c
      unfold Exchange.searchQuery
      split <;> nofun
  | read dn names =>
    refine query_lawful (fun c => Exchange.readQuery c dn names) h (fun ch => ?_) ?_ ?_
    · obtain ⟨faults, -, hstate⟩ := Exchange.readBound_state dn names ch
      exact ⟨faults, hstate⟩
    · intro c r
      unfold Exchange.readQuery
      split <;> nofun
    · intro c
      unfold Exchange.readQuery
      split <;> nofun
  | startTls =>
    -- an upgrade is neither a query nor a bind, and it binds nobody
    obtain ⟨started, hstate⟩ := Exchange.startTls_state ch
    have hsent : Exchange.startTls.sent ch = [⟨.startTls, ch.connection.environment, false⟩] :=
      Exchange.sent_of_events [.startTls] (by simp [hstate])
    have hnotQuery : ¬ IsQuery ⟨.startTls, ch.connection.environment, false⟩ := by
      rintro (⟨_, h⟩ | ⟨_, _, h⟩ | ⟨_, h⟩) <;> cases h
    have hnotBind : ¬ IsBind ⟨.startTls, ch.connection.environment, false⟩ := nofun
    simp only [Operation.sent, Operation.apply, hsent, hstate]
    exact ⟨⟨lawful_of_neither hnotQuery hnotBind, trivial⟩, (h.concat_of_neither hnotBind nofun).of_bound_eq rfl⟩
  | close =>
    have hsent : Exchange.close.sent ch = [⟨.unbind, ch.connection.environment, false⟩] :=
      Exchange.sent_of_events [.unbind] (by simp [Exchange.close_eq, World.unbindWire_eq])
    have hnotQuery : ¬ IsQuery ⟨.unbind, ch.connection.environment, false⟩ := by
      rintro (⟨_, h⟩ | ⟨_, _, h⟩ | ⟨_, h⟩) <;> cases h
    simp only [Operation.sent, Operation.apply, hsent, Exchange.close_eq]
    exact ⟨⟨lawful_of_neither hnotQuery nofun, trivial⟩, fun b => not_standing_concat_end rfl⟩

/-- A whole run sends nothing unlawful. -/
theorem transcript_lawful (h : InStep past ch) (ops : List Operation) : AllLawful past (ch.transcript ops) := by
  -- the past grows by what each operation has sent
  induction ops generalizing past ch with
  | nil => trivial
  | cons o rest ih =>
    obtain ⟨hlawful, hstep⟩ := operation_lawful h o
    exact allLawful_append_iff.mpr ⟨hlawful, ih hstep⟩

/-- **Every request runs under the prescribed identity.** In any run of a new connection, whatever happens elsewhere
and whatever fails, a query is preceded by an accepted bind for the identity that its environment prescribes, and a
bind is sent only for a reason. -/
theorem requests_run_as_prescribed (hnew : ch.connection.bound = none) (ops : List Operation)
    {before after : List Sent} {e : Sent} (hsent : ch.transcript ops = before ++ e :: after) :
    (e.IsQuery → RunsAsPrescribed before e) ∧ (e.IsBind → HasReason before e) := by
  have hnobody : InStep [] ch := by
    rw [InStep, hnew]
    rintro b ⟨since, ⟨-, ⟨earlier, hsplit⟩, -⟩, -⟩
    simp at hsplit
  have hlawful := transcript_lawful hnobody ops
  rw [hsent] at hlawful
  have he : Lawful ([] ++ before) e := hlawful.of_split
  exact he

/-! ### A run -/

/-- A directory with one entry, and a connection that nobody is bound on. -/
def Channel.plain : Channel where
  connection := { wire := 1, environment := [] }
  world := { directory := { passwords := [("uid=ada", "secret")] }, wires := [{ isOpen := true }] }

/-- The identity of the entry. -/
def Environment.ofAda : Environment :=
  [(credentials, .text "secret"), (principal, .text "uid=ada")]

/-- A read after an edit of the environment: it is preceded by the bind that the edit calls for. -/
theorem read_runs_as_edited :
    Channel.plain.connection.bound = none ∧
      ∃ b read, Channel.plain.transcript [.edit fun _ => Environment.ofAda, .read "" none] = [b] ++ read :: [] ∧
        read.IsQuery ∧ RunsAsPrescribed [b] read := by
  let b : Sent := ⟨.bind { user := .text "uid=ada", password := .text "secret", authentication := .simple },
    Environment.ofAda, true⟩
  let read : Sent := ⟨.search (Exchange.readRequest { wire := 1, environment := Environment.ofAda } "" none),
    Environment.ofAda, false⟩
  have hsent : Channel.plain.transcript [.edit fun _ => Environment.ofAda, .read "" none] = [b] ++ read :: [] := rfl
  have hquery : read.IsQuery := .inl ⟨_, rfl⟩
  exact ⟨rfl, b, read, hsent, hquery, (requests_run_as_prescribed rfl _ hsent).1 hquery⟩

end DirectoryLogin
