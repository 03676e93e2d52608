import DirectoryLogin.Proofs.Transcript
/-!
# Encryption First

What is sent on a wire goes through phases. A wire that is to be encrypted is opened and then upgraded; only when the
upgrade has been accepted it is used, and if it has not been, the wire can only be ended. A wire that is not to be
encrypted is used at once.

- `Phase.after`: a monitor that follows a transcript from phase to phase, and knows what may come next.
- `Heard.EncryptsFirst`: the rule for wires that are to be encrypted, in terms of what comes before what.
- `Phase.encryptsFirst`: a transcript that the monitor follows obeys the rule.
-/

namespace DirectoryLogin

/-! ## §1 Phases -/

/-- How far a wire has come. -/
inductive Phase where
  /-- Nothing has been sent. -/
  | new
  /-- The wire is not to be encrypted. -/
  | plain
  /-- The wire is to be encrypted, and nothing has been sent since it was opened. -/
  | opened
  /-- An upgrade has been accepted. -/
  | secured
  /-- The upgrade has failed or was refused. -/
  | failed
deriving DecidableEq

/-- The part of a transcript that is about one wire. -/
def Heard.onWire (n : Nat) (es : List Heard) : List Heard :=
  es.filter fun x => x.event.wire == n

section OnWire

variable {n : Nat} {es : List Heard}

theorem Heard.onWire_append (n : Nat) (es es' : List Heard) : onWire n (es ++ es') = onWire n es ++ onWire n es' :=
  List.filter_append es es'

theorem Heard.onWire_eq_self (h : ∀ x ∈ es, x.event.wire = n) : onWire n es = es :=
  List.filter_eq_self.mpr fun x hx => beq_iff_eq.mpr (h x hx)

theorem Heard.onWire_eq_nil (h : ∀ x ∈ es, x.event.wire ≠ n) : onWire n es = [] :=
  List.filter_eq_nil_iff.mpr fun x hx heq => h x hx (beq_iff_eq.mp heq)

/-- What is sent later on one wire is heard on that wire alone. -/
theorem Heard.onWire_append_of_wire {es' : List Heard} {k : Nat} (h' : ∀ x ∈ es', x.event.wire = k) (n : Nat) :
    onWire n (es ++ es') = if n = k then onWire n es ++ es' else onWire n es := by
  rw [onWire_append]
  split
  · rename_i hn
    rw [hn, onWire_eq_self h']
  · rename_i hn
    rw [onWire_eq_nil fun x hx heq => hn (heq.symm.trans (h' x hx)), List.append_nil]

/-- What is sent later on other wires does not mix with what was sent before. -/
theorem Heard.onWire_append_of_fresh {es' : List Heard} {k : Nat} (h : ∀ x ∈ es, x.event.wire ≤ k)
    (h' : ∀ x ∈ es', k < x.event.wire) (n : Nat) :
    onWire n (es ++ es') = if n ≤ k then onWire n es else onWire n es' := by
  rw [onWire_append]
  split
  · have hnil : onWire n es' = [] := onWire_eq_nil fun x hx heq => by
      have hlow := h' x hx
      omega
    rw [hnil, List.append_nil]
  · have hnil : onWire n es = [] := onWire_eq_nil fun x hx heq => by
      have hhigh := h x hx
      omega
    rw [hnil, List.nil_append]

end OnWire

/-- The request went through. -/
def Heard.isAccepted (x : Heard) : Bool :=
  match x.verdict with
  | .ok true => true
  | _ => false

namespace Phase

/-- The phase after one more request, if the request may come in this phase. -/
def next (p : Phase) (x : Heard) : Option Phase :=
  match p with
  | .new =>
    match x.event.request with
    | .connect request => some (if request.tls.isSome then .opened else .plain)
    | _ => some .plain
  | .plain =>
    match x.event.request with
    | .connect _ => none
    | _ => some .plain
  | .opened =>
    match x.event.request with
    | .startTls => some (if x.isAccepted then .secured else .failed)
    | _ => none
  | .secured => if x.event.request.isService then some .secured else none
  | .failed =>
    match x.event.request with
    | .unbind => some .failed
    | _ => none

/-- The phase after some requests, if they come as they may. -/
def after (p : Phase) (es : List Heard) : Option Phase :=
  es.foldlM next p

/-- A connection on the wire may be used. -/
def isReady : Phase → Bool
  | .new | .plain | .secured => true
  | .opened | .failed => false

variable {p q : Phase} {x : Heard} {es es' : List Heard}

theorem after_cons (p : Phase) (x : Heard) (es : List Heard) : p.after (x :: es) = (p.next x).bind (·.after es) :=
  List.foldlM_cons

theorem after_append (p : Phase) (es es' : List Heard) : p.after (es ++ es') = (p.after es).bind (·.after es') :=
  List.foldlM_append

theorem after_append_of_some (h : p.after es = some q) : p.after (es ++ es') = q.after es' := by
  rw [after_append, h, Option.bind_some]

/-- A wire that may be used stays so when it is used. -/
theorem after_of_isReady (hp : p.isReady = true) (hes : ∀ x ∈ es, x.event.request.isService = true) :
    ∃ q, p.after es = some q ∧ q.isReady = true := by
  induction es generalizing p with
  | nil => exact ⟨p, rfl, hp⟩
  | cons x rest ih =>
    have hservice := hes x List.mem_cons_self
    -- one request leaves the wire ready: a new wire becomes a plain one, the others stay as they are
    have hnext : ∃ q, p.next x = some q ∧ q.isReady = true := by
      rcases x with ⟨⟨n, request⟩, verdict⟩
      dsimp only at hservice
      cases p with
      | new =>
        cases request with
        | connect => cases hservice
        | _ => exact ⟨.plain, rfl, rfl⟩
      | plain =>
        cases request with
        | connect => cases hservice
        | _ => exact ⟨.plain, rfl, rfl⟩
      | secured => exact ⟨.secured, by rw [next, if_pos hservice], rfl⟩
      | opened | failed => cases hp
    obtain ⟨q, hq, hready⟩ := hnext
    rw [after_cons, hq, Option.bind_some]
    exact ih hready fun y hy => hes y (List.mem_cons_of_mem x hy)

/-- A wire may be ended in every phase but that of waiting for the upgrade. -/
theorem after_of_unbinds (hp : p = plain ∨ p = secured ∨ p = failed) (hes : ∀ x ∈ es, x.event.request = .unbind) :
    p.after es = some p := by
  induction es with
  | nil => rfl
  | cons x rest ih =>
    have hnext : p.next x = some p := by
      unfold next
      rw [hes x List.mem_cons_self]
      rcases hp with rfl | rfl | rfl <;> rfl
    rw [after_cons, hnext]
    exact ih fun y hy => hes y (List.mem_cons_of_mem x hy)

/-- An answer to the request for encryption leads to a phase in which the wire can be ended, and used if the answer is
that it was accepted. -/
theorem after_startTls (hp : p = opened ∨ p = new) (n : Nat) (verdict : Except Failure Bool) :
    ∃ q, p.after [⟨⟨n, .startTls⟩, verdict⟩] = some q ∧ (q = plain ∨ q = secured ∨ q = failed) ∧
      (verdict = .ok true → q.isReady = true) := by
  rcases hp with rfl | rfl
  · rcases verdict with e | _ | _
    · exact ⟨failed, rfl, .inr (.inr rfl), nofun⟩
    · exact ⟨failed, rfl, .inr (.inr rfl), nofun⟩
    · exact ⟨secured, rfl, .inr (.inl rfl), fun _ => rfl⟩
  · exact ⟨plain, rfl, .inl rfl, fun _ => rfl⟩

end Phase

/-! ## §2 The rule for encrypted wires -/

/-- A bind or a search: a request that may carry a password, or what only its owner may know. -/
def Request.isSensitive : Request → Bool
  | .bind _ | .search _ | .preparedSearch .. | .preparedRead _ => true
  | .connect _ | .startTls | .unbind => false

/-- Encryption comes first on a wire: all that was sent on it is `es`. -/
structure Heard.EncryptsFirst (es : List Heard) : Prop where
  /-- The first request after the wire was opened asks for encryption. -/
  first : ∃ opening rest, es = opening :: rest ∧ (∃ request, opening.event.request = .connect request) ∧
    ∀ x tail, rest = x :: tail → x.event.request = .startTls
  /-- Every bind and every search comes after an upgrade that was accepted. -/
  covered : ∀ before x later, es = before ++ x :: later → x.event.request.isSensitive = true →
    ∃ y ∈ before, y.event.request = .startTls ∧ y.verdict = .ok true
  /-- When an upgrade has failed or was refused, there is no bind and no search at all. -/
  refused : ∀ y ∈ es, y.event.request = .startTls → y.verdict ≠ .ok true →
    ∀ x ∈ es, x.event.request.isSensitive = false

theorem Heard.isAccepted_iff {x : Heard} : x.isAccepted = true ↔ x.verdict = .ok true := by
  unfold isAccepted
  split
  · rename_i h
    simp [h]
  · rename_i h
    exact ⟨nofun, fun heq => absurd heq h⟩

namespace Phase

variable {p q : Phase} {x : Heard} {es : List Heard}

/-- The monitor has followed every request, one after the other. -/
theorem of_after_cons (h : p.after (x :: es) = some q) : ∃ p', p.next x = some p' ∧ p'.after es = some q := by
  rw [after_cons] at h
  exact Option.bind_eq_some_iff.mp h

/-- Where a request has come, something has been sent; and a wire is opened before anything else. -/
theorem of_next (h : p.next x = some q) :
    q ≠ new ∧ ∀ request, x.event.request = .connect request →
      p = new ∧ q = if request.tls.isSome then opened else plain := by
  rcases x with ⟨⟨n, request⟩, verdict⟩
  cases p with
  | new =>
    cases request with
    | connect request =>
      -- opening is the first request: what comes next depends on whether encryption is asked for
      cases h
      refine ⟨?_, ?_⟩
      · split <;> exact nofun
      · rintro _ ⟨⟩
        exact ⟨rfl, rfl⟩
    | _ =>
      cases h
      exact ⟨nofun, fun _ hconnect => nomatch hconnect⟩
  | plain =>
    cases request with
    | connect => cases h
    | _ =>
      cases h
      exact ⟨nofun, fun _ hconnect => nomatch hconnect⟩
  | opened =>
    cases request with
    | startTls =>
      -- the answer to StartTLS decides whether the wire is secured or has failed
      cases h
      refine ⟨?_, fun _ hconnect => nomatch hconnect⟩
      split <;> exact nofun
    | _ => cases h
  | secured =>
    cases request with
    | connect | startTls => cases h
    | _ =>
      cases h
      exact ⟨nofun, fun _ hconnect => nomatch hconnect⟩
  | failed =>
    cases request with
    | unbind =>
      cases h
      exact ⟨nofun, fun _ hconnect => nomatch hconnect⟩
    | _ => cases h

theorem not_connect_of_after (hp : p ≠ new) (h : p.after es = some q) (hx : x ∈ es) (request : OpenRequest) :
    x.event.request ≠ .connect request := by
  induction es generalizing p with
  | nil => cases hx
  | cons y rest ih =>
    obtain ⟨p', hnext, hrest⟩ := of_after_cons h
    obtain ⟨hp', hconnect⟩ := of_next hnext
    rcases List.mem_cons.mp hx with rfl | hx
    · exact fun heq => hp (hconnect request heq).1
    · exact ih hp' hrest hx

/-- A wire that is secured is only used. -/
theorem of_after_secured (h : secured.after es = some q) : ∀ x ∈ es, x.event.request.isService = true := by
  induction es with
  | nil => exact List.forall_mem_nil _
  | cons x rest ih =>
    obtain ⟨p', hnext, hrest⟩ := of_after_cons h
    simp only [next] at hnext
    split at hnext
    · rename_i hservice
      cases hnext
      exact List.forall_mem_cons.mpr ⟨hservice, ih hrest⟩
    · cases hnext

/-- A wire whose upgrade has failed is only ended. -/
theorem of_after_failed (h : failed.after es = some q) : ∀ x ∈ es, x.event.request = .unbind := by
  induction es with
  | nil => exact List.forall_mem_nil _
  | cons x rest ih =>
    obtain ⟨p', hnext, hrest⟩ := of_after_cons h
    rcases x with ⟨⟨n, request⟩, verdict⟩
    cases request with
    | unbind =>
      cases hnext
      exact List.forall_mem_cons.mpr ⟨rfl, ih hrest⟩
    | _ => cases hnext

/-- What may follow when a wire has been opened to be encrypted. -/
theorem of_after_opened (h : opened.after es = some q) :
    es = [] ∨ ∃ x rest, es = x :: rest ∧ x.event.request = .startTls ∧
      if x.isAccepted then ∀ y ∈ rest, y.event.request.isService = true
      else ∀ y ∈ rest, y.event.request = .unbind := by
  cases es with
  | nil => exact .inl rfl
  | cons x rest =>
    -- the first request is StartTLS, and the phase after it admits what the rest consists of
    obtain ⟨p', hnext, hrest⟩ := of_after_cons h
    rcases hx : x with ⟨⟨n, request⟩, verdict⟩
    rw [hx] at hnext
    cases request with
    | startTls =>
      cases hnext
      refine .inr ⟨_, rest, rfl, rfl, ?_⟩
      split at hrest
      · rw [if_pos ‹_›]
        exact of_after_secured hrest
      · rw [if_neg ‹_›]
        exact of_after_failed hrest
    | _ => cases hnext

/-- A wire that was opened to be encrypted, and on which only what may follow has followed. -/
theorem encryptsFirst_of_opened {opening : Heard} {request : OpenRequest}
    (hopening : opening.event.request = .connect request) (h : opened.after es = some q) :
    Heard.EncryptsFirst (opening :: es) := by
  have hharmless : opening.event.request.isSensitive = false := by
    rw [hopening]
    rfl
  have hother : opening.event.request ≠ .startTls := by
    rw [hopening]
    exact nofun
  rcases of_after_opened h with rfl | ⟨x, rest, rfl, hupgrade, hrest⟩
  · -- nothing has followed
    refine ⟨⟨opening, [], rfl, ⟨request, hopening⟩, fun _ _ hnil => nomatch hnil⟩, fun before y later heq hy => ?_,
      fun y hy hstart => ?_⟩
    · have hmem : y ∈ [opening] := heq ▸ List.mem_append_right before List.mem_cons_self
      rw [List.mem_singleton.mp hmem, hharmless] at hy
      cases hy
    · exact absurd (List.mem_singleton.mp hy ▸ hstart) hother
  have hupgradeHarmless : x.event.request.isSensitive = false := by
    rw [hupgrade]
    rfl
  have hended (hrefused : ¬ x.isAccepted = true) (y : Heard) (hy : y ∈ rest) : y.event.request.isSensitive = false := by
    rw [if_neg hrefused] at hrest
    rw [hrest y hy]
    rfl
  refine ⟨⟨opening, x :: rest, rfl, ⟨request, hopening⟩, ?_⟩, fun before y later heq hy => ?_,
    fun y hy hstart hnot => ?_⟩
  · rintro _ _ ⟨⟩
    exact hupgrade
  · -- a bind or a search is neither of the first two requests, so that the upgrade comes before it
    rcases before with _ | ⟨first, _ | ⟨second, before⟩⟩
    · cases heq
      rw [hharmless] at hy
      cases hy
    · cases heq
      rw [hupgradeHarmless] at hy
      cases hy
    · cases heq
      refine ⟨x, by simp, hupgrade, Heard.isAccepted_iff.mp ?_⟩
      by_contra hrefused
      rw [hended hrefused y (List.mem_append_right before List.mem_cons_self)] at hy
      cases hy
  · have hrefused : ¬ x.isAccepted = true := by
      intro haccepted
      rw [if_pos haccepted] at hrest
      -- the only upgrade is the one that was accepted
      rcases List.mem_cons.mp hy with rfl | hy
      · exact hother hstart
      rcases List.mem_cons.mp hy with rfl | hy
      · exact hnot (Heard.isAccepted_iff.mp haccepted)
      · have hservice := hrest y hy
        rw [hstart] at hservice
        cases hservice
    intro z hz
    rcases List.mem_cons.mp hz with rfl | hz
    · exact hharmless
    rcases List.mem_cons.mp hz with rfl | hz
    · exact hupgradeHarmless
    · exact hended hrefused z hz

/-- **A transcript that the monitor follows obeys the rule**, if the wire was opened to be encrypted. -/
theorem encryptsFirst (h : new.after es = some q) (hx : x ∈ es) {request : OpenRequest}
    (hconnect : x.event.request = .connect request) (htls : request.tls.isSome = true) : Heard.EncryptsFirst es := by
  cases es with
  | nil => cases hx
  | cons opening rest =>
    obtain ⟨p', hnext, hrest⟩ := of_after_cons h
    obtain ⟨hp', hopening⟩ := of_next hnext
    rcases List.mem_cons.mp hx with rfl | hx
    · obtain ⟨-, rfl⟩ := hopening request hconnect
      rw [if_pos htls] at hrest
      exact encryptsFirst_of_opened hconnect hrest
    · -- nothing is opened after the first request
      exact absurd hconnect (not_connect_of_after hp' hrest hx request)

end Phase

end DirectoryLogin
