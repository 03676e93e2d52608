import DirectoryLogin.Proofs.Identity
import DirectoryLogin.Proofs.Session.Respects
import DirectoryLogin.World
/-!
# What Requests Do to the World

A request is recorded, may be struck by a fault, and changes at most its own wire. `World.Follows n` says so for
the requests of one connection: the directory and every other wire stay as they are, and no fault comes from
nowhere.

- `send_eq`: what sending a request comes to.
- `checkBind_congr`: equal bind requests are answered alike.
-/

namespace DirectoryLogin

/-! ## §1 Faults -/

/-- What a fault does to the request it strikes. -/
def Fault.verdict : Option Fault → Except Failure Bool
  | none => .ok true
  | some fault =>
    match fault.failure with
    | some e => .error e
    | none => .ok false

namespace World

/-! ## §2 Sending -/

/-- The world after a request was sent: it is on record, and a fault that struck is gone. -/
def sent (w : World) (call : Call) (n : Nat) (request : Request) : World :=
  { w.record n request with faults := (Fault.strike call w.faults).2 }

/-- **Sending a request**: it is recorded whatever happens, and only a fault keeps it from going through. -/
theorem send_eq (w : World) (call : Call) (n : Nat) (request : Request) :
    (send call n request).perform w =
      (Fault.verdict (Fault.strike call w.faults).1, w.sent call n request) := by
  rcases hstrike : Fault.strike call w.faults with ⟨_ | ⟨on, skip, _ | e⟩, left⟩ <;>
    simp [send, Session.perform_bind, Session.perform_map, Except.map, sent, record, hstrike, Fault.verdict]

@[simp] theorem sent_directory (w : World) (call : Call) (n : Nat) (request : Request) :
    (w.sent call n request).directory = w.directory := rfl

@[simp] theorem sent_wires (w : World) (call : Call) (n : Nat) (request : Request) :
    (w.sent call n request).wires = w.wires := rfl

@[simp] theorem sent_events (w : World) (call : Call) (n : Nat) (request : Request) :
    (w.sent call n request).events = w.events ++ [⟨n, request⟩] := rfl

@[simp] theorem sent_faults (w : World) (call : Call) (n : Nat) (request : Request) :
    (w.sent call n request).faults = (Fault.strike call w.faults).2 := rfl

/-- Without faults every request goes through. -/
theorem send_eq_of_quiet {w : World} (h : w.faults = []) (call : Call) (n : Nat) (request : Request) :
    (send call n request).perform w = (.ok true, w.record n request) := by
  rw [send_eq, h]
  simp [sent, h, Fault.strike, Fault.verdict, record]

/-! ## §3 Requests by what they come to -/

/-- **Binding**: the directory looks at a bind that no fault has struck, and an accepted one leaves its name on the
wire. -/
theorem bindWire_eq (w : World) (n : Nat) (request : BindRequest) :
    (bindWire n request).perform w =
      match Fault.verdict (Fault.strike .bind w.faults).1 with
      | .ok true =>
        match checkBind w.directory request with
        | .ok user =>
          (.ok true, (w.sent .bind n (.bind request)).updateWire n fun wire => { wire with boundUser := user })
        | .error e => (.error (.client e), w.sent .bind n (.bind request))
      | .ok false => (.ok false, w.sent .bind n (.bind request))
      | .error e => (.error e, w.sent .bind n (.bind request)) := by
  rw [bindWire, Session.perform_bind, send_eq]
  rcases Fault.verdict (Fault.strike .bind w.faults).1 with e | _ | _
  · rfl
  · rfl
  · rcases hcheck : checkBind w.directory request with e | user <;>
      simp [Session.perform_bind, Session.perform_map, Except.map, hcheck]

/-- An accepted bind has left the name that the directory accepted on the wire. -/
theorem of_bindWire_accepted {w w' : World} {n : Nat} {request : BindRequest}
    (h : (bindWire n request).perform w = (.ok true, w')) :
    ∃ user, checkBind w.directory request = .ok user ∧
      w' = (w.sent .bind n (.bind request)).updateWire n fun wire => { wire with boundUser := user } := by
  rw [bindWire_eq] at h
  rcases hverdict : Fault.verdict (Fault.strike .bind w.faults).1 with e | _ | _
  · simp [hverdict] at h
  · simp [hverdict] at h
  · rcases hcheck : checkBind w.directory request with e | user
    · simp [hverdict, hcheck] at h
    · refine ⟨user, rfl, ?_⟩
      simp only [hverdict, hcheck, Prod.mk.injEq, true_and] at h
      exact h.symm

/-- A bind that was not accepted has only been sent. -/
theorem of_bindWire_refused {w w' : World} {n : Nat} {request : BindRequest} {answer : Except Failure Bool}
    (h : (bindWire n request).perform w = (answer, w')) (hfalse : answer ≠ .ok true) :
    w' = w.sent .bind n (.bind request) := by
  rw [bindWire_eq] at h
  rcases hverdict : Fault.verdict (Fault.strike .bind w.faults).1 with e | _ | _
  · simp only [hverdict, Prod.mk.injEq] at h
    exact h.2.symm
  · simp only [hverdict, Prod.mk.injEq] at h
    exact h.2.symm
  · rcases hcheck : checkBind w.directory request with e | user
    · simp only [hverdict, hcheck, Prod.mk.injEq] at h
      exact h.2.symm
    · simp only [hverdict, hcheck, Prod.mk.injEq] at h
      exact absurd h.1.symm hfalse

/-- **Searching**: the directory answers the name that is bound on the wire. -/
theorem searchWire_eq (w : World) (n : Nat) (request : SearchRequest) :
    (searchWire n request).perform w =
      match Fault.verdict (Fault.strike .search w.faults).1 with
      | .ok _ =>
        ((w.directory.search (((w.wire? n).map (·.boundUser)).getD .null) request).mapError .client,
          w.sent .search n (.search request))
      | .error e => (.error e, w.sent .search n (.search request)) := by
  rw [searchWire, Session.perform_bind, send_eq]
  rcases Fault.verdict (Fault.strike .search w.faults).1 with e | passed
  · rfl
  · have hwire : (w.sent .search n (.search request)).wire? n = w.wire? n := rfl
    rcases hanswer : w.directory.search (((w.wire? n).map (·.boundUser)).getD .null) request <;>
      simp [Session.perform_bind, hwire, hanswer, Except.mapError]

/-- **Ending a connection**: the wire is closed before the request is sent. -/
theorem unbindWire_eq (w : World) (n : Nat) :
    (unbindWire n).perform w =
      ((Fault.verdict (Fault.strike .unbind w.faults).1).map fun _ => (),
        (w.updateWire n fun wire => { wire with isOpen := false }).sent .unbind n .unbind) := by
  have hfaults : (w.updateWire n fun wire => { wire with isOpen := false }).faults = w.faults := by
    unfold updateWire
    split <;> rfl
  simp only [unbindWire, Session.perform_bind, Session.perform_modify, send_eq, hfaults]
  rcases Fault.verdict (Fault.strike .unbind w.faults).1 <;> rfl

theorem perform_say (level : Level) (source : Source) (text : String) (w : World) :
    (say level source text).perform w = (.ok (), w.write ⟨level, source, text⟩) := rfl

/-! ## §4 Binds that are answered alike -/

/-- Equal names and passwords are accepted together. -/
theorem checkPassword_congr {d : Directory} {user user' password password' : Value} (hu : user.Equals user')
    (hp : password.Equals password') (h : d.checkPassword user password = .ok ()) :
    d.checkPassword user' password' = .ok () := by
  unfold Directory.checkPassword at h ⊢
  rw [← hp.isGiven_eq]
  split at h
  · cases h
  split at h
  · rename_i hgiven hstored
    -- only a text has a stored password, and only a text is the same as it
    cases user with
    | text name =>
      obtain rfl := (Value.equals_text_left name user').mp hu
      obtain ⟨stored, hlookup, hsame⟩ := (Option.any_eq_true _ _).mp hstored
      obtain rfl := (Value.same_text_right password stored).mp hsame
      obtain rfl := (Value.equals_text_left stored password').mp hp
      rw [if_neg hgiven, if_pos hstored]
    | _ => cases hstored
  · cases h

/-- Lists of equal values have equal values in every place. -/
theorem getElem?_equals {xs ys : List Value} (h : List.Forall₂ Value.Equals xs ys) (k : Nat) :
    (xs[k]?.getD .null).Equals (ys[k]?.getD .null) := by
  -- beyond the end both lists have null
  induction h generalizing k with
  | nil => exact .refl _
  | cons hxy _ ih =>
    cases k with
    | zero => simpa using hxy
    | succ k => simpa using ih k

/-- **Equal bind requests are answered alike**: if one is accepted, so is the other, and for an equal name. -/
theorem checkBind_congr {d : Directory} {r q : BindRequest} (h : r.Equals q) {v : Value}
    (hr : checkBind d r = .ok v) : ∃ v', checkBind d q = .ok v' ∧ v.Equals v' := by
  obtain ⟨user, password, auth, mechanism, sasl⟩ := r
  obtain ⟨user', password', auth', mechanism', sasl'⟩ := q
  obtain ⟨hu, hp, rfl, rfl, hs⟩ := h
  cases auth with
  | anonymous =>
    simp only [checkBind] at hr ⊢
    by_cases hdeny : d.denyAnonymous = true
    · rw [if_pos hdeny] at hr
      cases hr
    · rw [if_neg hdeny] at hr ⊢
      cases hr
      exact ⟨_, rfl, hu⟩
  | simple =>
    simp only [checkBind] at hr ⊢
    rcases hcheck : d.checkPassword user password with _ | _
    · rw [hcheck] at hr
      cases hr
    · rw [hcheck] at hr
      cases hr
      exact ⟨_, by rw [checkPassword_congr hu hp hcheck]; rfl, hu⟩
  | sasl =>
    have hgiven : List.Forall₂ Value.Equals (sasl.getD []) (sasl'.getD []) := by
      cases hs with
      | some hlist => exact hlist
      | none => exact .nil
    simp only [checkBind] at hr ⊢
    by_cases hdeny : d.denySasl = true
    · rw [if_pos hdeny] at hr
      cases hr
    rw [if_neg hdeny] at hr ⊢
    rcases mechanism with _ | _ | _
    · cases hr
      exact ⟨_, rfl, hu⟩
    · cases hr
      exact ⟨_, rfl, hu⟩
    · -- the name and the password are the second and the third of what the mechanism is given
      have hcheck := checkPassword_congr (d := d) (getElem?_equals hgiven 1) (getElem?_equals hgiven 2)
      rcases hpassword : d.checkPassword ((sasl.getD [])[1]?.getD .null) ((sasl.getD [])[2]?.getD .null) with _ | _
      · simp only [hpassword] at hr
        cases hr
      · simp only [hpassword] at hr
        cases hr
        exact ⟨_, by rw [hcheck hpassword]; rfl, getElem?_equals hgiven 1⟩

/-- Equal names get the same answers. -/
theorem search_congr {v v' : Value} (h : v.Equals v') (d : Directory) (request : SearchRequest) :
    d.search v request = d.search v' request := by
  have hsame (dn : String) : v.same (.text dn) = v'.same (.text dn) := by
    rw [Bool.eq_iff_iff, Value.same_text_right, Value.same_text_right]
    constructor
    · rintro rfl
      exact (Value.equals_text_left dn v').mp h
    · rintro rfl
      exact (Value.equals_text_right v dn).mp h
  simp only [Directory.search, Directory.read, hsame]

/-! ## §5 Wires -/

@[simp] theorem updateWire_directory (w : World) (n : Nat) (f : Wire → Wire) :
    (w.updateWire n f).directory = w.directory := by
  unfold updateWire
  split <;> rfl

@[simp] theorem updateWire_faults (w : World) (n : Nat) (f : Wire → Wire) :
    (w.updateWire n f).faults = w.faults := by
  unfold updateWire
  split <;> rfl

@[simp] theorem updateWire_events (w : World) (n : Nat) (f : Wire → Wire) :
    (w.updateWire n f).events = w.events := by
  unfold updateWire
  split <;> rfl

@[simp] theorem length_updateWire (w : World) (n : Nat) (f : Wire → Wire) :
    (w.updateWire n f).wires.length = w.wires.length := by
  unfold updateWire
  split <;> simp

/-- A change of a wire is seen on that wire. -/
theorem wire?_updateWire_self (w : World) (n : Nat) (f : Wire → Wire) :
    (w.updateWire n f).wire? n = (w.wire? n).map f := by
  unfold updateWire wire?
  by_cases hn : n = 0
  · simp [hn]
  · simp [hn]

/-- A change of a wire is not seen on any other. -/
theorem wire?_updateWire_of_ne (w : World) {n k : Nat} (h : k ≠ n) (f : Wire → Wire) :
    (w.updateWire n f).wire? k = w.wire? k := by
  unfold updateWire wire?
  by_cases hn : n = 0
  · simp [hn]
  · by_cases hk : k = 0
    · simp [hk]
    · have hne : ¬ n - 1 = k - 1 := by omega
      simp [hn, hk, hne]

/-! ## §6 What the connection on a wire may do -/

/-- The world has moved on by requests on wire `n` alone. -/
structure Follows (n : Nat) (w w' : World) : Prop where
  directory : w'.directory = w.directory
  length : w'.wires.length = w.wires.length
  others : ∀ k, k ≠ n → w'.wire? k = w.wire? k
  quiet : w.faults = [] → w'.faults = []
  events : ∃ requests : List Request, w'.events = w.events ++ requests.map (Event.mk n)

instance (n : Nat) : IsPreorder World (Follows n) where
  refl _ := ⟨rfl, rfl, fun _ _ => rfl, id, [], by simp⟩
  trans _ _ _ h g := by
    obtain ⟨requests, hrequests⟩ := h.events
    obtain ⟨requests', hrequests'⟩ := g.events
    exact ⟨g.directory.trans h.directory, g.length.trans h.length,
      fun k hk => (g.others k hk).trans (h.others k hk), g.quiet ∘ h.quiet,
      requests ++ requests', by simp [hrequests, hrequests']⟩

namespace Follows

variable {n : Nat}

theorem sent (w : World) (call : Call) (request : Request) : Follows n w (w.sent call n request) where
  directory := rfl
  length := rfl
  others _ _ := rfl
  quiet h := by simp [h, Fault.strike]
  events := ⟨[request], rfl⟩

theorem updateWire (w : World) (f : Wire → Wire) : Follows n w (w.updateWire n f) where
  directory := updateWire_directory w n f
  length := length_updateWire w n f
  others _ hk := wire?_updateWire_of_ne w hk f
  quiet h := by rwa [updateWire_faults]
  events := ⟨[], by simp⟩

theorem write (w : World) (m : Message) : Follows n w (w.write m) :=
  ⟨rfl, rfl, fun _ _ => rfl, id, [], by simp [World.write]⟩

/-- What has been recorded stays on record. -/
theorem length_events {w w' : World} (h : Follows n w w') : w.events.length ≤ w'.events.length := by
  obtain ⟨requests, hrequests⟩ := h.events
  simp [hrequests]

end Follows

/-- Sending respects the order of worlds. -/
theorem send_respects (call : Call) (n : Nat) (request : Request) :
    (send call n request).Respects (Follows n) := by
  intro w
  rw [send_eq]
  exact .sent w call request

theorem bindWire_respects (n : Nat) (request : BindRequest) : (bindWire n request).Respects (Follows n) := by
  refine .bind (send_respects _ _ _) fun passed => ?_
  split
  · refine .bind_get fun w => ?_
    split
    · exact .updateWire w _
    · exact refl_of _ w
  · exact .pure _

theorem unbindWire_respects (n : Nat) : (unbindWire n).Respects (Follows n) :=
  .bind (.modify fun w => .updateWire w _) fun _ => .bind (send_respects _ _ _) fun _ => .pure _

theorem say_respects (n : Nat) (level : Level) (source : Source) (text : String) :
    (say level source text).Respects (Follows n) :=
  .modify fun w => .write w _

end World

end DirectoryLogin
