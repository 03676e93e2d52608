import DirectoryLogin.Proofs.Directory.Texts
import DirectoryLogin.Proofs.Orderly
import DirectoryLogin.Proofs.Passwords
import DirectoryLogin.Proofs.Session.Coupling
/-!
# Two Runs with Two Unknown Passwords

Take two passwords that a directory does not know, and two runs that differ in nothing but that one of them has the
first password where the other has the second. Values of the two runs are `Swapped`; environments, identities and
worlds are twins. The requests on record differ, since a bind carries the password. Nothing else does: no comparison
tells the passwords apart, and the directory refuses or accepts the same binds.

- `Swapped.same_eq`, `Environment.Twins.request`: what depends on a password.
- `World.bindWire_coupled`, `World.searchWire_coupled`: the requests on a wire, side by side.
-/

namespace DirectoryLogin

open Session (Coupled EndsAlike)

/-! ## §1 Values -/

/-- The same in both runs and neither `a` nor `b`, or `a` in the first run and `b` in the second. -/
inductive Swapped {α : Type} (a b : α) : α → α → Prop
  | same {x : α} (ha : x ≠ a) (hb : x ≠ b) : Swapped a b x x
  | swapped : Swapped a b a b

namespace Swapped

variable {α β : Type} {a b x y : α}

theorem map {f : α → β} (hf : ∀ x y, f x = f y → x = y) (h : Swapped a b x y) : Swapped (f a) (f b) (f x) (f y) := by
  cases h with
  | same ha hb => exact .same (fun h => ha (hf _ _ h)) fun h => hb (hf _ _ h)
  | swapped => exact .swapped

/-- An absent value is replaced by another one. -/
theorem getD {x y : Option α} (h : Swapped (some a) (some b) x y) {d : α} (ha : d ≠ a) (hb : d ≠ b) :
    Swapped a b (x.getD d) (y.getD d) := by
  cases h with
  | @same x hxa hxb =>
    rcases x with _ | v
    · exact .same ha hb
    · exact .same (fun h => hxa (congrArg some h)) fun h => hxb (congrArg some h)
  | swapped => exact .swapped

theorem or {x y x' y' : Option α} (h : Swapped (some a) (some b) x y) (h' : Swapped (some a) (some b) x' y') :
    Swapped (some a) (some b) (x.or x') (y.or y') := by
  cases h with
  | @same x hxa hxb =>
    rcases x with _ | v
    · exact h'
    · exact .same hxa hxb
  | swapped => exact .swapped

theorem ofPassword {p q : Password} {x y : Option Password} (h : Swapped (some p) (some q) x y) :
    Swapped p.value q.value (Value.ofPassword x) (Value.ofPassword y) :=
  h.map (f := Value.ofPassword) fun _ _ hxy => Value.ofPassword_injective hxy

/-- **No comparison tells the passwords apart**: values that were the same in one run are the same in the other. -/
theorem same_eq {p q : Password} {v w v' w' : Value} (h : Swapped p.value q.value v w)
    (h' : Swapped p.value q.value v' w') : v.same v' = w.same w' := by
  rw [Bool.eq_iff_iff]
  -- a password is the same as nothing but itself, and what both runs share is neither password
  cases h with
  | same ha hb =>
    cases h' with
    | same => rfl
    | swapped => simp [ha, hb]
  | swapped =>
    cases h' with
    | same ha hb => simp [ha, hb]
    | swapped => simp

end Swapped

/-! ## §2 Directories -/

/-- A password that the directory does not know. -/
structure Directory.Unaware (d : Directory) (password : Password) : Prop where
  given : password ≠ ""
  unknown : ∀ text ∈ d.texts, password ≠ text

/-- The directory checks two passwords it does not know with the same result. -/
theorem Directory.checkPassword_swapped {d : Directory} {p q : Password} (hp : d.Unaware p) (hq : d.Unaware q)
    (user : Value) {v w : Value} (h : Swapped p.value q.value v w) :
    d.checkPassword user v = d.checkPassword user w := by
  have hrejects {password : Password} (hpassword : d.Unaware password) :
      (d.passwordOf? user).any (fun stored => password.value.same (.text stored)) = false := by
    rcases hstored : d.passwordOf? user with _ | stored
    · rfl
    -- a password that is accepted is one that the directory stores
    refine Bool.eq_false_iff.mpr fun hsame => ?_
    rw [Option.any_some, Value.same_text_right] at hsame
    have hknown := Directory.mem_texts_of_passwordOf? hstored
    exact hpassword.unknown stored hknown (Password.value_injective hsame)
  cases h with
  | same => rfl
  | swapped =>
    have hgiven {password : Password} (hpassword : d.Unaware password) : password.value.isGiven = true :=
      Password.isGiven_value_iff.mpr hpassword.given
    rw [checkPassword, checkPassword, hgiven hp, hgiven hq, hrejects hp, hrejects hq]

/-! ## §3 Identities and environments -/

section Twins

variable (p q : Password)

/-- Two identities that differ in the password at most. -/
structure Identity.Twins (i j : Identity) : Prop where
  principal : j.principal = i.principal
  credentials : Swapped p.value q.value i.credentials j.credentials
  authentication : j.authentication = i.authentication
  delegated : j.delegated = i.delegated

/-- Two environments that differ in the password at most. -/
structure Environment.Twins (e f : Environment) : Prop where
  others : ∀ name, name ≠ credentials → f.get? name = e.get? name
  credentials : Swapped (some p.value) (some q.value) (e.get? credentials) (f.get? credentials)

/-- Two bind requests that no directory tells apart, unless it knows one of the passwords. -/
def BindRequest.Twins (r r' : BindRequest) : Prop :=
  ∀ d : Directory, d.Unaware p → d.Unaware q → World.checkBind d r = World.checkBind d r'

/-- The service of these settings has neither of the passwords. -/
def Settings.Spares (s : Settings) : Prop :=
  ∀ text, s.connectionPassword = some text → p ≠ text ∧ q ≠ text

end Twins

variable {p q : Password}

/-- The password of the service is in both runs what it is. -/
theorem Settings.Spares.credentials {s : Settings} (hs : s.Spares p q) :
    Swapped (some p.value) (some q.value) (s.connectionPassword.map Value.text)
      (s.connectionPassword.map Value.text) := by
  rcases hservice : s.connectionPassword with _ | text
  · exact .same nofun nofun
  · obtain ⟨hp, hq⟩ := hs text hservice
    have hne {password : Password} (h : password ≠ text) : some (Password.text text).value ≠ some password.value :=
      fun heq => h (Password.value_injective (Option.some.inj heq)).symm
    exact .same (hne hp) (hne hq)

theorem Identity.Twins.same_eq {i j i' j' : Identity} (h : i.Twins p q j) (h' : i'.Twins p q j') :
    i.same i' = j.same j' := by
  rw [Identity.same, Identity.same, h.principal, h'.principal, h.authentication, h'.authentication, h.delegated,
    h'.delegated, h.credentials.same_eq h'.credentials]

namespace Environment.Twins

variable {e f e' f' : Environment}

theorem value_eq (h : e.Twins p q f) {name : String} (hname : name ≠ Environment.credentials) :
    f.value name = e.value name := by
  rw [value, value, h.others name hname]

theorem value_credentials (h : e.Twins p q f) :
    Swapped p.value q.value (e.value Environment.credentials) (f.value Environment.credentials) :=
  h.credentials.getD p.null_ne_value q.null_ne_value

theorem identity (h : e.Twins p q f) : e.identity.Twins p q f.identity where
  principal := h.value_eq (by decide)
  credentials := h.value_credentials
  authentication := h.value_eq (by decide)
  delegated := h.value_eq (by decide)

theorem throwsReferrals_eq (h : e.Twins p q f) : f.throwsReferrals = e.throwsReferrals := by
  rw [throwsReferrals, throwsReferrals, h.value_eq (by decide)]

theorem dereference_eq (h : e.Twins p q f) : f.dereference = e.dereference := by
  rw [dereference, dereference, h.value_eq (by decide)]

/-! ### Editing twins -/

/-- The entries of one name are replaced, and the others stay. -/
theorem edit (h : e.Twins p q f) {name : String} {x y : Option Value}
    (he : ∀ other, e'.get? other = if other = name then x else e.get? other)
    (hf : ∀ other, f'.get? other = if other = name then y else f.get? other)
    (hothers : name ≠ Environment.credentials → y = x)
    (hcredentials : name = Environment.credentials → Swapped (some p.value) (some q.value) x y) :
    e'.Twins p q f' where
  -- an entry under another name: the two environments agree on it
  others other hother := by
    rw [he, hf]
    split
    · rename_i hname
      exact hothers (hname ▸ hother)
    · exact h.others other hother
  -- the credentials are the one place where the two may differ
  credentials := by
    rw [he, hf]
    split
    · rename_i hname
      exact hcredentials hname.symm
    · exact h.credentials

theorem insert (h : e.Twins p q f) {name : String} (hname : name ≠ Environment.credentials) (v : Value) :
    (e.insert name v).Twins p q (f.insert name v) :=
  h.edit (fun other => get?_insert e name other v) (fun other => get?_insert f name other v) (fun _ => rfl)
    fun heq => absurd heq hname

theorem insert_credentials (h : e.Twins p q f) {v w : Value} (hvw : Swapped p.value q.value v w) :
    (e.insert Environment.credentials v).Twins p q (f.insert Environment.credentials w) :=
  h.edit (fun other => get?_insert e _ other v) (fun other => get?_insert f _ other w) (fun hne => absurd rfl hne)
    fun _ => hvw.map fun _ _ => Option.some.inj

theorem erase (h : e.Twins p q f) (name : String) : (e.erase name).Twins p q (f.erase name) :=
  h.edit (fun other => get?_erase e name other) (fun other => get?_erase f name other) (fun _ => rfl)
    fun _ => .same nofun nofun

theorem restore (h : e.Twins p q f) {name : String} (h' : e'.Twins p q f') :
    (e.restore name (some e')).Twins p q (f.restore name (some f')) :=
  h.edit (fun other => get?_restore e name other e') (fun other => get?_restore f name other f')
    (fun hname => h'.others name hname) fun hname => hname ▸ h'.credentials

theorem asUser (h : e.Twins p q f) (name : Option String) {x y : Option Password}
    (hxy : Swapped (some p) (some q) x y) : (e.asUser name x).Twins p q (f.asUser name y) :=
  (h.insert (by decide) _).insert_credentials hxy.ofPassword

theorem forCheck (h : e.Twins p q f) (name : Option String) {x y : Option Password}
    (hxy : Swapped (some p) (some q) x y) : (e.forCheck name x).Twins p q (f.forCheck name y) := by
  unfold Environment.forCheck
  rw [h.value_eq (by decide)]
  split
  · exact (h.asUser name hxy).erase _
  · exact h.asUser name hxy

theorem asService (h : e.Twins p q f) {s : Settings} (hs : s.Spares p q) :
    (e.asService s).Twins p q (f.asService s) := by
  have hprincipal : (e.assign Environment.principal s.connectionName).Twins p q
      (f.assign Environment.principal s.connectionName) :=
    h.edit (fun other => get?_assign e _ other _) (fun other => get?_assign f _ other _) (fun _ => rfl)
      fun heq => absurd heq (by decide)
  exact hprincipal.edit (fun other => get?_assign _ _ other _) (fun other => get?_assign _ _ other _) (fun _ => rfl)
    fun _ => hs.credentials

/-! ### Opening environments -/

/-- The service's environment, in both runs. -/
theorem ofSettings {s : Settings} (hs : s.Spares p q) (attempt : Int) :
    (Environment.ofSettings s attempt).Twins p q (Environment.ofSettings s attempt) where
  others _ _ := rfl
  credentials := by
    rw [get?_ofSettings_credentials]
    exact hs.credentials

theorem withoutSecurity (h : e.Twins p q f) :
    (Connection.withoutSecurity e).Twins p q (Connection.withoutSecurity f) :=
  (((h.erase _).erase _).erase _).erase _

theorem restoreSecurity (h : e.Twins p q f) (h' : e'.Twins p q f') :
    (Connection.restoreSecurity e e').Twins p q (Connection.restoreSecurity f f') where
  others other hother := by
    rw [get?_restoreSecurity, get?_restoreSecurity, h.others other hother, h'.others other hother]
  credentials := by
    have hheld : Environment.credentials ∈ securityNames := by decide
    rw [get?_restoreSecurity, get?_restoreSecurity, if_pos hheld, if_pos hheld]
    exact h'.credentials.or h.credentials

/-! ### Bind requests -/

/-- **The binds of twins** are refused or accepted together. -/
theorem request (h : e.Twins p q f) :
    EndsAlike (BindRequest.Twins p q) (BindRequest.ofEnvironment e) (BindRequest.ofEnvironment f) := by
  have hmechanism : f.mechanism = e.mechanism := by
    rw [mechanism, mechanism, h.value_eq (by decide), h.value_eq (by decide)]
  have hprincipal : f.value principal = e.value principal := h.value_eq (by decide)
  have hdelegated : f.value delegated = e.value delegated := h.value_eq (by decide)
  rw [BindRequest.ofEnvironment, BindRequest.ofEnvironment, hmechanism, hprincipal, hdelegated]
  -- by the mechanism: only a simple bind and a digest carry the password
  split
  · split
    · exact .ok fun _ _ _ => rfl
    split
    · refine .ok fun d hp hq => ?_
      simp only [World.checkBind, Directory.checkPassword_swapped hp hq _ h.value_credentials]
    split
    · exact .ok fun _ _ _ => rfl
    split
    · refine .ok fun d hp hq => ?_
      have hcheck := Directory.checkPassword_swapped hp hq (e.value principal) h.value_credentials
      simp [World.checkBind, hcheck]
    · exact .error _
  · exact .error _

end Environment.Twins

/-! ## §4 Worlds -/

namespace World

/-- Two worlds that differ in the requests on record at most, over a directory that knows neither of the passwords. -/
structure Twins (p q : Password) (w w' : World) : Prop where
  first : w.directory.Unaware p
  second : w.directory.Unaware q
  others : ∃ events, w' = { w with events := events }

/-- The same in both runs, and none of its texts is one of the passwords. -/
structure Public {α : Type} (p q : Password) (texts : α → List String) (a b : α) : Prop where
  same : b = a
  first : ∀ text ∈ texts a, p ≠ text
  second : ∀ text ∈ texts a, q ≠ text

theorem Public.of_subset {α β : Type} {texts : α → List String} {texts' : β → List String} {a a' : α} {b : β}
    (h : Public p q texts a a') (hsub : texts' b ⊆ texts a) : Public p q texts' b b :=
  ⟨rfl, fun t ht => h.first t (hsub ht), fun t ht => h.second t (hsub ht)⟩

variable {w w' : World}

theorem Twins.updateWire (h : w.Twins p q w') (n : Nat) (f : Wire → Wire) :
    (w.updateWire n f).Twins p q (w'.updateWire n f) := by
  obtain ⟨hp, hq, events, rfl⟩ := h
  have hdirectory := updateWire_directory w n f
  refine ⟨hdirectory ▸ hp, hdirectory ▸ hq, events, ?_⟩
  unfold World.updateWire
  split
  · rfl
  · rfl

/-- A request is on its way, whatever it is. -/
theorem send_coupled (call : Call) (n : Nat) (request request' : Request) :
    Coupled (Twins p q) Eq (send call n request) (send call n request') := by
  rintro w _ ⟨hp, hq, events, rfl⟩
  rw [send_eq, send_eq]
  exact ⟨.of_eq (fun _ _ => rfl) rfl, hp, hq, _, rfl⟩

theorem newWire_coupled : Coupled (Twins p q) Eq newWire newWire := by
  rintro w _ ⟨hp, hq, events, rfl⟩
  exact ⟨.ok rfl, hp, hq, events, rfl⟩

theorem openWire_coupled (n : Nat) (request : OpenRequest) :
    Coupled (Twins p q) Eq (openWire n request) (openWire n request) := by
  have hopened : Coupled (Twins p q) Eq
      (modify (·.updateWire n fun wire => { wire with isOpen := true }) : Session World Unit)
      (modify (·.updateWire n fun wire => { wire with isOpen := true })) := .modify fun _ _ h => h.updateWire n _
  refine .bind_same (send_coupled _ _ _ _) fun _ => .bind_get ?_
  rintro w _ ⟨-, -, events, rfl⟩
  dsimp only
  split
  · exact .bind_same (.throw _) fun _ => hopened
  · exact hopened

/-- **Binding**: the directory's answer is the same. -/
theorem bindWire_coupled (n : Nat) {request request' : BindRequest} (h : request.Twins p q request') :
    Coupled (Twins p q) Eq (bindWire n request) (bindWire n request') := by
  refine .bind_same (send_coupled _ _ _ _) fun passed => ?_
  split
  · refine .bind_get ?_
    rintro w _ ⟨hp, hq, events, rfl⟩
    dsimp only
    rw [h w.directory hp hq]
    split
    · exact .bind_same (.modify fun _ _ h => h.updateWire n _) fun _ => .pure rfl
    · exact .throw _
  · exact .pure rfl

/-- **Searching**: the answer is the same, and neither password is in it. -/
theorem searchWire_coupled (n : Nat) (request : SearchRequest) :
    Coupled (Twins p q) (Public p q Response.texts) (searchWire n request) (searchWire n request) := by
  rintro w _ ⟨hp, hq, events, rfl⟩
  have hwire : World.wire? { w with events := events } n = w.wire? n := rfl
  -- the user on the wire is the same, so the directory is asked the same
  rw [searchWire_eq, searchWire_eq, hwire]
  dsimp only
  rcases Fault.verdict (Fault.strike .search w.faults).1 with e | _
  · exact ⟨.error e, hp, hq, _, rfl⟩
  generalize hanswer : w.directory.search _ request = answer
  rcases answer with e | response
  · exact ⟨.error _, hp, hq, _, rfl⟩
  · have htexts := Directory.texts_search hanswer
    exact ⟨.ok ⟨rfl, fun t ht => hp.unknown t (htexts ht), fun t ht => hq.unknown t (htexts ht)⟩, hp, hq, _, rfl⟩

theorem unbindWire_coupled (n : Nat) : Coupled (Twins p q) Eq (unbindWire n) (unbindWire n) :=
  .bind_same (.modify fun _ _ h => h.updateWire n _) fun _ => .bind_same (send_coupled _ _ _ _) fun _ => .pure rfl

theorem say_coupled (level : Level) (source : Source) (text : String) :
    Coupled (Twins p q) Eq (say level source text) (say level source text) := by
  refine .modify ?_
  rintro w _ ⟨hp, hq, events, rfl⟩
  exact ⟨hp, hq, events, rfl⟩

end World

end DirectoryLogin
