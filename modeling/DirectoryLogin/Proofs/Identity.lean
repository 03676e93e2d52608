import DirectoryLogin.Bind
import DirectoryLogin.Password
import Mathlib.Data.List.Forall2
import Mathlib.Data.Option.Basic
/-!
# Identities and the Binds that Establish Them

A connection binds again only if the identity in its environment is not the same as the bound one. This is sound
because the request that an environment binds with is a function of that identity alone, and the same identities
give requests with the same fields.

- `BindRequest.ofIdentity` is the request of an identity; `ofEnvironment_eq_ofIdentity` ties it to environments.
- `ofIdentity_congr`: the same identities give the same request.
-/

namespace DirectoryLogin

/-! ## §1 Values that are the same -/

namespace Value

/-- Only a text is the same as a text. -/
@[simp] theorem same_text_right (v : Value) (t : String) : v.same (.text t) = true ↔ v = .text t := by
  cases v <;> simp [same, number?]

/-- A text is the same as nothing but itself. -/
@[simp] theorem same_text_left (t : String) (v : Value) : (text t).same v = true ↔ v = .text t := by
  cases v with
  | text s =>
    simp only [same, beq_iff_eq, text.injEq]
    exact eq_comm
  | _ => simp [same, number?]

/-- A broken text is the same as nothing but itself. -/
@[simp] theorem same_broken_right (v : Value) (b : Text.Broken) : v.same (.broken b) = true ↔ v = .broken b := by
  cases v <;> simp [same, number?]

/-- A broken text is the same as nothing but itself, seen from the other side. -/
@[simp] theorem same_broken_left (b : Text.Broken) (v : Value) : (broken b).same v = true ↔ v = .broken b := by
  cases v with
  | broken c =>
    simp only [same, beq_iff_eq, broken.injEq]
    exact eq_comm
  | _ => simp [same, number?]

/-- A password is the same as nothing but itself. -/
@[simp] theorem same_password_right (v : Value) (p : Password) : v.same p.value = true ↔ v = p.value := by
  cases p with
  | text t => exact same_text_right v t
  | broken b => exact same_broken_right v b

/-- A password is the same as nothing but itself, seen from the other side. -/
@[simp] theorem same_password_left (p : Password) (v : Value) : p.value.same v = true ↔ v = p.value := by
  cases p with
  | text t => exact same_text_left t v
  | broken b => exact same_broken_left b v

/-- Nothing but the absent value is the same as it. -/
@[simp] theorem same_null_right (v : Value) : v.same .null = true ↔ v = .null := by
  cases v <;> simp [same, number?]

/-- The absent value is the same as nothing else. -/
@[simp] theorem same_null_left (v : Value) : null.same v = true ↔ v = .null := by
  cases v <;> simp [same, number?]

/-- Two values are equal if they are one value, or one of them passes the comparison with the other. The comparison
alone is neither reflexive nor symmetric on objects in which a name occurs twice. -/
def Equals (v w : Value) : Prop :=
  v = w ∨ v.same w = true ∨ w.same v = true

/-- Every value equals itself. -/
theorem Equals.refl (v : Value) : v.Equals v :=
  .inl rfl

/-- Equality may be read from either side. -/
theorem Equals.symm {v w : Value} (h : v.Equals w) : w.Equals v :=
  h.imp Eq.symm Or.symm

/-- What passes the comparison is equal. -/
theorem equals_of_same {v w : Value} (h : v.same w = true) : v.Equals w :=
  .inr (.inl h)

/-- A text equals only itself. -/
@[simp] theorem equals_text_right (v : Value) (t : String) : v.Equals (.text t) ↔ v = .text t := by
  simp [Equals]

/-- A text equals only itself, seen from the other side. -/
@[simp] theorem equals_text_left (t : String) (v : Value) : (text t).Equals v ↔ v = .text t :=
  ⟨fun h => (equals_text_right v t).mp h.symm, fun h => Equals.symm ((equals_text_right v t).mpr h)⟩

/-- The absent value equals only itself. -/
@[simp] theorem equals_null_left (v : Value) : null.Equals v ↔ v = .null := by
  simp only [Equals, same_null_left, same_null_right, or_self]
  exact ⟨fun h => h.elim Eq.symm id, .inr⟩

/-- A whole number is zero exactly if its mantissa is. -/
theorem truncate_eq_zero_iff {x : Binary64} (h : x.isWhole = true) : x.truncate = 0 ↔ x.mantissa = 0 := by
  have hpow (n : Nat) : 0 < Binary64.twoTo n := Nat.pow_pos (by decide)
  have hsign (n : Nat) : (if x.negative then -(n : Int) else n) = 0 ↔ n = 0 := by
    split <;> simp
  unfold Binary64.truncate
  rw [hsign]
  split
  · rename_i hneg
    -- no fraction is lost, so the quotient is zero only for zero
    have hdvd : Binary64.twoTo (-x.exponent).toNat ∣ x.mantissa := by
      apply Nat.dvd_of_mod_eq_zero
      simpa [Binary64.isWhole, Int.not_le.mpr hneg] using h
    obtain ⟨q, hq⟩ := hdvd
    rw [hq, Nat.mul_div_cancel_left q (hpow _), Nat.mul_eq_zero]
    exact ⟨.inr, fun hzero => hzero.resolve_left (Nat.ne_of_gt (hpow _))⟩
  · rw [Nat.mul_eq_zero]
    exact ⟨fun hzero => hzero.resolve_right (Nat.ne_of_gt (hpow _)), .inl⟩

/-- A value that stands for a number is given unless the number is zero. -/
theorem isGiven_eq_of_number? {v : Value} {n : Int ⊕ Binary64} (h : v.number? = some n) :
    v.isGiven = true ↔ n ≠ .inl 0 := by
  cases v with
  | flag b => cases b <;> cases h <;> simp [isGiven]
  | integer m =>
    cases h
    simp [isGiven]
  | real x =>
    simp only [number?, Binary64.toInt?] at h
    by_cases hwhole : x.isWhole = true
    · simp only [hwhole, if_true] at h
      cases h
      simp [isGiven, truncate_eq_zero_iff hwhole]
    · simp only [hwhole] at h
      cases h
      -- zero has no fraction
      have hzero : x.mantissa ≠ 0 := by
        intro hm
        simp [Binary64.isWhole, hm] at hwhole
      simp [isGiven, hzero]
  | _ => cases h

/-- The same values are given or not together. -/
theorem isGiven_of_same {v w : Value} (h : v.same w = true) : v.isGiven = w.isGiven := by
  rw [same.eq_def] at h
  split at h
  · rfl
  · rw [eq_of_beq h]
  · rfl
  · rw [eq_of_beq h]
  · -- lists are given unless they are empty, and so are records
    rename_i xs ys
    cases xs <;> cases ys <;> simp_all [sameItems, isGiven]
  · rename_i fs gs
    have hlen : fs.length = gs.length := by
      simp only [Bool.and_eq_true, beq_iff_eq] at h
      exact h.1
    cases fs <;> cases gs <;> simp_all [isGiven]
  · split at h
    · rename_i m n hv hw
      -- numbers are the same only if both are whole or both have a fraction
      have hmn : m = n := by
        rcases m with m | m <;> rcases n with n | n
        · exact congrArg Sum.inl (eq_of_beq (show (m == n) = true from h))
        · cases h
        · cases h
        · exact congrArg Sum.inr (eq_of_beq (show (m == n) = true from h))
      rw [Bool.eq_iff_iff, isGiven_eq_of_number? hv, isGiven_eq_of_number? hw, hmn]
    · cases h

/-- Equal values are given or not together. -/
theorem Equals.isGiven_eq {v w : Value} (h : v.Equals w) : v.isGiven = w.isGiven :=
  h.elim (congrArg isGiven) fun hsame => hsame.elim isGiven_of_same fun hback => (isGiven_of_same hback).symm

/-- The same values are present or not together. -/
theorem isPresent_of_same {v w : Value} (h : v.same w = true) : v.isPresent = w.isPresent := by
  cases v <;> cases w <;> simp_all [isPresent, same, number?]

/-- Equal values are present or not together. -/
theorem Equals.isPresent_eq {v w : Value} (h : v.Equals w) : v.isPresent = w.isPresent :=
  h.elim (congrArg isPresent) fun hsame => hsame.elim isPresent_of_same fun hback => (isPresent_of_same hback).symm

end Value

/-! ## §2 Identities that are the same -/

/-- Two identities have equal entries. -/
structure Identity.Matches (i j : Identity) : Prop where
  principal : i.principal.Equals j.principal
  credentials : i.credentials.Equals j.credentials
  authentication : i.authentication.Equals j.authentication
  delegated : i.delegated.Equals j.delegated

/-- Every identity matches itself. -/
theorem Identity.Matches.refl (i : Identity) : i.Matches i :=
  ⟨.refl _, .refl _, .refl _, .refl _⟩

/-- Matching may be read from either side. -/
theorem Identity.Matches.symm {i j : Identity} (h : i.Matches j) : j.Matches i :=
  ⟨h.principal.symm, h.credentials.symm, h.authentication.symm, h.delegated.symm⟩

/-- What passes the comparison matches. -/
theorem Identity.matches_of_same {i j : Identity} (h : i.same j = true) : i.Matches j := by
  simp only [Identity.same, Bool.and_eq_true] at h
  obtain ⟨⟨⟨hp, hc⟩, ha⟩, hd⟩ := h
  exact ⟨Value.equals_of_same hp, Value.equals_of_same hc, Value.equals_of_same ha, Value.equals_of_same hd⟩

/-- A value is a text, well formed or not, or absent. -/
def Value.IsTextual (v : Value) : Prop :=
  v = .null ∨ ∃ p : Password, v = p.value

/-- Every entry of the identity is a text, or absent. All identities that come from settings and from presented
passwords are of this kind. -/
structure Identity.IsTextual (i : Identity) : Prop where
  principal : i.principal.IsTextual
  credentials : i.credentials.IsTextual
  authentication : i.authentication.IsTextual
  delegated : i.delegated.IsTextual

/-- A text or an absent value equals only itself. -/
theorem Value.IsTextual.eq_of_equals {v w : Value} (hv : v.IsTextual) (h : v.Equals w) : w = v := by
  rcases hv with rfl | ⟨p, rfl⟩
  · exact (Value.equals_null_left w).mp h
  · rcases h with rfl | h | h
    · rfl
    · exact (Value.same_password_left p w).mp h
    · exact (Value.same_password_right w p).mp h

/-- An identity of texts matches only itself. -/
theorem Identity.IsTextual.eq_of_matches {i j : Identity} (hi : i.IsTextual) (h : i.Matches j) : j = i := by
  cases i
  cases j
  simp only [Identity.mk.injEq]
  exact ⟨hi.principal.eq_of_equals h.principal, hi.credentials.eq_of_equals h.credentials,
    hi.authentication.eq_of_equals h.authentication, hi.delegated.eq_of_equals h.delegated⟩

theorem Value.IsTextual.same_self {v : Value} (hv : v.IsTextual) : v.same v = true := by
  rcases hv with rfl | ⟨p, rfl⟩
  · rfl
  · exact (Value.same_password_left p _).mpr rfl

/-- A text that may be absent. -/
theorem Value.isTextual_ofOption (o : Option String) : (Value.ofOption o).IsTextual := by
  cases o with
  | none => exact .inl rfl
  | some t => exact .inr ⟨.text t, rfl⟩

/-- An identity of texts passes the comparison with itself. -/
theorem Identity.IsTextual.same_self {i : Identity} (hi : i.IsTextual) : i.same i = true := by
  simp only [Identity.same, hi.principal.same_self, hi.credentials.same_self, hi.authentication.same_self,
    hi.delegated.same_self, Bool.and_self]

/-! ## §3 The request of an identity -/

/-- An environment that says nothing but who to bind as. -/
def Identity.toEnvironment (i : Identity) : Environment :=
  [(Environment.principal, i.principal), (Environment.credentials, i.credentials),
    (Environment.authentication, i.authentication), (Environment.delegated, i.delegated)]

/-- The request that binds as an identity. -/
def BindRequest.ofIdentity (i : Identity) : Except Failure BindRequest :=
  ofEnvironment i.toEnvironment

/-- Two bind requests send equal values in the same way. -/
structure BindRequest.Equals (r q : BindRequest) : Prop where
  user : r.user.Equals q.user
  password : r.password.Equals q.password
  authentication : r.authentication = q.authentication
  mechanism : r.mechanism = q.mechanism
  saslCredentials : Option.Rel (List.Forall₂ Value.Equals) r.saslCredentials q.saslCredentials

namespace BindRequest

/-- An environment binds with the request of its identity: nothing else in it matters. -/
theorem ofEnvironment_eq_ofIdentity (e : Environment) : ofEnvironment e = ofIdentity e.identity := rfl

/-- The mechanism of an identity; without one, it depends on whether there is a name to bind as. -/
def mechanismOf (i : Identity) : Value :=
  match i.authentication with
  | .null => .text (if i.principal.isGiven then "simple" else "none")
  | v => v

/-- Matching identities have equal mechanisms. -/
theorem mechanismOf_equals {i j : Identity} (h : i.Matches j) : (mechanismOf i).Equals (mechanismOf j) := by
  obtain ⟨hp, -, ha, -⟩ := h
  obtain ⟨ip, ic, ia, id⟩ := i
  obtain ⟨jp, jc, ja, jd⟩ := j
  simp only [mechanismOf]
  cases ia with
  | null =>
    obtain rfl := (Value.equals_null_left ja).mp ha
    simp [hp.isGiven_eq]
  | text t =>
    obtain rfl := (Value.equals_text_left t ja).mp ha
    exact .refl _
  | _ =>
    -- nothing but null is equal to null
    cases ja with
    | null => simp [Value.Equals, Value.same, Value.number?] at ha
    | _ => exact ha

/-- **The same identities give the same request**: what a bound identity was bound with is what any identity that
matches it binds with. -/
theorem ofIdentity_congr {i j : Identity} (h : i.Matches j) {r : BindRequest} (hr : ofIdentity i = .ok r) :
    ∃ q, ofIdentity j = .ok q ∧ r.Equals q := by
  have hm := mechanismOf_equals h
  have hi : i.toEnvironment.mechanism = mechanismOf i := rfl
  have hj : j.toEnvironment.mechanism = mechanismOf j := rfl
  simp only [ofIdentity, ofEnvironment, hi, hj] at hr ⊢
  rcases hname : mechanismOf i with _ | _ | _ | _ | name | _ | _ | _ | _
  -- only a text can be read as a mechanism
  case text =>
    rw [hname, Value.equals_text_left] at hm
    simp only [hname, hm] at hr ⊢
    by_cases hnone : (Text.lower name == "none") = true
    · rw [if_pos hnone] at hr ⊢
      cases hr
      exact ⟨_, rfl, .refl _, .refl _, rfl, rfl, .none⟩
    rw [if_neg hnone] at hr ⊢
    by_cases hsimple : (Text.lower name == "simple") = true
    · rw [if_pos hsimple] at hr ⊢
      cases hr
      exact ⟨_, rfl, h.principal, h.credentials, rfl, rfl, .none⟩
    rw [if_neg hsimple] at hr ⊢
    by_cases hgssapi : (Text.upper name == "GSSAPI") = true
    · rw [if_pos hgssapi] at hr ⊢
      cases hr
      refine ⟨_, rfl, .refl _, .refl _, rfl, rfl, ?_⟩
      change Option.Rel _ (if i.delegated.isPresent then some [.null, .null, i.delegated] else none)
        (if j.delegated.isPresent then some [.null, .null, j.delegated] else none)
      rw [h.delegated.isPresent_eq]
      split
      · exact .some (.cons (.refl _) (.cons (.refl _) (.cons h.delegated .nil)))
      · exact .none
    rw [if_neg hgssapi] at hr ⊢
    by_cases hdigest : (Text.upper name == "DIGEST-MD5") = true
    · rw [if_pos hdigest] at hr ⊢
      cases hr
      exact ⟨_, rfl, .refl _, .refl _, rfl, rfl,
        .some (.cons (.refl _) (.cons h.principal (.cons h.credentials (.cons (.refl _) .nil))))⟩
    · rw [if_neg hdigest] at hr
      cases hr
  all_goals
    rw [hname] at hr
    cases hr

end BindRequest

end DirectoryLogin
