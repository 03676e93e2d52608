import DirectoryLogin.Proofs.Text.Digits
import DirectoryLogin.Proofs.Text.Lower
import DirectoryLogin.Url.Split
import Mathlib.Data.List.TakeWhile
/-!
# The Parts of a URL

What a text is split into, and what can be read of the parts. The scheme, the authority and the path of a URL that is
put together of them come back as they were, as long as nothing in them is a delimiter.

- `Url.split_parts`: a URL that is put together of its parts.
- `Url.path_of_split`: a path behind an authority begins with a slash.
- `Url.host?_ne_empty`, `Url.port?_le`, `Url.port?_eq_error_iff`: the hosts and ports that are read.
-/

namespace DirectoryLogin.Url

/-! ## §1 Cutting -/

theorem cutAt_fst {mark : Char} {cs : List Char} (h : ∀ c ∈ cs, c ≠ mark) : (cutAt mark cs).1 = cs :=
  List.takeWhile_eq_self_iff.mpr fun c hc => bne_iff_ne.mpr (h c hc)

/-- Nothing is cut where the mark does not occur. -/
theorem cutAt_of_forall_ne {mark : Char} {cs : List Char} (h : ∀ c ∈ cs, c ≠ mark) : cutAt mark cs = (cs, none) := by
  have hrest : cs.dropWhile (· != mark) = [] := List.dropWhile_eq_nil_iff.mpr fun c hc => bne_iff_ne.mpr (h c hc)
  rw [cutAt, hrest, List.takeWhile_eq_self_iff.mpr fun c hc => bne_iff_ne.mpr (h c hc)]
  rfl

/-- What stands before the first mark, and what stands behind it. -/
theorem cutAt_append {mark : Char} {cs : List Char} (h : ∀ c ∈ cs, c ≠ mark) (rest : List Char) :
    cutAt mark (cs ++ mark :: rest) = (cs, some rest) := by
  have hne : ∀ c ∈ cs, (c != mark) = true := fun c hc => bne_iff_ne.mpr (h c hc)
  rw [cutAt, List.takeWhile_append_of_pos hne, List.dropWhile_append_of_pos hne,
    List.takeWhile_cons_of_neg (by simp), List.dropWhile_cons_of_neg (by simp), List.append_nil]
  rfl

theorem afterLast_of_forall_ne {mark : Char} {cs : List Char} (h : ∀ c ∈ cs, c ≠ mark) : afterLast mark cs = cs := by
  have hreverse : cs.reverse.takeWhile (· != mark) = cs.reverse :=
    List.takeWhile_eq_self_iff.mpr fun c hc => bne_iff_ne.mpr (h c (List.mem_reverse.mp hc))
  rw [afterLast, hreverse, List.reverse_reverse]

/-! ## §2 Splitting -/

/-- **A URL that is put together of its parts**: the scheme, an authority without a fault and without a character that
ends it, and a path without query and fragment. -/
theorem split_parts {authority path : List Char}
    (hauthority : ∀ c ∈ authority, isRemoved c = false ∧ endsAuthority c = false)
    (hnofault : authorityFault? authority = none)
    (hpath : ∀ c ∈ path, isRemoved c = false ∧ c ≠ '#' ∧ c ≠ '?') :
    split (String.ofList ("ldap://".toList ++ (authority ++ '/' :: path))) = .ok ⟨"ldap", authority, '/' :: path⟩ := by
  -- the text begins at once, and nothing is taken out of it
  have hstart : ("ldap://".toList ++ (authority ++ '/' :: path)).dropWhile isLeading =
      "ldap://".toList ++ (authority ++ '/' :: path) := rfl
  have hkept : ("ldap://".toList ++ (authority ++ '/' :: path)).filter (!isRemoved ·) =
      "ldap://".toList ++ (authority ++ '/' :: path) := by
    have hauthority' : authority.filter (!isRemoved ·) = authority :=
      List.filter_eq_self.mpr fun c hc => by rw [(hauthority c hc).1]; rfl
    have hpath' : path.filter (!isRemoved ·) = path :=
      List.filter_eq_self.mpr fun c hc => by rw [(hpath c hc).1]; rfl
    rw [List.filter_append, List.filter_append, List.filter_cons_of_pos (by rfl), hauthority', hpath']
    rfl
  -- the scheme ends at the colon, the authority at the slash
  have hscheme : splitScheme ("ldap://".toList ++ (authority ++ '/' :: path)) =
      ("ldap".toList, '/' :: '/' :: (authority ++ '/' :: path)) := rfl
  have hcut : splitAuthority ('/' :: '/' :: (authority ++ '/' :: path)) = (authority, '/' :: path) := by
    have hstays : ∀ c ∈ authority, (!endsAuthority c) = true := fun c hc => by simp [(hauthority c hc).2]
    rw [splitAuthority, List.takeWhile_append_of_pos hstays, List.dropWhile_append_of_pos hstays,
      List.takeWhile_cons_of_neg (by decide), List.dropWhile_cons_of_neg (by decide), List.append_nil]
  -- there is no fragment and no query to be cut off
  have hfragment : (cutAt '#' ('/' :: path)).1 = '/' :: path :=
    cutAt_fst (List.forall_mem_cons.mpr ⟨by decide, fun c hc => (hpath c hc).2.1⟩)
  have hquery : (cutAt '?' ('/' :: path)).1 = '/' :: path :=
    cutAt_fst (List.forall_mem_cons.mpr ⟨by decide, fun c hc => (hpath c hc).2.2⟩)
  rw [split, String.toList_ofList, hstart, hkept]
  dsimp only
  rw [hscheme]
  dsimp only
  rw [hcut]
  dsimp only
  rw [hnofault]
  dsimp only
  rw [hfragment, hquery, if_neg (by decide)]
  rfl

/-- What is left of a text behind an authority begins with a character that ends the authority. -/
theorem endsAuthority_of_head? {cs : List Char} {c : Char} (hauthority : (splitAuthority cs).1 ≠ [])
    (h : (splitAuthority cs).2.head? = some c) : endsAuthority c = true := by
  revert hauthority h
  unfold splitAuthority
  split
  · rename_i rest
    intro _ h
    have hend := List.head?_dropWhile_not (!endsAuthority ·) rest
    rw [h] at hend
    simpa using hend
  · exact fun hnil => absurd rfl hnil

/-- The first slash of a path is not among the parameters. -/
theorem dropParameters_slash (path : List Char) : ∃ rest, dropParameters ('/' :: path) = '/' :: rest := by
  have hsegment : (afterLast '/' ('/' :: path)).length ≤ path.length := by
    rw [afterLast, List.length_reverse, List.reverse_cons, List.takeWhile_append]
    split
    · simp
    · exact (List.takeWhile_sublist _).length_le.trans (by simp)
  obtain ⟨k, hk⟩ : ∃ k, ('/' :: path).length - (afterLast '/' ('/' :: path)).length = k + 1 :=
    ⟨path.length - (afterLast '/' ('/' :: path)).length, by rw [List.length_cons]; omega⟩
  refine ⟨path.take k ++ (cutAt ';' (afterLast '/' ('/' :: path))).1, ?_⟩
  rw [dropParameters, hk]
  rfl

/-- **The path** behind an authority is empty or begins with a slash. -/
theorem path_of_split {text : String} {url : Url} (h : split text = .ok url) (hauthority : url.authority ≠ []) :
    url.path = [] ∨ ∃ rest, url.path = '/' :: rest := by
  unfold split at h
  dsimp only at h
  split at h
  · cases h
  · simp only [Except.ok.injEq] at h
    subst h
    have hend {c} := endsAuthority_of_head? (c := c) hauthority
    -- a path that is cut begins as what was left of the text, if anything is left of it
    generalize (splitAuthority _).2 = left at hend
    have hcut : (cutAt '?' (cutAt '#' left).1).1 = [] ∨ ∃ rest, (cutAt '?' (cutAt '#' left).1).1 = '/' :: rest := by
      cases left with
      | nil => exact .inl rfl
      | cons c rest =>
        have hc := hend rfl
        simp only [endsAuthority, Bool.or_eq_true, beq_iff_eq] at hc
        rcases hc with (rfl | rfl) | rfl
        · exact .inr ⟨_, rfl⟩
        · exact .inl rfl
        · exact .inl rfl
    dsimp only
    split
    · rcases hcut with hnil | ⟨rest, hrest⟩
      · rw [hnil]
        exact .inl rfl
      · rw [hrest]
        exact .inr (dropParameters_slash rest)
    · exact hcut

/-! ## §3 Hosts and ports -/

/-- Without an authority there is no host. -/
theorem authority_ne_nil_of_host? {url : Url} {host : String} (h : url.host? = some host) : url.authority ≠ [] := by
  intro hnil
  rw [host?, hostAndPort, hostPart, hnil] at h
  cases h

/-- **A host** is never empty. -/
theorem host?_ne_empty {url : Url} {host : String} (h : url.host? = some host) : host ≠ "" := by
  unfold host? at h
  dsimp only at h
  split at h
  · cases h
  · rename_i hfull
    rintro rfl
    -- lower case is no shorter, so a host that becomes empty has been empty
    have hlength := congrArg (fun s => s.toList.length) (Option.some.inj h)
    simp only [Text.lower, String.toList_append, String.toList_ofList, List.length_append, Text.length_lowerAfter,
      List.length_drop, String.toList_empty, List.length_nil] at hlength
    exact hfull (List.isEmpty_iff_length_eq_zero.mpr (by omega))

/-- **A port** is at most the greatest. -/
theorem port?_le {url : Url} {n : Nat} (h : url.port? = .ok (some n)) : n ≤ 65535 := by
  unfold port? at h
  dsimp only at h
  split at h
  · cases h
  split at h
  · split at h
    · cases h
    -- a numeral is taken only up to the limit
    split at h
    · rename_i hle
      obtain rfl : _ = n := by simpa using h
      exact hle
    · cases h
  · cases h

/-- A port that is written behind the host and is no port: something else than digits, more digits than a numeral may
have, or too great a number. -/
def BadPort (url : Url) : Prop :=
  url.hostAndPort.2 ≠ [] ∧
    ((∃ c ∈ url.hostAndPort.2, c.isDigit = false) ∨ Number.digitLimit < url.hostAndPort.2.length ∨
      65535 < Nat.ofDigitChars 10 url.hostAndPort.2 0)

/-- **The ports** that are no ports. -/
theorem port?_eq_error_iff (url : Url) : (∃ fault, url.port? = .error fault) ↔ url.BadPort := by
  have hall : (url.hostAndPort.2.all fun c => (Text.asciiDigit? c).isSome) = true ↔
      ∀ c ∈ url.hostAndPort.2, c.isDigit = true := by
    simp only [List.all_eq_true, Text.isSome_asciiDigit?]
  rw [BadPort, port?]
  dsimp only
  -- an absent port is not a bad one; the ways to be bad are other characters, too many digits, too large a number
  by_cases hempty : url.hostAndPort.2 = []
  · rw [hempty, if_pos (by rfl)]
    simp
  rw [if_neg (by simpa using hempty)]
  by_cases hdigits : ∀ c ∈ url.hostAndPort.2, c.isDigit = true
  · rw [if_pos (hall.mpr hdigits), Text.foldl_asciiDigit? hdigits]
    have hno : ¬ ∃ c ∈ url.hostAndPort.2, c.isDigit = false := by simpa using hdigits
    by_cases hlong : Number.digitLimit < url.hostAndPort.2.length
    · rw [if_pos hlong]
      simp [hempty, hlong]
    rw [if_neg hlong]
    by_cases hle : Nat.ofDigitChars 10 url.hostAndPort.2 0 ≤ 65535
    · rw [if_pos hle]
      simp [hno, hlong, hle]
    · rw [if_neg hle]
      simpa [hempty, hno, hlong] using hle
  · rw [if_neg (mt hall.mp hdigits)]
    have hsome : ∃ c ∈ url.hostAndPort.2, c.isDigit = false := by simpa using hdigits
    simp [hempty, hsome]

end DirectoryLogin.Url
