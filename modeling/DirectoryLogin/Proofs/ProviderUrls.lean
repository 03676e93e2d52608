import DirectoryLogin.ProviderUrl
import DirectoryLogin.Proofs.Name.ResultNames
import DirectoryLogin.Proofs.Text.Digits
import DirectoryLogin.Proofs.Text.Trimming
import Mathlib.Data.Nat.Digits.Defs
/-!
# What Directory URLs Say

A directory URL is read, or refused, or it cannot be taken apart at all. What is read has a host, a port that can be
connected to, and the name that was written into the path. What is refused for its scheme or its missing host is an
unusable configuration with a code of its own. What cannot be taken apart, or has a port that is no port, is not refused
like that: it is the fault of a value.

- `ProviderUrl.outcome_parse`: what comes of any text.
- `ProviderUrl.parse_print`: a URL that is put together of a host, a port and a name says them.
- `ProviderUrl.directory_urls`: both, and which texts are not refused as a configuration.
-/

namespace DirectoryLogin

/-- An unusable configuration that is said to be one of URLs. -/
def Failure.IsInvalidUrl (e : Failure) : Prop :=
  ∃ fault, e = .configuration fault ∧ fault.code = "INVALID_URL"

/-- The fault of a value is no unusable configuration. -/
theorem Failure.not_isInvalidUrl_defect (kind : DefectKind) (text : String) :
    ¬ (Failure.defect kind text).IsInvalidUrl := by
  rintro ⟨_, h, -⟩
  cases h

namespace ProviderUrl

/-! ## §1 What can come of a text -/

/-- The schemes of directory URLs; the scheme may be left out. -/
def IsScheme (scheme : String) : Prop :=
  scheme = "ldaps" ∨ scheme = "ldap" ∨ scheme = ""

/-- What is read of a directory URL is what stands in its parts. -/
structure Tells (url : Url) (u : ProviderUrl) : Prop where
  scheme : IsScheme url.scheme
  secure : u.secure = true ↔ url.scheme = "ldaps"
  host : url.host? = some u.host
  host_ne_empty : u.host ≠ ""
  /-- The port is the given one; none or zero stands for the usual one. -/
  port : url.port? = .ok (some u.port) ∨
    (url.port? = .ok none ∨ url.port? = .ok (some 0)) ∧ u.port = if u.secure then 636 else 389
  port_range : 1 ≤ u.port ∧ u.port ≤ 65535
  /-- The name is the path behind its slash. -/
  namespaceName : url.path = [] ∧ u.namespaceName = "" ∨
    ∃ name, url.path = '/' :: name ∧ u.namespaceName = Text.percentDecode (String.ofList name)

/-- A text that cannot be taken apart: its authority has a fault, or the port behind its host is no port. -/
inductive Malformed (text : String) : Prop where
  | authority {fault : Url.Fault} (h : Url.split (Text.strip text) = .error fault)
  | port {url : Url} {host : String} (h : Url.split (Text.strip text) = .ok url) (hscheme : IsScheme url.scheme)
      (hhost : url.host? = some host) (hport : url.BadPort)

/-- The scheme that counts for a URL. -/
def schemeOf (url : Url) : String :=
  if url.scheme == "" then "ldap" else url.scheme

/-- What can come of the text of a directory URL. -/
inductive Outcome (text : String) : Except Failure ProviderUrl → Prop where
  | read {url : Url} {u : ProviderUrl} (h : Url.split (Text.strip text) = .ok url) (told : Tells url u) :
      Outcome text (.ok u)
  | wrongScheme {url : Url} (h : Url.split (Text.strip text) = .ok url) (hscheme : ¬ IsScheme url.scheme) :
      Outcome text (.error (.configuration (.urlScheme (schemeOf url) text)))
  | noHost {url : Url} (h : Url.split (Text.strip text) = .ok url) (hscheme : IsScheme url.scheme)
      (hhost : url.host? = none) : Outcome text (.error (.configuration (.urlHost text)))
  | malformed {message : String} (h : Malformed text) : Outcome text (.error (.defect .badValue message))

/-! ## §2 What comes of a text -/

/-- The port that counts for a URL, given the usual one. -/
def portOr (usual : Nat) : Option Nat → Nat
  | some 0 => usual
  | some n => n
  | none => usual

theorem portOr_range {usual : Nat} {port : Option Nat} (husual : 1 ≤ usual ∧ usual ≤ 65535)
    (hport : ∀ n, port = some n → n ≤ 65535) : 1 ≤ portOr usual port ∧ portOr usual port ≤ 65535 := by
  unfold portOr
  split
  · exact husual
  · rename_i n hn
    exact ⟨Nat.pos_of_ne_zero fun h => hn h, hport n rfl⟩
  · exact husual

/-- Reading a text, step by step. -/
theorem parse_of_split {text : String} {url : Url} (h : Url.split (Text.strip text) = .ok url) :
    parse text = match defaultPort? (schemeOf url), url.host?, url.port? with
      | none, _, _ => .error (.configuration (.urlScheme (schemeOf url) text))
      | some _, none, _ => .error (.configuration (.urlHost text))
      | some _, some _, .error fault => .error fault.toFailure
      | some usual, some host, .ok port => .ok ⟨host, portOr usual port, schemeOf url == "ldaps",
          Text.percentDecode (String.ofList (url.path.drop 1))⟩ := by
  -- the scheme that is read decides the usual port, so it is named alike on both sides
  have hscheme : (if url.scheme == "" then "ldap" else url.scheme) = schemeOf url := rfl
  rw [parse, h]
  dsimp only [Except.mapError, bind, Except.bind]
  rw [hscheme]
  cases defaultPort? (schemeOf url) with
  | none => rfl
  | some usual =>
    cases url.host? with
    | none => rfl
    | some host =>
      cases url.port? with
      | error fault => rfl
      | ok port => rfl

/-- The usual port of the scheme that counts, if there is one. -/
theorem defaultPort?_schemeOf (url : Url) :
    IsScheme url.scheme ∧ defaultPort? (schemeOf url) = some (if schemeOf url == "ldaps" then 636 else 389) ∨
      ¬ IsScheme url.scheme ∧ defaultPort? (schemeOf url) = none := by
  by_cases hscheme : IsScheme url.scheme
  · refine .inl ⟨hscheme, ?_⟩
    rcases hscheme with h | h | h <;> rw [schemeOf, h] <;> rfl
  · refine .inr ⟨hscheme, ?_⟩
    simp only [IsScheme, not_or] at hscheme
    simp [schemeOf, defaultPort?, hscheme]

theorem schemeOf_secure {url : Url} (h : IsScheme url.scheme) :
    (schemeOf url == "ldaps") = true ↔ url.scheme = "ldaps" := by
  rcases h with h | h | h <;> rw [schemeOf, h] <;> decide

/-- **What is read** is what stands in the parts of the URL. -/
theorem tells_of_parts {url : Url} {host text : String} {port : Option Nat}
    (hsplit : Url.split (Text.strip text) = .ok url) (hscheme : IsScheme url.scheme)
    (hhost : url.host? = some host) (hport : url.port? = .ok port) :
    Tells url ⟨host, portOr (if schemeOf url == "ldaps" then 636 else 389) port, schemeOf url == "ldaps",
      Text.percentDecode (String.ofList (url.path.drop 1))⟩ where
  scheme := hscheme
  secure := schemeOf_secure hscheme
  host := hhost
  host_ne_empty := Url.host?_ne_empty hhost
  port := by
    rcases port with _ | _ | n
    · exact .inr ⟨.inl hport, rfl⟩
    · exact .inr ⟨.inr hport, rfl⟩
    · exact .inl hport
  port_range := portOr_range (by split <;> decide) fun n hn => Url.port?_le (hn ▸ hport)
  namespaceName := by
    -- the path is empty, or a slash and the name
    rcases Url.path_of_split hsplit (Url.authority_ne_nil_of_host? hhost) with h | ⟨name, h⟩
    · exact .inl ⟨h, by rw [h]; rfl⟩
    · exact .inr ⟨name, h, by rw [h]; rfl⟩

/-- **What comes of any text**: it is read, refused, or cannot be taken apart. -/
theorem outcome_parse (text : String) : Outcome text (parse text) := by
  -- the first part that cannot be read decides
  cases hsplit : Url.split (Text.strip text) with
  | error fault =>
    rw [parse, hsplit]
    exact .malformed (.authority hsplit)
  | ok url =>
    rw [parse_of_split hsplit]
    rcases defaultPort?_schemeOf url with ⟨hscheme, hport⟩ | ⟨hscheme, hport⟩
    · rw [hport]
      cases hhost : url.host? with
      | none => exact .noHost hsplit hscheme hhost
      | some host =>
        cases hport : url.port? with
        | error fault =>
          exact .malformed (.port hsplit hscheme hhost ((url.port?_eq_error_iff).mp ⟨fault, hport⟩))
        | ok port => exact .read hsplit (tells_of_parts hsplit hscheme hhost hport)
    · rw [hport]
      exact .wrongScheme hsplit hscheme

/-- A text that cannot be taken apart fails as a value. -/
theorem Malformed.parse_eq {text : String} (h : Malformed text) :
    ∃ message, parse text = .error (.defect .badValue message) := by
  cases h with
  | authority h =>
    rename_i fault
    refine ⟨fault.message, ?_⟩
    rw [parse, h]
    rfl
  | port h hscheme hhost hport =>
    rename_i url host
    obtain ⟨fault, hport⟩ := url.port?_eq_error_iff.mpr hport
    -- a port is looked at only under a scheme that is supported
    rcases defaultPort?_schemeOf url with ⟨-, husual⟩ | ⟨hnot, -⟩
    · refine ⟨fault.message, ?_⟩
      rw [parse_of_split h, husual, hhost, hport]
      rfl
    · exact absurd hscheme hnot

/-- **No other texts** fail without being refused. -/
theorem malformed_iff (text : String) :
    (∃ e, parse text = .error e ∧ ¬ e.IsInvalidUrl) ↔ Malformed text := by
  constructor
  · rintro ⟨e, he, hnot⟩
    have houtcome := outcome_parse text
    rw [he] at houtcome
    cases houtcome with
    | wrongScheme => exact absurd ⟨_, rfl, rfl⟩ hnot
    | noHost => exact absurd ⟨_, rfl, rfl⟩ hnot
    | malformed h => exact h
  · intro h
    obtain ⟨message, he⟩ := h.parse_eq
    exact ⟨_, he, Failure.not_isInvalidUrl_defect _ message⟩

/-! ## §3 URLs that are put together -/

/-- A character of plain host names: lower case letters, digits, points and hyphens. -/
def isHostChar (c : Char) : Bool :=
  c.isLower || c.isDigit || c == '.' || c == '-'

/-- A character that may stand as it is in the path of a URL, also at its end. -/
def isPlain (c : Char) : Bool :=
  c != '%' && Url.staysInPath c && !Text.isBlank c

/-- The URL of a host, a port and a name. -/
def print (safe : Char → Bool) (host : String) (port : Nat) (name : String) : String :=
  "ldap://" ++ host ++ ":" ++ toString port ++ "/" ++ Text.percentEncode safe name

/-- Characters of which only one is of some class. -/
theorem ne_of_class {p : Char → Bool} {c d : Char} (hc : p c = true) (hd : p d = false) : c ≠ d := by
  rintro rfl
  rw [hc] at hd
  cases hd

theorem isHostChar_of_isDigit {c : Char} (h : c.isDigit = true) : isHostChar c = true := by
  simp [isHostChar, h]

theorem isHostChar_range {c : Char} (h : isHostChar c = true) :
    0x20 < c.toNat ∧ c.toNat < 0x7F ∧ ('A'.toNat ≤ c.toNat → 'Z'.toNat < c.toNat) := by
  simp only [isHostChar, Bool.or_eq_true, beq_iff_eq, Text.isLower_iff, Text.isDigit_iff] at h
  rcases h with ((⟨hlow, hhigh⟩ | ⟨hlow, hhigh⟩) | rfl) | rfl
  · have hlow : 97 ≤ c.toNat := hlow
    have hhigh : c.toNat ≤ 122 := hhigh
    exact ⟨by omega, by omega, fun _ => by change 90 < c.toNat; omega⟩
  · have hlow : 48 ≤ c.toNat := hlow
    have hhigh : c.toNat ≤ 57 := hhigh
    exact ⟨by omega, by omega, fun h => by change 65 ≤ c.toNat at h; omega⟩
  · decide
  · decide

/-- Host names have no upper case. -/
theorem lower_of_isHostChar {host : String} (h : ∀ c ∈ host.toList, isHostChar c = true) : Text.lower host = host := by
  -- each character of a host is its own lower case, and none of them is a sigma
  have hlower (cs before : List Char) (hcs : ∀ c ∈ cs, isHostChar c = true) : Text.lowerAfter before cs = cs := by
    induction cs generalizing before with
    | nil => rfl
    | cons c rest ih =>
      obtain ⟨hc, hrest⟩ := List.forall_mem_cons.mp hcs
      obtain ⟨-, hhigh, hcase⟩ := isHostChar_range hc
      have hascii : c.toNat < 128 := by omega
      have hsame : c.toLower = c := dif_neg fun hupper => absurd (hcase hupper.1) (Nat.not_lt.mpr hupper.2)
      have hsigma : ¬ (c == 'Σ') = true := fun h => ne_of_class hc rfl (eq_of_beq h)
      rw [Text.lowerAfter_cons, ih _ hrest, Text.lowerBetween, if_neg hsigma, Text.lowerChar, if_pos hascii, hsame]
      rfl
  rw [Text.lower, hlower _ _ h, String.ofList_toList]

section Printed

variable {host digits : List Char}

/-- The characters of an authority of a host and a port. -/
theorem ne_of_mem_authority {c d : Char} (hhost : ∀ c ∈ host, isHostChar c = true)
    (hdigits : ∀ c ∈ digits, c.isDigit = true) (hd : isHostChar d = false) (hcolon : d ≠ ':')
    (hc : c ∈ host ++ ':' :: digits) : c ≠ d := by
  rw [List.mem_append, List.mem_cons] at hc
  rcases hc with hc | rfl | hc
  · exact ne_of_class (hhost c hc) hd
  · exact hcolon.symm
  · exact ne_of_class (isHostChar_of_isDigit (hdigits c hc)) hd

variable (hhost : ∀ c ∈ host, isHostChar c = true) (hdigits : ∀ c ∈ digits, c.isDigit = true)
include hhost hdigits

/-- An authority of a host and a port has no fault. -/
theorem authorityFault?_eq_none : Url.authorityFault? (host ++ ':' :: digits) = none := by
  -- no character that could be at fault stands in a host or among digits
  have hwithout {d : Char} (hd : isHostChar d = false) (hcolon : d ≠ ':') :
      (host ++ ':' :: digits).contains d = false := by
    rw [List.contains_eq_mem, decide_eq_false_iff_not]
    exact fun hmem => ne_of_mem_authority hhost hdigits hd hcolon hmem rfl
  -- and none that is confused with one, since those are beyond ASCII
  have hplain : ((host ++ ':' :: digits).any fun c => Url.confusables.contains c.toNat) = false := by
    have hbeyond : ∀ n ∈ Url.confusables, 0x7F ≤ n := by decide
    refine List.any_eq_false.mpr fun c hc hmem => ?_
    have hhigh := hbeyond _ (List.contains_iff_mem.mp hmem)
    rw [List.mem_append, List.mem_cons] at hc
    rcases hc with hc | rfl | hc
    · exact absurd (isHostChar_range (hhost c hc)).2.1 (Nat.not_lt.mpr hhigh)
    · exact absurd hhigh (by decide)
    · exact absurd (isHostChar_range (isHostChar_of_isDigit (hdigits c hc))).2.1 (Nat.not_lt.mpr hhigh)
  rw [Url.authorityFault?, Url.bracketFault?, hwithout rfl (by decide), hwithout rfl (by decide)]
  dsimp only
  rw [hplain]
  rfl

/-- Host and port are read of the authority they make up. -/
theorem hostAndPort_eq {scheme : String} {path : List Char} :
    Url.hostAndPort ⟨scheme, host ++ ':' :: digits, path⟩ = (host, digits) := by
  have huser : Url.hostPart ⟨scheme, host ++ ':' :: digits, path⟩ = host ++ ':' :: digits :=
    Url.afterLast_of_forall_ne fun c hc => ne_of_mem_authority hhost hdigits rfl (by decide) hc
  rw [Url.hostAndPort, huser,
    Url.cutAt_of_forall_ne fun c hc => ne_of_mem_authority hhost hdigits rfl (by decide) hc]
  dsimp only
  rw [Url.cutAt_append fun c hc => ne_of_class (hhost c hc) rfl]
  rfl

/-- The host is read as it was written. -/
theorem host?_eq {scheme : String} {path : List Char} (hne : host ≠ []) :
    Url.host? ⟨scheme, host ++ ':' :: digits, path⟩ = some (String.ofList host) := by
  have hname : host.takeWhile (· != '%') = host :=
    List.takeWhile_eq_self_iff.mpr fun c hc => bne_iff_ne.mpr (ne_of_class (hhost c hc) rfl)
  have hlower : Text.lower (String.ofList host) = String.ofList host :=
    lower_of_isHostChar (by rwa [String.toList_ofList])
  rw [Url.host?, hostAndPort_eq hhost hdigits]
  dsimp only
  rw [if_neg (by simpa using hne), hname, hlower, List.drop_length, String.ofList_nil, String.append_empty]

/-- The port is read as the number that its digits are worth. -/
theorem port?_eq {scheme : String} {path : List Char} (hne : digits ≠ []) (hshort : digits.length ≤ Number.digitLimit)
    (hle : Nat.ofDigitChars 10 digits 0 ≤ 65535) :
    Url.port? ⟨scheme, host ++ ':' :: digits, path⟩ = .ok (some (Nat.ofDigitChars 10 digits 0)) := by
  have hall : (digits.all fun c => (Text.asciiDigit? c).isSome) = true := by
    simpa [Text.isSome_asciiDigit?] using hdigits
  rw [Url.port?, hostAndPort_eq hhost hdigits]
  dsimp only
  rw [if_neg (by simpa using hne), if_pos hall, if_neg (Nat.not_lt.mpr hshort), Text.foldl_asciiDigit? hdigits,
    if_pos hle]

end Printed

theorem isUnreserved_range {c : Char} (h : Text.isUnreserved c = true) : 0x20 < c.toNat ∧ c.toNat < 0x7F := by
  have hrange {low high : Char} (hvisible : 0x20 < low.toNat ∧ high.toNat < 0x7F) (hc : low ≤ c ∧ c ≤ high) :
      0x20 < c.toNat ∧ c.toNat < 0x7F :=
    ⟨lt_of_lt_of_le hvisible.1 hc.1, lt_of_le_of_lt hc.2 hvisible.2⟩
  simp only [Text.isUnreserved, Bool.or_eq_true, beq_iff_eq] at h
  rcases h with (((h | rfl) | rfl) | rfl) | rfl
  · rcases Text.isAlphanum_cases h with h | h | h
    · exact hrange (by decide) h
    · exact hrange (by decide) h
    · exact hrange (by decide) h
  all_goals decide

/-- What stands in the path of a URL with a name stays there, also at its end. -/
theorem stays_of_mem {safe : Char → Bool} (hsafe : ∀ c, safe c = true → isPlain c = true) {name : String}
    {c : Char} (h : c ∈ (Text.percentEncode safe name).toList) : Url.staysInPath c = true ∧ Text.isBlank c = false := by
  rcases Text.mem_percentEncode h with h | h | rfl
  · obtain ⟨hlow, hhigh⟩ := isUnreserved_range h
    have hne (d : Char) (hd : Text.isUnreserved d = false) : c ≠ d := ne_of_class h hd
    refine ⟨?_, Text.isBlank_of_visible hlow hhigh⟩
    simp [Url.staysInPath, Url.isRemoved, hne '\t' rfl, hne '\r' rfl, hne '\n' rfl, hne '#' rfl, hne '?' rfl]
  · have hplain := hsafe c h
    simp only [isPlain, Bool.and_eq_true, Bool.not_eq_true'] at hplain
    exact ⟨hplain.1.2, hplain.2⟩
  · exact ⟨rfl, rfl⟩

/-- **A URL that is put together** of a plain host, a port and any name says just these. -/
theorem parse_print {safe : Char → Bool} (hsafe : ∀ c, safe c = true → isPlain c = true) {host : String}
    (hne : host ≠ "") (hhost : ∀ c ∈ host.toList, isHostChar c = true) {port : Nat} (hlow : 1 ≤ port)
    (hhigh : port ≤ 65535) (name : String) : parse (print safe host port name) = .ok ⟨host, port, false, name⟩ := by
  -- what is printed: a host, a port and a path, none of them with blanks at an end
  have hdigits : ∀ c ∈ Nat.toDigits 10 port, c.isDigit = true := fun c hc =>
    Nat.isDigit_of_mem_toDigits (by decide) (by decide) hc
  have htext : print safe host port name = String.ofList ("ldap://".toList ++
      ((host.toList ++ ':' :: Nat.toDigits 10 port) ++ '/' :: (Text.percentEncode safe name).toList)) := by
    rw [print, Nat.toString_eq_ofList_toDigits]
    simp [← String.toList_inj]
  have hstrip : Text.strip (print safe host port name) = print safe host port name := by
    rw [htext, Text.strip, String.toList_ofList, Text.trimList_eq_self]
    · intro c hc
      obtain rfl : 'l' = c := Option.some.inj hc
      rfl
    · intro c hc
      rw [← List.append_assoc, List.getLast?_append_of_ne_nil _ (List.cons_ne_nil _ _)] at hc
      rcases List.mem_cons.mp (List.mem_of_getLast? hc) with rfl | hc
      · rfl
      · exact (stays_of_mem hsafe hc).2
  -- so it is split where it was put together
  have hsplit : Url.split (Text.strip (print safe host port name)) =
      .ok ⟨"ldap", host.toList ++ ':' :: Nat.toDigits 10 port, '/' :: (Text.percentEncode safe name).toList⟩ := by
    rw [hstrip, htext]
    refine Url.split_parts (fun c hc => ?_) (authorityFault?_eq_none hhost hdigits) fun c hc => ?_
    · have hne (d : Char) (hd : isHostChar d = false) (hcolon : d ≠ ':') : c ≠ d :=
        ne_of_mem_authority hhost hdigits hd hcolon hc
      simp [Url.isRemoved, Url.endsAuthority, hne '\t' rfl (by decide), hne '\r' rfl (by decide),
        hne '\n' rfl (by decide), hne '/' rfl (by decide), hne '?' rfl (by decide), hne '#' rfl (by decide)]
    · have hstays := (stays_of_mem hsafe hc).1
      simpa [Url.staysInPath, and_assoc] using hstays
  have hpercent : safe '%' = false := by
    by_contra h
    exact absurd (hsafe '%' (by simpa using h)) (by decide)
  -- the path is decoded to the name, the digits to the port
  have hname : Text.percentDecode (String.ofList (Text.percentEncode safe name).toList) = name := by
    rw [Text.percentDecode, String.toList_ofList, Text.percentBytes_percentEncode hpercent, Text.utf8,
      Text.decodeUtf8_utf8Chars, String.ofList_toList]
  have hport : Nat.ofDigitChars 10 (Nat.toDigits 10 port) 0 = port := Nat.ofDigitChars_ten_toDigits
  have hshort : (Nat.toDigits 10 port).length ≤ Number.digitLimit :=
    (Nat.toDigits_length 10 port 5 (by decide) (by omega)).trans (by decide)
  have hkept : portOr 389 (some port) = port := by
    unfold portOr
    split <;> simp_all
  rw [parse_of_split hsplit, host?_eq hhost hdigits (by simpa using hne),
    port?_eq hhost hdigits Nat.toDigits_ne_nil hshort (by rwa [hport]), hport, String.ofList_toList]
  change Except.ok (ProviderUrl.mk host (portOr 389 (some port)) false
    (Text.percentDecode (String.ofList (Text.percentEncode safe name).toList))) = _
  rw [hkept, hname]

/-! ## §4 Directory URLs -/

/-- **Directory URLs.** What comes of any text is something that is read, an unusable configuration, or the fault of a
value; the last just for the texts that cannot be taken apart. And if the text is put together of a plain host, a port
and any name, it is read as these. -/
theorem directory_urls (text : String) :
    Outcome text (parse text) ∧
    ((∃ e, parse text = .error e ∧ ¬ e.IsInvalidUrl) ↔ Malformed text) ∧
    ∀ (safe : Char → Bool) (host : String) (port : Nat) (name : String),
      (∀ c, safe c = true → isPlain c = true) → host ≠ "" → (∀ c ∈ host.toList, isHostChar c = true) →
      1 ≤ port → port ≤ 65535 → text = print safe host port name → parse text = .ok ⟨host, port, false, name⟩ := by
  refine ⟨outcome_parse text, malformed_iff text, ?_⟩
  rintro safe host port name hsafe hne hhost hlow hhigh rfl
  exact parse_print hsafe hne hhost hlow hhigh name

/-- A name that is not plain comes back, with a slash for a safe character. -/
theorem directory_url_with_name : parse (print (· == '/') "dc01" 3389 "ou=Zürich 100%,dc=example") =
    .ok ⟨"dc01", 3389, false, "ou=Zürich 100%,dc=example"⟩ :=
  (directory_urls _).2.2 (· == '/') "dc01" 3389 _ (fun c hc => by rw [eq_of_beq hc]; rfl) (by decide)
    (List.all_eq_true.mp rfl) (by decide) (by decide) rfl

/-- A port that is no number is not refused as a configuration: it is the fault of a value. -/
theorem bad_port_not_refused :
    ¬ ((∃ e, parse "ldap://directory:x" = .error e ∧ e.IsInvalidUrl) ∨ ∃ u, parse "ldap://directory:x" = .ok u) := by
  have hparse : parse "ldap://directory:x" =
      .error (.defect .badValue "Port could not be cast to integer value as 'x'") := by
    decide +kernel
  rw [hparse]
  rintro (⟨e, he, h⟩ | ⟨u, hu⟩)
  · cases he
    exact Failure.not_isInvalidUrl_defect _ _ h
  · cases hu

end ProviderUrl
end DirectoryLogin
