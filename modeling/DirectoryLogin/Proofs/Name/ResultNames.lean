import DirectoryLogin.Name.Compose
import DirectoryLogin.Proofs.Text.Coding
import DirectoryLogin.Proofs.Url.Splitting
/-!
# The Names of Results Are Read Back

The name of an entry is handed out in a form that depends on where the entry is: relative to the base of the search, or
as a URL if it is elsewhere. Whoever knows the base makes the full name of it again. Case is ignored when the base is
looked for at the end of a name, so the base may come back in another case.

The base is cut off by its length in lower case. That is not always its own length, and then more is cut off than the
base; and a name with nothing in front of the base loses its comma. In all other cases the name is read back as it was.

- `Name.ofUrl_urlOfName`: a URL gives the name back.
- `Name.handed_nameBelow`: what is handed out, by where the entry is.
- `Name.Below.sameUpToBase_iff`: which names below the base come back.
- `result_name_read_back`: what is read of the name of any entry.
-/

namespace DirectoryLogin

/-! ## §1 Names elsewhere -/

namespace Url

/-- A character that stays where it is in a path: it is not removed, and neither fragment nor query begin with it. -/
def staysInPath (c : Char) : Bool :=
  !isRemoved c && c != '#' && c != '?'

/-- The parts of a URL that has nothing but a scheme and a path. -/
theorem split_path (path : List Char) (h : ∀ c ∈ path, staysInPath c = true) :
    split ("ldap:///" ++ String.ofList path) = .ok ⟨"ldap", [], '/' :: path⟩ := by
  have htext : "ldap:///" ++ String.ofList path = String.ofList ("ldap://".toList ++ ([] ++ '/' :: path)) := by
    simp [← String.toList_inj]
  have hpath : ∀ c ∈ path, isRemoved c = false ∧ c ≠ '#' ∧ c ≠ '?' := by
    simpa [staysInPath, and_assoc] using h
  rw [htext]
  exact split_parts (List.forall_mem_nil _) rfl hpath

end Url

namespace Name

/-- The URL of a name has a path of characters that stay in it. -/
theorem staysInPath_of_mem {dn : String} {c : Char} (h : c ∈ (Text.percentEncode Results.isSafe dn).toList) :
    Url.staysInPath c = true := by
  by_contra hc
  have hbad : c = '\t' ∨ c = '\r' ∨ c = '\n' ∨ c = '#' ∨ c = '?' := by
    by_contra hgood
    simp only [not_or] at hgood
    exact hc (by simp [Url.staysInPath, Url.isRemoved, hgood])
  have hcoded := Text.mem_percentEncode h
  rcases hbad with rfl | rfl | rfl | rfl | rfl
  all_goals exact absurd hcoded (by decide)

theorem split_urlOfName (dn : String) : Url.split (Results.urlOfName dn) =
    .ok ⟨"ldap", [], '/' :: (Text.percentEncode Results.isSafe dn).toList⟩ := by
  have hpath := Url.split_path (Text.percentEncode Results.isSafe dn).toList fun _ => staysInPath_of_mem
  rwa [String.ofList_toList] at hpath

/-- A percent sign is not safe, so the path is read back. -/
theorem percentDecode_path (dn : String) :
    Text.percentDecode (String.ofList ('/' :: (Text.percentEncode Results.isSafe dn).toList)) =
      String.ofList ('/' :: dn.toList) := by
  rw [Text.percentDecode, String.toList_ofList, Text.percentBytes_cons (by decide),
    Text.percentBytes_percentEncode rfl, Text.utf8, ← Text.decodeUtf8_utf8Chars]
  rfl

/-- **The URL of a name** gives the name, if it can be read. -/
theorem ofUrl_urlOfName (dn : String) : ofUrl (Results.urlOfName dn) = (parse dn).map fun _ => dn := by
  have husable : (("ldap" == "") || String.ofList ('/' :: dn.toList) == "") = false := by
    rw [Bool.or_eq_false_iff]
    refine ⟨by decide, beq_eq_false_iff_ne.mpr fun h => ?_⟩
    have hlist := congrArg String.toList h
    rw [String.toList_ofList] at hlist
    cases hlist
  rw [ofUrl, split_urlOfName]
  dsimp only [Except.mapError, bind, Except.bind]
  rw [percentDecode_path, husable, String.toList_ofList, List.drop_one, List.tail_cons, String.ofList_toList]
  cases parse dn <;> rfl

theorem parse_cases (dn : String) :
    (∃ parts, parse dn = .ok parts) ∨ parse dn = .error (.directory (.invalidDn dn)) := by
  unfold parse
  split
  · exact .inl ⟨_, rfl⟩
  · split
    · exact .inl ⟨_, rfl⟩
    · exact .inr rfl

end Name

/-! ## §2 Names put together -/

theorem joinNames_eq_empty_iff (names : List String) : joinNames names = "" ↔ names.filter (· != "") = [] := by
  constructor
  · intro h
    -- only a first part that is empty could make the whole empty, and such parts are left out
    unfold joinNames at h
    rcases hparts : names.filter (· != "") with _ | ⟨first, rest⟩
    · rfl
    · have hmem : first ∈ names.filter (· != "") := hparts ▸ List.mem_cons_self
      have hfirst : first ≠ "" := bne_iff_ne.mp (List.mem_filter.mp hmem).2
      rw [hparts] at h
      cases rest with
      | nil => exact absurd (String.intercalate_singleton.symm.trans h) hfirst
      | cons second rest =>
        rw [String.intercalate_cons_cons, String.append_eq_empty_iff, String.append_eq_empty_iff] at h
        exact absurd h.1.1 hfirst
  · intro h
    rw [joinNames, h, String.intercalate_nil]

theorem joinNames_cons (name : String) (names : List String) :
    joinNames (name :: names) =
      if name = "" then joinNames names
      else if joinNames names = "" then name else name ++ "," ++ joinNames names := by
  split
  · subst name
    rfl
  · -- a part that is not empty stays, and is set off by a comma from what follows
    rename_i hname
    have hparts : (name :: names).filter (· != "") = name :: names.filter (· != "") :=
      List.filter_cons_of_pos (bne_iff_ne.mpr hname)
    rw [joinNames, hparts]
    split
    · rename_i hrest
      rw [(joinNames_eq_empty_iff names).mp hrest, String.intercalate_singleton]
    · rename_i hrest
      rw [String.intercalate_cons_of_ne_nil (mt (joinNames_eq_empty_iff names).mpr hrest), joinNames]

theorem joinNames_singleton (name : String) : joinNames [name] = name := by
  have hnone : joinNames [] = "" := rfl
  rw [joinNames_cons, hnone, if_pos rfl]
  split
  · exact Eq.symm ‹_›
  · rfl

/-- Names may be put together one after the other. -/
theorem joinNames_joinNames (name : String) (names : List String) :
    joinNames [name, joinNames names] = joinNames (name :: names) := by
  rw [joinNames_cons, joinNames_singleton, ← joinNames_cons]

namespace Name

/-! ## §3 Where a name is -/

/-- The name `dn` is below `base`: it ends in a comma and `base`, in any case. -/
structure Below (base dn : String) (front tail : List Char) : Prop where
  nonempty : base ≠ ""
  /-- What stands in front of the base, with the comma behind it. -/
  split : dn.toList = front ++ ',' :: tail
  same : Text.sameIgnoringCase (String.ofList tail) base = true

/-- The name `dn` is neither `base` nor below it. -/
structure Outside (base dn : String) : Prop where
  nonempty : base ≠ ""
  notSame : Text.sameIgnoringCase dn base = false
  notBelow (front tail : List Char) : ¬Below base dn front tail

/-- Too much is cut off from the name `dn`: each dotted I in the base costs a character in front of it, and where
nothing stands in front of the base the comma is lost. -/
def Overrun (base dn : String) : Prop :=
  ∃ front tail, Below base dn front tail ∧ (front = [] ∨ Text.dottedI ∈ tail)

/-- The names are the same, up to the case of a `base` at the end: there it is written as in `base`. -/
def SameUpToBase (base dn read : String) : Prop :=
  read = dn ∨ ∃ front tail, dn.toList = front ++ tail ∧ Text.sameIgnoringCase (String.ofList tail) base = true ∧
    read.toList = front ++ base.toList

section Below

variable {base dn : String} {front tail : List Char}

theorem Below.lowerAfter_tail (h : Below base dn front tail) :
    Text.lowerAfter [] tail = Text.lowerAfter [] base.toList := by
  have hsame := Text.sameIgnoringCase_iff.mp h.same
  rwa [String.toList_ofList] at hsame

theorem Below.toList_eq (h : Below base dn front tail) : dn.toList = (front ++ [',']) ++ tail := by
  rw [h.split, List.append_assoc]
  rfl

/-- What is below the base is longer, in lower case too. -/
theorem Below.notSame (h : Below base dn front tail) : Text.sameIgnoringCase dn base = false := by
  by_contra hsame
  have hlower := Text.sameIgnoringCase_iff.mp (Bool.eq_true_of_not_eq_false hsame)
  rw [← h.lowerAfter_tail, h.toList_eq] at hlower
  exact List.append_ne_nil_of_right_ne_nil front (List.cons_ne_nil _ _) (Text.eq_nil_of_lowerAfter_append hlower)

/-- What is looked for at the end of a name. -/
theorem toList_ending (base : String) :
    ("," ++ Text.lower base).toList = ',' :: Text.lowerAfter [] base.toList := by
  have hlower : (Text.lower base).toList = Text.lowerAfter [] base.toList := String.toList_ofList
  rw [String.toList_append, hlower]
  rfl

/-- **A name below a base** ends in a comma and the base when it is put into lower case, and only such a name does. -/
theorem exists_below_iff (hbase : base ≠ "") :
    (∃ front tail, Below base dn front tail) ↔
      ("," ++ Text.lower base).toList.isSuffixOf (Text.lower dn).toList = true := by
  have hlower : (Text.lower dn).toList = Text.lowerAfter [] dn.toList := String.toList_ofList
  rw [List.isSuffixOf_iff_suffix, toList_ending, hlower]
  constructor
  · rintro ⟨front, tail, h⟩
    rw [h.split, Text.lowerAfter_append_comma, h.lowerAfter_tail]
    exact List.suffix_append _ _
  · rintro ⟨left, hleft⟩
    obtain ⟨front, tail, hdn, -, htail⟩ := Text.exists_of_lowerAfter_eq hleft.symm
    exact ⟨front, tail, hbase, hdn, Text.sameIgnoringCase_iff.mpr (by rw [String.toList_ofList, htail])⟩

/-! ## §4 What becomes of a name -/

/-- What stands before the base is cut short by one character for each dotted I in the base. -/
def kept (front tail : List Char) : List Char :=
  front.take (front.length - tail.count Text.dottedI)

/-- As many characters are cut off as the ending has in lower case. -/
theorem Below.dropLast_eq (h : Below base dn front tail) :
    Results.dropLast dn ("," ++ Text.lower base).toList.length = String.ofList (kept front tail) := by
  have hlength : ("," ++ Text.lower base).toList.length = tail.length + tail.count Text.dottedI + 1 := by
    rw [toList_ending, List.length_cons, ← h.lowerAfter_tail, Text.length_lowerAfter]
  have hrest : front.length + (tail.length + 1) - (tail.length + tail.count Text.dottedI + 1) =
      front.length - tail.count Text.dottedI := by omega
  rw [Results.dropLast, hlength, h.split, List.length_append, List.length_cons, hrest,
    List.take_append_of_le_length (Nat.sub_le _ _), kept]

/-- What is handed out as the name of an entry, by where the entry is. -/
inductive Handed (base dn : String) : String × Bool → Prop where
  /-- Everything is below the empty base. -/
  | everything (hbase : base = "") : Handed base dn (dn, true)
  /-- The entry is the base itself. -/
  | start (hbase : base ≠ "") (same : Text.sameIgnoringCase dn base = true) : Handed base dn ("", true)
  /-- The entry is below the base. -/
  | below {front tail : List Char} (h : Below base dn front tail) :
    Handed base dn (String.ofList (kept front tail), true)
  /-- The entry is elsewhere. -/
  | outside (h : Outside base dn) : Handed base dn (Results.urlOfName dn, false)

theorem handed_nameBelow (base dn : String) : Handed base dn (Results.nameBelow base dn) := by
  unfold Results.nameBelow
  dsimp only
  -- the cases in the order of the test: no base, the base itself, a name below it, any other name
  by_cases hbase : base = ""
  · rw [if_pos (beq_iff_eq.mpr hbase)]
    exact .everything hbase
  rw [if_neg fun h => hbase (beq_iff_eq.mp h)]
  by_cases hsame : Text.sameIgnoringCase dn base = true
  · rw [if_pos (by exact hsame)]
    exact .start hbase hsame
  rw [if_neg (by exact hsame)]
  by_cases hbelow : ∃ front tail, Below base dn front tail
  · rw [if_pos ((exists_below_iff hbase).mp hbelow)]
    obtain ⟨front, tail, h⟩ := hbelow
    rw [h.dropLast_eq]
    exact .below h
  · rw [if_neg (mt (exists_below_iff hbase).mpr hbelow)]
    exact .outside ⟨hbase, Bool.eq_false_of_not_eq_true hsame, fun front tail h => hbelow ⟨front, tail, h⟩⟩

end Below

theorem ofResult_relative (namespaceName base name : String) (attributes : Option Attributes) :
    ofResult namespaceName base ⟨name, true, attributes⟩ false =
      .ok (joinNames [name, joinNames [base, namespaceName]]) :=
  congrArg Except.ok (joinNames_joinNames _ _).symm

theorem ofResult_absolute (namespaceName base name : String) (attributes : Option Attributes) :
    ofResult namespaceName base ⟨name, false, attributes⟩ false = ofUrl name := by
  unfold ofResult
  cases ofUrl name <;> rfl

/-! ## §5 Which names come back -/

/-- Nothing is cut short in front of a base without a dotted I. -/
theorem kept_eq_self {front tail : List Char} (h : Text.dottedI ∉ tail) : kept front tail = front := by
  rw [kept, List.count_eq_zero.mpr h, Nat.sub_zero, List.take_length]

/-- A text in front of a base, with the comma between them. -/
def withComma (cs : List Char) : List Char :=
  if cs = [] then [] else cs ++ [',']

/-- What stood before the base, and the comma, are missing something. -/
theorem withComma_kept_ne {front tail : List Char} (h : front = [] ∨ Text.dottedI ∈ tail) :
    withComma (kept front tail) ≠ front ++ [','] := by
  intro heq
  -- an empty rest would have no comma
  have hkept : kept front tail ≠ [] := by
    intro hnone
    rw [withComma, if_pos hnone] at heq
    exact List.append_ne_nil_of_right_ne_nil front (List.cons_ne_nil _ _) heq.symm
  rw [withComma, if_neg hkept, List.append_left_inj] at heq
  -- a rest that is shorter than it should be: some dotted I was cut short
  rcases h with rfl | hdotted
  · exact hkept heq
  · have hlength := congrArg List.length heq
    have hcount : 0 < tail.count Text.dottedI := List.count_pos_iff.mpr hdotted
    have hpos : 0 < front.length := List.length_pos_iff.mpr (heq ▸ hkept)
    rw [kept, List.length_take] at hlength
    omega

section Below

variable {base dn : String} {front tail : List Char} (h : Below base dn front tail)
include h

theorem Below.toList_joinNames (cs : List Char) :
    (joinNames [String.ofList cs, base]).toList = withComma cs ++ base.toList := by
  have hempty : String.ofList cs = "" ↔ cs = [] := String.ofList_eq_empty_iff
  rw [joinNames_cons, joinNames_singleton, if_neg h.nonempty, withComma]
  by_cases hcs : cs = []
  · rw [if_pos (hempty.mpr hcs), if_pos hcs, List.nil_append]
  · rw [if_neg (mt hempty.mp hcs), if_neg hcs, String.toList_append, String.toList_append, String.toList_ofList]
    rfl

/-- **Below the base** a name comes back unless too much is cut off from it. -/
theorem Below.sameUpToBase_iff :
    SameUpToBase base dn (joinNames [String.ofList (kept front tail), base]) ↔
      ¬(front = [] ∨ Text.dottedI ∈ tail) := by
  rw [SameUpToBase, ← String.toList_inj, h.toList_joinNames, h.toList_eq]
  constructor
  · -- both ways what stands before the base has come back with its comma
    rintro hsame hover
    refine withComma_kept_ne hover ?_
    rcases hsame with hsame | ⟨front', tail', hdn, htail', hread⟩
    · exact (Text.append_inj_of_lowerAfter_eq hsame h.lowerAfter_tail.symm).1
    · have hlower := Text.sameIgnoringCase_iff.mp htail'
      rw [String.toList_ofList, ← h.lowerAfter_tail] at hlower
      rw [(Text.append_inj_of_lowerAfter_eq hdn hlower.symm).1]
      exact List.append_cancel_right hread
  · intro hwhole
    rw [not_or] at hwhole
    rw [kept_eq_self hwhole.2, withComma, if_neg hwhole.1]
    exact .inr ⟨front ++ [','], tail, rfl, h.same, rfl⟩

theorem Below.overrun_iff : Overrun base dn ↔ front = [] ∨ Text.dottedI ∈ tail := by
  constructor
  · rintro ⟨front', tail', h', hover⟩
    -- only one ending of the name is the base
    obtain ⟨hfront, rfl⟩ := Text.append_inj_of_lowerAfter_eq (h'.toList_eq.symm.trans h.toList_eq)
      (h'.lowerAfter_tail.trans h.lowerAfter_tail.symm)
    rwa [List.append_cancel_right hfront] at hover
  · exact fun hover => ⟨front, tail, h, hover⟩

end Below

end Name

/-- **The name of a result is read back**: it is the name that the entry has, up to the case of the base, unless more
than the base is cut off from it. Only of an entry elsewhere may no name be read, and only if its name cannot be. -/
theorem result_name_read_back (namespaceName base dn : String) (attributes : Option Attributes) :
    let full := joinNames [base, namespaceName]
    let result := Results.ofEntry full dn attributes
    (∃ read, Name.ofResult namespaceName base result false = .ok read ∧
      (Name.SameUpToBase full dn read ↔ ¬Name.Overrun full dn)) ∨
    (Name.ofResult namespaceName base result false = .error (.directory (.invalidDn dn)) ∧
      Name.Outside full dn ∧ Name.parse dn = .error (.directory (.invalidDn dn))) := by
  dsimp only
  have hrelative (name : String) := Name.ofResult_relative namespaceName base name (some (Attributes.decode attributes))
  generalize joinNames [base, namespaceName] = full at hrelative ⊢
  have hhanded := Name.handed_nameBelow full dn
  rw [Results.ofEntry]
  generalize Results.nameBelow full dn = named at hhanded ⊢
  cases hhanded with
  -- a name is overrun only below a base, so in the other cases it has to come back
  | everything hfull =>
    have hnot : ¬Name.Overrun full dn := fun ⟨_, _, h, _⟩ => h.nonempty hfull
    refine .inl ⟨dn, ?_, iff_of_true (.inl rfl) hnot⟩
    rw [hrelative, hfull]
    exact congrArg Except.ok (joinNames_singleton dn)
  | start hfull hsame =>
    have hnot : ¬Name.Overrun full dn := fun ⟨_, _, h, _⟩ => Bool.false_ne_true (h.notSame.symm.trans hsame)
    have hcase : Name.SameUpToBase full dn full := .inr ⟨[], dn.toList, rfl, by rwa [String.ofList_toList], rfl⟩
    refine .inl ⟨full, ?_, iff_of_true hcase hnot⟩
    rw [hrelative, joinNames_cons, if_pos rfl, joinNames_singleton]
  | below h =>
    refine .inl ⟨_, hrelative _, ?_⟩
    rw [h.sameUpToBase_iff, h.overrun_iff]
  | outside h =>
    have hnot : ¬Name.Overrun full dn := fun ⟨front, tail, hbelow, _⟩ => h.notBelow front tail hbelow
    rw [Name.ofResult_absolute, Name.ofUrl_urlOfName]
    rcases Name.parse_cases dn with ⟨parts, hparse⟩ | hparse
    · rw [hparse]
      exact .inl ⟨dn, rfl, iff_of_true (.inl rfl) hnot⟩
    · rw [hparse]
      exact .inr ⟨rfl, h, rfl⟩

/-! ### A run -/

/-- A dotted I in the base costs a letter of the name in front of it. -/
theorem name_cut_short_before_dotted_base :
    let result := Results.ofEntry (joinNames ["ou=İzmir", ""]) "uid=ada,ou=İzmir" none
    Name.ofResult "" "ou=İzmir" result false = .ok "uid=ad,ou=İzmir" ∧
      ¬Name.SameUpToBase (joinNames ["ou=İzmir", ""]) "uid=ada,ou=İzmir" "uid=ad,ou=İzmir" := by
  refine ⟨rfl, ?_⟩
  rintro (hsame | ⟨front, tail, hdn, -, hread⟩)
  · exact absurd hsame (by decide)
  · -- what stands before the base must be the same in both names
    have hread' : front ++ "ou=İzmir".toList = "uid=ad,".toList ++ "ou=İzmir".toList := hread.symm
    obtain rfl : front = "uid=ad,".toList := List.append_cancel_right hread'
    have hstart : "uid=ad,".toList <+: "uid=ada,ou=İzmir".toList := ⟨tail, hdn.symm⟩
    exact absurd hstart (by decide)

end DirectoryLogin
