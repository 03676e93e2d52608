import DirectoryLogin.Proofs.Connection.Requests
import DirectoryLogin.Proofs.Connection.Results
import DirectoryLogin.UserLookup
/-!
# Users Found by Search

A search for a user has to return exactly one entry. What is counted are the entries that are handed out: where the
settings pass over incomplete results, the entries behind the first reference to other servers are never looked at.

- `Exchange.userBySearch_eq`: what comes of an answered search.
- `Exchange.UserSearch.found_iff`: which answers a user is found by.
- `user_found_iff_one_entry_read`: the same, and when the answer holds no other entry.
-/

namespace DirectoryLogin

/-! ## §1 A search for a user -/

namespace Settings

/-- What comes of the failure after some results. -/
def endingOutcome (s : Settings) : Option Failure → Except Failure Unit
  | some e => if s.tolerates e then .ok () else .error e
  | none => .ok ()

theorem perform_checkEnding {σ : Type} (s : Settings) (ending : Option Failure) (t : σ) :
    (s.checkEnding ending : Session σ Unit).perform t = (s.endingOutcome ending, t) := by
  rcases ending with _ | e
  · rfl
  · rw [checkEnding, Session.perform_ite, endingOutcome]
    split <;> rfl

/-- The end of an answer is passed over if the answer is complete, or if the settings allow it and the connection does
not report references as referrals. -/
theorem endingOutcome_eq_ok_iff {s : Settings} {base : String} {asReferral : Bool} {r : Response} :
    s.endingOutcome (Results.ofResponse base asReferral r).ending = .ok () ↔
      r.IsComplete ∨ s.adCompat = true ∧ asReferral = false := by
  rw [← @Results.ending_ofResponse_eq_none_iff base asReferral]
  rcases hending : (Results.ofResponse base asReferral r).ending with _ | e
  · exact iff_of_true rfl (.inl rfl)
  have hkind := Results.kind_of_ending_ofItems base _ asReferral hending
  have htolerates : s.tolerates e = true ↔ s.adCompat = true ∧ asReferral = false := by
    rw [tolerates, hkind]
    cases asReferral <;> simp
  rw [← htolerates]
  by_cases h : s.tolerates e = true <;> simp [endingOutcome, h]

end Settings

namespace Exchange

/-- A search is answered: the bind before it goes through, and the directory returns an answer. -/
inductive Answered (base filter : String) (controls : SearchControls) (ch : Channel) : Response → Channel → Prop
  | intro {bound : Channel} {r : Response} {w : World} (hbind : bind.perform ch = (.ok (), bound))
      (hkind : bound.connection.kind = .standard)
      (hanswer : (World.searchWire bound.connection.wire
        (searchRequest bound.connection base filter controls)).perform bound.world = (.ok r, w)) :
      Answered base filter controls ch r { bound with world := w }

/-- The results of an answered search are those of the answer. -/
theorem Answered.search_eq {base filter : String} {controls : SearchControls} {ch ch' : Channel} {r : Response}
    (h : Answered base filter controls ch r ch') :
    (search base filter controls).perform ch =
      (.ok (Results.ofResponse (ch'.connection.fullName base) ch'.connection.environment.throwsReferrals r), ch') := by
  obtain ⟨hbind, hkind, hanswer⟩ := h
  rw [Exchange.search_eq, Session.perform_bind_of_ok hbind, searchBound_eq, hkind]
  simp only [hanswer]
  rfl

/-- The search for a user is answered: there is a filter, the bind before the search goes through, and the directory
returns an answer. -/
inductive UserSearch (h : Handle) (name : String) (ids : List String) (ch : Channel) : Response → Channel → Prop
  | answered {template : Template} {bound : Channel} {r : Response} {w : World}
      (hfilter : h.templates.userSearch = some template) (hbind : bind.perform ch = (.ok (), bound))
      (hkind : bound.connection.kind = .standard)
      (hanswer : (World.searchWire bound.connection.wire
        (searchRequest bound.connection h.settings.userBase (template.fill [some (Filter.escape name)])
          (userControls h.settings ids))).perform bound.world = (.ok r, w)) :
      UserSearch h name ids ch r { bound with world := w }

/-- The user that an entry is taken for, on this connection. -/
def userOfEntry (s : Settings) (name : String) (c : Connection) (entry : String × Option Attributes) :
    Except Failure User :=
  (Name.ofResult c.namespaceName s.userBase (Results.ofEntry (c.fullName s.userBase) entry.1 entry.2)
    s.forceDnHexEscape).map fun dn => User.ofEntry s (some name) dn (Attributes.decode entry.2)

/-- The message that a name belongs to several entries. -/
def ambiguityNote (name : String) : Message :=
  ⟨.info, .users, "Username " ++ name ++ " has multiple entries in the directory"⟩

variable {h : Handle} {name : String} {ids : List String} {ch ch' : Channel} {r : Response}

/-- The results of a search for a user are those of the answer. -/
theorem UserSearch.search_eq (hsearch : UserSearch h name ids ch r ch') :
    ∃ template, h.templates.userSearch = some template ∧
      (search h.settings.userBase (template.fill [some (Filter.escape name)])
          (userControls h.settings ids)).perform ch =
        (.ok (Results.ofResponse (ch'.connection.fullName h.settings.userBase)
          ch'.connection.environment.throwsReferrals r), ch') := by
  obtain ⟨hfilter, hbind, hkind, hanswer⟩ := hsearch
  exact ⟨_, hfilter, (Answered.intro hbind hkind hanswer).search_eq⟩

/-- **Searching for a user**: the answer counts up to its first reference. A second entry there makes the name
ambiguous, whatever follows; a single one is the user, if the end of the answer is passed over. -/
theorem userBySearch_eq (hsearch : UserSearch h name ids ch r ch') :
    (userBySearch h (some name) ids).perform ch =
      let c := ch'.connection
      let ending := h.settings.endingOutcome
        (Results.ofResponse (c.fullName h.settings.userBase) c.environment.throwsReferrals r).ending
      match r.entriesRead with
      | [] => (ending.map fun _ => none, ch')
      | [entry] => (ending.bind fun _ => (userOfEntry h.settings name c entry).map some, ch')
      | _ :: _ :: _ =>
        (.ok none, { ch' with world := ch'.world.write (ambiguityNote name) }) := by
  obtain ⟨template, hfilter, hrun⟩ := hsearch.search_eq
  unfold userBySearch
  rw [hfilter]
  dsimp only
  rw [Session.perform_bind_of_ok hrun, onlyResult, Results.items_ofResponse]
  rcases r.entriesRead with _ | ⟨entry, _ | ⟨other, rest⟩⟩
  · simp only [List.map_nil, Session.perform_bind, Settings.perform_checkEnding]
    rcases h.settings.endingOutcome _ <;> rfl
  · simp only [List.map_cons, List.map_nil, Session.perform_bind, Settings.perform_checkEnding]
    rcases h.settings.endingOutcome _ with _ | _
    · rfl
    · -- what is left reads the name of the entry
      simp only [Except.bind, userOfEntry, Session.perform_bind, Session.perform_pure, perform_connection,
        Session.perform_ofExcept]
      rcases Name.ofResult _ _ _ _ <;> rfl
  · rfl

/-- A user is found by a single entry in front of the first reference, and in no other way. -/
theorem UserSearch.found_iff (hsearch : UserSearch h name ids ch r ch') (u : User) :
    ((userBySearch h (some name) ids).perform ch).1 = .ok (some u) ↔
      (r.IsComplete ∨ h.settings.adCompat = true ∧ ch'.connection.environment.throwsReferrals = false) ∧
        ∃ entry, r.entriesRead = [entry] ∧ userOfEntry h.settings name ch'.connection entry = .ok u := by
  rw [userBySearch_eq hsearch, ← h.settings.endingOutcome_eq_ok_iff]
  dsimp only
  rcases r.entriesRead with _ | ⟨entry, _ | ⟨other, rest⟩⟩
  · rcases h.settings.endingOutcome _ <;> simp [Except.map]
  · rcases h.settings.endingOutcome _ with e | _
    · simp [Except.bind]
    · rcases huser : userOfEntry h.settings name ch'.connection entry with e | user
      · simp [Except.bind, Except.map, huser]
      · simp [Except.bind, Except.map, huser]
  · simp

end Exchange

/-! ## §2 The theorem -/

open Exchange

/-- **The only entry in front of the first reference.** Let the search for a name be answered. A user is found exactly
if a single entry stands in front of the first reference of the answer, the answer refers to no other server or the
settings pass over that, and the full name of the entry can be read; the user is made of this entry. It is the only
entry of the answer unless others stand behind the reference, which takes settings that pass over incomplete results.
Several entries in front of the first reference are never resolved. -/
theorem user_found_iff_one_entry_read {h : Handle} {name : String} {ids : List String} {ch ch' : Channel} {r : Response}
    (hsearch : UserSearch h name ids ch r ch') :
    (∀ u, ((userBySearch h (some name) ids).perform ch).1 = .ok (some u) ↔
      (r.IsComplete ∨ h.settings.adCompat = true ∧ ch'.connection.environment.throwsReferrals = false) ∧
        ∃ entry, r.entriesRead = [entry] ∧ userOfEntry h.settings name ch'.connection entry = .ok u) ∧
    (∀ u, ((userBySearch h (some name) ids).perform ch).1 = .ok (some u) →
      (r.entries.length = 1 ↔ r.entriesUnread = []) ∧ (h.settings.adCompat = false → r.entriesUnread = [])) ∧
    (1 < r.entriesRead.length → (userBySearch h (some name) ids).perform ch =
      (.ok none, { ch' with world := ch'.world.write (ambiguityNote name) })) := by
  refine ⟨hsearch.found_iff, fun u hu => ?_, fun hseveral => ?_⟩
  · obtain ⟨hend, entry, hread, -⟩ := (hsearch.found_iff u).mp hu
    rw [r.entries_eq, hread]
    refine ⟨by simp, fun hcompat => ?_⟩
    -- without tolerance the answer is complete, and then nothing stands behind a reference
    rcases hend with hcomplete | ⟨hcompat', -⟩
    · exact hcomplete.entriesUnread
    · rw [hcompat] at hcompat'
      cases hcompat'
  · rw [userBySearch_eq hsearch]
    rcases hread : r.entriesRead with _ | ⟨entry, _ | ⟨other, rest⟩⟩
    · simp [hread] at hseveral
    · simp [hread] at hseveral
    · rfl

/-! ### A run -/

/-- Settings that search for users, and pass over references among the results. -/
def Settings.passingOver : Settings where
  connectionUrl := some "ldap://directory"
  userSearch := some "(uid={0})"
  adCompat := true

def Handle.passingOver : Handle where
  snapshot := ⟨0, .passingOver⟩
  pooled := false
  templates :=
    { userSearch := some ⟨"(uid={0})", "(uid=".toList.map .literal ++ .slot 0 :: [.literal ')']⟩
      userPatterns := none, roleBase := none, roleSearch := none }

/-- The answer to the search for a name: two entries, with a reference between them. -/
def Response.ofTwoEntries : Response where
  items := [.entry "cn=ada" (some []), .reference (some ["ldap://elsewhere/"]), .entry "cn=other ada" (some [])]

/-- A new connection to a directory that gives this answer. -/
def Channel.withTwoEntries : Channel where
  connection := { wire := 1, environment := .ofSettings .passingOver 0 }
  world :=
    { wires := [{ isOpen := true }]
      directory := { answers := [("(uid=ada)", Response.ofTwoEntries.items.map .item)] } }

/-- The search of this connection is answered so, and nothing in it is reported as a referral. -/
theorem Channel.withTwoEntries_answered :
    ∃ ch, UserSearch .passingOver "ada" [] .withTwoEntries .ofTwoEntries ch ∧
      ch.connection.namespaceName = "" ∧ ch.connection.environment.throwsReferrals = false := by
  refine ⟨_, .answered rfl rfl rfl (Prod.ext rfl rfl), rfl, ?_⟩
  decide +kernel

/-- The templates are those of the settings, and the answer makes the first entry the user. -/
theorem ada_found_by_first_entry :
    Templates.compile .passingOver = .ok Handle.passingOver.templates ∧
      ∃ ch, UserSearch .passingOver "ada" [] .withTwoEntries .ofTwoEntries ch ∧
        ∃ u, ((userBySearch .passingOver (some "ada") []).perform .withTwoEntries).1 = .ok (some u) ∧
          u.dn = some "cn=ada" := by
  refine ⟨by decide +kernel, ?_⟩
  obtain ⟨ch, hsearch, hname, hreferrals⟩ := Channel.withTwoEntries_answered
  obtain ⟨u, huser, hdn⟩ : ∃ u, userOfEntry .passingOver "ada" ch.connection ("cn=ada", some []) = .ok u ∧
      u.dn = some "cn=ada" := by
    rw [userOfEntry, Connection.fullName, hname]
    exact ⟨_, rfl, by decide +kernel⟩
  exact ⟨ch, hsearch, u, ((user_found_iff_one_entry_read hsearch).1 u).mpr
    ⟨.inr ⟨rfl, hreferrals⟩, ("cn=ada", some []), rfl, huser⟩, hdn⟩

/-- **Two entries, and yet a user**: the search is answered with two entries, and the first one is found. -/
theorem name_of_two_entries_resolved :
    ∃ ch, UserSearch .passingOver "ada" [] .withTwoEntries .ofTwoEntries ch ∧
      Response.ofTwoEntries.entries.length = 2 ∧
      ((userBySearch .passingOver (some "ada") []).perform .withTwoEntries).1 =
        .ok (some { username := some "ada", dn := some "cn=ada" }) := by
  obtain ⟨ch, hsearch, -⟩ := Channel.withTwoEntries_answered
  exact ⟨ch, hsearch, rfl, by decide +kernel⟩

end DirectoryLogin
