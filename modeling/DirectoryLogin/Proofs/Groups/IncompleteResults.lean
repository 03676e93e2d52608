import DirectoryLogin.Proofs.Orderly
import DirectoryLogin.Proofs.Users.SingleEntry
import DirectoryLogin.Roles
/-!
# Groups in an Incomplete Answer

A search for groups counts the entries that are handed out. Where the settings pass over incomplete results, the groups
in front of the first reference to other servers are kept, and those behind it are lost.

- `Exchange.searchGroups_eq`: what comes of an answered search for groups.
- `Exchange.groupsOf_append`: the groups of some entries, and of more entries behind them.
- `groups_in_front_of_first_reference`: which groups are found, and when they are all groups of the answer.
-/

namespace DirectoryLogin

/-! ## §1 An answer without its references -/

namespace Response

/-- The answer without its references, and without the referral at its end. -/
def withoutReferences (r : Response) : Response where
  items := r.items.filter (!·.isReference)
  code := if r.code = referralCode then 0 else r.code

theorem withoutReferences_isComplete (r : Response) : r.withoutReferences.IsComplete := by
  refine ⟨fun item hitem => ?_, ?_⟩
  · simpa using (List.mem_filter.mp hitem).2
  · dsimp only [withoutReferences]
    split
    · exact of_decide_eq_true rfl
    · assumption

/-- An answer has the same entries without its references. -/
theorem entries_withoutReferences (r : Response) : r.withoutReferences.entries = r.entries := by
  rw [entries, entries, withoutReferences, List.filterMap_filter]
  refine List.filterMap_congr fun item _ => ?_
  cases item <;> rfl

end Response

namespace Exchange

/-! ## §2 A search for groups -/

/-- A search for the groups of a user is answered; the settings say who searches. -/
inductive GroupSearch (s : Settings) (user : User) (base filter : String) (ch : Channel) : Response → Channel → Prop
  | asService {r : Response} {ch' : Channel} (hservice : s.roleSearchAsUser = false)
      (hanswer : Answered base filter (roleControls s) ch r ch') : GroupSearch s user base filter ch r ch'
  | asUser {r : Response} {ch' : Channel} (huser : s.roleSearchAsUser = true)
      (hanswer : Answered base filter (roleControls s)
        (ch.withEnvironment (ch.connection.environment.asUser user.dn user.password)) r ch') :
      GroupSearch s user base filter ch r (ch'.withEnvironment (ch'.connection.environment.asService s))

/-- The groups that some entries are collected into, over this connection. -/
def groupsOf (s : Settings) (c : Connection) (base : String) (entries : List (String × Option Attributes)) :
    Except Failure (List Group) :=
  collectGroups s c.namespaceName base [] (entries.map fun e => Results.ofEntry (c.fullName base) e.1 e.2)

variable {s : Settings} {user : User} {base filter : String} {ch ch' : Channel} {r : Response}

/-- Putting the service back does not change how references are reported. -/
theorem throwsReferrals_asService (e : Environment) (s : Settings) :
    (e.asService s).throwsReferrals = e.throwsReferrals := by
  have hp : Environment.referral ≠ Environment.principal := by decide
  have hc : Environment.referral ≠ Environment.credentials := by decide
  simp only [Environment.throwsReferrals, Environment.value, Environment.asService, Environment.get?_assign, hp, hc,
    if_false]

theorem GroupSearch.searchAs_eq (h : GroupSearch s user base filter ch r ch') :
    (searchAs s user base filter (roleControls s)).perform ch =
      (.ok (Results.ofResponse (ch'.connection.fullName base) ch'.connection.environment.throwsReferrals r), ch') := by
  cases h with
  | asService hservice hanswer => rw [searchAs, hservice, if_neg (by decide), hanswer.search_eq]
  | asUser huser hanswer =>
    rw [searchAs, huser, if_pos rfl, boundAs_eq, bracketed, Session.perform_ofFunction, hanswer.search_eq]
    dsimp only [Channel.withEnvironment, Connection.fullName]
    rw [throwsReferrals_asService]

/-- **Searching for groups**: the entries up to the first reference are collected. A name among them that cannot be
composed counts before the end of the answer. -/
theorem searchGroups_eq (h : GroupSearch s user base filter ch r ch') :
    (searchGroups s user base filter).perform ch =
      ((groupsOf s ch'.connection base r.entriesRead).bind fun groups =>
        (s.endingOutcome (Results.ofResponse (ch'.connection.fullName base)
          ch'.connection.environment.throwsReferrals r).ending).map fun _ => groups, ch') := by
  unfold searchGroups
  rw [Session.perform_bind_of_ok h.searchAs_eq, Session.perform_bind_of_ok (perform_connection ch')]
  simp only [Results.items_ofResponse, groupsOf, Session.perform_bind, Session.perform_ofExcept,
    Settings.perform_checkEnding, Session.perform_pure]
  -- after a failure to collect, the end of the answer is not looked at
  rcases collectGroups _ _ _ _ _ with e | groups
  · rfl
  · dsimp only [Except.bind]
    rcases s.endingOutcome _ <;> rfl

/-- The groups of an answer are those in front of the first reference, where the end of the answer is passed over. -/
theorem searchGroups_of_passing (h : GroupSearch s user base filter ch r ch')
    (hpass : r.IsComplete ∨ s.adCompat = true ∧ ch'.connection.environment.throwsReferrals = false) :
    (searchGroups s user base filter).perform ch = (groupsOf s ch'.connection base r.entriesRead, ch') := by
  rw [searchGroups_eq h, Settings.endingOutcome_eq_ok_iff.mpr hpass]
  rcases groupsOf s ch'.connection base r.entriesRead <;> rfl

/-! ## §3 Entries behind others -/

theorem collectGroups_append {namespaceName : String} (groups : List Group) (results more : List SearchResult) :
    collectGroups s namespaceName base groups (results ++ more) =
      (collectGroups s namespaceName base groups results).bind fun found =>
        collectGroups s namespaceName base found more := by
  -- on the results in front; what they have been collected into is handed on
  induction results generalizing groups with
  | nil => rfl
  | cons result rest ih =>
    rw [List.cons_append, collectGroups, collectGroups]
    split
    · exact ih groups
    · rcases Name.ofResult namespaceName base result s.forceDnHexEscape with e | dn
      · rfl
      · dsimp only [bind, Except.bind]
        split
        · exact ih _
        · exact ih groups

/-- Entries that follow others add to their groups. -/
theorem groupsOf_append (s : Settings) (c : Connection) (base : String)
    (entries more : List (String × Option Attributes)) :
    groupsOf s c base (entries ++ more) =
      (groupsOf s c base entries).bind fun groups =>
        collectGroups s c.namespaceName base groups
          (more.map fun e => Results.ofEntry (c.fullName base) e.1 e.2) := by
  rw [groupsOf, List.map_append, collectGroups_append, groupsOf]

/-- The groups are collected from names that are relative to the connection's own. -/
theorem groupsOf_congr {c d : Connection} (h : c.namespaceName = d.namespaceName)
    (entries : List (String × Option Attributes)) : groupsOf s c base entries = groupsOf s d base entries := by
  simp only [groupsOf, Connection.fullName, h]

end Exchange

/-! ## §4 The theorem -/

open Exchange

/-- **The groups in front of the first reference.** Let a search for groups be answered, and let the settings pass over
incomplete results. What is found are the groups of the entries in front of the first reference, while the same answer
without its references and referral, over a connection of the same name, makes the groups of all its entries. The two
are the same exactly if collecting the entries behind the first reference changes nothing; in particular they are where
no entry stands behind a reference. -/
theorem groups_in_front_of_first_reference {s : Settings} {user : User} {base filter : String} {ch ch' : Channel}
    {r : Response} (hsearch : GroupSearch s user base filter ch r ch') (hcompat : s.adCompat = true)
    (hreferrals : ch'.connection.environment.throwsReferrals = false) :
    ((searchGroups s user base filter).perform ch).1 = groupsOf s ch'.connection base r.entriesRead ∧
    ∀ other other', GroupSearch s user base filter other r.withoutReferences other' →
      other'.connection.namespaceName = ch'.connection.namespaceName →
      ((searchGroups s user base filter).perform other).1 = groupsOf s ch'.connection base r.entries ∧
      (((searchGroups s user base filter).perform ch).1 = ((searchGroups s user base filter).perform other).1 ↔
        groupsOf s ch'.connection base r.entriesRead = (groupsOf s ch'.connection base r.entriesRead).bind fun groups =>
          collectGroups s ch'.connection.namespaceName base groups (r.entriesUnread.map fun e =>
            Results.ofEntry (ch'.connection.fullName base) e.1 e.2)) ∧
      (r.entriesUnread = [] →
        ((searchGroups s user base filter).perform ch).1 = ((searchGroups s user base filter).perform other).1) := by
  have hread : ((searchGroups s user base filter).perform ch).1 = groupsOf s ch'.connection base r.entriesRead :=
    congrArg Prod.fst (searchGroups_of_passing hsearch (.inr ⟨hcompat, hreferrals⟩))
  refine ⟨hread, fun other other' hother hname => ?_⟩
  have hall : ((searchGroups s user base filter).perform other).1 = groupsOf s ch'.connection base r.entries := by
    have hcomplete := r.withoutReferences_isComplete
    rw [searchGroups_of_passing hother (.inl hcomplete), hcomplete.entriesRead, r.entries_withoutReferences,
      groupsOf_congr hname]
  refine ⟨hall, ?_, fun hnone => ?_⟩
  · rw [hread, hall, r.entries_eq, groupsOf_append]
  · rw [hread, hall, r.entries_eq, hnone, List.append_nil]

/-! ### A run -/

/-- Settings that search for groups, and pass over references among the results. -/
def Settings.passingOverGroups : Settings where
  connectionUrl := some "ldap://directory"
  roleSearch := some "(member={0})"
  roleName := some "cn"
  adCompat := true

def Handle.passingOverGroups : Handle where
  snapshot := ⟨0, .passingOverGroups⟩
  pooled := false
  templates :=
    { userSearch := none, userPatterns := none, roleBase := none
      roleSearch := some ⟨"(member={0})", "(member=".toList.map .literal ++ .slot 0 :: [.literal ')']⟩ }

/-- A user without roles of its own. -/
def User.withoutRoles : User where
  username := some "ada"
  dn := some "uid=ada"

/-- A group as it stands in an answer. -/
def ResponseItem.ofGroup (name : String) : ResponseItem :=
  .entry ("cn=" ++ name) (some [("cn", .list [.text name])])

/-- The answer to a search for groups: two entries, with a reference between them. -/
def Response.ofTwoGroups : Response where
  items := [.ofGroup "birds", .reference (some ["ldap://elsewhere/"]), .ofGroup "owls"]

/-- A new connection to a directory that gives this answer to the search for a user's groups. -/
def Channel.answering (r : Response) : Channel where
  connection := { wire := 1, environment := .ofSettings .passingOverGroups 0 }
  world :=
    { wires := [{ isOpen := true }]
      directory := { answers := [("(member=uid=ada)", r.items.map .item)] } }

/-- The search of such a connection is answered so, and nothing in it is reported as a referral. -/
theorem Channel.answering_answered :
    ∃ ch ch', GroupSearch .passingOverGroups .withoutRoles "" "(member=uid=ada)" (.answering .ofTwoGroups)
        .ofTwoGroups ch ∧
      GroupSearch .passingOverGroups .withoutRoles "" "(member=uid=ada)"
        (.answering Response.ofTwoGroups.withoutReferences) Response.ofTwoGroups.withoutReferences ch' ∧
      ch'.connection.namespaceName = ch.connection.namespaceName ∧
      ch.connection.environment.throwsReferrals = false :=
  ⟨_, _, .asService rfl (.intro rfl rfl (Prod.ext rfl rfl)), .asService rfl (.intro rfl rfl (Prod.ext rfl rfl)), rfl,
    by decide +kernel⟩

/-- What the search finds in the answer is the group in front of the reference. -/
theorem birds_found_before_reference :
    ∃ ch ch', GroupSearch .passingOverGroups .withoutRoles "" "(member=uid=ada)" (.answering .ofTwoGroups)
        .ofTwoGroups ch ∧
      GroupSearch .passingOverGroups .withoutRoles "" "(member=uid=ada)"
        (.answering Response.ofTwoGroups.withoutReferences) Response.ofTwoGroups.withoutReferences ch' ∧
      ((searchGroups .passingOverGroups .withoutRoles "" "(member=uid=ada)").perform (.answering .ofTwoGroups)).1 =
        groupsOf .passingOverGroups ch.connection "" [("cn=birds", some [("cn", .list [.text "birds"])])] ∧
      ((searchGroups .passingOverGroups .withoutRoles "" "(member=uid=ada)").perform
          (.answering Response.ofTwoGroups.withoutReferences)).1 =
        groupsOf .passingOverGroups ch.connection "" Response.ofTwoGroups.entries := by
  obtain ⟨ch, ch', hsearch, hother, hname, hreferrals⟩ := Channel.answering_answered
  obtain ⟨hread, hwhole⟩ := groups_in_front_of_first_reference hsearch rfl hreferrals
  exact ⟨ch, ch', hsearch, hother, hread, (hwhole _ _ hother hname).1⟩

/-- **A role is lost**: the templates are those of the settings, the directory returns two named groups, and the user
has the role of one. Without the reference between them it has both. -/
theorem group_behind_reference_lost :
    Templates.compile .passingOverGroups = .ok Handle.passingOverGroups.templates ∧
    (∃ ch, GroupSearch .passingOverGroups .withoutRoles "" "(member=uid=ada)" (.answering .ofTwoGroups)
        .ofTwoGroups ch ∧
      ch.connection.environment.throwsReferrals = false) ∧
    ((searchGroups .passingOverGroups .withoutRoles "" "(member=uid=ada)").perform (.answering .ofTwoGroups)).1 =
      .ok [⟨"cn=birds", "birds"⟩] ∧
    ((searchGroups .passingOverGroups .withoutRoles "" "(member=uid=ada)").perform
      (.answering Response.ofTwoGroups.withoutReferences)).1 = .ok [⟨"cn=birds", "birds"⟩, ⟨"cn=owls", "owls"⟩] ∧
    ((rolesOf .passingOverGroups .withoutRoles).perform (.answering .ofTwoGroups)).1 = .ok (some ["birds"]) ∧
    ((rolesOf .passingOverGroups .withoutRoles).perform (.answering Response.ofTwoGroups.withoutReferences)).1 =
      .ok (some ["birds", "owls"]) := by
  obtain ⟨ch, -, hsearch, -, -, hreferrals⟩ := Channel.answering_answered
  exact ⟨by decide +kernel, ⟨ch, hsearch, hreferrals⟩, by decide +kernel, by decide +kernel, by decide +kernel,
    by decide +kernel⟩

end DirectoryLogin
