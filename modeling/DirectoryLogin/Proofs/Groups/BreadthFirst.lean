import DirectoryLogin.Roles
import Mathlib.Data.List.Induction
import Mathlib.Data.List.Nodup
import Mathlib.Data.List.Perm.Subperm
/-!
# Groups in Breadth First Order

Groups lead to other groups. A search that looks up every group it has discovered, in the order of discovery, is a
breadth first search: it comes to the groups that it began with, then to those that the first of them leads to, and so
on. A group is known by the name of its entry; found again, under whatever role name, it is passed over.

- `Group.BreadthFirst`: a list is what such a search discovers.
- `Group.BreadthFirst.unique`: there is only one such list.
- `Group.BreadthFirst.mem_iff`: where no entry goes by two role names, its groups are exactly the reachable ones.
- `Group.Progress.step`: a queue of groups that have still to be looked up makes for such a search.
-/

namespace DirectoryLogin.Group

variable {find : Group → List Group} {initial groups found : List Group} {f g : Group} {dn : String}

/-! ## §1 Names of entries -/

theorem isIn_iff : isIn groups dn = true ↔ dn ∈ groups.map (·.dn) := by
  simp [isIn]

theorem isIn_eq_false_iff : isIn groups dn = false ↔ dn ∉ groups.map (·.dn) := by
  rw [← isIn_iff, Bool.not_eq_true]

/-- No two groups of the list have the same entry. -/
def Distinct (groups : List Group) : Prop :=
  (groups.map (·.dn)).Nodup

/-- In a list without repetitions an entry has one group. -/
theorem Distinct.eq (h : Distinct groups) (hf : f ∈ groups) (hg : g ∈ groups) (hdn : f.dn = g.dn) : f = g :=
  List.inj_on_of_nodup_map h hf hg hdn

theorem Distinct.concat (h : Distinct groups) (hnew : isIn groups g.dn = false) : Distinct (groups ++ [g]) := by
  rw [isIn_eq_false_iff] at hnew
  unfold Distinct
  rw [List.map_append, List.nodup_append]
  refine ⟨h, List.nodup_singleton _, ?_⟩
  rintro dn hdn other hother rfl
  rw [List.mem_singleton.mp hother] at hdn
  exact hnew hdn

theorem dns_put (groups : List Group) (g : Group) :
    (put groups g).map (·.dn) =
      if isIn groups g.dn then groups.map (·.dn) else groups.map (·.dn) ++ [g.dn] := by
  unfold put
  split
  · -- a group is replaced by one of the same entry
    rw [List.map_map]
    refine List.map_congr_left fun other _ => ?_
    by_cases hsame : other.dn = g.dn
    · simp [hsame]
    · simp [hsame]
  · simp

/-- Putting a group into a list repeats no entry. -/
theorem Distinct.put (h : Distinct groups) (g : Group) : Distinct (put groups g) := by
  unfold Distinct
  rw [dns_put]
  split
  · exact h
  · rename_i hnew
    have hconcat := h.concat (Bool.eq_false_iff.mpr hnew)
    rwa [Distinct, List.map_append] at hconcat

/-! ## §2 Discoveries -/

/-- One more group is come across. -/
def discover (known : List Group) (g : Group) : List Group :=
  if isIn known g.dn then known else known ++ [g]

/-- The groups of a list without those of entries that have come before. -/
def firsts (groups : List Group) : List Group :=
  groups.foldl discover []

@[simp] theorem firsts_concat (groups : List Group) (g : Group) :
    firsts (groups ++ [g]) = discover (firsts groups) g := by
  simp [firsts]

theorem isIn_discover : isIn (discover groups g) dn = (isIn groups dn || g.dn == dn) := by
  unfold discover
  split
  · rename_i hknown
    by_cases hsame : g.dn = dn
    · rw [hsame] at hknown
      simp [hknown, hsame]
    · simp [hsame]
  · simp [isIn]

/-- Every entry is among the discoveries. -/
theorem isIn_firsts (groups : List Group) (dn : String) : isIn (firsts groups) dn = isIn groups dn := by
  induction groups using List.reverseRecOn with
  | nil => rfl
  | append_singleton groups g ih =>
    rw [firsts_concat, isIn_discover, ih]
    simp [isIn]

/-- Discoveries repeat no entry. -/
theorem distinct_firsts (groups : List Group) : Distinct (firsts groups) := by
  induction groups using List.reverseRecOn with
  | nil => exact List.nodup_nil
  | append_singleton groups g ih =>
    rw [firsts_concat, discover]
    split
    · exact ih
    · rename_i hnew
      exact ih.concat (Bool.eq_false_iff.mpr hnew)

/-- What comes later adds to the discoveries, and changes none. -/
theorem firsts_prefix_append (groups later : List Group) : firsts groups <+: firsts (groups ++ later) := by
  induction later using List.reverseRecOn with
  | nil => simp only [List.append_nil, List.prefix_refl]
  | append_singleton later g ih =>
    rw [← List.append_assoc, firsts_concat]
    refine ih.trans ?_
    unfold discover
    split
    · exact List.prefix_refl _
    · exact List.prefix_append _ _

/-- **One answer**: of groups of different entries, those are new whose entry is not known. -/
theorem firsts_append (groups : List Group) (hfound : Distinct found) :
    firsts (groups ++ found) = firsts groups ++ found.filter fun f => !isIn (firsts groups) f.dn := by
  induction found using List.reverseRecOn with
  | nil => simp
  | append_singleton found g ih =>
    unfold Distinct at hfound
    rw [List.map_append, List.nodup_append] at hfound
    obtain ⟨hbefore, -, hnew⟩ := hfound
    have hnew : g.dn ∉ found.map (·.dn) := fun hdn => hnew g.dn hdn g.dn (List.mem_singleton_self _) rfl
    rw [← List.append_assoc, firsts_concat, ih hbefore, List.filter_append, ← List.append_assoc]
    -- the rest of the answer has nothing to say about this entry
    have hknown : isIn (firsts groups ++ found.filter fun f => !isIn (firsts groups) f.dn) g.dn =
        isIn (firsts groups) g.dn := by
      rw [isIn, List.any_append]
      refine Bool.or_eq_left_iff_imp.mpr fun hany => absurd ?_ hnew
      obtain ⟨f, hf, hsame⟩ := List.any_eq_true.mp hany
      exact List.mem_map.mpr ⟨f, List.mem_of_mem_filter hf, eq_of_beq hsame⟩
    rw [discover, hknown]
    rcases hcase : isIn (firsts groups) g.dn with _ | _
    · simp [hcase]
    · simp [hcase]

/-! ## §3 Reachable groups -/

/-- A group can be reached from some groups, if `find` says which groups each group leads to. -/
inductive Reachable (find : Group → List Group) (initial : List Group) : Group → Prop
  /-- The search begins with the group. -/
  | initial {g : Group} (h : g ∈ initial) : Reachable find initial g
  /-- A group that can be reached leads to the group. -/
  | next {g f : Group} (hg : Reachable find initial g) (h : f ∈ find g) : Reachable find initial f

/-- More can be reached if groups lead to more. -/
theorem Reachable.mono {find' : Group → List Group} {initial' : List Group} (h : Reachable find initial g)
    (hfind : ∀ g, find g ⊆ find' g) (hinitial : initial ⊆ initial') : Reachable find' initial' g := by
  induction h with
  | initial h => exact .initial (hinitial h)
  | next _ h ih => exact .next ih (hfind _ h)

/-- Whoever leads only to groups of a list is left behind nowhere. -/
theorem Reachable.mem_of_closed (h : Reachable find initial g) (hinitial : initial ⊆ groups)
    (hfind : ∀ g ∈ groups, find g ⊆ groups) : g ∈ groups := by
  induction h with
  | initial h => exact hinitial h
  | next _ h ih => exact hfind _ ih h

/-- The group can be reached by way of groups of the list. -/
def ReachableWithin (groups : List Group) (find : Group → List Group) (initial : List Group) (g : Group) : Prop :=
  Reachable (fun f => (find f).filter (· ∈ groups)) (initial.filter (· ∈ groups)) g

theorem ReachableWithin.reachable (h : ReachableWithin groups find initial g) : Reachable find initial g :=
  h.mono (fun _ => List.filter_subset_self _) (List.filter_subset_self _)

theorem ReachableWithin.mono {groups' : List Group} (h : ReachableWithin groups find initial g)
    (hsub : groups ⊆ groups') : ReachableWithin groups' find initial g :=
  Reachable.mono h
    (fun _ _ hf => List.mem_filter.mpr ⟨List.mem_of_mem_filter hf, by
      simpa using hsub (by simpa using (List.mem_filter.mp hf).2)⟩)
    fun _ hf => List.mem_filter.mpr ⟨List.mem_of_mem_filter hf, by
      simpa using hsub (by simpa using (List.mem_filter.mp hf).2)⟩

theorem ReachableWithin.of_initial (h : g ∈ initial) (hg : g ∈ groups) : ReachableWithin groups find initial g :=
  .initial (List.mem_filter.mpr ⟨h, decide_eq_true hg⟩)

theorem ReachableWithin.next (h : ReachableWithin groups find initial g) (hf : f ∈ find g) (hmem : f ∈ groups) :
    ReachableWithin groups find initial f :=
  Reachable.next h (List.mem_filter.mpr ⟨hf, decide_eq_true hmem⟩)

/-! ## §4 Breadth first search -/

/-- The list is what is discovered by a search that begins with the initial groups and looks up every group that it
has discovered, in the order of discovery. -/
structure BreadthFirst (find : Group → List Group) (initial groups : List Group) : Prop where
  /-- First the initial groups are come across, then those that each group of the list leads to, in turn. -/
  inOrder : groups = firsts (initial ++ groups.flatMap find)
  /-- The search has come to every group by way of groups that it has discovered. -/
  reached : ∀ g ∈ groups, ReachableWithin groups find initial g

namespace BreadthFirst

theorem distinct (h : BreadthFirst find initial groups) : Distinct groups := by
  rw [h.inOrder]
  exact distinct_firsts _

/-- The entry of every initial group is discovered. -/
theorem isIn_of_initial (h : BreadthFirst find initial groups) (hg : g ∈ initial) : isIn groups g.dn = true := by
  rw [h.inOrder, isIn_firsts, isIn_iff]
  exact List.mem_map_of_mem (List.mem_append_left _ hg)

/-- The entry of whatever a discovered group leads to is discovered. -/
theorem isIn_of_find (h : BreadthFirst find initial groups) (hg : g ∈ groups) (hf : f ∈ find g) :
    isIn groups f.dn = true := by
  rw [h.inOrder, isIn_firsts, isIn_iff]
  exact List.mem_map_of_mem (List.mem_append_right _ (List.mem_flatMap.mpr ⟨g, hg, hf⟩))

/-- **Nothing is missed and nothing is made up**: where no entry goes by two role names, the discovered groups are
exactly the reachable ones. -/
theorem mem_iff (h : BreadthFirst find initial groups)
    (hnames : ∀ f g, Reachable find initial f → Reachable find initial g → f.dn = g.dn → f = g) :
    g ∈ groups ↔ Reachable find initial g := by
  refine ⟨fun hg => (h.reached g hg).reachable, fun hg => ?_⟩
  -- a group of a discovered entry is the one that was discovered
  have hdiscovered {f : Group} (hf : Reachable find initial f) (hin : isIn groups f.dn = true) : f ∈ groups := by
    obtain ⟨f', hf', hdn⟩ := List.mem_map.mp (isIn_iff.mp hin)
    rw [← hnames f' f (h.reached f' hf').reachable hf hdn]
    exact hf'
  induction hg with
  | initial hg => exact hdiscovered (.initial hg) (h.isIn_of_initial hg)
  | next hg hf ih => exact hdiscovered (.next hg hf) (h.isIn_of_find ih hf)

/-! ### There is only one -/

/-- Halfway through, the search has discovered a part of what it discovers in the end. -/
theorem firsts_prefix (h : BreadthFirst find initial groups) (n : Nat) :
    firsts (initial ++ (groups.take n).flatMap find) <+: groups := by
  have hall := firsts_prefix_append (initial ++ (groups.take n).flatMap find) ((groups.drop n).flatMap find)
  rwa [List.append_assoc, ← List.flatMap_append, List.take_append_drop, ← h.inOrder] at hall

/-- Before the search has come to its end, it has discovered more than it has looked up. -/
theorem lt_length_firsts (h : BreadthFirst find initial groups) {n : Nat} (hn : n < groups.length) :
    n < (firsts (initial ++ (groups.take n).flatMap find)).length := by
  by_contra hle
  have hfirsts := h.firsts_prefix n
  generalize hknown : firsts (initial ++ (groups.take n).flatMap find) = known at hle hfirsts
  -- whoever is known has been looked up already, so that the search could go no further
  have hmem {f : Group} (hf : f ∈ groups) (hcome : f ∈ initial ++ (groups.take n).flatMap find) : f ∈ known := by
    have hin : isIn known f.dn = true := by
      rw [← hknown, isIn_firsts, isIn_iff]
      exact List.mem_map_of_mem hcome
    obtain ⟨f', hf', hdn⟩ := List.mem_map.mp (isIn_iff.mp hin)
    rw [← h.distinct.eq (hfirsts.subset hf') hf hdn]
    exact hf'
  have htaken {f : Group} (hf : f ∈ known) : f ∈ groups.take n :=
    (List.prefix_take_iff.mpr ⟨hfirsts, Nat.not_lt.mp hle⟩).subset hf
  have hall : groups ⊆ known := by
    intro g hg
    have hreached := h.reached g hg
    clear hg
    induction hreached with
    | initial hf =>
      obtain ⟨hf, hgroups⟩ := List.mem_filter.mp hf
      exact hmem (of_decide_eq_true hgroups) (List.mem_append_left _ hf)
    | next _ hf ih =>
      obtain ⟨hf, hgroups⟩ := List.mem_filter.mp hf
      exact hmem (of_decide_eq_true hgroups) (List.mem_append_right _ (List.mem_flatMap.mpr ⟨_, htaken ih, hf⟩))
  have hnodup : groups.Nodup := List.Nodup.of_map _ h.distinct
  have hlength : groups.length ≤ known.length := (hnodup.subperm hall).length_le
  omega

/-- The group at a place is settled by the groups before it. -/
theorem getElem?_eq (h : BreadthFirst find initial groups) {n : Nat} (hn : n < groups.length) :
    groups[n]? = (firsts (initial ++ (groups.take n).flatMap find))[n]? := by
  obtain ⟨rest, hrest⟩ := h.firsts_prefix n
  conv_lhs => rw [← hrest]
  exact List.getElem?_append_left (h.lt_length_firsts hn)

/-- Two searches that begin alike discover the same as long as neither has come to its end. -/
theorem take_eq {groups' : List Group} (h : BreadthFirst find initial groups) (h' : BreadthFirst find initial groups')
    {n : Nat} (hn : n ≤ groups.length) (hn' : n ≤ groups'.length) : groups.take n = groups'.take n := by
  induction n with
  | zero => rfl
  | succ n ih =>
    have hbefore := ih (Nat.le_of_succ_le hn) (Nat.le_of_succ_le hn')
    rw [List.take_add_one, List.take_add_one, h.getElem?_eq hn, h'.getElem?_eq hn', hbefore]

/-- Neither of two searches that begin alike goes further than the other. -/
theorem length_le {groups' : List Group} (h : BreadthFirst find initial groups)
    (h' : BreadthFirst find initial groups') : groups'.length ≤ groups.length := by
  by_contra hlt
  have hlt := Nat.not_le.mp hlt
  have htake := h.take_eq h' (Nat.le_refl _) (Nat.le_of_lt hlt)
  have hmore := h'.lt_length_firsts hlt
  -- the longer one would have to discover something where the other one has found nothing more
  rw [← htake, List.take_length, ← h.inOrder] at hmore
  exact Nat.lt_irrefl _ hmore

/-- **There is only one** list that a breadth first search discovers. -/
theorem unique {groups' : List Group} (h : BreadthFirst find initial groups)
    (h' : BreadthFirst find initial groups') : groups = groups' := by
  have hlength := Nat.le_antisymm (h'.length_le h) (h.length_le h')
  have htake := h.take_eq h' (Nat.le_refl _) (Nat.le_of_eq hlength)
  rwa [List.take_length, hlength, List.take_length] at htake

end BreadthFirst

/-! ## §5 The queue of a search -/

/-- A search on its way: `finished` are the groups that it has looked up, `waiting` those that it has discovered
since. -/
structure Progress (find : Group → List Group) (initial finished waiting : List Group) : Prop where
  inOrder : finished ++ waiting = firsts (initial ++ finished.flatMap find)
  reached : ∀ g ∈ finished ++ waiting, ReachableWithin (finished ++ waiting) find initial g

namespace Progress

variable {finished waiting : List Group}

theorem start (hinitial : Distinct initial) : Progress find initial [] initial where
  inOrder := by
    have hfirsts := firsts_append [] hinitial
    simpa [firsts, isIn] using hfirsts.symm
  reached g hg := .of_initial hg hg

/-- **One more group is looked up**: what it leads to goes to the end of the queue, as far as it is new. -/
theorem step (h : Progress find initial finished (g :: waiting)) (hfound : Distinct (find g)) :
    Progress find initial (finished ++ [g])
      (waiting ++ (find g).filter fun f => !isIn (finished ++ g :: waiting) f.dn) := by
  -- the new groups come behind all that are known
  have hknown : finished ++ [g] ++ (waiting ++ (find g).filter fun f => !isIn (finished ++ g :: waiting) f.dn) =
      (finished ++ g :: waiting) ++ (find g).filter fun f => !isIn (finished ++ g :: waiting) f.dn := by
    simp
  constructor
  · rw [hknown, List.flatMap_append, List.flatMap_singleton, ← List.append_assoc, firsts_append _ hfound, ← h.inOrder]
  · rw [hknown]
    intro f hf
    have hsub := List.subset_append_left (finished ++ g :: waiting)
      ((find g).filter fun f => !isIn (finished ++ g :: waiting) f.dn)
    -- a known group stays reachable, and a new one is reached from the group that was looked up
    rcases List.mem_append.mp hf with hold | hnew
    · exact (h.reached f hold).mono hsub
    · have hg := h.reached g (List.mem_append_right _ List.mem_cons_self)
      exact (hg.mono hsub).next (List.mem_of_mem_filter hnew) hf

/-- When nothing is waiting any more, the search has come to its end. -/
theorem breadthFirst (h : Progress find initial finished []) : BreadthFirst find initial finished := by
  obtain ⟨hinOrder, hreached⟩ := h
  rw [List.append_nil] at hinOrder hreached
  exact ⟨hinOrder, hreached⟩

/-- Whatever is known has been found, so that there is no more of it than of the names that can be found. -/
theorem length_le (h : Progress find initial finished waiting) {names : List String}
    (hnames : ∀ g, Reachable find initial g → (find g).map (·.dn) ⊆ names) :
    (finished ++ waiting).length ≤ initial.length + names.length := by
  have hdistinct : Distinct (finished ++ waiting) := h.inOrder ▸ distinct_firsts _
  -- every group goes by a name of the initial ones, or by one that was found
  have hsub : (finished ++ waiting).map (·.dn) ⊆ initial.map (·.dn) ++ names := by
    intro dn hdn
    rw [h.inOrder, ← isIn_iff, isIn_firsts, isIn_iff, List.map_append] at hdn
    rcases List.mem_append.mp hdn with hinitial | hfound
    · exact List.mem_append_left _ hinitial
    · obtain ⟨f, hf, rfl⟩ := List.mem_map.mp hfound
      obtain ⟨g, hg, hf⟩ := List.mem_flatMap.mp hf
      have hreachable := (h.reached g (List.mem_append_left _ hg)).reachable
      exact List.mem_append_right _ (hnames g hreachable (List.mem_map_of_mem hf))
  have hlength := (List.Nodup.subperm hdistinct hsub).length_le
  simpa using hlength

end Progress

end DirectoryLogin.Group
