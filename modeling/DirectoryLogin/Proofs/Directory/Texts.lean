import DirectoryLogin.Connection.Results
import DirectoryLogin.World
import Mathlib.Data.List.Basic
/-!
# The Texts of a Directory

A password can be accepted because the directory knows it, or because it is the value of an attribute that was read.
`Directory.texts` lists all of them, and what is read from a directory has no other texts.

- `Directory.texts_search`: answers to searches.
- `Results.texts_ofResponse`, `Attributes.values_subset`: what is made of the answers.
-/

namespace DirectoryLogin

/-! ## §1 Attributes -/

namespace Attributes

/-- Every text of every attribute. -/
def texts (attributes : Attributes) : List String :=
  attributes.flatMap fun a => decodedTexts a.2

theorem texts_subset {a b : Attributes} (h : a ⊆ b) : a.texts ⊆ b.texts := by
  intro t ht
  obtain ⟨entry, hentry, ht⟩ := List.mem_flatMap.mp ht
  exact List.mem_flatMap.mpr ⟨entry, h hentry, ht⟩

/-- Decoding spells the texts out. -/
theorem texts_decode (raw : Option Attributes) : (decode raw).texts = (raw.getD []).texts := by
  simp only [texts, decode, List.flatMap_map, decodedTexts, List.map_map, Function.comp_def, Value.attributeText,
    Value.toText, List.map_id']

theorem textsOf_subset (v : Value) : textsOf v ⊆ decodedTexts v := by
  cases v with
  | null => exact List.nil_subset _
  | list items => exact List.map_subset _ (List.filter_subset_self _)
  | _ => exact List.Subset.refl _

/-- The values of an attribute are among the texts. -/
theorem values_subset (name : Option String) (attributes : Attributes) :
    values name (some attributes) ⊆ attributes.texts := by
  rcases name with _ | name
  · exact List.nil_subset _
  · simp only [values, find?]
    rcases hfind : List.find? (fun a => Text.sameIgnoringCase a.1 name) attributes with _ | a
    all_goals rw [hfind]
    · exact List.nil_subset _
    · exact fun t ht => List.mem_flatMap.mpr ⟨a, List.mem_of_find?_eq_some hfind, textsOf_subset a.2 ht⟩

end Attributes

/-! ## §2 Answers -/

def ResponseItem.texts : ResponseItem → List String
  | .entry _ attributes => (attributes.getD []).texts
  | _ => []

/-- The texts of the entries in an answer. -/
def Response.texts (r : Response) : List String :=
  r.items.flatMap ResponseItem.texts

def Answer.texts : Answer → List String
  | .item i => i.texts
  | _ => []

namespace Directory

/-- Every text that the directory holds as a password or as the value of an attribute, those of its root included. -/
def texts (d : Directory) : List String :=
  d.passwords.map (·.2) ++ d.entries.flatMap (·.2.texts) ++ d.answers.flatMap (·.2.flatMap Answer.texts)
    ++ (d.fixedResponse.map Response.texts).getD [] ++ rootAttributes.texts

section Texts

variable {d : Directory} {t : String}

theorem mem_texts_iff : t ∈ d.texts ↔
    (∃ password ∈ d.passwords, password.2 = t) ∨ (∃ entry ∈ d.entries, t ∈ entry.2.texts) ∨
      (∃ answers ∈ d.answers, ∃ answer ∈ answers.2, t ∈ answer.texts) ∨
      (∃ response, d.fixedResponse = some response ∧ t ∈ response.texts) ∨ t ∈ rootAttributes.texts := by
  have hfixed : t ∈ (d.fixedResponse.map Response.texts).getD [] ↔
      ∃ response, d.fixedResponse = some response ∧ t ∈ response.texts := by
    rcases d.fixedResponse with _ | response <;> simp
  simp only [texts, List.mem_append, List.mem_map, List.mem_flatMap, hfixed, or_assoc]

/-- The passwords that the directory checks are among its texts. -/
theorem mem_texts_of_passwordOf? {user : Value} (h : d.passwordOf? user = some t) : t ∈ d.texts := by
  cases user with
  | text name =>
    obtain ⟨l₁, l₂, hpasswords, -⟩ := List.lookup_eq_some_iff.mp h
    exact mem_texts_iff.mpr (.inl ⟨(name, t), by simp [hpasswords], rfl⟩)
  | _ => cases h

theorem texts_lookup {dn : String} {attributes : Attributes} (h : d.entries.lookup dn = some attributes) :
    attributes.texts ⊆ d.texts := by
  obtain ⟨l₁, l₂, hentries, -⟩ := List.lookup_eq_some_iff.mp h
  exact fun t ht => mem_texts_iff.mpr (.inr (.inl ⟨(dn, attributes), by simp [hentries], ht⟩))

/-! ## §3 What searches return -/

theorem texts_select (wanted : Wanted) (attributes : Attributes) :
    (select wanted attributes).texts ⊆ attributes.texts := by
  cases wanted with
  | unspecified => exact List.nil_subset _
  | all => exact List.Subset.refl _
  | named names => exact Attributes.texts_subset (List.filter_subset_self _)

theorem texts_selectItem (wanted : Wanted) (item : ResponseItem) : (selectItem wanted item).texts ⊆ item.texts := by
  cases item with
  | entry dn attributes =>
    rcases attributes with _ | attributes
    · exact List.Subset.refl _
    · exact texts_select wanted attributes
  | _ => exact List.Subset.refl _

theorem texts_answer (filter : String) (wanted : Wanted) : (d.answer filter wanted).texts ⊆ d.texts := by
  intro t ht
  obtain ⟨item, hitem, ht⟩ := List.mem_flatMap.mp ht
  obtain ⟨answer, hanswer, hitem⟩ := List.mem_filterMap.mp hitem
  rcases hlookup : d.answers.lookup filter with _ | answers
  · rw [hlookup] at hanswer
    cases hanswer
  rw [hlookup] at hanswer
  -- the item is an entry that the directory holds, or it is spelled out
  cases answer with
  | known dn =>
    cases hitem
    have ht := texts_selectItem wanted _ ht
    rcases hentry : d.entries.lookup dn with _ | attributes
    · rw [hentry] at ht
      cases ht
    · rw [hentry] at ht
      exact texts_lookup hentry ht
  | item i =>
    cases hitem
    obtain ⟨l₁, l₂, hanswers, -⟩ := List.lookup_eq_some_iff.mp hlookup
    have hline : (filter, answers) ∈ d.answers := by simp [hanswers]
    exact mem_texts_iff.mpr (.inr (.inr (.inl ⟨_, hline, .item i, hanswer, texts_selectItem wanted i ht⟩)))
  | code n => cases hitem

/-- An answer with one entry has the texts of that entry. -/
theorem texts_single (dn : String) (attributes : Attributes) :
    Response.texts { items := [.entry dn (some attributes)] } = attributes.texts :=
  List.append_nil _

theorem texts_read {user : Value} {dn : String} {wanted : Wanted} {r : Response}
    (h : d.read user dn wanted = .ok r) : r.texts ⊆ d.texts := by
  unfold read at h
  -- the cases of a read, in order: the root, three kinds of entry without attributes, and an entry that is there
  split at h
  · cases h
    rw [texts_single]
    exact fun t ht => mem_texts_iff.mpr (.inr (.inr (.inr (.inr (texts_select wanted _ ht)))))
  split at h
  · cases h
  split at h
  · cases h
  split at h
  · cases h
    exact List.nil_subset _
  split at h
  · rename_i hentry
    cases h
    rw [texts_single]
    exact List.Subset.trans (texts_select wanted _) (texts_lookup hentry)
  · cases h

/-- **Answers to searches** have no texts but those of the directory. -/
theorem texts_search {user : Value} {request : SearchRequest} {r : Response}
    (h : d.search user request = .ok r) : r.texts ⊆ d.texts := by
  unfold search at h
  split at h
  · rename_i hfixed
    cases h
    exact fun t ht => mem_texts_iff.mpr (.inr (.inr (.inr (.inl ⟨_, hfixed, ht⟩))))
  · split at h
    · exact texts_read h
    · cases h
      exact texts_answer _ _
    · cases h
      exact texts_answer _ _

end Texts

end Directory

/-! ## §4 Results -/

namespace Results

/-- The texts of the results. -/
def texts (r : Results) : List String :=
  r.items.flatMap fun result => (result.attributes.getD []).texts

theorem texts_ofItems (base : String) (isReferred asReferral : Bool) (items : List ResponseItem) :
    (ofItems base isReferred asReferral items).texts ⊆ items.flatMap ResponseItem.texts := by
  induction items with
  | nil => exact List.nil_subset _
  | cons item rest ih =>
    cases item with
    | entry dn attributes =>
      -- the texts of an entry are read out of its attributes
      have hhead : ((ofEntry base dn attributes).attributes.getD []).texts = (attributes.getD []).texts :=
        Attributes.texts_decode attributes
      simp only [ofItems, cons, texts, List.flatMap_cons, hhead]
      exact List.append_subset.mpr
        ⟨List.subset_append_left _ _, List.Subset.trans ih (List.subset_append_right _ _)⟩
    | reference uris => exact List.nil_subset _
    | other => exact ih

theorem texts_ofResponse (base : String) (asReferral : Bool) (r : Response) :
    (ofResponse base asReferral r).texts ⊆ r.texts :=
  texts_ofItems base _ asReferral r.items

end Results

/-- The entry that a read returns has no texts but those of the answer. -/
theorem Response.texts_firstEntry? {r : Response} {attributes : Option Attributes}
    (h : r.firstEntry? = some attributes) : (attributes.getD []).texts ⊆ r.texts := by
  obtain ⟨item, hitem, hfirst⟩ := List.exists_of_findSome?_eq_some h
  intro t ht
  refine List.mem_flatMap.mpr ⟨item, hitem, ?_⟩
  cases item with
  | entry dn attributes' =>
    cases hfirst
    exact ht
  | _ => cases hfirst

end DirectoryLogin
