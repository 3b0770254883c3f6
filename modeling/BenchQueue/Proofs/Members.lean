import BenchQueue.Members
import Mathlib.Data.List.Induction
import Mathlib.Data.List.Nodup
import Mathlib.Data.List.Perm.Basic
import Mathlib.Data.List.Sort
import Mathlib.Data.String.Basic
import Mathlib.Order.Basic

/-!
# Sorted members

A list of named values is sorted when its names increase. The sorted form of a list is sorted, holds the
last value of each name, is the list itself if that is sorted already, and is a rearrangement of the list
exactly when no name occurs twice. The rearrangement of a list by name keeps what the sorted form drops: all
values of a name, one behind the other.
-/

namespace BenchQueue.Members

variable {α β : Type} {members : Members α} {name other : String} {value : α}

/-- The names increase. -/
def Increasing (members : Members α) : Prop := members.Pairwise fun a b => a.1 < b.1

/-- The names after an insertion are the one that was inserted and those that were there. -/
theorem mem_names_insert :
    other ∈ (members.insert name value).names ↔ other = name ∨ other ∈ members.names := by
  induction members with
  | nil => simp [insert, names]
  | cons head rest ih =>
    obtain ⟨first, old⟩ := head
    simp only [names] at ih
    by_cases hsame : name = first
    · simp [insert, names, hsame]
    · by_cases hbefore : name < first
      · simp [insert, names, hsame, hbefore]
      · simp only [insert, hsame, hbefore, if_false, names, List.map_cons, List.mem_cons, ih]
        tauto

/-- The insertion of a name that is not there adds one entry and moves the others at most. -/
theorem insert_perm (h : name ∉ members.names) :
    (members.insert name value).Perm ((name, value) :: members) := by
  induction members with
  | nil => exact List.Perm.refl _
  | cons head rest ih =>
    obtain ⟨first, old⟩ := head
    simp only [names, List.map_cons, List.mem_cons, not_or] at h
    by_cases hbefore : name < first
    · simp [insert, h.1, hbefore]
    · simp only [insert, h.1, hbefore, if_false]
      exact ((ih h.2).cons _).trans (List.Perm.swap ..)

/-- An insertion keeps the order of the names. -/
theorem Increasing.insert (h : members.Increasing) (name : String) (value : α) :
    (members.insert name value).Increasing := by
  induction members with
  | nil => exact List.pairwise_singleton _ _
  | cons head rest ih =>
    obtain ⟨first, old⟩ := head
    obtain ⟨hfirst, hrest⟩ := List.pairwise_cons.mp h
    by_cases hsame : name = first
    · subst hsame
      simp only [Members.insert, if_true]
      exact List.pairwise_cons.mpr ⟨hfirst, hrest⟩
    by_cases hbefore : name < first
    · simp only [Members.insert, hsame, hbefore, if_false, if_true]
      refine List.pairwise_cons.mpr ⟨fun entry hentry => ?_, h⟩
      rcases List.mem_cons.mp hentry with rfl | hlater
      · exact hbefore
      · exact hbefore.trans (hfirst entry hlater)
    · simp only [Members.insert, hsame, hbefore, if_false]
      refine List.pairwise_cons.mpr ⟨fun entry hentry => ?_, ih hrest⟩
      have hname : entry.1 ∈ (Members.insert name value rest).names := List.mem_map_of_mem hentry
      rcases mem_names_insert.mp hname with hentry | hold
      · rw [hentry]
        exact lt_of_le_of_ne (not_lt.mp hbefore) (Ne.symm hsame)
      · obtain ⟨older, holder, hsame⟩ := List.mem_map.mp hold
        rw [← hsame]
        exact hfirst older holder

/-- Sorting inserts the entries one after the other. -/
theorem sort_append_singleton (members : Members α) (name : String) (value : α) :
    sort (members ++ [(name, value)]) = (sort members).insert name value := by
  simp [sort]

/-- Sorted names increase. -/
theorem increasing_sort (members : Members α) : (sort members).Increasing := by
  induction members using List.reverseRecOn with
  | nil => exact List.Pairwise.nil
  | append_singleton members entry ih =>
    rw [sort_append_singleton]
    exact ih.insert ..

/-- Sorting keeps the names. -/
theorem mem_names_sort : name ∈ (sort members).names ↔ name ∈ members.names := by
  induction members using List.reverseRecOn with
  | nil => rfl
  | append_singleton members entry ih =>
    rw [sort_append_singleton, mem_names_insert, ih]
    simp [names, or_comm]

/-- The last value of a name is found in the sorted form. -/
theorem find?_sort (members : Members α) (name : String) :
    (sort members).find? name = (members.reverse.find? (·.1 = name)).map (·.2) := by
  induction members using List.reverseRecOn with
  | nil => rfl
  | append_singleton members entry ih =>
    rw [sort_append_singleton, find?_insert, ih]
    by_cases hname : entry.1 = name
    · simp [hname]
    · simp [hname, Ne.symm hname]

/-- If no name is there twice, the entries are exactly what is found under their names. -/
theorem mem_iff_find? (h : members.names.Nodup) {entry : String × α} :
    entry ∈ members ↔ members.find? entry.1 = some entry.2 := by
  induction members with
  | nil => simp [find?]
  | cons head rest ih =>
    obtain ⟨hfirst, hrest⟩ := List.nodup_cons.mp h
    by_cases hname : entry.1 = head.1
    · have hlater : entry ∉ rest := fun hmem => hfirst (List.mem_map.mpr ⟨entry, hmem, hname⟩)
      simp [find?, hname, hlater, Prod.ext_iff, eq_comm]
    · simp [find?, hname, ih hrest, Prod.ext_iff]

/-- Names that increase are distinct. -/
theorem Increasing.nodup_names (h : members.Increasing) : members.names.Nodup :=
  List.pairwise_map.mpr (h.imp ne_of_lt)

/-- The sorted form holds the same entries exactly when no name occurs twice. -/
theorem sort_perm_iff : (sort members).Perm members ↔ members.names.Nodup := by
  constructor
  · intro hperm
    exact (hperm.map Prod.fst).nodup_iff.mp (increasing_sort members).nodup_names
  · intro hnodup
    induction members using List.reverseRecOn with
    | nil => exact List.Perm.refl _
    | append_singleton members entry ih =>
      obtain ⟨hnames, -, hapart⟩ := List.nodup_append.mp (by simpa [names] using hnodup)
      have hnew : entry.1 ∉ (sort members).names := fun hmem =>
        hapart _ (mem_names_sort.mp hmem) _ (List.mem_singleton_self _) rfl
      rw [sort_append_singleton]
      exact (insert_perm hnew).trans (((ih hnames).cons entry).trans
        (List.perm_append_singleton entry members).symm)

/-- Two lists with increasing names and the same entries are the same. -/
theorem Increasing.eq_of_perm {others : Members α} (h : members.Increasing) (h' : others.Increasing)
    (hperm : members.Perm others) : members = others :=
  hperm.eq_of_pairwise (fun _ _ _ _ hab hba => absurd hab (lt_asymm hba)) h h'

/-- Entries that are in order stay as they are. -/
theorem Increasing.sort_eq (h : members.Increasing) : sort members = members :=
  (increasing_sort members).eq_of_perm h (sort_perm_iff.mpr h.nodup_names)

/-- Lists with increasing names in which each name has the same value are the same. -/
theorem Increasing.eq_of_find? {others : Members α} (h : members.Increasing) (h' : others.Increasing)
    (hfind : ∀ name, members.find? name = others.find? name) : members = others := by
  refine h.eq_of_perm h' ((List.perm_ext_iff_of_nodup h.nodup_names.of_map h'.nodup_names.of_map).mpr
    fun entry => ?_)
  rw [mem_iff_find? h.nodup_names, mem_iff_find? h'.nodup_names, hfind]

/-- The sorted form depends on nothing but the values of each name. -/
theorem sort_congr {others : Members α} (h : ∀ name, (members.filter (·.1 == name)).map (·.2) =
    (others.filter (·.1 == name)).map (·.2)) : sort members = sort others := by
  have hlast : ∀ (members : Members α) name,
      (sort members).find? name = ((members.filter (·.1 == name)).map (·.2)).getLast? := by
    intro members name
    rw [find?_sort, ← List.head?_filter, List.filter_reverse, List.head?_reverse, List.getLast?_map]
    rfl
  refine (increasing_sort members).eq_of_find? (increasing_sort others) fun name => ?_
  rw [hlast, hlast, h]

/-- Values may be changed before or after sorting. -/
theorem sort_map_values (f : α → β) (members : Members α) :
    sort (members.map fun entry => (entry.1, f entry.2)) =
      (sort members).map fun entry => (entry.1, f entry.2) := by
  have hinsert : ∀ (members : Members α) (name : String) (value : α),
      (insert name (f value) (members.map fun entry => (entry.1, f entry.2)) : Members β) =
        (members.insert name value).map fun entry => (entry.1, f entry.2) := by
    intro members name value
    induction members with
    | nil => rfl
    | cons head rest ih =>
      simp only [insert, List.map_cons]
      split_ifs <;> simp [ih]
  induction members using List.reverseRecOn with
  | nil => rfl
  | append_singleton members entry ih =>
    rw [List.map_append, List.map_singleton, sort_append_singleton, ih, hinsert,
      sort_append_singleton]

/-- What is found after all values have changed is the changed value. -/
theorem find?_map_values (f : α → β) (members : Members α) (name : String) :
    find? (members.map fun entry => (entry.1, f entry.2)) name = (members.find? name).map f := by
  induction members with
  | nil => rfl
  | cons entry members ih =>
    rw [List.map_cons, find?, find?, ih]
    split <;> rfl

/-! ## The rearrangement by name -/

/-- The entries in the order of their names; those with one name stay in their order. -/
def byName (members : Members α) : Members α := members.insertionSort fun a b => a.1 ≤ b.1

/-- The order of the entries does not depend on their values. -/
theorem byName_map_values (f : α → β) (members : Members α) :
    byName (members.map fun entry => (entry.1, f entry.2)) =
      (byName members).map fun entry => (entry.1, f entry.2) :=
  (List.map_insertionSort (fun a b : String × α => a.1 ≤ b.1) (fun a b : String × β => a.1 ≤ b.1)
    _ members fun _ _ _ _ => Iff.rfl).symm

/-- The entries of one name are the same before and after. -/
theorem filter_byName (members : Members α) (name : String) :
    (byName members).filter (·.1 == name) = members.filter (·.1 == name) := by
  -- The entries of one name are in order already, so that a stable sort keeps them as they are.
  have hordered : (members.filter (·.1 == name)).Pairwise fun a b => a.1 ≤ b.1 := by
    refine List.pairwise_iff_forall_sublist.mpr fun hpair => ?_
    have ha := eq_of_beq (List.mem_filter.mp (hpair.subset List.mem_cons_self)).2
    have hb := eq_of_beq
      (List.mem_filter.mp (hpair.subset (List.mem_cons_of_mem _ List.mem_cons_self))).2
    rw [ha, hb]
  have hkept : (members.filter (·.1 == name)).Sublist (byName members) :=
    List.sublist_insertionSort hordered List.filter_sublist
  have hfiltered := hkept.filter (·.1 == name)
  simp only [List.filter_filter, Bool.and_self] at hfiltered
  exact (hfiltered.eq_of_length
    ((List.perm_insertionSort _ members).filter _).length_eq.symm).symm

/-- Entries that were put in order first are sorted to the same result. -/
theorem sort_byName (members : Members α) : sort (byName members) = sort members :=
  sort_congr fun name => by rw [filter_byName]

end BenchQueue.Members
