import BenchQueue.Measurement.Table
import BenchQueue.Proofs.Members

/-!
# The names of measured functions

The results of a micro benchmark hold the time of a function under the name of its package, a point and
its own name. Two functions have one such name exactly if the package of one continues that of the other
by a point and the beginning of its function's name. So the results hold every row exactly if no two rows
are related in this way; otherwise the last of the rows with one name replaces the others.
-/

namespace BenchQueue.Measurement

open BenchQueue.Database (Row)

/-- What the results of a micro benchmark say about one function. -/
structure Measured where
  package : String
  name : String
  nanos : Float

namespace Measured

/-- The row of a function. -/
def row (f : Measured) : Row :=
  [⟨"pkg_name", some (.text f.package)⟩, ⟨"name", some (.text f.name)⟩,
    ⟨"ns_per_op", some (.float f.nanos)⟩]

/-- The name of a function in the results, with its time. -/
def entry (f : Measured) : String × Float := (functionName f.package f.name, f.nanos)

/-- The package of the second function continues that of the first one, up to where the names of both
functions end in the same way. -/
def Continues (f g : Measured) : Prop :=
  ∃ middle, g.package = f.package ++ "." ++ middle ∧ f.name = middle ++ "." ++ g.name

variable {f g : Measured} {functions : List Measured}

/-! ## Two functions with one name -/

/-- If one function continues the other, the results name both of them alike. -/
theorem Continues.entry_eq (h : f.Continues g) : g.entry.1 = f.entry.1 := by
  obtain ⟨middle, hpackage, hname⟩ := h
  simp only [entry, functionName, hpackage, hname, String.append_assoc]

/-- A function that continues another one is of another package. -/
theorem Continues.package_ne (h : f.Continues g) : f.package ≠ g.package := by
  obtain ⟨middle, hpackage, -⟩ := h
  intro hsame
  have hlength := congrArg String.length (hsame.trans hpackage)
  have hpoint : ".".length = 1 := rfl
  rw [String.length_append, String.length_append, hpoint] at hlength
  omega

/-- Of two texts with a point in one place, the longer beginning has what stands between the points. -/
theorem exists_middle {p n q m : String} {rest : List Char} (hq : q.toList = p.toList ++ rest)
    (htail : '.' :: n.toList = rest ++ '.' :: m.toList) (hne : p ≠ q) :
    ∃ middle, q = p ++ "." ++ middle ∧ n = middle ++ "." ++ m := by
  cases rest with
  | nil => exact absurd (String.toList_injective (by simpa using hq.symm)) hne
  | cons c middle =>
    obtain ⟨rfl, hn⟩ := List.cons_eq_cons.mp htail
    refine ⟨String.ofList middle, String.toList_injective ?_, String.toList_injective ?_⟩
    · simpa using hq
    · simpa using hn

/-- Functions of different packages have one name exactly if one package continues the other. -/
theorem continues_of_entry_eq (hname : f.entry.1 = g.entry.1) (hne : f.package ≠ g.package) :
    f.Continues g ∨ g.Continues f := by
  have hchars : f.package.toList ++ '.' :: f.name.toList = g.package.toList ++ '.' :: g.name.toList := by
    simpa [entry, functionName] using congrArg String.toList hname
  rcases List.append_eq_append_iff.mp hchars with ⟨rest, hlonger, htail⟩ | ⟨rest, hlonger, htail⟩
  · exact Or.inl (exists_middle hlonger htail hne)
  · exact Or.inr (exists_middle hlonger htail hne.symm)

/-- Two functions have one name exactly if they are the same, or one continues the other. -/
theorem entry_eq_iff : f.entry.1 = g.entry.1 ↔
    (f.package, f.name) = (g.package, g.name) ∨ f.Continues g ∨ g.Continues f := by
  constructor
  · intro hname
    by_cases hpackage : f.package = g.package
    · left
      have hchars := congrArg String.toList hname
      simp only [entry, functionName, hpackage, String.toList_append, List.append_cancel_left_eq]
        at hchars
      rw [hpackage, String.toList_injective hchars]
    · exact Or.inr (continues_of_entry_eq hname hpackage)
  · rintro (hsame | hcontinues | hcontinues)
    · obtain ⟨hpackage, hname⟩ := Prod.mk.inj hsame
      rw [entry, entry, hpackage, hname]
    · exact hcontinues.entry_eq.symm
    · exact hcontinues.entry_eq

/-! ## The results of a list of rows -/

/-- The row of a function adds its time under its name. -/
theorem addRow_row (results : MicroResults) (f : Measured) :
    addRow results f.row = .ok (results.insert f.entry.1 f.entry.2) := rfl

/-- The rows are put into the results one after the other. -/
theorem readMicro_rows (functions : List Measured) :
    readMicro (.ok { rows := functions.map row }) = .ok (Members.sort (functions.map entry)) := by
  have hfold : ∀ results : MicroResults, (functions.map row).foldlM addRow results =
      .ok ((functions.map entry).foldl (fun results e => results.insert e.1 e.2) results) := by
    induction functions with
    | nil => exact fun _ => rfl
    | cons f functions ih =>
      intro results
      rw [List.map_cons, List.foldlM_cons, addRow_row]
      exact ih _
  exact hfold []

/-- The names of different functions are different exactly if none continues another. -/
theorem nodup_entries_iff
    (hdistinct : functions.Pairwise fun f g => (f.package, f.name) ≠ (g.package, g.name)) :
    (Members.names (functions.map entry)).Nodup ↔
      ∀ f ∈ functions, ∀ g ∈ functions, ¬ f.Continues g := by
  have hnodup : (functions.map fun f => (f.package, f.name)).Nodup := List.pairwise_map.mpr hdistinct
  rw [Members.names, List.map_map, List.nodup_map_iff_inj_on hnodup.of_map]
  constructor
  · intro hinjective f hf g hg hcontinues
    exact hcontinues.package_ne
      (congrArg package (hinjective f hf g hg hcontinues.entry_eq.symm))
  · intro hapart f hf g hg hname
    rcases entry_eq_iff.mp hname with hsame | hcontinues | hcontinues
    · exact List.inj_on_of_nodup_map hnodup hf hg hsame
    · exact absurd hcontinues (hapart f hf g hg)
    · exact absurd hcontinues (hapart g hg f hf)

/-- Of rows for different functions, the results hold under each name the time in the last row with that
name. They hold each row, as one entry, exactly if no function continues another. -/
theorem every_function_kept_iff
    (hdistinct : functions.Pairwise fun f g => (f.package, f.name) ≠ (g.package, g.name)) :
    ∃ results, readMicro (.ok { rows := functions.map row }) = .ok results ∧
      (∀ name, results.find? name =
        (functions.reverse.find? fun f => f.entry.1 = name).map Measured.nanos) ∧
      (results.Perm (functions.map entry) ↔
        ∀ f ∈ functions, ∀ g ∈ functions, ¬ f.Continues g) := by
  refine ⟨_, readMicro_rows functions, fun name => ?_, ?_⟩
  · rw [Members.find?_sort, ← List.map_reverse, List.find?_map, Option.map_map]
    rfl
  · rw [Members.sort_perm_iff, nodup_entries_iff hdistinct]

/-- Two functions of one name in packages of which one continues the other. -/
def versions : List Measured :=
  [⟨"parser", "BenchmarkTokens", 1⟩, ⟨"parser.v2", "BenchmarkTokens", 2⟩]

/-- Both are kept. -/
theorem every_function_kept_iff_versions :
    (versions.Pairwise fun f g => (f.package, f.name) ≠ (g.package, g.name)) ∧
      ∃ results, readMicro (.ok { rows := versions.map row }) = .ok results ∧
        results.Perm (versions.map entry) := by
  have hdistinct : versions.Pairwise fun f g => (f.package, f.name) ≠ (g.package, g.name) := by
    decide
  obtain ⟨results, hresults, -, hkept⟩ := every_function_kept_iff hdistinct
  refine ⟨hdistinct, results, hresults, hkept.mpr fun f hf g hg => ?_⟩
  have hname : ∀ f ∈ versions, f.name = "BenchmarkTokens" := by simp [versions]
  rintro ⟨middle, -, hends⟩
  rw [hname f hf, hname g hg] at hends
  have hlength := congrArg String.length hends
  simp at hlength

/-- A function whose name has a point in it, and one of the package that continues up to this point. -/
def overlapping : List Measured :=
  [⟨"parser.BenchmarkTokens/v1", "5", 2⟩, ⟨"parser", "BenchmarkTokens/v1.5", 1⟩]

/-- Of these two, the results hold one. -/
theorem function_lost :
    ¬ ∀ functions : List Measured,
      (functions.Pairwise fun f g => (f.package, f.name) ≠ (g.package, g.name)) →
      ∀ results, readMicro (.ok { rows := functions.map row }) = .ok results →
        results.Perm (functions.map entry) := by
  intro hall
  have hdistinct : overlapping.Pairwise fun f g => (f.package, f.name) ≠ (g.package, g.name) := by
    decide
  have hnodup := Members.sort_perm_iff.mp (hall _ hdistinct _ (readMicro_rows overlapping))
  exact absurd hnodup (by decide)

end Measured

end BenchQueue.Measurement
