import BenchQueue.Run.Record

/-!
# What the filter of an identifier accepts

The filter of an identifier compares every field of another one with its own, the planner of a micro
benchmark excepted. So what it accepts besides the identifier itself are the variants of a micro
benchmark with other planners.
-/

namespace BenchQueue.Run

/-- Two identifiers name the same micro benchmark with different planners. -/
def Identifier.PlannerVariant (i j : Identifier) : Prop :=
  i.kind = .micro ∧ i.plannerVersion ≠ j.plannerVersion ∧
    j = { i with plannerVersion := j.plannerVersion }

/-- The plain name of the micro benchmarks is one of theirs. -/
theorem Kind.ofType_microType : Kind.ofType microType = .micro := by decide +kernel

/-- Only one kind is that of the micro benchmarks. -/
theorem Kind.isMicro_iff {k : Kind} : k.isMicro = true ↔ k = .micro := by
  cases k <;> simp [isMicro]

namespace Filter

/-- Without a constraint every value is admitted. -/
@[simp] theorem admits_none {α : Type} [DecidableEq α] (value : α) : admits none value = true := rfl

/-- A constraint admits its own value only. -/
@[simp] theorem admits_some {α : Type} [DecidableEq α] {wanted value : α} :
    admits (some wanted) value = true ↔ wanted = value := by
  simp [admits]

/-- The planner is compared unless the benchmark is a micro benchmark. -/
theorem admits_planner_iff {i j : Identifier} :
    admits (forIdentifier i).plannerVersion j.plannerVersion = true ↔
      i.kind = .micro ∨ i.plannerVersion = j.plannerVersion := by
  unfold forIdentifier
  by_cases hmicro : i.kind = .micro
  · simp [hmicro, Kind.isMicro]
  · have hother : ¬ i.kind.isMicro = true := fun h => hmicro (Kind.isMicro_iff.mp h)
    simp [hmicro, hother]

/-- The filter of an identifier accepts the identifiers with the same fields, where the planner of a
micro benchmark may differ. -/
theorem forIdentifier_matches_iff {i j : Identifier} :
    (forIdentifier i).matchesIdentifier j = true ↔
      (i.kind = .micro ∨ i.plannerVersion = j.plannerVersion) ∧
        j = { i with plannerVersion := j.plannerVersion } := by
  have hfields : j = { i with plannerVersion := j.plannerVersion } ↔
      i.source = j.source ∧ i.gitRef = j.gitRef ∧ i.benchmarkType = j.benchmarkType ∧
        i.pullNumber = j.pullNumber := by
    cases i
    cases j
    simp [eq_comm]
  rw [hfields, ← admits_planner_iff]
  simp only [matchesIdentifier, Bool.and_eq_true, forIdentifier, admits_some]
  constructor
  · rintro ⟨⟨⟨⟨hsource, hgitRef⟩, htype⟩, hplanner⟩, hpull⟩
    exact ⟨hplanner, hsource, hgitRef, htype, hpull⟩
  · rintro ⟨hplanner, hsource, hgitRef, htype, hpull⟩
    exact ⟨⟨⟨⟨hsource, hgitRef⟩, htype⟩, hplanner⟩, hpull⟩

/-- Of the other identifiers, the filter accepts the planner variants. -/
theorem forIdentifier_matches_other_iff {i j : Identifier} (hne : i ≠ j) :
    (forIdentifier i).matchesIdentifier j = true ↔ i.PlannerVariant j := by
  rw [forIdentifier_matches_iff]
  constructor
  · rintro ⟨hplanner, hfields⟩
    have hdiffer : i.plannerVersion ≠ j.plannerVersion := fun hsame => by
      rw [← hsame] at hfields
      exact hne hfields.symm
    exact ⟨hplanner.resolve_right hdiffer, hdiffer, hfields⟩
  · rintro ⟨hmicro, -, hfields⟩
    exact ⟨Or.inl hmicro, hfields⟩

end Filter

end BenchQueue.Run
