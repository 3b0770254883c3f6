import BenchQueue.Comparison.Progress
import BenchQueue.Measurement.Table
import BenchQueue.Proofs.Members
import BenchQueue.Proofs.Store.Statement
import BenchQueue.Proofs.Text.ByteOrder

/-!
# What the summary of a micro benchmark says

A summary has one line for each function that both results have and that got slower by more than the
threshold, in the order of the names. No such line is empty, so a summary is empty exactly when no function
got slower, and then a comparison that need not report in any case sends nothing.
-/

namespace BenchQueue.Measurement

variable {current target current' target' : MicroResults} {threshold : Float}

/-- A function with its time in the target and its time now. -/
structure Slowdown where
  name : String
  before : Float
  now : Float

namespace Slowdown

variable {s t : Slowdown} {entry : String × Float}

/-- The change of the time in percent. -/
def change (s : Slowdown) : Float := (s.now - s.before) / s.before * 100.0

/-- Its line in the report. -/
def line (s : Slowdown) : String := microLine s.name s.before s.now s.change

/-- The function got slower by more than a threshold. Without a time to compare with it did not. -/
structure Exceeds (s : Slowdown) (threshold : Float) : Prop where
  nonzero : (s.before == 0.0) = false
  slower : threshold < s.change

/-- Both results have the function, with these times. -/
structure Common (s : Slowdown) (current target : MicroResults) : Prop where
  now : current.find? s.name = some s.now
  before : target.find? s.name = some s.before

/-- A change that is not a number does not exceed any threshold. -/
theorem Exceeds.isNaN_eq_false (h : s.Exceeds threshold) : s.change.isNaN = false := by
  have hslower : threshold.toModel.unpack.lt s.change.toModel.unpack = true :=
    of_decide_eq_true (p := threshold.toModel < s.change.toModel) h.slower
  show s.change.toModel.unpack.isNaN = false
  cases hchange : s.change.toModel.unpack with
  | notANumber =>
    rw [hchange] at hslower
    cases hthreshold : threshold.toModel.unpack <;> rw [hthreshold] at hslower <;> cases hslower
  | _ => rfl

/-- The line about a function is never empty. -/
theorem line_ne_empty (s : Slowdown) : s.line ≠ "" := by
  intro hempty
  have hlength := congrArg String.length hempty
  have hbegin : "- `".length = 3 := rfl
  simp only [line, microLine, String.length_append, String.length_empty] at hlength
  omega

/-- The function of an entry of the current results, if it got slower than in the target. -/
def of? (target : MicroResults) (threshold : Float) (entry : String × Float) : Option Slowdown := do
  let before ← target.find? entry.1
  let s : Slowdown := ⟨entry.1, before, entry.2⟩
  if s.before == 0.0 then none else if threshold < s.change then some s else none

/-- An entry is a regression exactly if the target has a time for the function and this got worse by
more than the threshold. -/
theorem of?_eq_some : of? target threshold entry = some s ↔
    entry = (s.name, s.now) ∧ target.find? s.name = some s.before ∧ s.Exceeds threshold := by
  obtain ⟨name, now⟩ := entry
  constructor
  · intro h
    obtain ⟨before, hbefore, h⟩ := Option.bind_eq_some_iff.mp h
    dsimp only at h
    split_ifs at h with hzero hslower
    cases h
    exact ⟨rfl, hbefore, Bool.eq_false_of_not_eq_true hzero, hslower⟩
  · obtain ⟨name, before, now⟩ := s
    rintro ⟨⟨rfl, rfl⟩, hbefore, hnonzero, hslower⟩
    simp [of?, hbefore, hnonzero, hslower]

/-- The line of an entry is the line of what got slower. -/
theorem microLine?_eq (target : MicroResults) (threshold : Float) (entry : String × Float) :
    microLine? target threshold entry.1 entry.2 = (of? target threshold entry).map line := by
  unfold microLine? of? percentChange?
  cases target.find? entry.1 with
  | none => rfl
  | some before =>
    simp only [Option.bind_eq_bind, Option.bind_some]
    split_ifs with hzero hslower
    · rfl
    · exact if_pos hslower
    · exact if_neg hslower

end Slowdown

/-! ## The list of what got slower -/

/-- What got slower, in the order of the current results. -/
def slowdowns (current target : MicroResults) (threshold : Float) : List Slowdown :=
  current.filterMap (Slowdown.of? target threshold)

/-- The summary has the lines of what got slower, in their order. -/
theorem microSummary_eq (current target : MicroResults) (threshold : Float) :
    microSummary current target threshold =
      "\n".intercalate ((slowdowns current target threshold).map Slowdown.line) := by
  rw [microSummary, slowdowns, List.map_filterMap]
  simp only [Slowdown.microLine?_eq]

/-- What got slower is exactly what both results have and what exceeds the threshold. -/
theorem mem_slowdowns (h : current.Increasing) {s : Slowdown} :
    s ∈ slowdowns current target threshold ↔ s.Common current target ∧ s.Exceeds threshold := by
  have hentry : (s.name, s.now) ∈ current ↔ current.find? s.name = some s.now :=
    Members.mem_iff_find? h.nodup_names
  simp only [slowdowns, List.mem_filterMap, Slowdown.of?_eq_some]
  constructor
  · rintro ⟨entry, hmem, rfl, hbefore, hexceeds⟩
    exact ⟨⟨hentry.mp hmem, hbefore⟩, hexceeds⟩
  · rintro ⟨⟨hnow, hbefore⟩, hexceeds⟩
    exact ⟨_, hentry.mpr hnow, rfl, hbefore, hexceeds⟩

/-- What got slower is listed by increasing names. -/
theorem slowdowns_increasing (h : current.Increasing) :
    (slowdowns current target threshold).Pairwise fun s t => s.name < t.name := by
  refine List.pairwise_filterMap.mpr (h.imp fun hlt s hs t ht => ?_)
  rw [(Slowdown.of?_eq_some.mp hs).1, (Slowdown.of?_eq_some.mp ht).1] at hlt
  exact hlt

/-- Lists in the order of the names with the same functions are the same. -/
theorem slowdowns_congr (h : current.Increasing) (h' : current'.Increasing)
    (hcommon : ∀ s : Slowdown, s.Common current target ↔ s.Common current' target') :
    slowdowns current target threshold = slowdowns current' target' threshold := by
  have hnodup {current target : MicroResults} (h : current.Increasing) :
      (slowdowns current target threshold).Nodup :=
    (slowdowns_increasing h).imp fun hlt heq => absurd (congrArg Slowdown.name heq) hlt.ne
  have hperm : (slowdowns current target threshold).Perm (slowdowns current' target' threshold) :=
    (List.perm_ext_iff_of_nodup (hnodup h) (hnodup h')).mpr fun s => by
      rw [mem_slowdowns h, mem_slowdowns h', hcommon]
  exact hperm.eq_of_pairwise (fun _ _ _ _ hab hba => absurd hab (lt_asymm hba))
    (slowdowns_increasing h) (slowdowns_increasing h')

/-- Lines that are not empty make a text that is not empty. -/
theorem intercalate_eq_empty {lines : List String} (h : ∀ line ∈ lines, line ≠ "") :
    "\n".intercalate lines = "" ↔ lines = [] := by
  match lines with
  | [] => simp
  | [line] => simpa using h line List.mem_cons_self
  | line :: next :: lines =>
    rw [String.intercalate_cons_cons]
    simp [String.append_eq_empty_iff]

/-- The summary is empty exactly if nothing that both results have exceeds the threshold. -/
theorem microSummary_eq_empty (h : current.Increasing) :
    microSummary current target threshold = "" ↔
      ∀ s : Slowdown, s.Common current target → ¬ s.Exceeds threshold := by
  have hlines : ∀ line ∈ (slowdowns current target threshold).map Slowdown.line, line ≠ "" := by
    simp [Slowdown.line_ne_empty]
  rw [microSummary_eq, intercalate_eq_empty hlines, List.map_eq_nil_iff, List.eq_nil_iff_forall_not_mem]
  simp only [mem_slowdowns h, not_and]

/-- A row that is added keeps the results in the order of their names. -/
theorem increasing_of_addRow {row : Database.Row} (h : current.Increasing)
    (hadd : addRow current row = .ok current') : current'.Increasing := by
  obtain ⟨package, -, hadd⟩ := Store.Table.bind_eq_ok hadd
  obtain ⟨name, -, hadd⟩ := Store.Table.bind_eq_ok hadd
  obtain ⟨nanos, -, hadd⟩ := Store.Table.bind_eq_ok hadd
  rw [← Except.ok.inj hadd]
  exact h.insert ..

/-- The results that are read from a table are in the order of the names. -/
theorem increasing_of_readMicro {reply : Database.Reply} (h : readMicro reply = .ok current) :
    current.Increasing := by
  have hrows (rows : List Database.Row) (results : MicroResults) (hresults : results.Increasing)
      (hfold : rows.foldlM addRow results = .ok current) : current.Increasing := by
    induction rows generalizing results with
    | nil =>
      rw [← Except.ok.inj hfold]
      exact hresults
    | cons row rows ih =>
      rw [List.foldlM_cons] at hfold
      obtain ⟨results', hadd, hfold⟩ := Store.Table.bind_eq_ok hfold
      exact ih results' (increasing_of_addRow hresults hadd) hfold
  obtain ⟨result, -, hfold⟩ := Store.Table.bind_eq_ok h
  exact hrows result.rows [] List.Pairwise.nil hfold

/-- A comparison that need not report in any case sends nothing exactly about an empty summary. -/
theorem report_eq_pure {j : Comparison.Job} (hquiet : j.notifyAlways = false) (i : Run.Identifier)
    (summary : String) :
    Comparison.Progress.report j i summary = pure (.ok 0) ↔ summary = "" := by
  unfold Comparison.Progress.report
  by_cases hempty : summary = ""
  · simp [hempty, hquiet]
  · simp only [hempty, ne_eq, not_false_eq_true, true_or, if_true, iff_false]
    intro h
    cases h

/-! ## The summary -/

/-- The lines of a summary are those of the functions that both results have, that have a time other than
zero to compare with and that got slower by more than the threshold, each once and in the order of the bytes
of the names. A summary is empty exactly if there is no such function, and then a comparison that need not
report in any case sends nothing. What only one of the results has makes no difference. -/
theorem microSummary_lists_regressions (hcurrent : current.Increasing) (target : MicroResults)
    (threshold : Float) :
    ∃ slower : List Slowdown,
      microSummary current target threshold = "\n".intercalate (slower.map Slowdown.line) ∧
      (slower.Pairwise fun s t => Text.bytes s.name < Text.bytes t.name) ∧
      (∀ s, s ∈ slower ↔ s.Common current target ∧ s.Exceeds threshold) ∧
      (∀ s ∈ slower, s.change.isNaN = false) ∧
      (microSummary current target threshold = "" ↔
        ∀ s : Slowdown, s.Common current target → ¬ s.Exceeds threshold) ∧
      (∀ (j : Comparison.Job) (i : Run.Identifier), j.notifyAlways = false →
        (Comparison.Progress.report j i (microSummary current target threshold) = pure (.ok 0) ↔
          ∀ s : Slowdown, s.Common current target → ¬ s.Exceeds threshold)) ∧
      ∀ current' target' : MicroResults, current'.Increasing →
        (∀ s : Slowdown, s.Common current target ↔ s.Common current' target') →
        microSummary current' target' threshold = microSummary current target threshold := by
  have hempty : microSummary current target threshold = "" ↔
      ∀ s : Slowdown, s.Common current target → ¬ s.Exceeds threshold := microSummary_eq_empty hcurrent
  refine ⟨slowdowns current target threshold, microSummary_eq .., ?_, fun s => mem_slowdowns hcurrent,
    fun s hs => ((mem_slowdowns hcurrent).mp hs).2.isNaN_eq_false, hempty, ?_, ?_⟩
  · exact (slowdowns_increasing hcurrent).imp Text.bytes_lt_bytes_iff.mpr
  · intro j i hquiet
    rw [report_eq_pure hquiet, hempty]
  · intro current' target' hcurrent' hcommon
    rw [microSummary_eq, microSummary_eq, slowdowns_congr hcurrent hcurrent' hcommon]

/-- A function got slower, one has nothing to compare with, and one is missing on either side. -/
theorem microSummary_lists_regressions_mixed :
    Members.Increasing [("fib", 15.0), ("new", 7.0), ("sort", 2.0)] ∧
      ∃ slower : List Slowdown,
        microSummary [("fib", 15.0), ("new", 7.0), ("sort", 2.0)]
            [("fib", 10.0), ("old", 1.0), ("sort", 0.0)] defaultThreshold =
          "\n".intercalate (slower.map Slowdown.line) ∧
        ⟨"fib", 10.0, 15.0⟩ ∈ slower := by
  have hcurrent : Members.Increasing [("fib", 15.0), ("new", 7.0), ("sort", (2.0 : Float))] := by
    simp only [Members.Increasing, List.pairwise_cons]
    decide
  obtain ⟨slower, hlines, -, hmem, -⟩ := microSummary_lists_regressions hcurrent
    [("fib", 10.0), ("old", 1.0), ("sort", 0.0)] defaultThreshold
  refine ⟨hcurrent, slower, hlines, (hmem _).mpr ⟨⟨rfl, rfl⟩, ⟨?_, ?_⟩⟩⟩
  · decide +kernel
  · decide +kernel

end BenchQueue.Measurement
