import BenchQueue.Proofs.Run.Filter
import BenchQueue.Proofs.Scheduling.Deployment
import BenchQueue.Proofs.Scheduling.Queue
import BenchQueue.Proofs.Store.Recency
import BenchQueue.Worker.Cron
import Mathlib.Data.Finset.Card
import Mathlib.Data.Finset.Filter

/-!
# Submitting benchmarks at a commit

A list of benchmarks is submitted one after the other, and nobody else uses the queue or the records
meanwhile. Each benchmark whose work is neither queued nor finished becomes an element, in the order in
which the benchmarks occur first, and is compared with the last finished run of it at another commit.
Submitting the list again changes nothing.
-/

namespace BenchQueue.Worker

open BenchQueue.Scheduling
open BenchQueue.Store (Memory IsMostRecent)

/-! ## First occurrences -/

section FirstOccurrences

variable {α : Type} [BEq α] [LawfulBEq α]

/-- The first occurrences of some entries are those of the list that are such entries. -/
theorem eraseDups_filter (p : α → Bool) (l : List α) :
    (l.filter p).eraseDups = l.eraseDups.filter p := by
  match l with
  | [] => rfl
  | a :: rest =>
    have hothers := eraseDups_filter p (rest.filter fun b => !b == a)
    rw [List.eraseDups_cons]
    by_cases ha : p a = true
    · rw [List.filter_cons_of_pos ha, List.filter_cons_of_pos ha, List.eraseDups_cons, ← hothers,
        List.filter_comm]
    · rw [List.filter_cons_of_neg ha, List.filter_cons_of_neg ha, ← hothers, List.filter_filter]
      congr 1
      refine List.filter_congr fun b _ => ?_
      by_cases hb : b = a
      · subst hb
        simpa using ha
      · simp [hb]
termination_by l.length
decreasing_by exact Nat.lt_succ_of_le (List.length_filter_le _ _)

/-- What is left of a list without its repetitions has none. -/
theorem nodup_eraseDups (l : List α) : l.eraseDups.Nodup := by
  match l with
  | [] => exact List.nodup_nil
  | a :: rest =>
    rw [List.eraseDups_cons, List.nodup_cons]
    exact ⟨by simp, nodup_eraseDups _⟩
termination_by l.length
decreasing_by exact Nat.lt_succ_of_le (List.length_filter_le _ _)

end FirstOccurrences

/-! ## A queue and records for oneself -/

/-- Requests to the queue and the store are answered by a queue and records that nobody else uses. -/
def Unshared : Flow.Surroundings Effects (Queue × Memory) := fun effect s answer s' =>
  Answers effect s.1 answer s'.1 ∧ Replies effect s.2 answer s'.2

variable {α : Type} {q : Queue} {m : Memory} {scheduler : Config} {runConfig head benchmark : String}
  {benchmarks : List String} {elements : List Element} {Q : α → Queue × Memory → Prop}

/-- A request to the store is answered by the records, which nobody else uses. -/
theorem achieves_store {call : Store.Call} {reply : call.Reply} {next : call.Reply → Task α}
    (hreply : (m.answer call).1 = reply)
    (h : (next reply).Achieves Unshared (q, (m.answer call).2) Q) :
    (Flow.ask (.store call) next : Task α).Achieves Unshared (q, m) Q := by
  subst hreply
  refine ⟨⟨_, (q, (m.answer call).2), .outside rfl _ q, .store call m⟩, ?_⟩
  rintro answer ⟨q', m'⟩ ⟨hqueue, hrecords⟩
  cases hrecords with
  | other hne _ _ => exact absurd rfl (hne call)
  | store _ _ =>
    cases hqueue with
    | outside _ _ _ => exact h

/-- A request to the queue is answered by the queue, which nobody else uses. -/
theorem achieves_enqueue {retries : UInt32} {r : Request} {next : Submission → Task α}
    (h : (next (q.submit retries r).1).Achieves Unshared ((q.submit retries r).2, m) Q) :
    (Flow.ask (.enqueue retries r) next : Task α).Achieves Unshared (q, m) Q := by
  refine ⟨⟨_, ((q.submit retries r).2, m), .enqueue retries r q,
    .other (fun _ => Effect.noConfusion) _ m⟩, ?_⟩
  rintro answer ⟨q', m'⟩ ⟨hqueue, hrecords⟩
  cases hrecords with
  | other _ _ _ =>
    cases hqueue with
    | enqueue _ _ _ => exact h
    | outside houtside _ _ => cases houtside

/-! ## One benchmark -/

/-- The work of a benchmark at a commit is neither queued nor finished. -/
def IsNew (q : Queue) (m : Memory) (head benchmark : String) : Prop :=
  Cron.identifier head benchmark ∉ q.elements.map (·.identifier) ∧
    ∀ r ∈ m.records, r.status = .finished →
      ¬ (Run.Filter.forIdentifier (Cron.identifier head benchmark)).accepts r = true

instance (q : Queue) (m : Memory) (head : String) : DecidablePred (IsNew q m head) := fun _ =>
  inferInstanceAs (Decidable (_ ∧ _))

/-- A finished run of a benchmark at another commit that was submitted regularly. -/
def IsEarlier (head benchmark : String) (r : Run.Record) : Prop :=
  r.status = .finished ∧ r.identifier.source = cronSource ∧
    r.identifier.benchmarkType = benchmark ∧ r.identifier.gitRef ≠ head

/-- The runs that the work of a benchmark is compared with: none if no earlier run of it has finished,
else the most recent one, which is the run that the lookup by its identifier finds. -/
inductive Compared (m : Memory) (head benchmark : String) : List Run.Identifier → Prop
  | nothing (hnone : ∀ r ∈ m.records, ¬ IsEarlier head benchmark r) : Compared m head benchmark []
  | previous {r found : Run.Record} (hrecent : IsMostRecent m.records (IsEarlier head benchmark) r)
      (hother : r.identifier ≠ Cron.identifier head benchmark)
      (hfound : (m.answer (.findFinished (.forIdentifier r.identifier))).1 = .ok (some found))
      (hsame : found.id = r.id) :
      Compared m head benchmark [r.identifier]

/-- An element for a benchmark at a commit, as it is queued. -/
structure IsSubmitted (scheduler : Config) (runConfig head : String) (m : Memory) (e : Element) :
    Prop where
  configPath : e.configPath = runConfig
  retry : e.retry = scheduler.defaultRetries
  waits : e.executing = false
  notifyAlways : e.notifyAlways = false
  compared : Compared m head e.identifier.benchmarkType e.compareWith

/-- The queue with more elements behind its own. -/
def extended (q : Queue) (elements : List Element) : Queue :=
  { q with elements := q.elements ++ elements, nextSerial := q.nextSerial + elements.length }

/-- No elements extend the queue by nothing. -/
@[simp] theorem extended_nil : extended q [] = q := by
  simp [extended]

/-- Elements that follow one another extend the queue as all of them do at once. -/
theorem extended_extended (first second : List Element) :
    extended (extended q first) second = extended q (first ++ second) := by
  simp [extended, Nat.add_assoc]

/-- A finished run that the filter of an earlier run accepts is an earlier run too. -/
theorem IsEarlier.of_accepts {r found : Run.Record} (hr : IsEarlier head benchmark r)
    (hfound : Memory.finishedAnd (Run.Filter.forIdentifier r.identifier).accepts found = true) :
    IsEarlier head benchmark found := by
  obtain ⟨hfinished, haccepts⟩ := Bool.and_eq_true_iff.mp hfound
  obtain ⟨-, hfields⟩ := Run.Filter.forIdentifier_matches_iff.mp haccepts
  obtain ⟨-, hsource, htype, hgitRef⟩ := hr
  rw [IsEarlier, hfields]
  exact ⟨of_decide_eq_true hfinished, hsource, htype, hgitRef⟩

/-- The most recent earlier run is the one that the lookup by its identifier finds. -/
theorem found_of_isMostRecent {r : Run.Record}
    (hr : IsMostRecent m.records (IsEarlier head benchmark) r) :
    ∃ found, m.mostRecent? (Memory.finishedAnd (Run.Filter.forIdentifier r.identifier).accepts) =
      some found ∧ found.id = r.id := by
  have hown : Memory.finishedAnd (Run.Filter.forIdentifier r.identifier).accepts r = true := by
    simp [Memory.finishedAnd, hr.satisfies.1, Run.Filter.accepts,
      Run.Filter.forIdentifier_matchesIdentifier]
  obtain ⟨found, hfound⟩ := Option.ne_none_iff_exists'.mp fun hnone =>
    Store.mostRecent?_eq_none_iff.mp hnone r hr.mem hown
  have hrecent := Store.isMostRecent_of_mostRecent? hfound
  -- What the filter of the run accepts is among the runs of which it is the most recent one.
  have hle := hr.greatest found hrecent.mem (hr.satisfies.of_accepts hrecent.satisfies)
  exact ⟨found, hfound, Store.id_eq_of_recencyKey_eq (hle.antisymm (hrecent.greatest r hr.mem hown))⟩

/-- The choice of the store is what the work of a benchmark is compared with. -/
theorem compared_mostRecent? (m : Memory) (head benchmark : String) :
    Compared m head benchmark
      ((m.mostRecent? (Memory.finishedAnd (Memory.isPrevious cronSource benchmark head))).map
        (·.identifier)).toList := by
  have hearlier : (Memory.finishedAnd (Memory.isPrevious cronSource benchmark head) · = true) =
      IsEarlier head benchmark := by
    funext r
    simp [Memory.finishedAnd, Memory.isPrevious, IsEarlier, and_assoc]
  cases hchoice : m.mostRecent? (Memory.finishedAnd (Memory.isPrevious cronSource benchmark head)) with
  | none =>
    refine .nothing fun r hr => ?_
    rw [← hearlier]
    exact Store.mostRecent?_eq_none_iff.mp hchoice r hr
  | some r =>
    have hrecent := Store.isMostRecent_of_mostRecent? hchoice
    rw [hearlier] at hrecent
    obtain ⟨-, -, -, hgitRef⟩ := hrecent.satisfies
    obtain ⟨found, hfound, hsame⟩ := found_of_isMostRecent hrecent
    refine .previous hrecent (fun hidentifier => hgitRef ?_) (congrArg Except.ok hfound) hsame
    rw [hidentifier]
    rfl

/-- The request for a benchmark at a commit. -/
def requestFor (m : Memory) (runConfig head benchmark : String) : Request :=
  { identifier := Cron.identifier head benchmark, configPath := runConfig,
    compareWith :=
      ((m.mostRecent? (Memory.finishedAnd (Memory.isPrevious cronSource benchmark head))).map
        (·.identifier)).toList }

/-- Submitting a benchmark is submitting the request for it. -/
theorem achieves_submitBenchmark {submission : Submission} {s : Queue × Memory}
    (h : (submit scheduler (requestFor m runConfig head benchmark)).Achieves Unshared (q, m)
      fun result t => result = .ok submission ∧ t = s) :
    (Cron.submitBenchmark scheduler runConfig head benchmark).Achieves Unshared (q, m)
      fun result t => result = .ok (submission = .accepted) ∧ t = s := by
  refine achieves_store rfl ?_
  change ((submit scheduler (requestFor m runConfig head benchmark)).bind _).Achieves _ _ _
  refine h.bind fun result t hresult => ?_
  obtain ⟨rfl, rfl⟩ := hresult
  exact ⟨rfl, rfl⟩

/-- Work that is new becomes one more element. -/
theorem achieves_submitBenchmark_of_isNew (scheduler : Config) (runConfig : String)
    (hnew : IsNew q m head benchmark) :
    ∃ e : Element, e.identifier = Cron.identifier head benchmark ∧ e.serial = q.nextSerial ∧
      IsSubmitted scheduler runConfig head m e ∧
      (Cron.submitBenchmark scheduler runConfig head benchmark).Achieves Unshared (q, m)
        fun result s => result = .ok true ∧ s = (extended q [e], m) := by
  obtain ⟨hqueued, hfinished⟩ := hnew
  refine ⟨q.elementOf scheduler.defaultRetries (requestFor m runConfig head benchmark), rfl, rfl,
    ⟨rfl, rfl, rfl, rfl, compared_mostRecent? m head benchmark⟩, ?_⟩
  have hunfinished : (m.records.any fun r => r.status = .finished &&
      (Run.Filter.forIdentifier (Cron.identifier head benchmark)).accepts r) = false :=
    List.any_eq_false.mpr fun r hr => by simpa using hfinished r hr
  refine achieves_submitBenchmark (?_ : (submit scheduler _).Achieves _ _
    fun result s => result = .ok .accepted ∧ s = _)
  refine achieves_store (congrArg Except.ok hunfinished) (achieves_enqueue ?_)
  rw [Queue.submit_of_not_contains (mt Queue.contains_iff.mp hqueued)]
  exact ⟨rfl, rfl⟩

/-- Work that is queued or finished changes nothing. -/
theorem achieves_submitBenchmark_of_not_isNew (hnot : ¬ IsNew q m head benchmark) :
    (Cron.submitBenchmark scheduler runConfig head benchmark).Achieves Unshared (q, m)
      fun result s => result = .ok false ∧ s = (q, m) := by
  cases hany : m.records.any fun r => r.status = .finished &&
      (Run.Filter.forIdentifier (Cron.identifier head benchmark)).accepts r with
  | true =>
    refine achieves_submitBenchmark (?_ : (submit scheduler _).Achieves _ _
      fun result s => result = .ok (.duplicate .alreadyFinished) ∧ s = _)
    exact achieves_store (congrArg Except.ok hany) ⟨rfl, rfl⟩
  | false =>
    have hqueued : q.contains (Cron.identifier head benchmark) = true := by
      by_contra hfree
      exact hnot ⟨mt Queue.contains_iff.mpr hfree, by simpa using hany⟩
    refine achieves_submitBenchmark (?_ : (submit scheduler _).Achieves _ _
      fun result s => result = .ok (.duplicate .queued) ∧ s = _)
    refine achieves_store (congrArg Except.ok hany) (achieves_enqueue ?_)
    rw [Queue.submit_of_contains hqueued]
    exact ⟨rfl, rfl⟩

/-! ## A list of benchmarks -/

/-- The benchmarks whose work is new, in the order in which they occur first. -/
def newBenchmarks (q : Queue) (m : Memory) (head : String) (benchmarks : List String) : List String :=
  benchmarks.eraseDups.filter (IsNew q m head)

/-- Different benchmarks have different identifiers at one commit. -/
theorem identifier_injective (head : String) : Function.Injective (Cron.identifier head) :=
  fun _ _ h => congrArg Run.Identifier.benchmarkType h

/-- With the element of a benchmark queued, its work is no longer new and all other work is as before. -/
theorem isNew_extended_iff {e : Element} {other : String}
    (he : e.identifier = Cron.identifier head benchmark) :
    IsNew (extended q [e]) m head other ↔ IsNew q m head other ∧ other ≠ benchmark := by
  have hsame : Cron.identifier head other = Cron.identifier head benchmark ↔ other = benchmark :=
    (identifier_injective head).eq_iff
  simp only [IsNew, extended, List.map_append, List.map_singleton, he, List.mem_append,
    List.mem_singleton, hsame, not_or]
  tauto

/-- A benchmark that is new comes first, and is new no more once it is queued. -/
theorem newBenchmarks_cons_of_isNew {e : Element} (hnew : IsNew q m head benchmark)
    (he : e.identifier = Cron.identifier head benchmark) :
    newBenchmarks q m head (benchmark :: benchmarks) =
      benchmark :: newBenchmarks (extended q [e]) m head benchmarks := by
  unfold newBenchmarks
  rw [List.eraseDups_cons, List.filter_cons_of_pos (by simpa using hnew), eraseDups_filter,
    List.filter_filter]
  refine congrArg (benchmark :: ·) (List.filter_congr fun other _ => ?_)
  rw [Bool.eq_iff_iff]
  simp [isNew_extended_iff he]

/-- A benchmark that is not new makes no difference. -/
theorem newBenchmarks_cons_of_not_isNew (hnot : ¬ IsNew q m head benchmark) :
    newBenchmarks q m head (benchmark :: benchmarks) = newBenchmarks q m head benchmarks := by
  unfold newBenchmarks
  rw [List.eraseDups_cons, List.filter_cons_of_neg (by simpa using hnot), eraseDups_filter,
    List.filter_filter]
  refine List.filter_congr fun other _ => ?_
  by_cases hother : other = benchmark
  · subst hother
    simpa using hnot
  · simp [hother]

/-- Elements for the new work of a list of benchmarks, one for each of them. -/
structure AreSubmitted (scheduler : Config) (runConfig head : String) (q : Queue) (m : Memory)
    (benchmarks : List String) (elements : List Element) : Prop where
  identifiers : elements.map (·.identifier) =
    (newBenchmarks q m head benchmarks).map (Cron.identifier head)
  serials : elements.map (·.serial) = List.range' q.nextSerial elements.length
  each : ∀ e ∈ elements, IsSubmitted scheduler runConfig head m e

/-- The benchmarks are submitted one after the other, each to the queue that the ones before it left. -/
theorem achieves_submitRef (scheduler : Config) (runConfig : String) (q : Queue)
    (benchmarks : List String) :
    ∃ elements, AreSubmitted scheduler runConfig head q m benchmarks elements ∧
      (Cron.submitRef scheduler runConfig head benchmarks).Achieves Unshared (q, m)
        fun result s => result = .ok elements.length ∧ s = (extended q elements, m) := by
  induction benchmarks generalizing q with
  | nil =>
    refine ⟨[], ⟨rfl, rfl, by simp⟩, rfl, ?_⟩
    rw [extended_nil]
  | cons benchmark rest ih =>
    by_cases hnew : IsNew q m head benchmark
    · obtain ⟨e, he, hserial, hsubmitted, hfirst⟩ :=
        achieves_submitBenchmark_of_isNew scheduler runConfig hnew
      obtain ⟨elements, helements, hrest⟩ := ih (extended q [e])
      refine ⟨e :: elements, ⟨?_, ?_, ?_⟩, hfirst.bind ?_⟩
      · rw [List.map_cons, helements.identifiers, newBenchmarks_cons_of_isNew hnew he, List.map_cons, he]
      · rw [List.map_cons, helements.serials, hserial, List.length_cons, List.range'_succ]
        rfl
      · exact List.forall_mem_cons.mpr ⟨hsubmitted, helements.each⟩
      · rintro result s ⟨rfl, rfl⟩
        refine hrest.bind ?_
        rintro result s ⟨rfl, rfl⟩
        exact ⟨rfl, by rw [extended_extended]; rfl⟩
    · obtain ⟨elements, helements, hrest⟩ := ih q
      refine ⟨elements, ⟨?_, helements.serials, helements.each⟩,
        (achieves_submitBenchmark_of_not_isNew hnew).bind ?_⟩
      · rw [helements.identifiers, newBenchmarks_cons_of_not_isNew hnew]
      · rintro result s ⟨rfl, rfl⟩
        refine hrest.bind ?_
        rintro result s ⟨rfl, rfl⟩
        exact ⟨rfl, rfl⟩

/-- Once the new work of the benchmarks is queued, none of it is new. -/
theorem newBenchmarks_extended
    (h : AreSubmitted scheduler runConfig head q m benchmarks elements) :
    newBenchmarks (extended q elements) m head benchmarks = [] := by
  refine List.filter_eq_nil_iff.mpr fun benchmark hbenchmark hnew => ?_
  obtain ⟨hqueued, hfinished⟩ := of_decide_eq_true hnew
  rw [extended, List.map_append, List.mem_append, not_or] at hqueued
  have hmem : benchmark ∈ newBenchmarks q m head benchmarks :=
    List.mem_filter.mpr ⟨hbenchmark, decide_eq_true ⟨hqueued.1, hfinished⟩⟩
  apply hqueued.2
  rw [h.identifiers]
  exact List.mem_map_of_mem hmem

/-- There is one element for each benchmark whose work is new. -/
theorem AreSubmitted.length_eq
    (h : AreSubmitted scheduler runConfig head q m benchmarks elements) :
    elements.length = (benchmarks.toFinset.filter (IsNew q m head)).card := by
  have hlength : elements.length = (newBenchmarks q m head benchmarks).length := by
    simpa using congrArg List.length h.identifiers
  have hnodup : (newBenchmarks q m head benchmarks).Nodup := (nodup_eraseDups benchmarks).filter _
  rw [hlength, ← List.toFinset_card_of_nodup hnodup]
  congr 1
  ext benchmark
  simp [newBenchmarks]

/-- Submitting benchmarks at a commit answers how many different ones have new work. The queue gains an
element for each of these, in the order in which they occur first, and keeps all other elements as they
are; the records stay as they are too. Each new element is compared with the most recent finished run
of its benchmark at another commit, if there is one. Submitting them again at once changes nothing. -/
theorem submitRef_queues_new_work (scheduler : Config) (runConfig head : String)
    (benchmarks : List String) (q : Queue) (m : Memory) :
    ∃ elements,
      elements.map (·.identifier) =
        (benchmarks.eraseDups.filter (IsNew q m head)).map (Cron.identifier head) ∧
      elements.map (·.serial) = List.range' q.nextSerial elements.length ∧
      (∀ e ∈ elements, IsSubmitted scheduler runConfig head m e) ∧
      (Cron.submitRef scheduler runConfig head benchmarks).Achieves Unshared (q, m) fun result s =>
        result = .ok (benchmarks.toFinset.filter (IsNew q m head)).card ∧
        s = ({ q with elements := q.elements ++ elements,
                      nextSerial := q.nextSerial + elements.length }, m) ∧
        (Cron.submitRef scheduler runConfig head benchmarks).Achieves Unshared s fun again t =>
          again = .ok 0 ∧ t = s := by
  obtain ⟨elements, helements, hfirst⟩ := achieves_submitRef scheduler runConfig q benchmarks
  refine ⟨elements, helements.identifiers, helements.serials, helements.each, hfirst.mono ?_⟩
  rintro result s ⟨rfl, rfl⟩
  refine ⟨congrArg Except.ok helements.length_eq, rfl, ?_⟩
  obtain ⟨more, hmore, hsecond⟩ := achieves_submitRef scheduler runConfig (extended q elements) benchmarks
  have hnothing : more = [] := by
    rw [← List.map_eq_nil_iff, hmore.identifiers, newBenchmarks_extended helements, List.map_nil]
  subst hnothing
  rw [extended_nil] at hsecond
  exact hsecond

end BenchQueue.Worker
