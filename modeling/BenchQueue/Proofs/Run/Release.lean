import BenchQueue.Proofs.Run.Contact
import BenchQueue.Proofs.Run.Verdict

/-!
# When a provider is released

Whatever is answered, an execution releases its provider once and as its last call on it, also after
a failure, unless it could not create or prepare its run. Then it has neither provisioned anything
nor run the workflow, and what the provider has prepared is not released.
-/

namespace BenchQueue.Run

open BenchQueue.Flow (noted)
open BenchQueue.Infra (Call Ended)

/-- Surroundings that answer everything in any way. -/
def anything : Flow.Surroundings Effects Unit := fun _ _ _ _ => True

/-- The provider that a call is made on. -/
def contacted? : Flow.Exchange Effects → Option Nat
  | ⟨.supervised handle _ _, _⟩ | ⟨.provider handle _, _⟩ => some handle
  | _ => none

/-- A history shows how far the calls on the provider are. -/
structure Contact.Shows (contact : Contact) (history : List (Flow.Exchange Effects)) : Prop where
  same : ∀ x ∈ history, ∀ handle, contacted? x = some handle → contact.provider = some handle
  ordered : (calls history).Pairwise fun c d => c.1.place < d.1.place
  below : ∀ c ∈ calls history, c.1.place < contact.next
  last : contact.next ≠ 0 → ∃ c, (calls history).getLast? = some c ∧ contact.next = c.1.place + 1

variable {α : Type} {contact contact' : Contact} {history : List (Flow.Exchange Effects)}
  {handle next : Nat} {Q : α → Contact → Prop}

/-- Before anything was asked, no provider is known and no call was made. -/
theorem shows_nil : ({} : Contact).Shows [] where
  same := fun _ hx => absurd hx List.not_mem_nil
  ordered := List.Pairwise.nil
  below := fun _ hc => absurd hc List.not_mem_nil
  last := fun hnext => absurd rfl hnext

/-- An exchange without a call shows nothing new. -/
theorem Contact.Shows.quiet {x : Flow.Exchange Effects} (h : contact.Shows history)
    (hcall : called? x = none) (hcontact : contacted? x = none)
    (hprovider : ∀ handle, contact.provider = some handle → contact'.provider = some handle)
    (hnext : contact'.next = contact.next) : contact'.Shows (history ++ [x]) := by
  have hcalls : calls (history ++ [x]) = calls history := by
    rw [calls, Flow.filterMap_concat, hcall]
    exact List.append_nil _
  constructor
  · intro y hy handle hhandle
    rcases List.mem_append.mp hy with hy | hy
    · exact hprovider handle (h.same y hy handle hhandle)
    · rw [List.mem_singleton.mp hy, hcontact] at hhandle
      cases hhandle
  · rw [hcalls]
    exact h.ordered
  · rw [hcalls, hnext]
    exact h.below
  · rw [hcalls, hnext]
    exact h.last

/-- A call at a place that is still open is the last one. -/
theorem Contact.Shows.call {x : Flow.Exchange Effects} {call : Call} {ended : Ended call.Answer}
    (h : (⟨some handle, next⟩ : Contact).Shows history) (hcall : called? x = some ⟨call, ended⟩)
    (hcontact : contacted? x = some handle) (hplace : next ≤ call.place) :
    (⟨some handle, call.place + 1⟩ : Contact).Shows (history ++ [x]) := by
  have hcalls : calls (history ++ [x]) = calls history ++ [⟨call, ended⟩] := by
    rw [calls, Flow.filterMap_concat, hcall]
    rfl
  constructor
  · intro y hy handle' hhandle
    rcases List.mem_append.mp hy with hy | hy
    · exact h.same y hy handle' hhandle
    · rw [List.mem_singleton.mp hy, hcontact] at hhandle
      exact hhandle
  · rw [hcalls, List.pairwise_append]
    refine ⟨h.ordered, List.pairwise_singleton _ _, fun d hd c' hc' => ?_⟩
    obtain rfl := List.mem_singleton.mp hc'
    exact Nat.lt_of_lt_of_le (h.below d hd) hplace
  · intro d hd
    rw [hcalls] at hd
    rcases List.mem_append.mp hd with hd | hd
    · exact Nat.lt_succ_of_lt (Nat.lt_of_lt_of_le (h.below d hd) hplace)
    · rw [List.mem_singleton.mp hd]
      exact Nat.lt_succ_self _
  · intro _
    exact ⟨⟨call, ended⟩, by rw [hcalls, List.getLast?_concat], rfl⟩

/-- A request that keeps the order of the calls leaves a history that shows how far they are. -/
theorem Contact.Shows.conducts {effect : Effect} {answer : effect.Answer}
    (h : contact.Shows history) (hconducts : Conducts effect contact answer contact') :
    contact'.Shows (history ++ [⟨effect, answer⟩]) := by
  cases hconducts with
  | create handle => exact h.quiet rfl rfl (fun _ hnone => by cases hnone) rfl
  | refuse e => exact h.quiet rfl rfl (fun _ hsame => hsame) rfl
  | call hplace _ => exact h.call rfl rfl hplace
  | supervise hplace _ _ => exact h.call rfl rfl hplace
  | other heffect _ _ =>
    cases effect with
    | createProvider _ | provider _ _ | supervised _ _ _ => cases heffect
    | _ => exact h.quiet rfl rfl (fun _ hsame => hsame) rfl

/-- Where there is an answer to a request, every answer leads on. -/
theorem Conducts.any {effect : Effect} {answer : effect.Answer}
    (h : Conducts effect contact answer contact') (another : effect.Answer) :
    ∃ contact'', Conducts effect contact another contact'' := by
  cases h with
  | create _ | refuse _ =>
    cases another with
    | ok handle => exact ⟨_, .create handle⟩
    | error e => exact ⟨_, .refuse e⟩
  | call hplace _ => exact ⟨_, .call hplace another⟩
  | supervise hplace hexclusive _ => exact ⟨_, .supervise hplace hexclusive another⟩
  | other heffect _ _ => exact ⟨_, .other heffect another contact⟩

/-- What is achieved in the order of the calls is achieved whatever is answered, and the history
shows how far the calls are. -/
theorem achieves_anything {flow : Task α} (h : flow.Achieves Conducts contact Q)
    (hshows : contact.Shows history) :
    flow.Achieves (noted anything) ((), history) fun a t =>
      ∃ contact', Q a contact' ∧ contact'.Shows t.2 := by
  induction flow generalizing contact history with
  | done a => exact ⟨contact, h, hshows⟩
  | ask effect next ih =>
    obtain ⟨⟨sample, _, hsample⟩, hnext⟩ := h
    refine Flow.achieves_noted ⟨sample, (), trivial⟩ fun answer _ _ => ?_
    obtain ⟨contact', hconducts⟩ := hsample.any answer
    exact ih answer (hnext answer contact' hconducts) (hshows.conducts hconducts)

/-- Whatever is answered, an execution calls one provider only, in the order of the calls. If it
could not create or prepare its run, it has neither provisioned nor run anything nor cleaned up;
otherwise the last call has cleaned up, whether the execution succeeded or failed. -/
theorem executeFile_releases (deadline : Duration) (identifier : Identifier) (configPath : String) :
    (executeFile deadline identifier configPath).Achieves (noted anything) ((), [])
      fun result t =>
        (∃ provider : Option Nat, ∀ x ∈ t.2, ∀ handle, contacted? x = some handle →
          provider = some handle) ∧
        (calls t.2).Pairwise (fun c d => c.1.place < d.1.place) ∧
        (Unprepared result ∧ (∀ c ∈ calls t.2, c.1.place ≤ Call.prepare.place) ∨
          ¬ Unprepared result ∧ ∃ ended, (calls t.2).getLast? = some ⟨.cleanUp, ended⟩) := by
  have hconducts := executeFile_conducts deadline identifier configPath
  refine (achieves_anything hconducts shows_nil).mono fun result t ht => ?_
  obtain ⟨contact, hconcludes, hshows⟩ := ht
  refine ⟨⟨contact.provider, hshows.same⟩, hshows.ordered, ?_⟩
  rcases hconcludes with ⟨hunprepared, hnext⟩ | ⟨hprepared, hnext⟩
  · exact Or.inl ⟨hunprepared, fun c hc =>
      Nat.le_of_lt_succ (Nat.lt_of_lt_of_le (hshows.below c hc) hnext)⟩
  · obtain ⟨⟨call, ended⟩, hlast, hplace⟩ := hshows.last (by rw [hnext]; decide)
    obtain rfl : call = .cleanUp := Infra.Call.eq_cleanUp_of_place (by
      have hsix : 7 = call.place + 1 := hnext.symm.trans hplace
      omega)
    exact Or.inr ⟨hprepared, ended, hlast⟩

/-- A flow may end as it does after any one answer to its first request. -/
theorem ends_anything {effect : Effect} {next : effect.Answer → Task α} {a : α}
    {t : Unit × List (Flow.Exchange Effects)} (answer : effect.Answer)
    (hnext : (next answer).Ends (noted anything) ((), history ++ [⟨effect, answer⟩]) a t) :
    (Flow.ask effect next : Task α).Ends (noted anything) ((), history) a t :=
  .ask ⟨trivial, rfl⟩ hnext

/-- What an execution asks whose provider fails to prepare. -/
def unpreparedHistory : List (Flow.Exchange Effects) :=
  [⟨.readFile "micro.toml", Except.ok ""⟩, ⟨.newId, Uuid.nil⟩, ⟨.createProvider {}, Except.ok 0⟩,
    ⟨.provider 0 (.setConfig {}), ()⟩, ⟨.provider 0 (.setExecUuid .nil), ()⟩,
    ⟨.wallClock, (default : Timestamp)⟩,
    ⟨.store (.insert (.created .nil microIdentifier default)), Except.ok ()⟩,
    ⟨.provider 0 (.setTags (State.tags microIdentifier)), ()⟩,
    ⟨.makeDirs (Machine.joinNames ({} : Config).rootDir Uuid.nil.text), Except.ok ()⟩,
    ⟨.provider 0 .prepare, Except.error (.prepare "no machine")⟩]

/-- An execution may prepare its provider and end without a release. -/
theorem prepared_without_release : ∃ e,
    (executeFile defaultDeadline microIdentifier "micro.toml").Ends (noted anything) ((), [])
      (.error e) ((), unpreparedHistory) ∧
    (∃ ended, ⟨.prepare, ended⟩ ∈ calls unpreparedHistory) ∧
    ∀ ended, ⟨.cleanUp, ended⟩ ∉ calls unpreparedHistory := by
  refine ⟨.step "prepare" (.infraPrepareFailed (.prepare "no machine")), ?_, ?_, ?_⟩
  · refine ends_anything (.ok "") ?_
    refine ends_anything Uuid.nil ?_
    refine ends_anything (.ok 0) ?_
    refine ends_anything () ?_
    refine ends_anything () ?_
    refine ends_anything (default : Timestamp) ?_
    refine ends_anything (.ok ()) ?_
    refine ends_anything () ?_
    refine ends_anything (.ok ()) ?_
    refine ends_anything (.error (.prepare "no machine")) ?_
    exact .done _ _
  · exact ⟨.returned (.error (.prepare "no machine")), by simp [unpreparedHistory, calls, called?]⟩
  · simp [unpreparedHistory, calls, called?]

end BenchQueue.Run
