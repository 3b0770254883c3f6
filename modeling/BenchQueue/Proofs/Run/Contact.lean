import BenchQueue.Proofs.Run.Supervision
import BenchQueue.Run.Executor

/-!
# Calls on a provider in order

The calls on a provider have places in an order. An execution makes a provider, then makes calls on
it and on no other, each at a later place than the calls before. It cleans up last unless the run
could not be created or prepared, and then it has neither provisioned anything nor run the workflow.
-/

namespace BenchQueue

namespace Infra.Call

/-- The place of a call among the calls on a provider. -/
def place : Call → Nat
  | .setConfig _ => 0
  | .setExecUuid _ => 1
  | .setTags _ => 2
  | .prepare => 3
  | .provision => 4
  | .run _ => 5
  | .cleanUp => 6

/-- Whether a call is made with the lock of the provider. Settings are handed over before there is a
lock. -/
def isExclusive : Call → Bool
  | .setConfig _ | .setExecUuid _ | .setTags _ => false
  | .prepare | .provision | .run _ | .cleanUp => true

/-- The calls with a lock are those from the preparation on. -/
theorem isExclusive_iff (c : Call) : c.isExclusive = true ↔ 3 ≤ c.place := by
  cases c <;> simp [isExclusive, place]

/-- No call comes after the clean up. -/
theorem eq_cleanUp_of_place {c : Call} (h : 6 ≤ c.place) : c = .cleanUp := by
  cases c with
  | cleanUp => rfl
  | _ => simp [place] at h

end Infra.Call

namespace Run

open BenchQueue.Flow (noted)
open BenchQueue.Infra (Call Ended)

/-! ## The order of the calls -/

/-- What a run has to do with a provider: which one it has, and the first place that is still open.
-/
structure Contact where
  provider : Option Nat := none
  next : Nat := 0

/-- Whether a request makes a provider or calls one. -/
def isContact : Effect → Bool
  | .createProvider _ | .provider _ _ | .supervised _ _ _ => true
  | _ => false

/-- The requests of a run in the order of the calls: one provider is made, and each call on it has a
later place. They are answered in any way. -/
inductive Conducts : (effect : Effect) → Contact → effect.Answer → Contact → Prop
  | create {config : Infra.Config} (handle : Nat) :
      Conducts (.createProvider config) ⟨none, 0⟩ (Except.ok handle) ⟨some handle, 0⟩
  | refuse {config : Infra.Config} (e : Infra.Error) :
      Conducts (.createProvider config) ⟨none, 0⟩ (Except.error e) ⟨none, 0⟩
  | call {handle next : Nat} {call : Call} (hplace : next ≤ call.place) (answer : call.Answer) :
      Conducts (.provider handle call) ⟨some handle, next⟩ answer ⟨some handle, call.place + 1⟩
  | supervise {handle next : Nat} {call : Call} {limit : Option Instant} (hplace : next ≤ call.place)
      (hexclusive : call.isExclusive = true) (ended : Ended call.Answer) :
      Conducts (.supervised handle call limit) ⟨some handle, next⟩ ended
        ⟨some handle, call.place + 1⟩
  | other {effect : Effect} (heffect : isContact effect = false) (answer : effect.Answer)
      (contact : Contact) : Conducts effect contact answer contact

variable {α : Type} {s : State} {deadline : Duration} {contact : Contact} {handle next : Nat}
  {Q : α → Contact → Prop}

/-- A request that is not about a provider. -/
theorem conducts_other {effect : Effect} {next : effect.Answer → Task α} (sample : effect.Answer)
    (heffect : isContact effect = false)
    (h : ∀ answer, (next answer).Achieves Conducts contact Q) :
    (Flow.ask effect next : Task α).Achieves Conducts contact Q := by
  refine ⟨⟨sample, contact, .other heffect sample contact⟩, fun answer contact' hconducts => ?_⟩
  cases hconducts with
  | other _ _ _ => exact h answer
  | _ => cases heffect

/-- A call at a place that is still open. -/
theorem conducts_call {call : Call} {rest : call.Answer → Task α} (sample : call.Answer)
    (hplace : next ≤ call.place)
    (h : ∀ answer, (rest answer).Achieves Conducts ⟨some handle, call.place + 1⟩ Q) :
    (Flow.ask (.provider handle call) rest : Task α).Achieves Conducts ⟨some handle, next⟩ Q := by
  refine ⟨⟨sample, _, .call hplace sample⟩, fun answer contact' hconducts => ?_⟩
  cases hconducts with
  | call _ _ => exact h answer
  | other heffect _ _ => cases heffect

/-- A supervised call at a place that is still open. -/
theorem conducts_supervise {call : Call} {limit : Option Instant}
    {rest : Ended call.Answer → Task α} (hplace : next ≤ call.place)
    (hexclusive : call.isExclusive = true)
    (h : ∀ ended, (rest ended).Achieves Conducts ⟨some handle, call.place + 1⟩ Q) :
    (Flow.ask (.supervised handle call limit) rest : Task α).Achieves Conducts
      ⟨some handle, next⟩ Q := by
  refine ⟨⟨.expired, _, .supervise hplace hexclusive .expired⟩, fun ended contact' hconducts => ?_⟩
  cases hconducts with
  | supervise _ _ _ => exact h ended
  | other heffect _ _ => cases heffect

section

variable {provider : Option Nat} {call : Call}

/-- A call that is made in order is made on the provider of the run, at a place that is open. -/
theorem order_of_call {rest : call.Answer → Task α}
    (h : (Flow.ask (.provider handle call) rest : Task α).Achieves Conducts ⟨provider, next⟩ Q) :
    provider = some handle ∧ next ≤ call.place ∧
      ∀ answer, (rest answer).Achieves Conducts ⟨some handle, call.place + 1⟩ Q := by
  obtain ⟨⟨_, _, hsome⟩, hrest⟩ := h
  cases hsome with
  | other heffect _ _ => cases heffect
  | call hplace _ => exact ⟨rfl, hplace, fun answer => hrest answer _ (.call hplace answer)⟩

/-- A supervised call that keeps the order goes to the provider of the run, at a place that is still
open, and the calls after it have later places. -/
theorem order_of_supervised {limit : Option Instant} {rest : Ended call.Answer → Task α}
    (h : (Flow.ask (.supervised handle call limit) rest : Task α).Achieves Conducts
      ⟨provider, next⟩ Q) :
    provider = some handle ∧ next ≤ call.place ∧ call.isExclusive = true ∧
      ∀ ended, (rest ended).Achieves Conducts ⟨some handle, call.place + 1⟩ Q := by
  obtain ⟨⟨_, _, hsome⟩, hrest⟩ := h
  cases hsome with
  | other heffect _ _ => cases heffect
  | supervise hplace hexclusive _ =>
    exact ⟨rfl, hplace, hexclusive, fun ended => hrest ended _ (.supervise hplace hexclusive ended)⟩

/-- A run makes a provider only before all calls. -/
theorem order_of_create {config : Infra.Config} {rest : Except Infra.Error Nat → Task α}
    (h : (Flow.ask (.createProvider config) rest : Task α).Achieves Conducts ⟨provider, next⟩ Q) :
    provider = none ∧ next = 0 ∧
      (∀ handle, (rest (.ok handle)).Achieves Conducts ⟨some handle, 0⟩ Q) ∧
      ∀ e, (rest (.error e)).Achieves Conducts ⟨none, 0⟩ Q := by
  obtain ⟨⟨_, _, hsome⟩, hrest⟩ := h
  cases hsome with
  | other heffect _ _ => cases heffect
  | create _ | refuse _ =>
    exact ⟨rfl, rfl, fun handle => hrest _ _ (.create handle), fun e => hrest _ _ (.refuse e)⟩

end

/-! ## The steps of a run -/

/-- A run that is created has handed over its settings. -/
theorem createWith_conducts (identifier : Identifier) (config : Config) :
    (createWith identifier config).Achieves Conducts {} fun r contact =>
      contact.next ≤ 3 ∧ ∀ s, r = .ok s → contact = ⟨some s.provider, 3⟩ := by
  refine conducts_other .nil rfl fun id => ?_
  refine ⟨⟨_, _, .create 0⟩, fun answer contact hconducts => ?_⟩
  cases hconducts with
  | other heffect _ _ => cases heffect
  | refuse e => exact ⟨Nat.zero_le _, fun s hok => by cases hok⟩
  | create handle =>
    refine conducts_call () (Nat.zero_le _) fun _ => ?_
    refine conducts_call () (Nat.le_refl 1) fun _ => ?_
    refine conducts_other (default : Timestamp) rfl fun now => ?_
    refine conducts_other (.ok ()) rfl fun inserted => ?_
    cases inserted with
    | error e => exact ⟨Nat.le_succ 2, fun s hok => by cases hok⟩
    | ok _ =>
      refine conducts_call () (Nat.le_refl 2) fun _ => ⟨Nat.le_refl 3, fun s hok => ?_⟩
      cases hok
      rfl

/-- The creation of a run makes one provider and hands the settings over to it, and leaves all
places from the preparation on. -/
theorem create_conducts (identifier : Identifier) (configPath : String) :
    (create identifier configPath).Achieves Conducts {} fun r contact =>
      contact.next ≤ 3 ∧ ∀ s, r = .ok s → contact = ⟨some s.provider, 3⟩ := by
  unfold create
  simp only [Task.ask, bind, pure, Flow.bind]
  refine conducts_other (.ok "") rfl fun content => ?_
  split
  · exact ⟨Nat.zero_le _, fun s hok => by cases hok⟩
  · refine (createWith_conducts identifier _).bind fun created contact hcreated => ?_
    cases created with
    | error e => exact ⟨hcreated.1, fun s hok => by cases hok⟩
    | ok s => exact ⟨hcreated.1, fun s' hok => by cases hok; exact hcreated.2 s rfl⟩

namespace State

/-- Resolving the configuration makes no call on the provider. -/
theorem resolveConfig_conducts (s : State) (dir : String) :
    (s.resolveConfig dir).Achieves Conducts contact fun r contact' =>
      contact' = contact ∧ ∀ s', r = .ok s' → s'.provider = s.provider := by
  unfold resolveConfig
  split
  · exact ⟨rfl, fun s' hok => by cases hok; rfl⟩
  · split
    · exact ⟨rfl, fun s' hok => by cases hok⟩
    · refine conducts_other (.ok ()) rfl fun answer => ?_
      cases answer with
      | error fault => exact ⟨rfl, fun s' hok => by cases hok⟩
      | ok _ => exact ⟨rfl, fun s' hok => by cases hok; rfl⟩

/-- A run has the same provider as another one, and calls up to a place have been made on it. -/
structure UpTo (s : State) (place : Nat) (s' : State) (contact : Contact) : Prop where
  same : s'.provider = s.provider
  provider : contact.provider = some s.provider
  next : contact.next ≤ place

/-- A preparation makes at most the one call that prepares the provider. -/
theorem prepare_conducts (s : State) :
    s.prepare.Achieves Conducts ⟨some s.provider, 3⟩ fun r contact => s.UpTo 4 r.2 contact := by
  unfold prepare
  split
  · exact ⟨rfl, rfl, Nat.le_succ 3⟩
  · refine conducts_other (.ok ()) rfl fun answer => ?_
    cases answer with
    | error fault => exact ⟨rfl, rfl, Nat.le_succ 3⟩
    | ok _ =>
      refine conducts_call (.ok ()) (Nat.le_refl 3) fun answer => ?_
      cases answer with
      | error e => exact ⟨rfl, rfl, Nat.le_refl 4⟩
      | ok _ =>
        refine (resolveConfig_conducts _ _).bind fun resolved contact hresolved => ?_
        obtain ⟨rfl, hsame⟩ := hresolved
        cases resolved with
        | error e => exact ⟨rfl, rfl, Nat.le_refl 4⟩
        | ok s' => exact ⟨hsame s' rfl, rfl, Nat.le_refl 4⟩

/-- Opening the logs makes no call on the provider. -/
theorem openOutputs_conducts (s : State) :
    s.openOutputs.Achieves Conducts contact fun r contact' =>
      contact' = contact ∧ r.2.provider = s.provider := by
  unfold openOutputs
  split
  · refine conducts_other (.ok ()) rfl fun answer => ?_
    cases answer with
    | error fault => exact ⟨rfl, rfl⟩
    | ok _ =>
      refine conducts_other (.ok ()) rfl fun answer => ?_
      cases answer <;> exact ⟨rfl, rfl⟩
  · exact ⟨rfl, rfl⟩

/-- Writing into a log makes no call on the provider. -/
theorem log_conducts (s : State) (line : String) :
    (s.log line).Achieves Conducts contact fun _ contact' => contact' = contact := by
  unfold log
  split
  · exact conducts_other () rfl fun _ => rfl
  · rfl

/-- A transition makes no call on the provider. -/
theorem transition_conducts (s : State) (status : Status) :
    (s.transition status).Achieves Conducts contact fun r contact' =>
      contact' = contact ∧ r.2.provider = s.provider := by
  refine conducts_other (default : Timestamp) rfl fun now => ?_
  refine conducts_other (.ok ()) rfl fun answer => ?_
  cases answer <;> exact ⟨rfl, rfl⟩

/-- The end of an execution makes no call on the provider. -/
theorem conclude_conducts (s : State) (result : Except Error Unit) :
    (s.conclude result).Achieves Conducts contact fun r contact' =>
      contact' = contact ∧ r.2.provider = s.provider := by
  refine (transition_conducts s _).bind fun r contact hmoved => ?_
  obtain ⟨recorded, s'⟩ := r
  obtain ⟨rfl, hsame⟩ := hmoved
  cases result with
  | ok _ => exact ⟨rfl, hsame⟩
  | error cause =>
    cases recorded with
    | error e => exact ⟨rfl, hsame⟩
    | ok _ =>
      refine (log_conducts s' _).bind fun _ contact hlogged => ?_
      exact ⟨hlogged, hsame⟩

/-- The work of an execution provisions first and runs the workflow then, if it gets that far. -/
theorem provisionAndRun_conducts (s : State) (deadline : Duration) (limit : Option Instant)
    (hnext : next ≤ 4) :
    (s.provisionAndRun deadline limit).Achieves Conducts ⟨some s.provider, next⟩ fun r contact =>
      s.UpTo 6 r.2 contact := by
  refine conducts_supervise hnext rfl fun ended => ?_
  match ended with
  | .expired | .panicked | .returned (Except.error e) => exact ⟨rfl, rfl, Nat.le_succ 5⟩
  | .returned (Except.ok hosts) =>
    refine conducts_supervise (Nat.le_refl 5) rfl fun ended => ?_
    match ended with
    | .expired | .panicked | .returned (Except.error e) | .returned (Except.ok ()) =>
      exact ⟨rfl, rfl, Nat.le_refl 6⟩

/-- An execution provisions and runs the workflow at most. -/
theorem execute_conducts (s : State) (deadline : Duration) (hnext : next ≤ 4) :
    (s.execute deadline).Achieves Conducts ⟨some s.provider, next⟩ fun r contact =>
      s.UpTo 6 r.2 contact := by
  unfold execute
  split
  · exact ⟨rfl, rfl, Nat.le_trans hnext (Nat.le_add_right 4 2)⟩
  · refine (transition_conducts s .started).bind fun r contact hmoved => ?_
    obtain ⟨started, s'⟩ := r
    obtain ⟨rfl, hsame⟩ := hmoved
    cases started with
    | error e => exact ⟨hsame, rfl, Nat.le_trans hnext (Nat.le_add_right 4 2)⟩
    | ok _ =>
      refine (log_conducts s' _).bind fun _ contact hlogged => ?_
      obtain rfl := hlogged
      refine conducts_other (default : Instant) rfl fun now => ?_
      rw [← hsame]
      refine (provisionAndRun_conducts s' deadline _ hnext).bind fun r contact hran => ?_
      refine (conclude_conducts r.2 r.1).mono fun r' contact' hconcluded => ?_
      obtain ⟨rfl, hkept⟩ := hconcluded
      exact ⟨hkept.trans (hran.same.trans hsame), hran.provider.trans (congrArg some hsame),
        hran.next⟩

/-- The clean up is a call at the last place. -/
theorem cleanUp_conducts (s : State) (hnext : next ≤ 6) :
    s.cleanUp.Achieves Conducts ⟨some s.provider, next⟩ fun _ contact => contact.next = 7 := by
  refine conducts_call (.ok ()) hnext fun answer => ?_
  cases answer <;> rfl

end State

/-! ## Executions -/

/-- An execution failed to create or to prepare its run. -/
def Unprepared (result : Except Error Unit) : Prop :=
  ∃ e, result = .error (.step "create" e) ∨ result = .error (.step "prepare" e)

/-- How far the calls on the provider are when an execution ends: the run was cleaned up, or it was
not prepared and nothing more was done than that. -/
def Concludes (result : Except Error Unit) (contact : Contact) : Prop :=
  Unprepared result ∧ contact.next ≤ 4 ∨ ¬ Unprepared result ∧ contact.next = 7

/-- A failure of another step is none to create or to prepare the run. -/
theorem not_unprepared_step {name : String} (hcreate : name ≠ "create") (hprepare : name ≠ "prepare")
    (cause : Error) : ¬ Unprepared (.error (.step name cause)) := by
  rintro ⟨e, h | h⟩
  · exact hcreate (Error.step.inj (Except.error.inj h)).1
  · exact hprepare (Error.step.inj (Except.error.inj h)).1

/-- The failures of the execution and of the clean up are none to create or to prepare the run. -/
theorem not_unprepared_firstFailure (executed cleaned : Except Error Unit) :
    ¬ Unprepared (firstFailure (inStep "execution" executed) (inStep "clean up" cleaned)) := by
  cases executed with
  | error cause => exact not_unprepared_step (by decide) (by decide) cause
  | ok _ =>
    cases cleaned with
    | error cause => exact not_unprepared_step (by decide) (by decide) cause
    | ok _ => rintro ⟨e, h | h⟩ <;> cases h

/-- What follows the creation makes its calls in their order, and ends with the clean up unless the
run was not prepared. -/
theorem drive_conducts (s : State) (deadline : Duration) :
    (drive deadline s).Achieves Conducts ⟨some s.provider, 3⟩ Concludes := by
  refine s.prepare_conducts.bind fun r contact hprepared => ?_
  obtain ⟨prepared, ready⟩ := r
  obtain ⟨provider, next⟩ := contact
  obtain ⟨hsame, rfl, hnext⟩ := hprepared
  cases prepared with
  | error e => exact Or.inl ⟨⟨e, Or.inr rfl⟩, hnext⟩
  | ok _ =>
    refine ready.openOutputs_conducts.bind fun r contact hopens => ?_
    obtain ⟨opens, opened⟩ := r
    obtain ⟨rfl, hsame'⟩ := hopens
    cases opens with
    | error e => exact Or.inl ⟨⟨e, Or.inr rfl⟩, hnext⟩
    | ok _ =>
      rw [← hsame, ← hsame']
      refine (opened.execute_conducts deadline hnext).bind fun r contact hexecuted => ?_
      obtain ⟨executed, ended⟩ := r
      obtain ⟨provider, next⟩ := contact
      obtain ⟨hsame, rfl, hnext⟩ := hexecuted
      rw [← hsame]
      refine (ended.cleanUp_conducts hnext).bind fun cleaned contact hcleaned => ?_
      exact Or.inr ⟨not_unprepared_firstFailure _ _, hcleaned⟩

/-- An execution makes its calls in order, and its result says how far they are. -/
theorem executeFile_conducts (deadline : Duration) (identifier : Identifier) (configPath : String) :
    (executeFile deadline identifier configPath).Achieves Conducts {} Concludes := by
  refine (create_conducts identifier configPath).bind fun created contact hcreated => ?_
  cases created with
  | error e => exact Or.inl ⟨⟨e, Or.inl rfl⟩, Nat.le_trans hcreated.1 (Nat.le_succ 3)⟩
  | ok s =>
    obtain rfl := hcreated.2 s rfl
    exact drive_conducts s deadline

end Run

end BenchQueue
