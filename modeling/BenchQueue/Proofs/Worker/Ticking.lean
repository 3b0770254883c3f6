import BenchQueue.Proofs.Scheduling.Exhaustion
import BenchQueue.Proofs.Scheduling.Finished
import BenchQueue.Proofs.Worker.Tick

/-!
# Ticks beside a scheduler

Ticks of the regular submissions run beside a scheduler with its records; nothing else submits. Each
of them may be the next to go on, and all of them see the same commit. Seen from the scheduler, a tick
is a number of submissions, one after the other.
-/

namespace BenchQueue.Scheduling

variable {config : Config} {compares : Bool} {deadline : Duration} {events seen : List Event}
  {d d' : Deployment} {s t : System}

/-! ## Submissions beside other tasks -/

/-- A deployment with other submissions. -/
def withSubmissions (d : Deployment) (submissions : Multiset (Task (Except Store.Error Submission))) :
    Deployment :=
  { d with system := { d.system with submissions } }

/-- A step of another task can be made beside any submissions. -/
theorem step_beside {event : Event} (hstep : Step config compares s event t)
    (hsilent : s.submissions = 0) (hcalled : ∀ r, event ≠ .called r)
    (submissions : Multiset (Task (Except Store.Error Submission))) :
    t.submissions = 0 ∧ event.accepted? = none ∧
      Step config compares { s with submissions } event { t with submissions } := by
  cases hstep with
  | call r => exact absurd rfl (hcalled r)
  | submit htask _ =>
    rw [hsilent] at htask
    exact absurd htask.symm (Multiset.cons_ne_zero)
  | dispatch h => exact ⟨hsilent, rfl, .dispatch h⟩
  | begin seen helement => exact ⟨hsilent, rfl, .begin seen helement⟩
  | execute htask h => exact ⟨hsilent, rfl, .execute htask h⟩
  | beginAttempt htask => exact ⟨hsilent, rfl, .beginAttempt htask⟩
  | endAttempt ending hattempt => exact ⟨hsilent, rfl, .endAttempt ending hattempt⟩
  | finish htask => exact ⟨hsilent, rfl, .finish htask⟩
  | breakDown htask => exact ⟨hsilent, rfl, .breakDown htask⟩
  | abort htask => exact ⟨hsilent, rfl, .abort htask⟩

/-- A step of a scheduler without submissions may be made beside any submissions. -/
theorem deploy_beside {event : Option Event}
    (hstep : Deployment.Step config compares deadline d event d')
    (hsilent : d.system.submissions = 0) (hcalled : ∀ r, event ≠ some (.called r))
    (submissions : Multiset (Task (Except Store.Error Submission))) :
    d'.system.submissions = 0 ∧ (∀ e ∈ event, e.accepted? = none) ∧
      Deployment.Step config compares deadline (withSubmissions d submissions) event
        (withSubmissions d' submissions) := by
  have hnot {e : Event} (heq : event = some e) (r : Request) : e ≠ .called r :=
    fun he => hcalled r (heq.trans (congrArg some he))
  cases hstep with
  | schedule hstep hreplied =>
    obtain ⟨hquiet, haccepted, hbeside⟩ := step_beside hstep hsilent (hnot rfl) submissions
    exact ⟨hquiet, fun e he => Option.some.inj he ▸ haccepted, .schedule hbeside hreplied⟩
  | beginAttempt hstep =>
    obtain ⟨hquiet, haccepted, hbeside⟩ := step_beside hstep hsilent (hnot rfl) submissions
    exact ⟨hquiet, fun e he => Option.some.inj he ▸ haccepted, .beginAttempt hbeside⟩
  | work hrun hreplies =>
    exact ⟨hsilent, by simp, .work hrun hreplies⟩
  | endAttempt hrun hstep =>
    obtain ⟨hquiet, haccepted, hbeside⟩ := step_beside hstep hsilent (hnot rfl) submissions
    exact ⟨hquiet, fun e he => Option.some.inj he ▸ haccepted, .endAttempt hrun hbeside⟩
  | breakDown hrun hstep =>
    obtain ⟨hquiet, haccepted, hbeside⟩ := step_beside hstep hsilent (hnot rfl) submissions
    exact ⟨hquiet, fun e he => Option.some.inj he ▸ haccepted, .breakDown hrun hbeside⟩

/-- The lookup of finished work for a request. -/
def lookingUp (r : Request) : Effect := .store (.exists_ (.forIdentifier r.identifier) .finished)

/-- What a submission does after its lookup. -/
def afterLookup (config : Config) (r : Request) :
    Except Store.Error Bool → Task (Except Store.Error Submission)
  | .error e => .done (.error e)
  | .ok true => .done (.ok (.duplicate .alreadyFinished))
  | .ok false => enqueueing config r

/-- A submission is a lookup and what comes after it. -/
theorem submit_eq (config : Config) (r : Request) :
    submit config r = Flow.ask (lookingUp r) (afterLookup config r) := by
  unfold submit
  refine congrArg (Flow.ask (S := Effects) (lookingUp r)) (funext fun answer => ?_)
  cases answer with
  | error e => rfl
  | ok finished => cases finished <;> rfl

/-- A request is called and looked up beside other submissions. -/
theorem Deployment.Reaches.lookUp {submissions : Multiset (Task (Except Store.Error Submission))}
    {answer : Except Store.Error Bool}
    (hrun : Deployment.Reaches config compares deadline seen (withSubmissions d submissions))
    (r : Request) (hreplies : Replies (lookingUp r) d.memory answer d.memory) :
    Deployment.Reaches config compares deadline
      (seen ++ [.called r, .submitting (lookingUp r) answer])
      (withSubmissions d (afterLookup config r answer ::ₘ submissions)) := by
  have hperforms : Performs (Scheduling.submit config.normalized r) d.system.queue (lookingUp r) answer
      (afterLookup config r answer) d.system.queue := by
    have hsame : afterLookup config r answer = afterLookup config.normalized r answer := by
      cases answer with
      | error e => rfl
      | ok finished => cases finished <;> rfl
    rw [submit_eq, hsame]
    exact .ask (.outside rfl _ _)
  have hcalled := hrun.step (.schedule (.call _ r) rfl)
  have hlooked := hcalled.step (.schedule (.submit rfl hperforms) hreplies)
  rw [List.append_assoc] at hlooked
  exact hlooked

/-- A request that was looked up is queued beside other submissions. -/
theorem Deployment.Reaches.enqueue {submissions : Multiset (Task (Except Store.Error Submission))}
    {r : Request} {answer : Submission} {queue : Queue}
    (hrun : Deployment.Reaches config compares deadline seen
      (withSubmissions d (enqueueing config r ::ₘ submissions)))
    (hanswers : Answers (.enqueue config.defaultRetries r) d.system.queue answer queue) :
    Deployment.Reaches config compares deadline
      (seen ++ [.submitting (.enqueue config.defaultRetries r) answer])
      (withSubmissions { d with system := { d.system with queue } }
        (.done (.ok answer) ::ₘ submissions)) :=
  hrun.step (.schedule (.submit rfl (.ask hanswers)) (.other (fun _ => Effect.noConfusion) _ _))

/-! ## What submissions show -/

/-- Whether an event shows more than a call, or a request of a submission that leaves the queue alone. -/
def Event.isActed : Event → Bool
  | .called _ => false
  | .submitting effect _ => !isOutside effect
  | _ => true

/-- What is seen of acts alone is the same in two runs that agree on the acts. -/
theorem filterMap_eq_of_acts {α : Type} {view : Event → Option α}
    (hview : ∀ event, event.isActed = false → view event = none)
    (h : seen.filter Event.isActed = events.filter Event.isActed) :
    seen.filterMap view = events.filterMap view := by
  have hacts (xs : List Event) : (xs.filter Event.isActed).filterMap view = xs.filterMap view := by
    rw [List.filterMap_filter]
    refine List.filterMap_congr fun event _ => ?_
    by_cases hacted : event.isActed = true
    · simp [hacted]
    · simp [hacted, hview event (by simpa using hacted)]
  rw [← hacts seen, h, hacts]

/-- An event that leaves the queue alone accepts nothing. -/
theorem accepted?_of_not_isActed {event : Event} (h : event.isActed = false) :
    event.accepted? = none := by
  cases event with
  | submitting effect answer => exact accepted?_of_outside (by simpa [Event.isActed] using h) answer
  | _ => rfl

/-- An event that leaves the queue alone removes nothing. -/
theorem released?_of_not_isActed {event : Event} (h : event.isActed = false) :
    event.released? = none := by
  cases event with
  | executing e effect answer => cases h
  | _ => rfl

/-- No attempt ends in an event that leaves the queue alone. -/
theorem ended?_of_not_isActed {event : Event} {identifier : Run.Identifier}
    (h : event.isActed = false) : event.ended? identifier = none := by
  cases event with
  | attemptEnded a ending => cases h
  | _ => rfl

end BenchQueue.Scheduling

namespace BenchQueue.Worker

open BenchQueue.Scheduling
open BenchQueue.Store (Memory)

variable {c : Cron} {head : String} {compares : Bool} {deadline : Duration} {events : List Event}
  {task : Task (Except Report Nat)}

/-! ## Ticks in progress -/

/-- A scheduler with its records, and what is left of the ticks in progress. -/
structure Ticking where
  deployment : Deployment := {}
  ticks : Multiset (Task (Except Report Nat)) := 0

/-- One step of a tick or of the scheduler with its records. -/
inductive Ticking.Step (c : Cron) (head : String) (compares : Bool) (deadline : Duration) :
    Ticking → Option Event → Ticking → Prop
  | begin (s : Ticking) : Step c head compares deadline s none { s with ticks := c.tick ::ₘ s.ticks }
  | tick {d : Deployment} {ticks others : Multiset (Task (Except Report Nat))} {effect : Effect}
      {next : effect.Answer → Task (Except Report Nat)} {answer : effect.Answer} {queue : Queue}
      {memory : Memory} (htick : ticks = Flow.ask effect next ::ₘ others)
      (hanswers : Answers effect d.system.queue answer queue)
      (hreplies : Replies effect d.memory answer memory) (hsees : SeesHead head effect answer) :
      Step c head compares deadline ⟨d, ticks⟩ (some (.submitting effect answer))
        ⟨{ d with system := { d.system with queue }, memory }, next answer ::ₘ others⟩
  | finish {d : Deployment} {ticks others : Multiset (Task (Except Report Nat))}
      {result : Except Report Nat} (htick : ticks = .done result ::ₘ others) :
      Step c head compares deadline ⟨d, ticks⟩ none ⟨d, others⟩
  | deploy {d d' : Deployment} {ticks : Multiset (Task (Except Report Nat))} {event : Option Event}
      (hstep : Deployment.Step c.scheduler.normalized compares deadline d event d')
      (hcalled : ∀ r, event ≠ some (.called r)) :
      Step c head compares deadline ⟨d, ticks⟩ event ⟨d', ticks⟩

/-- What can be seen on the way from one state to another. -/
inductive Ticking.Leads (c : Cron) (head : String) (compares : Bool) (deadline : Duration)
    (s : Ticking) : List Event → Ticking → Prop
  | refl : Leads c head compares deadline s [] s
  | step {events : List Event} {t u : Ticking} {event : Option Event}
      (hleads : Leads c head compares deadline s events t)
      (hstep : Ticking.Step c head compares deadline t event u) :
      Leads c head compares deadline s (events ++ event.toList) u

/-- What can be seen of a run, and where it leads. -/
abbrev Ticking.Reaches (c : Cron) (head : String) (compares : Bool) (deadline : Duration) :
    List Event → Ticking → Prop :=
  Ticking.Leads c head compares deadline {}

/-! ## Ticks as submissions -/

/-- The rest of a tick that has looked a request up and queues it next. -/
structure Queueing (c : Cron) (head : String) (task : Task (Except Report Nat)) (r : Request) :
    Prop where
  regular : IsRegular c head r
  rest : ∃ rest, (∀ result, Tick c head (rest result)) ∧ task = (enqueueing c.scheduler r).bind rest

/-- The rest of a tick, be it between the two steps of a submission or not. -/
def InTick (c : Cron) (head : String) (task : Task (Except Report Nat)) : Prop :=
  Tick c head task ∨ ∃ r, Queueing c head task r

/-- The request that a task queues next. -/
def queueing? : Task (Except Report Nat) → Option Request
  | Flow.ask (.enqueue _ r) _ => some r
  | _ => none

/-- The request that is queued next is the one that was looked up. -/
theorem Queueing.queueing? {r : Request} (h : Queueing c head task r) :
    Worker.queueing? task = some r := by
  obtain ⟨-, rest, -, rfl⟩ := h
  rfl

/-- Elsewhere in a tick nothing is queued next. -/
theorem Tick.queueing? (h : Tick c head task) : Worker.queueing? task = none := by
  cases h with
  | done _ => rfl
  | @ask effect next heffect _ =>
    obtain ⟨houtside, -⟩ := heffect
    cases effect with
    | enqueue _ _ => cases houtside
    | _ => rfl
  | submit _ _ => rfl

/-- Such a tick adds nothing to what is queued next. -/
theorem Tick.queueing_cons (h : Tick c head task) (others : Multiset (Task (Except Report Nat))) :
    (task ::ₘ others).filterMap Worker.queueing? = others.filterMap Worker.queueing? :=
  Multiset.filterMap_cons_none _ _ h.queueing?

/-- A tick that has looked a request up adds it to what is queued next. -/
theorem Queueing.queueing_cons {r : Request} (h : Queueing c head task r)
    (others : Multiset (Task (Except Report Nat))) :
    (task ::ₘ others).filterMap Worker.queueing? = r ::ₘ others.filterMap Worker.queueing? :=
  Multiset.filterMap_cons_some _ _ _ h.queueing?

/-- What a request of a tick does to the tick, to the queue and to the records. -/
inductive TickChange (c : Cron) (head : String) (d : Deployment) :
    Task (Except Report Nat) → Event → Task (Except Report Nat) → Deployment → Prop
  | aside {task next : Task (Except Report Nat)} {event : Event} (htask : Tick c head task)
      (hnext : Tick c head next) (hevent : event.isActed = false) :
      TickChange c head d task event next d
  | look {r : Request} {rest : Except Store.Error Submission → Task (Except Report Nat)}
      {answer : Except Store.Error Bool} (hr : IsRegular c head r)
      (hrest : ∀ result, Tick c head (rest result))
      (hreplies : Replies (lookingUp r) d.memory answer d.memory) :
      TickChange c head d ((submit c.scheduler r).bind rest) (.submitting (lookingUp r) answer)
        ((afterLookup c.scheduler r answer).bind rest) d
  | enqueue {r : Request} {rest : Except Store.Error Submission → Task (Except Report Nat)}
      {answer : Submission} {queue : Queue} (hr : IsRegular c head r)
      (hrest : ∀ result, Tick c head (rest result))
      (hanswers : Answers (.enqueue c.scheduler.defaultRetries r) d.system.queue answer queue) :
      TickChange c head d ((enqueueing c.scheduler r).bind rest)
        (.submitting (.enqueue c.scheduler.defaultRetries r) answer) (rest (.ok answer))
        { d with system := { d.system with queue } }

/-- Every request of a tick is one of the changes. -/
theorem tick_change {d : Deployment} {effect : Effect}
    {next : effect.Answer → Task (Except Report Nat)} {answer : effect.Answer} {queue : Queue}
    {memory : Memory}
    (h : InTick c head (Flow.ask effect next))
    (hanswers : Answers effect d.system.queue answer queue)
    (hreplies : Replies effect d.memory answer memory) (hsees : SeesHead head effect answer) :
    TickChange c head d (Flow.ask effect next) (.submitting effect answer) (next answer)
      { d with system := { d.system with queue }, memory } := by
  rcases h with htick | ⟨r, hr, rest, hrest, heq⟩
  · generalize htask : (Flow.ask effect next : Task (Except Report Nat)) = task at htick
    have hbefore := htick
    cases htick with
    | done _ => cases htask
    | ask heffect hnext =>
      cases htask
      obtain rfl := hanswers.queue_eq heffect.1
      obtain rfl := heffect.2 _ _ _ hreplies
      exact .aside hbefore (hnext answer hsees) (by simp [Event.isActed, heffect.1])
    | @submit r rest hr hrest =>
      rw [submit_eq] at htask
      cases htask
      obtain rfl := hanswers.queue_eq rfl
      obtain rfl := leavesRecords_exists _ _ _ _ _ hreplies
      exact .look hr hrest hreplies
  · rw [enqueueing] at heq
    cases heq
    cases hreplies with
    | other _ _ _ => exact .enqueue hr hrest hanswers

namespace Ticking

/-- A run of ticks beside a scheduler is a run of the scheduler with submissions. `seen` is what can be
seen of the latter; the requests that ticks queue next are submissions that have been looked up. -/
structure Mirrors (c : Cron) (head : String) (compares : Bool) (deadline : Duration)
    (events : List Event) (s : Ticking) (seen : List Event)
    (submissions : Multiset (Task (Except Store.Error Submission))) : Prop where
  reaches : Deployment.Reaches c.scheduler compares deadline seen
    (withSubmissions s.deployment submissions)
  silent : s.deployment.system.submissions = 0
  acts : seen.filter Event.isActed = events.filter Event.isActed
  ticks : ∀ task ∈ s.ticks, InTick c head task
  queueing : (s.ticks.filterMap queueing?).map (enqueueing c.scheduler) ≤ submissions
  regular : ∀ r ∈ accepted events, IsRegular c head r

/-- The empty run is mirrored by the empty one. -/
theorem mirrors_start : Mirrors c head compares deadline [] {} [] 0 :=
  { reaches := .start
    silent := rfl
    acts := rfl
    ticks := fun _ hmem => absurd hmem (Multiset.notMem_zero _)
    queueing := le_rfl
    regular := fun _ hmem => absurd hmem List.not_mem_nil }

namespace Mirrors

variable {d : Deployment} {ticks others : Multiset (Task (Except Report Nat))} {seen : List Event}
  {submissions : Multiset (Task (Except Store.Error Submission))}

/-- All of the ticks are in progress, the one that makes its next request and the others. -/
theorem ticks_cons (h : Mirrors c head compares deadline events ⟨d, ticks⟩ seen submissions)
    (htick : ticks = task ::ₘ others) :
    InTick c head task ∧ ∀ task ∈ others, InTick c head task := by
  have hticks := h.ticks
  rwa [htick, Multiset.forall_mem_cons] at hticks

/-- The ticks go on without a submission. -/
theorem aside (h : Mirrors c head compares deadline events ⟨d, ticks⟩ seen submissions)
    {event : Option Event} (hevent : ∀ e ∈ event, e.isActed = false)
    (hticks : ∀ task ∈ others, InTick c head task)
    (hqueueing : others.filterMap queueing? = ticks.filterMap queueing?) :
    Mirrors c head compares deadline (events ++ event.toList) ⟨d, others⟩ seen submissions := by
  have hnone : event.toList.filter Event.isActed = [] := by
    rw [List.filter_eq_nil_iff]
    intro e he
    simp [hevent e (Option.mem_toList.mp he)]
  have haccepted : accepted event.toList = [] := by
    cases event with
    | none => rfl
    | some e => exact List.filterMap_cons_none (accepted?_of_not_isActed (hevent e rfl))
  constructor
  · exact h.reaches
  · exact h.silent
  · rw [List.filter_append, hnone, List.append_nil]
    exact h.acts
  · exact hticks
  · rw [hqueueing]
    exact h.queueing
  · rw [accepted_append, haccepted, List.append_nil]
    exact h.regular

/-- A tick looks finished work up: seen from the scheduler, a submission is called and looks it up. -/
theorem look {r : Request} {rest : Except Store.Error Submission → Task (Except Report Nat)}
    {answer : Except Store.Error Bool}
    (h : Mirrors c head compares deadline events ⟨d, ticks⟩ seen submissions)
    (hr : IsRegular c head r) (hrest : ∀ result, Tick c head (rest result))
    (htick : ticks = ((submit c.scheduler r).bind rest) ::ₘ others)
    (hreplies : Replies (lookingUp r) d.memory answer d.memory) :
    Mirrors c head compares deadline (events ++ [.submitting (lookingUp r) answer])
      ⟨d, (afterLookup c.scheduler r answer).bind rest ::ₘ others⟩
      (seen ++ [.called r, .submitting (lookingUp r) answer])
      (afterLookup c.scheduler r answer ::ₘ submissions) := by
  obtain ⟨-, hothers⟩ := h.ticks_cons htick
  have hqueueing : (others.filterMap queueing?).map (enqueueing c.scheduler) ≤ submissions := by
    have hall := h.queueing
    rwa [htick, (Tick.submit hr hrest).queueing_cons] at hall
  -- Only a lookup in vain leaves the tick between the two steps of a submission.
  have hticks : InTick c head ((afterLookup c.scheduler r answer).bind rest) ∧
      (((afterLookup c.scheduler r answer).bind rest ::ₘ others).filterMap queueing?).map
          (enqueueing c.scheduler) ≤ afterLookup c.scheduler r answer ::ₘ submissions := by
    have hidle (result : Except Store.Error Submission) (submission) :
        ((rest result ::ₘ others).filterMap queueing?).map (enqueueing c.scheduler) ≤
          submission ::ₘ submissions := by
      rw [(hrest result).queueing_cons]
      exact hqueueing.trans (Multiset.le_cons_self _ _)
    cases answer with
    | error e => exact ⟨Or.inl (hrest _), hidle _ _⟩
    | ok finished =>
      cases finished with
      | true => exact ⟨Or.inl (hrest _), hidle _ _⟩
      | false =>
        have hnext : Queueing c head ((enqueueing c.scheduler r).bind rest) r :=
          ⟨hr, rest, hrest, rfl⟩
        refine ⟨Or.inr ⟨r, hnext⟩, ?_⟩
        change (((enqueueing c.scheduler r).bind rest ::ₘ others).filterMap queueing?).map _ ≤ _
        rw [hnext.queueing_cons, Multiset.map_cons]
        exact Multiset.cons_le_cons _ hqueueing
  constructor
  · exact h.reaches.lookUp r hreplies
  · exact h.silent
  · rw [List.filter_append, List.filter_append, h.acts]
    rfl
  · exact Multiset.forall_mem_cons.mpr ⟨hticks.1, hothers⟩
  · exact hticks.2
  · rw [accepted_append]
    exact fun r hmem => h.regular r ((List.mem_append.mp hmem).resolve_right List.not_mem_nil)

/-- A tick queues a request that it has looked up. -/
theorem enqueue {r : Request} {rest : Except Store.Error Submission → Task (Except Report Nat)}
    {answer : Submission} {queue : Queue}
    (h : Mirrors c head compares deadline events ⟨d, ticks⟩ seen submissions)
    (hr : IsRegular c head r) (hrest : ∀ result, Tick c head (rest result))
    (htick : ticks = ((enqueueing c.scheduler r).bind rest) ::ₘ others)
    (hanswers : Answers (.enqueue c.scheduler.defaultRetries r) d.system.queue answer queue) :
    ∃ submissions, Mirrors c head compares deadline
      (events ++ [.submitting (.enqueue c.scheduler.defaultRetries r) answer])
      ⟨{ d with system := { d.system with queue } }, rest (.ok answer) ::ₘ others⟩
      (seen ++ [.submitting (.enqueue c.scheduler.defaultRetries r) answer]) submissions := by
  obtain ⟨-, hothers⟩ := h.ticks_cons htick
  have hqueueing : (r ::ₘ others.filterMap queueing?).map (enqueueing c.scheduler) ≤ submissions := by
    have hall := h.queueing
    have hfirst : Queueing c head ((enqueueing c.scheduler r).bind rest) r := ⟨hr, rest, hrest, rfl⟩
    rwa [htick, hfirst.queueing_cons] at hall
  -- The tick queues the request by one of the submissions that have looked theirs up.
  obtain ⟨more, hmore⟩ := Multiset.le_iff_exists_add.mp hqueueing
  rw [Multiset.map_cons, Multiset.cons_add] at hmore
  have hreaches := h.reaches
  rw [hmore] at hreaches
  refine ⟨_, hreaches.enqueue hanswers, h.silent, ?_, ?_, ?_, ?_⟩
  · rw [List.filter_append, List.filter_append, h.acts]
  · exact Multiset.forall_mem_cons.mpr ⟨Or.inl (hrest _), hothers⟩
  · change ((rest (.ok answer) ::ₘ others).filterMap queueing?).map _ ≤ _
    rw [(hrest _).queueing_cons]
    exact (Multiset.le_add_right _ more).trans (Multiset.le_cons_self _ _)
  · intro r' hmem
    rw [accepted_append, List.mem_append] at hmem
    rcases hmem with hmem | hmem
    · exact h.regular r' hmem
    · cases answer with
      | accepted => exact List.mem_singleton.mp hmem ▸ hr
      | duplicate reason => cases hmem

/-- The scheduler goes on with something else. -/
theorem deploy {event : Option Event} {d' : Deployment}
    (h : Mirrors c head compares deadline events ⟨d, ticks⟩ seen submissions)
    (hstep : Deployment.Step c.scheduler.normalized compares deadline d event d')
    (hcalled : ∀ r, event ≠ some (.called r)) :
    Mirrors c head compares deadline (events ++ event.toList) ⟨d', ticks⟩ (seen ++ event.toList)
      submissions := by
  obtain ⟨hsilent, haccepted, hbeside⟩ := deploy_beside hstep h.silent hcalled submissions
  have hnone : accepted event.toList = [] := by
    cases event with
    | none => rfl
    | some e => exact List.filterMap_cons_none (haccepted e rfl)
  constructor
  · exact h.reaches.step hbeside
  · exact hsilent
  · rw [List.filter_append, List.filter_append, h.acts]
  · exact h.ticks
  · exact h.queueing
  · rw [accepted_append, hnone, List.append_nil]
    exact h.regular

/-- A request of a tick is mirrored by requests of a submission, or by none. -/
theorem tick {event : Event} {next : Task (Except Report Nat)} {d' : Deployment}
    (h : Mirrors c head compares deadline events ⟨d, ticks⟩ seen submissions)
    (htick : ticks = task ::ₘ others) (hchange : TickChange c head d task event next d') :
    ∃ seen submissions, Mirrors c head compares deadline (events ++ [event]) ⟨d', next ::ₘ others⟩ seen
      submissions := by
  cases hchange with
  | aside hbefore hafter hevent =>
    obtain ⟨-, hothers⟩ := h.ticks_cons htick
    have hqueueing : (next ::ₘ others).filterMap queueing? = ticks.filterMap queueing? := by
      rw [htick, hbefore.queueing_cons, hafter.queueing_cons]
    have hticks : ∀ task ∈ next ::ₘ others, InTick c head task :=
      Multiset.forall_mem_cons.mpr ⟨Or.inl hafter, hothers⟩
    have hevents : ∀ e ∈ some event, e.isActed = false := fun e he => Option.some.inj he ▸ hevent
    exact ⟨_, _, h.aside hevents hticks hqueueing⟩
  | look hr hrest hreplies => exact ⟨_, _, h.look hr hrest htick hreplies⟩
  | enqueue hr hrest hanswers =>
    obtain ⟨submissions, hqueued⟩ := h.enqueue hr hrest htick hanswers
    exact ⟨_, submissions, hqueued⟩

end Mirrors

/-- Every step keeps the ticks in progress submissions of the scheduler. -/
theorem Mirrors.step {s t : Ticking} {seen : List Event} {event : Option Event}
    {submissions : Multiset (Task (Except Store.Error Submission))}
    (h : Mirrors c head compares deadline events s seen submissions)
    (hstep : Ticking.Step c head compares deadline s event t) :
    ∃ seen submissions, Mirrors c head compares deadline (events ++ event.toList) t seen submissions := by
  cases hstep with
  | begin =>
    have htick := tick_tick c head
    have hticks : ∀ task ∈ c.tick ::ₘ s.ticks, InTick c head task :=
      Multiset.forall_mem_cons.mpr ⟨Or.inl htick, h.ticks⟩
    exact ⟨_, _, h.aside (by simp) hticks (htick.queueing_cons _)⟩
  | tick htick hanswers hreplies hsees =>
    obtain ⟨hfirst, -⟩ := h.ticks_cons htick
    exact h.tick htick (tick_change hfirst hanswers hreplies hsees)
  | @finish d ticks others result htick =>
    obtain ⟨-, hothers⟩ := h.ticks_cons htick
    have hqueueing : others.filterMap queueing? = ticks.filterMap queueing? := by
      rw [htick, (Tick.done result : Tick c head _).queueing_cons]
    exact ⟨_, _, h.aside (by simp) hothers hqueueing⟩
  | deploy hstep hcalled => exact ⟨_, _, h.deploy hstep hcalled⟩

/-- Every run of ticks beside a scheduler is mirrored by one of the scheduler with submissions. -/
theorem Reaches.mirrors {s : Ticking} (hrun : Ticking.Reaches c head compares deadline events s) :
    ∃ seen submissions, Mirrors c head compares deadline events s seen submissions := by
  induction hrun with
  | refl => exact ⟨_, _, mirrors_start⟩
  | step _ hstep ih =>
    obtain ⟨seen, submissions, hmirrors⟩ := ih
    exact hmirrors.step hstep

end Ticking

end BenchQueue.Worker
