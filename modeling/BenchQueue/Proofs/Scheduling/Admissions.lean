import BenchQueue.Proofs.Scheduling.Resubmission
import BenchQueue.Proofs.Scheduling.Service

/-!
# Admissions and ticks

The dispatch loop wakes at a tick and at news of the stop signal, and admits at most one element for
each wake. So the values that are sent count like ticks, unless all of them tell the loop to stop.
-/

namespace BenchQueue

/-- What a listener that has seen some of the changes has seen after a wake. -/
def Wake.seenAfter (seen : Nat) : Wake → Nat
  | .news (.changed changes) => changes
  | _ => seen

/-- Whether an exchange is a wait that a listener ended at its instant. -/
def isTick : Flow.Exchange Effects → Bool
  | ⟨.wait _ (some _), .elapsed⟩ => true
  | _ => false

/-- The number of ticks in a history. -/
def ticks (asked : List (Flow.Exchange Effects)) : Nat := asked.countP isTick

/-- A further exchange counts if it is a tick. -/
theorem ticks_concat (asked : List (Flow.Exchange Effects)) (x : Flow.Exchange Effects) :
    ticks (asked ++ [x]) = ticks asked + if isTick x = true then 1 else 0 := by
  unfold ticks
  rw [List.countP_append, List.countP_singleton]

namespace Scheduling

variable {config : Config} {compares : Bool} {origin signal : Signal} {events : List Event}
  {sent : List Bool} {v w : Service} {asked : List (Flow.Exchange Effects)}
  {admitted ticked extra : Nat}

/-! ## Runs with a stop signal -/

/-- What a listener may hear of the signal: the signal itself, and news if there are some. -/
def Hears (signal : Signal) : Flow.Exchange Effects → Prop
  | ⟨.signal, heard⟩ => heard = signal
  | ⟨.wait _ (some seen), .news news⟩ => news = signal.news seen ∧ news ≠ .nothing
  | _ => True

/-- Runs of a service whose loop listens to a signal, with the values sent so far. Ticks come at any
time, and values are sent at any time until the sender is gone. -/
inductive Listening (config : Config) (compares : Bool) (origin : Signal) :
    List Event → List Bool → Service → Signal → Prop
  | start : Listening config compares origin [] [] (Service.start origin.changes) origin
  | step {events : List Event} {sent : List Bool} {v w : Service} {signal : Signal}
      {event : Option Event} (hrun : Listening config compares origin events sent v signal)
      (hstep : Service.Step config.normalized compares v event w)
      (hhears : ∀ x, w.asked = v.asked ++ [x] → Hears signal x) :
      Listening config compares origin (events ++ event.toList) sent w signal
  | send {events : List Event} {sent : List Bool} {v : Service} {signal : Signal}
      (hrun : Listening config compares origin events sent v signal) (value : Bool)
      (hopen : signal.isOpen = true) :
      Listening config compares origin events (sent ++ [value]) v (signal.send value)
  | close {events : List Event} {sent : List Bool} {v : Service} {signal : Signal}
      (hrun : Listening config compares origin events sent v signal) :
      Listening config compares origin events sent v signal.close

/-! ## The pace of the loop -/

/-- How far the loop is in a round, and what it has seen of the signal: asleep, woken, told to go
on, or told to stop. -/
inductive Pace
  | asleep (seen : Nat)
  | awake (seen : Nat) (wake : Wake)
  | admitting (seen : Nat)
  | leaving

/-- Whether a request takes the loop further in a round. -/
def isPacing : Effect → Bool
  | .wait _ _ | .signal | .dispatch _ => true
  | _ => false

/-- The requests of the loop in the order of a round. -/
inductive Paces : (effect : Effect) → Pace → effect.Answer → Pace → Prop
  | wait (limit : Option Instant) (seen : Nat) (wake : Wake) :
      Paces (.wait limit (some seen)) (.asleep seen) wake (.awake (wake.seenAfter seen) wake)
  | signal (seen : Nat) (wake : Wake) (heard : Signal) :
      Paces .signal (.awake seen wake) heard
        (if heard.value || !heard.isOpen then .leaving else .admitting seen)
  | dispatch (limit seen : Nat) (found : Option Element) :
      Paces (.dispatch limit) (.admitting seen) found (.asleep seen)
  | other {effect : Effect} (heffect : isPacing effect = false) (answer : effect.Answer)
      (pace : Pace) : Paces effect pace answer pace

/-- The pace of the loop between two rounds. -/
def paceAfter : Option Dispatcher → Pace
  | some d => .asleep d.seen
  | none => .leaving

/-- A request that does not take the loop further is answered in any way. -/
theorem paces_other {α : Type} {effect : Effect} {next : effect.Answer → Task α} {pace : Pace}
    {Q : α → Pace → Prop} (sample : effect.Answer) (heffect : isPacing effect = false)
    (h : ∀ answer, (next answer).Achieves Paces pace Q) :
    (Flow.ask effect next : Task α).Achieves Paces pace Q := by
  refine ⟨⟨sample, pace, .other heffect sample pace⟩, fun answer pace' hpaces => ?_⟩
  cases hpaces with
  | other _ _ _ => exact h answer
  | wait _ _ _ | signal _ _ _ | dispatch _ _ _ => cases heffect

/-- The loop falls asleep when it starts. -/
theorem start_paces (seen : Nat) :
    ((Dispatcher.start seen).bind fun d => .done (some d)).Achieves Paces (.asleep seen)
      fun next pace => pace = paceAfter next :=
  paces_other ⟨0⟩ rfl fun _ => rfl

/-- A wake changes what the loop has seen of the signal, and nothing else of its pace. -/
theorem wake_paces (d : Dispatcher) :
    (d.wake config).Achieves Paces (.asleep d.seen)
      fun d' pace => ∃ wake, pace = .awake d'.seen wake := by
  refine ⟨⟨.elapsed, _, .wait _ _ _⟩, fun wake pace hpaces => ?_⟩
  cases hpaces with
  | other heffect _ _ => cases heffect
  | wait _ _ _ =>
    cases wake with
    | elapsed => exact paces_other ⟨0⟩ rfl fun _ => ⟨.elapsed, rfl⟩
    | news news => cases news <;> exact ⟨_, rfl⟩

/-- A loop that is told to stop stays so until it has waited for the executions. -/
theorem drain_paces (config : Config) :
    (Dispatcher.drain config).Achieves Paces .leaving fun _ pace => pace = .leaving := by
  refine paces_other false rfl fun any => ?_
  cases any with
  | false => rfl
  | true =>
    refine paces_other ⟨0⟩ rfl fun now => paces_other true rfl fun ended => ?_
    cases ended with
    | true => rfl
    | false => exact paces_other () rfl fun _ => rfl

/-- The rest of a round after its wake. -/
def afterWake (config : Config) (d : Dispatcher) : Task (Option Dispatcher) :=
  Flow.ask .signal fun signal =>
    if signal.value || !signal.isOpen then (Dispatcher.drain config).bind fun _ => .done none
    else Flow.ask (.dispatch config.maxConcurrentJobs.toNat) fun
      | some e => Flow.ask (.beginExecution e d.seen) fun _ => .done (some d)
      | none => .done (some d)

/-- A round is a wake and what comes after it. -/
theorem round_eq_bind (config : Config) (d : Dispatcher) :
    d.round config = (d.wake config).bind (afterWake config) := by
  refine congrArg (Flow.bind _) (funext fun d => congrArg (Flow.ask _) (funext fun signal => ?_))
  refine if_congr Iff.rfl rfl (congrArg (Flow.ask _) (funext fun found => ?_))
  cases found <;> rfl

/-- A round wakes, looks at the signal, and admits or ends. -/
theorem round_paces (d : Dispatcher) :
    (d.round config).Achieves Paces (.asleep d.seen) fun next pace => pace = paceAfter next := by
  rw [round_eq_bind]
  refine (wake_paces d).bind ?_
  rintro d _ ⟨wake, rfl⟩
  refine ⟨⟨{}, _, .signal _ _ _⟩, fun heard pace hpaces => ?_⟩
  cases hpaces with
  | other heffect _ _ => cases heffect
  | signal _ _ _ =>
    change Flow.Achieves _ (if heard.value || !heard.isOpen then _ else _) _ _
    split
    · refine (drain_paces config).bind ?_
      rintro _ _ rfl
      rfl
    · refine ⟨⟨none, _, .dispatch _ _ _⟩, fun found pace hpaces => ?_⟩
      cases hpaces with
      | other heffect _ _ => cases heffect
      | dispatch _ _ _ =>
        cases found with
        | none => rfl
        | some e => exact paces_other () rfl fun _ => rfl

/-! ## What has been paid for -/

/-- The admissions are at most the ticks with some values that were sent, and at most the ticks if
nobody was told to go on. -/
def Within (sent : List Bool) (admitted ticked extra : Nat) : Prop :=
  admitted ≤ ticked + extra ∧ (false ∉ sent → admitted ≤ ticked)

/-- Fewer admissions stay within their bound, and a higher bound does too. -/
theorem Within.mono (h : Within sent admitted ticked extra) {fewer more : Nat}
    (hadmitted : fewer ≤ admitted) (hextra : extra ≤ more) : Within sent fewer ticked more :=
  ⟨by have := h.1; omega, fun hsent => hadmitted.trans (h.2 hsent)⟩

/-- A further value leaves the admissions within their bound. -/
theorem Within.send (h : Within sent admitted ticked extra) (value : Bool) :
    Within (sent ++ [value]) admitted ticked extra :=
  ⟨h.1, fun hsent => h.2 fun hmem => hsent (List.mem_append_left _ hmem)⟩

/-- A tick pays for one admission more. -/
theorem Within.tick (h : Within sent admitted ticked extra) :
    Within sent (admitted + 1) (ticked + 1) extra :=
  ⟨by have := h.1; omega, fun hsent => Nat.succ_le_succ (h.2 hsent)⟩

/-- The signal after the values that were sent. -/
structure Follows (origin signal : Signal) (sent : List Bool) : Prop where
  changes : signal.changes = origin.changes + sent.length
  value : sent ≠ [] → false ∉ sent → signal.value = true

/-- What the pace of the loop says about the admissions. A wake pays for one admission more, but a
look at a signal that tells to stop does not let it happen. -/
def Pace.Fits (origin signal : Signal) (sent : List Bool) (admitted ticked : Nat) : Pace → Prop
  | .asleep seen => ∃ heard ≤ sent.length, seen = origin.changes + heard ∧
      Within sent admitted ticked heard
  | .awake seen .elapsed | .admitting seen => ∃ heard ≤ sent.length, seen = origin.changes + heard ∧
      Within sent (admitted + 1) ticked heard
  | .awake seen (.news (.changed _)) => ∃ heard < sent.length, seen = origin.changes + heard + 1 ∧
      Within sent admitted ticked heard
  | .awake _ (.news _) => signal.isOpen = false ∧ Within sent admitted ticked sent.length
  | .leaving => Within sent admitted ticked sent.length

variable {pace : Pace}

/-- At every pace the admissions are within the bound by all values sent. -/
theorem Pace.Fits.within (h : pace.Fits origin signal sent admitted ticked) :
    Within sent admitted ticked sent.length := by
  match pace, h with
  | .asleep _, ⟨_, hle, _, hwithin⟩ => exact hwithin.mono le_rfl hle
  | .awake _ .elapsed, ⟨_, hle, _, hwithin⟩ | .admitting _, ⟨_, hle, _, hwithin⟩ =>
    exact hwithin.mono (Nat.le_succ _) hle
  | .awake _ (.news (.changed _)), ⟨_, hlt, _, hwithin⟩ => exact hwithin.mono le_rfl hlt.le
  | .awake _ (.news .nothing), h | .awake _ (.news .closed), h => exact h.2
  | .leaving, h => exact h

/-- A value that is sent takes nothing back. -/
theorem Pace.Fits.send (h : pace.Fits origin signal sent admitted ticked) (value : Bool)
    (hopen : signal.isOpen = true) :
    pace.Fits origin (signal.send value) (sent ++ [value]) admitted ticked := by
  have hlonger : sent.length ≤ (sent ++ [value]).length := by simp
  match pace, h with
  | .asleep _, ⟨heard, hle, hseen, hwithin⟩ =>
    exact ⟨heard, hle.trans hlonger, hseen, hwithin.send value⟩
  | .awake _ .elapsed, ⟨heard, hle, hseen, hwithin⟩ | .admitting _, ⟨heard, hle, hseen, hwithin⟩ =>
    exact ⟨heard, hle.trans hlonger, hseen, hwithin.send value⟩
  | .awake _ (.news (.changed _)), ⟨heard, hlt, hseen, hwithin⟩ =>
    exact ⟨heard, hlt.trans_le hlonger, hseen, hwithin.send value⟩
  | .awake _ (.news .nothing), h | .awake _ (.news .closed), h =>
    exact absurd (hopen.symm.trans h.1) Bool.noConfusion
  | .leaving, h => exact (Within.send h value).mono le_rfl hlonger

/-- The pace of the loop fits as before when the sender goes away. -/
theorem Pace.Fits.close (h : pace.Fits origin signal sent admitted ticked) :
    pace.Fits origin signal.close sent admitted ticked := by
  match pace, h with
  | .asleep _, h | .awake _ .elapsed, h | .admitting _, h | .awake _ (.news (.changed _)), h
  | .leaving, h => exact h
  | .awake _ (.news .nothing), h | .awake _ (.news .closed), h => exact ⟨rfl, h.2⟩

/-- News are a change that was not seen yet or the end of the sender. -/
theorem news_cases {seen : Nat} {news : Signal.News} (hnews : news = signal.news seen)
    (hsome : news ≠ .nothing) :
    (news = .changed signal.changes ∧ seen ≠ signal.changes) ∨
      (news = .closed ∧ signal.isOpen = false) := by
  subst hnews
  unfold Signal.news at hsome ⊢
  by_cases hseen : seen = signal.changes
  · cases hopen : signal.isOpen with
    | true => simp [hseen, hopen] at hsome
    | false => exact Or.inr ⟨by simp [hseen], rfl⟩
  · exact Or.inl ⟨if_pos hseen, hseen⟩

/-- A wake takes the loop out of its sleep. -/
theorem Pace.Fits.wake {seen : Nat} {limit : Option Instant} {wake : Wake}
    (hfits : (Pace.asleep seen).Fits origin signal sent admitted (ticks asked))
    (hfollows : Follows origin signal sent) (hhears : Hears signal ⟨.wait limit (some seen), wake⟩) :
    (Pace.awake (wake.seenAfter seen) wake).Fits origin signal sent admitted
      (ticks (asked ++ [⟨.wait limit (some seen), wake⟩])) := by
  obtain ⟨heard, hle, hseen, hwithin⟩ := hfits
  rw [ticks_concat]
  cases wake with
  | elapsed => exact ⟨heard, hle, hseen, hwithin.tick⟩
  | news news =>
    obtain ⟨rfl, hunseen⟩ | ⟨rfl, hclosed⟩ := news_cases hhears.1 hhears.2
    · have hchanges := hfollows.changes
      have hlt : heard < sent.length := by omega
      exact ⟨sent.length - 1, by omega, by simp only [Wake.seenAfter]; omega,
        hwithin.mono le_rfl (by omega)⟩
    · exact ⟨hclosed, hwithin.mono le_rfl hle⟩

/-- A look at the signal lets the loop admit an element or tells it to stop. -/
theorem Pace.Fits.look {seen : Nat} {wake : Wake}
    (hfits : (Pace.awake seen wake).Fits origin signal sent admitted ticked)
    (hfollows : Follows origin signal sent) :
    (if signal.value || !signal.isOpen then Pace.leaving else .admitting seen).Fits origin signal
      sent admitted ticked := by
  split
  case isTrue => exact hfits.within
  case isFalse hgoes =>
    have hgoes : signal.value = false ∧ signal.isOpen = true := by simpa using hgoes
    match wake, hfits with
    | .elapsed, h => exact h
    | .news (.changed _), ⟨heard, hlt, hseen, hwithin⟩ =>
      have hsent : sent ≠ [] := List.ne_nil_of_length_pos (by omega)
      refine ⟨heard + 1, hlt, hseen, Nat.succ_le_succ hwithin.1, fun htrue => ?_⟩
      exact absurd ((hfollows.value hsent htrue).symm.trans hgoes.1) Bool.noConfusion
    | .news .nothing, h | .news .closed, h =>
      exact absurd (hgoes.2.symm.trans h.1) Bool.noConfusion

/-- A request that does not take the loop further is no tick. -/
theorem isTick_of_not_pacing {effect : Effect} (heffect : isPacing effect = false)
    (answer : effect.Answer) : isTick ⟨effect, answer⟩ = false := by
  cases effect with
  | wait _ _ => cases heffect
  | _ => rfl

/-- What the loop hears takes it to the next pace. -/
theorem Pace.Fits.observe {effect : Effect} {answer : effect.Answer}
    (hfits : pace.Fits origin signal sent admitted (ticks asked))
    (hfollows : Follows origin signal sent) (hhears : Hears signal ⟨effect, answer⟩)
    (hdispatch : ∀ limit, effect ≠ .dispatch limit)
    (hpaced : ∃ answer pace', Paces effect pace answer pace') :
    ∃ pace', Paces effect pace answer pace' ∧
      pace'.Fits origin signal sent admitted (ticks (asked ++ [⟨effect, answer⟩])) := by
  obtain ⟨_, _, hpaces⟩ := hpaced
  cases hpaces with
  | wait limit seen _ => exact ⟨_, .wait limit seen answer, hfits.wake hfollows hhears⟩
  | signal seen wake _ =>
    obtain rfl : answer = signal := hhears
    refine ⟨_, .signal seen wake answer, ?_⟩
    rw [ticks_concat]
    exact hfits.look hfollows
  | dispatch limit _ _ => exact absurd rfl (hdispatch limit)
  | other heffect _ _ =>
    refine ⟨pace, .other heffect answer pace, ?_⟩
    rw [ticks_concat, isTick_of_not_pacing heffect]
    exact hfits

/-! ## Runs -/

/-- What holds after a run: the signal follows the values that were sent, the admissions are paid
for, and the loop is at a pace that fits. -/
structure Service.Paced (origin signal : Signal) (events : List Event) (sent : List Bool)
    (v : Service) : Prop where
  follows : Follows origin signal sent
  within : Within sent (dispatched events).length (ticks v.asked) sent.length
  loop : ∀ rest, v.loop = some rest → ∃ pace : Pace,
    pace.Fits origin signal sent (dispatched events).length (ticks v.asked) ∧
      rest.Achieves Paces pace fun next pace => pace = paceAfter next

/-- A loop that goes on at a pace that fits. -/
theorem paced_of_loop {rest : Task (Option Dispatcher)} (hfollows : Follows origin signal sent)
    (hloop : v.loop = some rest)
    (hfits : pace.Fits origin signal sent (dispatched events).length (ticks v.asked))
    (hachieves : rest.Achieves Paces pace fun next pace => pace = paceAfter next) :
    v.Paced origin signal events sent where
  follows := hfollows
  within := hfits.within
  loop _ hrest := by
    obtain rfl := Option.some.inj (hloop.symm.trans hrest)
    exact ⟨pace, hfits, hachieves⟩

/-- A service is paced when it starts. -/
theorem paced_start (origin : Signal) : (Service.start origin.changes).Paced origin origin [] [] :=
  have hfits : (Pace.asleep origin.changes).Fits origin origin [] 0 0 :=
    ⟨0, le_rfl, rfl, le_rfl, fun _ => le_rfl⟩
  paced_of_loop ⟨rfl, fun hsent => absurd rfl hsent⟩ rfl hfits (start_paces _)

/-- A step that is not one of the loop hands out nothing. -/
theorem dispatched?_of_other {event : Event} (hother : ¬ event.OfLoop) :
    event.dispatched? = none := by
  cases event with
  | dispatched _ => exact absurd trivial hother
  | _ => rfl

/-- An event that is no admission. -/
theorem dispatched_concat_none {event : Event} (h : event.dispatched? = none) :
    dispatched (events ++ [event]) = dispatched events :=
  filterMap_append_none h

/-- A step hands out one element at most. -/
theorem length_dispatched_concat_le (event : Event) :
    (dispatched (events ++ [event])).length ≤ (dispatched events).length + 1 := by
  cases h : event.dispatched? with
  | none =>
    rw [dispatched_concat_none h]
    exact Nat.le_succ _
  | some e =>
    rw [dispatched, filterMap_append_some h, List.length_append]
    exact le_rfl

/-- A step of the service keeps the admissions paid for. -/
theorem Service.Paced.step {event : Option Event} (h : v.Paced origin signal events sent)
    (hstep : Service.Step config compares v event w)
    (hhears : ∀ x, w.asked = v.asked ++ [x] → Hears signal x) :
    w.Paced origin signal (events ++ event.toList) sent := by
  cases hstep with
  | @other event _ _ hother =>
    have hsame : dispatched (events ++ [event]) = dispatched events :=
      dispatched_concat_none (dispatched?_of_other hother)
    exact ⟨h.follows, hsame ▸ h.within, hsame ▸ h.loop⟩
  | @observe effect next answer hloop hobserves =>
    obtain ⟨pace, hfits, hpaced, hnext⟩ := h.loop _ hloop
    have hdispatch : ∀ limit, effect ≠ .dispatch limit := by
      rintro limit rfl
      nomatch hobserves
    obtain ⟨pace', hpaces, hfits'⟩ := hfits.observe h.follows (hhears _ rfl) hdispatch hpaced
    rw [Option.toList_none, List.append_nil]
    exact paced_of_loop h.follows rfl hfits' (hnext answer pace' hpaces)
  | @dispatch next found system hloop hstep =>
    obtain ⟨pace, hfits, ⟨_, _, hpaces⟩, hnext⟩ := h.loop _ hloop
    cases hpaces with
    | other heffect _ _ => cases heffect
    | dispatch limit seen _ =>
      -- The wake of this round has paid for the element that may be handed out.
      obtain ⟨heard, hle, hseen, hwithin⟩ := hfits
      refine paced_of_loop h.follows rfl ?_ (hnext found _ (.dispatch _ seen found))
      rw [ticks_concat]
      exact ⟨heard, hle, hseen, hwithin.mono (length_dispatched_concat_le _) le_rfl⟩
  | @begin e seen next others hloop helement =>
    obtain ⟨pace, hfits, hpaced, hnext⟩ := h.loop _ hloop
    have hother : isPacing (.beginExecution e seen) = false := rfl
    refine paced_of_loop h.follows rfl ?_ (hnext () pace (.other hother () pace))
    have hsame : dispatched (events ++ [.executionBegan e]) = dispatched events :=
      dispatched_concat_none rfl
    rw [ticks_concat, Option.toList_some, hsame]
    exact hfits
  | @abort _ x _ _ _ _ =>
    have hsame : dispatched (events ++ [.executionAborted x.element]) = dispatched events :=
      dispatched_concat_none rfl
    exact ⟨h.follows, hsame ▸ h.within, hsame ▸ h.loop⟩
  | @round d hloop =>
    obtain ⟨pace, hfits, hpace⟩ := h.loop _ hloop
    obtain rfl : pace = .asleep d.seen := hpace
    rw [Option.toList_none, List.append_nil]
    exact paced_of_loop h.follows rfl hfits (round_paces d)
  | stop hloop =>
    rw [Option.toList_none, List.append_nil]
    exact ⟨h.follows, h.within, nofun⟩

/-- The signal follows one value more when that value is sent. -/
theorem Follows.send (h : Follows origin signal sent) (value : Bool) :
    Follows origin (signal.send value) (sent ++ [value]) where
  changes := by
    rw [List.length_append]
    exact congrArg (· + 1) h.changes
  value _ htrue := by
    cases value with
    | true => rfl
    | false => exact absurd (List.mem_append_right sent (List.mem_singleton_self false)) htrue

/-- A value that is sent keeps the admissions paid for. -/
theorem Service.Paced.send (h : v.Paced origin signal events sent) (value : Bool)
    (hopen : signal.isOpen = true) :
    v.Paced origin (signal.send value) events (sent ++ [value]) where
  follows := h.follows.send value
  within := (h.within.send value).mono le_rfl (by simp)
  loop rest hrest := by
    obtain ⟨pace, hfits, hachieves⟩ := h.loop rest hrest
    exact ⟨pace, hfits.send value hopen, hachieves⟩

/-- The end of the sender keeps the admissions paid for. -/
theorem Service.Paced.close (h : v.Paced origin signal events sent) :
    v.Paced origin signal.close events sent where
  follows := ⟨h.follows.changes, h.follows.value⟩
  within := h.within
  loop rest hrest := by
    obtain ⟨pace, hfits, hachieves⟩ := h.loop rest hrest
    exact ⟨pace, hfits.close, hachieves⟩

/-- Every run of a service that listens is paced. -/
theorem Listening.paced (hrun : Listening config compares origin events sent v signal) :
    v.Paced origin signal events sent := by
  induction hrun with
  | start => exact paced_start origin
  | step _ hstep hhears ih => exact ih.step hstep hhears
  | send _ value hopen ih => exact ih.send value hopen
  | close _ ih => exact ih.close

/-- At every moment the loop has admitted at most as many elements as there were ticks and values
sent. As long as no value told it to go on, the ticks alone are as many. -/
theorem admissions_le (hrun : Listening config compares origin events sent v signal) :
    (dispatched events).length ≤ ticks v.asked + sent.length ∧
      (false ∉ sent → (dispatched events).length ≤ ticks v.asked) :=
  hrun.paced.within

/-! ## A run with an admission for a value -/

namespace Listening

variable {q q' : Queue} {submissions : Multiset (Task (Except Store.Error Submission))}
  {executions : Multiset Execution} {attempts : Multiset Attempt} {begun : Nat} {e : Element}
  {r : Request} {d : Dispatcher} {loop : Option (Task (Option Dispatcher))}

/-- A step in which the loop hears nothing. -/
theorem unheard {event : Option Event} (hrun : Listening config compares origin events sent v signal)
    (hstep : Service.Step config.normalized compares v event w) (hasked : w.asked = v.asked) :
    Listening config compares origin (events ++ event.toList) sent w signal := by
  refine hrun.step hstep fun x hx => ?_
  rw [hasked] at hx
  simp at hx

/-- A step in which the loop hears something of the signal. -/
theorem hear {event : Option Event} {x : Flow.Exchange Effects}
    (hrun : Listening config compares origin events sent v signal)
    (hstep : Service.Step config.normalized compares v event w) (hasked : w.asked = v.asked ++ [x])
    (hhears : Hears signal x) :
    Listening config compares origin (events ++ event.toList) sent w signal := by
  refine hrun.step hstep fun y hy => ?_
  obtain rfl : x = y := by simpa using hasked.symm.trans hy
  exact hhears

/-- A request can be accepted while the loop listens. -/
theorem submit
    (hrun : Listening config compares origin events sent
      ⟨⟨q, submissions, 0, executions, attempts, begun⟩, loop, asked⟩ signal) (r : Request)
    (hqueue : q.submit config.normalized.defaultRetries r = (.accepted, q')) :
    Listening config compares origin
      (events ++ lookup r ++ [.submitting (.enqueue config.normalized.defaultRetries r) .accepted])
      sent
      ⟨⟨q', Flow.done (.ok .accepted) ::ₘ submissions, 0, executions, attempts, begun⟩, loop, asked⟩
      signal := by
  have hlookup : Answers (.store (.exists_ (.forIdentifier r.identifier) .finished)) q
      (Except.ok false) q := .outside rfl _ _
  have henqueue := Answers.enqueue config.normalized.defaultRetries r q
  rw [hqueue] at henqueue
  have hcalled := hrun.unheard (.other (.call _ r) id) rfl
  have hlooked := hcalled.unheard (.other (.submit rfl (.ask hlookup)) id) rfl
  have haccepted := hlooked.unheard (.other (.submit rfl (.ask henqueue)) id) rfl
  rw [List.append_assoc, List.append_assoc] at haccepted
  rw [List.append_assoc]
  exact haccepted

/-- A loop that was woken admits an element if nobody tells it to stop. -/
theorem handOut
    (hrun : Listening config compares origin events sent
      ⟨⟨q, submissions, 0, executions, attempts, begun⟩, some (afterWake config.normalized d), asked⟩
      signal)
    (hvalue : signal.value = false) (hopen : signal.isOpen = true)
    (hqueue : q.dispatch? config.normalized.maxConcurrentJobs.toNat = some (e, q')) :
    Listening config compares origin
      (events ++ [.dispatched (some e), .executionBegan e]) sent
      ⟨⟨q', submissions, 0,
        ⟨e, .running (execute config.normalized compares e d.seen)⟩ ::ₘ executions, attempts, begun⟩,
        some (Flow.done (some d)),
        asked ++ [⟨.signal, signal⟩,
          ⟨.dispatch config.normalized.maxConcurrentJobs.toNat, some e⟩,
          ⟨.beginExecution e d.seen, ()⟩]⟩
      signal := by
  have hlooked := hrun.hear (.observe rfl (.signal signal _)) rfl rfl
  simp only [hvalue, hopen] at hlooked
  have hstep : Scheduling.Step config.normalized compares
      ⟨q, submissions, 0, executions, attempts, begun⟩ (.dispatched (some e))
      ⟨q', submissions, e ::ₘ 0, executions, attempts, begun⟩ := .dispatch (.ask (.dispatch hqueue))
  have hdispatched := hlooked.hear (.dispatch rfl hstep) rfl trivial
  have hadmitted : e ::ₘ (0 : Multiset Element) = e ::ₘ 0 := rfl
  have hbegun := hdispatched.hear (.begin rfl hadmitted) rfl trivial
  simp only [Option.toList_none, List.append_nil, Option.toList_some, List.append_assoc] at hbegun
  exact hbegun

end Listening

/-- Settings with two slots. -/
def twoSlots : Config := { maxConcurrentJobs := 2 }

/-- Two elements are admitted after one tick and one value that tells the loop to go on; all looks
at the clock show the instant of that tick. -/
theorem listening_two : ∃ events v signal, Listening twoSlots true {} events [false] v signal ∧
    dispatched events = [(microElement "4be2a1f" 0).started, (microElement "9d03c77" 1).started] ∧
    ticks v.asked = 1 ∧ ∀ now : Instant, ⟨.instant, now⟩ ∈ v.asked → now = ⟨0⟩ := by
  have hstart : Listening twoSlots true {} [] [] (Service.start 0) {} := .start
  have hready := hstart.hear (.observe rfl (.instant ⟨0⟩ _)) rfl trivial
  have hone := hready.submit (microRequest "4be2a1f") (submit_empty _ _ 0)
  have htwo := hone.submit (microRequest "9d03c77") rfl
  have hround := htwo.unheard (.round rfl) rfl
  have hwoken := hround.hear (.observe rfl (.wait _ _ .elapsed _)) rfl trivial
  have htimed := hwoken.hear (.observe rfl (.instant ⟨0⟩ _)) rfl trivial
  have hadmitted := htimed.handOut rfl rfl rfl
  have hsent := hadmitted.send false rfl
  have hagain := hsent.unheard (.round rfl) rfl
  have hnews := hagain.hear (.observe rfl (.wait _ _ (.news (.changed 1)) _)) rfl ⟨rfl, nofun⟩
  have hboth := hnews.handOut rfl rfl rfl
  refine ⟨_, _, _, hboth, rfl, rfl, fun now hnow => ?_⟩
  simpa [Service.start] using hnow

/-- The second admission of that run is paid for with the value. -/
theorem admissions_le_two : ∃ events v signal, Listening twoSlots true {} events [false] v signal ∧
    (dispatched events).length = 2 ∧
    (dispatched events).length ≤ ticks v.asked + [false].length := by
  obtain ⟨events, v, signal, hrun, hdispatched, -, -⟩ := listening_two
  exact ⟨events, v, signal, hrun, congrArg List.length hdispatched, (admissions_le hrun).1⟩

/-- So one tick does not keep the loop from a second admission. -/
theorem two_admissions_after_one_tick : ∃ events sent v signal,
    Listening twoSlots true {} events sent v signal ∧ ticks v.asked = 1 ∧
      (∀ now : Instant, ⟨.instant, now⟩ ∈ v.asked → now = ⟨0⟩) ∧
      ¬ (dispatched events).length ≤ ticks v.asked := by
  obtain ⟨events, v, signal, hrun, hdispatched, hticks, hclock⟩ := listening_two
  refine ⟨events, [false], v, signal, hrun, hticks, hclock, ?_⟩
  rw [hdispatched, hticks]
  decide

end Scheduling

end BenchQueue
