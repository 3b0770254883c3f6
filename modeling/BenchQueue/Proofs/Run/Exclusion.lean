import BenchQueue.Proofs.Run.Tasks
import BenchQueue.Proofs.Run.Verdict

/-!
# One call at a time

However executions and their tasks go on, the calls on the provider of an execution begin in their
order, and each begins only after all others have ended or were dropped. So no call goes on once the
clean up has begun, also if the deadline has passed in the middle of another one.
-/

namespace BenchQueue.Run

open BenchQueue.Infra (Call Ended)

variable {seen : List CallEvent} {inside : List Call} {call : Call} {handle : Nat}
  {locked locked' givenUp : Bool} {progress progress' : Progress call} {event : Option CallEvent}
  {a b : Activity} {taken : Nat → Prop}

/-! ## Calls that have begun and ended -/

/-- One more event adds the call that it begins, if it begins one. -/
theorem begun_concat (seen : List CallEvent) (x : CallEvent) :
    begun (seen ++ [x]) = begun seen ++ x.began?.toList :=
  Flow.filterMap_concat CallEvent.began? seen x

/-- One more event adds the call that it ends, if it ends one. -/
theorem finished_concat (seen : List CallEvent) (x : CallEvent) :
    finished (seen ++ [x]) = finished seen ++ x.ended?.toList :=
  Flow.filterMap_concat CallEvent.ended? seen x

/-- Calls have begun in their order, and all of them have ended but for one at most. The lock is
taken as long as that one needs it. -/
structure Ledger (seen : List CallEvent) (inside : List Call) (locked : Bool) : Prop where
  ordered : (begun seen).Pairwise fun c d => c.place < d.place
  balance : begun seen = finished seen ++ inside
  single : inside.length ≤ 1
  lock : locked = inside.any (·.isExclusive)

/-- Before any event no call has begun. -/
theorem ledger_nil : Ledger [] [] false :=
  ⟨List.Pairwise.nil, rfl, Nat.zero_le _, rfl⟩

/-- A call may begin when none is in progress. -/
theorem Ledger.begin (h : Ledger seen [] locked) (handle : Nat)
    (hplace : ∀ c ∈ begun seen, c.place < call.place) :
    Ledger (seen ++ [.began handle call]) [call] call.isExclusive where
  ordered := by
    rw [begun_concat]
    refine List.pairwise_append.mpr ⟨h.ordered, List.pairwise_singleton _ _, fun c hc d hd => ?_⟩
    rw [List.mem_singleton.mp hd]
    exact hplace c hc
  balance := by
    rw [begun_concat, finished_concat, h.balance, List.append_nil]
    exact congrArg (· ++ [call]) (List.append_nil _).symm
  single := Nat.le_refl 1
  lock := (Bool.or_false _).symm

/-- The call in progress may end. -/
theorem Ledger.finish (h : Ledger seen [call] locked) (handle : Nat) (ended : Ended call.Answer) :
    Ledger (seen ++ [.ended handle ⟨call, ended⟩]) [] false where
  ordered := by
    rw [begun_concat]
    exact (List.append_nil _).symm ▸ h.ordered
  balance := by
    rw [begun_concat, finished_concat, h.balance]
    rfl
  single := Nat.zero_le 1
  lock := rfl

/-! ## Tasks -/

/-- A task is inside of no other call than its own. -/
theorem Progress.eq_of_mem_inside {c : Call} (h : c ∈ progress.inside) : c = call := by
  cases progress with
  | working | suspended => exact List.mem_singleton.mp h
  | waiting | settled _ => exact absurd h List.not_mem_nil

/-- A step of a task enters its call, does nothing that is seen, or leaves its call. -/
theorem Polled.cases (h : Polled handle givenUp progress locked event progress' locked') :
    (givenUp = false ∧ progress = .waiting ∧ progress' = .working ∧ locked = false ∧
        locked' = true ∧ event = some (.began handle call)) ∨
      (progress'.inside = progress.inside ∧ locked' = locked ∧ event = none) ∨
      ∃ ended, progress.inside = [call] ∧ progress'.inside = [] ∧ locked' = false ∧
        event = some (.ended handle ⟨call, ended⟩) := by
  cases h with
  | enter hkept => exact Or.inl ⟨hkept, rfl, rfl, rfl, rfl, rfl⟩
  | suspend _ | proceed _ _ | neverBegan _ _ => exact Or.inr (Or.inl ⟨rfl, rfl, rfl⟩)
  | returned _ _ | panicked _ | dropped _ _ => exact Or.inr (Or.inr ⟨_, rfl, rfl, rfl, rfl⟩)

/-- Whether the task of a call may have begun it. -/
def Progress.opened {call : Call} : Progress call → Nat
  | .waiting => 0
  | .working | .suspended | .settled _ => 1

/-- The calls that have begun are before those that an execution still makes on its provider. -/
def Main.Fits (provider : Option Nat) (begun : List Call) : Main → Prop
  | .running rest => ∃ next, (∀ c ∈ begun, c.place < next) ∧
      rest.Achieves Conducts ⟨provider, next⟩ fun _ _ => True
  | .calling handle call next => provider = some handle ∧ (∀ c ∈ begun, c.place < call.place + 1) ∧
      ∀ answer, (next answer).Achieves Conducts ⟨some handle, call.place + 1⟩ fun _ _ => True
  | .awaiting handle call progress next => provider = some handle ∧ call.isExclusive = true ∧
      (∀ c ∈ begun, c.place < call.place + progress.opened) ∧
      ∀ ended, (next ended).Achieves Conducts ⟨some handle, call.place + 1⟩ fun _ _ => True

/-- What every step of an execution and its tasks keeps. -/
structure Activity.Orderly (seen : List CallEvent) (a : Activity) : Prop where
  ledger : Ledger seen a.inside a.locked
  main : a.main.Fits a.provider (begun seen)
  handles : ∀ x ∈ seen, a.provider = some x.handle
  leftovers : ∀ l ∈ a.leftovers, a.provider = some l.handle ∧ l.call.isExclusive = true

/-- An execution that has done nothing keeps all that its steps keep. -/
theorem orderly_start (job : Job) : job.start.Orderly [] where
  ledger := ledger_nil
  main := ⟨0, fun _ hc => absurd hc List.not_mem_nil,
    (executeFile_conducts job.deadline job.identifier job.configPath).mono fun _ _ _ => trivial⟩
  handles := fun _ hx => absurd hx List.not_mem_nil
  leftovers := fun _ hl => absurd hl List.not_mem_nil

namespace Activity.Orderly

/-- The calls of tasks that were given up need the lock. -/
theorem exclusive_of_leftover (h : a.Orderly seen) {c : Call}
    (hc : c ∈ a.leftovers.flatMap (·.progress.inside)) : c.isExclusive = true := by
  obtain ⟨l, hl, hinside⟩ := List.mem_flatMap.mp hc
  rw [l.progress.eq_of_mem_inside hinside]
  exact (h.leftovers l hl).2

/-- An execution that is in no call itself can begin one with the lock only when none is in
progress. -/
theorem inside_of_unlocked (h : a.Orderly seen) (hmain : a.main.inside = [])
    (hlocked : a.locked = false) : a.inside = [] := by
  have hlock := h.ledger.lock
  rw [hlocked, eq_comm, List.any_eq_false] at hlock
  refine List.eq_nil_iff_forall_not_mem.mpr fun c hc => hlock c hc ?_
  rw [Activity.inside, hmain] at hc
  exact h.exclusive_of_leftover hc

/-- A call without the lock begins before there are tasks in a call. -/
theorem inside_of_not_exclusive (h : a.Orderly seen) (hmain : a.main.inside = [])
    (hcall : call.isExclusive = false) (hplace : ∀ c ∈ begun seen, c.place < call.place) :
    a.inside = [] := by
  refine List.eq_nil_iff_forall_not_mem.mpr fun c hc => ?_
  have hlt := hplace c (h.ledger.balance ▸ List.mem_append_right _ hc)
  rw [Activity.inside, hmain] at hc
  have hc := (Call.isExclusive_iff c).mp (h.exclusive_of_leftover hc)
  have hexclusive : call.isExclusive = true := (Call.isExclusive_iff call).mpr (by omega)
  exact Bool.noConfusion (hcall.symm.trans hexclusive)

/-- The call in progress is the only one. -/
theorem alone (h : a.Orderly seen) {front rest : List Call}
    (hinside : a.inside = front ++ ([call] ++ rest)) :
    front = [] ∧ rest = [] ∧ a.inside = [call] := by
  have hsingle := h.ledger.single
  rw [hinside, List.length_append, List.length_append, List.length_singleton] at hsingle
  obtain rfl : front = [] := List.eq_nil_of_length_eq_zero (by omega)
  obtain rfl : rest = [] := List.eq_nil_of_length_eq_zero (by omega)
  exact ⟨rfl, rfl, hinside⟩

/-- A step that is not seen and keeps the calls in progress. -/
theorem quiet (h : a.Orderly seen) (hinside : b.inside = a.inside) (hlocked : b.locked = a.locked)
    (hmain : b.main.Fits b.provider (begun seen))
    (hprovider : ∀ handle, a.provider = some handle → b.provider = some handle)
    (hleftovers : ∀ l ∈ b.leftovers, b.provider = some l.handle ∧ l.call.isExclusive = true) :
    b.Orderly seen := by
  refine ⟨?_, hmain, fun x hx => hprovider _ (h.handles x hx), hleftovers⟩
  rw [hinside, hlocked]
  exact h.ledger

/-- A call that begins while none is in progress, and after all others. -/
theorem enter (h : a.Orderly seen) (hnone : a.inside = []) (hprovider : b.provider = some handle)
    (hsame : b.provider = a.provider) (hplace : ∀ c ∈ begun seen, c.place < call.place)
    (hinside : b.inside = [call]) (hlocked : b.locked = call.isExclusive)
    (hleftovers : b.leftovers = a.leftovers)
    (hmain : (∀ c ∈ begun (seen ++ [.began handle call]), c.place < call.place + 1) →
      b.main.Fits b.provider (begun (seen ++ [.began handle call]))) :
    b.Orderly (seen ++ [.began handle call]) where
  ledger := by
    rw [hinside, hlocked]
    exact (hnone ▸ h.ledger).begin handle hplace
  main := by
    refine hmain fun c hc => ?_
    rw [begun_concat] at hc
    rcases List.mem_append.mp hc with hc | hc
    · exact Nat.lt_succ_of_lt (hplace c hc)
    · rw [List.mem_singleton.mp hc]
      exact Nat.lt_succ_self _
  handles x hx := by
    rcases List.mem_append.mp hx with hx | hx
    · exact hsame.trans (h.handles x hx)
    · rw [List.mem_singleton.mp hx]
      exact hprovider
  leftovers := by
    rw [hleftovers, hsame]
    exact h.leftovers

/-- The call in progress ends or is dropped. -/
theorem leave (h : a.Orderly seen) (ended : Ended call.Answer) (hone : a.inside = [call])
    (hprovider : b.provider = some handle) (hsame : b.provider = a.provider)
    (hinside : b.inside = []) (hlocked : b.locked = false)
    (hmain : b.main.Fits b.provider (begun seen))
    (hleftovers : ∀ l ∈ b.leftovers, b.provider = some l.handle ∧ l.call.isExclusive = true) :
    b.Orderly (seen ++ [.ended handle ⟨call, ended⟩]) where
  ledger := by
    rw [hinside, hlocked]
    exact (hone ▸ h.ledger).finish handle ended
  main := by
    rw [begun_concat]
    exact (List.append_nil _).symm ▸ hmain
  handles x hx := by
    rcases List.mem_append.mp hx with hx | hx
    · exact hsame.trans (h.handles x hx)
    · rw [List.mem_singleton.mp hx]
      exact hprovider
  leftovers := hleftovers

/-- The lock is free if no call is inside. -/
theorem locked_of_inside (h : a.Orderly seen) (hnone : a.inside = []) : a.locked = false := by
  rw [h.ledger.lock, hnone]
  rfl

end Activity.Orderly

/-- A call that has begun stays so when its task is polled. -/
theorem Polled.opened_le (h : Polled handle givenUp progress locked event progress' locked') :
    progress.opened ≤ progress'.opened := by
  cases h <;> simp [Progress.opened]

/-- A task begins its call at most once. -/
theorem Progress.opened_le_one (progress : Progress call) : progress.opened ≤ 1 := by
  cases progress <;> simp [Progress.opened]

namespace Activity.Orderly

/-- An execution begins a call itself. -/
theorem begin {next : call.Answer → Task (Except Error Unit)} (h : a.Orderly seen)
    (hmain : a.main = .running (Flow.ask (.provider handle call) next))
    (hlock : call.isExclusive = true → a.locked = false) :
    ({ a with main := .calling handle call next, locked := a.locked || call.isExclusive } :
      Activity).Orderly (seen ++ [.began handle call]) := by
  have hfits := h.main
  rw [hmain] at hfits
  obtain ⟨first, hbegun, hachieves⟩ := hfits
  obtain ⟨hprovider, hplace, hnext⟩ := order_of_call hachieves
  have hbefore : ∀ c ∈ begun seen, c.place < call.place :=
    fun c hc => Nat.lt_of_lt_of_le (hbegun c hc) hplace
  have hidle : a.main.inside = [] := by rw [hmain]; rfl
  have hnone : a.inside = [] := by
    cases hexclusive : call.isExclusive with
    | true => exact h.inside_of_unlocked hidle (hlock hexclusive)
    | false => exact h.inside_of_not_exclusive hidle hexclusive hbefore
  refine h.enter hnone hprovider rfl hbefore ?_ ?_ rfl fun hplaces => ⟨hprovider, hplaces, hnext⟩
  · rw [Activity.inside, hidle] at hnone
    exact congrArg ([call] ++ ·) hnone
  · simp only [h.locked_of_inside hnone, Bool.false_or]

/-- The task that an execution waits for makes a step. -/
theorem poll {next : Ended call.Answer → Task (Except Error Unit)} (h : a.Orderly seen)
    (hmain : a.main = .awaiting handle call progress next)
    (hpolled : Polled handle false progress a.locked event progress' locked) :
    ({ a with main := .awaiting handle call progress' next, locked } : Activity).Orderly
      (seen ++ event.toList) := by
  have hfits := h.main
  rw [hmain] at hfits
  obtain ⟨hprovider, hexclusive, hbegun, hnext⟩ := hfits
  have hinside : a.inside = progress.inside ++ a.leftovers.flatMap (·.progress.inside) := by
    rw [Activity.inside, hmain]
    rfl
  have hlater : ∀ c ∈ begun seen, c.place < call.place + progress'.opened := fun c hc =>
    Nat.lt_of_lt_of_le (hbegun c hc) (Nat.add_le_add_left hpolled.opened_le _)
  -- The call enters, or nothing is seen of it, or it leaves.
  rcases hpolled.cases with ⟨-, rfl, rfl, hunlocked, rfl, rfl⟩ | ⟨hkept, rfl, rfl⟩ |
    ⟨ended, hentered, hleft, rfl, rfl⟩
  · have hnone := h.inside_of_unlocked (by rw [hmain]; rfl) hunlocked
    rw [hnone] at hinside
    exact h.enter hnone hprovider rfl hbegun (congrArg ([call] ++ ·) hinside.symm) hexclusive.symm
      rfl fun hplaces => ⟨hprovider, hexclusive, hplaces, hnext⟩
  · rw [Option.toList_none, List.append_nil]
    refine h.quiet ?_ rfl ⟨hprovider, hexclusive, hlater, hnext⟩ (fun _ => id) h.leftovers
    rw [hinside, ← hkept]
    rfl
  · rw [hentered] at hinside
    obtain ⟨-, hnone, hone⟩ := h.alone (hinside.trans (List.nil_append _).symm)
    refine h.leave ended hone hprovider rfl ?_ rfl ⟨hprovider, hexclusive, hlater, hnext⟩ h.leftovers
    exact congrArg₂ (· ++ ·) hleft hnone

/-- A task that was given up makes a step. It does not enter its call any more. -/
theorem pollLeftover {before after : List Leftover} (h : a.Orderly seen)
    (hleftover : a.leftovers = before ++ ⟨handle, call, progress⟩ :: after)
    (hpolled : Polled handle true progress a.locked event progress' locked) :
    ({ a with leftovers := before ++ ⟨handle, call, progress'⟩ :: after, locked } : Activity).Orderly
      (seen ++ event.toList) := by
  have hinside : a.inside = (a.main.inside ++ before.flatMap (·.progress.inside)) ++
      (progress.inside ++ after.flatMap (·.progress.inside)) := by
    simp only [Activity.inside, hleftover, List.flatMap_append, List.flatMap_cons, List.append_assoc]
  have hothers := h.leftovers
  rw [hleftover, List.forall_mem_append, List.forall_mem_cons] at hothers
  obtain ⟨hbefore, ⟨hprovider, hexclusive⟩, hafter⟩ := hothers
  have hleftovers : ∀ l ∈ before ++ ⟨handle, call, progress'⟩ :: after,
      a.provider = some l.handle ∧ l.call.isExclusive = true := by
    rw [List.forall_mem_append, List.forall_mem_cons]
    exact ⟨hbefore, ⟨hprovider, hexclusive⟩, hafter⟩
  rcases hpolled.cases with ⟨hgivenUp, -⟩ | ⟨hkept, rfl, rfl⟩ | ⟨ended, hentered, hleft, rfl, rfl⟩
  · cases hgivenUp
  · rw [Option.toList_none, List.append_nil]
    refine h.quiet ?_ rfl h.main (fun _ => id) hleftovers
    rw [hinside, ← hkept]
    simp only [Activity.inside, List.flatMap_append, List.flatMap_cons, List.append_assoc]
  · rw [hentered] at hinside
    obtain ⟨hfront, hrest, hone⟩ := h.alone hinside
    refine h.leave ended hone hprovider rfl ?_ rfl h.main hleftovers
    simp only [Activity.inside, List.flatMap_append, List.flatMap_cons, hleft, hrest, hfront,
      List.append_nil]

/-- Every step of an execution or of one of its tasks keeps the order of the calls. -/
theorem step (h : a.Orderly seen) (hstep : a.Step taken event b) :
    b.Orderly (seen ++ event.toList) := by
  have hfits := h.main
  cases hstep with
  | begin hmain hlock => exact h.begin hmain hlock
  | poll hmain hpolled => exact h.poll hmain hpolled
  | pollLeftover hleftover hpolled => exact h.pollLeftover hleftover hpolled
  | @finish handle call next answer hmain =>
    rw [hmain] at hfits
    obtain ⟨hprovider, hbegun, hnext⟩ := hfits
    -- A call of the run itself ends: it was inside alone, whatever calls were given up.
    have hinside : a.inside = [] ++ ([call] ++ a.leftovers.flatMap (·.progress.inside)) := by
      rw [Activity.inside, hmain]
      rfl
    obtain ⟨-, hleft, hone⟩ := h.alone hinside
    refine h.leave (.returned answer) hone hprovider rfl hleft ?_ ?_ h.leftovers
    · have hlock := h.ledger.lock
      rw [hone] at hlock
      simp [hlock]
    · exact ⟨_, hbegun, hprovider ▸ hnext answer⟩
  | @answer effect next answer hmain heffect =>
    rw [hmain] at hfits
    obtain ⟨first, hbegun, -, hnext⟩ := hfits
    rw [Option.toList_none, List.append_nil]
    exact h.quiet (by simp only [Activity.inside, hmain]; rfl) rfl
      ⟨first, hbegun, hnext answer _ (.other heffect answer _)⟩ (fun _ => id) h.leftovers
  | @create config next handle hmain hfresh =>
    rw [hmain] at hfits
    obtain ⟨first, hbegun, hachieves⟩ := hfits
    obtain ⟨hnone, rfl, hnext, -⟩ := order_of_create hachieves
    rw [Option.toList_none, List.append_nil]
    refine h.quiet (by simp only [Activity.inside, hmain]; rfl) rfl ⟨0, hbegun, hnext handle⟩ ?_ ?_
    · intro handle' hsome
      cases hnone.symm.trans hsome
    · intro l hl
      cases hnone.symm.trans (h.leftovers l hl).1
  | @refuse config next e hmain =>
    rw [hmain] at hfits
    obtain ⟨first, hbegun, hachieves⟩ := hfits
    obtain ⟨hnone, rfl, -, hnext⟩ := order_of_create hachieves
    rw [Option.toList_none, List.append_nil]
    exact h.quiet (by simp only [Activity.inside, hmain]; rfl) rfl ⟨0, hbegun, hnone ▸ hnext e⟩
      (fun _ => id) h.leftovers
  | @spawn handle call limit next hmain =>
    rw [hmain] at hfits
    obtain ⟨first, hbegun, hachieves⟩ := hfits
    obtain ⟨hprovider, hplace, hexclusive, hnext⟩ := order_of_supervised hachieves
    rw [Option.toList_none, List.append_nil]
    refine h.quiet (by simp only [Activity.inside, hmain]; rfl) rfl ?_ (fun _ => id) h.leftovers
    exact ⟨hprovider, hexclusive, fun c hc => Nat.lt_of_lt_of_le (hbegun c hc) hplace, hnext⟩
  | @resume handle call ended next hmain =>
    rw [hmain] at hfits
    obtain ⟨hprovider, hexclusive, hbegun, hnext⟩ := hfits
    rw [Option.toList_none, List.append_nil]
    exact h.quiet (by simp only [Activity.inside, hmain]; rfl) rfl
      ⟨_, hbegun, hprovider ▸ hnext ended⟩ (fun _ => id) h.leftovers
  | @expire handle call progress next hmain =>
    rw [hmain] at hfits
    obtain ⟨hprovider, hexclusive, hbegun, hnext⟩ := hfits
    -- The call may still begin after it was given up, and the next one comes later even then.
    have hplaces : ∀ c ∈ begun seen, c.place < call.place + 1 := fun c hc =>
      Nat.lt_of_lt_of_le (hbegun c hc) (Nat.add_le_add_left progress.opened_le_one _)
    rw [Option.toList_none, List.append_nil]
    refine h.quiet ?_ rfl ⟨_, hplaces, hprovider ▸ hnext .expired⟩ (fun _ => id) fun l hl => ?_
    · simp only [Activity.inside, hmain, Main.inside, List.flatMap_cons, List.nil_append]
    · rcases List.mem_cons.mp hl with rfl | hl
      · exact ⟨hprovider, hexclusive⟩
      · exact h.leftovers l hl

end Activity.Orderly

/-! ## Concurrent executions -/

section Concurrently

variable {ι : Type} [DecidableEq ι] {jobs : ι → Job} {events : List (ι × CallEvent)}
  {w : ι → Activity} {i j : ι}

/-- One more event of an execution is the last of its trace. -/
theorem trace_concat_self (i : ι) (events : List (ι × CallEvent)) (event : Option CallEvent) :
    trace i (events ++ event.toList.map (i, ·)) = trace i events ++ event.toList := by
  cases event <;> simp [trace]

/-- An event of another execution does not show in the trace. -/
theorem trace_concat_of_ne (h : j ≠ i) (events : List (ι × CallEvent)) (event : Option CallEvent) :
    trace i (events ++ event.toList.map (j, ·)) = trace i events := by
  cases event <;> simp [trace, h]

/-- A step makes no provider or one that is not taken. -/
theorem Activity.Step.provider (hstep : a.Step taken event b)
    (hprovider : b.provider = some handle) :
    a.provider = some handle ∨ ¬ taken handle := by
  cases hstep with
  | create _ _ hfresh => exact Or.inr (Option.some.inj hprovider ▸ hfresh)
  | _ => exact Or.inl hprovider

/-- Every execution keeps its order, whatever the others do at the same time. -/
theorem Concurrently.orderly (hrun : Concurrently jobs events w) (i : ι) :
    (w i).Orderly (trace i events) := by
  induction hrun with
  | start => exact orderly_start _
  | @step events w event a hrun j hstep ih =>
    by_cases hsame : j = i
    · subst hsame
      rw [trace_concat_self, Function.update_self]
      exact ih.step hstep
    · rw [trace_concat_of_ne hsame, Function.update_of_ne (Ne.symm hsame)]
      exact ih

/-- Executions have providers of their own. -/
theorem Concurrently.eq_of_provider (hrun : Concurrently jobs events w)
    (hi : (w i).provider = some handle) (hj : (w j).provider = some handle) : i = j := by
  induction hrun generalizing i j handle with
  | start => cases hi
  | @step events w event a hrun k hstep ih =>
    have hnew {i j : ι} (hik : i = k) (hjk : j ≠ k)
        (hi : (Function.update w k a i).provider = some handle)
        (hj : (Function.update w k a j).provider = some handle) : i = j := by
      subst hik
      rw [Function.update_self] at hi
      rw [Function.update_of_ne hjk] at hj
      rcases hstep.provider hi with hold | hfresh
      · exact ih hold hj
      · exact absurd ⟨j, hj⟩ hfresh
    by_cases hik : i = k <;> by_cases hjk : j = k
    · exact hik.trans hjk.symm
    · exact hnew hik hjk hi hj
    · exact (hnew hjk hik hj hi).symm
    · rw [Function.update_of_ne hik] at hi
      rw [Function.update_of_ne hjk] at hj
      exact ih hi hj

/-- The clean up is the last of some calls in order. -/
theorem getLast?_of_mem_cleanUp {calls : List Call}
    (hordered : calls.Pairwise fun c d => c.place < d.place) (hmem : .cleanUp ∈ calls) :
    calls.getLast? = some .cleanUp := by
  obtain ⟨before, after, rfl⟩ := List.append_of_mem hmem
  obtain ⟨-, hafter, -⟩ := List.pairwise_append.mp hordered
  have hnone : after = [] := List.eq_nil_iff_forall_not_mem.mpr fun c hc => by
    have hlater := (List.pairwise_cons.mp hafter).1 c hc
    cases c <;> exact absurd hlater (by simp [Call.place])
  rw [hnone, List.getLast?_concat]

/-- At every moment, however executions and their tasks go on: an execution makes calls on a
provider of its own, which no other one calls; they begin in their order, each at most once; all
that have begun have ended or were dropped, but for one at most. Once the clean up has begun, it is
the last one, and no other call is in progress. -/
theorem calls_exclude (hrun : Concurrently jobs events w) (i : ι) :
    (∀ x ∈ trace i events, (w i).provider = some x.handle) ∧
    (∀ j ≠ i, ∀ x ∈ trace j events, (w i).provider ≠ some x.handle) ∧
    (begun (trace i events)).Pairwise (fun c d => c.place < d.place) ∧
    begun (trace i events) = finished (trace i events) ++ (w i).inside ∧ (w i).inside.length ≤ 1 ∧
    (.cleanUp ∈ begun (trace i events) → (begun (trace i events)).getLast? = some .cleanUp ∧
      (∀ c ∈ (w i).inside, c = .cleanUp) ∧
      ∀ c ∈ begun (trace i events), c = .cleanUp ∨ c ∈ finished (trace i events)) := by
  have horderly := hrun.orderly i
  obtain ⟨hordered, hbalance, hsingle, -⟩ := horderly.ledger
  refine ⟨horderly.handles, fun j hj x hx hsame => ?_, hordered, hbalance, hsingle,
    fun hcleanUp => ?_⟩
  · exact hj (hrun.eq_of_provider ((hrun.orderly j).handles x hx) hsame)
  · have hlast := getLast?_of_mem_cleanUp hordered hcleanUp
    -- What is inside has begun last, and the clean up comes last.
    have hinside : ∀ c ∈ (w i).inside, c = .cleanUp := by
      intro c hc
      obtain ⟨d, hd⟩ := List.length_eq_one_iff.mp
        (Nat.le_antisymm hsingle (List.length_pos_of_mem hc))
      rw [hbalance, hd, List.getLast?_concat] at hlast
      rw [hd, List.mem_singleton] at hc
      exact hc.trans (Option.some.inj hlast)
    refine ⟨hlast, hinside, fun c hc => ?_⟩
    rw [hbalance] at hc
    rcases List.mem_append.mp hc with hc | hc
    · exact Or.inr hc
    · exact Or.inl (hinside c hc)

end Concurrently

/-! ## A deadline in the middle of a call -/

section Solo

variable {job : Job} {events : List (Unit × CallEvent)} {effect : Effect}

/-- A step of the only execution. -/
theorem Concurrently.solo (hrun : Concurrently (fun _ : Unit => job) events fun _ => a)
    (hstep : a.Step (fun handle => ∃ _ : Unit, a.provider = some handle) event b) :
    Concurrently (fun _ : Unit => job) (events ++ event.toList.map ((), ·)) fun _ => b := by
  have hupdate : Function.update (fun _ : Unit => a) () b = fun _ => b :=
    funext fun _ => Function.update_self ..
  exact hupdate ▸ hrun.step () hstep

/-- A request of the only execution that is not about its provider. -/
theorem Concurrently.soloAnswer {next : effect.Answer → Task (Except Error Unit)}
    (hrun : Concurrently (fun _ : Unit => job) events fun _ => a)
    (hmain : a.main = .running (Flow.ask effect next)) (heffect : isContact effect = false)
    (answer : effect.Answer) :
    Concurrently (fun _ : Unit => job) events
      fun _ => { a with main := .running (next answer) } := by
  have hnext := hrun.solo (.answer answer hmain heffect)
  rwa [Option.toList_none, List.map_nil, List.append_nil] at hnext

/-- A call that the only execution makes itself. -/
theorem Concurrently.soloCall {next : call.Answer → Task (Except Error Unit)}
    (hrun : Concurrently (fun _ : Unit => job) events fun _ => a)
    (hmain : a.main = .running (Flow.ask (.provider handle call) next)) (hlocked : a.locked = false)
    (answer : call.Answer) :
    Concurrently (fun _ : Unit => job)
      (events ++ [((), .began handle call)] ++ [((), .ended handle ⟨call, .returned answer⟩)])
      fun _ => { a with main := .running (next answer), locked := false } := by
  have hnext := (hrun.solo (.begin hmain fun _ => hlocked)).solo (.finish answer rfl)
  have hunlocked : ((a.locked || call.isExclusive) && !call.isExclusive) = false := by
    rw [hlocked]
    cases call.isExclusive <;> rfl
  rwa [hunlocked] at hnext

end Solo

/-- An execution of a micro benchmark. -/
def microJob : Job := ⟨defaultDeadline, microIdentifier, "micro.toml"⟩

/-- The deadline passes in the provision; the task of this is dropped, and the clean up begins. -/
theorem expired_in_provision : ∃ events w, Concurrently (fun _ : Unit => microJob) events w ∧
    .provision ∈ finished (trace () events) ∧ .cleanUp ∈ begun (trace () events) := by
  have hstart : Concurrently (fun _ : Unit => microJob) [] fun _ => microJob.start := .start
  have hnamed := (hstart.soloAnswer rfl rfl (Except.ok "")).soloAnswer rfl rfl Uuid.nil
  have hmade := hnamed.solo (.create 0 rfl (by simp [microJob, Job.start]))
  have hbound := (hmade.soloCall rfl rfl ()).soloCall rfl rfl ()
  have hrecorded := (hbound.soloAnswer rfl rfl default).soloAnswer rfl rfl (Except.ok ())
  have htagged := (hrecorded.soloCall rfl rfl ()).soloAnswer rfl rfl (Except.ok ())
  have hprepared := htagged.soloCall rfl rfl (Except.ok ())
  have hlogs := (hprepared.soloAnswer rfl rfl (Except.ok ())).soloAnswer rfl rfl (Except.ok ())
  have hstarted := (hlogs.soloAnswer rfl rfl default).soloAnswer rfl rfl (Except.ok ())
  have hlimited := (hstarted.soloAnswer rfl rfl ()).soloAnswer rfl rfl Instant.start
  have hentered := (hlimited.solo (.spawn rfl)).solo (.poll rfl (.enter rfl))
  have hexpired := hentered.solo (.expire rfl)
  have hfailed := (hexpired.soloAnswer rfl rfl default).soloAnswer rfl rfl (Except.ok ())
  have hlogged := hfailed.soloAnswer rfl rfl ()
  have hdropped := (hlogged.solo (.pollLeftover (List.nil_append _).symm (.suspend _))).solo
    (.pollLeftover (List.nil_append _).symm (.dropped rfl _))
  have hcleaning := hdropped.solo (.begin rfl fun _ => rfl)
  exact ⟨_, _, hcleaning, by simp [trace, finished, CallEvent.ended?],
    by simp [trace, begun, CallEvent.began?]⟩

/-- A provision that is given up at the deadline may end later, with the clean up waiting for its
lock. -/
theorem calls_exclude_expired : ∃ events w, Concurrently (fun _ : Unit => microJob) events w ∧
    .provision ∈ finished (trace () events) ∧ .cleanUp ∈ begun (trace () events) ∧
    ∀ c ∈ (w ()).inside, c = .cleanUp := by
  obtain ⟨events, w, hrun, hprovision, hcleanUp⟩ := expired_in_provision
  obtain ⟨-, -, -, -, -, hrest⟩ := calls_exclude hrun ()
  exact ⟨events, w, hrun, hprovision, hcleanUp, (hrest hcleanUp).2.1⟩

end BenchQueue.Run
