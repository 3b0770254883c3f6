import BenchQueue.Flow

/-!
# What flows ask and how they end

Views of a flow without its surroundings: the requests that it may ever make, the results that it may
ever have, what it has asked and been answered at every moment, and the results that it may end with
when surroundings with a state answer each request in one of several ways.
-/

namespace BenchQueue.Flow

variable {S : Signature} {α β σ : Type}

/-! ## Requests -/

/-- Whatever the answers are, every request of the flow satisfies a condition. -/
def Asks (P : S.Request → Prop) : Flow S α → Prop
  | .done _ => True
  | .ask r next => P r ∧ ∀ a, (next a).Asks P

/-- A flow that asks only some requests asks only those of a larger kind. -/
theorem Asks.mono {P Q : S.Request → Prop} {flow : Flow S α} (hflow : flow.Asks P)
    (h : ∀ r, P r → Q r) : flow.Asks Q := by
  induction flow with
  | done a => trivial
  | ask r next ih => exact ⟨h r hflow.1, fun a => ih a (hflow.2 a)⟩

/-- Two flows one after the other ask only what each of them asks. -/
theorem Asks.bind {P : S.Request → Prop} {flow : Flow S α} {f : α → Flow S β}
    (hflow : flow.Asks P) (hf : ∀ a, (f a).Asks P) : (flow.bind f).Asks P := by
  induction flow with
  | done a => exact hf a
  | ask r next ih => exact ⟨hflow.1, fun a => ih a (hflow.2 a)⟩

/-! ## Results -/

/-- Whatever the answers are, the result of the flow satisfies a condition. -/
def Yields (Q : α → Prop) : Flow S α → Prop
  | .done a => Q a
  | .ask _ next => ∀ a, (next a).Yields Q

/-- What is weaker than a condition on all results holds of all results as well. -/
theorem Yields.mono {P Q : α → Prop} {flow : Flow S α} (hflow : flow.Yields P)
    (h : ∀ a, P a → Q a) : flow.Yields Q := by
  induction flow with
  | done a => exact h a hflow
  | ask r next ih => exact fun a => ih a (hflow a)

/-- The second flow starts with a result of the first one. -/
theorem Yields.bind {P : α → Prop} {Q : β → Prop} {flow : Flow S α} {f : α → Flow S β}
    (hflow : flow.Yields P) (hf : ∀ a, P a → (f a).Yields Q) : (flow.bind f).Yields Q := by
  induction flow with
  | done a => exact hf a hflow
  | ask r next ih => exact fun a => ih a (hflow a)

/-! ## Histories -/

/-- A request with its answer. -/
abbrev Exchange (S : Signature) := (r : S.Request) × S.Answer r

/-- One more entry of a history adds what it shows of what is looked for. -/
theorem filterMap_concat {ε β : Type _} (view : ε → Option β) (history : List ε) (x : ε) :
    (history ++ [x]).filterMap view = history.filterMap view ++ (view x).toList := by
  rw [List.filterMap_append, List.filterMap_cons]
  cases view x <;> rfl

/-- Whatever the answers are, a condition holds of all exchanges so far at the moment of each
request, the first exchange first, and another one holds of the result and all exchanges. -/
def Throughout (I : List (Exchange S) → Prop) (Q : α → List (Exchange S) → Prop) :
    Flow S α → List (Exchange S) → Prop
  | .done a, history => Q a history
  | .ask r next, history => I history ∧ ∀ a, (next a).Throughout I Q (history ++ [⟨r, a⟩])

variable {I : List (Exchange S) → Prop} {history : List (Exchange S)}

/-- The condition on the result and all exchanges may be weakened. -/
theorem Throughout.mono {flow : Flow S α} {P Q : α → List (Exchange S) → Prop}
    (hflow : flow.Throughout I P history) (h : ∀ a later, P a later → Q a later) :
    flow.Throughout I Q history := by
  induction flow generalizing history with
  | done a => exact h a history hflow
  | ask r next ih => exact ⟨hflow.1, fun a => ih a (hflow.2 a)⟩

/-- The second flow starts with the exchanges and the result of the first one. -/
theorem Throughout.bind {flow : Flow S α} {f : α → Flow S β} {P : α → List (Exchange S) → Prop}
    {Q : β → List (Exchange S) → Prop} (hflow : flow.Throughout I P history)
    (hf : ∀ a later, P a later → (f a).Throughout I Q later) :
    (flow.bind f).Throughout I Q history := by
  induction flow generalizing history with
  | done a => exact hf a history hflow
  | ask r next ih => exact ⟨hflow.1, fun a => ih a (hflow.2 a)⟩

/-! ## Ends -/

/-- Surroundings with a state: the answers to a request and the states after it. -/
abbrev Surroundings (S : Signature) (σ : Type) := (r : S.Request) → σ → S.Answer r → σ → Prop

variable {answers : Surroundings S σ}

/-- A flow that starts in a state may end with a result in another state. -/
inductive Ends (answers : Surroundings S σ) : Flow S α → σ → α → σ → Prop
  | done (a : α) (s : σ) : Ends answers (.done a) s a s
  | ask {r : S.Request} {next : S.Answer r → Flow S α} {s s' t : σ} {answer : S.Answer r} {a : α}
      (hanswer : answers r s answer s') (hnext : Ends answers (next answer) s' a t) :
      Ends answers (.ask r next) s a t

/-- Two flows one after the other end as the second one does after the first one. -/
theorem ends_bind_iff {flow : Flow S α} {f : α → Flow S β} {s t : σ} {b : β} :
    (flow.bind f).Ends answers s b t ↔
      ∃ a s', flow.Ends answers s a s' ∧ (f a).Ends answers s' b t := by
  constructor
  · intro h
    induction flow generalizing s with
    | done a => exact ⟨a, s, .done a s, h⟩
    | ask r next ih =>
      cases h with
      | ask hanswer hnext =>
        obtain ⟨a, s', hfirst, hsecond⟩ := ih _ hnext
        exact ⟨a, s', .ask hanswer hfirst, hsecond⟩
  · rintro ⟨a, s', hfirst, hsecond⟩
    induction hfirst with
    | done a s => exact hsecond
    | ask hanswer _ ih => exact .ask hanswer (ih hsecond)

/-- Whatever the answers are, a flow that ends does so with a result and a state that satisfy a
condition. -/
def Ensures (answers : Surroundings S σ) (flow : Flow S α) (s : σ) (Q : α → σ → Prop) : Prop :=
  ∀ a t, flow.Ends answers s a t → Q a t

/-- A flow that is done ensures what holds of its result in the state that it is in. -/
theorem ensures_done {a : α} {s : σ} {Q : α → σ → Prop} (h : Q a s) :
    (Flow.done a : Flow S α).Ensures answers s Q := by
  intro b t hends
  cases hends
  exact h

/-- A flow that asks ensures what its rest ensures after every answer that there may be. -/
theorem ensures_ask {r : S.Request} {next : S.Answer r → Flow S α} {s : σ} {Q : α → σ → Prop}
    (h : ∀ answer s', answers r s answer s' → (next answer).Ensures answers s' Q) :
    (Flow.ask r next).Ensures answers s Q := by
  intro a t hends
  cases hends with
  | ask hanswer hnext => exact h _ _ hanswer a t hnext

/-- What is weaker than what a flow ensures is ensured as well. -/
theorem Ensures.mono {flow : Flow S α} {s : σ} {P Q : α → σ → Prop}
    (hflow : flow.Ensures answers s P) (h : ∀ a t, P a t → Q a t) : flow.Ensures answers s Q :=
  fun a t hends => h a t (hflow a t hends)

/-- What the first flow ensures is what the second one may start from. -/
theorem Ensures.bind {flow : Flow S α} {f : α → Flow S β} {s : σ} {P : α → σ → Prop}
    {Q : β → σ → Prop} (hflow : flow.Ensures answers s P)
    (hf : ∀ a t, P a t → (f a).Ensures answers t Q) : (flow.bind f).Ensures answers s Q := by
  intro b t hends
  obtain ⟨a, s', hfirst, hsecond⟩ := ends_bind_iff.mp hends
  exact hf a s' (hflow a s' hfirst) b t hsecond

/-- What a flow yields whatever the answers are, it ensures. -/
theorem Yields.ensures {P : α → Prop} {flow : Flow S α} {s : σ} (h : flow.Yields P) :
    flow.Ensures answers s fun a _ => P a := by
  intro a t hends
  induction hends with
  | done a s => exact h
  | ask _ _ ih => exact ih (h _)

/-! ## What is sure to happen -/

/-- Every request has an answer, and whatever the answers are, the flow ends with a result and a
state that satisfy a condition. -/
def Achieves (answers : Surroundings S σ) : Flow S α → σ → (α → σ → Prop) → Prop
  | .done a, s, Q => Q a s
  | .ask r next, s, Q =>
    (∃ a s', answers r s a s') ∧ ∀ a s', answers r s a s' → (next a).Achieves answers s' Q

/-- What is weaker than what a flow achieves is achieved as well. -/
theorem Achieves.mono {flow : Flow S α} {s : σ} {P Q : α → σ → Prop}
    (hflow : flow.Achieves answers s P) (h : ∀ a t, P a t → Q a t) :
    flow.Achieves answers s Q := by
  induction flow generalizing s with
  | done a => exact h a s hflow
  | ask r next ih => exact ⟨hflow.1, fun a s' hanswer => ih a (hflow.2 a s' hanswer)⟩

/-- What two flows one after the other achieve is what the first one achieves for the second. -/
theorem achieves_bind_iff {flow : Flow S α} {f : α → Flow S β} {s : σ} {Q : β → σ → Prop} :
    (flow.bind f).Achieves answers s Q ↔
      flow.Achieves answers s fun a t => (f a).Achieves answers t Q := by
  induction flow generalizing s with
  | done a => exact Iff.rfl
  | ask r next ih =>
    exact and_congr Iff.rfl (forall_congr' fun a => forall_congr' fun s' =>
      forall_congr' fun _ => ih a)

/-- Where the second flow achieves a condition from all that the first one achieves, both together
achieve it. -/
theorem Achieves.bind {flow : Flow S α} {f : α → Flow S β} {s : σ} {P : α → σ → Prop}
    {Q : β → σ → Prop} (hflow : flow.Achieves answers s P)
    (hf : ∀ a t, P a t → (f a).Achieves answers t Q) : (flow.bind f).Achieves answers s Q :=
  achieves_bind_iff.mpr (hflow.mono hf)

/-- What is sure to happen does happen. -/
theorem Achieves.ends {flow : Flow S α} {s : σ} {Q : α → σ → Prop}
    (hflow : flow.Achieves answers s Q) : ∃ a t, flow.Ends answers s a t ∧ Q a t := by
  induction flow generalizing s with
  | done a => exact ⟨a, s, .done a s, hflow⟩
  | ask r next ih =>
    obtain ⟨⟨answer, s', hanswer⟩, hnext⟩ := hflow
    obtain ⟨a, t, hends, hQ⟩ := ih answer (hnext answer s' hanswer)
    exact ⟨a, t, .ask hanswer hends, hQ⟩

/-- What a flow achieves is ensured. -/
theorem Achieves.ensures {flow : Flow S α} {s : σ} {Q : α → σ → Prop}
    (hflow : flow.Achieves answers s Q) : flow.Ensures answers s Q := by
  intro a t hends
  induction hends with
  | done a s => exact hflow
  | ask hanswer _ ih => exact ih (hflow.2 _ _ hanswer)

/-- A flow whose requests are all of a kind that is always answered achieves what it ensures. -/
theorem Ensures.achieves {P : S.Request → Prop} {flow : Flow S α} {s : σ} {Q : α → σ → Prop}
    (hflow : flow.Ensures answers s Q) (hasks : flow.Asks P)
    (hsome : ∀ r s, P r → ∃ a s', answers r s a s') : flow.Achieves answers s Q := by
  induction flow generalizing s with
  | done a => exact hflow a s (.done a s)
  | ask r next ih =>
    refine ⟨hsome r s hasks.1, fun a s' hanswer => ih a (fun b t hends => ?_) (hasks.2 a)⟩
    exact hflow b t (.ask hanswer hends)

/-- What a flow achieves and what it ensures hold together. -/
theorem Achieves.and_ensures {flow : Flow S α} {s : σ} {P Q : α → σ → Prop}
    (hflow : flow.Achieves answers s P) (hensures : flow.Ensures answers s Q) :
    flow.Achieves answers s fun a t => P a t ∧ Q a t := by
  induction flow generalizing s with
  | done a => exact ⟨hflow, hensures a s (.done a s)⟩
  | ask r next ih =>
    refine ⟨hflow.1, fun a s' hanswer => ih a (hflow.2 a s' hanswer) fun b t hends => ?_⟩
    exact hensures b t (.ask hanswer hends)

/-- Surroundings that also keep the history. -/
def noted (answers : Surroundings S σ) : Surroundings S (σ × List (Exchange S)) :=
  fun r s answer s' => answers r s.1 answer s'.1 ∧ s'.2 = s.2 ++ [⟨r, answer⟩]

/-- A request that has an answer is noted, and the rest of the flow goes on from the longer history.
-/
theorem achieves_noted {r : S.Request} {next : S.Answer r → Flow S α} {s : σ}
    {Q : α → σ × List (Exchange S) → Prop} (hsome : ∃ answer s', answers r s answer s')
    (h : ∀ answer s', answers r s answer s' →
      (next answer).Achieves (noted answers) (s', history ++ [⟨r, answer⟩]) Q) :
    (Flow.ask r next).Achieves (noted answers) (s, history) Q := by
  obtain ⟨answer, s', hanswer⟩ := hsome
  refine ⟨⟨answer, (s', history ++ [⟨r, answer⟩]), hanswer, rfl⟩, ?_⟩
  rintro a ⟨t, later⟩ ⟨ha, rfl⟩
  exact h a t ha

/-- The history that is kept only grows. -/
theorem Ends.prefix_of_noted {flow : Flow S α} {t t' : σ × List (Exchange S)} {a : α}
    (h : flow.Ends (noted answers) t a t') : t.2 <+: t'.2 := by
  induction h with
  | done a s => exact List.prefix_rfl
  | ask hanswer _ ih => exact (hanswer.2 ▸ List.prefix_append ..).trans ih

/-- What holds of the result and the history whatever the answers are holds of the history that is
kept. -/
theorem Throughout.ensures {flow : Flow S α} {Q : α → List (Exchange S) → Prop} {s : σ}
    (hflow : flow.Throughout I Q history) :
    flow.Ensures (noted answers) (s, history) fun a t => Q a t.2 := by
  induction flow generalizing s history with
  | done a => exact ensures_done hflow
  | ask r next ih =>
    refine ensures_ask ?_
    rintro answer ⟨s', later⟩ ⟨-, rfl⟩
    exact ih answer (hflow.2 answer)

end BenchQueue.Flow
