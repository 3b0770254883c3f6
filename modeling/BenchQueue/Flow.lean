/-!
# Flows

A flow is a program that asks its surroundings for things and goes on with the answers. It is a
plain value: the surroundings are not part of it, so the same flow can be run against a database, a
machine in memory or a list of prepared answers, and statements about it can quantify over all of
them. A flow is well-founded: whatever the answers are, it ends.
-/

namespace BenchQueue

/-- What may be asked, and what kind of answer there is to it. -/
structure Signature where
  Request : Type
  Answer : Request → Type

/-- A program over the requests of a signature. -/
inductive Flow (S : Signature) (α : Type) : Type
  | done (value : α)
  | ask (request : S.Request) (next : S.Answer request → Flow S α)

namespace Flow

variable {S T : Signature} {α β : Type}

/-- Runs one flow and then another one that may depend on the result of the first. -/
def bind (first : Flow S α) (second : α → Flow S β) : Flow S β :=
  match first with
  | .done value => second value
  | .ask request next => .ask request fun answer => (next answer).bind second

instance : Monad (Flow S) where
  pure := .done
  bind := Flow.bind

/-- The flow that makes one request. -/
def request (r : S.Request) : Flow S (S.Answer r) := .ask r .done

/-- Runs a flow in surroundings with a state. -/
def run {σ : Type} (answer : (r : S.Request) → σ → S.Answer r × σ) : Flow S α → σ → α × σ
  | .done value, state => (value, state)
  | .ask r next, state =>
    let (a, state) := answer r state
    (next a).run answer state

/-- Replaces every request by a flow over another signature that answers it. -/
def interpret (t : (r : S.Request) → Flow T (S.Answer r)) : Flow S α → Flow T α
  | .done value => .done value
  | .ask r next => (t r).bind fun a => (next a).interpret t

/-- A flow that is followed by nothing is the flow itself. -/
theorem bind_done (flow : Flow S α) : flow.bind .done = flow := by
  induction flow with
  | done value => rfl
  | ask request next ih => simp only [bind, ih]

/-- Of three flows one after the other, it does not matter which two are taken together. -/
theorem bind_assoc {γ : Type} (flow : Flow S α) (f : α → Flow S β) (g : β → Flow S γ) :
    (flow.bind f).bind g = flow.bind fun a => (f a).bind g := by
  induction flow with
  | done value => rfl
  | ask request next ih => simp only [bind, ih]

/-- Two flows one after the other are run by running the second one in the state after the first. -/
theorem run_bind {σ : Type} (answer : (r : S.Request) → σ → S.Answer r × σ) (flow : Flow S α)
    (f : α → Flow S β) (state : σ) :
    (flow.bind f).run answer state =
      let (value, state) := flow.run answer state
      (f value).run answer state := by
  induction flow generalizing state with
  | done value => rfl
  | ask request next ih => simp only [bind, run, ih]

end Flow

end BenchQueue
