import DeploySync.Error

/-!
# Plans

What the library does to the world outside is written as plans: trees of calls, in which each call
waits for its answer. A plan is data until something answers its calls, so that one plan runs on
files and servers as well as on values in memory.

## Main definitions

* `Plan` — a plan over a set of calls, each with its type of answers
* `Plan.ofExcept`, `Plan.call` — the smallest plans; plans are a monad
* `Plan.Handler`, `Plan.run` — what answers calls, and a plan's result under it
* `Plan.perform` — a plan's result where actions answer its calls
* `Plan.calls` — the calls that a plan makes
* `Plan.through` — a plan with every call replaced by a plan over other calls
-/

namespace DeploySync

/-- A plan: it has its result, or it makes a call and goes on with the answer. A call that fails
ends it with the error of the call. -/
inductive Plan (Q : Type) (A : Q → Type) (α : Type) where
  | done (result : Except Error α)
  | ask (q : Q) (next : A q → Plan Q A α)

namespace Plan

variable {Q : Type} {A : Q → Type} {α β σ : Type}

/-- The plan that makes no call. -/
def ofExcept (result : Except Error α) : Plan Q A α := .done result

/-- The plan that fails. -/
def fail (e : Error) : Plan Q A α := .done (.error e)

/-- The plan of a single call. -/
def call (q : Q) : Plan Q A (A q) := .ask q fun a => .done (.ok a)

/-- Goes on with the result of a plan. -/
def bind : Plan Q A α → (α → Plan Q A β) → Plan Q A β
  | .done (.ok a), f => f a
  | .done (.error e), _ => .done (.error e)
  | .ask q next, f => .ask q fun a => (next a).bind f

instance : Monad (Plan Q A) where
  pure a := .done (.ok a)
  bind := bind

/-- What answers calls: an answer or an error, and the state behind the call. -/
abbrev Handler (Q : Type) (A : Q → Type) (σ : Type) := (q : Q) → σ → Except Error (A q) × σ

/-- The result of a plan whose calls are answered one after the other, and the last state. -/
def run (h : Handler Q A σ) : Plan Q A α → σ → Except Error α × σ
  | .done result, s => (result, s)
  | .ask q next, s =>
    match h q s with
    | (.ok a, s) => (next a).run h s
    | (.error e, s) => (.error e, s)

/-- The calls that a plan makes, with what is answered, in order. -/
def calls (h : Handler Q A σ) : Plan Q A α → σ → List ((q : Q) × Except Error (A q))
  | .done _, _ => []
  | .ask q next, s =>
    match h q s with
    | (.ok a, s) => ⟨q, .ok a⟩ :: (next a).calls h s
    | (.error e, _) => [⟨q, .error e⟩]

/-- Runs a plan whose calls are answered by actions. -/
def perform {m : Type → Type} [Monad m] (h : (q : Q) → m (Except Error (A q))) :
    Plan Q A α → m (Except Error α)
  | .done result => pure result
  | .ask q next => do
    match ← h q with
    | .ok a => (next a).perform h
    | .error e => pure (.error e)

/-- A plan with every call replaced by a plan over other calls. -/
def through {Q' : Type} {A' : Q' → Type} (f : (q : Q) → Plan Q' A' (A q)) :
    Plan Q A α → Plan Q' A' α
  | .done result => .done result
  | .ask q next => (f q).bind fun a => (next a).through f

@[simp] theorem bind_done_ok (a : α) (f : α → Plan Q A β) : (done (.ok a)).bind f = f a := rfl

@[simp] theorem bind_done_error (e : Error) (f : α → Plan Q A β) :
    (done (.error e)).bind f = done (.error e) := rfl

@[simp] theorem bind_ask (q : Q) (next : A q → Plan Q A α) (f : α → Plan Q A β) :
    (ask q next).bind f = ask q fun a => (next a).bind f := rfl

@[simp] theorem run_done (h : Handler Q A σ) (result : Except Error α) (s : σ) :
    (done result).run h s = (result, s) := rfl

/-- A plan that goes on runs on from the state behind the first part, or stops with its error. -/
theorem run_bind (h : Handler Q A σ) (p : Plan Q A α) (f : α → Plan Q A β) (s : σ) :
    (p.bind f).run h s =
      match p.run h s with
      | (.ok a, s) => (f a).run h s
      | (.error e, s) => (.error e, s) := by
  induction p generalizing s with
  | done result => cases result <;> rfl
  | ask q next ih =>
    simp only [bind_ask, run]
    rcases h q s with ⟨⟨e⟩ | ⟨a⟩, t⟩
    · rfl
    · exact ih a t

end Plan

end DeploySync
