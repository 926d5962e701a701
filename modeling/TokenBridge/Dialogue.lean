import TokenBridge.Duration

/-!
# Dialogues

A client of remote services is a `Dialogue`: it asks a question and goes on with the
reply, rests for a while, or is done. What answers is left open. `interpret` carries a
dialogue out with any monad that answers and rests, and `record` does so with answers
that may depend on all that came before, keeping a log of the `Event`s. For `record`
every rest comes to an end; `perform` takes the rests as well, and breaks off at the
first that cannot be taken.
-/

namespace TokenBridge

/-- A dialogue with questions from `Q`, where the reply to `q` is an `R q`. -/
inductive Dialogue (Q : Type) (R : Q → Type) (α : Type) : Type where
  | done (a : α)
  | ask (q : Q) (next : R q → Dialogue Q R α)
  | rest (p : Pause) (next : Dialogue Q R α)

namespace Dialogue

variable {Q : Type} {R : Q → Type} {α β γ : Type}

def bind : Dialogue Q R α → (α → Dialogue Q R β) → Dialogue Q R β
  | done a, f => f a
  | ask q next, f => ask q fun r => (next r).bind f
  | rest p next, f => rest p (next.bind f)

instance : Monad (Dialogue Q R) where
  pure := done
  bind := bind

@[simp] theorem pure_eq (a : α) : (pure a : Dialogue Q R α) = done a := rfl

@[simp] theorem done_bind (a : α) (f : α → Dialogue Q R β) : done a >>= f = f a := rfl

@[simp] theorem ask_bind (q : Q) (next : R q → Dialogue Q R α) (f : α → Dialogue Q R β) :
    ask q next >>= f = ask q fun r => next r >>= f := rfl

@[simp] theorem rest_bind (p : Pause) (next : Dialogue Q R α) (f : α → Dialogue Q R β) :
    rest p next >>= f = rest p (next >>= f) := rfl

/-- Asks one question and is done with the reply. -/
def question (q : Q) : Dialogue Q R (R q) := ask q done

/-- Rests once. -/
def wait (p : Pause) : Dialogue Q R Unit := rest p (done ())

/-- Carries a dialogue out. -/
def interpret {m : Type → Type} [Monad m] (answer : (q : Q) → m (R q)) (rests : Pause → m Unit) :
    Dialogue Q R α → m α
  | done a => pure a
  | ask q next => do (next (← answer q)).interpret answer rests
  | rest p next => do
    rests p
    next.interpret answer rests

/-- What happened in a dialogue. -/
inductive Event (Q : Type) (R : Q → Type) where
  | asked (q : Q) (reply : R q)
  | rested (p : Pause)

/-- Carries a dialogue out after the events of `log`, and appends its own. -/
def record (answer : List (Event Q R) → (q : Q) → R q) :
    List (Event Q R) → Dialogue Q R α → α × List (Event Q R)
  | log, done a => (a, log)
  | log, ask q next =>
    let reply := answer log q
    (next reply).record answer (log ++ [.asked q reply])
  | log, rest p next => next.record answer (log ++ [.rested p])

theorem record_bind (answer : List (Event Q R) → (q : Q) → R q) (log : List (Event Q R))
    (d : Dialogue Q R α) (f : α → Dialogue Q R β) :
    (d >>= f).record answer log =
      (f (d.record answer log).1).record answer (d.record answer log).2 := by
  induction d generalizing log with
  | done a => rfl
  | ask q next ih => exact ih _ _
  | rest p next ih => exact ih _

/-- How far a dialogue has come: what happened, and how long the rests took. -/
structure Progress (Q : Type) (R : Q → Type) where
  log : List (Event Q R)
  slept : List Duration

/-- Carries a dialogue on from where it is. `length n` is how long the rest takes that `n` others
came before; the dialogue has no result when it comes to a rest without a length. -/
def perform (answer : List (Event Q R) → (q : Q) → R q) (length : Nat → Pause → Option Duration) :
    Progress Q R → Dialogue Q R α → Option α × Progress Q R
  | c, done a => (some a, c)
  | c, ask q next =>
    let reply := answer c.log q
    (next reply).perform answer length { c with log := c.log ++ [.asked q reply] }
  | c, rest p next =>
    match length c.slept.length p with
    | some d => next.perform answer length ⟨c.log ++ [.rested p], c.slept ++ [d]⟩
    | none => (none, c)

end Dialogue

end TokenBridge
