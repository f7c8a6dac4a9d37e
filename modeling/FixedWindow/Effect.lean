import FixedWindow.Event

/-!
# Effects

An operation of the limiter answers its caller, changes the state it works on and writes events to
the log. `Effect` holds the three together, so that every operation is a plain function.

## Main definitions

* `Effect`: an answer, the state left behind and the events written, oldest first.
* `Effect.after`: an operation with earlier events in front of its own.
-/

namespace FixedWindow

/-- What an operation answers, the state it leaves and the events it wrote, oldest first. -/
structure Effect (σ α : Type) where
  answer : α
  state : σ
  log : List Event := []

namespace Effect

variable {σ α β : Type}

/-- Puts earlier events in front of the operation's own. -/
def after (log : List Event) (e : Effect σ α) : Effect σ α :=
  { e with log := log ++ e.log }

@[simp] theorem answer_after (log : List Event) (e : Effect σ α) :
    (e.after log).answer = e.answer := rfl

@[simp] theorem state_after (log : List Event) (e : Effect σ α) :
    (e.after log).state = e.state := rfl

@[simp] theorem log_after (log : List Event) (e : Effect σ α) :
    (e.after log).log = log ++ e.log := rfl

end Effect

end FixedWindow
