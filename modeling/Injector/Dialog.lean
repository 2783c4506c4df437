/-!
# Dialogs

Code that belongs to someone else and talks to this library: it asks any number of questions, one
after the other, depending on the replies, and comes to an end.
-/

set_option autoImplicit false

namespace Injector

inductive Dialog (Q : Type) (R : Q → Type) (α : Type) where
  | done (result : α)
  | ask (question : Q) (next : R question → Dialog Q R α)

namespace Dialog

variable {Q : Type} {R : Q → Type} {α β : Type}

def bind (d : Dialog Q R α) (f : α → Dialog Q R β) : Dialog Q R β :=
  match d with
  | done result => f result
  | ask question next => ask question fun reply => (next reply).bind f

instance : Monad (Dialog Q R) where
  pure := done
  bind := bind

def say (question : Q) : Dialog Q R (R question) := ask question done

def run {m : Type → Type} [Monad m] (answer : (question : Q) → m (R question)) :
    Dialog Q R α → m α
  | done result => pure result
  | ask question next => do
    let reply ← answer question
    (next reply).run answer

theorem run_ask {m : Type → Type} [Monad m] (answer : (question : Q) → m (R question))
    (question : Q) (next : R question → Dialog Q R α) :
    (ask question next).run answer = answer question >>= fun reply => (next reply).run answer :=
  rfl

end Dialog

end Injector
