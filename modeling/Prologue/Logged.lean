import Prologue.Event
import Prologue.Failure

/-!
# Answers with events

`Logged α` is an answer or a failure together with the events on the way to it, and `Outcome σ α` is
the same for an operation on a value of type `σ`, with the value that the operation leaves behind.
Events on the way to a failure are kept, and nothing is told after one.
-/

namespace Prologue

/-- An answer or a failure, and the events on the way to it. -/
structure Logged (α : Type) where
  answer : Except Failure α
  log : List Event

namespace Logged

variable {α β : Type}

/-- An answer without events. -/
def pure (a : α) : Logged α := ⟨.ok a, []⟩

/-- A failure without events. -/
def fail (e : Failure) : Logged α := ⟨.error e, []⟩

/-- An event. -/
def tell (e : Event) : Logged Unit := ⟨.ok (), [e]⟩

/-- An answer of a question about a declaration. -/
def ofLookup : Except LookupError α → Logged α
  | .ok a => pure a
  | .error e => fail (.lookup e)

/-- Goes on with the answer, if there is one. -/
def bind (x : Logged α) (f : α → Logged β) : Logged β :=
  match x.answer with
  | .ok a => ⟨(f a).answer, x.log ++ (f a).log⟩
  | .error e => ⟨.error e, x.log⟩

instance : Monad Logged where
  pure := Logged.pure
  bind := Logged.bind

@[simp] theorem pure_eq (a : α) : (Pure.pure a : Logged α) = ⟨.ok a, []⟩ := rfl

@[simp] theorem fail_eq (e : Failure) : (fail e : Logged α) = ⟨.error e, []⟩ := rfl

@[simp] theorem tell_eq (e : Event) : tell e = ⟨.ok (), [e]⟩ := rfl

@[simp] theorem ok_bind (a : α) (log : List Event) (f : α → Logged β) :
    (⟨.ok a, log⟩ : Logged α) >>= f = ⟨(f a).answer, log ++ (f a).log⟩ := rfl

@[simp] theorem error_bind (e : Failure) (log : List Event) (f : α → Logged β) :
    (⟨.error e, log⟩ : Logged α) >>= f = ⟨.error e, log⟩ := rfl

@[simp] theorem ofLookup_ok (a : α) : ofLookup (.ok a) = ⟨.ok a, []⟩ := rfl

@[simp] theorem ofLookup_error (e : LookupError) :
    (ofLookup (.error e) : Logged α) = ⟨.error (.lookup e), []⟩ := rfl

/-- Events do not decide what is answered. -/
theorem answer_bind (x : Logged α) (f : α → Logged β) :
    (x >>= f).answer = x.answer >>= fun a => (f a).answer := by
  obtain ⟨answer, log⟩ := x
  cases answer <;> rfl

end Logged

/-- What an operation on a value answers, what it makes of the value, and what it tells. -/
structure Outcome (σ α : Type) where
  answer : Except Failure α
  /-- The value afterwards, also after a failure. -/
  after : σ
  log : List Event

end Prologue
