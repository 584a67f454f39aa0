import Mathlib.Logic.Function.Basic
import Mathlib.Logic.Relation

/-!
# Programs that make calls

A program either ends or makes a call and continues with the answer.  Rules of
postconditions say in which state a program ends that runs alone, whatever the
answers are.
-/

namespace GoLib

inductive Program {C : Type} (A : C → Type) (α : Type) where
  | done (value : α)
  | call (request : C) (next : A request → Program A α)

namespace Program

variable {C : Type} {A : C → Type} {α β : Type} {S : Type}

protected def bind : Program A α → (α → Program A β) → Program A β
  | .done value, next => next value
  | .call request rest, next =>
      .call request fun answer => (rest answer).bind next

instance : Monad (Program A) where
  pure := .done
  bind := Program.bind

/-- The program that makes one call. -/
def perform (request : C) : Program A (A request) :=
  .call request .done

/-! ## Programs that run alone -/

/-- The postcondition holds of the value and the state in which the program
ends, whatever the state answers. -/
def Yields (answers : S → (request : C) → A request → S → Prop) :
    Program A α → S → (α → S → Prop) → Prop
  | .done value, state, post => post value state
  | .call request next, state, post => ∀ answer later,
      answers state request answer later →
        (next answer).Yields answers later post

/-- The run in which a function answers. -/
def eval (serve : S → (request : C) → A request × S) :
    Program A α → S → α × S
  | .done value, state => (value, state)
  | .call request next, state =>
      (next (serve state request).1).eval serve (serve state request).2

variable {answers : S → (request : C) → A request → S → Prop}

variable {program : Program A α} {state : S} {post : α → S → Prop}

theorem yields_bind
    {next : α → Program A β} {post : β → S → Prop} :
    Yields answers (program >>= next) state post ↔
      Yields answers program state fun value later =>
        Yields answers (next value) later post := by
  induction program generalizing state with
  | done => rfl
  | call request rest ih =>
      exact forall_congr' fun answer => forall_congr' fun later =>
        imp_congr_right fun _ => ih answer

theorem Yields.mono
    {weaker : α → S → Prop}
    (yields : Yields answers program state post)
    (implies : ∀ value later, post value later → weaker value later) :
    Yields answers program state weaker := by
  induction program generalizing state with
  | done value => exact implies value state yields
  | call request rest ih =>
      exact fun answer later answered => ih answer (yields answer later answered)

theorem yields_of_forall
    (holds : ∀ value later, post value later) :
    Yields answers program state post := by
  induction program generalizing state with
  | done value => exact holds value state
  | call request rest ih => exact fun answer later _ => ih answer

theorem Yields.eval
    {serve : S → (request : C) → A request × S}
    (served : ∀ state request, answers state request (serve state request).1
      (serve state request).2)
    (yields : Yields answers program state post) :
    post (program.eval serve state).1 (program.eval serve state).2 := by
  induction program generalizing state with
  | done => exact yields
  | call request rest ih =>
      exact ih _ (yields _ _ (served state request))

end Program

end GoLib
