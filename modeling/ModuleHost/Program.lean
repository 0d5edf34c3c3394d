/-!
# Programs over an interface

A program asks operations of an interface one after the other, each next step
depending on the answer, and ends in a result or in a panic. Every branch is
finite. Module code is written as such programs, so that the machine can take
the steps of several of them in any order.
-/
namespace ModuleHost

/-- What a panic carries: a text, or a value of some other kind. -/
inductive Payload where
  | text (message : String)
  | other (kind : Nat := 0)
  deriving DecidableEq, Repr

def Payload.message : Payload → String
  | .text message => message
  | .other _ => "non-string panic payload"

/-- Operations, and the type of the answer to each. -/
structure Interface where
  Op : Type
  Answer : Op → Type

inductive Program (I : Interface) (α : Type) where
  | ret (a : α)
  | panic (p : Payload)
  | ask (op : I.Op) (next : I.Answer op → Program I α)

namespace Program

variable {I J : Interface} {α β σ : Type}

/-- The operation alone. -/
def op (o : I.Op) : Program I (I.Answer o) := .ask o .ret

def bind : Program I α → (α → Program I β) → Program I β
  | .ret a, f => f a
  | .panic p, _ => .panic p
  | .ask o next, f => .ask o fun a => (next a).bind f

instance : Monad (Program I) where
  pure := .ret
  bind := bind

/-- Runs `handler` in place of a panic. -/
def catchPanic : Program I α → (Payload → Program I α) → Program I α
  | .ret a, _ => .ret a
  | .panic p, handler => handler p
  | .ask o next, handler => .ask o fun a => (next a).catchPanic handler

/-- Replaces each operation by a program over another interface. -/
def lower (f : (o : I.Op) → Program J (I.Answer o)) : Program I α → Program J α
  | .ret a => .ret a
  | .panic p => .panic p
  | .ask o next => (f o).bind fun a => (next a).lower f

/-- Runs a program alone against something that answers every operation. -/
def run (answer : (o : I.Op) → σ → I.Answer o × σ) : Program I α → σ → Except Payload α × σ
  | .ret a, s => (.ok a, s)
  | .panic p, s => (.error p, s)
  | .ask o next, s => (next (answer o s).1).run answer (answer o s).2

theorem bind_ret (p : Program I α) : p.bind .ret = p := by
  induction p with
  | ret a => rfl
  | panic q => rfl
  | ask o next ih => simp only [bind, ih]

theorem bind_assoc {γ : Type} (p : Program I α) (f : α → Program I β) (g : β → Program I γ) :
    (p.bind f).bind g = p.bind fun a => (f a).bind g := by
  induction p with
  | ret a => rfl
  | panic q => rfl
  | ask o next ih => simp only [bind, ih]

instance : LawfulMonad (Program I) :=
  LawfulMonad.mk' (Program I) bind_ret (fun _ _ => rfl) bind_assoc

end Program

end ModuleHost
