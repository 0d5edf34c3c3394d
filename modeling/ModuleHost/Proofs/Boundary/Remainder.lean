import ModuleHost.Program

/-!
# What is left of a program

While a program runs, what is left of it is what `Leads` says: the next step after each answer that
it got, where `fits` says which answers it can get. `Asks` says which operations a program may come
to ask, `Calm` that no answers that it can get make it panic. Both go down to what is left, and up
through the ways in which programs are put together.
-/
namespace ModuleHost.Program

variable {I J : Interface} {α β : Type} {fits : (o : I.Op) → I.Answer o → Prop}
  {P : I.Op → Prop} {p q : Program I α}

/-- What is left of a program after answers that fit. -/
inductive Leads (fits : (o : I.Op) → I.Answer o → Prop) (p : Program I α) : Program I α → Prop
  | refl : Leads fits p p
  | answer {o : I.Op} {next : I.Answer o → Program I α} (a : I.Answer o) :
      fits o a → Leads fits p (.ask o next) → Leads fits p (next a)

/-- Whether all operations that the program may come to ask are of a kind. -/
def Asks (P : I.Op → Prop) : Program I α → Prop
  | .ret _ | .panic _ => True
  | .ask o next => P o ∧ ∀ a, (next a).Asks P

/-- Whether the program never panics where all answers fit. -/
def Calm (fits : (o : I.Op) → I.Answer o → Prop) : Program I α → Prop
  | .ret _ => True
  | .panic _ => False
  | .ask o next => ∀ a, fits o a → (next a).Calm fits

/-! ## Down to what is left -/

theorem Asks.leads (h : p.Asks P) (hl : p.Leads fits q) : q.Asks P := by
  induction hl with
  | refl => exact h
  | answer a _ _ ih => exact ih.2 a

theorem Calm.leads (h : p.Calm fits) (hl : p.Leads fits q) : q.Calm fits := by
  induction hl with
  | refl => exact h
  | answer a hfits _ ih => exact ih a hfits

theorem Asks.mono {Q : I.Op → Prop} (h : p.Asks P) (hq : ∀ o, P o → Q o) : p.Asks Q := by
  induction p with
  | ret a | panic q => exact trivial
  | ask o next ih => exact ⟨hq o h.1, fun a => ih a (h.2 a)⟩

/-! ## Up through what a program is made of -/

theorem Asks.op {o : I.Op} (h : P o) : (Program.op o).Asks P := ⟨h, fun _ => trivial⟩

theorem Asks.bind {f : α → Program I β} (h : p.Asks P) (hf : ∀ a, (f a).Asks P) :
    (p.bind f).Asks P := by
  induction p with
  | ret a => exact hf a
  | panic q => exact trivial
  | ask o next ih => exact ⟨h.1, fun a => ih a (h.2 a)⟩

theorem Asks.catchPanic {handler : Payload → Program I α} (h : p.Asks P)
    (hh : ∀ q, (handler q).Asks P) : (p.catchPanic handler).Asks P := by
  induction p with
  | ret a => exact trivial
  | panic q => exact hh q
  | ask o next ih => exact ⟨h.1, fun a => ih a (h.2 a)⟩

theorem Asks.lower {Q : J.Op → Prop} {f : (o : I.Op) → Program J (I.Answer o)} (h : p.Asks P)
    (hf : ∀ o, P o → (f o).Asks Q) : (p.lower f).Asks Q := by
  induction p with
  | ret a => exact trivial
  | panic q => exact trivial
  | ask o next ih => exact (hf o h.1).bind fun a => ih a (h.2 a)

theorem asks_of_forall (h : ∀ o, P o) : ∀ p : Program I α, p.Asks P
  | .ret _ | .panic _ => trivial
  | .ask o next => ⟨h o, fun a => asks_of_forall h (next a)⟩

theorem Calm.bind {f : α → Program I β} (h : p.Calm fits) (hf : ∀ a, (f a).Calm fits) :
    (p.bind f).Calm fits := by
  induction p with
  | ret a => exact hf a
  | panic q => exact h.elim
  | ask o next ih => exact fun a ha => ih a (h a ha)

/-- Whatever the program does, it is calm with its panics caught. -/
theorem calm_catchPanic {handler : Payload → Program I α} (hh : ∀ q, (handler q).Calm fits) :
    (p.catchPanic handler).Calm fits := by
  induction p with
  | ret a => exact trivial
  | panic q => exact hh q
  | ask o next ih => exact fun a _ => ih a

end ModuleHost.Program
