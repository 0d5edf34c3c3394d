import Mathlib.Logic.Relation
import ModuleHost.Machine.System

/-!
# Runs of the machine

A run starts with nothing: no module, no instance, no thread. Its moves are

* `install`: a library's module appears, with an untouched context,
* `begin`: a thread starts with a task before its first step,
* `again`: a thread whose call has come to its end makes another call,
* `step`: any thread takes its next step.

An instance may be used only after the opening that made it has handed it out; nothing else
restricts who calls what, how often, and in which order. An operation is known by its thread, except
that a thread may make one call after the other: a thread that does several things in turn does
nothing that several threads could not do in that order.

`Run s` says that a run comes to `s`, and `Later s s'` that it goes on from `s` to `s'`. A short run
stands at the end, for the results about runs to be seen at work.
-/
namespace ModuleHost

open Boundary

/-- Whether the task stands before its first step. -/
def Task.IsNew : Task → Prop
  | .opening _ s => s = .arriving
  | .calling c =>
    ∃ proxy request response errand, c = Call.start c.on proxy request response errand
  | .shutting _ s | .dropping _ s => s = .arriving
  | .hooking _ _ s => s = .entering
  | .visiting _ v => v.stage = .entering

/-- The instance that a task works on. -/
def Task.on? : Task → Option Nat
  | .opening _ s => s.on?
  | .calling c => some c.on
  | .shutting on _ | .dropping on _ => some on
  | .hooking .. | .visiting .. => none

/-- A module with a handler that does nothing and never fails. -/
def Module.sample : Module :=
  { code := .handler { init := fun _ => .ret (.ok ()), handle := fun _ => .ret () } }

namespace System

/-- Whether the opening that made instance `n` has handed it out. -/
def HandedOut (s : System) (n : Nat) : Prop := ∃ o, Task.opening o (.done (.ok n)) ∈ s.threads

inductive Move : System → System → Prop
  | install (s : System) (m : Module) : m.context = {} → Move s (s.addModule m)
  | begin (s : System) (k : Task) :
      k.IsNew → (∀ n, k.on? = some n → s.HandedOut n) → Move s (s.spawn k)
  | again (s : System) (t : Nat) (c d : Call) (r : Except HostError Unit) :
      s.threads[t]? = some (.calling c) → c.stage = .done r →
      (Task.calling d).IsNew → s.HandedOut d.on → Move s (s.assign t (.calling d))
  | step (s s' : System) (t : Nat) : s.step t = some s' → Move s s'

def Later : System → System → Prop := Relation.ReflTransGen Move

def Run (s : System) : Prop := Later {} s

theorem Later.refl (s : System) : Later s s := Relation.ReflTransGen.refl

theorem Later.trans {s s' s'' : System} (h : Later s s') (h' : Later s' s'') : Later s s'' :=
  Relation.ReflTransGen.trans h h'

theorem Move.later {s s' : System} (h : Move s s') : Later s s' := Relation.ReflTransGen.single h

theorem Run.later {s s' : System} (h : Run s) (h' : Later s s') : Run s' := Later.trans h h'

theorem Run.move {s s' : System} (h : Run s) (h' : Move s s') : Run s' := h.later h'.later

theorem Run.step {s s' : System} (h : Run s) {t : Nat} (h' : s.step t = some s') : Run s' :=
  h.move (.step s s' t h')

/-- Lets the threads of a list take one step each, in that order. -/
def steps (s : System) (ts : List Nat) : Option System := ts.foldlM step s

theorem later_of_steps (ts : List Nat) :
    ∀ {s s' : System}, s.steps ts = some s' → Later s s' := by
  induction ts with
  | nil =>
    intro s s' h
    simp only [steps, List.foldlM_nil, pure, Option.some.injEq] at h
    subst h
    exact .refl s
  | cons t ts ih =>
    intro s s' h
    simp only [steps, List.foldlM_cons, bind, Option.bind_eq_some_iff] at h
    obtain ⟨s₁, h₁, h₂⟩ := h
    exact (Move.step s s₁ t h₁).later.trans (ih h₂)

theorem HandedOut.spawn {s : System} {n : Nat} (h : s.HandedOut n) (k : Task) :
    (s.spawn k).HandedOut n := by
  obtain ⟨o, ho⟩ := h
  exact ⟨o, List.mem_append_left _ ho⟩

/-- What holds at first and is kept by every move holds of every run. -/
theorem Run.induction {P : System → Prop} (start : P {})
    (move : ∀ s s', Run s → P s → Move s s' → P s') {s : System} (h : Run s) : P s := by
  have key : Run s ∧ P s := by
    induction h with
    | refl => exact ⟨.refl _, start⟩
    | tail _ hm ih => exact ⟨ih.1.move hm, move _ _ ih.1 ih.2 hm⟩
  exact key.2

/-- What holds of a system and is kept by every move holds of every later one. -/
theorem Later.induction {s : System} {P : System → Prop} (start : P s)
    (move : ∀ s₁ s₂, Later s s₁ → P s₁ → Move s₁ s₂ → P s₂) {s' : System} (h : Later s s') :
    P s' := by
  induction h with
  | refl => exact start
  | tail h hm ih => exact move _ _ h ih hm

/-! ## A short run -/

def sampleOpening : Opening := { name := "sample", module := 0, exports := {} }

theorem run_opening {m : Module} (untouched : m.context = {}) :
    Run ((({} : System).addModule m).spawn (.opening sampleOpening .arriving)) := by
  have installed : Run (({} : System).addModule m) := Run.move (.refl {}) (.install _ m untouched)
  exact installed.move (.begin _ _ rfl (by simp [Task.on?, OpenStage.on?]))

/-- Thread 0 has opened instance 0 on module 0. -/
def sample : System :=
  (((({} : System).addModule .sample).spawn (.opening sampleOpening .arriving)).steps
    (List.replicate 11 0)).getD {}

theorem run_sample : Run sample :=
  (run_opening (m := .sample) rfl).later (later_of_steps (List.replicate 11 0) rfl)

theorem handedOut_sample : sample.HandedOut 0 := ⟨_, List.mem_singleton.mpr rfl⟩

/-- The short run goes on with a call on thread 1 and a shutdown on thread 2. -/
def sampleBusy : System :=
  (sample.spawn (.calling (.start 0 false {} {} {}))).spawn (.shutting 0 .arriving)

theorem later_sampleBusy : Later sample sampleBusy := by
  have called := Move.begin sample (.calling (.start 0 false {} {} {})) ⟨_, _, _, _, rfl⟩
    fun n hn => by cases hn; exact handedOut_sample
  exact called.later.trans (Move.begin _ (.shutting 0 .arriving) rfl
    fun n hn => by cases hn; exact handedOut_sample.spawn _).later

theorem run_sampleBusy : Run sampleBusy := run_sample.later later_sampleBusy

end System

end ModuleHost
