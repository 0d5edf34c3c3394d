import ModuleHost.Proofs.Context.Work

/-!
# A module seen on its own

The `ContextState` of a module is all that its lock is about: the context, what each thread holds of
it, and the context marks so far. `Move.contextState` says that a move of the machine leaves this state
alone, adds a thread with free hands, or is one step of one thread (`ContextState.Step`), through
whichever instance or past any it came. Invariants of the context are proved of these states.
-/
namespace ModuleHost

open Boundary

structure ContextState where
  context : Context := {}
  /-- What each thread holds of the module. -/
  holds : List Hold := []
  /-- The context marks, oldest first. -/
  marks : List Event := []

inductive ContextState.Step : ContextState → ContextState → Prop
  | act (b : ContextState) (t : Nat) (σ σ' : Hold) (c' : Context) (marks : List Event) :
      b.holds[t]? = some σ → b.context.Step σ marks c' σ' →
      Step b ⟨c', b.holds.set t σ', b.marks ++ marks⟩
  | join (b : ContextState) : Step b { b with holds := b.holds ++ [.free] }

namespace System

/-- The state of module `j`, which is untouched before the module is there. -/
def context (s : System) (j : Nat) : Context := (s.modules[j]?.map (·.context)).getD {}

/-- What each thread holds of module `j`. -/
def holds (s : System) (j : Nat) : List Hold := s.threads.map (Task.holdOn s.instances j)

def contextState (s : System) (j : Nat) : ContextState :=
  { context := s.context j, holds := s.holds j, marks := contextMarks (s.moduleLog j) }

theorem context_addModule {s : System} {m : Module} (hm : m.context = {}) (j : Nat) :
    (s.addModule m).context j = s.context j := by
  rcases Nat.lt_trichotomy j s.modules.length with old | rfl | new
  · simp [context, addModule, List.getElem?_append_left old]
  · simp [context, addModule, hm]
  · have past : (s.modules ++ [m]).length ≤ j := by
      rw [List.length_append]
      exact new
    simp only [context, addModule, List.getElem?_eq_none past,
      List.getElem?_eq_none (Nat.le_of_lt new)]

section
variable {s : System} {t module : Nat} {on : Option Nat} {k k' : Task} {m m' : Module}
  {instances : List Instance} {events : List Event}

theorem context_turn (hm : s.modules[module]? = some m) (j : Nat) :
    (s.turn t module on k m' instances events).context j =
      if module = j then m'.context else s.context j := by
  have hlt := (List.getElem?_eq_some_iff.mp hm).1
  by_cases hj : module = j
  · subst hj
    simp [context, hlt]
  · simp [context, hj]

theorem holds_turn (others : ∀ k₁ ∈ s.threads, k₁.module? instances = k₁.module? s.instances)
    (j : Nat) : (s.turn t module on k' m instances events).holds j =
      (s.holds j).set t (k'.holdOn instances j) := by
  have same : s.threads.map (Task.holdOn instances j) = s.holds j := by
    refine List.map_congr_left fun k₁ hk => ?_
    simp only [Task.holdOn, others k₁ hk]
  rw [← same]
  simp [holds, List.map_set]

end

/-- A turn is a step of the state of its module, and none of any other. -/
theorem Turn.contextState {s s' : System} {t : Nat} (orderly : s.Orderly) (h : s.Turn t s') (j : Nat) :
    s'.contextState j = s.contextState j ∨ (s.contextState j).Step (s'.contextState j) := by
  obtain ⟨k, k', module, on, m, m', instances, events, rfl, work⟩ := h.work orderly
  obtain ⟨hold, hold'⟩ := work.holdOn j
  have found : (s.holds j)[t]? = some (k.holdOn s.instances j) := by simp [holds, work.before]
  by_cases hj : module = j
  · subst hj
    right
    rw [if_pos rfl] at hold hold'
    have here : s.context module = m.context := by simp [context, work.found]
    have act := ContextState.Step.act (s.contextState module) t k.hold k'.hold m'.context
      (contextMarks events)
      (by rw [← hold]; exact found) (by simpa [System.contextState, here] using work.step)
    have after : (s.turn t module on k' m' instances events).contextState module =
        ⟨m'.context, (s.holds module).set t k'.hold,
          contextMarks (s.moduleLog module) ++ contextMarks events⟩ := by
      simp only [System.contextState, context_turn work.found, holds_turn work.others, moduleLog_turn,
        hold', if_true, contextMarks, List.filter_append]
    rw [after]
    exact act
  · left
    rw [if_neg hj] at hold hold'
    have same : (s.holds j).set t .free = s.holds j := set_same (by rw [← hold]; exact found)
    simp only [System.contextState, context_turn work.found, holds_turn work.others, moduleLog_turn, hold',
      same, if_neg hj, List.append_nil]

/-- What a move of the machine is to a module. -/
theorem Move.contextState {s s' : System} (orderly : s.Orderly) (h : Move s s') (j : Nat) :
    s'.contextState j = s.contextState j ∨ (s.contextState j).Step (s'.contextState j) := by
  cases h with
  | install m hm =>
    left
    simp only [System.contextState, context_addModule hm]
    rfl
  | begin k hnew _ =>
    right
    have joined : (s.spawn k).holds j = s.holds j ++ [.free] := by
      simp [holds, spawn, Task.holdOn_of_free hnew.hold]
    have joins := ContextState.Step.join (s.contextState j)
    have after : (s.spawn k).contextState j = { s.contextState j with holds := s.holds j ++ [.free] } := by
      rw [← joined]
      rfl
    rw [after]
    exact joins
  | again t c d r ht hdone hnew _ =>
    left
    have free : (Task.calling c).hold = .free := by simp [Task.hold, Call.hold, hdone]
    have same : (s.assign t (.calling d)).holds j = s.holds j := by
      have found : (s.holds j)[t]? = some .free := by simp [holds, ht, Task.holdOn_of_free free]
      simp only [holds, assign, List.map_set, Task.holdOn_of_free hnew.hold]
      exact set_same found
    simp only [System.contextState, same]
    rfl
  | step _ t hs => exact (step_cases hs).contextState orderly j

end System

end ModuleHost
