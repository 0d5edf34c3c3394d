import ModuleHost.Proofs.Cli.Course
import ModuleHost.Proofs.Loader.Paths

/-!
# What a command finds when its module is loaded

Until the module is loaded, the machine of a command has one thread, which opens it (`Sole`). Where
that comes to an instance, nobody has touched the instance yet: its gate is as it was made, and no
request entry point has been called (`Ready`).
-/
namespace ModuleHost

open Boundary

/-- What instances there are, by where the only opening stands; nothing is said of an instance that is
given up again. -/
def Opening.Made (o : Opening) (instances : List Instance) : OpenStage → Prop
  | .arriving | .probing _ | .judging _ => instances = []
  | .loading n _ | .announcing n | .done (.ok n) =>
    n = 0 ∧ ∃ i, instances = [i] ∧ i.gate = {} ∧ i.exports = o.exports
  | .abandoning .. | .dropping .. | .done (.error _) | .escaped => True

namespace System

/-- No request entry point has been called. -/
def Unasked (s : System) : Prop := ∀ x ∈ s.history, ∀ e, x.event = .entered e → ¬ e.IsRequest

/-- A machine in which one opening is all that there is. -/
structure Sole (s : System) (o : Opening) (st : OpenStage) : Prop where
  run : Run s
  threads : s.threads = [.opening o st]
  made : o.Made s.instances st
  housed : o.module < s.modules.length

/-- A machine in which instance `n` has been opened, and nothing else has happened. -/
structure Ready (s : System) (n : Nat) (i : Instance) : Prop where
  run : Run s
  handed : s.HandedOut n
  sole : s.instances = [i]
  fresh : i.gate = {}
  unasked : s.Unasked
  /-- Whoever there is has come to its end, and is no call. -/
  idle : ∀ (t : Nat) (k : Task), s.threads[t]? = some k → ∃ o r, k = .opening o (.done r)

variable {s s' : System} {o : Opening} {st : OpenStage} {t n : Nat}

theorem Sole.thread (h : s.Sole o st) : s.threads[0]? = some (.opening o st) := by
  rw [h.threads]
  rfl

/-- Only the opener has done anything, and an opener calls no request entry point. -/
theorem Sole.unasked (h : s.Sole o st) : s.Unasked := by
  obtain ⟨made, account⟩ := h.run.accounts.openings 0 o st h.thread
  intro x hx
  have mine := h.run.accounts.threads x hx
  rw [h.threads, List.length_singleton, Nat.lt_one_iff] at mine
  exact account.polite x hx mine

theorem Sole.step (h : s.Sole o st) (hs : s.step t = some s') : ∃ st', s'.Sole o st' := by
  have run := h.run.step hs
  obtain ⟨k, -, ht, -⟩ := step_threads hs
  have mine : t = 0 ∧ k = .opening o st := by
    have there := (List.getElem?_eq_some_iff.mp ht).1
    rw [h.threads, List.length_singleton, Nat.lt_one_iff] at there
    subst there
    exact ⟨rfl, (Option.some.inj (ht.symm.trans h.thread))⟩
  obtain ⟨rfl, rfl⟩ := mine
  obtain ⟨st', ht', -⟩ := (Move.step s s' 0 hs).opening_after ht
  obtain ⟨st₀, ht₀, opens⟩ := (step_cases hs).opens ht'
  obtain ⟨-, rfl⟩ := Task.opening.inj (Option.some.inj (ht₀.symm.trans ht))
  have made := h.made
  refine ⟨st', run, ?_, ?_, ?_⟩
  · cases opens <;> rw [turn_threads, h.threads] <;> rfl
  rotate_left
  · have housed := h.housed
    cases opens <;> rw [turn_modules, List.length_set] <;> exact housed
  · cases opens with
    | early made' m m' events on hm early =>
      cases early with
      | ask | unasked | hook | told =>
        rw [turn_instances, show s.instances = [] from made]
        rfl
      | broke | refuse => trivial
      | load found hf hx | skip found hf hx =>
        rw [turn_instances, show s.instances = [] from made]
        exact ⟨rfl, _, rfl, rfl, rfl⟩
    | late n i i' m m' events on hi hm late =>
      cases late with
      | hook n₁ | loaded n₁ | announce n₁ =>
        obtain ⟨rfl, i₀, one, fresh, exports⟩ := made
        rw [turn_instances, set_same hi]
        exact ⟨rfl, i₀, one, fresh, exports⟩
      | failed | broke | abandon | abandoned | drop | dropped => trivial

theorem Sole.ready (h : s.Sole o (.done (.ok n))) : ∃ i, s.Ready n i ∧ i.exports = o.exports := by
  obtain ⟨rfl, i, sole, fresh, exports⟩ := h.made
  refine ⟨i, ⟨h.run, ⟨o, ?_⟩, sole, fresh, h.unasked, fun t k ht => ?_⟩, exports⟩
  · rw [h.threads]
    exact List.mem_singleton.mpr rfl
  · rw [h.threads] at ht
    exact ⟨o, _, List.mem_singleton.mp (List.mem_of_getElem? ht)⟩

end System

/-! ## The library that is opened -/

theorem Host.module_of_imageOf {h h' : Host} {name : String} {file : Nat} {bytes : Text.Bytes}
    {i : Image} (bare : h.images = []) (opened : h.imageOf? name file bytes = some (h', i)) :
    i.module < h'.system.modules.length := by
  simp only [imageOf?, mappedImage?, bare, List.find?_nil, Option.map_eq_some_iff,
    Prod.mk.injEq] at opened
  obtain ⟨library, -, rfl, rfl⟩ := opened
  simp [System.addModule]

theorem Host.module_of_openLibrary {h h' : Host} {path : String} {i : Image} {x : Exports}
    (bare : h.images = []) (opened : h.openLibrary path = .ok (h', i, x)) :
    i.module < h'.system.modules.length := by
  unfold openLibrary at opened
  simp only [bind, Except.bind, mappedImage?, bare, List.find?_nil] at opened
  split at opened
  · split at opened
    · cases opened
    · cases opened
    · split at opened
      · cases opened
      · rename_i image
        split at opened
        · cases opened
          exact module_of_imageOf bare image
        · cases opened
  · cases opened

theorem Loader.module_of_begin {l : Loader} {h h' : Host} {name : String} {todo : Loader.Load}
    (bare : h.images = []) (begun : l.begin h name = .ok (h', todo)) :
    todo.opening.module < h'.system.modules.length := by
  unfold begin at begun
  split at begun
  · cases begun
  · rename_i path _
    dsimp only at begun
    split at begun
    · cases begun
    · cases opened : h.openLibrary path with
      | error e =>
        simp only [Host.prepare, bind, Except.bind, opened] at begun
        cases begun
      | ok out =>
        obtain ⟨h₁, i, x⟩ := out
        simp only [Host.prepare, bind, Except.bind, opened] at begun
        cases begun
        exact Host.module_of_openLibrary bare opened

namespace Cli

/-- In every library that the linker finds, the module is untouched. -/
def Order.Pristine (o : Order) : Prop :=
  ∀ bytes library, o.around.linker bytes = some library → library.module.context = {}

namespace Order

variable {o : Order} {trace : Trace} {request : Request} {todo : Loader.Load} {s : System}
  {t n : Nat}

theorem start_opening (pristine : o.Pristine) (h : o.start = .opening request todo s t) :
    t = 0 ∧ s.Sole todo.opening .arriving := by
  unfold start at h
  split at h
  · cases h
  · split at h
    · cases h
    · split at h
      · cases h
      · rename_i host todo' begun
        cases h
        obtain ⟨maps, -, -⟩ := Loader.begin_eq_ok (File.Tree.follows_self _) begun
        have empty : o.host.system = {} := rfl
        have found : System.Run host.system ∧ host.system.threads = [] ∧
            host.system.instances = [] := by
          rcases maps.system with same | ⟨bytes, library, linked, more⟩
          · rw [same, empty]
            exact ⟨.refl {}, rfl, rfl⟩
          · rw [more, empty]
            exact ⟨System.Run.move (.refl {}) (.install _ _ (pristine bytes library linked)),
              rfl, rfl⟩
        obtain ⟨run, none, bare⟩ := found
        refine ⟨by rw [none]; rfl, run.move (.begin _ _ rfl ?_), ?_, bare,
          Loader.module_of_begin rfl begun⟩
        · intro n on
          cases on
        · simp [System.spawn, none]

theorem course_opening_sole (pristine : o.Pristine) {b : Stage}
    (h : o.Course o.start trace b) :
    (∀ request todo s t, b = .opening request todo s t →
      trace = [] ∧ t = 0 ∧ ∃ st, s.Sole todo.opening st) := by
  induction h with
  | refl =>
    intro request todo s t first
    obtain ⟨zero, sole⟩ := start_opening pristine first
    exact ⟨rfl, zero, _, sole⟩
  | step course hs ih =>
    rintro request todo s t rfl
    cases hs with
    | opens _ _ s₀ _ _ hs =>
      obtain ⟨rfl, zero, st, sole⟩ := ih _ _ _ _ rfl
      exact ⟨rfl, zero, sole.step hs⟩

end Order

end Cli

end ModuleHost
