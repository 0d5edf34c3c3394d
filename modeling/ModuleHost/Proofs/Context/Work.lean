import ModuleHost.Proofs.Instance.Orderly

/-!
# The work of a turn

Whether it comes through an instance or past any, a turn of the machine is a piece of work of one
thread in one module: one step of the module's context (`Context.Step`), and one step inside a
lifecycle entry point or none (`HookTurn`), while all other tasks stay in the modules where they
are. `Turn.work` says so of all turns; what threads do to a module is told from there.
-/
namespace ModuleHost

open Boundary

namespace Task

/-- The module that a task works on while it has no instance. -/
def home? : Task → Option Nat
  | .opening o _ => some o.module
  | .hooking module _ _ | .visiting module _ => some module
  | .calling _ | .shutting .. | .dropping .. => none

/-- The module that a task works on. -/
def module? (instances : List Instance) (k : Task) : Option Nat :=
  match k.on? with
  | some n => instances[n]?.map (·.module)
  | none => k.home?

/-- What a task holds of module `j`. -/
def holdOn (instances : List Instance) (j : Nat) (k : Task) : Hold :=
  if k.module? instances = some j then k.hold else .free

theorem holdOn_of_free {instances : List Instance} {j : Nat} {k : Task} (h : k.hold = .free) :
    k.holdOn instances j = .free := by
  unfold holdOn
  split
  · exact h
  · rfl

theorem module?_of_direct {instances : List Instance} {k : Task} {j : Nat}
    (h : k.direct? = some j) : k.module? instances = some j := by
  cases k with
  | hooking | visiting => exact h
  | opening | calling | shutting | dropping => cases h

theorem stepOn_indirect {k k' : Task} {i i' : Instance} {m m' : Module} {events : List Event}
    (h : k.stepOn i m = some (k', i', m', events)) : k'.direct? = none := by
  cases k with
  | opening | calling | shutting | dropping =>
    simp only [stepOn, Option.map_eq_some_iff, Prod.mk.injEq] at h
    obtain ⟨_, -, rfl, -⟩ := h
    rfl
  | hooking | visiting => cases h

theorem IsNew.hold {k : Task} (h : k.IsNew) : k.hold = .free := by
  cases k with
  | opening o st => cases h; rfl
  | calling c =>
    obtain ⟨proxy, request, response, errand, hc⟩ := h
    rw [hc]
    rfl
  | shutting n σ | dropping n σ => cases h; rfl
  | hooking module hook st => cases h; rfl
  | visiting module v =>
    have stage : v.stage = .entering := h
    simp [Task.hold, stage, VisitStage.hold]

end Task

theorem Opening.Early.context {o : Opening} {next : Nat} {m m' : Module} {st st' : OpenStage}
    {made : Option Instance} {events : List Event} (h : o.Early next m st st' made m' events) :
    Context.Step m.context st.hold (contextMarks events) m'.context st'.hold ∧ m.SameCode m' := by
  cases h with
  | hook h h' m' events hstep =>
    have spec := HookStage.step_spec hstep
    exact ⟨spec.context, spec.code⟩
  | ask | unasked | told | broke | refuse | load | skip => exact ⟨.refl _ _, .refl m⟩

theorem Task.stepIn_context {k k' : Task} {m m' : Module} {events : List Event}
    (h : k.stepIn m = some (k', m', events)) :
    Context.Step m.context k.hold (contextMarks events) m'.context k'.hold ∧ m.SameCode m' := by
  cases k with
  | hooking module hook h₁ =>
    simp only [stepIn, Option.map_eq_some_iff, Prod.mk.injEq] at h
    obtain ⟨⟨h₁', m₁, events₁⟩, hstep, rfl, rfl, rfl⟩ := h
    have spec := HookStage.step_spec hstep
    exact ⟨spec.context, spec.code⟩
  | visiting module v =>
    simp only [stepIn, Option.map_eq_some_iff, Prod.mk.injEq] at h
    obtain ⟨⟨v', m₁, events₁⟩, hstep, rfl, rfl, rfl⟩ := h
    have spec := Visit.step_spec hstep
    exact ⟨spec.context, spec.code⟩
  | opening | calling | shutting | dropping => cases h

/-! ## Lifecycle entry points -/

/-- The lifecycle entry point that a shutdown is inside of. -/
def ShutdownStage.hook? : ShutdownStage → Option (Hook × HookStage)
  | .unloading _ h => some (.unload, h)
  | _ => none

def OpenStage.hook? : OpenStage → Option (Hook × HookStage)
  | .probing h => some (.probe, h)
  | .loading _ h => some (.load, h)
  | .abandoning _ _ σ | .dropping _ _ σ => σ.hook?
  | _ => none

/-- The lifecycle entry point that a task is inside of, and where. -/
def Task.hook? : Task → Option (Hook × HookStage)
  | .opening _ st => st.hook?
  | .shutting _ σ | .dropping _ σ => σ.hook?
  | .hooking _ hook h => some (hook, h)
  | .calling _ | .visiting .. => none

/-- A step as far as lifecycle entry points go: one inside of such an entry point, or one that has
nothing to do with any, except that it may come to stand at the entrance of one. -/
inductive HookTurn (m m' : Module) (events : List Event)
    (before after : Option (Hook × HookStage)) : Prop
  | inside (hook : Hook) (h h' : HookStage) :
      before = some (hook, h) → after = some (hook, h') → h.step hook m = some (h', m', events) →
      HookTurn m m' events before after
  | outside :
      (∀ hook h, before = some (hook, h) → h.hold = .free) →
      (∀ hook h, after = some (hook, h) → h = .entering) → HookTurn m m' events before after

theorem ShutdownStage.hookTurn {i i' : Instance} {m m' : Module} {σ σ' : ShutdownStage}
    {events : List Event} (h : σ.step i m = some (σ', i', m', events)) :
    HookTurn m m' events σ.hook? σ'.hook? := by
  cases σ with
  | unloading inside hook =>
    rcases hook.running_or with ⟨code, rfl⟩ | rfl | hr
    · simp only [step, Option.some.injEq, Prod.mk.injEq] at h
      obtain ⟨rfl, rfl, rfl, rfl⟩ := h
      exact .outside (by simp [hook?, HookStage.hold]) (by simp [hook?])
    · simp only [step, Option.some.injEq, Prod.mk.injEq] at h
      obtain ⟨rfl, rfl, rfl, rfl⟩ := h
      exact .outside (by simp [hook?, HookStage.hold]) (by simp [hook?])
    · simp only [step_unloading hr, Option.map_eq_some_iff, Prod.mk.injEq] at h
      obtain ⟨⟨hook', m₁, events₁⟩, hstep, rfl, rfl, rfl, rfl⟩ := h
      exact .inside .unload hook hook' rfl rfl hstep
  | draining inside =>
    simp only [step] at h
    split at h
    · simp only [Option.some.injEq, Prod.mk.injEq] at h
      obtain ⟨rfl, rfl, rfl, rfl⟩ := h
      refine .outside (by simp [hook?]) ?_
      split <;> simp [hook?]
    · cases h
  | arriving =>
    simp only [step] at h
    split at h
    · simp only [Option.some.injEq, Prod.mk.injEq] at h
      obtain ⟨rfl, rfl, rfl, rfl⟩ := h
      exact .outside (by simp [hook?]) (by simp [hook?])
    · simp only [Option.some.injEq, Prod.mk.injEq] at h
      obtain ⟨rfl, rfl, rfl, rfl⟩ := h
      exact .outside (by simp [hook?]) (by unfold look; split <;> simp [hook?])
  | asleep since =>
    simp only [step] at h
    split at h
    · simp only [Option.some.injEq, Prod.mk.injEq] at h
      obtain ⟨rfl, rfl, rfl, rfl⟩ := h
      exact .outside (by simp [hook?]) (by unfold look; split <;> simp [hook?])
    · cases h
  | unmapping inside hook | publishing inside hook | broadcasting inside hook
    | reporting inside hook =>
    simp only [step, Option.some.injEq, Prod.mk.injEq] at h
    obtain ⟨rfl, rfl, rfl, rfl⟩ := h
    exact .outside (by simp [hook?]) (by simp [hook?])
  | done o | escaped => cases h

theorem Opening.Early.hookTurn {o : Opening} {next : Nat} {m m' : Module} {st st' : OpenStage}
    {made : Option Instance} {events : List Event} (h : o.Early next m st st' made m' events) :
    HookTurn m m' events st.hook? st'.hook? := by
  cases h with
  | hook h h' m' events hstep => exact .inside .probe h h' rfl rfl hstep
  | ask | unasked | told | broke | refuse | load | skip =>
    exact .outside (by simp [OpenStage.hook?, HookStage.hold]) (by simp [OpenStage.hook?])

theorem Opening.Late.hookTurn {i i' : Instance} {m m' : Module} {st st' : OpenStage}
    {events : List Event} (h : Late i m st st' i' m' events) :
    HookTurn m m' events st.hook? st'.hook? := by
  cases h with
  | hook n h h' m' events hstep => exact .inside .load h h' rfl rfl hstep
  | abandon n code σ σ' i' m' events hstep => exact ShutdownStage.hookTurn hstep
  | drop n code σ σ' i' m' events hstep => exact ShutdownStage.hookTurn hstep
  | loaded | failed | broke | abandoned | dropped | announce =>
    exact .outside (by simp [OpenStage.hook?, ShutdownStage.hook?, HookStage.hold])
      (by simp [OpenStage.hook?, ShutdownStage.hook?])

namespace Task

theorem hookTurn_on {k k' : Task} {i i' : Instance} {m m' : Module} {events : List Event}
    (h : k.stepOn i m = some (k', i', m', events)) : HookTurn m m' events k.hook? k'.hook? := by
  cases k with
  | opening o st =>
    simp only [stepOn, Option.map_eq_some_iff, Prod.mk.injEq] at h
    obtain ⟨⟨st', i₁, m₁, events₁⟩, hstep, rfl, rfl, rfl, rfl⟩ := h
    exact (Opening.stepLate_cases hstep).hookTurn
  | calling c =>
    simp only [stepOn, Option.map_eq_some_iff, Prod.mk.injEq] at h
    obtain ⟨⟨c', i₁, m₁, events₁⟩, -, rfl, rfl, rfl, rfl⟩ := h
    exact .outside (by simp [hook?]) (by simp [hook?])
  | shutting n σ | dropping n σ =>
    simp only [stepOn, Option.map_eq_some_iff, Prod.mk.injEq] at h
    obtain ⟨⟨σ', i₁, m₁, events₁⟩, hstep, rfl, rfl, rfl, rfl⟩ := h
    exact ShutdownStage.hookTurn hstep
  | hooking | visiting => cases h

theorem hookTurn_in {k k' : Task} {m m' : Module} {events : List Event}
    (h : k.stepIn m = some (k', m', events)) : HookTurn m m' events k.hook? k'.hook? := by
  cases k with
  | hooking module hook h₁ =>
    simp only [stepIn, Option.map_eq_some_iff, Prod.mk.injEq] at h
    obtain ⟨⟨h₁', m₁, events₁⟩, hstep, rfl, rfl, rfl⟩ := h
    exact .inside hook h₁ h₁' rfl rfl hstep
  | visiting module v =>
    simp only [stepIn, Option.map_eq_some_iff, Prod.mk.injEq] at h
    obtain ⟨⟨v', m₁, events₁⟩, -, rfl, rfl, rfl⟩ := h
    exact .outside (by simp [hook?]) (by simp [hook?])
  | opening | calling | shutting | dropping => cases h

theorem IsNew.hook {k : Task} (h : k.IsNew) {hook : Hook} {stage : HookStage}
    (hk : k.hook? = some (hook, stage)) : stage = .entering := by
  cases k with
  | opening o st => cases h; cases hk
  | shutting n σ | dropping n σ => cases h; cases hk
  | hooking module hook st => cases h; cases hk; rfl
  | calling | visiting => cases hk

theorem hold_of_hook {k : Task} {hook : Hook} {stage : HookStage}
    (h : k.hook? = some (hook, stage)) : k.hold = stage.hold := by
  have shutdown : ∀ σ : ShutdownStage, σ.hook? = some (hook, stage) → σ.hold = stage.hold := by
    intro σ hσ
    cases σ <;> cases hσ
    rfl
  cases k with
  | opening o st =>
    cases st with
    | probing stage | loading n stage => cases h; rfl
    | abandoning n code σ | dropping n code σ => exact shutdown σ h
    | _ => cases h
  | shutting n σ | dropping n σ => exact shutdown σ h
  | hooking module hook st => cases h; rfl
  | calling | visiting => cases h

/-- Only inside a lifecycle entry point does a thread tear a value down. -/
theorem hook_of_tearsDown {k : Task} {g : Nat} (h : k.hold.tearsDown g = true) :
    ∃ hook stage, k.hook? = some (hook, stage) := by
  have shutdown : ∀ σ : ShutdownStage, σ.hold.tearsDown g = true →
      ∃ hook stage, σ.hook? = some (hook, stage) := by
    intro σ hσ
    cases σ with
    | unloading inside stage => exact ⟨.unload, stage, rfl⟩
    | _ => cases hσ
  have visit : ∀ v : VisitStage, v.hold.tearsDown g = false := by
    intro v
    cases v <;> rfl
  cases k with
  | opening o st =>
    cases st with
    | probing stage => exact ⟨.probe, stage, rfl⟩
    | loading n stage => exact ⟨.load, stage, rfl⟩
    | abandoning n code σ | dropping n code σ => exact shutdown σ h
    | _ => cases h
  | calling c =>
    simp only [hold, Call.hold] at h
    split at h
    · rw [visit] at h
      cases h
    · cases h
  | shutting n σ | dropping n σ => exact shutdown σ h
  | hooking module hook stage => exact ⟨hook, stage, rfl⟩
  | visiting module v =>
    rw [hold, visit] at h
    cases h

theorem hook_of_left {k k' : Task} {n : Nat} {i i' : Instance} {m m' : Module}
    {events : List Event} (hon : k.on? = some n) (h : k.stepOn i m = some (k', i', m', events))
    (left : k'.on? = none) : k'.hook? = none := by
  cases k with
  | opening o st =>
    simp only [stepOn, Option.map_eq_some_iff, Prod.mk.injEq] at h
    obtain ⟨⟨st', i₁, m₁, events₁⟩, hstep, rfl, rfl, rfl, rfl⟩ := h
    cases Opening.stepLate_cases hstep with
    | broke | dropped | announce => rfl
    | hook | loaded | failed | abandon | abandoned | drop => cases left
  | calling c =>
    simp only [stepOn, Option.map_eq_some_iff, Prod.mk.injEq] at h
    obtain ⟨⟨c', i₁, m₁, events₁⟩, -, rfl, rfl, rfl, rfl⟩ := h
    rfl
  | shutting n' σ | dropping n' σ =>
    simp only [stepOn, Option.map_eq_some_iff, Prod.mk.injEq] at h
    obtain ⟨⟨σ', i₁, m₁, events₁⟩, -, rfl, rfl, rfl, rfl⟩ := h
    cases left
  | hooking | visiting => cases hon

end Task

/-! ## Turns -/

namespace System

theorem module?_append {s : System} (h : s.Orderly) (more : List Instance) :
    ∀ k ∈ s.threads, k.module? (s.instances ++ more) = k.module? s.instances := by
  intro k hk
  obtain ⟨t, ht⟩ := List.mem_iff_getElem?.mp hk
  unfold Task.module?
  split
  · rename_i n hon
    rw [List.getElem?_append_left (h.owned.known t k n ht (.inl hon))]
  · rfl

theorem module?_set {instances : List Instance} {n : Nat} {i i' : Instance}
    (hi : instances[n]? = some i) (make : i.SameMake i') (k : Task) :
    k.module? (instances.set n i') = k.module? instances := by
  unfold Task.module?
  split
  · rename_i n' hon
    by_cases hn : n = n'
    · subst hn
      obtain ⟨hlt, rfl⟩ := List.getElem?_eq_some_iff.mp hi
      simp [hlt, make.module]
    · simp [hn]
  · rfl

/-- The work of thread `t` in `module`, which takes it from `k` to `k'` and the module to `m'`. -/
structure Work (s : System) (t : Nat) (k k' : Task) (module : Nat) (m m' : Module)
    (instances : List Instance) (events : List Event) : Prop where
  before : s.threads[t]? = some k
  found : s.modules[module]? = some m
  step : m.context.Step k.hold (contextMarks events) m'.context k'.hold
  code : m.SameCode m'
  hook : HookTurn m m' events k.hook? k'.hook?
  home : k.module? s.instances = some module
  home' : k'.module? instances = some module ∨ k'.hook? = none ∧ k'.hold = .free
  others : ∀ k₁ ∈ s.threads, k₁.module? instances = k₁.module? s.instances

section
variable {s : System} {t : Nat} {k k' : Task} {module : Nat} {m m' : Module}
  {instances : List Instance} {events : List Event}

theorem Work.mine (h : Work s t k k' module m m' instances events) (on : Option Nat) :
    (s.turn t module on k' m' instances events).threads[t]? = some k' :=
  List.getElem?_set_self (List.getElem?_eq_some_iff.mp h.before).1

theorem Work.found' (h : Work s t k k' module m m' instances events) (on : Option Nat) :
    (s.turn t module on k' m' instances events).modules[module]? = some m' :=
  List.getElem?_set_self (List.getElem?_eq_some_iff.mp h.found).1

end

/-- What a thread holds after its work, it holds of the same module. -/
theorem Work.holdOn {s : System} {t : Nat} {k k' : Task} {module : Nat} {m m' : Module}
    {instances : List Instance} {events : List Event}
    (h : Work s t k k' module m m' instances events) (j : Nat) :
    k.holdOn s.instances j = (if module = j then k.hold else .free) ∧
      k'.holdOn instances j = if module = j then k'.hold else .free := by
  refine ⟨by simp [Task.holdOn, h.home], ?_⟩
  rcases h.home' with home' | ⟨-, free⟩
  · simp [Task.holdOn, home']
  · rw [Task.holdOn_of_free free, free, ite_self]

/-- **Every turn is work in one module.** -/
theorem Turn.work {s s' : System} {t : Nat} (orderly : s.Orderly) (h : s.Turn t s') :
    ∃ k k' module on m m' instances events, s' = s.turn t module on k' m' instances events ∧
      Work s t k k' module m m' instances events := by
  cases h with
  | early o st st' made m m' events ht hon hm hs =>
    have early := Opening.stepEarly_cases hs
    obtain ⟨step, code⟩ := early.context
    refine ⟨_, _, _, _, m, _, _, _, rfl, ht, hm, step, code, early.hookTurn, ?_, .inl ?_,
      module?_append orderly _⟩
    · simp [Task.module?, Task.on?, hon, Task.home?]
    · cases early <;> simp [Task.module?, Task.on?, OpenStage.on?, Task.home?, Opening.toInstance]
  | late k k' n i i' m m' events ht hon hi hm hs =>
    obtain ⟨⟨-, make, step, code⟩, hon'⟩ := Task.stepOn_spec hon hs
    refine ⟨k, k', i.module, _, m, m', _, events, rfl, ht, hm, step, code, Task.hookTurn_on hs, ?_, ?_,
      fun k₁ _ => module?_set hi make k₁⟩
    · simp [Task.module?, hon, hi]
    · rcases hon' with hon' | ⟨left, free⟩
      · left
        rw [module?_set hi make]
        simp [Task.module?, hon', hi]
      · exact .inr ⟨Task.hook_of_left hon hs left, free⟩
  | direct k k' module m m' events ht hd hm hs =>
    obtain ⟨step, code⟩ := Task.stepIn_context hs
    exact ⟨k, k', module, _, m, m', _, events, rfl, ht, hm, step, code,
      Task.hookTurn_in hs, Task.module?_of_direct hd,
      .inl (Task.module?_of_direct ((Task.stepIn_direct hs).trans hd)), fun _ _ => rfl⟩

/-- A module keeps its code through every move. -/
theorem Move.code {s s' : System} (hr : Run s) (h : Move s s') {j : Nat} {m : Module}
    (hm : s.modules[j]? = some m) : ∃ m', s'.modules[j]? = some m' ∧ m.SameCode m' := by
  have here := (List.getElem?_eq_some_iff.mp hm).1
  cases h with
  | install m₁ _ => exact ⟨m, (List.getElem?_append_left here).trans hm, .refl m⟩
  | begin | again => exact ⟨m, hm, .refl m⟩
  | step _ t hs =>
    obtain ⟨k, k', module, on, m₁, m', instances, events, rfl, work⟩ :=
      (step_cases hs).work hr.orderly
    by_cases hj : module = j
    · subst hj
      obtain rfl := Option.some.inj (work.found.symm.trans hm)
      exact ⟨m', by simp [here], work.code⟩
    · exact ⟨m, by simp [hj, hm], .refl m⟩

theorem Move.code_before {s s' : System} (hr : Run s) (h : Move s s') {j : Nat} {code : Code}
    (hc : ∀ m, s'.modules[j]? = some m → m.code = code) (m : Module)
    (hm : s.modules[j]? = some m) : m.code = code := by
  obtain ⟨m', hm', same⟩ := h.code hr hm
  exact same.code.symm.trans (hc m' hm')

/-- Whether instance `n` was opened on module code `code`. -/
def CodeOf (s : System) (n : Nat) (code : Code) : Prop :=
  ∃ i m, s.instances[n]? = some i ∧ s.modules[i.module]? = some m ∧ m.code = code

theorem CodeOf.of_found {s : System} {n : Nat} {code : Code} {i : Instance} {m : Module}
    (h : s.CodeOf n code) (hi : s.instances[n]? = some i) (hm : s.modules[i.module]? = some m) :
    m.code = code := by
  obtain ⟨i', m', hi', hm', rfl⟩ := h
  obtain rfl := Option.some.inj (hi.symm.trans hi')
  obtain rfl := Option.some.inj (hm.symm.trans hm')
  rfl

theorem Move.codeOf {s s' : System} (hr : Run s) (h : Move s s') {n : Nat} {code : Code}
    (old : n < s.instances.length) (hc : s'.CodeOf n code) : s.CodeOf n code := by
  have hi : s.instances[n]? = some s.instances[n] := List.getElem?_eq_getElem old
  obtain ⟨m, hm⟩ := hr.housed hi
  obtain ⟨i', σ, σ', marks, hi', make, -⟩ := h.gate hi
  obtain ⟨m', hm', same⟩ := h.code hr hm
  obtain ⟨i'', m'', hi'', hm'', rfl⟩ := hc
  obtain rfl := Option.some.inj (hi'.symm.trans hi'')
  rw [make.module] at hm''
  obtain rfl := Option.some.inj (hm'.symm.trans hm'')
  exact ⟨_, m, hi, hm, same.code.symm⟩

end System

end ModuleHost
