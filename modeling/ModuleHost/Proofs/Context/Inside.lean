import ModuleHost.Proofs.Boundary.Output
import ModuleHost.Proofs.Progress.Readers

/-!
# What a thread does in module code

A `Post` is the place that a task has in module code: inside a lifecycle entry point, inside a request
entry point, or outside. Every turn of the machine is a step of one post in the code of its module
(`Turn.post`): a step inside the entry point where the task is, or a step aside, which does nothing to
the module and leads out of module code or to the entrance of an entry point.
-/
namespace ModuleHost

open Boundary

inductive Post where
  | outside
  | hook (hook : Hook) (stage : HookStage)
  | visit (v : Visit)

namespace Event

/-- Whether the event has nothing to do with handler values and their output. -/
def IsAside (e : Event) : Prop := e.ofContext = false ∧ e.text? = none

end Event

namespace Post

def hold : Post → Hold
  | .outside => .free
  | .hook _ h => h.hold
  | .visit v => v.stage.hold

/-- Whether the task is in no module code yet, or in none any more. -/
def IsNew : Post → Prop
  | .outside => True
  | .hook _ h => h = .entering
  | .visit v => v.stage = .entering

theorem IsNew.hold {σ : Post} (h : σ.IsNew) : σ.hold = .free := by
  cases σ with
  | outside => rfl
  | hook hook stage => cases h; rfl
  | visit v =>
    have entering : v.stage = .entering := h
    simp only [Post.hold, entering, VisitStage.hold]

/-- The steps of a post in module `m`, which becomes `m'`. -/
inductive Step (m m' : Module) (events : List Event) : Post → Post → Prop
  | hook (hook : Hook) (h h' : HookStage) :
      h.step hook m = some (h', m', events) → Step m m' events (.hook hook h) (.hook hook h')
  | visit (v v' : Visit) :
      v.step m = some (v', m', events) → Step m m' events (.visit v) (.visit v')
  | aside (σ σ' : Post) :
      σ.hold = .free → σ'.IsNew → m' = m → (∀ e ∈ events, e.IsAside) → Step m m' events σ σ'

end Post

/-! ## Tasks -/

def ShutdownStage.post (σ : ShutdownStage) : Post :=
  match σ.hook? with
  | some (hook, h) => .hook hook h
  | none => .outside

def Task.post (k : Task) : Post :=
  match k.hook? with
  | some (hook, h) => .hook hook h
  | none =>
    match k.visit? with
    | some v => .visit v
    | none => .outside

theorem ShutdownStage.post_step {i i' : Instance} {m m' : Module} {σ σ' : ShutdownStage}
    {events : List Event} (h : σ.step i m = some (σ', i', m', events)) :
    Post.Step m m' events σ.post σ'.post := by
  cases σ with
  | unloading inside hook =>
    rcases hook.running_or with ⟨code, rfl⟩ | rfl | running
    · cases h
      exact .aside _ _ rfl trivial rfl (by simp [Event.IsAside, Event.ofContext, Event.text?])
    · cases h
      exact .aside _ _ rfl trivial rfl (by simp)
    · simp only [step_unloading running, Option.map_eq_some_iff, Prod.mk.injEq] at h
      obtain ⟨⟨hook', m₁, events₁⟩, hstep, rfl, rfl, rfl, rfl⟩ := h
      exact .hook .unload hook hook' hstep
  | draining inside =>
    simp only [step] at h
    split at h
    · cases h
      refine .aside _ _ rfl ?_ rfl (by simp)
      split
      · exact rfl
      · exact trivial
    · cases h
  | arriving =>
    simp only [step] at h
    split at h
    · cases h
      exact .aside _ _ rfl trivial rfl (by simp [Event.IsAside, Event.ofContext, Event.text?])
    · cases h
      refine .aside _ _ rfl ?_ rfl (by simp)
      unfold look
      split <;> exact trivial
  | asleep since =>
    simp only [step] at h
    split at h
    · cases h
      refine .aside _ _ rfl ?_ rfl (by simp)
      unfold look
      split <;> exact trivial
    · cases h
  | unmapping inside hook | publishing inside hook | broadcasting inside hook
    | reporting inside hook =>
    cases h
    exact .aside _ _ rfl trivial rfl (by simp [Event.IsAside, Event.ofContext, Event.text?])
  | done o | escaped => cases h

theorem Opening.Early.post {o : Opening} {next : Nat} {m m' : Module} {st st' : OpenStage}
    {made : Option Instance} {events : List Event} (h : o.Early next m st st' made m' events) :
    Post.Step m m' events (Task.opening o st).post (Task.opening o st').post := by
  cases h with
  | hook h h' m' events hstep => exact .hook .probe h h' hstep
  | ask | load => exact .aside _ _ rfl rfl rfl (by simp)
  | unasked | broke | refuse | skip => exact .aside _ _ rfl trivial rfl (by simp)
  | told v => exact .aside _ _ rfl trivial rfl (by simp [Event.IsAside, Event.ofContext, Event.text?])

namespace Task

theorem post_on {k k' : Task} {i i' : Instance} {m m' : Module} {events : List Event}
    (h : k.stepOn i m = some (k', i', m', events)) : Post.Step m m' events k.post k'.post := by
  cases k with
  | opening o st =>
    obtain ⟨st', rfl, late⟩ := opening_stepOn h
    cases late with
    | hook n stage stage' m' events hstep => exact .hook .load stage stage' hstep
    | abandon n code σ σ' i' m' events hstep | drop n code σ σ' i' m' events hstep =>
      exact ShutdownStage.post_step hstep
    | loaded | failed | announce =>
      exact .aside _ _ rfl trivial rfl (by simp [Event.IsAside, Event.ofContext, Event.text?])
    | broke | abandoned | dropped => exact .aside _ _ rfl trivial rfl (by simp)
  | calling c =>
    obtain ⟨c', rfl, transition⟩ := calling_stepOn h
    have free {c : Call} (out : c.stage ≠ .inside) : (Task.calling c).post.hold = .free := by
      cases hs : c.stage <;> first | exact absurd hs out | simp only [post, hook?, visit?, hs]; rfl
    cases transition with
    | visiting v m' events hs hstep =>
      simp only [post, hook?, visit?, hs]
      exact .visit c.visit v hstep
    | returned hs back =>
      refine .aside _ _ ?_ trivial rfl (by simp [Event.IsAside, Event.ofContext, Event.text?])
      simp only [post, hook?, visit?, hs, Post.hold, back, VisitStage.hold]
    | broke hs broken =>
      refine .aside _ _ ?_ trivial rfl (by simp)
      simp only [post, hook?, visit?, hs, Post.hold]
      rcases broken with ⟨f, hv⟩ | hv <;> simp only [hv, VisitStage.hold]
    | admitted g hs =>
      exact .aside _ _ (free (by simp [hs])) rfl rfl
        (by simp [Event.IsAside, Event.ofContext, Event.text?])
    | missing hs | refused hs | retire hs | release hs =>
      exact .aside _ _ (free (by simp [hs])) trivial rfl
        (by simp [Event.IsAside, Event.ofContext, Event.text?])
  | shutting n σ | dropping n σ =>
    simp only [stepOn, Option.map_eq_some_iff, Prod.mk.injEq] at h
    obtain ⟨⟨σ', i₁, m₁, events₁⟩, hstep, rfl, rfl, rfl, rfl⟩ := h
    exact ShutdownStage.post_step hstep
  | hooking | visiting => cases h

theorem post_in {k k' : Task} {m m' : Module} {events : List Event}
    (h : k.stepIn m = some (k', m', events)) : Post.Step m m' events k.post k'.post := by
  cases k with
  | hooking module hook st =>
    simp only [stepIn, Option.map_eq_some_iff, Prod.mk.injEq] at h
    obtain ⟨⟨st', m₁, events₁⟩, hstep, rfl, rfl, rfl⟩ := h
    exact .hook hook st st' hstep
  | visiting module v =>
    simp only [stepIn, Option.map_eq_some_iff, Prod.mk.injEq] at h
    obtain ⟨⟨v', m₁, events₁⟩, hstep, rfl, rfl, rfl⟩ := h
    exact .visit v v' hstep
  | opening | calling | shutting | dropping => cases h

theorem hold_post (k : Task) : k.post.hold = k.hold := by
  unfold post
  split
  · rename_i hook h hk
    exact (hold_of_hook hk).symm
  · rename_i outside
    split
    · rename_i v hv
      exact (hold_of_visit hv).symm
    · rename_i elsewhere
      have shutdown : ∀ σ : ShutdownStage, σ.hook? = none → σ.hold = .free := by
        intro σ hσ
        cases σ <;> first | rfl | cases hσ
      cases k with
      | opening o st =>
        cases st with
        | probing h | loading n h => cases outside
        | abandoning n code σ | dropping n code σ => exact (shutdown σ outside).symm
        | arriving | judging | announcing | done | escaped => rfl
      | calling c =>
        simp only [hold, Call.hold]
        split
        · rename_i inside
          simp [visit?, inside] at elsewhere
        · rfl
      | shutting n σ | dropping n σ => exact (shutdown σ outside).symm
      | hooking => cases outside
      | visiting => cases elsewhere

theorem IsNew.post {k : Task} (h : k.IsNew) : k.post.IsNew := by
  cases k with
  | opening o st => cases h; exact trivial
  | calling c =>
    obtain ⟨proxy, request, response, errand, hc⟩ := h
    rw [hc]
    exact trivial
  | shutting n σ | dropping n σ => cases h; exact trivial
  | hooking module hook st => exact h
  | visiting module v => exact h

theorem on?_of_visit {k : Task} {v : Visit} (h : k.visit? = some v) (indirect : k.direct? = none) :
    k.on? ≠ none := by
  cases k with
  | calling c => simp [on?]
  | visiting => cases indirect
  | opening | shutting | dropping | hooking => cases h

/-- The place of a task in the code of module `j`. -/
def postOn (instances : List Instance) (j : Nat) (k : Task) : Post :=
  if k.module? instances = some j then k.post else .outside

end Task

namespace System

variable {s s' : System} {t : Nat}

/-- What the threads do in the code of module `j`. -/
def posts (s : System) (j : Nat) : List Post := s.threads.map (Task.postOn s.instances j)

theorem holds_eq_posts (s : System) (j : Nat) : s.holds j = (s.posts j).map Post.hold := by
  simp only [holds, posts, List.map_map]
  refine List.map_congr_left fun k _ => ?_
  simp only [Task.holdOn, Function.comp_apply, Task.postOn]
  split
  · exact k.hold_post.symm
  · rfl

theorem turn_injective {module : Nat} {on on' : Option Nat} {k k' : Task} {m m' : Module}
    {instances instances' : List Instance} {events events' : List Event}
    (here : t < s.threads.length) (there : module < s.modules.length)
    (same : s.turn t module on k m instances events =
      s.turn t module on' k' m' instances' events') : k = k' ∧ m = m' ∧ events = events' := by
  have threads := congrArg (fun s => s.threads[t]?) same
  have modules := congrArg (fun s => s.modules[module]?) same
  have history := congrArg System.history same
  simp only [turn_threads, turn_modules, List.getElem?_set_self here,
    List.getElem?_set_self there, Option.some.injEq] at threads modules
  simp only [turn_history, List.append_cancel_right_eq, List.reverse_inj] at history
  refine ⟨threads, modules, ?_⟩
  simpa [Function.comp_def] using congrArg (List.map Happening.event) history

/-- **Every turn is a step of a post** in the code of the module where the turn works. -/
theorem Turn.post (orderly : s.Orderly) (h : s.Turn t s') :
    ∃ k k' module on m m' instances events, s' = s.turn t module on k' m' instances events ∧
      Work s t k k' module m m' instances events ∧ Post.Step m m' events k.post k'.post ∧
      (k'.module? instances = some module ∨ k'.post = .outside) := by
  obtain ⟨k, k', module, on, m, m', instances, events, same, work⟩ := h.work orderly
  refine ⟨k, k', module, on, m, m', instances, events, same, work, ?_⟩
  have here := (List.getElem?_eq_some_iff.mp work.before).1
  have there := (List.getElem?_eq_some_iff.mp work.found).1
  -- Where the task is in no module code, it has left its module; else its module is the same.
  have home (inside : ∀ v, k'.visit? = some v → k'.module? instances = some module) :
      k'.module? instances = some module ∨ k'.post = .outside := by
    rcases work.home' with home | ⟨unhooked, -⟩
    · exact .inl home
    · cases hv : k'.visit? with
      | none => exact .inr (by simp only [Task.post, unhooked, hv])
      | some v => exact .inl (inside v hv)
  cases h with
  | early o st st' made m₁ m₁' events₁ ht hon hm hs =>
    obtain rfl := Option.some.inj (ht.symm.trans work.before)
    obtain rfl : o.module = module := Option.some.inj
      ((show some o.module = _ by simp [Task.module?, Task.on?, hon, Task.home?]).trans work.home)
    obtain rfl := Option.some.inj (hm.symm.trans work.found)
    obtain ⟨rfl, rfl, rfl⟩ := turn_injective here there same
    exact ⟨(Opening.stepEarly_cases hs).post, home fun v hv => by cases hv⟩
  | late k₁ k₁' n i i' m₁ m₁' events₁ ht hon hi hm hs =>
    obtain rfl := Option.some.inj (ht.symm.trans work.before)
    obtain rfl : i.module = module := Option.some.inj
      ((show some i.module = _ by simp [Task.module?, hon, hi]).trans work.home)
    obtain rfl := Option.some.inj (hm.symm.trans work.found)
    obtain ⟨rfl, rfl, rfl⟩ := turn_injective here there same
    refine ⟨Task.post_on hs, home fun v hv => ?_⟩
    have after : s.instances.set n i' = instances := congrArg System.instances same
    obtain ⟨spec, still⟩ := Task.stepOn_spec hon hs
    have on := still.resolve_right fun left => Task.on?_of_visit hv (Task.stepOn_indirect hs) left.1
    rw [← after, module?_set hi spec.make]
    simp [Task.module?, on, hi]
  | direct k₁ k₁' module₁ m₁ m₁' events₁ ht hd hm hs =>
    obtain rfl := Option.some.inj (ht.symm.trans work.before)
    obtain rfl : module₁ = module := Option.some.inj
      ((Task.module?_of_direct hd).symm.trans work.home)
    obtain rfl := Option.some.inj (hm.symm.trans work.found)
    obtain ⟨rfl, rfl, rfl⟩ := turn_injective here there same
    exact ⟨Task.post_in hs,
      .inl (Task.module?_of_direct ((Task.stepIn_direct hs).trans hd))⟩

end System

end ModuleHost
