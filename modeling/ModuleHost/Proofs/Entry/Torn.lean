import ModuleHost.Proofs.Entry.Starting
import ModuleHost.Proofs.Tenancy.Hooks

/-!
# A context that was torn down

Only `OnLoad` changes a context that was torn down: the request entries find no value and start none,
and `OnUnload` finds nothing to shut down. So the phase, the generation and the dispatches stay as
they are until somebody is inside `OnLoad` again (`Later.torn_down`).
-/
namespace ModuleHost

open Boundary

/-- What can become of a context that was torn down: nothing, unless a start begins or ends. -/
theorem Context.Step.torn_down {c c' : Context} {σ σ' : Hold} {marks : List Event}
    (h : c.Step σ marks c' σ') (torn : c.phase = .tornDown) :
    (c'.phase = .tornDown ∧ c'.generation = c.generation ∧ c'.calls = c.calls) ∧
        (σ = .waiting → σ' ≠ .starting) ∨
      σ = .waiting ∧ σ' = .starting ∨ σ = .starting := by
  have lives (v : HandlerValue) : c.slot ≠ .live v := fun slot => by
    simp [phase, slot, Slot.phase] at torn
  cases h with
  | stay slot _ phase _ => exact .inl ⟨⟨phase.trans torn, rfl, rfl⟩, by rintro rfl; simp⟩
  | claim l hl => exact .inl ⟨⟨torn, rfl, rfl⟩, by simp⟩
  | start => exact .inr (.inl ⟨rfl, rfl⟩)
  | built | failed | broke => exact .inr (.inr rfl)
  | pass slot _ hslot =>
    refine .inl ⟨⟨?_, rfl, rfl⟩, by simp⟩
    rcases hslot with rfl | ⟨fresh, -⟩
    · exact torn
    · simp [phase, fresh, Slot.phase] at torn
  | close v _ hv => exact absurd hv (lives v)
  | drop | finish | abandon => exact .inl ⟨⟨torn, rfl, rfl⟩, by simp⟩
  | enter l v _ hv => exact absurd hv (lives v)
  | leave => exact .inl ⟨⟨torn, rfl, rfl⟩, by simp⟩

theorem VisitStage.hold_of_broken {stage : VisitStage} (broken : stage.Broken) :
    stage.hold = .free := by
  cases stage with
  | faulted | escaped => rfl
  | _ => exact broken.elim

theorem Task.hook_or_visit {k : Task} (held : k.hold ≠ .free) :
    (∃ hook stage, k.hook? = some (hook, stage)) ∨ ∃ v, k.visit? = some v := by
  have shutdown : ∀ σ : ShutdownStage, σ.hold ≠ .free → ∃ hook stage, σ.hook? = some (hook, stage) := by
    intro σ hσ
    cases σ with
    | unloading inside stage => exact ⟨.unload, stage, rfl⟩
    | _ => exact absurd rfl hσ
  cases k with
  | opening o st =>
    cases st with
    | probing stage => exact .inl ⟨.probe, stage, rfl⟩
    | loading n stage => exact .inl ⟨.load, stage, rfl⟩
    | abandoning n code σ | dropping n code σ => exact .inl (shutdown σ held)
    | _ => exact absurd rfl held
  | calling c =>
    cases hs : c.stage with
    | inside => exact .inr ⟨c.visit, by simp only [visit?, hs]⟩
    | _ => exact absurd (by simp only [hold, Call.hold, hs]) held
  | shutting n σ | dropping n σ => exact .inl (shutdown σ held)
  | hooking module hook stage => exact .inl ⟨hook, stage, rfl⟩
  | visiting module v => exact .inr ⟨v, rfl⟩

namespace System

variable {s s' : System} {j : Nat} {h : Handler}

/-- Whether somebody is inside `OnLoad` of module `j`. -/
def Loading (s : System) (j : Nat) : Prop :=
  ∃ (t : Nat) (k : Task) (stage : HookStage), s.threads[t]? = some k ∧
    k.module? s.instances = some j ∧ k.hook? = some (.load, stage) ∧ stage.IsRunning ∧
    stage ≠ .entering

theorem Work.loading {t : Nat} {k k' : Task} {m m' : Module} {instances : List Instance}
    {events : List Event} {stage stage' : HookStage}
    (work : Work s t k k' j m m' instances events) (hk : k.hook? = some (.load, stage))
    (hstep : stage.step .load m = some (stage', m', events)) :
    s.Loading j ∨ .entered .onLoad ∈ events := by
  by_cases entering : stage = .entering
  · subst entering
    cases hstep
    exact .inr (List.mem_singleton.mpr rfl)
  · exact .inl ⟨t, k, stage, work.before, work.home, hk, HookStage.running_of_step hstep, entering⟩

/-- Inside `OnUnload` or `ModuleAbiVersion` of a handler, nobody begins a start where the handler was
torn down. -/
theorem HookStage.no_start {hook : Hook} {m m' : Module} {stage stage' : HookStage}
    {events : List Event} (hs : stage.step hook m = some (stage', m', events)) (other : hook ≠ .load)
    (code : m.code = .handler h) (slot : m.context.slot = .tornDown) (held : stage.hold = .waiting) :
    stage'.hold ≠ .starting := by
  cases stage with
  | draining =>
    simp only [HookStage.step, code] at hs
    split at hs
    · cases hook with
      | load => exact absurd rfl other
      | probe | unload =>
        simp only [HookStage.locked, slot, Option.some.injEq, Prod.mk.injEq] at hs
        rw [← hs.1]
        exact Hold.noConfusion
    · cases hs
  | _ => cases held

/-- Nor does a request. -/
theorem Visit.no_start {v v' : Visit} {m m' : Module} {events : List Event}
    (hs : v.step m = some (v', m', events)) (slot : m.context.slot = .tornDown)
    (held : v.stage.hold = .waiting) : v'.stage.hold ≠ .starting := by
  rcases Visit.step_cases hs with ⟨entering, -⟩ | ⟨stage, data, rfl, passage⟩
  · rw [entering] at held
    cases held
  cases passage with
  | start p handler drops hst code readers fresh => cases slot.symm.trans fresh
  | init p o next hst =>
    rw [hst] at held
    cases held
  | begun | fresh | torn | missed | claim | pass | built | failed | broke | handle | serve | fault
  | ended | served | escaped | escape => exact Hold.noConfusion

/-- Where module `j` was torn down and nobody loads it, no thread at work there begins a start or ends
one. -/
theorem Work.no_start {t : Nat} {k k' : Task} {m m' : Module} {instances : List Instance}
    {events : List Event} (hr : Run s) (hs : s.step t = some s')
    (work : Work s t k k' j m m' instances events) (mine : s'.threads[t]? = some k')
    (code : m.code = .handler h) (slot : m.context.slot = .tornDown) (idle : ¬ s.Loading j) :
    ¬ (k.hold = .waiting ∧ k'.hold = .starting) ∧ k.hold ≠ .starting := by
  have loads (stage : HookStage) (hk : k.hook? = some (.load, stage)) (held : k.hold ≠ .free) :
      False := by
    rw [Task.hold_of_hook hk] at held
    refine idle ⟨t, k, stage, work.before, work.home, hk, ⟨?_, ?_⟩, ?_⟩
    · rintro code rfl
      exact held rfl
    · rintro rfl
      exact held rfl
    · rintro rfl
      exact held rfl
  refine ⟨fun ⟨held, starts⟩ => ?_, fun held => ?_⟩
  · rcases Task.hook_or_visit (k := k) (by simp [held]) with ⟨hook, stage, hk⟩ | ⟨v, hv⟩
    · cases work.hook with
      | outside before _ =>
        rw [Task.hold_of_hook hk, before _ _ hk] at held
        cases held
      | inside hook' stage₁ stage' before after hstep =>
        have other : hook' ≠ .load := by
          rintro rfl
          exact loads stage₁ before (by simp [held])
        rw [Task.hold_of_hook before] at held
        rw [Task.hold_of_hook after] at starts
        exact HookStage.no_start hstep other code slot held starts
    · obtain ⟨k₁, j', m₁, m₁', events₁, hk₁, home, hm₁, -, visit⟩ :=
        (step_cases hs).visit_before work.before hv
      cases mine.symm.trans hk₁
      cases work.home.symm.trans home
      cases work.found.symm.trans hm₁
      rw [Task.hold_of_visit hv] at held
      rcases visit with ⟨v', hv', hstep⟩ | returned | broken
      · rw [Task.hold_of_visit hv'] at starts
        exact Visit.no_start hstep slot held starts
      · rw [returned] at held
        cases held
      · rw [VisitStage.hold_of_broken broken] at held
        cases held
  · rcases Task.hook_or_visit (k := k) (by simp [held]) with ⟨hook, stage, hk⟩ | ⟨v, hv⟩
    · have initializing : ∃ p, stage = .initializing p := by
        rw [Task.hold_of_hook hk] at held
        cases stage with
        | initializing p => exact ⟨p, rfl⟩
        | _ => cases held
      obtain ⟨p, rfl⟩ := initializing
      rcases hr.fits work.before hk with rfl | ⟨j', m₁, home, hm₁, other⟩
      · exact loads _ hk (by simp [held])
      · cases work.home.symm.trans home
        cases work.found.symm.trans hm₁
        exact absurd code (other h)
    · have initializing : ∃ p i, v.stage = .initializing p i := by
        rw [Task.hold_of_visit hv] at held
        cases hst : v.stage <;> rw [hst] at held <;> cases held
        exact ⟨_, _, rfl⟩
      obtain ⟨p, i, starting⟩ := initializing
      have fresh := hr.starting_fresh (t := t) (j := j) ⟨k, work.before, .inl hv, work.home⟩ starting
      simp [System.context, work.found, Context.phase, slot, Slot.phase] at fresh

/-- A move in whose course nobody loads module `j` leaves it torn down. -/
theorem Move.torn_down {new : List Event} (hr : Run s) (hm : Move s s') (code : s.HasHandler j h)
    (torn : (s.context j).phase = .tornDown) (idle : ¬ s.Loading j)
    (grown : s'.moduleLog j = s.moduleLog j ++ new) (unloaded : .entered .onLoad ∉ new) :
    ((s'.context j).phase = .tornDown ∧ (s'.context j).generation = (s.context j).generation ∧
      (s'.context j).calls = (s.context j).calls) ∧ ¬ s'.Loading j := by
  -- A thread that comes to be inside `OnLoad` has entered it by this move.
  have still : ¬ s'.Loading j := by
    rintro ⟨t, k', stage, ht', home', hk', running, past⟩
    rcases hm.task_after ht' with old | new | hs
    · have home := (hm.module? hr (List.mem_of_getElem? old)).symm.trans home'
      exact idle ⟨t, k', stage, old, home, hk', running, past⟩
    · exact past (new.hook hk')
    · obtain ⟨k, k₁, module, on, m, m', instances, events, rfl, work⟩ := (step_cases hs).work hr.orderly
      cases (work.mine on).symm.trans ht'
      cases work.hook with
      | outside _ after => exact past (after _ _ hk')
      | inside hook stage₁ stage' before after hstep =>
        cases after.symm.trans hk'
        have here : module = j := by
          rcases work.home' with home | ⟨outside, -⟩
          · exact Option.some.inj (home.symm.trans home')
          · cases outside.symm.trans hk'
        subst here
        rw [moduleLog_turn, if_pos rfl] at grown
        obtain rfl := List.append_cancel_left grown
        exact (work.loading before hstep).elim idle unloaded
  refine ⟨?_, still⟩
  cases hm with
  | install m hm =>
    rw [context_addModule hm]
    exact ⟨torn, rfl, rfl⟩
  | begin | again => exact ⟨torn, rfl, rfl⟩
  | step _ t hs =>
    obtain ⟨k, k', module, on, m, m', instances, events, rfl, work⟩ := (step_cases hs).work hr.orderly
    rw [context_turn work.found]
    by_cases here : module = j
    · subst here
      have context : s.context module = m.context := by simp [System.context, work.found]
      rw [context] at torn ⊢
      have slot : m.context.slot = .tornDown := by
        cases slot : m.context.slot <;> simp [Context.phase, Slot.phase, slot] at torn
        rfl
      obtain ⟨unbegun, unended⟩ :=
        work.no_start hr hs (work.mine on) (code.code work.found) slot idle
      rw [if_pos rfl]
      rcases work.step.torn_down torn with ⟨kept, -⟩ | begins | ends
      · exact kept
      · exact absurd begins unbegun
      · exact absurd ends unended
    · rw [if_neg here]
      exact ⟨torn, rfl, rfl⟩

/-- **What was torn down stays so** until it is loaded again: whatever requests, shutdowns and unloads
come, in whatever order and number. -/
theorem Later.torn_down {log : List Event} (hr : Run s) (code : s.HasHandler j h)
    (torn : (s.context j).phase = .tornDown) (idle : ¬ s.Loading j) (later : Later s s')
    (grown : s'.moduleLog j = s.moduleLog j ++ log) (unloaded : .entered .onLoad ∉ log) :
    (s'.context j).phase = .tornDown ∧ (s'.context j).generation = (s.context j).generation ∧
      (s'.context j).calls = (s.context j).calls := by
  have key : ∀ log, s'.moduleLog j = s.moduleLog j ++ log → .entered .onLoad ∉ log →
      ((s'.context j).phase = .tornDown ∧ (s'.context j).generation = (s.context j).generation ∧
        (s'.context j).calls = (s.context j).calls) ∧ ¬ s'.Loading j := by
    refine later.induction (P := fun s' => ∀ log, s'.moduleLog j = s.moduleLog j ++ log →
      .entered .onLoad ∉ log → ((s'.context j).phase = .tornDown ∧
        (s'.context j).generation = (s.context j).generation ∧
        (s'.context j).calls = (s.context j).calls) ∧ ¬ s'.Loading j)
      (fun _ _ _ => ⟨⟨torn, rfl, rfl⟩, idle⟩) fun s₁ s₂ before ih hm log grown unloaded => ?_
    obtain ⟨log₁, grown₁⟩ := Later.log before fun _ module _ => module == j
    obtain ⟨new, grown₂⟩ := hm.log fun _ module _ => module == j
    have grown₁ : s₁.moduleLog j = s.moduleLog j ++ log₁ := grown₁
    have grown₂ : s₂.moduleLog j = s₁.moduleLog j ++ new := grown₂
    have parts : log = log₁ ++ new := by
      rw [grown₂, grown₁, List.append_assoc] at grown
      exact (List.append_cancel_left grown).symm
    rw [parts, List.mem_append, not_or] at unloaded
    obtain ⟨⟨torn₁, generation, calls⟩, idle₁⟩ := ih log₁ grown₁ unloaded.1
    obtain ⟨⟨torn₂, generation', calls'⟩, idle₂⟩ := hm.torn_down (hr.later before)
      (code.later hr before) torn₁ idle₁ grown₂ unloaded.2
    exact ⟨⟨torn₂, generation'.trans generation, calls'.trans calls⟩, idle₂⟩
  exact (key log grown unloaded).1

end System

end ModuleHost
