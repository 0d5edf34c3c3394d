import ModuleHost.Proofs.Context.Ledger
import ModuleHost.Proofs.Progress.Waiting

/-!
# Who is at a lock

As long as no module code has broken off (`System.Whole`), every reader that a lock counts is a thread
that runs the handler (`Run.readers`): only a broken handler stays counted for ever. And only the
module of a handler is ever locked (`Run.locked`), so that whoever has claimed a lock waits for nothing
but its readers.
-/
namespace ModuleHost

open Boundary

/-! ## Steps of visits -/

/-- Where the visit of a call stands before the call is admitted and after its entry has returned. -/
def Call.Placed (c : Call) : Prop :=
  match c.stage with
  | .arriving | .done (.error _) => c.visit.stage = .entering
  | .retiring | .leaving | .done (.ok _) => c.visit.stage = .returned
  | .inside | .escaped => True

theorem Call.Transition.placed {c c' : Call} {i i' : Instance} {m m' : Module} {events : List Event}
    (h : c.Transition i m c' i' m' events) (placed : c.Placed) : c'.Placed := by
  cases h with
  | missing hs | refused hs | retire hs | release hs =>
    simp only [Placed, hs] at placed ⊢
    exact placed
  | admitted | broke => trivial
  | visiting v m' events hs =>
    simp only [Placed, hs]
  | returned hs back => exact back

namespace Task

theorem visit_stepOn {k k' : Task} {v : Visit} {i i' : Instance} {m m' : Module}
    {events : List Event} (hv : k.visit? = some v) (h : k.stepOn i m = some (k', i', m', events)) :
    (∃ v', k'.visit? = some v' ∧ v.step m = some (v', m', events)) ∨ v.stage = .returned ∨
      v.stage.Broken := by
  cases k with
  | calling c =>
    simp only [visit?] at hv
    split at hv
    · rename_i inside
      cases hv
      obtain ⟨c', rfl, transition⟩ := calling_stepOn h
      cases transition with
      | visiting v' m' events hs hstep =>
        exact .inl ⟨v', by simp only [visit?, hs], hstep⟩
      | returned hs back => exact .inr (.inl back)
      | broke hs broken =>
        rcases broken with ⟨f, hf⟩ | hf <;> exact .inr (.inr (by rw [hf]; trivial))
      | missing hs | admitted g hs | refused hs | retire hs | release hs => cases inside.symm.trans hs
    · cases hv
  | visiting => cases h
  | opening | shutting | dropping | hooking => cases hv

theorem visit_stepIn {k k' : Task} {v : Visit} {m m' : Module} {events : List Event}
    (hv : k.visit? = some v) (h : k.stepIn m = some (k', m', events)) :
    ∃ v', k'.visit? = some v' ∧ v.step m = some (v', m', events) := by
  cases k with
  | visiting module v₀ =>
    cases hv
    simp only [stepIn, Option.map_eq_some_iff, Prod.mk.injEq] at h
    obtain ⟨⟨v', m₁, events₁⟩, hstep, rfl, rfl, rfl⟩ := h
    exact ⟨v', rfl, hstep⟩
  | hooking => cases hv
  | opening | calling | shutting | dropping => cases h

theorem stepOn_visit {k k' : Task} {v' : Visit} {i i' : Instance} {m m' : Module}
    {events : List Event} (h : k.stepOn i m = some (k', i', m', events))
    (hv : k'.visit? = some v') :
    (∃ v, k.visit? = some v ∧ v.step m = some (v', m', events)) ∨ v'.stage = .entering := by
  cases k with
  | calling c =>
    obtain ⟨c', rfl, transition⟩ := calling_stepOn h
    cases transition with
    | visiting v m' events hs hstep =>
      simp only [visit?, hs] at hv
      cases hv
      exact .inl ⟨c.visit, by simp only [visit?, hs], hstep⟩
    | admitted g hs =>
      cases hv
      exact .inr rfl
    | missing | refused | returned | broke | retire | release => cases hv
  | opening o st =>
    obtain ⟨st', rfl, -⟩ := opening_stepOn h
    cases hv
  | shutting n σ | dropping n σ =>
    simp only [stepOn, Option.map_eq_some_iff, Prod.mk.injEq] at h
    obtain ⟨⟨σ', i₁, m₁, events₁⟩, -, rfl, -⟩ := h
    cases hv
  | hooking | visiting => cases h

theorem stepIn_visit {k k' : Task} {v' : Visit} {m m' : Module} {events : List Event}
    (h : k.stepIn m = some (k', m', events)) (hv : k'.visit? = some v') :
    ∃ v, k.visit? = some v ∧ v.step m = some (v', m', events) := by
  cases k with
  | visiting module v₀ =>
    simp only [stepIn, Option.map_eq_some_iff, Prod.mk.injEq] at h
    obtain ⟨⟨v, m₁, events₁⟩, hstep, rfl, rfl, rfl⟩ := h
    cases hv
    exact ⟨v₀, rfl, hstep⟩
  | hooking module hook st =>
    simp only [stepIn, Option.map_eq_some_iff, Prod.mk.injEq] at h
    obtain ⟨⟨st', m₁, events₁⟩, -, rfl, -⟩ := h
    cases hv
  | opening | calling | shutting | dropping => cases h

/-- Who runs a handler is inside a request entry point. -/
theorem visit_of_reading {k : Task} {g : Nat} (h : k.hold = .reading g) :
    ∃ v p, k.visit? = some v ∧ v.stage = .running g p := by
  have hook : ∀ st : HookStage, st.hold ≠ .reading g := by
    intro st hst
    cases st <;> cases hst
  have shutdown : ∀ σ : ShutdownStage, σ.hold ≠ .reading g := by
    intro σ hσ
    cases σ with
    | unloading inside st => exact hook st hσ
    | _ => cases hσ
  have visit : ∀ v : Visit, v.stage.hold = .reading g → ∃ p, v.stage = .running g p := by
    intro v hv
    cases hs : v.stage <;> rw [hs] at hv <;> cases hv
    exact ⟨_, rfl⟩
  cases k with
  | opening o st =>
    cases st with
    | probing st | loading n st => exact absurd h (hook st)
    | abandoning n code σ | dropping n code σ => exact absurd h (shutdown σ)
    | _ => cases h
  | calling c =>
    simp only [hold, Call.hold] at h
    split at h
    · rename_i inside
      obtain ⟨p, hp⟩ := visit c.visit h
      exact ⟨c.visit, p, by simp only [visit?, inside], hp⟩
    · cases h
  | shutting n σ | dropping n σ => exact absurd h (shutdown σ)
  | hooking module hook₀ st => exact absurd h (hook st)
  | visiting module v =>
    obtain ⟨p, hp⟩ := visit v h
    exact ⟨v, p, rfl, hp⟩

theorem broken_of_visit {k : Task} {v : Visit} (h : k.visit? = some v) (broken : v.stage.Broken) :
    k.Broken := by
  cases k with
  | calling c =>
    simp only [visit?] at h
    split at h
    · cases h
      exact .inr broken
    · cases h
  | visiting module v₀ =>
    cases h
    exact broken
  | opening | shutting | dropping | hooking => cases h

end Task

/-- A handler that has stopped running gave the lock back, unless its code met a fault. -/
theorem Visit.step_running {v v' : Visit} {m m' : Module} {g : Nat} {p : ModuleProgram Unit}
    {events : List Event} (running : v.stage = .running g p)
    (h : v.step m = some (v', m', events)) :
    v'.stage.hold = .reading g ∨ v'.stage.Broken ∨
      m'.context.lock.readers = m.context.lock.readers - 1 := by
  rcases step_cases h with ⟨entering, -⟩ | ⟨stage, data, rfl, passage⟩
  · cases running.symm.trans entering
  cases passage with
  | begun p l value hs => rcases hs with hs | hs <;> cases running.symm.trans hs
  | handle g' o next a data m' events hs =>
    cases running.symm.trans hs
    exact .inl rfl
  | fault => exact .inr (.inl trivial)
  | ended g' u hs | escaped g' q hs => exact .inr (.inr rfl)
  | fresh p hs | torn p hs | missed p hs | claim p l hs | start p h drops hs | pass p h drops hs
  | init p o next hs | built p u hs | failed p i n hs | broke p i r told hs
  | serve o next a data m' events hs | served u hs | escape q hs =>
    cases running.symm.trans hs

/-! ## Positions at a lock -/

def HookStage.AtLock : HookStage → Prop
  | .claiming | .draining => True
  | _ => False

def VisitStage.AtLock : VisitStage → Prop
  | .firstRead _ | .claiming _ | .draining _ | .initializing .. | .secondRead _ => True
  | _ => False

/-- Whether a task stands where only the code of a handler module comes to. -/
def Task.AtLock (k : Task) : Prop :=
  (∃ hook h, k.hook? = some (hook, h) ∧ h.AtLock) ∨ ∃ v, k.visit? = some v ∧ v.stage.AtLock

theorem Task.IsNew.not_atLock {k : Task} (h : k.IsNew) : ¬ k.AtLock := by
  rintro (⟨hook, st, hk, locked⟩ | ⟨v, hv, locked⟩)
  · rw [h.hook hk] at locked
    exact locked
  · cases k with
    | calling c =>
      obtain ⟨proxy, request, response, errand, hc⟩ := h
      rw [hc] at hv
      cases hv
    | visiting module v₀ =>
      cases hv
      have entering : v.stage = .entering := h
      rw [entering] at locked
      exact locked
    | opening | shutting | dropping | hooking => cases hv

theorem HookStage.step_atLock {hook : Hook} {m m' : Module} {h h' : HookStage}
    {events : List Event} (hs : h.step hook m = some (h', m', events)) (after : h'.AtLock) :
    h.AtLock ∨ ∃ handler drops, m.code = .handler handler drops := by
  cases h with
  | entering =>
    cases hs
    unfold start at after
    split at after
    · exact after.elim
    · exact after.elim
    · exact after.elim
    · rename_i handler drops _ code
      exact .inr ⟨handler, drops, code⟩
  | claiming | draining => exact .inl trivial
  | initializing p =>
    cases p with
    | ask o next =>
      cases hs
      exact after.elim
    | ret r =>
      simp only [step, Option.some.injEq] at hs
      rw [show h' = (step.afterStart m (.ok r)).1 by rw [hs]] at after
      rcases afterStart_over m (.ok r) with ends | ends <;> rw [ends] at after <;> exact after.elim
    | panic q =>
      simp only [step, Option.some.injEq] at hs
      rw [show h' = (step.afterStart m (.error q)).1 by rw [hs]] at after
      rcases afterStart_over m (.error q) with ends | ends <;> rw [ends] at after <;> exact after.elim
  | closing v p =>
    cases p with
    | ask o next =>
      cases hs
      exact after.elim
    | ret r =>
      simp only [step, Option.some.injEq] at hs
      rw [show h' = (step.afterClose v m (.ok r)).1 by rw [hs]] at after
      rcases afterClose_next v m (.ok r) with next | next <;> rw [next] at after <;> exact after.elim
    | panic q =>
      simp only [step, Option.some.injEq] at hs
      rw [show h' = (step.afterClose v m (.error q)).1 by rw [hs]] at after
      rcases afterClose_next v m (.error q) with next | next <;> rw [next] at after <;>
        exact after.elim
  | dropping v p =>
    cases p with
    | ask | ret =>
      cases hs
      exact after.elim
    | panic q =>
      simp only [step, Option.some.injEq] at hs
      rw [show h' = (step.afterDrop v m q).1 by rw [hs]] at after
      rcases afterDrop_over v m q with ends | ends <;> rw [ends] at after <;> exact after.elim
  | unwinding v p | plain p =>
    cases p <;> cases hs <;> exact after.elim
  | returned | escaped => cases hs

theorem Visit.step_atLock {v v' : Visit} {m m' : Module} {events : List Event}
    (h : v.step m = some (v', m', events)) (after : v'.stage.AtLock) :
    v.stage.AtLock ∨ ∃ handler drops, m.code = .handler handler drops := by
  rcases step_cases h with ⟨entering, rfl, -, -⟩ | ⟨stage, data, rfl, passage⟩
  · unfold enter at after
    split at after
    · exact after.elim
    · rename_i handler drops code
      exact .inr ⟨handler, drops, code⟩
  cases passage with
  | fresh p hs | claim p l hs | start p h drops hs | pass p h drops hs | init p o next hs
  | built p u hs =>
    exact .inl (by rw [hs]; trivial)
  | begun | torn | missed | failed | broke | handle | serve | fault | ended | served | escaped
  | escape => exact after.elim

/-! ## What has broken stays broken -/

theorem ShutdownStage.Broken.step {i i' : Instance} {m m' : Module} {σ σ' : ShutdownStage}
    {events : List Event} (broken : σ.Broken) (h : σ.step i m = some (σ', i', m', events)) :
    σ'.Broken := by
  cases σ with
  | unloading inside st =>
    cases st with
    | escaped => cases h; trivial
    | _ => exact broken.elim
  | escaped => cases h
  | _ => exact broken.elim

namespace Task

theorem Broken.stepOn {k k' : Task} {i i' : Instance} {m m' : Module} {events : List Event}
    (broken : k.Broken) (placed : ∀ c, k = .calling c → c.Placed)
    (h : k.stepOn i m = some (k', i', m', events)) : k'.Broken := by
  cases k with
  | opening o st =>
    obtain ⟨st', rfl, late⟩ := opening_stepOn h
    cases late with
    | hook n st st' m' events hs =>
      cases st with
      | escaped => cases hs
      | _ => exact broken.elim
    | broke => trivial
    | abandon n code σ σ' i' m' events hs | drop n code σ σ' i' m' events hs =>
      exact ShutdownStage.Broken.step broken hs
    | loaded | failed | abandoned | dropped | announce => exact broken.elim
  | calling c =>
    obtain ⟨c', rfl, transition⟩ := calling_stepOn h
    have placed := placed c rfl
    have visit : c.stage ≠ .escaped → c.visit.stage.Broken := by
      intro whole
      rcases broken with stage | visit
      · cases hs : c.stage <;> rw [hs] at stage <;> first | exact absurd hs whole | exact stage.elim
      · exact visit
    cases transition with
    | broke => exact .inl trivial
    | visiting v m' events hs hstep =>
      have broken := visit (by simp [hs])
      cases hv : c.visit.stage <;> rw [hv] at broken <;> first
        | exact broken.elim
        | simp only [Visit.step, hv] at hstep; cases hstep
    | missing hs | admitted g hs | refused hs =>
      have broken := visit (by simp [hs])
      simp only [Call.Placed, hs] at placed
      rw [placed] at broken
      exact broken.elim
    | returned hs back =>
      have broken := visit (by simp [hs])
      rw [back] at broken
      exact broken.elim
    | retire hs | release hs =>
      have broken := visit (by simp [hs])
      simp only [Call.Placed, hs] at placed
      rw [placed] at broken
      exact broken.elim
  | shutting n σ | dropping n σ =>
    simp only [Task.stepOn, Option.map_eq_some_iff, Prod.mk.injEq] at h
    obtain ⟨⟨σ', i₁, m₁, events₁⟩, hs, rfl, -⟩ := h
    exact ShutdownStage.Broken.step broken hs
  | hooking | visiting => cases h

theorem Broken.stepIn {k k' : Task} {m m' : Module} {events : List Event} (broken : k.Broken)
    (h : k.stepIn m = some (k', m', events)) : k'.Broken := by
  cases k with
  | hooking module hook st =>
    cases st with
    | escaped => cases h
    | _ => exact broken.elim
  | visiting module v =>
    have broken : v.stage.Broken := broken
    cases hv : v.stage <;> rw [hv] at broken <;> first
      | exact broken.elim
      | simp only [Task.stepIn, Visit.step, hv] at h; cases h
  | opening | calling | shutting | dropping => cases h

end Task

theorem Opening.Early.broken {o : Opening} {next : Nat} {m m' : Module} {st st' : OpenStage}
    {made : Option Instance} {events : List Event} (h : o.Early next m st st' made m' events)
    (broken : st.Broken) : st'.Broken := by
  cases h with
  | hook st st' m' events hs =>
    cases st with
    | escaped => cases hs
    | _ => exact broken.elim
  | broke => trivial
  | ask | unasked | told | refuse | load | skip => exact broken.elim

namespace System

variable {s s' : System}

/-- No module code has broken off. -/
def Whole (s : System) : Prop := ∀ (t : Nat) (k : Task), s.threads[t]? = some k → ¬ k.Broken

theorem Run.placed (hr : Run s) {t : Nat} {c : Call} (ht : s.threads[t]? = some (.calling c)) :
    c.Placed := by
  have key : ∀ (t : Nat) (c : Call), s.threads[t]? = some (.calling c) → c.Placed := by
    refine hr.induction (P := fun s => ∀ (t : Nat) (c : Call),
      s.threads[t]? = some (.calling c) → c.Placed) (by simp) fun s s' _ ih hm t c ht => ?_
    rcases hm.task_after ht with old | new | hs
    · exact ih t c old
    · obtain ⟨proxy, request, response, errand, hc⟩ := new
      rw [hc]
      exact rfl
    · obtain ⟨c₀, i, i', m, m', events, hc, -, -, transition, -⟩ := (step_cases hs).call ht
      exact transition.placed (ih t c₀ hc)
  exact key t c ht

theorem Whole.before (hr : Run s) (hm : Move s s') (whole : s'.Whole) : s.Whole := by
  intro t k ht broken
  rcases hm.task_before ht with same | ⟨c, r, rfl, done⟩ | hs
  · exact whole t k same broken
  · rcases broken with stage | visit
    · rw [done] at stage
      exact stage
    · have placed := hr.placed ht
      cases r <;> simp only [Call.Placed, done] at placed <;> rw [placed] at visit <;> exact visit
  · have here := (List.getElem?_eq_some_iff.mp ht).1
    cases step_cases hs with
    | early o st st' made m m' events hk hon hmod hstep =>
      cases ht.symm.trans hk
      exact whole t _ (List.getElem?_set_self here) ((Opening.stepEarly_cases hstep).broken broken)
    | late k₀ k' n i i' m m' events hk hon hi hmod hstep =>
      cases ht.symm.trans hk
      refine whole t _ (List.getElem?_set_self here) (broken.stepOn (fun c hc => ?_) hstep)
      subst hc
      exact hr.placed ht
    | direct k₀ k' module m m' events hk hd hmod hstep =>
      cases ht.symm.trans hk
      exact whole t _ (List.getElem?_set_self here) (broken.stepIn hstep)

/-! ## Turns of visits -/

theorem Turn.visit_before {t : Nat} {k : Task} {v : Visit} (h : s.Turn t s')
    (ht : s.threads[t]? = some k) (hv : k.visit? = some v) :
    ∃ k' j m m' events, s'.threads[t]? = some k' ∧ k.module? s.instances = some j ∧
      s.modules[j]? = some m ∧ s'.modules[j]? = some m' ∧
      ((∃ v', k'.visit? = some v' ∧ v.step m = some (v', m', events)) ∨ v.stage = .returned ∨
        v.stage.Broken) := by
  have here := (List.getElem?_eq_some_iff.mp ht).1
  cases h with
  | early o st st' made m m' events hk =>
    cases ht.symm.trans hk
    cases hv
  | late k₀ k' n i i' m m' events hk hon hi hm hs =>
    cases ht.symm.trans hk
    refine ⟨k', i.module, m, m', events, List.getElem?_set_self here, ?_, hm, ?_,
      Task.visit_stepOn hv hs⟩
    · simp only [Task.module?, hon, hi, Option.map_some]
    · exact List.getElem?_set_self (List.getElem?_eq_some_iff.mp hm).1
  | direct k₀ k' module m m' events hk hd hm hs =>
    cases ht.symm.trans hk
    refine ⟨k', module, m, m', events, List.getElem?_set_self here, ?_, hm, ?_,
      .inl (Task.visit_stepIn hv hs)⟩
    · exact Task.module?_of_direct hd
    · exact List.getElem?_set_self (List.getElem?_eq_some_iff.mp hm).1

theorem Turn.visit_after {t : Nat} {k' : Task} {v' : Visit} (h : s.Turn t s')
    (ht : s'.threads[t]? = some k') (hv : k'.visit? = some v') :
    v'.stage = .entering ∨ ∃ k v j m m' events, s.threads[t]? = some k ∧ k.visit? = some v ∧
      k.module? s.instances = some j ∧ s.modules[j]? = some m ∧ s'.modules[j]? = some m' ∧
      k'.module? s'.instances = some j ∧ m.SameCode m' ∧ v.step m = some (v', m', events) := by
  have mine {k k₁ : Task} (hk : s.threads[t]? = some k)
      (hk₁ : (s.threads.set t k₁)[t]? = some k') : k' = k₁ := by
    rw [List.getElem?_set_self (List.getElem?_eq_some_iff.mp hk).1] at hk₁
    exact (Option.some.inj hk₁).symm
  cases h with
  | early o st st' made m m' events hk =>
    obtain rfl := mine hk ht
    cases hv
  | late k k₁ n i i' m m' events hk hon hi hm hs =>
    obtain rfl := mine hk ht
    rcases Task.stepOn_visit hs hv with ⟨v, hv₀, hstep⟩ | entering
    · have spec := (Task.stepOn_spec hon hs).1
      refine .inr ⟨k, v, i.module, m, m', events, hk, hv₀, ?_, hm, ?_, ?_, spec.code, hstep⟩
      · simp only [Task.module?, hon, hi, Option.map_some]
      · exact List.getElem?_set_self (List.getElem?_eq_some_iff.mp hm).1
      · rcases (Task.stepOn_spec hon hs).2 with same | ⟨left, -⟩
        · have here := (List.getElem?_eq_some_iff.mp hi).1
          simp only [Task.module?, same, turn_instances, List.getElem?_set_self here,
            Option.map_some, spec.make.module]
        · cases k' with
          | calling c => cases left
          | visiting module v₁ => cases (Task.stepOn_indirect hs)
          | opening | shutting | dropping | hooking => cases hv
    · exact .inl entering
  | direct k k₁ module m m' events hk hd hm hs =>
    obtain rfl := mine hk ht
    obtain ⟨v, hv₀, hstep⟩ := Task.stepIn_visit hs hv
    refine .inr ⟨k, v, module, m, m', events, hk, hv₀, ?_, hm, ?_, ?_, (Task.stepIn_context hs).2,
      hstep⟩
    · exact Task.module?_of_direct hd
    · exact List.getElem?_set_self (List.getElem?_eq_some_iff.mp hm).1
    · exact Task.module?_of_direct ((Task.stepIn_direct hs).trans hd)

/-! ## Every reader runs -/

end System

/-- Where a handler that stops running gives the lock back, all readers counted are there. -/
theorem Context.Step.readers {c c' : Context} {σ σ' : Hold} {marks : List Event} {holds : List Hold}
    {t : Nat} (h : c.Step σ marks c' σ') (found : holds[t]? = some σ)
    (all : c.lock.readers ≤ holds.countP Hold.reads)
    (gone : ∀ g, σ = .reading g → σ' = .free → c'.lock.readers = c.lock.readers - 1) :
    c'.lock.readers ≤ (holds.set t σ').countP Hold.reads := by
  have reads := countP_set_add found σ' Hold.reads
  cases h with
  | stay slot _ _ _ =>
    rw [set_same found]
    exact all
  | claim l hl =>
    obtain ⟨-, rfl⟩ := Lock.claim?_eq_some hl
    simp only [Hold.reads, Bool.false_eq_true, if_false] at reads
    show c.lock.readers ≤ _
    omega
  | enter l v hl _ =>
    obtain ⟨-, rfl⟩ := Lock.acquireRead?_eq_some hl
    simp only [Hold.reads, Bool.false_eq_true, if_false, if_true] at reads
    show c.lock.readers + 1 ≤ _
    omega
  | leave g =>
    simp only [Hold.reads, Bool.false_eq_true, if_false, if_true] at reads
    show c.lock.readers - 1 ≤ _
    omega
  | abandon g =>
    have none := gone g rfl rfl
    omega
  | start | built | failed | broke | pass | close | drop | finish =>
    simp only [Hold.reads, Bool.false_eq_true, if_false] at reads
    show c.lock.readers ≤ _
    omega

namespace System

/-- **Every reader runs.** As long as no module code has broken off, a lock counts no more readers than
there are threads that run the handler. -/
theorem Run.readers (hr : Run s) (whole : s.Whole) (j : Nat) :
    (s.context j).lock.readers ≤ (s.holds j).countP Hold.reads := by
  have key : s.Whole → ∀ j, (s.context j).lock.readers ≤ (s.holds j).countP Hold.reads := by
    refine hr.induction (P := fun s => s.Whole → ∀ j,
      (s.context j).lock.readers ≤ (s.holds j).countP Hold.reads)
      (fun _ j => Nat.zero_le _) fun s s' hr ih hm whole j => ?_
    have all := ih (whole.before hr hm) j
    cases hm with
    | install m untouched =>
      rw [context_addModule untouched]
      exact all
    | begin k new _ =>
      have joined : (s.spawn k).holds j = s.holds j ++ [.free] := by
        simp [holds, spawn, Task.holdOn_of_free new.hold]
      rw [joined, List.countP_append]
      exact Nat.le_trans all (Nat.le_add_right _ _)
    | again t c d r ht done new _ =>
      have free : (Task.calling c).hold = .free := by simp [Task.hold, Call.hold, done]
      have same : (s.assign t (.calling d)).holds j = s.holds j := by
        have found : (s.holds j)[t]? = some .free := by simp [holds, ht, Task.holdOn_of_free free]
        simp only [holds, assign, List.map_set, Task.holdOn_of_free new.hold]
        exact set_same found
      rw [same]
      exact all
    | step _ t hs =>
      have turn := step_cases hs
      obtain ⟨k, k', module, on, m, m', instances, events, rfl, work⟩ := turn.work hr.orderly
      obtain ⟨hold, hold'⟩ := work.holdOn j
      have found : (s.holds j)[t]? = some (k.holdOn s.instances j) := by simp [holds, work.before]
      rw [context_turn work.found, holds_turn work.others, hold']
      rw [hold] at found
      by_cases here : module = j
      · subst here
        simp only [if_true] at found ⊢
        have context : s.context module = m.context := by simp [System.context, work.found]
        rw [context] at all
        refine work.step.readers found all fun g reading free => ?_
        -- The thread ran the handler and does so no more; its code has not broken off.
        obtain ⟨v, p, hv, running⟩ := Task.visit_of_reading reading
        obtain ⟨k₁, j, m₁, m₁', events₁, hk₁, home, hm₁, hm₁', taken⟩ :=
          turn.visit_before work.before hv
        cases (work.mine on).symm.trans hk₁
        cases work.home.symm.trans home
        cases work.found.symm.trans hm₁
        cases (work.found' on).symm.trans hm₁'
        rcases taken with ⟨v', hv', hstep⟩ | back | broken
        · rcases Visit.step_running running hstep with reading' | broken | released
          · rw [Task.hold_of_visit hv', reading'] at free
            cases free
          · exact absurd (Task.broken_of_visit hv' broken) (whole t k' hk₁)
          · exact released
        · cases running.symm.trans back
        · rw [running] at broken
          exact broken.elim
      · simp only [here, if_false] at found ⊢
        rw [set_same found]
        exact all
  exact key whole j

/-! ## Only handler modules are locked -/

/-- **Who stands at a lock** is in the module of a handler. -/
theorem Run.locked (hr : Run s) {t : Nat} {k : Task} (ht : s.threads[t]? = some k)
    (locked : k.AtLock) : ∃ j m handler drops, k.module? s.instances = some j ∧ s.modules[j]? = some m ∧
      m.code = .handler handler drops := by
  have key : ∀ (t : Nat) (k : Task), s.threads[t]? = some k → k.AtLock → ∃ j m handler drops,
      k.module? s.instances = some j ∧ s.modules[j]? = some m ∧ m.code = .handler handler drops := by
    refine hr.induction (P := fun s => ∀ (t : Nat) (k : Task), s.threads[t]? = some k → k.AtLock →
      ∃ j m handler drops, k.module? s.instances = some j ∧ s.modules[j]? = some m ∧
        m.code = .handler handler drops) (by simp) fun s s' hr ih hm t k ht locked => ?_
    have stays : s.threads[t]? = some k → k.module? s'.instances = k.module? s.instances →
        ∃ j m handler drops, k.module? s'.instances = some j ∧ s'.modules[j]? = some m ∧
          m.code = .handler handler drops := by
      intro old same
      obtain ⟨j, m, handler, drops, home, hmod, code⟩ := ih t k old locked
      obtain ⟨m', hm', code'⟩ := hm.code hr hmod
      exact ⟨j, m', handler, drops, same.trans home, hm', code'.code.trans code⟩
    rcases hm.task_after ht with old | new | hs
    · cases hm with
      | install | begin | again => exact stays old rfl
      | step _ u hs =>
        obtain ⟨k₀, k', module, on, m, m', instances, events, rfl, work⟩ :=
          (step_cases hs).work hr.orderly
        exact stays old (work.others k (List.mem_of_getElem? old))
    · exact absurd locked new.not_atLock
    · have turn := step_cases hs
      rcases locked with ⟨hook, h, hk, locked⟩ | ⟨v, hv, locked⟩
      · obtain ⟨k₀, k', module, on, m, m', instances, events, rfl, work⟩ := turn.work hr.orderly
        cases (work.mine on).symm.trans ht
        have home : k.module? instances = some module := by
          rcases work.home' with home | ⟨outside, -⟩
          · exact home
          · cases hk.symm.trans outside
        have coded : ∃ handler drops, m.code = .handler handler drops := by
          rcases work.hook with ⟨hook₀, h₀, h', before, after, hstep⟩ | ⟨-, entrance⟩
          · cases hk.symm.trans after
            rcases HookStage.step_atLock hstep locked with locked₀ | coded
            · obtain ⟨j, m₁, handler, drops, home₀, hm₁, code⟩ :=
                ih t k₀ work.before (.inl ⟨_, h₀, before, locked₀⟩)
              cases work.home.symm.trans home₀
              cases work.found.symm.trans hm₁
              exact ⟨handler, drops, code⟩
            · exact coded
          · rw [entrance hook h hk] at locked
            exact locked.elim
        obtain ⟨handler, drops, code⟩ := coded
        exact ⟨module, m', handler, drops, home, work.found' on, work.code.code.trans code⟩
      · rcases turn.visit_after ht hv with
          entering | ⟨k₀, v₀, j, m, m', events, hk₀, hv₀, home₀, hm₀, hm', home, same, hstep⟩
        · rw [entering] at locked
          exact locked.elim
        · have coded : ∃ handler drops, m.code = .handler handler drops := by
            rcases Visit.step_atLock hstep locked with locked₀ | coded
            · obtain ⟨j₁, m₁, handler, drops, home₁, hm₁, code⟩ := ih t k₀ hk₀ (.inr ⟨v₀, hv₀, locked₀⟩)
              cases home₀.symm.trans home₁
              cases hm₀.symm.trans hm₁
              exact ⟨handler, drops, code⟩
            · exact coded
          obtain ⟨handler, drops, code⟩ := coded
          exact ⟨j, m', handler, drops, home, hm', same.code.trans code⟩
  exact key t k ht locked

end System

end ModuleHost
