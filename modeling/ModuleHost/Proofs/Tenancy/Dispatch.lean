import Mathlib.Algebra.GroupWithZero.Nat
import ModuleHost.Proofs.Tenancy.Slot

/-!
# Dispatches and calls served

A module counts the dispatches to its handler, an instance the calls that it has released. In a
tended module the two counts differ by the calls that have dispatched and are not released yet
(`Tended.balanced`): every call that comes back has dispatched once, and nobody else dispatches.
-/
namespace ModuleHost

open Boundary

/-- Whether a call has dispatched to the handler, and is not released yet. -/
def Call.dispatched (c : Call) : Bool :=
  match c.stage with
  | .arriving | .done _ => false
  | .inside =>
    match c.visit.stage with
    | .running .. | .returned | .faulted _ | .escaped => true
    | _ => false
  | .retiring | .leaving | .escaped => true

namespace Task

def dispatched : Task → Bool
  | .calling c => c.dispatched
  | _ => false

/-- Whether the task is a call on module `j` that has dispatched and is not released yet. -/
def dispatchedOn (instances : List Instance) (j : Nat) (k : Task) : Bool :=
  k.dispatched && k.module? instances == some j

theorem dispatched_of_not_calling {k : Task} (other : ∀ c, k ≠ .calling c) : k.dispatched = false := by
  cases k with
  | calling c => exact absurd rfl (other c)
  | _ => rfl

theorem stepOn_other {k k' : Task} {i i' : Instance} {m m' : Module} {events : List Event}
    (other : ∀ c, k ≠ .calling c) (h : k.stepOn i m = some (k', i', m', events)) (c : Call) :
    k' ≠ .calling c := by
  cases k with
  | calling c => exact absurd rfl (other c)
  | opening | shutting | dropping =>
    simp only [stepOn, Option.map_eq_some_iff, Prod.mk.injEq] at h
    obtain ⟨_, -, rfl, -⟩ := h
    exact fun same => by cases same
  | hooking | visiting => cases h

theorem IsNew.dispatched {k : Task} (h : k.IsNew) : k.dispatched = false := by
  cases k with
  | calling c =>
    obtain ⟨proxy, request, response, errand, hc⟩ := h
    rw [hc]
    rfl
  | _ => rfl

theorem dispatchedOn_of_false {k : Task} (h : k.dispatched = false) (instances : List Instance)
    (j : Nat) : k.dispatchedOn instances j = false := by
  rw [dispatchedOn, h, Bool.false_and]

theorem dispatchedOn_calling {instances : List Instance} {c : Call} {i : Instance}
    (hi : instances[c.on]? = some i) (j : Nat) :
    (calling c).dispatchedOn instances j = (c.dispatched && i.module == j) := by
  simp [dispatchedOn, dispatched, module?, on?, hi]

theorem reads_of_not_calling {k : Task} (other : ∀ c, k ≠ .calling c) (indirect : k.direct? = none) :
    k.hold.reads = false := by
  have hook : ∀ h : HookStage, h.hold.reads = false := by
    intro h
    cases h <;> rfl
  have shutdown : ∀ σ : ShutdownStage, σ.hold.reads = false := by
    intro σ
    cases σ with
    | unloading inside h => exact hook h
    | _ => rfl
  cases k with
  | opening o st =>
    cases st with
    | probing hs | loading n hs => exact hook hs
    | abandoning n c σ | dropping n c σ => exact shutdown σ
    | arriving | judging | announcing | done | escaped => rfl
  | calling c => exact absurd rfl (other c)
  | shutting n σ | dropping n σ => exact shutdown σ
  | hooking | visiting => cases indirect

end Task

theorem Context.Step.calls {c c' : Context} {σ σ' : Hold} {marks : List Event}
    (h : c.Step σ marks c' σ') (none : σ'.reads = false) : c'.calls = c.calls := by
  cases h with
  | enter => cases none
  | _ => rfl

theorem Gate.Step.served {x : Exports} {g g' : Gate} {σ σ' : Standing} {marks : List Event}
    (h : Step x g σ marks g' σ') (none : σ ≠ .within) : g'.served = g.served := by
  cases h with
  | accept g' hg =>
    unfold admit? at hg
    split at hg
    · cases hg
      rfl
    · cases hg
  | close g' hg =>
    unfold close? at hg
    split at hg
    · cases hg
      rfl
    · cases hg
  | release => exact absurd rfl none
  | stay | load | answer | enter | drain | skip | unload | unmap | publish | find | depart => rfl

/-- A step of a call, by what it counts: a dispatch, or a call served. -/
theorem Call.Transition.counts {i i' : Instance} {m m' : Module} {c c' : Call} {events : List Event}
    {handler : Handler} (code : m.code = .handler handler) (straight : handler.Straight)
    (handled : c.Handled) (prompt : c.visit.stage.Prompt)
    (own : c.stage = .inside → ∃ g, m.context.slot.value? = some g)
    (transition : c.Transition i m c' i' m' events) :
    m'.context.calls + i.gate.served + c.dispatched.toNat =
      m.context.calls + i'.gate.served + c'.dispatched.toNat := by
  cases transition with
  | missing hs | refused hs | retire hs => simp [dispatched, hs]
  | admitted gate hs exported hg =>
    unfold Gate.admit? at hg
    split at hg
    · cases hg
      simp [dispatched, hs]
    · cases hg
  | returned hs hv => simp [dispatched, hs, hv]
  | broke hs hv => rcases hv with ⟨f, hv⟩ | hv <;> simp [dispatched, hs, hv]
  | release hs =>
    simp only [dispatched, hs, Gate.release, Bool.toNat_true, Bool.toNat_false]
    omega
  | visiting v m' events hs hstep =>
    rcases Visit.step_cases hstep with ⟨entering, rfl, rfl, -⟩ | ⟨stage, data, rfl, passage⟩
    · simp only [Handled, hs] at handled
      rw [Visit.enter_straight code straight handled]
      simp [dispatched, hs, entering]
    · obtain ⟨g, value⟩ := own hs
      cases passage with
      | begun p l v hv hl slot =>
        rcases hv with hv | hv
        · simp only [dispatched, hs, hv, Module.setContext, Bool.toNat_true, Bool.toNat_false]
          omega
        · rw [hv] at prompt
          exact prompt.elim
      | fresh p hv slot | torn p hv slot =>
        rw [slot] at value
        cases value
      | handle g₁ o next a data m' events hv perform =>
        have same : m'.context.calls = m.context.calls := by
          rcases (perform_remarks perform).1 with ⟨n, rfl⟩ | rfl
          · rfl
          · exact (m.count_spec .free).2.calls rfl
        simp [dispatched, hs, hv, same]
      | ended g₁ u hv | escaped g₁ q hv => simp [dispatched, hs, hv, Module.setContext]
      | fault o next f hv =>
        rcases hv with ⟨g₁, hv⟩ | hv
        · simp [dispatched, hs, hv]
        · rw [hv] at prompt
          exact prompt.elim
      | missed p hv | claim p l hv | start p _ _ hv | pass p _ _ hv | init p o next hv
      | built p u hv | failed p init n hv | broke p init r told hv | served u hv | escape q hv
      | serve o next a data m' events hv =>
        rw [hv] at prompt
        exact prompt.elim

namespace System

variable {s s' : System} {t j n : Nat} {i : Instance} {handler : Handler}

/-- What an instance adds to the calls served on module `j`. -/
def servedOn (j : Nat) (i : Instance) : Nat := if i.module = j then i.gate.served else 0

/-- The calls served by all instances of module `j`. -/
def served (s : System) (j : Nat) : Nat := (s.instances.map (servedOn j)).sum

/-- The calls on module `j` that have dispatched and are not released yet. -/
def dispatching (s : System) (j : Nat) : Nat := s.threads.countP (Task.dispatchedOn s.instances j)

theorem dispatching_turn {module : Nat} {on : Option Nat} {k k' : Task} {m' : Module}
    {instances : List Instance} {events : List Event}
    (others : ∀ k₁ ∈ s.threads, k₁.module? instances = k₁.module? s.instances)
    (ht : s.threads[t]? = some k) :
    (s.turn t module on k' m' instances events).dispatching j +
        (k.dispatchedOn s.instances j).toNat =
      s.dispatching j + (k'.dispatchedOn instances j).toNat := by
  have same : ∀ k₁ ∈ s.threads, k₁.dispatchedOn instances j = k₁.dispatchedOn s.instances j := by
    intro k₁ hk₁
    rw [Task.dispatchedOn, Task.dispatchedOn, others k₁ hk₁]
  have before : s.threads.countP (Task.dispatchedOn instances j) = s.dispatching j :=
    List.countP_congr fun k₁ hk₁ => by rw [same k₁ hk₁]
  have count := countP_set_add ht k' (Task.dispatchedOn instances j)
  rw [same k (List.mem_of_getElem? ht), before] at count
  unfold dispatching at count ⊢
  rw [turn_threads, turn_instances]
  cases h : k.dispatchedOn s.instances j <;> cases h' : k'.dispatchedOn instances j <;>
    simpa [h, h'] using count

theorem served_turn {module : Nat} {on : Option Nat} {k' : Task} {m' : Module} {i' : Instance}
    {events : List Event} (hi : s.instances[n]? = some i) :
    (s.turn t module on k' m' (s.instances.set n i') events).served j + servedOn j i =
      s.served j + servedOn j i' :=
  sum_map_set (servedOn j) hi i'

theorem context_calls_turn {module : Nat} {on : Option Nat} {k' : Task} {m m' : Module}
    {instances : List Instance} {events : List Event} (hm : s.modules[module]? = some m)
    (same : m'.context.calls = m.context.calls) :
    ((s.turn t module on k' m' instances events).context j).calls = (s.context j).calls := by
  rw [context_turn hm]
  split
  · rename_i here
    subst here
    simp [same, System.context, hm]
  · rfl

/-- The dispatches counted by module `j` are the calls served, and those not released yet. -/
def Balanced (s : System) (j : Nat) : Prop := (s.context j).calls = s.served j + s.dispatching j

theorem Balanced.aside {module : Nat} {on : Option Nat} {k k' : Task} {m' : Module}
    {instances : List Instance} {events : List Event} (h : s.Balanced j)
    (ht : s.threads[t]? = some k)
    (others : ∀ k₁ ∈ s.threads, k₁.module? instances = k₁.module? s.instances)
    (before : k.dispatched = false) (after : k'.dispatched = false)
    (calls : ((s.turn t module on k' m' instances events).context j).calls = (s.context j).calls)
    (served : (s.turn t module on k' m' instances events).served j = s.served j) :
    (s.turn t module on k' m' instances events).Balanced j := by
  have count : (s.turn t module on k' m' instances events).dispatching j + _ = _ :=
    dispatching_turn others ht
  rw [Task.dispatchedOn_of_false before, Task.dispatchedOn_of_false after] at count
  rw [Balanced, calls, served, Nat.add_right_cancel count]
  exact h

theorem Balanced.call {c c' : Call} {i' : Instance} {m m' : Module} {events : List Event}
    (h : s.Balanced j) (straight : handler.Straight) (tended : Tended j s)
    (code : ∀ m, s.modules[j]? = some m → m.code = .handler handler)
    (ht : s.threads[t]? = some (.calling c)) (hi : s.instances[c.on]? = some i)
    (hm : s.modules[i.module]? = some m) (make : i.SameMake i')
    (transition : c.Transition i m c' i' m' events) :
    (s.turn t i.module (some c.on) (.calling c') m' (s.instances.set c.on i') events).Balanced j := by
  have there := (List.getElem?_eq_some_iff.mp hi).1
  have count : (s.turn t i.module (some c.on) (.calling c') m' (s.instances.set c.on i')
      events).dispatching j + _ = _ := dispatching_turn (fun k₁ _ => module?_set hi make k₁) ht
  have served : (s.turn t i.module (some c.on) (.calling c') m' (s.instances.set c.on i')
      events).served j + servedOn j i = s.served j + servedOn j i' := served_turn hi
  rw [Task.dispatchedOn_calling hi, Task.dispatchedOn_calling (i := i') (by simp [transition.on, there]),
    make.module] at count
  simp only [servedOn, make.module] at served
  rw [Balanced, context_turn hm]
  rw [Balanced] at h
  by_cases hj : i.module = j
  · have tenancy := tended.tenancy straight code
    have context : s.context j = m.context := by simp [System.context, ← hj, hm]
    have value : c.stage = .inside → ∃ g, m.context.slot.value? = some g := by
      intro hs
      obtain ⟨g, -, value⟩ := tenancy.own tended code ht ⟨rfl, by simp [hs], by simp [hs]⟩ hi hj
      rw [context] at value
      exact ⟨g, value⟩
    have counts := transition.counts (code m (hj ▸ hm)) straight (tended.run.handled ht)
      (tenancy.prompt t c i ht hi hj) value
    rw [context] at h
    simp only [hj, if_true, beq_self_eq_true, Bool.and_true] at count served ⊢
    omega
  · simp only [hj, if_false, Bool.and_false, beq_eq_false_iff_ne.mpr hj] at count served ⊢
    omega

/-- **Dispatches and calls served** are in balance in every run that tends the module. -/
theorem Tended.balanced (straight : handler.Straight) (tended : Tended j s)
    (code : ∀ m, s.modules[j]? = some m → m.code = .handler handler) : s.Balanced j := by
  induction tended with
  | start => rfl
  | @move s s' tended hm allowed ih =>
    have hr := tended.run
    have before := hm.code_before hr code
    have ih := ih before
    cases hm with
    | install m hm =>
      rw [Balanced, context_addModule hm]
      exact ih
    | begin k hnew _ =>
      have same : (s.spawn k).dispatching j = s.dispatching j := by
        simp [dispatching, spawn, Task.dispatchedOn_of_false hnew.dispatched]
      rw [Balanced, same]
      exact ih
    | again t c d r ht hdone hnew _ =>
      have same : (s.assign t (.calling d)).dispatching j = s.dispatching j := by
        have done : (Task.calling c).dispatched = false := by
          simp [Task.dispatched, Call.dispatched, hdone]
        have count := countP_set_add ht (.calling d) (Task.dispatchedOn s.instances j)
        rw [Task.dispatchedOn_of_false done, Task.dispatchedOn_of_false hnew.dispatched] at count
        exact Nat.add_right_cancel count
      rw [Balanced, same]
      exact ih
    | step _ t hs =>
      cases step_cases hs with
      | early o st st' made m m' events ht hon hm hstep =>
        have early := Opening.stepEarly_cases hstep
        refine ih.aside ht (module?_append hr.orderly made.toList) rfl rfl ?_ ?_
        · have quiet := Task.reads_of_not_calling (k := .opening o st') (by simp) rfl
          exact context_calls_turn hm (early.context.1.calls quiet)
        · have unused : servedOn j o.toInstance = 0 := ite_self 0
          simp only [System.served, turn_instances, List.map_append, List.sum_append]
          cases early <;> simp [unused]
      | late k k' n i i' m m' events ht hon hi hm hstep =>
        obtain ⟨spec, -⟩ := Task.stepOn_spec hon hstep
        by_cases isCall : ∃ c, k = .calling c
        · obtain ⟨c, rfl⟩ := isCall
          obtain ⟨c', rfl, transition⟩ := Task.calling_stepOn hstep
          cases hon
          exact ih.call straight tended before ht hi hm spec.make transition
        · have other : ∀ c, k ≠ .calling c := fun c same => isCall ⟨c, same⟩
          have other' := Task.stepOn_other other hstep
          refine ih.aside ht (fun k₁ _ => module?_set hi spec.make k₁)
            (Task.dispatched_of_not_calling other) (Task.dispatched_of_not_calling other') ?_ ?_
          · have quiet := Task.reads_of_not_calling other' (Task.stepOn_indirect hstep)
            exact context_calls_turn hm (spec.context.calls quiet)
          · have unreleased : i'.gate.served = i.gate.served := by
              refine spec.gate.served fun within => ?_
              obtain ⟨c, same, -⟩ := Task.calling_of_within within
              exact other c same
            have served : (s.turn t i.module (some n) k' m' (s.instances.set n i') events).served j +
                servedOn j i = s.served j + servedOn j i' := served_turn hi
            rw [servedOn, servedOn, spec.make.module, unreleased] at served
            exact Nat.add_right_cancel served
      | direct k k' module m m' events ht hd hm hstep =>
        have indirect : ∀ {k : Task}, k.direct? = some module → k.dispatched = false := by
          intro k hd
          refine Task.dispatched_of_not_calling fun c same => ?_
          rw [same] at hd
          cases hd
        refine ih.aside ht (fun _ _ => rfl) (indirect hd)
          (indirect ((Task.stepIn_direct hstep).trans hd)) ?_ rfl
        have elsewhere : module ≠ j := by
          rintro rfl
          exact tended.indirect ht hd
        rw [context_turn hm, if_neg elsewhere]

/-- Where no call of the module's instances is in flight, none has dispatched. -/
theorem Run.dispatching_none (hr : Run s)
    (idle : ∀ i ∈ s.instances, i.module = j → i.gate.inFlight = 0) : s.dispatching j = 0 := by
  refine List.countP_eq_zero.mpr fun k hk on => ?_
  obtain ⟨t, ht⟩ := List.mem_iff_getElem?.mp hk
  rw [Task.dispatchedOn, Bool.and_eq_true, beq_iff_eq] at on
  obtain ⟨dispatched, home⟩ := on
  cases k with
  | calling c =>
    have dispatched : c.dispatched = true := dispatched
    have home : s.instances[c.on]?.map (·.module) = some j := home
    obtain ⟨i, hi, hj⟩ := Option.map_eq_some_iff.mp home
    have inside : (Task.calling c).IsInside c.on := by
      refine ⟨rfl, fun hs => ?_, fun r hs => ?_⟩ <;> simp [Call.dispatched, hs] at dispatched
    have counted := (hr.orderly.books c.on i hi).inside
    have pos := standings_pos ht c.on
    have none := idle i (List.mem_of_getElem? hi) hj
    rcases inside.standingTo with standing | standing <;> rw [standing] at pos <;> omega
  | opening | shutting | dropping | hooking | visiting => cases dispatched

end System

end ModuleHost
