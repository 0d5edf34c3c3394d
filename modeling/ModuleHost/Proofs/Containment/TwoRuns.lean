import ModuleHost.Proofs.Containment.Visits

/-!
# Panics are contained

Two runs side by side: the second one has the contained modules in place of the first one's, and makes
the same moves, except that it waits where the first one tells of a panic (`System.Echoes`).
`System.Doubles` says where the two runs can come to together. What the second run has at any time is
the counterpart of what the first one has (`System.Trims`), so that nothing breaks off in either of
them, and they agree on everything but notices (`panics_contained`).
-/
namespace ModuleHost

open Boundary

/-! ## Tasks -/

/-- The counterpart of a task. -/
inductive Task.Trims (tell : Payload → String) : Task → Task → Prop
  | opening (o : Opening) {st : OpenStage} :
      st.Proper → Trims tell (.opening o st) (.opening o (st.contained tell))
  | calling {c c' : Call} : c.Trims tell c' → Trims tell (.calling c) (.calling c')
  | shutting (on : Nat) {σ : ShutdownStage} :
      σ.Proper → Trims tell (.shutting on σ) (.shutting on (σ.contained tell))
  | dropping (on : Nat) {σ : ShutdownStage} :
      σ.Proper → Trims tell (.dropping on σ) (.dropping on (σ.contained tell))
  | hooking (module : Nat) (h : Hook) {st : HookStage} :
      st.Proper → Trims tell (.hooking module h st) (.hooking module h (st.contained tell))
  | visiting (module : Nat) {v v' : Visit} :
      v.Trims tell v' → Trims tell (.visiting module v) (.visiting module v')

namespace Task

/-- The operation that a handler is about to perform. -/
def next? : Task → Option ModuleOp
  | .calling c => c.next?
  | .visiting _ v => v.next?
  | _ => none

variable {tell : Payload → String} {k k' k₁ : Task} {i i₁ : Instance} {m m₁ : Module}
  {events : List Event}

theorem Trims.on? (trims : k.Trims tell k') : k'.on? = k.on? := by
  cases trims with
  | opening o proper => exact OpenStage.on?_contained _
  | calling trims =>
    obtain ⟨v, rfl⟩ := trims.same
    rfl
  | shutting | dropping | hooking | visiting => rfl

theorem Trims.direct? (trims : k.Trims tell k') : k'.direct? = k.direct? := by
  cases trims <;> rfl

/-- A task that is at a stage which no panic leaves: its counterpart takes the same step. -/
theorem Trims.stepOn_stage {S : Type} {wrap : S → Task} {contained : S → S} {Proper : S → Prop}
    {step step' : Option (S × Instance × Module × List Event)}
    (task : ∀ st, Proper st → (wrap st).Trims tell (wrap (contained st)))
    (counterpart : ∀ st₁ i₁ m₁ events, step = some (st₁, i₁, m₁, events) →
      Proper st₁ ∧ ∃ events', step' = some (contained st₁, i₁, m₁.contained tell, events') ∧
        withoutNotices events' = withoutNotices events)
    (hs : step.map (fun (st, i, m, events) => (wrap st, i, m, events)) =
      some (k₁, i₁, m₁, events)) :
    ∃ k₁' events', step'.map (fun (st, i, m, events) => (wrap st, i, m, events)) =
        some (k₁', i₁, m₁.contained tell, events') ∧ k₁.Trims tell k₁' ∧
        withoutNotices events' = withoutNotices events := by
  simp only [Option.map_eq_some_iff, Prod.mk.injEq] at hs
  obtain ⟨⟨st₁, i₁, m₁, events⟩, hs, rfl, rfl, rfl, rfl⟩ := hs
  obtain ⟨proper, events', stepped, quiet⟩ := counterpart _ _ _ _ hs
  refine ⟨wrap (contained st₁), events', ?_, task st₁ proper, quiet⟩
  simp only [stepped, Option.map_some]

/-- **A step on an instance**: the counterpart takes it as well, or has no need to. -/
theorem Trims.stepOn (standard : m.Standard) (trims : k.Trims tell k')
    (hs : k.stepOn i m = some (k₁, i₁, m₁, events)) :
    k.next? = k'.next? ∧ (∃ k₁' events', k'.stepOn i (m.contained tell) =
        some (k₁', i₁, m₁.contained tell, events') ∧ k₁.Trims tell k₁' ∧
        withoutNotices events' = withoutNotices events) ∨
      k.next? ≠ k'.next? ∧ k₁.Trims tell k' ∧ i₁ = i ∧ m₁ = m ∧ withoutNotices events = [] := by
  cases trims with
  | opening o proper =>
    exact .inl ⟨rfl, Trims.stepOn_stage (fun _ => .opening o)
      (fun _ _ _ _ hs => Opening.stepLate_contained tell standard proper hs) hs⟩
  | calling trims =>
    simp only [Task.stepOn, Option.map_eq_some_iff, Prod.mk.injEq] at hs
    obtain ⟨⟨c₁, i₁, m₁, events⟩, hs, rfl, rfl, rfl, rfl⟩ := hs
    rcases trims.step standard hs with ⟨same, c₁', events', counterpart, trims₁, quiet⟩ |
      ⟨differs, trims₁, rest⟩
    · refine .inl ⟨same, _, events', ?_, .calling trims₁, quiet⟩
      simp only [Task.stepOn, counterpart, Option.map_some]
    · exact .inr ⟨differs, .calling trims₁, rest⟩
  | shutting on proper =>
    exact .inl ⟨rfl, Trims.stepOn_stage (fun _ => .shutting on)
      (fun _ _ _ _ hs => ShutdownStage.step_contained tell standard proper hs) hs⟩
  | dropping on proper =>
    exact .inl ⟨rfl, Trims.stepOn_stage (fun _ => .dropping on)
      (fun _ _ _ _ hs => ShutdownStage.step_contained tell standard proper hs) hs⟩
  | hooking | visiting => cases hs

theorem Trims.stepIn (standard : m.Standard) (trims : k.Trims tell k')
    (hs : k.stepIn m = some (k₁, m₁, events)) :
    k.next? = k'.next? ∧ (∃ k₁' events', k'.stepIn (m.contained tell) =
        some (k₁', m₁.contained tell, events') ∧ k₁.Trims tell k₁' ∧
        withoutNotices events' = withoutNotices events) ∨
      k.next? ≠ k'.next? ∧ k₁.Trims tell k' ∧ m₁ = m ∧ withoutNotices events = [] := by
  cases trims with
  | hooking module h proper =>
    simp only [Task.stepIn, Option.map_eq_some_iff, Prod.mk.injEq] at hs
    obtain ⟨⟨st₁, m₁, events⟩, hs, rfl, rfl, rfl⟩ := hs
    obtain ⟨proper₁, events', counterpart, quiet⟩ :=
      HookStage.step_contained tell standard proper hs
    refine .inl ⟨rfl, _, events', ?_, .hooking module h proper₁, quiet⟩
    simp only [Task.stepIn, counterpart, Option.map_some]
  | visiting module trims =>
    simp only [Task.stepIn, Option.map_eq_some_iff, Prod.mk.injEq] at hs
    obtain ⟨⟨v₁, m₁, events⟩, hs, rfl, rfl, rfl⟩ := hs
    rcases trims.step standard hs with ⟨same, v₁', events', counterpart, trims₁, quiet⟩ |
      ⟨differs, trims₁, rest⟩
    · refine .inl ⟨same, _, events', ?_, .visiting module trims₁, quiet⟩
      simp only [Task.stepIn, counterpart, Option.map_some]
    · exact .inr ⟨differs, .visiting module trims₁, rest⟩
  | opening | calling | shutting | dropping => cases hs

end Task

/-! ## Broken tasks -/

/-- A panic has left the entry point, or a promise between host and module was found broken. -/
def VisitStage.Broken : VisitStage → Prop
  | .faulted _ | .escaped => True
  | _ => False

def HookStage.Broken : HookStage → Prop
  | .escaped => True
  | _ => False

def ShutdownStage.Broken : ShutdownStage → Prop
  | .unloading _ h => h.Broken
  | .escaped => True
  | _ => False

def OpenStage.Broken : OpenStage → Prop
  | .probing h | .loading _ h => h.Broken
  | .abandoning _ _ σ | .dropping _ _ σ => σ.Broken
  | .escaped => True
  | _ => False

def CallStage.Broken : CallStage → Prop
  | .escaped => True
  | _ => False

def Task.Broken : Task → Prop
  | .opening _ st => st.Broken
  | .calling c => c.stage.Broken ∨ c.visit.stage.Broken
  | .shutting _ σ | .dropping _ σ => σ.Broken
  | .hooking _ _ st => st.Broken
  | .visiting _ v => v.stage.Broken

section
variable {tell : Payload → String}

theorem HookStage.Proper.sound {h : HookStage} (proper : h.Proper) :
    ¬ h.Broken ∧ ¬ (h.contained tell).Broken := by
  cases h with
  | escaped => exact proper.elim
  | _ => exact ⟨id, id⟩

theorem ShutdownStage.Proper.sound {σ : ShutdownStage} (proper : σ.Proper) :
    ¬ σ.Broken ∧ ¬ (σ.contained tell).Broken := by
  cases σ with
  | unloading inside h => exact HookStage.Proper.sound proper
  | escaped => exact proper.elim
  | _ => exact ⟨id, id⟩

theorem OpenStage.Proper.sound {st : OpenStage} (proper : st.Proper) :
    ¬ st.Broken ∧ ¬ (st.contained tell).Broken := by
  cases st with
  | probing h | loading on h => exact HookStage.Proper.sound proper
  | abandoning on code σ | dropping on code σ => exact ShutdownStage.Proper.sound proper
  | escaped => exact proper.elim
  | _ => exact ⟨id, id⟩

theorem VisitStage.Trims.sound {st st' : VisitStage} (trims : st.Trims tell st') :
    ¬ st.Broken ∧ ¬ st'.Broken := by
  cases trims <;> exact ⟨id, id⟩

theorem Call.Trims.sound {c c' : Call} (trims : c.Trims tell c') :
    ¬ (c.stage.Broken ∨ c.visit.stage.Broken) ∧ ¬ (c'.stage.Broken ∨ c'.visit.stage.Broken) := by
  obtain ⟨⟨v, rfl⟩, visit, -, whole⟩ := trims
  have stage : ¬ c.stage.Broken := by
    cases hs : c.stage with
    | escaped => exact absurd hs whole
    | _ => exact id
  exact ⟨not_or.mpr ⟨stage, visit.stage.sound.1⟩, not_or.mpr ⟨stage, visit.stage.sound.2⟩⟩

theorem Task.Trims.sound {k k' : Task} (trims : k.Trims tell k') : ¬ k.Broken ∧ ¬ k'.Broken := by
  cases trims with
  | opening o proper => exact proper.sound
  | calling trims => exact trims.sound
  | shutting on proper | dropping on proper => exact proper.sound
  | hooking module h proper => exact proper.sound
  | visiting module trims => exact trims.stage.sound

/-! ## What can be seen of a task -/

/-- The request, the response and the target that a thread works on. -/
def Task.data? : Task → Option CallData
  | .calling c => some c.visit.data
  | .visiting _ v => some v.data
  | _ => none

theorem Visit.Trims.data {v v' : Visit} (trims : v.Trims tell v') :
    v'.data = v.data ∧ v'.proxy = v.proxy := by
  obtain ⟨stage, rfl⟩ := trims.same
  exact ⟨rfl, rfl⟩

theorem Task.Trims.data? {k k' : Task} (trims : k.Trims tell k') : k'.data? = k.data? := by
  cases trims with
  | calling trims => exact congrArg some trims.visit.data.1
  | visiting module trims => exact congrArg some trims.data.1
  | opening | shutting | dropping | hooking => rfl

theorem Task.Trims.report? {k k' : Task} (trims : k.Trims tell k') : k'.report? = k.report? := by
  cases trims with
  | @opening o st proper => cases st <;> rfl
  | @calling c c' trims =>
    obtain ⟨v, rfl⟩ := trims.same
    obtain ⟨data, proxy⟩ : v.data = c.visit.data ∧ v.proxy = c.visit.proxy := trims.visit.data
    simp only [Task.report?, data, proxy]
  | @shutting on σ proper => cases σ <;> rfl
  | @dropping on σ proper => cases σ <;> rfl
  | @hooking module h st proper => cases st <;> rfl
  | @visiting module v v' trims =>
    obtain ⟨proxy, errand, handles, given, data, stage⟩ := v
    obtain ⟨⟨stage', rfl⟩, stages, -⟩ := trims
    cases stages <;> rfl

theorem Task.IsNew.trims {k : Task} (new : k.IsNew)
    (sound : ∀ j v, k = .visiting j v → v.handles.Sound) : k.Trims tell k := by
  have fresh {v : Visit} (entering : v.stage = .entering) (sound : v.handles.Sound) :
      v.Trims tell v := by
    refine ⟨⟨v.stage, rfl⟩, ?_, fun _ => sound, by simp [entering, VisitStage.program?]⟩
    rw [entering]
    exact .entering
  cases k with
  | opening o st =>
    have arriving : st = .arriving := new
    subst arriving
    exact .opening o trivial
  | calling c =>
    obtain ⟨proxy, request, response, errand, hc⟩ := new
    rw [hc]
    exact .calling ⟨⟨_, rfl⟩, fresh rfl Handles.sound_empty, by simp [Call.start],
      by simp [Call.start]⟩
  | shutting on σ =>
    have arriving : σ = .arriving := new
    subst arriving
    exact .shutting on trivial
  | dropping on σ =>
    have arriving : σ = .arriving := new
    subst arriving
    exact .dropping on trivial
  | hooking module h st =>
    have entering : st = .entering := new
    subst entering
    exact .hooking module h trivial
  | visiting module v => exact .visiting module (fresh new (sound module v rfl))

end

/-! ## Two runs -/

namespace System

/-- The modules are built from handlers, and who calls a request entry past any instance passes
handles that the host has made, or none. -/
structure Standard (s : System) : Prop where
  modules : ∀ m ∈ s.modules, m.Standard
  visits : ∀ j v, Task.visiting j v ∈ s.threads → v.handles.Sound

/-- The operation that the handler on thread `t` is about to perform. -/
def next? (s : System) (t : Nat) : Option ModuleOp := s.threads[t]?.bind Task.next?

/-- A move of the first run and what the second one does then: the same with contained modules.
Where the handlers of a thread are about to perform different operations, the first one is still
telling of its panic, and the second one waits. -/
inductive Echoes (tell : Payload → String) (s s' : System) : System → System → Prop
  | install (m : Module) :
      m.context = {} → Echoes tell s s' (s.addModule m) (s'.addModule (m.contained tell))
  | begin (k : Task) :
      k.IsNew → (∀ n, k.on? = some n → s.HandedOut n) → Echoes tell s s' (s.spawn k) (s'.spawn k)
  | again (t : Nat) (c d : Call) (r : Except HostError Unit) :
      s.threads[t]? = some (.calling c) → c.stage = .done r → (Task.calling d).IsNew →
      s.HandedOut d.on → Echoes tell s s' (s.assign t (.calling d)) (s'.assign t (.calling d))
  | step (t : Nat) (s₁ s₁' : System) :
      s.next? t = s'.next? t → s.step t = some s₁ → s'.step t = some s₁' → Echoes tell s s' s₁ s₁'
  | tells (t : Nat) (s₁ : System) :
      s.next? t ≠ s'.next? t → s.step t = some s₁ → Echoes tell s s' s₁ s'

/-- Where the two runs can come to together. -/
inductive Doubles (tell : Payload → String) : System → System → Prop
  | start : Doubles tell {} {}
  | move {s s' s₁ s₁' : System} :
      Doubles tell s s' → Echoes tell s s' s₁ s₁' → Doubles tell s₁ s₁'

/-- The history without notices. -/
def heard (s : System) : List Happening := s.history.filter fun x => !(x.event matches .notice _)

/-- What two runs agree on: the instances with their counters, the state of the modules, what every
task has come to, what every call has before it, and all that happened but for notices. -/
structure Agrees (s s' : System) : Prop where
  instances : s'.instances = s.instances
  contexts : s'.modules.map Module.context = s.modules.map Module.context
  reports : ∀ t : Nat, s'.report? t = s.report? t
  data : ∀ t : Nat, s'.threads[t]?.bind Task.data? = s.threads[t]?.bind Task.data?
  heard : s'.heard = s.heard

/-- What the second run has is the counterpart of what the first one has. -/
structure Trims (tell : Payload → String) (s s' : System) : Prop where
  modules : s'.modules = s.modules.map (Module.contained tell)
  instances : s'.instances = s.instances
  length : s'.threads.length = s.threads.length
  threads : ∀ (t : Nat) (k : Task), s.threads[t]? = some k →
    ∃ k', s'.threads[t]? = some k' ∧ k.Trims tell k'
  heard : s'.heard = s.heard

variable {tell : Payload → String} {s s' s₁ s₁' : System} {t : Nat}

theorem heard_turn (s : System) (t module : Nat) (on : Option Nat) (k : Task) (m : Module)
    (instances : List Instance) (events : List Event) :
    (s.turn t module on k m instances events).heard =
      ((withoutNotices events).map fun e => ⟨t, module, on, e⟩).reverse ++ s.heard := by
  simp only [heard, turn_history, List.filter_append, List.filter_reverse, List.filter_map,
    withoutNotices]
  rfl

namespace Trims

theorem module (trims : s.Trims tell s') {j : Nat} {m : Module} (hm : s.modules[j]? = some m) :
    s'.modules[j]? = some (m.contained tell) := by
  rw [trims.modules, List.getElem?_map, hm, Option.map_some]

theorem none_iff (trims : s.Trims tell s') (t : Nat) :
    s'.threads[t]? = none ↔ s.threads[t]? = none := by
  simp only [List.getElem?_eq_none_iff, trims.length]

theorem bind_threads {α : Type} {f : Task → Option α} (trims : s.Trims tell s')
    (same : ∀ k k', k.Trims tell k' → f k' = f k) (t : Nat) :
    s'.threads[t]?.bind f = s.threads[t]?.bind f := by
  cases hk : s.threads[t]? with
  | none => rw [(trims.none_iff t).mpr hk]
  | some k =>
    obtain ⟨k', hk', trims⟩ := trims.threads t k hk
    rw [hk']
    exact same k k' trims

theorem agrees (trims : s.Trims tell s') : s.Agrees s' where
  instances := trims.instances
  contexts := by
    rw [trims.modules, List.map_map]
    rfl
  reports := trims.bind_threads fun _ _ trims => trims.report?
  data := trims.bind_threads fun _ _ trims => trims.data?
  heard := trims.heard

theorem sound (trims : s.Trims tell s') :
    (∀ k ∈ s.threads, ¬ k.Broken) ∧ ∀ k ∈ s'.threads, ¬ k.Broken := by
  refine ⟨fun k hk => ?_, fun k' hk' => ?_⟩
  · obtain ⟨t, ht⟩ := List.mem_iff_getElem?.mp hk
    obtain ⟨k', -, trims⟩ := trims.threads t k ht
    exact trims.sound.1
  · obtain ⟨t, ht⟩ := List.mem_iff_getElem?.mp hk'
    cases hk : s.threads[t]? with
    | none => cases ht.symm.trans ((trims.none_iff t).mpr hk)
    | some k =>
      obtain ⟨k'', hk'', trims⟩ := trims.threads t k hk
      obtain rfl := Option.some.inj (ht.symm.trans hk'')
      exact trims.sound.2

theorem handedOut (trims : s.Trims tell s') {n : Nat} (h : s.HandedOut n) : s'.HandedOut n := by
  obtain ⟨o, ho⟩ := h
  obtain ⟨t, ht⟩ := List.mem_iff_getElem?.mp ho
  obtain ⟨k', hk', trims⟩ := trims.threads t _ ht
  cases trims with
  | opening _ proper => exact ⟨o, List.mem_of_getElem? hk'⟩

theorem turn (trims : s.Trims tell s') {j : Nat} {on : Option Nat} {k₁ k₁' : Task} {m₁ : Module}
    {instances : List Instance} {events events' : List Event} (task : k₁.Trims tell k₁')
    (quiet : withoutNotices events' = withoutNotices events) :
    (s.turn t j on k₁ m₁ instances events).Trims tell
      (s'.turn t j on k₁' (m₁.contained tell) instances events') where
  modules := by simp only [turn_modules, trims.modules, List.map_set]
  instances := rfl
  length := by simp only [turn_threads, List.length_set, trims.length]
  threads u k hk := by
    rcases of_getElem?_set hk with ⟨rfl, rfl⟩ | ⟨ne, old⟩
    · have here : u < s.threads.length := by simpa using (List.getElem?_eq_some_iff.mp hk).1
      exact ⟨k₁', List.getElem?_set_self (trims.length ▸ here), task⟩
    · obtain ⟨k', hk', task'⟩ := trims.threads u k old
      exact ⟨k', (List.getElem?_set_ne (Ne.symm ne)).trans hk', task'⟩
  heard := by rw [heard_turn, heard_turn, quiet, trims.heard]

theorem aside (trims : s.Trims tell s') {j : Nat} {on : Option Nat} {k₁ k' : Task} {m : Module}
    {events : List Event} (hm : s.modules[j]? = some m) (hk' : s'.threads[t]? = some k')
    (task : k₁.Trims tell k') (quiet : withoutNotices events = []) :
    (s.turn t j on k₁ m s.instances events).Trims tell s' where
  modules := by rw [turn_modules, set_same hm, trims.modules]
  instances := trims.instances
  length := by simp only [turn_threads, List.length_set, trims.length]
  threads u k hk := by
    rcases of_getElem?_set hk with ⟨rfl, rfl⟩ | ⟨-, old⟩
    · exact ⟨k', hk', task⟩
    · exact trims.threads u k old
  heard := by rw [heard_turn, quiet, trims.heard]; rfl

/-- **A step of the first run** is one of the second run as well, or has no need of one. -/
theorem step (trims : s.Trims tell s') (standard : s.Standard) (hs : s.step t = some s₁) :
    s.next? t = s'.next? t ∧ (∃ s₁', s'.step t = some s₁' ∧ s₁.Trims tell s₁') ∨
      s.next? t ≠ s'.next? t ∧ s₁.Trims tell s' := by
  cases step_cases hs with
  | early o st st' made m m' events ht hon hm hstep =>
    obtain ⟨k', ht', task⟩ := trims.threads t _ ht
    cases task with
    | opening _ proper =>
      obtain ⟨proper', events', counterpart, quiet⟩ := Opening.stepEarly_contained tell
        (standard.modules m (List.mem_of_getElem? hm)) proper hstep
      rw [← trims.instances] at counterpart
      refine .inl ⟨by simp only [next?, ht, ht', Option.bind_some, Task.next?], _,
        step_early ht' ((OpenStage.on?_contained st).trans hon) (trims.module hm) counterpart, ?_⟩
      rw [trims.instances]
      exact trims.turn (.opening o proper') quiet
  | late k k₁ n i i₁ m m₁ events ht hon hi hm hstep =>
    obtain ⟨k', ht', task⟩ := trims.threads t k ht
    have next : s.next? t = k.next? := by simp only [next?, ht, Option.bind_some]
    have next' : s'.next? t = k'.next? := by simp only [next?, ht', Option.bind_some]
    rw [next, next']
    rcases task.stepOn (standard.modules m (List.mem_of_getElem? hm)) hstep with
      ⟨same, k₁', events', counterpart, task₁, quiet⟩ | ⟨differs, task₁, rfl, rfl, quiet⟩
    · refine .inl ⟨same, _, step_late ht' (task.on?.trans hon) (trims.instances ▸ hi)
        (trims.module hm) counterpart, ?_⟩
      rw [trims.instances]
      exact trims.turn task₁ quiet
    · rw [set_same hi]
      exact .inr ⟨differs, trims.aside hm ht' task₁ quiet⟩
  | direct k k₁ j m m₁ events ht hd hm hstep =>
    obtain ⟨k', ht', task⟩ := trims.threads t k ht
    have next : s.next? t = k.next? := by simp only [next?, ht, Option.bind_some]
    have next' : s'.next? t = k'.next? := by simp only [next?, ht', Option.bind_some]
    rw [next, next']
    rcases task.stepIn (standard.modules m (List.mem_of_getElem? hm)) hstep with
      ⟨same, k₁', events', counterpart, task₁, quiet⟩ | ⟨differs, task₁, rfl, quiet⟩
    · refine .inl ⟨same, _, step_direct ht' (task.direct?.trans hd) (trims.module hm) counterpart, ?_⟩
      rw [trims.instances]
      exact trims.turn task₁ quiet
    · exact .inr ⟨differs, trims.aside hm ht' task₁ quiet⟩

end Trims

theorem Echoes.move (h : Echoes tell s s' s₁ s₁') : Move s s₁ := by
  cases h with
  | install m untouched => exact .install s m untouched
  | begin k new handed => exact .begin s k new handed
  | again t c d r ht done new handed => exact .again s t c d r ht done new handed
  | step t s₁ s₁' _ hs | tells t s₁ _ hs => exact .step s s₁ t hs

theorem Standard.before (hr : Run s) (h : Move s s₁) (standard : s₁.Standard) : s.Standard := by
  refine ⟨fun m hm => ?_, fun j v hv => ?_⟩
  · obtain ⟨j, hj⟩ := List.mem_iff_getElem?.mp hm
    obtain ⟨m₁, hm₁, same⟩ := h.code hr hj
    have after := standard.modules m₁ (List.mem_of_getElem? hm₁)
    exact ⟨same.code ▸ after.code, same.probe ▸ after.probe⟩
  · obtain ⟨t, ht⟩ := List.mem_iff_getElem?.mp hv
    rcases h.task_before ht with still | ⟨c, r, called, -⟩ | hs
    · exact standard.visits j v (List.mem_of_getElem? still)
    · cases called
    · cases step_cases hs with
      | early o st st' made m m' events hk => cases ht.symm.trans hk
      | late k k' n i i' m m' events hk hon =>
        obtain rfl := Option.some.inj (ht.symm.trans hk)
        cases hon
      | direct k k' j' m m' events hk hd hm hstep =>
        obtain rfl := Option.some.inj (ht.symm.trans hk)
        simp only [Task.stepIn, Option.map_eq_some_iff, Prod.mk.injEq] at hstep
        obtain ⟨⟨v', m', events⟩, hstep, rfl, rfl, rfl⟩ := hstep
        have after := standard.visits j v' (List.mem_of_getElem?
          (List.getElem?_set_self (List.getElem?_eq_some_iff.mp ht).1))
        rw [(Visit.step_frame hstep).1] at after
        exact after

/-- **One move of both runs** keeps the second one the counterpart of the first one. -/
theorem Trims.echo (trims : s.Trims tell s') (standard : s.Standard) (standard₁ : s₁.Standard)
    (h : Echoes tell s s' s₁ s₁') : s₁.Trims tell s₁' := by
  cases h with
  | install m _ =>
    refine ⟨?_, trims.instances, trims.length, trims.threads, trims.heard⟩
    simp only [addModule, trims.modules, List.map_append, List.map_cons, List.map_nil]
  | begin k new _ =>
    have itself : k.Trims tell k := new.trims fun j v hk =>
      standard₁.visits j v (hk ▸ List.mem_append_right _ (List.mem_singleton_self k))
    refine ⟨trims.modules, trims.instances, ?_, fun u k₁ hk => ?_, trims.heard⟩
    · simp only [spawn, List.length_append, trims.length]
    · rcases of_getElem?_concat hk with old | ⟨rfl, rfl⟩
      · obtain ⟨k', hk', task⟩ := trims.threads u k₁ old
        exact ⟨k', (List.getElem?_append_left (List.getElem?_eq_some_iff.mp hk').1).trans hk', task⟩
      · refine ⟨k₁, ?_, itself⟩
        simp only [spawn, ← trims.length, List.getElem?_concat_length]
  | again t c d r ht _ new _ =>
    have itself : (Task.calling d).Trims tell (.calling d) := new.trims (by simp)
    refine ⟨trims.modules, trims.instances, ?_, fun u k₁ hk => ?_, trims.heard⟩
    · simp only [assign, List.length_set, trims.length]
    · rcases of_getElem?_set hk with ⟨rfl, rfl⟩ | ⟨ne, old⟩
      · have here := (List.getElem?_eq_some_iff.mp ht).1
        exact ⟨_, List.getElem?_set_self (trims.length ▸ here), itself⟩
      · obtain ⟨k', hk', task⟩ := trims.threads u k₁ old
        exact ⟨k', (List.getElem?_set_ne (Ne.symm ne)).trans hk', task⟩
  | step t s₁ s₁' same hs hs' =>
    rcases trims.step standard hs with ⟨-, s₂, hs₂, trims₁⟩ | ⟨differs, -⟩
    · obtain rfl := Option.some.inj (hs'.symm.trans hs₂)
      exact trims₁
    · exact absurd same differs
  | tells t s₁ differs hs =>
    rcases trims.step standard hs with ⟨same, -⟩ | ⟨-, trims₁⟩
    · exact absurd same differs
    · exact trims₁

theorem trims_start : Trims tell {} {} := ⟨rfl, rfl, rfl, by simp, rfl⟩

namespace Doubles

theorem run (h : Doubles tell s s') : Run s := by
  induction h with
  | start => exact .refl {}
  | move _ echo ih => exact ih.move echo.move

theorem trims (h : Doubles tell s s') (standard : s.Standard) : s.Trims tell s' := by
  induction h with
  | start => exact trims_start
  | move before echo ih =>
    have earlier := standard.before before.run echo.move
    exact (ih earlier).echo earlier standard echo

theorem run_second (h : Doubles tell s s') (standard : s.Standard) : Run s' := by
  induction h with
  | start => exact .refl {}
  | move before echo ih =>
    have earlier := standard.before before.run echo.move
    have run := ih earlier
    have trims := before.trims earlier
    cases echo with
    | install m untouched => exact run.move (.install _ _ untouched)
    | begin k new handed => exact run.move (.begin _ k new fun n hn => trims.handedOut (handed n hn))
    | again t c d r ht done new handed =>
      obtain ⟨k', ht', task⟩ := trims.threads t _ ht
      cases task with
      | calling call =>
        obtain ⟨v, rfl⟩ := call.same
        exact run.move (.again _ t _ d r ht' done new (trims.handedOut handed))
    | step t s₁ s₁' _ _ hs' => exact run.step hs'
    | tells => exact run

/-- **The second run can follow** each move of the first one. -/
theorem follow (h : Doubles tell s s') (hm : Move s s₁) (standard : s₁.Standard) :
    ∃ s₁', Echoes tell s s' s₁ s₁' := by
  have earlier := standard.before h.run hm
  cases hm with
  | install m untouched => exact ⟨_, .install m untouched⟩
  | begin k new handed => exact ⟨_, .begin k new handed⟩
  | again t c d r ht done new handed => exact ⟨_, .again t c d r ht done new handed⟩
  | step _ t hs =>
    rcases (h.trims earlier).step earlier hs with ⟨same, s₁', hs', -⟩ | ⟨differs, -⟩
    · exact ⟨s₁', .step t s₁ s₁' same hs hs'⟩
    · exact ⟨s', .tells t s₁ differs hs⟩

end Doubles

theorem Run.doubled (tell : Payload → String) (hr : Run s) (standard : s.Standard) :
    ∃ s', Doubles tell s s' := by
  have key : s.Standard → ∃ s', Doubles tell s s' := by
    refine hr.induction (P := fun s => s.Standard → ∃ s', Doubles tell s s')
      (fun _ => ⟨{}, .start⟩) fun s s₁ hr ih hm standard => ?_
    obtain ⟨s', doubles⟩ := ih (standard.before hr hm)
    obtain ⟨s₁', echo⟩ := doubles.follow hm standard
    exact ⟨s₁', .move doubles echo⟩
  exact key standard

/-- **Panics are contained** where the values that they carry are let go quietly. Take any run over
modules that are built from handlers of that kind, and a second run that makes the same moves, but
whose handlers do not panic: where one of the first run panics in its start or shutdown, the one of the
second run fails with some text; where it panics in a request, the other sets status 500 if it sees
none and returns, without an address from a proxy call; and where a destructor panics, the other
finishes. The second run only waits while the first one tells of a panic. Then nothing breaks off in
either run, and at any time the two agree on all instances and their counters, on the state of all
modules, on what every call, shutdown, opening and lifecycle call has come to, on all requests,
responses and targets, and on all that happened but for notices. Every run has such a second run, and
it can follow each further move. -/
theorem panics_contained (tell : Payload → String) :
    (∀ s s' : System, Doubles tell s s' → s.Standard →
      Run s ∧ Run s' ∧ s'.modules = s.modules.map (Module.contained tell) ∧
      (∀ k ∈ s.threads, ¬ k.Broken) ∧ (∀ k ∈ s'.threads, ¬ k.Broken) ∧ s.Agrees s') ∧
    (∀ s : System, Run s → s.Standard → ∃ s', Doubles tell s s') ∧
    (∀ s s' s₁ : System, Doubles tell s s' → Move s s₁ → s₁.Standard →
      ∃ s₁', Echoes tell s s' s₁ s₁') ∧
    ∀ h : Handler, (h.contained tell).Calm := by
  refine ⟨fun s s' doubles standard => ?_, fun s hr standard => hr.doubled tell standard,
    fun s s' s₁ doubles hm standard => doubles.follow hm standard,
    fun h => h.contained_calm tell⟩
  have trims := doubles.trims standard
  exact ⟨doubles.run, doubles.run_second standard, trims.modules, trims.sound.1, trims.sound.2,
    trims.agrees⟩

/-- A handler that panics in its first start, and from then on in everything else. -/
def sampleFragile : Handler :=
  { init := fun n => if n = 0 then .panic (.text "too early") else .ret (.ok ()),
    handle := fun _ => (View.writeText "half").bind fun _ => .panic (.text "no way on"),
    shutdown := fun _ => .panic .other,
    drop := .panic .other }

/-- Thread 0 has tried to open an instance on that handler, and thread 1 has opened one. -/
def sampleShaken : System :=
  (((((({} : System).addModule { code := .handler sampleFragile }).spawn
    (.opening sampleOpening .arriving)).steps (List.replicate 23 0)).getD {}).spawn
      (.opening sampleOpening .arriving)).steps (List.replicate 11 1) |>.getD {}

/-- Thread 2 has called it. -/
def sampleUpset : System :=
  ((sampleShaken.spawn (.calling (.start 1 false {} {} {}))).steps (List.replicate 13 2)).getD {}

/-- Thread 3 has shut it down. -/
def sampleFallen : System :=
  ((sampleUpset.spawn (.shutting 1 .arriving)).steps (List.replicate 12 3)).getD {}

theorem run_sampleFallen : Run sampleFallen := by
  have failed := (run_opening (m := { code := .handler sampleFragile }) rfl).later
    (later_of_steps (List.replicate 23 0) rfl)
  have again := failed.move
    (.begin _ (.opening sampleOpening .arriving) rfl (by simp [Task.on?, OpenStage.on?]))
  have opened : Run sampleShaken := again.later (later_of_steps (List.replicate 11 1) rfl)
  have out : sampleShaken.HandedOut 1 := ⟨_, List.mem_of_getElem? (i := 1) rfl⟩
  have called : Run sampleUpset :=
    (opened.move (.begin _ (.calling (.start 1 false {} {} {})) ⟨_, _, _, _, rfl⟩
      fun n hn => by cases hn; exact out)).later (later_of_steps (List.replicate 13 2) rfl)
  have still : sampleUpset.HandedOut 1 := ⟨_, List.mem_of_getElem? (i := 1) rfl⟩
  exact (called.move (.begin _ (.shutting 1 .arriving) rfl
    fun n hn => by cases hn; exact still)).later (later_of_steps (List.replicate 12 3) rfl)

theorem standard_sampleFallen : sampleFallen.Standard := by
  refine ⟨fun m hm => ?_, fun j v hv => ?_⟩
  · have codes : sampleFallen.modules.map Module.code = [.handler sampleFragile] := rfl
    have probes : sampleFallen.modules.map Module.probe = [.ret abiVersion] := rfl
    have code := List.mem_map_of_mem (f := Module.code) hm
    have probe := List.mem_map_of_mem (f := Module.probe) hm
    rw [codes, List.mem_singleton] at code
    rw [probes, List.mem_singleton] at probe
    exact ⟨⟨_, code, fun _ _ _ => rfl, fun _ => ⟨trivial, fun _ => trivial⟩⟩, probe⟩
  · have none : sampleFallen.threads.all fun k => k.direct?.isNone := by decide +kernel
    cases List.all_eq_true.mp none _ hv

theorem panics_contained_sample : ∃ s' : System,
    Doubles Payload.message sampleFallen s' ∧ Run s' ∧ (∀ k ∈ sampleFallen.threads, ¬ k.Broken) ∧
    s'.report? 0 = some (.opened (.error (.initFailed "sample" (-1)))) ∧
    s'.report? 2 =
      some (.called (.ok ()) false ⟨{}, { status := 500, body := [104, 97, 108, 102] }, none⟩) ∧
    s'.report? 3 = some (.shutDown (.completed 0 true)) ∧
    s'.modules.map Module.context =
      [{ slot := .tornDown, generation := 1, calls := 1, starts := 2 }] := by
  obtain ⟨agree, doubled, -⟩ := panics_contained Payload.message
  obtain ⟨s', doubles⟩ := doubled _ run_sampleFallen standard_sampleFallen
  obtain ⟨-, run, -, whole, -, same⟩ := agree _ s' doubles standard_sampleFallen
  exact ⟨s', doubles, run, whole, (same.reports 0).trans rfl, (same.reports 2).trans rfl,
    (same.reports 3).trans rfl, same.contexts.trans rfl⟩

/-! ## A value that is not let go quietly -/

/-- The turn of a thread in both runs: the second one waits where the first one tells of a panic. -/
def echo (both : System × System) (t : Nat) : Option (System × System) :=
  (both.1.step t).bind fun s₁ =>
    if both.1.next? t = both.2.next? t then (both.2.step t).map (s₁, ·) else some (s₁, both.2)

theorem Doubles.echo (h : Doubles tell s s') (hs : System.echo (s, s') t = some (s₁, s₁')) :
    Doubles tell s₁ s₁' := by
  simp only [System.echo, Option.bind_eq_some_iff] at hs
  obtain ⟨s₂, stepped, hs⟩ := hs
  split at hs
  · rename_i same
    simp only [Option.map_eq_some_iff, Prod.mk.injEq] at hs
    obtain ⟨s₂', stepped', rfl, rfl⟩ := hs
    exact h.move (.step t s₂ s₂' same stepped stepped')
  · rename_i differs
    cases hs
    exact h.move (.tells t s₁ differs stepped)

theorem Doubles.echoes (ts : List Nat) :
    ∀ {s s' : System}, Doubles tell s s' → ts.foldlM System.echo (s, s') = some (s₁, s₁') →
      Doubles tell s₁ s₁' := by
  induction ts with
  | nil =>
    intro s s' h hs
    cases hs
    exact h
  | cons t ts ih =>
    intro s s' h hs
    simp only [List.foldlM_cons, Option.bind_eq_bind, Option.bind_eq_some_iff] at hs
    obtain ⟨⟨s₂, s₂'⟩, first, rest⟩ := hs
    exact ih (h.echo first) rest

/-- A handler that panics with a value whose destructor panics. -/
def sampleRigged : Module where
  code := .handler { init := fun _ => .ret (.ok ()), handle := fun _ => .panic .other }
    { payload := fun p => p matches .other _ }

/-- Thread 0 has opened an instance on it, in both runs. -/
def sampleRiggedOpened : System × System :=
  ((List.replicate 11 0).foldlM echo
    ((({} : System).addModule sampleRigged).spawn (.opening sampleOpening .arriving),
      (({} : System).addModule (sampleRigged.contained Payload.message)).spawn
        (.opening sampleOpening .arriving))).getD ({}, {})

/-- Thread 1 has called it, as far as it comes. -/
def sampleRiggedCalled : System × System :=
  ((List.replicate 10 1).foldlM echo
    (sampleRiggedOpened.1.spawn (.calling (.start 0 false {} {} {})),
      sampleRiggedOpened.2.spawn (.calling (.start 0 false {} {} {})))).getD ({}, {})

theorem doubles_sampleRiggedCalled :
    Doubles Payload.message sampleRiggedCalled.1 sampleRiggedCalled.2 := by
  have installed : Doubles Payload.message _ _ := .move .start (.install sampleRigged rfl)
  have asked := installed.move
    (.begin (.opening sampleOpening .arriving) rfl (by simp [Task.on?, OpenStage.on?]))
  have opened : Doubles Payload.message sampleRiggedOpened.1 sampleRiggedOpened.2 :=
    asked.echoes (List.replicate 11 0) rfl
  have out : sampleRiggedOpened.1.HandedOut 0 := ⟨_, List.mem_of_getElem? (i := 0) rfl⟩
  have called := opened.move (.begin (.calling (.start 0 false {} {} {})) ⟨_, _, _, _, rfl⟩
    fun n hn => by cases hn; exact out)
  exact called.echoes (List.replicate 10 1) rfl

/-- **Where the value of a panic is not let go quietly**, the panic leaves the entry point: the call is
stuck there, while that of the handler which does not panic has left the module with status 500. -/
theorem panic_escapes : ¬ ∀ s s' : System, Doubles Payload.message s s' →
    (∀ m ∈ s.modules, m.probe = .ret abiVersion ∧ ∃ (h : Handler) (drops : Drops),
      m.code = .handler h drops ∧ h.Straight ∧ ∀ e, (h.handle e).Asks ViewOp.ReadsUri) →
    (∀ j v, Task.visiting j v ∈ s.threads → v.handles.Sound) →
    (∀ k ∈ s.threads, ¬ k.Broken) ∨ s.Agrees s' := by
  intro contained
  have modules : sampleRiggedCalled.1.modules.map (fun m => (m.code, m.probe)) =
    [(sampleRigged.code, .ret abiVersion)] := rfl
  have idle : sampleRiggedCalled.1.threads.all fun k => k.direct?.isNone := by decide +kernel
  obtain ⟨k, here, broken⟩ : ∃ k, sampleRiggedCalled.1.threads[1]? = some k ∧ k.Broken :=
    ⟨_, rfl, .inl trivial⟩
  have stuck : Happening.mk 1 0 (some 0) (.left .handleRequest) ∉ sampleRiggedCalled.1.heard := by
    decide +kernel
  have left : Happening.mk 1 0 (some 0) (.left .handleRequest) ∈ sampleRiggedCalled.2.heard := by
    decide +kernel
  refine (contained _ _ doubles_sampleRiggedCalled (fun m hm => ?_) fun j v hv => ?_).elim
    (fun whole => whole k (List.mem_of_getElem? here) broken) fun same => stuck (same.heard ▸ left)
  · have code := List.mem_map_of_mem (f := fun m : Module => (m.code, m.probe)) hm
    rw [modules, List.mem_singleton] at code
    obtain ⟨code, probe⟩ := Prod.mk.inj code
    exact ⟨probe, _, _, code, fun _ _ _ => rfl, fun _ => trivial⟩
  · cases List.all_eq_true.mp idle _ hv

end System

end ModuleHost
