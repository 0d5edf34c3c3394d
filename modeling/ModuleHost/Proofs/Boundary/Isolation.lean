import ModuleHost.Proofs.Boundary.Transparency
import ModuleHost.Proofs.Instance.Refusal

/-!
# Calls do not meet

Calls in flight together share their instances' gates, the lock and the counters of a context, and the
handler value in its slot. None of this reaches a handler whose course depends on its own views only
(`Handler.Stateless`): on a live context that no writer wants, each step of such a call is settled by
where the call stands (`Call.step_steady`). Two machines that agree on what calls leave alone
(`System.Keeps`) therefore take the same call through the same steps, whatever other calls do in
between (`Together.lockstep`). With the machine that has this one call only as the second of the two,
that is `calls_independent`.
-/
namespace ModuleHost

open Boundary

/-! ## Programs that do not listen -/

namespace Program

variable {I J : Interface} {α β : Type} {P : I.Op → Prop} {p : Program I α}

/-- Whether the program goes on in the same way after the operations of a kind, whatever they
answer. -/
def Ignores (P : I.Op → Prop) : Program I α → Prop
  | .ret _ | .panic _ => True
  | .ask o next => (P o → ∀ a b, next a = next b) ∧ ∀ a, (next a).Ignores P

theorem Ignores.bind {f : α → Program I β} (h : p.Ignores P) (hf : ∀ a, (f a).Ignores P) :
    (p.bind f).Ignores P := by
  induction p with
  | ret a => exact hf a
  | panic q => exact trivial
  | ask o next ih =>
    refine ⟨fun kind a b => ?_, fun a => ih a (h.2 a)⟩
    simp only [h.1 kind a b]

theorem Ignores.catchPanic {handler : Payload → Program I α} (h : p.Ignores P)
    (hh : ∀ q, (handler q).Ignores P) : (p.catchPanic handler).Ignores P := by
  induction p with
  | ret a => exact trivial
  | panic q => exact hh q
  | ask o next ih =>
    refine ⟨fun kind a b => ?_, fun a => ih a (h.2 a)⟩
    simp only [h.1 kind a b]

end Program

/-- Whether the answer is none of what a handler's own views show: the counter, which all calls of a
module share, and what printing comes to. -/
def ViewOp.Outside : ViewOp → Prop
  | .count | .own (.print _) => True
  | _ => False

/-- The same for an operation of module code. -/
def ModuleOp.Outside : ModuleOp → Prop
  | .count | .own (.print _) => True
  | _ => False

/-- A program whose course depends only on what it reads through its views. -/
def ViewProgram.Stateless {α : Type} (p : ViewProgram α) : Prop :=
  Program.Ignores (I := ViewInterface) ViewOp.Outside p

theorem ViewOp.lower_outside (o : ViewOp) : ∃ (o' : ModuleOp) (read : o'.Answer → o.Answer),
    o.lower = .ask (I := ModuleInterface) o' (fun a => .ret (read a)) ∧ (o'.Outside → o.Outside) := by
  cases o with
  | own o => cases o <;> exact ⟨_, _, rfl, id⟩
  | method | uri | header | body | setUri | status | setStatus | setHeader | writeBody | count
  | pause => exact ⟨_, _, rfl, id⟩

theorem ViewProgram.Stateless.lower {α : Type} {p : ViewProgram α} (h : p.Stateless) :
    p.lower.Ignores ModuleOp.Outside := by
  induction p with
  | ret a | panic q => exact trivial
  | ask o next ih =>
    obtain ⟨o', read, lower, outside⟩ := o.lower_outside
    simp only [ViewProgram.lower, Program.lower]
    rw [lower]
    refine ⟨fun kind a b => ?_, fun a => ih _ (h.2 _)⟩
    simp only [Program.bind, h.1 (outside kind) (read a) (read b)]

namespace Handler

/-- Whether the callback that a call reaches is stateless. -/
def Stateless (h : Handler) (proxy : Bool) (errand : Errand) : Prop :=
  if proxy then (h.proxy errand).Stateless else (h.handle errand).Stateless

theorem afterPanic_ignores {notice : ModuleProgram Notice}
    (h : notice.Ignores ModuleOp.Outside) : (afterPanic notice).Ignores ModuleOp.Outside := by
  refine h.bind fun n => ⟨False.elim, fun _ => ⟨False.elim, fun status => ?_⟩⟩
  simp only [Program.bind]
  split
  · exact ⟨False.elim, fun _ => trivial⟩
  · trivial

theorem setTarget_ignores (address : String) :
    (setTarget address).Ignores ModuleOp.Outside := by
  refine ⟨False.elim, fun stamps => ?_⟩
  simp only [Program.bind]
  split
  · exact ⟨False.elim, fun _ => trivial⟩
  · trivial

theorem Stateless.served {h : Handler} {proxy : Bool} {errand : Errand}
    (stateless : h.Stateless proxy errand) :
    (h.served proxy errand).Ignores ModuleOp.Outside := by
  cases proxy with
  | false =>
    have handle : (h.handle errand).Stateless := stateless
    refine handle.lower.catchPanic fun q => afterPanic_ignores ?_
    exact ⟨False.elim, fun method => ⟨False.elim, fun uri => trivial⟩⟩
  | true =>
    have proxy : (h.proxy errand).Stateless := stateless
    have chosen : (h.chosen errand).Ignores ModuleOp.Outside := by
      refine proxy.lower.catchPanic fun q => ?_
      have reported : (afterPanic (.ret (.proxyPanicked q.message))).Ignores ModuleOp.Outside :=
        afterPanic_ignores trivial
      exact reported.bind fun _ => trivial
    refine chosen.bind fun address => ?_
    cases address with
    | none => trivial
    | some address => exact setTarget_ignores address

end Handler

/-! ## One step -/

/-- The module has a live value of handler `h`, of generation `g`, and no writer wants its lock. -/
structure Module.Serves (h : Handler) (g : Nat) (m : Module) : Prop where
  code : m.code = .handler h
  live : ∃ value, m.context.slot = .live value ∧ value.generation = g
  free : m.context.lock.claimed = false

namespace Module.Serves

variable {h h' : Handler} {g g' : Nat} {m : Module}

theorem unique (serves : m.Serves h g) (serves' : m.Serves h' g') : h' = h ∧ g' = g := by
  obtain ⟨value, slot, rfl⟩ := serves.live
  obtain ⟨value', slot', rfl⟩ := serves'.live
  cases slot.symm.trans slot'
  cases serves.code.symm.trans serves'.code
  exact ⟨rfl, rfl⟩

theorem reader {l : Lock} {calls : Nat} (serves : m.Serves h g) (free : l.claimed = false) :
    (m.setContext { m.context with lock := l, calls := calls }).Serves h g :=
  ⟨serves.code, serves.live, free⟩

theorem count (serves : m.Serves h g) : m.count.2.Serves h g := by
  obtain ⟨value, slot, rfl⟩ := serves.live
  unfold Module.count
  rw [serves.code, slot]
  exact ⟨serves.code, ⟨_, rfl, rfl⟩, serves.free⟩

theorem acquire (serves : m.Serves h g) :
    m.context.lock.acquireRead? = some { m.context.lock with readers := m.context.lock.readers + 1 } := by
  simp only [Lock.acquireRead?, serves.free, Bool.false_eq_true, if_false]

end Module.Serves

/-- What calls leave as it is of an instance. -/
structure Instance.Alike (i j : Instance) : Prop where
  make : i.SameMake j
  state : j.gate.state = i.gate.state

theorem Instance.Alike.trans {i j k : Instance} (h : i.Alike j) (h' : j.Alike k) : i.Alike k :=
  ⟨h.make.trans h'.make, h'.state.trans h.state⟩

/-- A call whose entry point one of them exports is not missing it on the other. -/
theorem Instance.Alike.passes {i j : Instance} {proxy : Bool} (h : i.Alike j)
    (exported : proxy = true → i.exports.proxy = true) : (proxy && !j.exports.proxy) = false := by
  rw [h.make.exports]
  cases proxy with
  | false => rfl
  | true => simp [exported rfl]

/-- An operation comes to the same in every module, but for an answer from outside. -/
theorem Visit.perform_alike (v : Visit) (m m₂ : Module) (o : ModuleOp) :
    (∀ f, v.perform m o = .error f → v.perform m₂ o = .error f) ∧
    ∀ a data m' events, v.perform m o = .ok (a, data, m', events) →
      ∃ a₂ m₂' events₂, v.perform m₂ o = .ok (a₂, data, m₂', events₂) ∧ (¬ o.Outside → a₂ = a) := by
  cases o with
  | host c =>
    simp only [perform]
    split
    · refine ⟨fun f h => h, fun a data m' events h => ?_⟩
      cases h
    · refine ⟨fun f h => ?_, fun a data m' events h => ?_⟩
      · cases h
      · cases h
        exact ⟨_, _, _, rfl, fun _ => rfl⟩
  | own o =>
    refine ⟨fun f h => ?_, fun a data m' events h => ?_⟩
    · cases h
    · simp only [perform, Except.ok.injEq, Prod.mk.injEq] at h
      obtain ⟨rfl, rfl, -, -⟩ := h
      refine ⟨_, _, _, rfl, fun inside => ?_⟩
      cases o with
      | note | report => rfl
      | print line => exact absurd trivial inside
  | count =>
    refine ⟨fun f h => ?_, fun a data m' events h => ?_⟩
    · cases h
    · simp only [perform, Except.ok.injEq, Prod.mk.injEq] at h
      obtain ⟨-, rfl, -, -⟩ := h
      exact ⟨_, _, _, rfl, fun inside => absurd trivial inside⟩
  | stamps | canSetUri =>
    refine ⟨fun f h => ?_, fun a data m' events h => ?_⟩
    · cases h
    · simp only [perform, Except.ok.injEq, Prod.mk.injEq] at h
      obtain ⟨rfl, rfl, -, -⟩ := h
      exact ⟨_, _, _, rfl, fun _ => rfl⟩
  | pause =>
    refine ⟨fun f h => ?_, fun a data m' events h => ?_⟩
    · cases h
    · simp only [perform, Except.ok.injEq, Prod.mk.injEq] at h
      obtain ⟨-, rfl, -, -⟩ := h
      exact ⟨_, _, _, rfl, fun _ => rfl⟩

/-- Whoever looks at the slot finds it live, and begins the handler. -/
theorem Visit.read_serves (v : Visit) {m : Module} {h : Handler} {g : Nat} (serves : m.Serves h g)
    (p : ModuleProgram Unit) (fresh torn : VisitStage) (tornEvents : List Event) :
    ∃ m' events, v.read m p fresh torn tornEvents =
      some ({ v with stage := .running g p }, m', events) := by
  obtain ⟨value, slot, rfl⟩ := serves.live
  unfold read
  rw [serves.acquire, slot]
  exact ⟨_, _, rfl⟩

/-- Where a visit stands that has found the context live, with a program that does not listen. -/
def VisitStage.IsSteady : VisitStage → Prop
  | .entering | .returned | .faulted _ | .escaped => True
  | .firstRead p | .running _ p => p.Ignores ModuleOp.Outside
  | .claiming _ | .draining _ | .initializing _ _ | .secondRead _ | .plain _ => False

/-- A call of a stateless callback, on its way through a live context. -/
structure Call.Steady (h : Handler) (c : Call) : Prop where
  handled : c.Handled
  stateless : h.Stateless c.visit.proxy c.visit.errand
  stage : c.visit.stage.IsSteady

variable {h : Handler} {g : Nat}

/-- **A step inside the entry** leaves the module serving, and is the same in every module that
serves so. -/
theorem Visit.step_steady {v v' : Visit} {m m' : Module} {events : List Event}
    (straight : h.Straight) (stateless : h.Stateless v.proxy v.errand)
    (given : v.handles = Call.handles v.proxy) (steady : v.stage.IsSteady) (serves : m.Serves h g)
    (step : v.step m = some (v', m', events)) :
    v'.stage.IsSteady ∧ m'.Serves h g ∧ ∀ m₂ : Module, m₂.Serves h g →
      ∃ m₂' events₂, v.step m₂ = some (v', m₂', events₂) := by
  rcases step_cases step with ⟨entering, rfl, rfl, rfl⟩ | ⟨stage, data, rfl, passage⟩
  · rw [enter_straight serves.code straight given]
    refine ⟨stateless.served, serves, fun m₂ serves₂ => ⟨m₂, [.entered v.entry], ?_⟩⟩
    simp only [Visit.step, entering, enter_straight serves₂.code straight given]
  cases passage with
  | begun p l value hs hl slot =>
    rcases hs with hs | hs <;> simp only [hs, VisitStage.IsSteady] at steady
    obtain ⟨value', slot', rfl⟩ := serves.live
    cases slot.symm.trans slot'
    refine ⟨steady, serves.reader ?_, fun m₂ serves₂ => ?_⟩
    · rw [serves.acquire] at hl
      cases hl
      exact serves.free
    · simp only [Visit.step, hs]
      exact v.read_serves serves₂ p _ _ _
  | fresh p hs slot | torn p hs slot =>
    obtain ⟨value, slot', -⟩ := serves.live
    cases slot.symm.trans slot'
  | missed p hs | claim p l hs | start p handler drops hs | pass p handler drops hs
  | init p o next hs | built p u hs | failed p i n hs | broke p i r told hs
  | serve o next a data m' events hs | served u hs | escape q hs =>
    simp only [hs, VisitStage.IsSteady] at steady
  | handle g' o next a data m' events hs perform =>
    simp only [hs, VisitStage.IsSteady] at steady
    refine ⟨steady.2 a, ?_, fun m₂ serves₂ => ?_⟩
    · rcases (perform_remarks perform).1 with ⟨n, rfl⟩ | rfl
      · exact ⟨serves.code, serves.live, serves.free⟩
      · exact serves.count
    · obtain ⟨a₂, m₂', events₂, perform₂, same⟩ := (v.perform_alike m m₂ o).2 _ _ _ _ perform
      have resumed : next a₂ = next a := by
        by_cases outside : o.Outside
        · exact steady.1 outside a₂ a
        · rw [same outside]
      refine ⟨m₂', events₂, ?_⟩
      simp only [Visit.step, hs, perform₂, resumed]
  | fault o next f hs perform =>
    rcases hs with ⟨g', hs⟩ | hs
    · refine ⟨trivial, serves, fun m₂ serves₂ => ⟨m₂, [], ?_⟩⟩
      simp only [Visit.step, hs, (v.perform_alike m m₂ o).1 f perform]
    · simp only [hs, VisitStage.IsSteady] at steady
  | ended g' u hs =>
    refine ⟨trivial, serves.reader serves.free, fun m₂ serves₂ => ?_⟩
    simp only [Visit.step, hs]
    exact ⟨_, _, rfl⟩
  | escaped g' q hs =>
    refine ⟨trivial, serves.reader serves.free, fun m₂ serves₂ => ?_⟩
    simp only [Visit.step, hs]
    exact ⟨_, _, rfl⟩

/-- **A step of a call** is the same on every instance that is alike, in every module that serves so,
and leaves both so. -/
theorem Call.step_steady {c c' : Call} {i i' : Instance} {m m' : Module} {events : List Event}
    (straight : h.Straight) (steady : c.Steady h) (serves : m.Serves h g)
    (step : c.step i m = some (c', i', m', events)) :
    c'.Steady h ∧ i.Alike i' ∧ m'.Serves h g ∧ ∀ (i₂ : Instance) (m₂ : Module), i.Alike i₂ →
      m₂.Serves h g → ∃ i₂' m₂' events₂, c.step i₂ m₂ = some (c', i₂', m₂', events₂) := by
  have transition := step_cases step
  have handled := transition.handled steady.handled
  have same : i.Alike i := ⟨.refl i, rfl⟩
  cases transition with
  | missing hs proxy none =>
    refine ⟨⟨handled, steady.stateless, steady.stage⟩, same, serves, fun i₂ m₂ alike _ => ?_⟩
    refine ⟨i₂, m₂, [], ?_⟩
    simp only [Call.step, hs, Call.arrive, proxy, alike.make.exports, none, Bool.not_false,
      Bool.and_true, if_true, alike.make.name]
  | admitted gate hs exported hadmit =>
    obtain ⟨live, live', -⟩ := Gate.admit?_eq_some hadmit
    refine ⟨⟨handled, steady.stateless, trivial⟩, ⟨⟨rfl, rfl, rfl⟩, live'.trans live.symm⟩,
      serves, fun i₂ m₂ alike _ => ?_⟩
    have admits : i₂.gate.admit? = some _ := if_pos (alike.state.trans live)
    simp only [Call.step, hs, Call.arrive, alike.passes exported, admits, Bool.false_eq_true,
      if_false]
    exact ⟨_, _, _, rfl⟩
  | refused hs exported closed =>
    refine ⟨⟨handled, steady.stateless, steady.stage⟩, same, serves, fun i₂ m₂ alike _ => ?_⟩
    have refuses : i₂.gate.admit? = none := by
      rw [Gate.admit?_eq_none, alike.state]
      exact Gate.admit?_eq_none.mp closed
    simp only [Call.step, hs, Call.arrive, alike.passes exported, refuses, Bool.false_eq_true,
      if_false, alike.make.name]
    exact ⟨_, _, _, rfl⟩
  | visiting v m' events hs hstep =>
    have given : c.visit.handles = handles c.visit.proxy := by
      have known := steady.handled
      simp only [Handled, hs] at known
      exact known
    obtain ⟨-, proxy, errand⟩ := Visit.step_frame hstep
    obtain ⟨stage, serves', again⟩ :=
      Visit.step_steady straight steady.stateless given steady.stage serves hstep
    refine ⟨⟨handled, ?_, stage⟩, same, serves', fun i₂ m₂ _ serves₂ => ?_⟩
    · rw [proxy, errand]
      exact steady.stateless
    · obtain ⟨m₂', events₂, hstep₂⟩ := again m₂ serves₂
      exact ⟨i₂, m₂', events₂, step_visiting hs hstep₂⟩
  | returned hs back =>
    refine ⟨⟨handled, steady.stateless, steady.stage⟩, same, serves, fun i₂ m₂ _ _ => ?_⟩
    simp only [Call.step, hs, back]
    exact ⟨_, _, _, rfl⟩
  | broke hs broken =>
    refine ⟨⟨handled, steady.stateless, steady.stage⟩, same, serves, fun i₂ m₂ _ _ => ?_⟩
    rcases broken with ⟨f, hv⟩ | hv <;> simp only [Call.step, hs, hv] <;> exact ⟨_, _, _, rfl⟩
  | retire hs =>
    refine ⟨⟨handled, steady.stateless, steady.stage⟩, same, serves, fun i₂ m₂ _ _ => ?_⟩
    simp only [Call.step, hs]
    exact ⟨_, _, _, rfl⟩
  | release hs =>
    refine ⟨⟨handled, steady.stateless, steady.stage⟩, ⟨⟨rfl, rfl, rfl⟩, rfl⟩, serves,
      fun i₂ m₂ _ _ => ?_⟩
    simp only [Call.step, hs]
    exact ⟨_, _, _, rfl⟩

/-! ## Two machines in step -/

namespace System

variable {s₀ s s' σ : System} {t u : Nat} {c : Call}

/-- What calls on live contexts leave of a machine: every instance as it was, but for its counters,
and every module that served serving as before. -/
structure Keeps (s₀ s : System) : Prop where
  instances : ∀ (n : Nat) (i : Instance), s₀.instances[n]? = some i →
    ∃ i', s.instances[n]? = some i' ∧ i.Alike i'
  modules : ∀ (j : Nat) (m : Module) (h : Handler) (g : Nat), s₀.modules[j]? = some m →
    m.Serves h g → ∃ m', s.modules[j]? = some m' ∧ m'.Serves h g

theorem Keeps.refl (s : System) : s.Keeps s :=
  ⟨fun _ i hi => ⟨i, hi, .refl i, rfl⟩, fun _ m _ _ hm serves => ⟨m, hm, serves⟩⟩

/-- A call of a stateless callback, on an instance whose module served at first. -/
def Tends (s₀ : System) (c : Call) : Prop :=
  ∃ i m h g, s₀.instances[c.on]? = some i ∧ s₀.modules[i.module]? = some m ∧ m.Serves h g ∧
    h.Straight ∧ c.Steady h

/-- **A step of one call** keeps all that calls keep. On any other machine that has kept it, a thread
in the same call takes the same step. -/
theorem Keeps.step (keeps : s₀.Keeps s) (ht : s.threads[t]? = some (.calling c))
    (tends : s₀.Tends c) (hs : s.step t = some s') :
    s₀.Keeps s' ∧ ∃ c', s'.threads = s.threads.set t (.calling c') ∧ s₀.Tends c' ∧
      ∀ (σ : System) (u : Nat), s₀.Keeps σ → σ.threads[u]? = some (.calling c) →
        ∃ σ', σ.step u = some σ' ∧ σ'.threads[u]? = some (.calling c') := by
  obtain ⟨i₀, m₀, h, g, hi₀, hm₀, serves₀, straight, steady⟩ := tends
  have here := (List.getElem?_eq_some_iff.mp ht).1
  obtain ⟨i, hi, alike⟩ := keeps.instances _ _ hi₀
  obtain ⟨m, hm, serves⟩ := keeps.modules _ _ h g hm₀ serves₀
  rw [← alike.make.module] at hm
  cases step_cases hs with
  | early o st st' made m m' events hk => cases ht.symm.trans hk
  | direct k k' module m m' events hk hd =>
    cases ht.symm.trans hk
    cases hd
  | late k k' n i₁ i' m₁ m' events hk hon hi₁ hm₁ hstep =>
    cases ht.symm.trans hk
    cases hon
    cases hi.symm.trans hi₁
    cases hm.symm.trans hm₁
    simp only [Task.stepOn, Option.map_eq_some_iff, Prod.mk.injEq] at hstep
    obtain ⟨⟨c', i₂, m₂, events₂⟩, step, rfl, rfl, rfl, rfl⟩ := hstep
    obtain ⟨steady', alike', serves', again⟩ := Call.step_steady straight steady serves step
    have on : c'.on = c.on := (Call.step_cases step).on
    refine ⟨⟨fun n j hj => ?_, fun k m₃ h' g' hm₃ serves₃ => ?_⟩, c', rfl, ?_, ?_⟩
    · obtain ⟨j', hj', known⟩ := keeps.instances n j hj
      rw [turn_instances]
      by_cases same : c.on = n
      · subst same
        cases hi.symm.trans hj'
        exact ⟨i₂, List.getElem?_set_self (List.getElem?_eq_some_iff.mp hi).1, known.trans alike'⟩
      · exact ⟨j', (List.getElem?_set_ne same).trans hj', known⟩
    · obtain ⟨m₃', hm₃', known⟩ := keeps.modules k m₃ h' g' hm₃ serves₃
      rw [turn_modules]
      by_cases same : i.module = k
      · subst same
        cases hm.symm.trans hm₃'
        obtain ⟨rfl, rfl⟩ := serves.unique known
        exact ⟨m₂, List.getElem?_set_self (List.getElem?_eq_some_iff.mp hm).1, serves'⟩
      · exact ⟨m₃', (List.getElem?_set_ne same).trans hm₃', known⟩
    · exact ⟨i₀, m₀, h, g, on ▸ hi₀, hm₀, serves₀, straight, steady'⟩
    · intro σ u keeps' hu
      obtain ⟨j, hj, alike₂⟩ := keeps'.instances _ _ hi₀
      obtain ⟨n, hn, serves₂⟩ := keeps'.modules _ _ h g hm₀ serves₀
      rw [← alike₂.make.module] at hn
      have between : i.Alike j := by
        refine ⟨⟨?_, ?_, ?_⟩, alike₂.state.trans alike.state.symm⟩
        · exact alike₂.make.exports.trans alike.make.exports.symm
        · exact alike₂.make.module.trans alike.make.module.symm
        · exact alike₂.make.name.trans alike.make.name.symm
      obtain ⟨j', n', events', step'⟩ := again j n between serves₂
      have taken : (Task.calling c).stepOn j n = some (.calling c', j', n', events') := by
        simp only [Task.stepOn, step', Option.map_some]
      exact ⟨_, step_late hu rfl hj hn taken,
        List.getElem?_set_self (List.getElem?_eq_some_iff.mp hu).1⟩

/-- A machine on which, besides the threads of `s₀`, only such calls are made. -/
structure Together (s₀ s : System) : Prop where
  keeps : s₀.Keeps s
  calls : ∀ (t : Nat) (k : Task), s₀.threads.length ≤ t → s.threads[t]? = some k →
    ∃ c, k = .calling c ∧ s₀.Tends c

namespace Together

theorem step (together : s₀.Together s) (ours : s₀.threads.length ≤ t) (hs : s.step t = some s') :
    s₀.Together s' ∧ ∃ c c', s.threads[t]? = some (.calling c) ∧
      s'.threads = s.threads.set t (.calling c') ∧
      ∀ (σ : System) (u : Nat), s₀.Keeps σ → σ.threads[u]? = some (.calling c) →
        ∃ σ', σ.step u = some σ' ∧ σ'.threads[u]? = some (.calling c') := by
  obtain ⟨k, -, ht, -⟩ := step_threads hs
  obtain ⟨c, rfl, tends⟩ := together.calls t k ours ht
  obtain ⟨keeps, c', after, tends', again⟩ := together.keeps.step ht tends hs
  refine ⟨⟨keeps, fun v k hv hk => ?_⟩, c, c', ht, after, again⟩
  rw [after] at hk
  rcases of_getElem?_set hk with ⟨-, rfl⟩ | ⟨-, hk⟩
  · exact ⟨c', rfl, tends'⟩
  · exact together.calls v k hv hk

/-- **Two machines in step.** While calls take steps in any order on one of them, thread `u` of the
other can follow thread `t` step by step. -/
theorem lockstep (ht : s₀.threads.length ≤ t) (hu : s₀.threads.length ≤ u) (ts : List Nat)
    (ours : ∀ v ∈ ts, s₀.threads.length ≤ v) : ∀ {s s' σ : System}, s₀.Together s →
      s₀.Together σ → s.threads[t]? = σ.threads[u]? → s.steps ts = some s' →
      s₀.Together s' ∧ ∃ σ', σ.steps (List.replicate (ts.count t) u) = some σ' ∧
        s₀.Together σ' ∧ s'.threads[t]? = σ'.threads[u]? := by
  induction ts with
  | nil =>
    intro s s' σ hs hσ same steps
    cases steps
    exact ⟨hs, σ, rfl, hσ, same⟩
  | cons v ts ih =>
    intro s s' σ hs hσ same steps
    simp only [System.steps, List.foldlM_cons, bind, Option.bind_eq_some_iff] at steps
    obtain ⟨s₁, step₁, rest⟩ := steps
    have others : ∀ w ∈ ts, s₀.threads.length ≤ w := fun w hw => ours w (List.mem_cons_of_mem _ hw)
    obtain ⟨hs₁, c, c', before, after, again⟩ := hs.step (ours v List.mem_cons_self) step₁
    by_cases mine : v = t
    · subst mine
      obtain ⟨σ₁, stepσ, afterσ⟩ := again σ u hσ.keeps (same ▸ before)
      have next : s₁.threads[v]? = σ₁.threads[u]? := by
        rw [after, afterσ]
        exact List.getElem?_set_self (List.getElem?_eq_some_iff.mp before).1
      obtain ⟨hs', σ', stepsσ, hσ', same'⟩ := ih others hs₁ (hσ.step hu stepσ).1 next rest
      refine ⟨hs', σ', ?_, hσ', same'⟩
      rw [List.count_cons_self, List.replicate_succ]
      simp only [System.steps, List.foldlM_cons, stepσ, bind, Option.bind_some]
      exact stepsσ
    · have next : s₁.threads[t]? = σ.threads[u]? := by
        rw [after, List.getElem?_set_ne mine, same]
      rw [List.count_cons_of_ne mine]
      exact ih others hs₁ hσ next rest

end Together

/-! ## Calls in flight together -/

/-- New threads, one for each call, none of which has arrived yet. -/
def launch (s : System) (calls : List Call) : System :=
  { s with threads := s.threads ++ calls.map .calling }

/-- Call `c` is about to be made on instance `i`, which has been handed out, over the live context of
handler `h` in module `m`; the callback that it reaches is stateless and asks only what its views
have. -/
structure Hosted (s : System) (c : Call) (i : Instance) (m : Module) (h : Handler) : Prop where
  new : (Task.calling c).IsNew
  handed : s.HandedOut c.on
  on : s.instances[c.on]? = some i
  module : s.modules[i.module]? = some m
  serves : ∃ g, m.Serves h g
  straight : h.Straight
  stateless : h.Stateless c.visit.proxy c.visit.errand
  reads : c.visit.proxy = false → (h.handle c.visit.errand).Asks ViewOp.ReadsUri

/-- What a call comes to that is the only one of the run. -/
def Alone (s : System) (c : Call) (report : Report) : Prop :=
  ∃ σ, (s.launch [c]).Comes s.threads.length σ ∧ σ.report? s.threads.length = some report

variable {calls : List Call} {i : Instance} {m : Module} {h : Handler}

theorem Hosted.tends (hosted : s₀.Hosted c i m h) : s₀.Tends c := by
  obtain ⟨g, serves⟩ := hosted.serves
  refine ⟨i, m, h, g, hosted.on, hosted.module, serves, hosted.straight,
    Call.handled_of_new hosted.new, hosted.stateless, ?_⟩
  obtain ⟨proxy, request, response, errand, hc⟩ := hosted.new
  rw [hc]
  trivial

theorem together_launch (ready : ∀ c ∈ calls, s₀.Tends c) : s₀.Together (s₀.launch calls) := by
  refine ⟨⟨(Keeps.refl s₀).instances, (Keeps.refl s₀).modules⟩, fun t k ours ht => ?_⟩
  simp only [launch, List.getElem?_append_right ours, List.getElem?_map,
    Option.map_eq_some_iff] at ht
  obtain ⟨c, hc, rfl⟩ := ht
  exact ⟨c, rfl, ready c (List.mem_of_getElem? hc)⟩

theorem launch_threads {k : Nat} (hc : calls[k]? = some c) :
    (s₀.launch calls).threads[s₀.threads.length + k]? = some (.calling c) := by
  simp only [launch, List.getElem?_append_right (Nat.le_add_right _ _), Nat.add_sub_cancel_left,
    List.getElem?_map, hc, Option.map_some]

theorem run_launch (hr : Run s₀)
    (ready : ∀ c ∈ calls, (Task.calling c).IsNew ∧ s₀.HandedOut c.on) :
    Run (s₀.launch calls) := by
  induction calls generalizing s₀ with
  | nil =>
    simp only [launch, List.map_nil, List.append_nil]
    exact hr
  | cons c calls ih =>
    obtain ⟨new, handed⟩ := ready c List.mem_cons_self
    have first : Run (s₀.spawn (.calling c)) :=
      hr.move (.begin s₀ _ new fun n hn => by cases hn; exact handed)
    have rest := ih first fun d hd =>
      ⟨(ready d (List.mem_cons_of_mem _ hd)).1, (ready d (List.mem_cons_of_mem _ hd)).2.spawn _⟩
    have same : (s₀.spawn (.calling c)).launch calls = s₀.launch (c :: calls) := by
      simp only [launch, spawn, List.map_cons, List.append_assoc, List.singleton_append]
    exact same ▸ rest

/-- The only call of a run comes to an end. -/
theorem Hosted.alone (hr : Run s₀) (hosted : s₀.Hosted c i m h) : ∃ report, s₀.Alone c report := by
  obtain ⟨g, serves⟩ := hosted.serves
  obtain ⟨value, slot, -⟩ := serves.live
  have launched : Run (s₀.launch [c]) := run_launch hr fun d hd => by
    obtain rfl := List.mem_singleton.mp hd
    exact ⟨hosted.new, hosted.handed⟩
  have ht : (s₀.launch [c]).threads[s₀.threads.length]? = some (.calling c) :=
    launch_threads (k := 0) rfl
  obtain ⟨proxy, request, response, errand, hc⟩ := hosted.new
  have arriving : c.stage = .arriving := by rw [hc]; rfl
  by_cases refused : ∃ e, i.Refuses c.visit.proxy e
  · obtain ⟨e, refuses⟩ := refused
    have stands : (s₀.launch [c]).Stands s₀.threads.length c i m := ⟨ht, hosted.on, hosted.module⟩
    obtain ⟨σ, refusal⟩ := stands.refusal arriving refuses
    exact ⟨_, σ, .step refusal.step (.refl σ _), refusal.report⟩
  · have accepts := not_exists.mp refused
    have live : i.gate.state = .live := by
      refine Decidable.of_not_not fun closed => ?_
      obtain ⟨e, refuses⟩ := Instance.refuses_of_closed c.visit.proxy closed
      exact accepts e refuses
    have exported : c.visit.proxy = true → i.exports.proxy = true := by
      intro proxy
      refine Bool.of_not_eq_false fun none => ?_
      rw [proxy] at accepts
      exact accepts _ (.missing none)
    have code : (s₀.launch [c]).CodeOf c.on (.handler h) :=
      ⟨i, m, hosted.on, hosted.module, serves.code⟩
    have starts : (s₀.launch [c]).threads[s₀.threads.length]? =
        some (.calling (.start c.on proxy request response errand)) := by
      rw [← hc]
      exact ht
    have reads := hosted.reads
    rw [hc] at exported reads
    have ends : ∃ σ, (s₀.launch [c]).Comes s₀.threads.length σ ∧ ∃ report,
        σ.report? s₀.threads.length = some report := by
      cases proxy with
      | false =>
        obtain ⟨σ, comes, -, data, report⟩ := Comes.called launched starts code hosted.straight
          (h.serves_request errand (reads rfl)) hosted.on hosted.module live exported slot serves.free
        exact ⟨σ, comes, _, report⟩
      | true =>
        obtain ⟨σ, comes, -, data, report⟩ := Comes.called launched starts code hosted.straight
          (h.serves_proxy errand) hosted.on hosted.module live exported slot serves.free
        exact ⟨σ, comes, _, report⟩
    obtain ⟨σ, comes, report, told⟩ := ends
    exact ⟨report, σ, comes, told⟩

/-- **Calls in flight together do not meet.** Any number of calls of stateless callbacks are launched
on instances over live contexts, and their threads take steps in any order. At every moment, each of
them stands exactly where it would stand after as many steps of its own if it were the only call of the
run, with the same request, response, target and result. Alone it comes to an end; among the others it
comes to no other, and can be brought there. No step of another thread touches it. -/
theorem calls_independent {ts : List Nat} (hr : Run s₀)
    (hosted : ∀ c ∈ calls, ∃ i m h, s₀.Hosted c i m h)
    (ours : ∀ t ∈ ts, s₀.threads.length ≤ t) (steps : (s₀.launch calls).steps ts = some s) {k : Nat}
    (hc : calls[k]? = some c) :
    (∃ σ, (s₀.launch [c]).steps
        (List.replicate (ts.count (s₀.threads.length + k)) s₀.threads.length) = some σ ∧
      s.threads[s₀.threads.length + k]? = σ.threads[s₀.threads.length]?) ∧
    (∃ report, s₀.Alone c report ∧
      (∀ r, s.report? (s₀.threads.length + k) = some r → r = report) ∧
      ∃ s', s.Comes (s₀.threads.length + k) s' ∧
        s'.report? (s₀.threads.length + k) = some report) ∧
    ∀ (u : Nat) (s' : System), u ≠ s₀.threads.length + k → s.step u = some s' →
      s'.threads[s₀.threads.length + k]? = s.threads[s₀.threads.length + k]? := by
  obtain ⟨i, m, h, this⟩ := hosted c (List.mem_of_getElem? hc)
  have all : ∀ d ∈ calls, s₀.Tends d := fun d hd => by
    obtain ⟨i, m, h, hosted⟩ := hosted d hd
    exact hosted.tends
  have one : ∀ d ∈ [c], s₀.Tends d := fun d hd => by
    obtain rfl := List.mem_singleton.mp hd
    exact this.tends
  have same : (s₀.launch calls).threads[s₀.threads.length + k]? =
      (s₀.launch [c]).threads[s₀.threads.length]? :=
    (launch_threads hc).trans (launch_threads (k := 0) (show [c][0]? = some c from rfl)).symm
  obtain ⟨together, σ, stepsσ, togetherσ, sameσ⟩ := Together.lockstep (Nat.le_add_right _ k)
    (Nat.le_refl _) ts ours (together_launch all) (together_launch one) same steps
  refine ⟨⟨σ, stepsσ, sameσ⟩, ?_, fun u s' other hs => ?_⟩
  · obtain ⟨report, σ', ⟨l, comes⟩, told⟩ := this.alone hr
    have alike : s.report? (s₀.threads.length + k) = σ.report? s₀.threads.length := by
      simp only [report?, sameσ]
    refine ⟨report, ⟨σ', ⟨l, comes⟩, told⟩, fun r hr' => ?_, ?_⟩
    · exact Comes.report_unique ⟨_, stepsσ⟩ ⟨l, comes⟩ (alike ▸ hr') told
    · -- What the call still has to do alone, it can do here as well.
      obtain ⟨rest, hrest⟩ := Nat.exists_eq_add_of_le (steps_le_of_report comes told stepsσ)
      rw [hrest, ← List.replicate_append_replicate, System.steps, List.foldlM_append] at comes
      obtain ⟨σ₁, h₁, h₂⟩ := Option.bind_eq_some_iff.mp comes
      cases stepsσ.symm.trans h₁
      obtain ⟨-, s', steps', -, same'⟩ := Together.lockstep (Nat.le_refl _) (Nat.le_add_right _ k)
        (List.replicate rest s₀.threads.length)
        (fun v hv => (List.eq_of_mem_replicate hv) ▸ Nat.le_refl _) togetherσ together sameσ.symm h₂
      rw [List.count_replicate_self] at steps'
      refine ⟨s', ⟨rest, steps'⟩, ?_⟩
      rw [← told]
      simp only [report?, same']
  · obtain ⟨k₁, k₂, -, after⟩ := step_threads hs
    rw [after, List.getElem?_set_ne other]

/-- A call that asks the greeter for one language. -/
def sampleAsking (language : String) : Call :=
  .start 0 false (({} : Request).setHeader "accept-language" language) {} {}

theorem hosted_sampleAsking (language : String) : ∃ i m h,
    sampleGreeting.Hosted (sampleAsking language) i m h := by
  refine ⟨_, _, sampleGreeter, ⟨_, _, _, _, rfl⟩, ⟨_, List.mem_singleton.mpr rfl⟩, rfl, rfl,
    ⟨1, rfl, ⟨_, rfl, rfl⟩, rfl⟩, fun _ _ _ => rfl, ?_, fun _ => ?_⟩
  · exact ⟨False.elim, fun _ => ⟨False.elim, fun _ => ⟨False.elim, fun _ => trivial⟩⟩⟩
  · exact ⟨trivial, fun _ => ⟨trivial, fun _ => ⟨trivial, fun _ => trivial⟩⟩⟩

theorem calls_independent_sample : ∃ (s σ : System) (report : Report),
    (sampleGreeting.launch [sampleAsking "en", sampleAsking "fr"]).steps [1, 2, 2, 1, 2, 1, 2] =
      some s ∧
    (sampleGreeting.launch [sampleAsking "fr"]).steps [1, 1, 1, 1] = some σ ∧
    s.threads[2]? = σ.threads[1]? ∧ sampleGreeting.Alone (sampleAsking "fr") report ∧
    ∃ s', s.Comes 2 s' ∧ s'.report? 2 = some report := by
  have steps : (sampleGreeting.launch [sampleAsking "en", sampleAsking "fr"]).steps
      [1, 2, 2, 1, 2, 1, 2] = some _ := rfl
  have hosted : ∀ c ∈ [sampleAsking "en", sampleAsking "fr"],
      ∃ i m h, sampleGreeting.Hosted c i m h := by
    intro c hc
    rcases List.mem_pair.mp hc with rfl | rfl <;> exact hosted_sampleAsking _
  obtain ⟨⟨σ, alone, same⟩, ⟨report, ends, -, comes⟩, -⟩ :=
    calls_independent run_sampleGreeting hosted (by decide) steps (k := 1) rfl
  exact ⟨_, σ, report, steps, alone, same, ends, comes⟩

end System

end ModuleHost
