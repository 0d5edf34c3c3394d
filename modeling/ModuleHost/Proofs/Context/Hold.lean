import ModuleHost.Proofs.Marks

/-!
# What a thread holds of a module

A `Hold` says what a thread has of a module's lock, and for what: it waits for the readers, starts a
handler, shuts a value down, drops it, or reads while the handler runs. `Context.Step` lists all
steps that a thread can take with respect to the context, each with the hold before and after, the
context before and after, and the context marks that it leaves. `HookStage.step_spec` and
`Visit.step_spec` say that module code, of whichever entry point, takes no others.
-/
namespace ModuleHost

open Boundary

/-- The generation of the value in the slot. -/
def Slot.value? : Slot → Option Nat
  | .live v => some v.generation
  | _ => none

inductive Hold where
  | free
  /-- Has claimed the lock and waits for its readers to leave. -/
  | waiting
  | starting
  | closing (generation : Nat)
  | dropping (generation : Nat)
  /-- Runs the handler of this generation. -/
  | reading (generation : Nat)
  deriving DecidableEq, Repr

namespace Hold

/-- Whether the thread has claimed the lock for writing. -/
def claims : Hold → Bool
  | .waiting | .starting | .closing _ | .dropping _ => true
  | .free | .reading _ => false

/-- Whether the thread has the lock for itself. -/
def writes : Hold → Bool
  | .starting | .closing _ | .dropping _ => true
  | .free | .waiting | .reading _ => false

def reads : Hold → Bool
  | .reading _ => true
  | _ => false

/-- Whether the thread tears down the value of a generation. -/
def tearsDown (g : Nat) : Hold → Bool
  | .closing g' | .dropping g' => g' == g
  | _ => false

end Hold

def HookStage.hold : HookStage → Hold
  | .draining => .waiting
  | .initializing _ => .starting
  | .closing v _ => .closing v.generation
  | .dropping v _ | .unwinding v _ => .dropping v.generation
  | _ => .free

def VisitStage.hold : VisitStage → Hold
  | .draining _ => .waiting
  | .initializing .. => .starting
  | .running g _ => .reading g
  | _ => .free

/-- The steps of a thread with respect to a context. -/
inductive Context.Step : Context → Hold → List Event → Context → Hold → Prop
  | stay (c : Context) (slot : Slot) (σ : Hold) :
      slot.phase = c.slot.phase → slot.value? = c.slot.value? → Step c σ [] { c with slot } σ
  | claim (c : Context) (l : Lock) :
      c.lock.claim? = some l → Step c .free [] { c with lock := l } .waiting
  | start (c : Context) :
      c.lock.readers = 0 → c.slot.value? = none →
      Step c .waiting [.startBegun c.starts] c.beginStart .starting
  | built (c : Context) :
      Step c .starting [.built (c.generation + 1)]
        { c with slot := .live ⟨c.generation + 1, 0⟩, generation := c.generation + 1,
                 lock := c.lock.releaseWrite } .free
  | failed (c : Context) :
      Step c .starting [.startFailed] { c with slot := .fresh, lock := c.lock.releaseWrite } .free
  /-- A panic left the entry where the start had failed. -/
  | broke (c : Context) : Step c .starting [] c.releaseWrite .free
  /-- Found nothing to start and nothing to shut down. -/
  | pass (c : Context) (slot : Slot) :
      c.lock.readers = 0 → slot = c.slot ∨ c.slot = .fresh ∧ slot = .tornDown →
      Step c .waiting [] { c with slot, lock := c.lock.releaseWrite } .free
  | close (c : Context) (v : HandlerValue) :
      c.lock.readers = 0 → c.slot = .live v →
      Step c .waiting [.shutdownBegun v.generation] { c with slot := .tornDown }
        (.closing v.generation)
  | drop (c : Context) (g : Nat) : Step c (.closing g) [] c (.dropping g)
  | finish (c : Context) (g : Nat) : Step c (.dropping g) [.dropped g] c.releaseWrite .free
  | enter (c : Context) (l : Lock) (v : HandlerValue) :
      c.lock.acquireRead? = some l → c.slot = .live v →
      Step c .free [.handlerBegun v.generation] { c with lock := l, calls := c.calls + 1 }
        (.reading v.generation)
  | leave (c : Context) (g : Nat) :
      Step c (.reading g) [.handlerEnded g] { c with lock := c.lock.releaseRead } .free
  /-- The handler's code met a fault; the lock is never given back. -/
  | abandon (c : Context) (g : Nat) : Step c (.reading g) [] c .free

namespace Context.Step

theorem refl (c : Context) (σ : Hold) : Step c σ [] c σ := .stay c c.slot σ rfl rfl

end Context.Step

/-- What module code leaves as it is: everything of the module but its context and counter. -/
structure Module.SameCode (m m' : Module) : Prop where
  code : m'.code = m.code
  probe : m'.probe = m.probe
  sink : m'.sink = m.sink

namespace Module

theorem SameCode.refl (m : Module) : m.SameCode m := ⟨rfl, rfl, rfl⟩

theorem sameCode_setContext (m : Module) (c : Context) : m.SameCode (m.setContext c) :=
  ⟨rfl, rfl, rfl⟩

theorem sameCode_perform (m : Module) (o : SelfOp) : m.SameCode (SelfOp.perform m o).2.1 := by
  obtain ⟨n, same⟩ := o.perform_module m
  exact same ▸ ⟨rfl, rfl, rfl⟩

theorem count_spec (m : Module) (σ : Hold) :
    m.SameCode m.count.2 ∧ Context.Step m.context σ [] m.count.2.context σ := by
  unfold count
  split
  · rename_i v _ hv
    refine ⟨sameCode_setContext m _, .stay m.context (.live { v with seen := v.seen + 1 }) σ ?_ ?_⟩
    · simp [hv, Slot.phase]
    · simp [hv, Slot.value?]
  · exact ⟨.refl m, .refl _ σ⟩
  · exact ⟨⟨rfl, rfl, rfl⟩, .refl _ σ⟩

end Module

theorem Context.finishStart_spec (c : Context) (r : Except Notice Unit) :
    Step c .starting (contextMarks (c.finishStart r).2) (c.finishStart r).1 .free ∧
      gateMarks (c.finishStart r).2 = [] := by
  cases r with
  | ok _ => exact ⟨.built c, rfl⟩
  | error n => exact ⟨.failed c, rfl⟩

theorem Context.endStart_spec (c : Context) (r : Except Notice Unit) (parting : Parting) :
    Step c .starting (contextMarks (c.endStart r parting).2) (c.endStart r parting).1 .free ∧
      gateMarks (c.endStart r parting).2 = [] := by
  cases parting with
  | quiet => exact c.finishStart_spec r
  | told => cases r <;> exact ⟨.broke c, rfl⟩
  | untold => exact ⟨.broke c, rfl⟩

/-! ## Lifecycle entry points -/

/-- What a step inside a lifecycle entry point does: one step of the context, and the gate mark of
the entry at its start. -/
structure HookStage.Spec (hook : Hook) (m : Module) (h h' : HookStage) (m' : Module)
    (events : List Event) : Prop where
  context : Context.Step m.context h.hold (contextMarks events) m'.context h'.hold
  code : m.SameCode m'
  begun : h' ≠ .entering
  entry : h = .entering → gateMarks events = [.entered hook.entry]
  quiet : h ≠ .entering → gateMarks events = []

namespace HookStage

theorem Spec.no_answers {hook : Hook} {m m' : Module} {h h' : HookStage} {events : List Event}
    (spec : Spec hook m h h' m' events) : answers events = [] := by
  rw [← answers_gateMarks]
  by_cases he : h = .entering
  · rw [spec.entry he]
    rfl
  · rw [spec.quiet he]
    rfl

theorem Spec.ofQuiet {hook : Hook} {m m' : Module} {h h' : HookStage} {events : List Event}
    (context : Context.Step m.context h.hold (contextMarks events) m'.context h'.hold)
    (code : m.SameCode m') (begun : h' ≠ .entering) (begun' : h ≠ .entering)
    (quiet : gateMarks events = []) : Spec hook m h h' m' events :=
  ⟨context, code, begun, fun e => absurd e begun', fun _ => quiet⟩

theorem Spec.perform {hook : Hook} {m : Module} {h h' : HookStage} (o : SelfOp)
    (hold : h'.hold = h.hold) (begun : h' ≠ .entering) (begun' : h ≠ .entering) :
    Spec hook m h h' (SelfOp.perform m o).2.1 (SelfOp.perform m o).2.2 := by
  have remarks := selfPerform_remarks m o
  refine .ofQuiet ?_ (m.sameCode_perform o) begun begun' (gateMarks_remarks remarks)
  rw [contextMarks_remarks remarks, hold, o.perform_context]
  exact .refl _ _

theorem hold_start (hook : Hook) (m : Module) :
    (start hook m).hold = .free ∧ start hook m ≠ .entering := by
  unfold start
  split <;> simp [hold]

theorem locked_spec (hook : Hook) (m : Module) (h : Handler) (hr : m.context.lock.readers = 0) :
    Spec hook m .draining (locked hook m h).1 (locked hook m h).2.1 (locked hook m h).2.2 := by
  cases hs : m.context.slot with
  | live v =>
    cases hook with
    | load =>
      simp only [locked, hs]
      exact .ofQuiet (.pass m.context m.context.slot hr (.inl rfl)) (m.sameCode_setContext _)
        (by simp) (by simp) rfl
    | probe | unload =>
      simp only [locked, hs]
      exact .ofQuiet (.close m.context v hr hs) (m.sameCode_setContext _) (by simp) (by simp) rfl
  | fresh =>
    cases hook with
    | load =>
      simp only [locked, hs]
      exact .ofQuiet (.start m.context hr (by simp [hs, Slot.value?])) (m.sameCode_setContext _)
        (by simp) (by simp) rfl
    | probe | unload =>
      simp only [locked, hs]
      exact .ofQuiet (.pass m.context .tornDown hr (.inr ⟨hs, rfl⟩)) (m.sameCode_setContext _)
        (by simp) (by simp) rfl
  | tornDown =>
    cases hook with
    | load =>
      simp only [locked, hs]
      exact .ofQuiet (.start m.context hr (by simp [hs, Slot.value?])) (m.sameCode_setContext _)
        (by simp) (by simp) rfl
    | probe | unload =>
      simp only [locked, hs]
      exact .ofQuiet (.pass m.context m.context.slot hr (.inl rfl)) (m.sameCode_setContext _)
        (by simp) (by simp) rfl

section
variable {m : Module} {handler : Handler} (code : m.code = .handler handler)
include code

/-! Where values are let go quietly, each end leads on to what follows it. -/

theorem afterStart_quiet (r : Upshot) :
    step.afterStart m r = (.returned (loadCode r),
      m.setContext (m.context.finishStart (startNotice r)).1,
      (m.context.finishStart (startNotice r)).2) := by
  simp only [step.afterStart, Module.parting_quiet code, Context.endStart, if_true]

theorem afterClose_quiet (v : HandlerValue) (r : Upshot) :
    step.afterClose v m r =
      (.dropping v handler.drop, m, [.notice (shutdownNotice v.generation r)]) := by
  simp only [step.afterClose, Module.parting_quiet code, step.destructor, code]

theorem afterDrop_quiet (v : HandlerValue) (p : Payload) :
    step.afterDrop v m p = (.returned 0, m.setContext m.context.releaseWrite,
      [.dropped v.generation, .notice (.dropPanicked v.generation)]) := by
  simp only [step.afterDrop, Module.drops, code, Bool.false_eq_true, if_false]

end

theorem afterStart_over (m : Module) (r : Upshot) :
    (step.afterStart m r).1 = .returned (loadCode r) ∨ (step.afterStart m r).1 = .escaped := by
  simp only [step.afterStart]
  split
  · exact .inl rfl
  · exact .inr rfl

theorem afterStart_spec (hook : Hook) (p : SelfProgram (Except String Unit)) (m : Module)
    (r : Upshot) :
    Spec hook m (.initializing p) (step.afterStart m r).1 (step.afterStart m r).2.1
      (step.afterStart m r).2.2 := by
  obtain ⟨context, quiet⟩ := m.context.endStart_spec (startNotice r) (m.drops.parting r)
  have after : (step.afterStart m r).1.hold = .free ∧ (step.afterStart m r).1 ≠ .entering := by
    rcases afterStart_over m r with ends | ends <;> rw [ends] <;> exact ⟨rfl, by simp⟩
  refine .ofQuiet ?_ (m.sameCode_setContext _) after.2 (by simp) quiet
  rw [after.1]
  exact context

theorem afterClose_next (v : HandlerValue) (m : Module) (r : Upshot) :
    (step.afterClose v m r).1 = .dropping v (step.destructor m) ∨
      (step.afterClose v m r).1 = .unwinding v (step.destructor m) := by
  unfold step.afterClose
  split
  · exact .inl rfl
  · exact .inr rfl
  · exact .inr rfl

theorem afterClose_hold (v : HandlerValue) (m : Module) (r : Upshot) :
    (step.afterClose v m r).1.hold = .dropping v.generation := by
  rcases afterClose_next v m r with next | next <;> rw [next] <;> rfl

theorem afterDrop_over (v : HandlerValue) (m : Module) (p : Payload) :
    (step.afterDrop v m p).1 = .returned 0 ∨ (step.afterDrop v m p).1 = .escaped := by
  unfold step.afterDrop
  split
  · exact .inr rfl
  · exact .inl rfl

theorem afterClose_spec (hook : Hook) (p : SelfProgram (Except String Unit)) (v : HandlerValue)
    (m : Module) (r : Upshot) :
    Spec hook m (.closing v p) (step.afterClose v m r).1 (step.afterClose v m r).2.1
      (step.afterClose v m r).2.2 := by
  unfold step.afterClose
  split <;> exact .ofQuiet (.drop m.context v.generation) (.refl m) (by simp) (by simp) rfl

theorem afterDrop_spec (hook : Hook) (q : SelfProgram Unit) (v : HandlerValue) (m : Module)
    (p : Payload) :
    Spec hook m (.dropping v q) (step.afterDrop v m p).1 (step.afterDrop v m p).2.1
      (step.afterDrop v m p).2.2 := by
  unfold step.afterDrop
  split <;>
    exact .ofQuiet (.finish m.context v.generation) (m.sameCode_setContext _) (by simp) (by simp) rfl

theorem step_spec {hook : Hook} {m m' : Module} {h h' : HookStage} {events : List Event}
    (hs : h.step hook m = some (h', m', events)) : Spec hook m h h' m' events := by
  cases h with
  | entering =>
    simp only [step, Option.some.injEq, Prod.mk.injEq] at hs
    obtain ⟨rfl, rfl, rfl⟩ := hs
    obtain ⟨hold, begun⟩ := hold_start hook m
    refine ⟨?_, .refl m, begun, fun _ => rfl, fun e => absurd rfl e⟩
    rw [hold]
    exact .refl _ _
  | claiming =>
    simp only [step, Option.map_eq_some_iff, Prod.mk.injEq] at hs
    obtain ⟨l, hl, rfl, rfl, rfl⟩ := hs
    exact .ofQuiet (.claim m.context l hl) (m.sameCode_setContext _) (by simp) (by simp) rfl
  | draining =>
    simp only [step] at hs
    split at hs
    · rename_i handler _ _
      split at hs
      · rename_i hr
        simp only [Option.some.injEq] at hs
        have := locked_spec hook m handler hr
        rwa [hs] at this
      · cases hs
    · cases hs
  | initializing p =>
    cases p with
    | ask o next =>
      simp only [step, Option.some.injEq, Prod.mk.injEq] at hs
      obtain ⟨rfl, rfl, rfl⟩ := hs
      exact .perform o rfl (by simp) (by simp)
    | ret r =>
      simp only [step, Option.some.injEq] at hs
      simpa only [hs] using afterStart_spec hook (.ret r) m (.ok r)
    | panic q =>
      simp only [step, Option.some.injEq] at hs
      simpa only [hs] using afterStart_spec hook (.panic q) m (.error q)
  | closing v p =>
    cases p with
    | ask o next =>
      simp only [step, Option.some.injEq, Prod.mk.injEq] at hs
      obtain ⟨rfl, rfl, rfl⟩ := hs
      exact .perform o rfl (by simp) (by simp)
    | ret r =>
      simp only [step, Option.some.injEq] at hs
      simpa only [hs] using afterClose_spec hook (.ret r) v m (.ok r)
    | panic q =>
      simp only [step, Option.some.injEq] at hs
      simpa only [hs] using afterClose_spec hook (.panic q) v m (.error q)
  | dropping v p =>
    cases p with
    | ask o next =>
      simp only [step, Option.some.injEq, Prod.mk.injEq] at hs
      obtain ⟨rfl, rfl, rfl⟩ := hs
      exact .perform o rfl (by simp) (by simp)
    | ret r =>
      simp only [step, Option.some.injEq, Prod.mk.injEq] at hs
      obtain ⟨rfl, rfl, rfl⟩ := hs
      exact .ofQuiet (.finish m.context v.generation) (m.sameCode_setContext _) (by simp) (by simp)
        rfl
    | panic q =>
      simp only [step, Option.some.injEq] at hs
      simpa only [hs] using afterDrop_spec hook (.panic q) v m q
  | unwinding v p =>
    cases p with
    | ask o next =>
      simp only [step, Option.some.injEq, Prod.mk.injEq] at hs
      obtain ⟨rfl, rfl, rfl⟩ := hs
      exact .perform o rfl (by simp) (by simp)
    | ret r | panic q =>
      simp only [step, Option.some.injEq, Prod.mk.injEq] at hs
      obtain ⟨rfl, rfl, rfl⟩ := hs
      exact .ofQuiet (.finish m.context v.generation) (m.sameCode_setContext _) (by simp) (by simp)
        rfl
  | plain p =>
    cases p with
    | ask o next =>
      simp only [step, Option.some.injEq, Prod.mk.injEq] at hs
      obtain ⟨rfl, rfl, rfl⟩ := hs
      exact .perform o rfl (by simp) (by simp)
    | ret r | panic p =>
      simp only [step, Option.some.injEq, Prod.mk.injEq] at hs
      obtain ⟨rfl, rfl, rfl⟩ := hs
      exact .ofQuiet (.refl _ _) (.refl m) (by simp) (by simp) rfl
  | returned code => cases hs
  | escaped => cases hs

end HookStage

/-! ## Request entry points -/

/-- What a step inside a request entry point does: one step of the context, and the gate mark of
the entry at its start. -/
structure Visit.Spec (v : Visit) (m : Module) (v' : Visit) (m' : Module) (events : List Event) :
    Prop where
  context : Context.Step m.context v.stage.hold (contextMarks events) m'.context v'.stage.hold
  code : m.SameCode m'
  proxy : v'.proxy = v.proxy
  begun : v'.stage ≠ .entering
  entry : v.stage = .entering → gateMarks events = [.entered v.entry]
  quiet : v.stage ≠ .entering → gateMarks events = []

namespace Visit

theorem Spec.ofQuiet {v v' : Visit} {m m' : Module} {events : List Event}
    (context : Context.Step m.context v.stage.hold (contextMarks events) m'.context v'.stage.hold)
    (code : m.SameCode m') (proxy : v'.proxy = v.proxy) (begun : v'.stage ≠ .entering)
    (begun' : v.stage ≠ .entering) (quiet : gateMarks events = []) : v.Spec m v' m' events :=
  ⟨context, code, proxy, begun, fun e => absurd e begun', fun _ => quiet⟩

theorem Spec.perform {v v' : Visit} {m m' : Module} {o : ModuleOp} {a : o.Answer} {data : CallData}
    {events : List Event} (h : v.perform m o = .ok (a, data, m', events))
    (hold : v'.stage.hold = v.stage.hold) (proxy : v'.proxy = v.proxy) (begun : v'.stage ≠ .entering)
    (begun' : v.stage ≠ .entering) : v.Spec m v' m' events := by
  obtain ⟨hm, remarks⟩ := perform_remarks h
  have hcode : m.SameCode m' ∧ Context.Step m.context v.stage.hold [] m'.context v.stage.hold := by
    rcases hm with ⟨n, rfl⟩ | rfl
    · exact ⟨⟨rfl, rfl, rfl⟩, .refl _ _⟩
    · exact m.count_spec v.stage.hold
  refine .ofQuiet ?_ hcode.1 proxy begun begun' (gateMarks_remarks remarks)
  rw [contextMarks_remarks remarks, hold]
  exact hcode.2

theorem Spec.idle {v v' : Visit} {m : Module} (hold : v.stage.hold = .free)
    (hold' : v'.stage.hold = .free) (proxy : v'.proxy = v.proxy) (begun : v'.stage ≠ .entering)
    (begun' : v.stage ≠ .entering) : v.Spec m v' m [] := by
  refine .ofQuiet ?_ (.refl m) proxy begun begun' rfl
  rw [hold, hold']
  exact .refl _ _

theorem enter_spec (v : Visit) (m : Module) (hs : v.stage = .entering) :
    v.Spec m (v.enter m).1 m (v.enter m).2 := by
  have key : (v.enter m).1.stage.hold = .free ∧ (v.enter m).1.stage ≠ .entering ∧
      (v.enter m).1.proxy = v.proxy ∧ gateMarks (v.enter m).2 = [.entered v.entry] ∧
      contextMarks (v.enter m).2 = [] := by
    unfold enter
    split
    · exact ⟨rfl, by simp, rfl, rfl, rfl⟩
    · simp only
      split
      · exact ⟨rfl, by simp, rfl, rfl, rfl⟩
      · exact ⟨rfl, by simp, rfl, rfl, rfl⟩
      · exact ⟨rfl, by simp, rfl, rfl, rfl⟩
  obtain ⟨hold, begun, proxy, gate, context⟩ := key
  refine ⟨?_, .refl m, proxy, begun, fun _ => gate, fun e => absurd hs e⟩
  rw [context, hold, hs]
  exact .refl _ _

theorem read_spec {v v' : Visit} {m m' : Module} {p : ModuleProgram Unit}
    {fresh torn : VisitStage} {tornEvents events : List Event}
    (h : v.read m p fresh torn tornEvents = some (v', m', events))
    (hs : v.stage ≠ .entering) (hold : v.stage.hold = .free)
    (hfresh : fresh.hold = .free ∧ fresh ≠ .entering) (htorn : torn.hold = .free ∧ torn ≠ .entering)
    (hev : gateMarks tornEvents = [] ∧ contextMarks tornEvents = []) : v.Spec m v' m' events := by
  simp only [read, Option.map_eq_some_iff] at h
  obtain ⟨l, hl, h⟩ := h
  split at h
  · rename_i value hslot
    simp only [Prod.mk.injEq] at h
    obtain ⟨rfl, rfl, rfl⟩ := h
    refine .ofQuiet ?_ (m.sameCode_setContext _) rfl (by simp) hs rfl
    rw [hold]
    exact .enter m.context l value hl hslot
  · simp only [Prod.mk.injEq] at h
    obtain ⟨rfl, rfl, rfl⟩ := h
    exact .idle hold hfresh.1 rfl hfresh.2 hs
  · simp only [Prod.mk.injEq] at h
    obtain ⟨rfl, rfl, rfl⟩ := h
    refine .ofQuiet ?_ (.refl m) rfl htorn.2 hs hev.1
    rw [hev.2, hold, show ({ v with stage := torn } : Visit).stage.hold = .free from htorn.1]
    exact .refl _ _

theorem locked_spec (v : Visit) (m : Module) (h : Handler) (p : ModuleProgram Unit)
    (hs : v.stage = .draining p) (hr : m.context.lock.readers = 0) :
    v.Spec m (v.locked m h p).1 (v.locked m h p).2.1 (v.locked m h p).2.2 := by
  have hold : v.stage.hold = .waiting := by rw [hs]; rfl
  have hne : v.stage ≠ .entering := by rw [hs]; simp
  cases hslot : m.context.slot with
  | fresh =>
    simp only [locked, hslot]
    refine .ofQuiet ?_ (m.sameCode_setContext _) rfl (by simp) hne rfl
    rw [hold]
    exact .start m.context hr (by simp [hslot, Slot.value?])
  | live _ | tornDown =>
    simp only [locked, hslot]
    refine .ofQuiet ?_ (m.sameCode_setContext _) rfl (by simp) hne rfl
    rw [hold]
    exact .pass m.context m.context.slot hr (.inl rfl)

/-- Where values are let go quietly, the end of a start lets the visit go on, or sends it back. -/
theorem afterStart_quiet {m : Module} {handler : Handler} (code : m.code = .handler handler)
    (v : Visit) (p : ModuleProgram Unit) (r : Upshot) :
    v.afterStart m p r = ({ v with stage := match r with
                                     | .ok (.ok _) => .secondRead p
                                     | _ => .returned },
      m.setContext (m.context.finishStart (startNotice r)).1,
      (m.context.finishStart (startNotice r)).2) := by
  simp only [afterStart, Module.parting_quiet code, Context.endStart]
  rcases r with q | e | u <;> rfl

theorem afterStart_spec (v : Visit) (m : Module) (p : ModuleProgram Unit) (r : Upshot)
    {i : SelfProgram (Except String Unit)} (hs : v.stage = .initializing p i) :
    v.Spec m (v.afterStart m p r).1 (v.afterStart m p r).2.1 (v.afterStart m p r).2.2 := by
  obtain ⟨context, quiet⟩ := m.context.endStart_spec (startNotice r) (m.drops.parting r)
  have after : (v.afterStart m p r).1.stage.hold = .free ∧
      (v.afterStart m p r).1.stage ≠ .entering := by
    simp only [afterStart]
    split <;> exact ⟨rfl, by simp⟩
  refine .ofQuiet ?_ (m.sameCode_setContext _) rfl after.2 (by simp [hs]) quiet
  rw [after.1, hs]
  exact context

theorem step_spec {v v' : Visit} {m m' : Module} {events : List Event}
    (h : v.step m = some (v', m', events)) : v.Spec m v' m' events := by
  unfold step at h
  split at h
  · rename_i hs
    simp only [Option.some.injEq, Prod.mk.injEq] at h
    obtain ⟨rfl, rfl, rfl⟩ := h
    exact v.enter_spec m hs
  · rename_i p hs
    exact read_spec h (by simp [hs]) (by simp [hs, VisitStage.hold]) ⟨rfl, by simp⟩ ⟨rfl, by simp⟩
      ⟨rfl, rfl⟩
  · rename_i p hs
    simp only [Option.map_eq_some_iff, Prod.mk.injEq] at h
    obtain ⟨l, hl, rfl, rfl, rfl⟩ := h
    refine .ofQuiet ?_ (m.sameCode_setContext _) rfl (by simp) (by simp [hs]) rfl
    rw [hs]
    exact .claim m.context l hl
  · rename_i p hs
    split at h
    · rename_i handler _ _
      split at h
      · rename_i hr
        simp only [Option.some.injEq] at h
        have := v.locked_spec m handler p hs hr
        rwa [h] at this
      · cases h
    · cases h
  · rename_i p o next hs
    simp only [Option.some.injEq, Prod.mk.injEq] at h
    obtain ⟨rfl, rfl, rfl⟩ := h
    have remarks := selfPerform_remarks m o
    refine .ofQuiet ?_ (m.sameCode_perform o) rfl (by simp) (by simp [hs])
      (gateMarks_remarks remarks)
    rw [contextMarks_remarks remarks, hs, o.perform_context]
    exact .refl _ _
  · rename_i p r hs
    simp only [Option.some.injEq] at h
    simpa only [h] using v.afterStart_spec m p (.ok r) hs
  · rename_i p q hs
    simp only [Option.some.injEq] at h
    simpa only [h] using v.afterStart_spec m p (.error q) hs
  · rename_i p hs
    exact read_spec h (by simp [hs]) (by simp [hs, VisitStage.hold]) ⟨rfl, by simp⟩ ⟨rfl, by simp⟩
      ⟨rfl, rfl⟩
  · rename_i g o next hs
    split at h
    · simp only [Option.some.injEq, Prod.mk.injEq] at h
      obtain ⟨rfl, rfl, rfl⟩ := h
      refine .ofQuiet ?_ (.refl m) rfl (by simp) (by simp [hs]) rfl
      rw [hs]
      exact .abandon m.context g
    · rename_i hperform
      simp only [Option.some.injEq, Prod.mk.injEq] at h
      obtain ⟨rfl, rfl, rfl⟩ := h
      exact .perform hperform (by rw [hs]; rfl) rfl (by simp) (by simp [hs])
  · rename_i g r hs
    simp only [Option.some.injEq, Prod.mk.injEq] at h
    obtain ⟨rfl, rfl, rfl⟩ := h
    refine .ofQuiet ?_ (m.sameCode_setContext _) rfl (by simp) (by simp [hs]) rfl
    rw [hs]
    exact .leave m.context g
  · rename_i g q hs
    simp only [Option.some.injEq, Prod.mk.injEq] at h
    obtain ⟨rfl, rfl, rfl⟩ := h
    refine .ofQuiet ?_ (m.sameCode_setContext _) rfl (by simp) (by simp [hs]) rfl
    rw [hs]
    exact .leave m.context g
  · rename_i o next hs
    split at h
    · simp only [Option.some.injEq, Prod.mk.injEq] at h
      obtain ⟨rfl, rfl, rfl⟩ := h
      exact .idle (by rw [hs]; rfl) rfl rfl (by simp) (by simp [hs])
    · rename_i hperform
      simp only [Option.some.injEq, Prod.mk.injEq] at h
      obtain ⟨rfl, rfl, rfl⟩ := h
      exact .perform hperform (by rw [hs]; rfl) rfl (by simp) (by simp [hs])
  · rename_i r hs
    simp only [Option.some.injEq, Prod.mk.injEq] at h
    obtain ⟨rfl, rfl, rfl⟩ := h
    exact .idle (by rw [hs]; rfl) rfl rfl (by simp) (by simp [hs])
  · rename_i q hs
    simp only [Option.some.injEq, Prod.mk.injEq] at h
    obtain ⟨rfl, rfl, rfl⟩ := h
    exact .idle (by rw [hs]; rfl) rfl rfl (by simp) (by simp [hs])
  · cases h
  · cases h
  · cases h

end Visit

end ModuleHost
