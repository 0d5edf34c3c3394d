import ModuleHost.Demo.Libraries
import ModuleHost.Proofs.Context.Output
import ModuleHost.Proofs.Demo.Calls

/-!
# What threads do in the demo module

As far as its output goes, a thread in the code of the demo module takes one of a few steps
(`OutputStep`): it idles, builds a value, begins a dispatch, puts a part of it out, ends it or breaks
off, begins a shutdown, speaks a part of what that has to say, or drops the value.
`outputStep_of_step` says that a step in the module's code is no other, if printing works there, and
that it leads from a place where the demo's own programs run (`Proper`) to such a place.
-/
namespace ModuleHost

open Text Boundary

namespace Event

/-- Whether the event tells neither of a value nor of a text. -/
def IsIdle (e : Event) : Prop := e.generation? = none ∧ e.text? = none

theorem IsAside.isIdle {e : Event} (h : e.IsAside) : e.IsIdle := by
  refine ⟨?_, h.2⟩
  cases e <;> first | rfl | cases h.1

theorem isDispatch_of_generation? {e : Event} (h : e.generation? = none) : e.isDispatch = false := by
  cases e <;> first | rfl | cases h

theorem generation?_of_remark {e : Event} (remark : e.isRemark = true) : e.generation? = none := by
  cases e <;> first | rfl | cases remark

end Event

theorem pieces_of_idle {events : List Event} (h : ∀ e ∈ events, e.IsIdle) : pieces events = [] :=
  List.filterMap_eq_nil_iff.mpr fun e he => (h e he).2

namespace Demo

/-- What is said at the end of a value that has counted so many requests. -/
def farewell (n : Nat) : String := "Unloading after " ++ toString n ++ " requests"

/-- Whether the programs in a lifecycle entry point are the demo's own. -/
def ProperHook : HookStage → Prop
  | .initializing p => p = .ret (.ok ())
  | .closing v p => p = shutdown v.seen ∨ p = .ret (.ok ())
  | .dropping _ p => p = .ret ()
  | .plain p => ∃ code, p = .ret code
  | .unwinding .. => False
  | .entering | .claiming | .draining | .returned _ | .escaped => True

/-- Whether the programs in a request entry point are the demo's own; of the handler that runs, only
the output that is left matters. -/
def ProperVisit (v : Visit) : Prop :=
  match v.stage with
  | .firstRead p | .claiming p | .draining p | .secondRead p =>
    p = handler.guarded v.proxy v.errand v.given
  | .initializing p i => p = handler.guarded v.proxy v.errand v.given ∧ i = .ret (.ok ())
  | .running _ p => p.Yields v.data (p.output v.data) fun _ => True
  | .plain _ => False
  | .entering | .returned | .faulted _ | .escaped => True

def Proper : Post → Prop
  | .outside => True
  | .hook _ h => ProperHook h
  | .visit v => ProperVisit v

theorem proper_of_isNew {σ : Post} (new : σ.IsNew) : Proper σ := by
  cases σ with
  | outside => trivial
  | hook hook h => cases new; trivial
  | visit v =>
    have entering : v.stage = .entering := new
    simp only [Proper, ProperVisit, entering]

/-- What a step of a thread is to the output of the demo module: the context, the events and the posts
of the thread before and after it. -/
inductive OutputStep (c c' : Context) (events : List Event) (σ σ' : Post) : Prop
  | idle :
      σ.Idle → σ'.Idle → c'.lock.readers = c.lock.readers →
      (∀ v, c'.slot = .live v → c.slot = .live v) → (∀ e ∈ events, e.IsIdle) →
      OutputStep c c' events σ σ'
  | builds (n : Notice) :
      σ.Idle → σ'.Idle → σ.hold = .starting → c'.slot = .live ⟨c.generation + 1, 0⟩ →
      events = [.built (c.generation + 1), .notice n] → OutputStep c c' events σ σ'
  | begins (v : HandlerValue) (d : Dispatch) :
      c.slot = .live v → σ.Idle → σ'.closes? = none → σ'.hold.reads = true →
      σ'.serves = due d.proxy d.data → d.generation = v.generation → c'.slot = c.slot →
      c'.lock.readers = c.lock.readers + 1 → events = [.handlerBegun v.generation] →
      events.filterMap σ'.dispatch? = [d] → OutputStep c c' events σ σ'
  | puts (v : HandlerValue) (n : Nat) :
      c.slot = .live v → σ.closes? = none → σ'.closes? = none → σ.hold.reads = true →
      σ'.hold.reads = true → σ.serves = ((↑(pieces events), n) : Output) + σ'.serves →
      c' = { c with slot := .live { v with seen := v.seen + n } } →
      (∀ e ∈ events, e.generation? = none) → OutputStep c c' events σ σ'
  | ends (g : Nat) :
      σ.hold.reads = true → σ.serves = 0 → σ.closes? = none → σ'.Idle → c'.slot = c.slot →
      c'.lock.readers = c.lock.readers - 1 → events = [.handlerEnded g] → OutputStep c c' events σ σ'
  | breaks :
      σ.hold.reads = true → σ.closes? = none → σ'.Idle → c' = c → events = [] →
      OutputStep c c' events σ σ'
  | closes (v : HandlerValue) :
      c.slot = .live v → σ.Idle → σ'.closes? = some (v.generation, [farewell v.seen ++ "\n"]) →
      c.lock.readers = 0 → c'.slot = .tornDown → events = [.shutdownBegun v.generation] →
      OutputStep c c' events σ σ'
  | speaks (g : Nat) (rest : List String) :
      σ.closes? = some (g, pieces events ++ rest) → σ'.closes? = some (g, rest) → c' = c →
      (∀ e ∈ events, e.generation? = none) → OutputStep c c' events σ σ'
  | drops (g : Nat) :
      σ.closes? = some (g, []) → σ'.Idle → c'.slot = c.slot → events = [.dropped g] →
      OutputStep c c' events σ σ'

/-! ## Steps -/

section
variable {m m' : Module} {events : List Event}

theorem locked_outputStep (hook : Hook) (readers : m.context.lock.readers = 0) :
    OutputStep m.context (HookStage.locked hook m handler).2.1.context (HookStage.locked hook m handler).2.2
        (.hook hook .draining) (.hook hook (HookStage.locked hook m handler).1) ∧
      ProperHook (HookStage.locked hook m handler).1 := by
  have waiting : (Post.hook hook .draining).Idle := ⟨rfl, rfl, rfl⟩
  cases slot : m.context.slot with
  | live v =>
    cases hook with
    | load =>
      simp only [HookStage.locked, slot]
      refine ⟨.idle waiting ⟨rfl, rfl, rfl⟩ rfl (fun v' hv => ?_) ?_, trivial⟩
      · exact hv
      · simp [Event.IsIdle, Event.generation?, Event.text?]
    | probe | unload =>
      simp only [HookStage.locked, slot]
      exact ⟨.closes v slot waiting rfl readers rfl rfl, .inl rfl⟩
  | fresh | tornDown =>
    cases hook with
    | load =>
      simp only [HookStage.locked, slot]
      refine ⟨.idle waiting ⟨rfl, rfl, rfl⟩ rfl (fun v' hv => ?_) ?_, rfl⟩
      · exact hv
      · simp [Event.IsIdle, Event.generation?, Event.text?]
    | probe | unload =>
      simp only [HookStage.locked, slot]
      refine ⟨.idle waiting ⟨rfl, rfl, rfl⟩ rfl (fun v' hv => ?_) ?_, trivial⟩
      · first | exact hv | cases hv
      · simp [Event.IsIdle, Event.generation?, Event.text?]

theorem hook_outputStep {hook : Hook} {h h' : HookStage} (demo : demo.module.SameCode m)
    (proper : ProperHook h) (step : h.step hook m = some (h', m', events)) :
    OutputStep m.context m'.context events (.hook hook h) (.hook hook h') ∧ ProperHook h' := by
  have code : m.code = .handler handler := demo.code
  cases h with
  | entering =>
    cases step
    have probe : m.probe = .ret abiVersion := demo.probe
    cases hook with
    | probe =>
      simp only [HookStage.start, probe, Program.bind]
      refine ⟨.idle ⟨rfl, rfl, rfl⟩ ⟨rfl, rfl, rfl⟩ rfl (fun v hv => hv) ?_, _, rfl⟩
      simp [Event.IsIdle, Event.generation?, Event.text?]
    | load | unload =>
      simp only [HookStage.start, code]
      refine ⟨.idle ⟨rfl, rfl, rfl⟩ ⟨rfl, rfl, rfl⟩ rfl (fun v hv => hv) ?_, trivial⟩
      simp [Event.IsIdle, Event.generation?, Event.text?]
  | claiming =>
    simp only [HookStage.step, Option.map_eq_some_iff, Prod.mk.injEq] at step
    obtain ⟨l, hl, rfl, rfl, rfl⟩ := step
    obtain ⟨-, rfl⟩ := Lock.claim?_eq_some hl
    exact ⟨.idle ⟨rfl, rfl, rfl⟩ ⟨rfl, rfl, rfl⟩ rfl (fun v hv => hv) (by simp), trivial⟩
  | draining =>
    simp only [HookStage.step, code] at step
    split at step
    · rename_i readers
      have out := locked_outputStep hook readers
      rw [Option.some.inj step] at out
      exact out
    · cases step
  | initializing p =>
    cases proper
    simp only [HookStage.step, HookStage.afterStart_quiet code, Option.some.injEq,
      Prod.mk.injEq] at step
    obtain ⟨rfl, rfl, rfl⟩ := step
    exact ⟨.builds _ ⟨rfl, rfl, rfl⟩ ⟨rfl, rfl, rfl⟩ rfl rfl rfl, trivial⟩
  | closing v p =>
    rcases proper with rfl | rfl
    · have sink : ∀ n, m.sink n = none := fun n => congrFun demo.sink n
      have said : HookStage.step hook m (.closing v (shutdown v.seen)) =
          some (.closing v (.ret (.ok ())), { m with prints := m.prints + 1 },
            [.printed (farewell v.seen ++ "\n")]) := by
        simp only [shutdown, SelfProgram.own, Program.op, Bind.bind, Program.bind, HookStage.step,
          SelfOp.perform, Module.print, sink]
        rfl
      cases said.symm.trans step
      exact ⟨.speaks v.generation [] rfl rfl rfl (by simp [Event.generation?]), .inr rfl⟩
    · simp only [HookStage.step, HookStage.afterClose_quiet code, Option.some.injEq,
        Prod.mk.injEq] at step
      obtain ⟨rfl, rfl, rfl⟩ := step
      exact ⟨.speaks v.generation [] rfl rfl rfl (by simp [Event.generation?]), rfl⟩
  | dropping v p =>
    cases proper
    cases step
    exact ⟨.drops v.generation rfl ⟨rfl, rfl, rfl⟩ rfl rfl, trivial⟩
  | unwinding => exact proper.elim
  | plain p =>
    obtain ⟨code, rfl⟩ := proper
    cases step
    exact ⟨.idle ⟨rfl, rfl, rfl⟩ ⟨rfl, rfl, rfl⟩ rfl (fun v hv => hv) (by simp), trivial⟩
  | returned code => cases step
  | escaped => cases step

theorem enter_outputStep {v : Visit} (demo : demo.module.SameCode m) (entering : v.stage = .entering) :
    OutputStep m.context m.context (v.enter m).2 (.visit v) (.visit (v.enter m).1) ∧
      ProperVisit (v.enter m).1 := by
  have code : m.code = .handler handler := demo.code
  have before : (Post.visit v).Idle := Post.idle_visit (by rw [entering]; rfl)
  have relay : handler.relay v.errand v.proxy v.handles = (v.proxy, v.handles) := rfl
  simp only [Visit.enter, code, relay]
  split
  · refine ⟨.idle before (Post.idle_visit rfl) rfl (fun v hv => hv) ?_, trivial⟩
    simp [Event.IsIdle, Event.generation?, Event.text?]
  · refine ⟨.idle before (Post.idle_visit rfl) rfl (fun v hv => hv) ?_, trivial⟩
    simp [Event.IsIdle, Event.generation?, Event.text?]
  · refine ⟨.idle before (Post.idle_visit rfl) rfl (fun v hv => hv) ?_, rfl⟩
    simp [Event.IsIdle, Event.generation?, Event.text?]

theorem passage_outputStep {v : Visit} {stage : VisitStage} {data : CallData}
    (demo : demo.module.SameCode m) (proper : ProperVisit v)
    (reading : ∀ g, v.stage.hold = .reading g → m.context.slot.value? = some g)
    (passage : v.Passage m stage data m' events) :
    OutputStep m.context m'.context events (.visit v) (.visit { v with stage, data }) ∧
      ProperVisit { v with stage, data } := by
  have code : m.code = .handler handler := demo.code
  have sink : ∀ n, m.sink n = none := fun n => congrFun demo.sink n
  cases passage with
  | begun p l value hs hl slot =>
    have own : p = handler.guarded v.proxy v.errand v.given := by
      rcases hs with hs | hs <;> simpa only [ProperVisit, hs] using proper
    have before : (Post.visit v).Idle :=
      Post.idle_visit (by rcases hs with hs | hs <;> rw [hs] <;> rfl)
    obtain ⟨-, rfl⟩ := Lock.acquireRead?_eq_some hl
    have yields := guarded_yields v.proxy v.errand v.given v.data
    rw [← own] at yields
    refine ⟨.begins value ⟨value.generation, v.proxy, v.data⟩ slot before rfl rfl yields.output rfl
      rfl rfl rfl rfl, ?_⟩
    show p.Yields v.data (p.output v.data) _
    rw [yields.output]
    exact yields
  | fresh p hs slot =>
    simp only [ProperVisit, hs] at proper
    exact ⟨.idle (Post.idle_visit (by rw [hs]; rfl)) (Post.idle_visit rfl) rfl (fun v hv => hv)
      (by simp), proper⟩
  | torn p hs slot =>
    refine ⟨.idle (Post.idle_visit (by rw [hs]; rfl)) (Post.idle_visit rfl) rfl (fun v hv => hv) ?_,
      trivial⟩
    simp [Event.IsIdle, Event.generation?, Event.text?]
  | missed p hs slot =>
    exact ⟨.idle (Post.idle_visit (by rw [hs]; rfl)) (Post.idle_visit rfl) rfl (fun v hv => hv)
      (by simp), trivial⟩
  | claim p l hs hl =>
    simp only [ProperVisit, hs] at proper
    obtain ⟨-, rfl⟩ := Lock.claim?_eq_some hl
    exact ⟨.idle (Post.idle_visit (by rw [hs]; rfl)) (Post.idle_visit rfl) rfl (fun v hv => hv)
      (by simp), proper⟩
  | start p h drops hs handles readers slot =>
    simp only [ProperVisit, hs] at proper
    cases handles.symm.trans code
    refine ⟨.idle (Post.idle_visit (by rw [hs]; rfl)) (Post.idle_visit rfl) rfl (fun v hv => hv) ?_,
      proper, rfl⟩
    simp [Event.IsIdle, Event.generation?, Event.text?]
  | pass p h drops hs handles readers slot =>
    simp only [ProperVisit, hs] at proper
    exact ⟨.idle (Post.idle_visit (by rw [hs]; rfl)) (Post.idle_visit rfl) rfl (fun v hv => hv)
      (by simp), proper⟩
  | init p o next hs =>
    simp only [ProperVisit, hs] at proper
    cases proper.2
  | built p u hs =>
    simp only [ProperVisit, hs] at proper
    exact ⟨.builds _ (Post.idle_visit (by rw [hs]; rfl)) (Post.idle_visit rfl)
      (by simp only [Post.hold, hs, VisitStage.hold]) rfl rfl, proper.1⟩
  | failed p i n hs =>
    refine ⟨.idle (Post.idle_visit (by rw [hs]; rfl)) (Post.idle_visit rfl) rfl ?_ ?_, trivial⟩
    · intro v hv
      cases hv
    · simp [Context.finishStart, Event.IsIdle, Event.generation?, Event.text?]
  | broke p i r told hs loud => exact absurd (Module.parting_quiet code r) loud
  | handle g o next a data m' events hs perform =>
    simp only [ProperVisit, hs] at proper
    have held : v.stage.hold = .reading g := by rw [hs]; rfl
    have value := reading g held
    cases slot : m.context.slot with
    | live value' =>
      obtain ⟨fits, rfl⟩ := Visit.perform_fits perform
      obtain ⟨n, output, after⟩ := Visit.perform_output code sink slot perform
      obtain ⟨sum, yields⟩ := proper.answer fits
      refine ⟨.puts value' n slot rfl rfl ?_ rfl ?_ after ?_, yields⟩
      · simp only [Post.hold, held, Hold.reads]
      · simp only [Post.serves, hs]
        rw [sum, output]
      · exact fun e he => Event.generation?_of_remark ((perform_remarks perform).2 e he)
    | fresh | tornDown =>
      rw [slot] at value
      cases value
  | ended g u hs | escaped g u hs =>
    refine ⟨.ends g ?_ ?_ rfl (Post.idle_visit rfl) rfl rfl rfl, trivial⟩
    · simp only [Post.hold, hs, VisitStage.hold, Hold.reads]
    · simp only [Post.serves, hs, ModuleProgram.output]
  | fault o next f hs perform =>
    rcases hs with ⟨g, hs⟩ | hs
    · refine ⟨.breaks ?_ rfl (Post.idle_visit rfl) rfl rfl, trivial⟩
      simp only [Post.hold, hs, VisitStage.hold, Hold.reads]
    · simp only [ProperVisit, hs] at proper
  | serve o next a data m' events hs | served u hs | escape q hs => simp only [ProperVisit, hs] at proper

end

/-- **Every step in the demo module is an output step**, and leads to a place where the demo's own programs
run. -/
theorem outputStep_of_step {m m' : Module} {events : List Event} {σ σ' : Post} (demo : demo.module.SameCode m)
    (proper : Proper σ) (reading : ∀ g, σ.hold = .reading g → m.context.slot.value? = some g)
    (step : Post.Step m m' events σ σ') :
    OutputStep m.context m'.context events σ σ' ∧ Proper σ' := by
  cases step with
  | hook hook h h' hs => exact hook_outputStep demo proper hs
  | visit v v' hs =>
    rcases Visit.step_cases hs with ⟨entering, rfl, rfl, rfl⟩ | ⟨stage, data, rfl, passage⟩
    · exact enter_outputStep demo entering
    · exact passage_outputStep demo proper reading passage
  | aside _ _ free new same aside =>
    subst same
    exact ⟨.idle (Post.idle_of_free free) (Post.idle_of_free new.hold) rfl (fun v hv => hv)
      fun e he => (aside e he).isIdle, proper_of_isNew new⟩

end Demo

end ModuleHost
