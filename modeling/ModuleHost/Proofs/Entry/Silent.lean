import ModuleHost.Proofs.Entry.Dropped

/-!
# Requests that come to nothing

A request entry with live handles that is over has run the handler once, or it has said on its own
thread why not, or it was overtaken: it found the module fresh, and when the start on its way was done
and it looked again, there was no value any more. The second look says nothing, where the first one
tells of a request after the unload (`answered_unless_overtaken`). A run where a request is overtaken
and lost without a word stands at the end.
-/
namespace ModuleHost

open Boundary

/-- Whether events tell of an error. -/
def TellsError (events : List Event) : Prop := ∃ n, .notice n ∈ events ∧ n.level = .error

theorem TellsError.append_left {events : List Event} (h : TellsError events) (more : List Event) :
    TellsError (events ++ more) := by
  obtain ⟨n, mem, level⟩ := h
  exact ⟨n, List.mem_append_left _ mem, level⟩

theorem TellsError.append_right {more : List Event} (h : TellsError more) (events : List Event) :
    TellsError (events ++ more) := by
  obtain ⟨n, mem, level⟩ := h
  exact ⟨n, List.mem_append_right _ mem, level⟩

/-- Where a visit stands that has found the module fresh and has not looked again. -/
def VisitStage.Between : VisitStage → Prop
  | .claiming _ | .draining _ | .initializing .. | .secondRead _ => True
  | _ => False

theorem VisitStage.Between.inside {stage : VisitStage} (between : stage.Between) :
    ¬ stage.Over ∧ stage ≠ .entering ∧ stage.Undecided := by
  cases stage with
  | claiming | draining | initializing | secondRead =>
    exact ⟨id, VisitStage.noConfusion, trivial⟩
  | _ => exact between.elim

namespace Visit

variable {v v' : Visit} {h : Handler} {m m' : Module} {events : List Event}

/-- A start that fails says why. -/
theorem tells_failure {p : ModuleProgram Unit} {i : SelfProgram (Except String Unit)}
    (code : m.code = .handler h) (hs : v.step m = some (v', m', events))
    (starting : v.stage = .initializing p i)
    (returned : v'.stage = .returned) : TellsError events := by
  cases i with
  | ask o next =>
    simp only [step, starting, Option.some.injEq, Prod.mk.injEq] at hs
    obtain ⟨rfl, -⟩ := hs
    cases returned
  | ret r =>
    simp only [step, starting, afterStart_quiet code, Option.some.injEq, Prod.mk.injEq] at hs
    obtain ⟨rfl, -, rfl⟩ := hs
    cases r with
    | ok u => cases returned
    | error e => exact ⟨.initFailed e, by simp [startNotice, Context.finishStart], rfl⟩
  | panic q =>
    simp only [step, starting, afterStart_quiet code, Option.some.injEq, Prod.mk.injEq] at hs
    obtain ⟨-, -, rfl⟩ := hs
    exact ⟨.initPanicked q.message, by simp [startNotice, Context.finishStart], rfl⟩

/-- How an entry goes on that has passed the entrance and has not begun the handler: it begins it; or
it comes to look again, having found the module fresh; or it says why it ends; or it has looked again
and found no value. -/
theorem step_tells (code : m.code = .handler h) (hs : v.step m = some (v', m', events))
    (past : v.stage ≠ .entering) (undecided : v.stage.Undecided) :
    v'.stage.Decided ∧ events.countP Event.isDispatch = 1 ∨
      v'.stage.Between ∧ (v.stage.Between ∨ m.context.phase = .fresh) ∨
      v'.stage = .returned ∧ TellsError events ∨
      v'.stage = .returned ∧ (∃ p, v.stage = .secondRead p) ∧ m.context.phase ≠ .live ∧
        events = [] := by
  rcases step_cases hs with ⟨entering, -⟩ | ⟨stage, data, rfl, passage⟩
  · exact absurd entering past
  have elsewhere {st : VisitStage} (hst : v.stage = st) (decided : ¬ st.Undecided) : False :=
    decided (hst ▸ undecided)
  cases passage with
  | begun => exact .inl ⟨trivial, rfl⟩
  | fresh p hst slot =>
    exact .inr (.inl ⟨trivial, .inr (by simp [Context.phase, slot, Slot.phase])⟩)
  | torn => exact .inr (.inr (.inl ⟨rfl, _, List.mem_singleton.mpr rfl, rfl⟩))
  | missed p hst none =>
    refine .inr (.inr (.inr ⟨rfl, ⟨p, hst⟩, fun live => ?_, rfl⟩))
    cases slot : m.context.slot <;> simp [Context.phase, Slot.phase, slot] at live
    simp [slot, Slot.value?] at none
  | claim p l hst | start p h drops hst | pass p h drops hst | init p o next hst
  | built p u hst =>
    exact .inr (.inl ⟨trivial, .inl (by rw [hst]; trivial)⟩)
  | failed p i n hst => exact .inr (.inr (.inl ⟨rfl, tells_failure code hs hst rfl⟩))
  | broke p i r told hst loud => exact absurd (Module.parting_quiet code r) loud
  | handle g o next a data m' events hst | serve o next a data m' events hst | ended g u hst
  | served u hst | escaped g q hst | escape q hst => exact (elsewhere hst id).elim
  | fault o next f hst =>
    rcases hst with ⟨g, hst⟩ | hst <;> exact (elsewhere hst id).elim

end Visit

namespace System

variable {s s' : System} {t j : Nat} {v v' : Visit} {h : Handler} {log : List Event}

/-- Whether the entry of thread `t` found the module fresh, and when it looked again after the start,
the value was gone; it has said nothing about it. -/
def Overtaken (s : System) (t j : Nat) (s' : System) : Prop :=
  ∃ (s₀ s₁ s₂ : System) (v : Visit) (p : ModuleProgram Unit), s.Follows t s₀ ∧
    (s₀.context j).phase = .fresh ∧ s₀.Follows t s₁ ∧ s₁.Attends t j v ∧ v.stage = .secondRead p ∧
    (s₁.context j).phase ≠ .live ∧ s₁.step t = some s₂ ∧ s₂.threadLog t = s₁.threadLog t ∧
    s₂.Follows t s'

/-- What is known of an entry with visit `v` as far as it has come. -/
inductive EntryProgress (s : System) (t j : Nat) (v : Visit) (s' : System) (v' : Visit) (log : List Event) :
    Prop
  | dispatched : v'.stage.Decided → 0 < log.countP Event.isDispatch → EntryProgress s t j v s' v' log
  | before : v' = v → EntryProgress s t j v s' v' log
  | looks (p : ModuleProgram Unit) : v'.stage = .firstRead p → EntryProgress s t j v s' v' log
  | between (s₀ : System) : v'.stage.Between → s.Follows t s₀ → (s₀.context j).phase = .fresh →
      s₀.Follows t s' → EntryProgress s t j v s' v' log
  | told : v'.stage = .returned → TellsError log → EntryProgress s t j v s' v' log
  | overtaken : v'.stage = .returned → s.Overtaken t j s' → EntryProgress s t j v s' v' log

theorem EntryProgress.aside {s₂ : System} (progress : s.EntryProgress t j v s' v' log)
    (stays : Stays t s' s₂) :
    s.EntryProgress t j v s₂ v' log := by
  cases progress with
  | dispatched decided once => exact .dispatched decided once
  | before same => exact .before same
  | looks p first => exact .looks p first
  | between s₀ between first fresh rest => exact .between s₀ between first fresh (rest.tail stays)
  | told returned error => exact .told returned error
  | overtaken returned late =>
    obtain ⟨s₀, s₁, s₃, v₁, p, first, fresh, then₁, here, second, gone, hs, silent, rest⟩ := late
    exact .overtaken returned ⟨s₀, s₁, s₃, v₁, p, first, fresh, then₁, here, second, gone, hs, silent,
      rest.tail stays⟩

theorem EntryProgress.part {s₂ : System} {v₂ : Visit} {events : List Event}
    (progress : s.EntryProgress t j v s' v' log)
    (entering : v.stage = .entering) (gone : v'.stage.Over) (same : v₂.stage = v'.stage)
    (stays : Stays t s' s₂) :
    s.EntryProgress t j v s₂ v₂ (log ++ events) := by
  cases progress.aside stays with
  | dispatched decided once =>
    exact .dispatched (same ▸ decided) (by rw [List.countP_append]; omega)
  | before eq =>
    rw [eq, entering] at gone
    exact gone.elim
  | looks p first =>
    rw [first] at gone
    exact gone.elim
  | between s₀ between => exact absurd gone between.inside.1
  | told returned error => exact .told (same.trans returned) (error.append_left events)
  | overtaken returned late => exact .overtaken (same.trans returned) late

/-- A step of the visit takes what is known of the entry along. -/
theorem EntryProgress.visit {s₂ : System} {v₂ : Visit} {m m' : Module} {events : List Event}
    (progress : s.EntryProgress t j v s' v' log) (genuine : v.Genuine h) (entering : v.stage = .entering)
    (follows : s.Follows t s') (here : s'.Attends t j v') (hs : s'.step t = some s₂)
    (grown : s₂.threadLog t = s'.threadLog t ++ events) (hm : s'.modules[j]? = some m)
    (code : m.code = .handler h) (hstep : v'.step m = some (v₂, m', events)) :
    s.EntryProgress t j v s₂ v₂ (log ++ events) := by
  have stays : Stays t s' s₂ := ⟨.step _ _ t hs, .inr hs⟩
  have context : (s'.context j).phase = m.context.phase := by simp [System.context, hm]
  have begins (decided : v₂.stage.Decided) (once : events.countP Event.isDispatch = 1) :
      s.EntryProgress t j v s₂ v₂ (log ++ events) :=
    .dispatched decided (by rw [List.countP_append]; omega)
  have ends (returned : v'.stage = .returned) : False := by
    simp only [Visit.step, returned, reduceCtorEq] at hstep
  cases progress with
  | dispatched decided once =>
    rcases Visit.step_cases hstep with ⟨entrance, -⟩ | ⟨stage, data, rfl, passage⟩
    · rw [entrance] at decided
      exact decided.elim
    · exact .dispatched ((passage.dispatches code).2 decided).2 (by rw [List.countP_append]; omega)
  | before same =>
    subst same
    rcases Visit.step_cases hstep with ⟨-, rfl, -, rfl⟩ | ⟨stage, data, rfl, passage⟩
    · rcases genuine.enter code with ⟨-, enter⟩ | ⟨-, enter⟩ <;> rw [enter]
      · exact .told rfl ⟨.nullHandle (v'.handed h).1, by simp, rfl⟩
      · exact .looks _ rfl
    · exact absurd entering passage.past
  | looks p first =>
    rcases Visit.step_tells code hstep (by rw [first]; simp) (by rw [first]; trivial) with
      ⟨decided, once⟩ | ⟨between, fresh⟩ | ⟨returned, error⟩ | ⟨-, ⟨q, second⟩, -⟩
    · exact begins decided once
    · have fresh : m.context.phase = .fresh := fresh.resolve_left (by rw [first]; exact id)
      exact .between s' between follows (context.trans fresh) (.single stays)
    · exact .told returned (error.append_right log)
    · cases first.symm.trans second
  | between s₀ within first fresh rest =>
    obtain ⟨-, past, undecided⟩ := within.inside
    rcases Visit.step_tells code hstep past undecided with
      ⟨decided, once⟩ | ⟨between, -⟩ | ⟨returned, error⟩ | ⟨returned, ⟨q, second⟩, gone, rfl⟩
    · exact begins decided once
    · exact .between s₀ between first fresh (rest.tail stays)
    · exact .told returned (error.append_right log)
    · exact .overtaken returned ⟨s₀, s', s₂, v', q, first, fresh, rest, here, second,
        context ▸ gone, hs, grown.trans (List.append_nil _), .refl⟩
  | told returned | overtaken returned => exact (ends returned).elim

/-- **Answered unless overtaken.** However threads load, unload and call a module meanwhile: a request
entry with live handles that is over has run the handler exactly once; or it has not run it and has told
an error on its own thread; or it was overtaken by a teardown between its start and its second look at
the slot, which says nothing. -/
theorem answered_unless_overtaken (hr : Run s) (code : s.HasHandler j h) (here : s.Enters t j v)
    (genuine : v.Genuine h) (follows : s.Follows t s') (here' : s'.Attends t j v')
    (gone : v'.stage.Over) (hlog : s'.threadLog t = s.threadLog t ++ log) :
    log.countP Event.isDispatch = 1 ∨
      log.countP Event.isDispatch = 0 ∧ (TellsError log ∨ s.Overtaken t j s') := by
  suffices progress : ∃ v' log, s'.Attends t j v' ∧ s'.threadLog t = s.threadLog t ++ log ∧
      s.EntryProgress t j v s' v' log by
    obtain ⟨v₁, log₁, here₁, hlog₁, progress⟩ := progress
    obtain rfl := here'.unique here₁
    obtain rfl := List.append_cancel_left (hlog₁.symm.trans hlog)
    obtain ⟨v₂, log₂, -, hlog₂, steps⟩ := follows.stepsTo hr code here.attends
    obtain rfl := List.append_cancel_left (hlog₂.symm.trans hlog)
    rcases steps.dispatches genuine here.stage with ⟨none, -⟩ | ⟨once, -⟩
    · refine .inr ⟨none, ?_⟩
      cases progress with
      | dispatched decided once => omega
      | before same =>
        rw [same, here.stage] at gone
        exact gone.elim
      | looks p first =>
        rw [first] at gone
        exact gone.elim
      | between s₀ between => exact absurd gone between.inside.1
      | told returned error => exact .inl error
      | overtaken returned late => exact .inr late
    · exact .inl once
  refine follows.attended (P := fun s₂ v₂ log => s.EntryProgress t j v s₂ v₂ log) hr here.attends
    (.before rfl)
    (fun _ stays _ _ progress => progress.aside stays) fun {s₁ s₂ v₁ v₂ log events} before hs here₁ _
    grown entryStep progress => ?_
  cases entryStep with
  | part gone same => exact progress.part here.stage gone same ⟨.step _ _ t hs, .inr hs⟩
  | visit m m' hm hm' hstep =>
    exact progress.visit genuine here.stage before here₁ hs grown hm
      ((code.later hr (Follows.later before)).code hm) hstep

/-! ## A request that is lost -/

/-- Thread 0 is about to make a request of a module that nobody has loaded, and thread 1 to unload it. -/
def sampleRace : System :=
  ((({} : System).addModule .sample).spawn (.visiting 0 (sampleVisit false))).spawn
    (.hooking 0 .unload .entering)

/-- The request has started the handler, the unload has come in between, and the request is over. -/
def sampleLost : System :=
  (sampleRace.steps (List.replicate 5 0 ++ List.replicate 5 1 ++ [0])).getD {}

theorem run_sampleRace : Run sampleRace := by
  have installed : Run (({} : System).addModule .sample) := Run.move (.refl {}) (.install _ _ rfl)
  have asked := installed.move (.begin _ (.visiting 0 (sampleVisit false)) rfl (by simp [Task.on?]))
  exact asked.move (.begin _ (.hooking 0 .unload .entering) rfl (by simp [Task.on?]))

theorem follows_sampleLost : sampleRace.Follows 0 sampleLost :=
  follows_of_steps 0 (List.replicate 5 0 ++ List.replicate 5 1 ++ [0]) rfl

theorem enters_sampleRace : sampleRace.Enters 0 0 (sampleVisit false) :=
  ⟨⟨_, rfl, .inl rfl, rfl⟩, rfl⟩

theorem threadLog_sampleLost : sampleLost.threadLog 0 = sampleRace.threadLog 0 ++
    [.entered .handleRequest, .startBegun 0, .built 1, .notice (.contextInitialized 1)] := by
  decide +kernel

/-- The handler of the module in the short runs. -/
def sampleHandler : Handler := { init := fun _ => .ret (.ok ()), handle := fun _ => .ret () }

theorem genuine_sampleVisit : (sampleVisit false).Genuine sampleHandler :=
  ⟨fun r hr => by cases hr; rfl, fun r hr => by cases hr; rfl⟩

/-- Not every request is answered: this one has not run the handler, and has told no error. -/
theorem request_lost_silently :
    ¬ ∀ (s s' : System) (t j : Nat) (v v' : Visit) (h : Handler) (log : List Event), Run s →
      s.HasHandler j h → s.Enters t j v → v.Genuine h → s.Follows t s' → s'.Attends t j v' →
      v'.stage.Over → s'.threadLog t = s.threadLog t ++ log →
      log.countP Event.isDispatch = 1 ∨ TellsError log := by
  intro answered
  rcases answered sampleRace sampleLost 0 0 _ _ sampleHandler _ run_sampleRace ⟨_, rfl, rfl⟩
    enters_sampleRace genuine_sampleVisit follows_sampleLost ⟨_, rfl, .inl rfl, rfl⟩ trivial
    threadLog_sampleLost with once | ⟨n, mem, level⟩
  · cases once
  · simp only [List.mem_cons, reduceCtorEq, Event.notice.injEq, List.not_mem_nil, or_false,
      false_or] at mem
    subst mem
    cases level

theorem answered_unless_overtaken_sample : Run sampleRace ∧ sampleRace.Overtaken 0 0 sampleLost := by
  refine ⟨run_sampleRace, ?_⟩
  rcases answered_unless_overtaken run_sampleRace ⟨_, rfl, rfl⟩ enters_sampleRace genuine_sampleVisit
    follows_sampleLost ⟨_, rfl, .inl rfl, rfl⟩ trivial threadLog_sampleLost with
    once | ⟨-, ⟨n, mem, level⟩ | late⟩
  · cases once
  · simp only [List.mem_cons, reduceCtorEq, Event.notice.injEq, List.not_mem_nil, or_false,
      false_or] at mem
    subst mem
    cases level
  · exact late

end System

end ModuleHost
