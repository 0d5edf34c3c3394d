import ModuleHost.Proofs.Containment.Visits
import ModuleHost.Proofs.Entry.Torn

/-!
# What a dropped request leaves

A request entry whose handles are live runs the handler once or not at all (`Visit.StepsTo.dispatches`).
Where it does not, for whatever reason and whatever others do meanwhile, the data of its call is what
it was and no dispatch is counted for it; with a handle or a table missing, or a read-only request at
the proxy entry, it does not come near the lock. A start that fails on its way leaves the context as
it found it, so that the next request tries again; and a context that was torn down is changed by a
load only.
-/
namespace ModuleHost

open Boundary

/-! ## Handles -/

namespace Visit

/-- What the entry points of handler `h` hand on: whether as a proxy call, and which handles. -/
def handed (v : Visit) (h : Handler) : Bool × Handles := h.relay v.errand v.proxy v.handles

/-- The handles that an entry looks at are live, where they are not null. -/
structure Genuine (v : Visit) (h : Handler) : Prop where
  request : ∀ r, (v.handed h).2.request = some r → r.isLive = true
  response : ∀ r, (v.handed h).2.response = some r → r.isLive = true

/-- A handle is null, or its table is, or the proxy entry got a request whose URI it may not
replace. -/
def Lacks (v : Visit) (h : Handler) : Prop :=
  (v.handed h).2.request.bind Handle.table = none ∨
    (v.handed h).2.response.bind Handle.table = none ∨
    (v.handed h).1 = true ∧ (v.handed h).2.canSetUri = false

variable {v : Visit} {h : Handler}

theorem canSetUri_eq (g : Handles) :
    g.canSetUri = ((g.request.bind Handle.table).map RequestTable.canSetUri).getD false := by
  obtain ⟨request, response, target⟩ := g
  cases request with
  | none => rfl
  | some r =>
    obtain ⟨stamp, attached, table⟩ := r
    cases table <;> rfl

/-- Live handles make both views, unless something is missing. -/
theorem Genuine.views (genuine : v.Genuine h) :
    ∃ made, views? (v.handed h).1 (v.handed h).2 = .ok made ∧ (made = false ↔ v.Lacks h) := by
  have request := Handles.liveTable?_eq (f := Fault.requestNotLive) genuine.request
  have response := Handles.liveTable?_eq (f := .responseNotLive) genuine.response
  unfold Lacks
  simp only [views?, proxyView?, requestView?, responseView?, request, response, canSetUri_eq]
  generalize (v.handed h).2.request.bind Handle.table = a
  generalize (v.handed h).2.response.bind Handle.table = b
  cases (v.handed h).1 with
  | false => exact ⟨a.isSome && b.isSome, rfl, by cases a <;> cases b <;> simp⟩
  | true =>
    refine ⟨(a.map RequestTable.canSetUri).getD false && b.isSome, rfl, ?_⟩
    cases a <;> cases b <;> simp

end Visit

/-! ## Ways -/

/-- A visit that has not begun its handler, or will not begin it any more. -/
def VisitStage.Undecided : VisitStage → Prop
  | .entering | .firstRead _ | .claiming _ | .draining _ | .initializing .. | .secondRead _
  | .returned => True
  | _ => False

/-- A visit that has begun its handler. -/
def VisitStage.Decided : VisitStage → Prop
  | .running .. | .returned | .faulted _ | .escaped => True
  | _ => False

theorem contextMarks_parting {events : List Event} (h : ∀ e ∈ events, e.isParting = true) :
    contextMarks events = [] := by
  refine List.filter_eq_nil_iff.mpr fun e he => ?_
  have parting := h e he
  cases e with
  | left | released => exact Bool.false_ne_true
  | _ => cases parting

theorem countP_isDispatch_of_quiet {events : List Event} (h : contextMarks events = []) :
    events.countP Event.isDispatch = 0 := by
  have ofContext : ∀ e : Event, e.isDispatch = true → e.ofContext = true := by
    intro e he
    cases e with
    | handlerBegun => rfl
    | _ => cases he
  rw [← countP_contextMarks ofContext, h]
  rfl

namespace Visit

variable {v v₁ v' : Visit} {h : Handler} {m m' : Module} {log events : List Event}

theorem StepsTo.entrance (steps : v.StepsTo h v' log) (stage : v'.stage = .entering) : v' = v ∧ log = [] := by
  cases steps with
  | here => exact ⟨rfl, rfl⟩
  | step steps code hs => exact absurd stage (step_spec hs).begun
  | part steps gone same data rest =>
    rw [same] at stage
    rw [stage] at gone
    exact gone.elim

theorem Genuine.enter (genuine : v.Genuine h) (code : m.code = .handler h) :
    (v.Lacks h ∧ v.enter m =
      ({ v with given := (v.handed h).2, stage := .returned },
        [.entered v.entry, .notice (.nullHandle (v.handed h).1)])) ∨
    ¬ v.Lacks h ∧ v.enter m =
      ({ v with given := (v.handed h).2,
                stage := .firstRead (h.guarded (v.handed h).1 v.errand (v.handed h).2) },
        [.entered v.entry]) := by
  obtain ⟨made, views, lacks⟩ := genuine.views
  unfold handed at views ⊢
  cases made with
  | false =>
    refine .inl ⟨lacks.mp rfl, ?_⟩
    simp only [Visit.enter, code, views]
  | true =>
    refine .inr ⟨fun missing => Bool.noConfusion (lacks.mpr missing), ?_⟩
    simp only [Visit.enter, code, views]

/-- A step past the entrance dispatches once at most, and never again. -/
theorem Passage.dispatches {stage : VisitStage} {data : CallData} (code : m.code = .handler h)
    (passage : v.Passage m stage data m' events) :
    (v.stage.Undecided →
      events.countP Event.isDispatch = 0 ∧ data = v.data ∧ stage.Undecided ∨
        events.countP Event.isDispatch = 1 ∧ stage.Decided) ∧
    (v.stage.Decided → events.countP Event.isDispatch = 0 ∧ stage.Decided) := by
  cases passage with
  | begun p l value hs =>
    refine ⟨fun _ => .inr ⟨rfl, trivial⟩, fun decided => ?_⟩
    rcases hs with hs | hs <;> rw [hs] at decided <;> exact decided.elim
  | fresh p hs | torn p hs | missed p hs | claim p l hs | start p h drops hs | pass p h drops hs
  | built p u hs | failed p i n hs =>
    refine ⟨fun _ => .inl ⟨rfl, rfl, trivial⟩, fun decided => ?_⟩
    rw [hs] at decided
    exact decided.elim
  | init p o next hs =>
    refine ⟨fun _ => .inl ⟨countP_isDispatch_of_quiet
        (contextMarks_remarks (selfPerform_remarks m o)), rfl, trivial⟩, fun decided => ?_⟩
    rw [hs] at decided
    exact decided.elim
  | broke p i r told hs loud => exact absurd (Module.parting_quiet code r) loud
  | handle g o next a data m' events hs hperform =>
    refine ⟨fun undecided => ?_, fun _ =>
      ⟨countP_isDispatch_of_quiet (contextMarks_remarks (perform_remarks hperform).2), trivial⟩⟩
    rw [hs] at undecided
    exact undecided.elim
  | ended g u hs | escaped g q hs =>
    refine ⟨fun undecided => ?_, fun _ => ⟨rfl, trivial⟩⟩
    rw [hs] at undecided
    exact undecided.elim
  | fault o next f hs =>
    refine ⟨fun undecided => ?_, fun _ => ⟨rfl, trivial⟩⟩
    rcases hs with ⟨g, hs⟩ | hs <;> rw [hs] at undecided <;> exact undecided.elim
  | serve o next a data m' events hs | served u hs | escape q hs =>
    refine ⟨fun undecided => ?_, fun decided => ?_⟩
    · rw [hs] at undecided
      exact undecided.elim
    · rw [hs] at decided
      exact decided.elim

/-- **Once or not at all.** As far as an entry with live handles has come, it has not dispatched and
the data of its call is as it was, or it has dispatched once. -/
theorem StepsTo.dispatches (genuine : v.Genuine h) (entering : v.stage = .entering)
    (steps : v.StepsTo h v' log) :
    log.countP Event.isDispatch = 0 ∧ v'.data = v.data ∧ v'.stage.Undecided ∨
      log.countP Event.isDispatch = 1 ∧ v'.stage.Decided := by
  induction steps with
  | here => exact .inl ⟨rfl, rfl, by rw [entering]; trivial⟩
  | part steps gone stage data rest ih =>
    rw [List.countP_append, countP_isDispatch_of_quiet (contextMarks_parting rest), stage, data]
    exact ih
  | @step v₁ v₂ m m' log events steps code hs ih =>
    rw [List.countP_append]
    rcases step_cases hs with ⟨entrance, rfl, -, rfl⟩ | ⟨stage, data, rfl, passage⟩
    · obtain ⟨rfl, rfl⟩ := steps.entrance entrance
      rcases genuine.enter code with ⟨-, enter⟩ | ⟨-, enter⟩ <;> rw [enter] <;>
        exact .inl ⟨rfl, rfl, trivial⟩
    · obtain ⟨before, after⟩ := passage.dispatches code
      rcases ih with ⟨none, same, undecided⟩ | ⟨once, decided⟩
      · rcases before undecided with ⟨none', same', undecided'⟩ | ⟨once, decided⟩
        · exact .inl ⟨by rw [none, none'], same'.trans same, undecided'⟩
        · exact .inr ⟨by rw [none, once], decided⟩
      · obtain ⟨none, decided'⟩ := after decided
        exact .inr ⟨by rw [once, none], decided'⟩

/-- An entry that lacks something turns round at the entrance, and says so. -/
theorem StepsTo.lacking (genuine : v.Genuine h) (lacks : v.Lacks h) (entering : v.stage = .entering)
    (steps : v.StepsTo h v' log) :
    v' = v ∧ log = [] ∨ v'.stage = .returned ∧ ∃ rest, (∀ e ∈ rest, e.isParting = true) ∧
      log = [.entered v.entry, .notice (.nullHandle (v.handed h).1)] ++ rest := by
  induction steps with
  | here => exact .inl ⟨rfl, rfl⟩
  | @part v₁ v₂ log events steps gone stage data rest ih =>
    rcases ih with ⟨rfl, -⟩ | ⟨returned, more, parting, rfl⟩
    · rw [entering] at gone
      exact gone.elim
    · refine .inr ⟨stage.trans returned, more ++ events, fun e he => ?_, List.append_assoc _ _ _⟩
      exact (List.mem_append.mp he).elim (parting e) (rest e)
  | @step v₁ v₂ m m' log events steps code hs ih =>
    rcases ih with ⟨rfl, rfl⟩ | ⟨returned, -⟩
    · rcases step_cases hs with ⟨-, rfl, -, rfl⟩ | ⟨stage, data, rfl, passage⟩
      · rcases genuine.enter code with ⟨-, enter⟩ | ⟨there, -⟩
        · rw [enter]
          exact .inr ⟨rfl, [], by simp, rfl⟩
        · exact absurd lacks there
      · exact absurd entering passage.past
    · simp only [Visit.step, returned, reduceCtorEq] at hs

end Visit

/-! ## The way to a start -/

/-- Where a visit stands that may come to start a handler. -/
def VisitStage.Before : VisitStage → Prop
  | .firstRead _ | .claiming _ | .draining _ => True
  | _ => False

theorem VisitStage.Before.inside {stage : VisitStage} (before : stage.Before) : ¬ stage.Over := by
  cases stage with
  | firstRead | claiming | draining => exact id
  | _ => exact before.elim

/-- Before a visit can start a handler, it goes on to do so, or it finds that there is something else
in the slot than nothing. -/
theorem Visit.Passage.before {v : Visit} {m m' : Module} {stage : VisitStage} {data : CallData}
    {events : List Event} (passage : v.Passage m stage data m' events) (before : v.stage.Before) :
    stage.Before ∨ (∃ n, .startBegun n ∈ events) ∨ m.context.phase ≠ .fresh := by
  have elsewhere : ∀ {st : VisitStage}, v.stage = st → ¬ st.Before → stage.Before ∨
      (∃ n, .startBegun n ∈ events) ∨ m.context.phase ≠ .fresh :=
    fun hs outside => absurd (hs ▸ before) outside
  cases passage with
  | begun p l value hs hl slot => exact .inr (.inr (by simp [Context.phase, slot, Slot.phase]))
  | fresh | claim => exact .inl trivial
  | torn p hs slot => exact .inr (.inr (by simp [Context.phase, slot, Slot.phase]))
  | start => exact .inr (.inl ⟨_, List.mem_singleton.mpr rfl⟩)
  | pass p h drops hs code readers slot =>
    refine .inr (.inr fun fresh => slot ?_)
    cases hslot : m.context.slot <;> simp [Context.phase, hslot, Slot.phase] at fresh
    rfl
  | missed p hs | init p o next hs | built p u hs | failed p i n hs | broke p i r told hs
  | handle g o next a data m' events hs | serve o next a data m' events hs | ended g u hs
  | served u hs | escaped g q hs | escape q hs => exact elsewhere hs id
  | fault o next f hs => rcases hs with ⟨g, hs⟩ | hs <;> exact elsewhere hs id

theorem Context.Step.calls_of_marks {c c' : Context} {σ σ' : Hold} {marks : List Event}
    (h : c.Step σ marks c' σ') (none : marks.countP Event.isDispatch = 0) : c'.calls = c.calls := by
  cases h with
  | enter => cases none
  | _ => rfl

/-! ## Entries among others -/

namespace System

variable {s s₁ s₂ s' : System} {t j : Nat} {v v' : Visit} {h : Handler} {log events : List Event}

/-- A step of an entry that begins no dispatch counts none. -/
theorem EntryStep.calls (entryStep : s.EntryStep t j v s' v' events)
    (none : events.countP Event.isDispatch = 0) : (s'.context j).calls = (s.context j).calls := by
  cases entryStep with
  | visit m m' hm hm' hstep =>
    have quiet : (contextMarks events).countP Event.isDispatch = 0 := by
      rw [countP_contextMarks (fun e he => by cases e with | handlerBegun => rfl | _ => cases he), none]
    have same := (Visit.step_spec hstep).context.calls_of_marks quiet
    simpa [System.context, hm, hm'] using same
  | part gone stage data modules rest => simp only [System.context, modules]

/-- An entry that has left no dispatch has counted none, at any of its steps. -/
theorem Follows.calls (hr : Run s) (here : s.Attends t j v) (before : s.Follows t s₁)
    (hs : s₁.step t = some s₂) (after : s₂.Follows t s') (hlog : s'.threadLog t = s.threadLog t ++ log)
    (none : log.countP Event.isDispatch = 0) : (s₂.context j).calls = (s₁.context j).calls := by
  have run₁ := hr.later (Follows.later before)
  obtain ⟨v₁, log₁, here₁, hlog₁, -⟩ :=
    before.attended (P := fun _ _ _ => True) hr here trivial (fun _ _ _ _ => id) fun _ _ _ _ _ _ => id
  obtain ⟨v₂, events, here₂, grown, entryStep⟩ := here₁.step hs
  obtain ⟨v₃, log₃, -, hlog₃, -⟩ := after.attended (P := fun _ _ _ => True) (run₁.step hs) here₂ trivial
    (fun _ _ _ _ => id) fun _ _ _ _ _ _ => id
  refine entryStep.calls ?_
  have parts : log = log₁ ++ events ++ log₃ := by
    rw [hlog₃, grown, hlog₁, List.append_assoc, List.append_assoc] at hlog
    rw [List.append_assoc]
    exact (List.append_cancel_left hlog).symm
  rw [parts, List.countP_append, List.countP_append] at none
  omega

/-- **The next request tries again.** An entry that lacks nothing and has come to its end has started a
handler, unless it met the module in another phase than fresh. -/
theorem Follows.tries (hr : Run s) (code : s.HasHandler j h) (here : s.Enters t j v)
    (genuine : v.Genuine h) (complete : ¬ v.Lacks h) (follows : s.Follows t s')
    (hlog : s'.threadLog t = s.threadLog t ++ log) (here' : s'.Attends t j v')
    (gone : v'.stage.Over) : (∃ n, .startBegun n ∈ log) ∨
      ∃ s₁, s.Follows t s₁ ∧ s₁.Follows t s' ∧ (s₁.context j).phase ≠ .fresh := by
  suffices kept : ∃ v' log, s'.Attends t j v' ∧ s'.threadLog t = s.threadLog t ++ log ∧
      ((v' = v ∨ v'.stage.Before) ∨ (∃ n, .startBegun n ∈ log) ∨
        ∃ s₁, s.Follows t s₁ ∧ s₁.Follows t s' ∧ (s₁.context j).phase ≠ .fresh) by
    obtain ⟨v₁, log₁, here₁, hlog₁, before | done⟩ := kept
    · obtain rfl := here'.unique here₁
      rcases before with rfl | before
      · rw [here.stage] at gone
        exact gone.elim
      · exact absurd gone before.inside
    · rw [← List.append_cancel_left (hlog₁.symm.trans hlog)]
      exact done
  refine follows.attended (P := fun s₂ v₂ log => (v₂ = v ∨ v₂.stage.Before) ∨
    (∃ n, .startBegun n ∈ log) ∨
      ∃ s₁, s.Follows t s₁ ∧ s₁.Follows t s₂ ∧ (s₁.context j).phase ≠ .fresh)
    hr here.attends (.inl (.inl rfl)) (fun _ stays _ _ kept => ?_)
    fun {s₁ s₂ v₁ v₂ log events} first hs here₁ here₂ _ entryStep kept => ?_
  · exact kept.imp_right (Or.imp_right fun ⟨s₁, first, rest, phase⟩ =>
      ⟨s₁, first, rest.tail stays, phase⟩)
  · have stays : Stays t s₁ s₂ := ⟨.step _ _ t hs, .inr hs⟩
    rcases kept with before | ⟨n, started⟩ | ⟨s₃, first', rest, phase⟩
    · cases entryStep with
      | part gone =>
        rcases before with rfl | before
        · rw [here.stage] at gone
          exact gone.elim
        · exact absurd gone before.inside
      | visit m m' hm hm' hstep =>
        rcases Visit.step_cases hstep with ⟨entering, rfl, -⟩ | ⟨stage, data, rfl, passage⟩
        · rcases before with rfl | before
          · rcases genuine.enter ((code.later hr (Follows.later first)).code hm) with
              ⟨lacks, -⟩ | ⟨-, enter⟩
            · exact absurd lacks complete
            · rw [enter]
              exact .inl (.inr trivial)
          · rw [entering] at before
            exact before.elim
        · have before : v₁.stage.Before := by
            rcases before with rfl | before
            · exact absurd here.stage passage.past
            · exact before
          rcases passage.before before with before | ⟨n, started⟩ | phase
          · exact .inl (.inr before)
          · exact .inr (.inl ⟨n, List.mem_append_right _ started⟩)
          · refine .inr (.inr ⟨s₁, first, .single stays, ?_⟩)
            simpa [System.context, hm] using phase
    · exact .inr (.inl ⟨n, List.mem_append_left _ started⟩)
    · exact .inr (.inr ⟨s₃, first', rest.tail stays, phase⟩)

/-- Where the module is fresh and its lock free, such an entry alone comes to start a handler. -/
theorem Enters.starts (code : s.HasHandler j h) (here : s.Enters t j v) (genuine : v.Genuine h)
    (complete : ¬ v.Lacks h) (fresh : (s.context j).phase = .fresh) (free : (s.context j).lock = {}) :
    ∃ s' log, s.Comes t s' ∧ s'.threadLog t = s.threadLog t ++ log ∧
      .startBegun (s.context j).starts ∈ log := by
  obtain ⟨m, hm, code⟩ := code
  have context : s.context j = m.context := by simp [System.context, hm]
  rw [context] at fresh free ⊢
  have slot : m.context.slot = .fresh := by
    cases slot : m.context.slot <;> simp [Context.phase, Slot.phase, slot] at fresh
    rfl
  have enter : v.step m = some ((v.enter m).1, m, (v.enter m).2) := by
    simp only [Visit.step, here.stage]
  rcases genuine.enter code with ⟨lacks, -⟩ | ⟨-, entered⟩
  · exact absurd lacks complete
  rw [entered] at enter
  obtain ⟨s₁, step₁, here₁, hm₁, log₁⟩ :=
    here.attends.visit_step (by rw [here.stage]; exact id) hm enter
  obtain ⟨s₂, step₂, here₂, hm₂, log₂⟩ := here₁.visit_step (m := m) id hm₁
    (by simp only [Visit.step, Visit.read, free, Lock.acquireRead?, slot]; rfl)
  obtain ⟨s₃, step₃, here₃, hm₃, log₃⟩ := here₂.visit_step (m := m) id hm₂
    (by simp only [Visit.step, free, Lock.claim?]; rfl)
  obtain ⟨s₄, step₄, here₄, hm₄, log₄⟩ := here₃.visit_step id hm₃
    (by simp only [Visit.step, Visit.locked, Module.setContext, code, slot]; rfl)
  refine ⟨s₄, [.entered v.entry, .startBegun m.context.starts],
    .step step₁ (.step step₂ (.step step₃ (.step step₄ (.refl s₄ t)))), ?_, by simp⟩
  rw [log₄, log₃, log₂, log₁, List.append_nil, List.append_nil, List.append_assoc]
  rfl

/-- What requests to module `j`, whose code is handler `h`, leave when they are dropped. -/
structure DropsCleanly (s : System) (j : Nat) (h : Handler) : Prop where
  /-- As long as an entry with live handles has not run the handler, the data of its call is as it was,
  and none of its steps counts a dispatch. -/
  frame : ∀ (t : Nat) (v : Visit) (s' : System) (log : List Event), s.Enters t j v → v.Genuine h →
    s.Follows t s' → s'.threadLog t = s.threadLog t ++ log → log.countP Event.isDispatch = 0 →
    (∃ v', s'.Attends t j v' ∧ v'.data = v.data) ∧
      ∀ s₁ s₂ : System, s.Follows t s₁ → s₁.step t = some s₂ → s₂.Follows t s' →
        (s₂.context j).calls = (s₁.context j).calls
  /-- An entry that lacks a handle, a table or the right to replace the URI starts nothing and
  dispatches nothing. -/
  lacking : ∀ (t : Nat) (v : Visit) (s' : System) (log : List Event), s.Enters t j v → v.Genuine h →
    v.Lacks h → s.Follows t s' → s'.threadLog t = s.threadLog t ++ log → contextMarks log = []
  /-- A start that an entry is about, and that fails, leaves the module as fresh as it found it. -/
  failed : ∀ (t : Nat) (v : Visit) (p : ModuleProgram Unit) (i : SelfProgram (Except String Unit))
    (s₁ s₂ : System) (log : List Event), s.Attends t j v → v.stage = .initializing p i →
    s.Follows t s₁ → s₁.step t = some s₂ → s₂.threadLog t = s₁.threadLog t ++ log →
    .startFailed ∈ log →
    (s₂.context j).phase = .fresh ∧ (s₂.context j).lock = {} ∧
      (s₂.context j).generation = (s.context j).generation ∧
      (s₂.context j).calls = (s.context j).calls
  /-- An entry that lacks nothing starts a handler of a fresh module whose lock is free, -/
  starts : ∀ (t : Nat) (v : Visit), s.Enters t j v → v.Genuine h → ¬ v.Lacks h →
    (s.context j).phase = .fresh → (s.context j).lock = {} →
    ∃ s' log, s.Comes t s' ∧ s'.threadLog t = s.threadLog t ++ log ∧
      .startBegun (s.context j).starts ∈ log
  /-- and whatever others do meanwhile, it has come to its end without a start only if it met the
  module in another phase. -/
  tries : ∀ (t : Nat) (v v' : Visit) (s' : System) (log : List Event), s.Enters t j v →
    v.Genuine h → ¬ v.Lacks h → s.Follows t s' → s'.Attends t j v' → v'.stage.Over →
    s'.threadLog t = s.threadLog t ++ log → (∀ n, .startBegun n ∉ log) →
    ∃ s₁, s.Follows t s₁ ∧ s₁.Follows t s' ∧ (s₁.context j).phase ≠ .fresh
  /-- Once torn down, the module stays as it is until somebody is inside `OnLoad`. -/
  torn : ∀ (s' : System) (log : List Event), (s.context j).phase = .tornDown → ¬ s.Loading j →
    Later s s' → s'.moduleLog j = s.moduleLog j ++ log → .entered .onLoad ∉ log →
    (s'.context j).phase = .tornDown ∧ (s'.context j).generation = (s.context j).generation ∧
      (s'.context j).calls = (s.context j).calls

/-- **Dropped requests leave no trace.** In every run, whatever other threads do to the module: a
request entry with live handles that does not run the handler leaves its call's data and the count of
dispatches alone; without the handles it needs it does not even start a handler; a start that fails
leaves a fresh module, and the next request tries again; and after the teardown, requests and unloads
change nothing, however many come. -/
theorem dropped_untouched (hr : Run s) (code : s.HasHandler j h) : s.DropsCleanly j h where
  frame t v s' log here genuine follows hlog none := by
    refine ⟨?_, fun s₁ s₂ before hs after =>
      Follows.calls hr here.attends before hs after hlog none⟩
    obtain ⟨v', log', here', hlog', steps⟩ := follows.stepsTo hr code here.attends
    obtain rfl := List.append_cancel_left (hlog'.symm.trans hlog)
    rcases steps.dispatches genuine here.stage with ⟨-, data, -⟩ | ⟨once, -⟩
    · exact ⟨v', here', data⟩
    · omega
  lacking t v s' log here genuine lacks follows hlog := by
    obtain ⟨v', log', -, hlog', steps⟩ := follows.stepsTo hr code here.attends
    obtain rfl := List.append_cancel_left (hlog'.symm.trans hlog)
    rcases steps.lacking genuine lacks here.stage with ⟨-, rfl⟩ | ⟨-, rest, parting, rfl⟩
    · rfl
    · rw [contextMarks, List.filter_append]
      exact contextMarks_parting parting
  failed t v p i s₁ s₂ log here starting follows hs hlog failed :=
    hr.failed_start here starting follows hs hlog failed
  starts t v here genuine complete fresh free := here.starts code genuine complete fresh free
  tries t v v' s' log here genuine complete follows here' gone hlog unstarted :=
    (follows.tries hr code here genuine complete hlog here' gone).resolve_left
      fun ⟨n, started⟩ => unstarted n started
  torn s' log torn idle later grown unloaded := later.torn_down hr code torn idle grown unloaded

/-! ## A short run -/

/-- The first start fails, later ones do not. -/
def sampleFickle : Handler :=
  { init := fun n => if n = 0 then .ret (.error "not yet") else .ret (.ok ()),
    handle := fun _ => .ret () }

/-- A proxy request without handles, and a request with all that it needs. -/
def sampleVisit (proxy : Bool) : Visit :=
  { proxy, handles := if proxy then {} else .forRequest, data := { request := {}, response := {} } }

/-- Threads 0 to 3 make requests, the first without handles, and thread 4 unloads the module. -/
def sampleAsked : System :=
  ((((({} : System).addModule { code := .handler sampleFickle }).spawn
    (.visiting 0 (sampleVisit true))).spawn (.visiting 0 (sampleVisit false))).spawn
    (.visiting 0 (sampleVisit false))).spawn (.visiting 0 (sampleVisit false)) |>.spawn
    (.hooking 0 .unload .entering)

/-- Thread 0 has turned round. -/
def sampleTurned : System := (sampleAsked.steps [0]).getD {}

/-- Thread 1 starts the handler, -/
def sampleTrying : System := (sampleAsked.steps (List.replicate 4 1)).getD {}

/-- which fails. -/
def sampleTried : System := (sampleTrying.step 1).getD {}

/-- Thread 2 has run the handler, and thread 4 has torn it down. -/
def sampleUnloaded : System :=
  (sampleTried.steps (List.replicate 7 2 ++ List.replicate 5 4)).getD {}

/-- Thread 3 comes too late. -/
def sampleLate : System := (sampleUnloaded.steps [3, 3]).getD {}

theorem run_sampleAsked : Run sampleAsked := by
  have installed : Run (({} : System).addModule { code := .handler sampleFickle }) :=
    Run.move (.refl {}) (.install _ _ rfl)
  have asked {s : System} (hr : Run s) (proxy : Bool) :
      Run (s.spawn (.visiting 0 (sampleVisit proxy))) :=
    hr.move (.begin _ _ rfl (by simp [Task.on?]))
  exact (asked (asked (asked (asked installed true) false) false) false).move
    (.begin _ _ rfl (by simp [Task.on?]))

theorem run_sampleTrying : Run sampleTrying :=
  run_sampleAsked.later (later_of_steps (List.replicate 4 1) rfl)

theorem run_sampleTried : Run sampleTried :=
  run_sampleTrying.move (.step _ _ 1 rfl)

theorem run_sampleUnloaded : Run sampleUnloaded :=
  run_sampleTried.later (later_of_steps (List.replicate 7 2 ++ List.replicate 5 4) rfl)

theorem hasHandler_samples : sampleAsked.HasHandler 0 sampleFickle ∧
    sampleTrying.HasHandler 0 sampleFickle ∧ sampleTried.HasHandler 0 sampleFickle ∧
    sampleUnloaded.HasHandler 0 sampleFickle :=
  ⟨⟨_, rfl, rfl⟩, ⟨_, rfl, rfl⟩, ⟨_, rfl, rfl⟩, ⟨_, rfl, rfl⟩⟩

theorem dropped_untouched_sample :
    (∃ v, sampleTurned.Attends 0 0 v ∧ v.data = (sampleVisit true).data) ∧
    contextMarks [.entered .handleProxyRequest, .notice (.nullHandle true)] = [] ∧
    ((sampleTried.context 0).phase = .fresh ∧ (sampleTried.context 0).lock = {} ∧
      (sampleTried.context 0).generation = (sampleTrying.context 0).generation) ∧
    (∃ s' log, sampleTried.Comes 2 s' ∧ s'.threadLog 2 = sampleTried.threadLog 2 ++ log ∧
      .startBegun 1 ∈ log) ∧
    (sampleLate.context 0).phase = .tornDown ∧ (sampleLate.context 0).calls = 1 := by
  obtain ⟨asked, trying, failed, unloaded⟩ := hasHandler_samples
  have lacks : (sampleVisit true).Lacks sampleFickle := .inl rfl
  have empty : (sampleVisit true).Genuine sampleFickle := ⟨by simp [Visit.handed, sampleVisit,
    sampleFickle], by simp [Visit.handed, sampleVisit, sampleFickle]⟩
  have whole : (sampleVisit false).Genuine sampleFickle :=
    ⟨fun r hr => by cases hr; rfl, fun r hr => by cases hr; rfl⟩
  have complete : ¬ (sampleVisit false).Lacks sampleFickle := by
    rintro (request | response | ⟨proxy, -⟩)
    · cases request
    · cases response
    · cases proxy
  have enters : sampleAsked.Enters 0 0 (sampleVisit true) := ⟨⟨_, rfl, .inl rfl, rfl⟩, rfl⟩
  have turned : sampleAsked.Follows 0 sampleTurned := follows_of_steps 0 [0] rfl
  have log : sampleTurned.threadLog 0 = sampleAsked.threadLog 0 ++
      [.entered .handleProxyRequest, .notice (.nullHandle true)] := by decide +kernel
  have dropped := dropped_untouched run_sampleAsked asked
  have attempt := (dropped_untouched run_sampleTrying trying).failed 1 _ _ _ sampleTrying sampleTried
    [.startFailed, .notice (.initFailed "not yet")] ⟨_, rfl, .inl rfl, rfl⟩ rfl .refl rfl
    (by decide +kernel) (by decide +kernel)
  have again := (dropped_untouched run_sampleTried failed).starts 2 (sampleVisit false)
    ⟨⟨_, rfl, .inl rfl, rfl⟩, rfl⟩ whole complete attempt.1 attempt.2.1
  have idle : ¬ sampleUnloaded.Loading 0 := by
    rintro ⟨t, k, stage, ht, -, hk, -⟩
    match t, ht with
    | 0, ht | 1, ht | 2, ht | 3, ht | 4, ht => cases ht; cases hk
  have late := (dropped_untouched run_sampleUnloaded unloaded).torn sampleLate
    [.entered .handleRequest, .notice .requestAfterUnload] (by decide +kernel) idle
    (later_of_steps [3, 3] rfl) (by decide +kernel) (by decide +kernel)
  exact ⟨(dropped.frame 0 _ sampleTurned _ enters empty turned log (by decide +kernel)).1,
    dropped.lacking 0 _ sampleTurned _ enters empty lacks turned log,
    ⟨attempt.1, attempt.2.1, attempt.2.2.1⟩, again, late.1, late.2.2.trans (by decide +kernel)⟩

end System

end ModuleHost
