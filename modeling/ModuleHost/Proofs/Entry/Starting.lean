import ModuleHost.Proofs.Entry.Following
import ModuleHost.Proofs.Progress.Deadlock

/-!
# Starts on the way of a request

A thread that starts a handler has the lock for itself, so nobody else touches the context meanwhile
(`Move.kept_starting`): what the thread found when it began the start is what it leaves behind when
the start fails. A request only starts a handler that was never there, or whose last start failed
(`Run.starting_fresh`); one that was torn down is left alone.
-/
namespace ModuleHost

open Boundary

/-- What a context is as long as nobody starts or ends anything in it. -/
structure Context.Same (c c' : Context) : Prop where
  phase : c'.phase = c.phase
  lock : c'.lock = c.lock
  generation : c'.generation = c.generation
  calls : c'.calls = c.calls

namespace Context.Same

variable {c c' c'' : Context}

theorem refl (c : Context) : c.Same c := ⟨rfl, rfl, rfl, rfl⟩

theorem trans (h : c.Same c') (h' : c'.Same c'') : c.Same c'' :=
  ⟨h'.phase.trans h.phase, h'.lock.trans h.lock, h'.generation.trans h.generation,
    h'.calls.trans h.calls⟩

end Context.Same

/-- While a thread starts a handler, nothing is done to the context. -/
theorem ContextState.Step.kept_starting {b b' : ContextState} {t : Nat} (hs : b.Step b') (sound : b.Sound)
    (held : b.holds[t]? = some .starting) (still : b'.holds[t]? = some .starting) :
    b.context.Same b'.context := by
  have locks := sound.locks
  have mine := List.mem_of_getElem? held
  obtain ⟨claimed, -⟩ := locks.lone_claim mine rfl
  obtain ⟨empty, -⟩ := locks.writer (List.countP_pos_iff.mpr ⟨_, mine, rfl⟩)
  cases hs with
  | join => exact .refl _
  | act u σ σ' c' marks found step =>
    by_cases hu : u = t
    · subst hu
      obtain rfl := Option.some.inj (found.symm.trans held)
      have after : (b.holds.set u σ')[u]? = some σ' :=
        List.getElem?_set_self (List.getElem?_eq_some_iff.mp held).1
      obtain rfl := Option.some.inj (after.symm.trans still)
      cases step with
      | stay slot _ phase _ => exact ⟨phase, rfl, rfl, rfl⟩
    · have idle : σ = .free := by
        cases σ with
        | free => rfl
        | reading g =>
          rw [empty] at locks
          exact absurd (List.mem_of_getElem? found) (locks.no_reading g)
        | waiting | starting | closing g | dropping g =>
          exact absurd (locks.claimant_unique held rfl found rfl) hu
      subst idle
      cases step with
      | stay slot _ phase _ => exact ⟨phase, rfl, rfl, rfl⟩
      | claim l hl => exact absurd claimed (by simp [(Lock.claim?_eq_some hl).1])
      | enter l v hl hv => exact absurd claimed (by simp [(Lock.acquireRead?_eq_some hl).1])

/-- Nobody enters right into a start. -/
theorem Visit.enter_outside (v : Visit) (m : Module) (p : ModuleProgram Unit)
    (i : SelfProgram (Except String Unit)) : (v.enter m).1.stage ≠ .initializing p i := by
  unfold enter
  split
  · simp
  · simp only
    split <;> simp

/-- Where a visit stands that has started a handler, or has tried to. -/
def VisitStage.Started : VisitStage → Prop
  | .secondRead _ | .running .. | .returned | .faulted _ | .escaped => True
  | _ => False

theorem VisitStage.Over.started {stage : VisitStage} (gone : stage.Over) : stage.Started := by
  cases stage with
  | returned | faulted | escaped => trivial
  | _ => exact gone.elim

theorem Visit.Passage.started {v : Visit} {m m' : Module} {stage : VisitStage} {data : CallData}
    {events : List Event} (passage : v.Passage m stage data m' events) :
    (∀ p i, v.stage = .initializing p i → (∃ i', stage = .initializing p i') ∨ stage.Started) ∧
      (v.stage.Started → stage.Started ∧ .startFailed ∉ events) := by
  cases passage with
  | begun p l value hs =>
    refine ⟨fun q i starting => ?_, fun _ => ⟨trivial, by simp⟩⟩
    rcases hs with hs | hs <;> cases starting.symm.trans hs
  | missed p hs => exact ⟨fun q i starting => .inr trivial, fun _ => ⟨trivial, by simp⟩⟩
  | fresh p hs | torn p hs | claim p l hs | start p h drops hs | pass p h drops hs =>
    refine ⟨fun q i starting => ?_, fun started => ?_⟩
    · cases starting.symm.trans hs
    · rw [hs] at started
      exact started.elim
  | init p o next hs =>
    refine ⟨fun q i starting => ?_, fun started => ?_⟩
    · cases starting.symm.trans hs
      exact .inl ⟨_, rfl⟩
    · rw [hs] at started
      exact started.elim
  | built p u hs | failed p i n hs | broke p i r told hs =>
    refine ⟨fun q i starting => .inr trivial, fun started => ?_⟩
    rw [hs] at started
    exact started.elim
  | handle g o next a data m' events hs hperform =>
    refine ⟨fun q i starting => .inr trivial, fun _ => ⟨trivial, fun mem => ?_⟩⟩
    cases (perform_remarks hperform).2 _ mem
  | serve o next a data m' events hs hperform =>
    refine ⟨fun q i starting => ?_, fun started => ?_⟩
    · cases starting.symm.trans hs
    · rw [hs] at started
      exact started.elim
  | fault o next f hs | ended g u hs | served u hs | escaped g q hs | escape q hs =>
    exact ⟨fun q i starting => .inr trivial, fun _ => ⟨trivial, by simp⟩⟩

namespace System

variable {s s' : System} {t j : Nat} {v : Visit} {h : Handler}

theorem Move.kept_starting (hr : Run s) (hm : Move s s') (held : (s.holds j)[t]? = some .starting)
    (still : (s'.holds j)[t]? = some .starting) : (s.context j).Same (s'.context j) := by
  rcases hm.contextState hr.orderly j with same | step
  · have context : s'.context j = s.context j := congrArg ContextState.context same
    rw [context]
    exact .refl _
  · exact step.kept_starting (hr.sound j) held still

theorem Attends.holds (here : s.Attends t j v) (inside : ¬ v.stage.Over) :
    (s.holds j)[t]? = some v.stage.hold := by
  obtain ⟨k, ht, visits, home⟩ := here.task
  rcases visits with visit | ⟨c, -, past, rfl⟩
  · rw [← Task.hold_of_visit visit]
    exact holds_of_task ht home
  · exact absurd past.stage_over inside

/-- A request starts a handler only where none is, and none was torn down. -/
theorem Run.starting_fresh (hr : Run s) {p : ModuleProgram Unit}
    {i : SelfProgram (Except String Unit)} (here : s.Attends t j v)
    (starting : v.stage = .initializing p i) : (s.context j).phase = .fresh := by
  have key : ∀ (t j : Nat) (k : Task) (v : Visit) (p : ModuleProgram Unit)
      (i : SelfProgram (Except String Unit)), s.threads[t]? = some k → k.visit? = some v →
      k.module? s.instances = some j → v.stage = .initializing p i →
      (s.context j).phase = .fresh := by
    refine hr.induction (P := fun s => ∀ (t j : Nat) (k : Task) (v : Visit) (p : ModuleProgram Unit)
      (i : SelfProgram (Except String Unit)), s.threads[t]? = some k → k.visit? = some v →
      k.module? s.instances = some j → v.stage = .initializing p i →
      (s.context j).phase = .fresh) (by simp)
      fun s s' hr ih hm t j k' v' p i ht' visit home starting => ?_
    have held' : (s'.holds j)[t]? = some .starting := by
      rw [holds_of_task ht' home, Task.hold_of_visit visit, starting]
      rfl
    -- Where the thread was at the start before, nothing has become of the context.
    have kept : ∀ (k : Task) (v : Visit) (p : ModuleProgram Unit)
        (i : SelfProgram (Except String Unit)), s.threads[t]? = some k → k.visit? = some v →
        k.module? s.instances = some j → v.stage = .initializing p i →
        (s'.context j).phase = .fresh := by
      intro k v p i ht visit home starting
      have held : (s.holds j)[t]? = some .starting := by
        rw [holds_of_task ht home, Task.hold_of_visit visit, starting]
        rfl
      rw [(hm.kept_starting hr held held').phase]
      exact ih t j k v p i ht visit home starting
    rcases hm.task_after ht' with old | new | hs
    · exact kept k' v' p i old visit
        ((hm.module? hr (List.mem_of_getElem? old)).symm.trans home) starting
    · have idle := new.hold
      rw [Task.hold_of_visit visit, starting] at idle
      cases idle
    · rcases (step_cases hs).visit_after ht' visit with
        entering | ⟨k, v, j', m, m', events, ht, visit₀, home₀, hmod, hmod', home', -, hstep⟩
      · cases starting.symm.trans entering
      · obtain rfl := Option.some.inj (home'.symm.trans home)
        rcases Visit.step_cases hstep with ⟨entering, rfl, -⟩ | ⟨stage, data, rfl, passage⟩
        · exact absurd starting (v.enter_outside m p i)
        cases starting
        generalize hstage : VisitStage.initializing p i = stage at passage
        cases passage with
        | start q handler drops hstage₀ code readers slot =>
          simp [System.context, hmod', Module.setContext, Context.beginStart, Context.phase, slot,
            Slot.phase]
        | init q o next starting₀ => exact kept k v q (.ask o next) ht visit₀ home₀ starting₀
        | begun | fresh | torn | missed | claim | pass | built | failed | broke | handle | serve
        | fault | ended | served | escaped | escape => cases hstage
  obtain ⟨k, ht, visits, home⟩ := here.task
  rcases visits with visit | ⟨c, rfl, past, rfl⟩
  · exact key t j k v p i ht visit home starting
  · exact (starting ▸ past.stage_over : VisitStage.Over (.initializing p i)).elim

/-- As long as a thread starts a handler on the way of its request, the context is as it found it. -/
theorem Follows.starting (hr : Run s) (here : s.Attends t j v) {p : ModuleProgram Unit}
    {i : SelfProgram (Except String Unit)} (starting : v.stage = .initializing p i)
    (follows : s.Follows t s') :
    ∃ v', s'.Attends t j v' ∧
      ((∃ p i, v'.stage = .initializing p i) ∧ (s.context j).Same (s'.context j) ∨
        v'.stage.Started) := by
  have held {s : System} {v : Visit} {p i} (here : s.Attends t j v)
      (starting : v.stage = .initializing p i) : (s.holds j)[t]? = some .starting := by
    have holds := here.holds (by rw [starting]; exact id)
    rwa [starting] at holds
  suffices kept : ∃ v' log, s'.Attends t j v' ∧ s'.threadLog t = s.threadLog t ++ log ∧
      ((∃ p i, v'.stage = .initializing p i) ∧ (s.context j).Same (s'.context j) ∨
        v'.stage.Started) by
    obtain ⟨v', log, here', -, kept⟩ := kept
    exact ⟨v', here', kept⟩
  refine follows.attended (P := fun s₁ v₁ _ =>
    (∃ p i, v₁.stage = .initializing p i) ∧ (s.context j).Same (s₁.context j) ∨ v₁.stage.Started)
    hr here (.inl ⟨⟨p, i, starting⟩, .refl _⟩) (fun before stays here₁ here₂ kept => ?_)
    fun before hs here₁ here₂ _ entryStep kept => ?_
  · refine kept.imp_left fun ⟨⟨p, i, starting₁⟩, same⟩ => ⟨⟨p, i, starting₁⟩, same.trans ?_⟩
    exact stays.1.kept_starting (hr.later (Follows.later before)) (held here₁ starting₁)
      (held here₂ starting₁)
  · cases entryStep with
    | part gone stage =>
      exact .inr (stage ▸ gone.started)
    | visit m m' hm hm' hstep =>
      rcases Visit.step_cases hstep with ⟨entering, -⟩ | ⟨stage, data, rfl, passage⟩
      · rcases kept with ⟨⟨p, i, starting₁⟩, -⟩ | started
        · cases entering.symm.trans starting₁
        · rw [entering] at started
          exact started.elim
      · obtain ⟨goes, stays⟩ := passage.started
        rcases kept with ⟨⟨p, i, starting₁⟩, same⟩ | started
        · rcases goes p i starting₁ with ⟨i', rfl⟩ | started
          · have move := Move.step _ _ t hs
            exact .inl ⟨⟨p, i', rfl⟩, same.trans (move.kept_starting
              (hr.later (Follows.later before)) (held here₁ starting₁) (held here₂ rfl))⟩
          · exact .inr started
        · exact .inr (stays started).1

/-- **A failed start leaves nothing.** After it the module is fresh, with the generation and the
dispatches that it had when the start began, and the lock is free. -/
theorem Run.failed_start (hr : Run s) (here : s.Attends t j v) {p : ModuleProgram Unit}
    {i : SelfProgram (Except String Unit)} (starting : v.stage = .initializing p i)
    {s₁ s₂ : System} {events : List Event} (follows : s.Follows t s₁) (hs : s₁.step t = some s₂)
    (hlog : s₂.threadLog t = s₁.threadLog t ++ events) (failed : .startFailed ∈ events) :
    (s₂.context j).phase = .fresh ∧ (s₂.context j).lock = {} ∧
      (s₂.context j).generation = (s.context j).generation ∧
      (s₂.context j).calls = (s.context j).calls := by
  have run₁ := hr.later (Follows.later follows)
  obtain ⟨v₁, here₁, kept⟩ := follows.starting hr here starting
  obtain ⟨v₂, events', here₂, hlog', entryStep⟩ := here₁.step hs
  obtain rfl := List.append_cancel_left (hlog'.symm.trans hlog)
  cases entryStep with
  | part gone stage data modules rest => cases rest _ failed
  | visit m m' hm hm' hstep =>
    rcases Visit.step_cases hstep with ⟨entering, -⟩ | ⟨stage, data, rfl, passage⟩
    · rcases kept with ⟨⟨p, i, starting₁⟩, -⟩ | started
      · cases entering.symm.trans starting₁
      · rw [entering] at started
        exact started.elim
    rcases kept with ⟨⟨p, i, starting₁⟩, same⟩ | started
    · cases passage with
      | failed q i' n hs =>
        have held := here₁.holds (by rw [starting₁]; exact id)
        rw [starting₁] at held
        have locks := (run₁.sound j).locks
        have writing : 0 < (s₁.holds j).countP Hold.writes :=
          List.countP_pos_iff.mpr ⟨_, List.mem_of_getElem? held, rfl⟩
        have before : s₁.context j = m.context := by simp [System.context, hm]
        have after : s₂.context j = (m.context.finishStart (.error n)).1 := by
          simp [System.context, hm', Module.setContext]
        have empty : m.context.lock.readers = 0 := before ▸ (locks.writer writing).1
        rw [before] at same
        rw [after]
        refine ⟨rfl, ?_, same.generation, same.calls⟩
        simp only [Context.finishStart, Lock.releaseWrite, empty]
      | init q o next hs => cases selfPerform_remarks m o _ failed
      | built q u hs => simp [Context.finishStart] at failed
      | handle g o next a data m' events hs => cases starting₁.symm.trans hs
      | serve o next a data m' events hs => cases starting₁.symm.trans hs
      | begun | fresh | torn | missed | claim | start | pass | broke | fault | ended | served
      | escaped | escape => simp at failed
    · exact absurd failed (passage.started.2 started).2

end System

end ModuleHost
