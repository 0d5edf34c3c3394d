import ModuleHost.Proofs.Boundary.Output
import ModuleHost.Proofs.Boundary.Transparency
import ModuleHost.Proofs.Containment.Visits
import ModuleHost.Proofs.Entry.Following

/-!
# What a handler keeps on its way

Inside a request entry, a handler's program is performed one operation after the other, each on the
host data that the last one has left. A property of what is left of the program and of the data is
kept on the handles if every operation performed on them keeps it (`Handles.Keeps`). Where it holds at
the beginning, it holds as long as the handler runs, and at its end; and where no handler has begun, the
data are as they were (`Handling`, `Follows.handling`). If it leaves no room for a fault or a panic, the
thread can bring the entry to its end from wherever the handler is (`Follows.handled`). So an entry
leaves what its handler's program yields, and on handles that the host has made nothing can keep it from
that (`Follows.delivers`).
-/
namespace ModuleHost

open Boundary

/-- Whether every operation performed on the handles keeps the property. -/
def Boundary.Handles.Keeps (given : Handles) (S : ModuleProgram Unit → CallData → Prop) :
    Prop :=
  ∀ ⦃m m' : Module⦄ ⦃o : ModuleOp⦄ ⦃next : o.Answer → ModuleProgram Unit⦄ ⦃a : o.Answer⦄
    ⦃d data : CallData⦄ ⦃events : List Event⦄, S (.ask (I := ModuleInterface) o next) d →
    (given.visit d).perform m o = .ok (a, data, m', events) → S (next a) data

/-- How far a request entry has come that began at `v` and stands at `v'`, where `S` is said of its
handler. -/
def Handling (h : Handler) (S : ModuleProgram Unit → CallData → Prop) (v v' : Visit)
    (log : List Event) : Prop :=
  match v'.stage with
  | .entering => v' = v ∧ ¬ Begun log
  | .firstRead p | .claiming p | .draining p | .secondRead p | .initializing p _ =>
    p = h.guarded v.proxy v.errand v.handles ∧ v'.given = v.handles ∧ v'.data = v.data ∧
      views? v.proxy v.handles = .ok true ∧ ¬ Begun log
  | .running _ p => S p v'.data ∧ v'.given = v.handles ∧ Begun log
  | .returned => Begun log ∧ S (.ret ()) v'.data ∨ ¬ Begun log ∧ v'.data = v.data
  | .faulted f => (Begun log ∧ ∃ m o next, S (.ask (I := ModuleInterface) o next) v'.data ∧
      (v.handles.visit v'.data).perform m o = .error f) ∨ ¬ Begun log ∧ v'.data = v.data
  | .escaped => Begun log ∧ ∃ q, S (.panic q) v'.data
  | .plain _ => False

variable {h : Handler} {S : ModuleProgram Unit → CallData → Prop} {v v' : Visit} {m m' : Module}
  {log events : List Event}

theorem Handling.enter (code : m.code = .handler h) (straight : h.Straight) (quiet : ¬ Begun log) :
    Handling h S v (v.enter m).1 (log ++ (v.enter m).2) := by
  have silent {events : List Event} (none : ¬ Begun events) : ¬ Begun (log ++ events) := by
    rwa [begun_append_quiet none]
  simp only [Visit.enter, code, straight v.errand v.proxy v.handles]
  cases views : views? v.proxy v.handles with
  | error f => exact Or.inr ⟨silent (by simp [Begun]), rfl⟩
  | ok made =>
    cases made with
    | false => exact Or.inr ⟨silent (by simp [Begun]), rfl⟩
    | true => exact ⟨rfl, rfl, rfl, views, silent (by simp [Begun])⟩

theorem Handling.passage {stage : VisitStage} {data : CallData} (code : m.code = .handler h)
    (keeps : v.handles.Keeps S)
    (start : views? v.proxy v.handles = .ok true → S (h.guarded v.proxy v.errand v.handles) v.data)
    (handling : Handling h S v v' log) (passage : v'.Passage m stage data m' events) :
    Handling h S v { v' with stage, data } (log ++ events) := by
  -- Steps before the handler begins pass on what is known; those of the handler keep the property.
  cases passage with
  | begun p l value hs =>
    have ready : p = h.guarded v.proxy v.errand v.handles ∧ v'.given = v.handles ∧
        v'.data = v.data ∧ views? v.proxy v.handles = .ok true ∧ ¬ Begun log := by
      rcases hs with hs | hs <;> simp only [Handling, hs] at handling <;> exact handling
    obtain ⟨rfl, given, same, views, -⟩ := ready
    exact ⟨by rw [same]; exact start views, given, begun_append_iff.mpr (.inr ⟨_, .head _⟩)⟩
  | fresh p hs | claim p l hs | start p h drops hs | pass p h drops hs =>
    simp only [Handling, hs] at handling
    obtain ⟨own, given, same, views, quiet⟩ := handling
    refine ⟨own, given, same, views, ?_⟩
    rwa [begun_append_quiet (by simp [Begun])]
  | init p o next hs =>
    simp only [Handling, hs] at handling
    obtain ⟨own, given, same, views, quiet⟩ := handling
    refine ⟨own, given, same, views, ?_⟩
    rwa [begun_append_quiet (not_begun_of_remarks (selfPerform_remarks m o))]
  | built p u hs =>
    simp only [Handling, hs] at handling
    obtain ⟨own, given, same, views, quiet⟩ := handling
    refine ⟨own, given, same, views, ?_⟩
    rwa [begun_append_quiet (not_begun_finishStart _ _)]
  | torn p hs | missed p hs =>
    simp only [Handling, hs] at handling
    obtain ⟨-, -, same, -, quiet⟩ := handling
    refine Or.inr ⟨?_, same⟩
    rwa [begun_append_quiet (by simp [Begun])]
  | failed p i n hs =>
    simp only [Handling, hs] at handling
    obtain ⟨-, -, same, -, quiet⟩ := handling
    refine Or.inr ⟨?_, same⟩
    rwa [begun_append_quiet (not_begun_finishStart _ _)]
  | broke p i r told hs loud => exact absurd (Module.parting_quiet code r) loud
  | handle g o next a data m' events hs perform =>
    simp only [Handling, hs] at handling
    obtain ⟨holds, given, begun⟩ := handling
    rw [Handles.perform_visit, given] at perform
    exact ⟨keeps holds perform, given, begun_append_iff.mpr (.inl begun)⟩
  | ended g u hs =>
    simp only [Handling, hs] at handling
    obtain ⟨holds, -, begun⟩ := handling
    exact Or.inl ⟨begun_append_iff.mpr (.inl begun), holds⟩
  | fault o next f hs perform =>
    rcases hs with ⟨g, hs⟩ | hs <;> simp only [Handling, hs] at handling
    obtain ⟨holds, given, begun⟩ := handling
    rw [Handles.perform_visit, given] at perform
    exact Or.inl ⟨begun_append_iff.mpr (.inl begun), m, o, next, holds, perform⟩
  | escaped g q hs =>
    simp only [Handling, hs] at handling
    obtain ⟨holds, -, begun⟩ := handling
    exact ⟨begun_append_iff.mpr (.inl begun), q, holds⟩
  | serve o next a data m' events hs | served u hs | escape q hs =>
    simp only [Handling, hs] at handling

/-- The data of an entry are as they were, or what is said of its handler holds of them. -/
theorem Handling.data (handling : Handling h S v v' log) : v'.data = v.data ∨ ∃ p, S p v'.data := by
  cases hs : v'.stage with
  | entering =>
    simp only [Handling, hs] at handling
    exact .inl (congrArg Visit.data handling.1)
  | firstRead | claiming | draining | initializing | secondRead =>
    simp only [Handling, hs] at handling
    exact .inl handling.2.2.1
  | running g p =>
    simp only [Handling, hs] at handling
    exact .inr ⟨p, handling.1⟩
  | returned =>
    simp only [Handling, hs] at handling
    exact handling.symm.imp (fun aside => aside.2) fun served => ⟨_, served.2⟩
  | faulted f =>
    simp only [Handling, hs] at handling
    obtain ⟨-, m, o, next, holds, -⟩ | ⟨-, same⟩ := handling
    · exact .inr ⟨_, holds⟩
    · exact .inl same
  | escaped =>
    simp only [Handling, hs] at handling
    obtain ⟨-, q, holds⟩ := handling
    exact .inr ⟨_, holds⟩
  | plain p => simp only [Handling, hs] at handling

/-- **Every way of a request entry** keeps what its handler's operations keep. -/
theorem Visit.StepsTo.handling (steps : v.StepsTo h v' log) (straight : h.Straight)
    (entering : v.stage = .entering) (keeps : v.handles.Keeps S)
    (start : views? v.proxy v.handles = .ok true →
      S (h.guarded v.proxy v.errand v.handles) v.data) : Handling h S v v' log := by
  induction steps with
  | here =>
    simp only [Handling, entering]
    exact ⟨trivial, by simp [Begun]⟩
  | @step v₁ v₂ m m' log events steps code hs ih =>
    rcases Visit.step_cases hs with ⟨entrance, rfl, -, rfl⟩ | ⟨stage, data, rfl, passage⟩
    · simp only [Handling, entrance] at ih
      obtain ⟨rfl, quiet⟩ := ih
      exact Handling.enter code straight quiet
    · exact ih.passage code keeps start passage
  | @part v₁ v₂ log events steps gone stage data rest ih =>
    have silent : ¬ Begun events := by
      rintro ⟨g, mem⟩
      cases rest _ mem
    unfold Handling at ih ⊢
    rw [stage, data]
    cases hs : v₁.stage <;> simp only [hs] at ih gone ⊢ <;> first
      | exact gone.elim
      | (rw [begun_append_quiet silent]; exact ih)

namespace System

variable {s s' : System} {t j : Nat}

theorem Follows.handling (hr : Run s) (code : s.HasHandler j h) (straight : h.Straight)
    (enters : s.Enters t j v) (keeps : v.handles.Keeps S)
    (start : views? v.proxy v.handles = .ok true →
      S (h.guarded v.proxy v.errand v.handles) v.data)
    (follows : s.Follows t s') (here : s'.Attends t j v')
    (grown : s'.threadLog t = s.threadLog t ++ log) : Handling h S v v' log := by
  obtain ⟨v₁, log₁, here₁, grown₁, steps⟩ := follows.stepsTo hr code enters.attends
  obtain rfl := here₁.unique here
  obtain rfl := List.append_cancel_left (grown₁.symm.trans grown)
  exact steps.handling straight enters.stage keeps start

/-- A handler that meets no fault on its handles comes to its end, and its entry with it. -/
theorem Attends.finish_running {g : Nat} {left : ModuleProgram Unit} (here : s.Attends t j v)
    (hm : s.modules[j]? = some m) (running : v.stage = .running g left)
    (ends : v.given.Ensures (fun r _ => r = .ok ()) left v.data) :
    ∃ s' v', s.Comes t s' ∧ s'.Attends t j v' ∧ v'.stage = .returned := by
  have inside : ¬ v.stage.Over := by rw [running]; exact id
  induction left generalizing s v m with
  | ret u =>
    have hv : v.step m = some ({ v with stage := .returned },
        m.setContext { m.context with lock := m.context.lock.releaseRead }, [.handlerEnded g]) := by
      simp only [Visit.step, running]
    obtain ⟨s', step, here', -⟩ := here.visit_step inside hm hv
    exact ⟨s', _, .step step (.refl s' t), here', rfl⟩
  | panic q => cases ends
  | ask o next ih =>
    obtain ⟨a, data, m', events, perform, rest⟩ := ends m
    have performed := (Handles.perform_visit v m o).trans perform
    have hv : v.step m = some ({ v with data, stage := .running g (next a) }, m', events) := by
      simp only [Visit.step, running, performed]
    obtain ⟨s₁, step, here₁, hm₁, -⟩ := here.visit_step inside hm hv
    obtain ⟨s', v', comes, back⟩ := ih a here₁ hm₁ rfl rest id
    exact ⟨s', v', .step step comes, back⟩

/-- **A handler that has begun comes to its end**, where nothing that is said of it leaves room for a
fault or a panic: the thread can bring its entry there on its own. -/
theorem Follows.handled (hr : Run s) (code : s.HasHandler j h) (straight : h.Straight)
    (enters : s.Enters t j v) (keeps : v.handles.Keeps S)
    (start : views? v.proxy v.handles = .ok true →
      S (h.guarded v.proxy v.errand v.handles) v.data)
    (ends : ∀ p d, S p d → v.handles.Ensures (fun r _ => r = .ok ()) p d)
    (follows : s.Follows t s') (here : s'.Attends t j v')
    (grown : s'.threadLog t = s.threadLog t ++ log) (begun : Begun log) :
    ∃ s'' v'', s'.Comes t s'' ∧ s''.Attends t j v'' ∧ v''.stage = .returned ∧
      S (.ret ()) v''.data := by
  have now := follows.handling hr code straight enters keeps start here grown
  cases hs : v'.stage with
  | returned =>
    simp only [Handling, hs] at now
    obtain ⟨-, holds⟩ := now.resolve_right fun aside => aside.1 begun
    exact ⟨s', v', .refl s' t, here, hs, holds⟩
  | running g left =>
    simp only [Handling, hs] at now
    obtain ⟨holds, given, -⟩ := now
    have code' := code.later hr follows.later
    obtain ⟨m, hm, -⟩ := id code'
    obtain ⟨s'', v'', comes, there, returned⟩ :=
      here.finish_running hm hs (given ▸ ends _ _ holds)
    obtain ⟨-, more, -, grown', -⟩ := comes.follows.stepsTo (hr.later follows.later) code' here
    have whole : s''.threadLog t = s.threadLog t ++ (log ++ more) := by
      rw [grown', grown, List.append_assoc]
    have ended := (follows.trans comes.follows).handling hr code straight enters keeps start there whole
    simp only [Handling, returned] at ended
    obtain ⟨-, holds'⟩ :=
      ended.resolve_right fun aside => aside.1 (begun_append_iff.mpr (.inl begun))
    exact ⟨s'', v'', comes, there, returned, holds'⟩
  | faulted f =>
    simp only [Handling, hs] at now
    obtain ⟨-, m, o, next, holds, fault⟩ := now.resolve_right fun aside => aside.1 begun
    obtain ⟨a, data, m', events, performed, -⟩ := ends _ _ holds m
    cases fault.symm.trans performed
  | escaped =>
    simp only [Handling, hs] at now
    obtain ⟨-, q, holds⟩ := now
    cases ends _ _ holds
  | plain p => simp only [Handling, hs] at now
  | entering =>
    simp only [Handling, hs] at now
    exact absurd begun now.2
  | firstRead | claiming | draining | initializing | secondRead =>
    simp only [Handling, hs] at now
    exact absurd begun now.2.2.2.2

end System

/-! ## What the program yields -/

/-- Whether the program leaves data with `Q`, whatever it is told, and on handles that the host has
made comes to its end. -/
def Boundary.Handles.Delivers (given : Handles) (Q : CallData → Prop) (p : ModuleProgram Unit)
    (d : CallData) : Prop :=
  p.Yields d (p.output d) Q ∧ (given.Sound → given.Ensures (fun r _ => r = .ok ()) p d)

variable {Q : CallData → Prop} {τ : Output}

theorem Boundary.Handles.keeps_delivers (given : Handles) : given.Keeps (given.Delivers Q) := by
  intro m m' o next a d data events delivers perform
  obtain ⟨yields, ensures⟩ := delivers
  obtain ⟨fits, rfl⟩ := Visit.perform_fits perform
  refine ⟨(yields.answer fits).2, fun sound => ?_⟩
  obtain ⟨a', data', m'', events', performed, rest⟩ := ensures sound m
  cases perform.symm.trans performed
  exact rest

theorem Handler.guarded_delivers (reads : (h.handle v.errand).Asks ViewOp.ReadsUri)
    (yields : (h.guarded v.proxy v.errand v.handles).Yields v.data τ Q)
    (views : views? v.proxy v.handles = .ok true) :
    v.handles.Delivers Q (h.guarded v.proxy v.errand v.handles) v.data :=
  ⟨by rw [yields.output]; exact yields,
    fun sound => Handler.guarded_ensures reads (sound.serving views) v.data⟩

/-- **A request entry whose handler has begun leaves what the handler's program yields**, whatever it
is told and whatever others do: where the entry has come back, and on handles that the host has made
the thread can bring it there from wherever it is in the handler. -/
theorem System.Follows.delivers {s s' : System} {t j : Nat} (hr : Run s) (code : s.HasHandler j h)
    (straight : h.Straight) (enters : s.Enters t j v)
    (reads : (h.handle v.errand).Asks ViewOp.ReadsUri)
    (yields : (h.guarded v.proxy v.errand v.handles).Yields v.data τ Q)
    (follows : s.Follows t s') (here : s'.Attends t j v')
    (grown : s'.threadLog t = s.threadLog t ++ log) (begun : Begun log) :
    (v'.stage = .returned → Q v'.data) ∧
      (v.handles.Sound → ∃ s'' v'', s'.Comes t s'' ∧ s''.Attends t j v'' ∧ v''.stage = .returned ∧
        Q v''.data) := by
  have keeps := v.handles.keeps_delivers (Q := Q)
  have start := Handler.guarded_delivers reads yields
  refine ⟨fun returned => ?_, fun sound => ?_⟩
  · have now := follows.handling hr code straight enters keeps start here grown
    simp only [Handling, returned] at now
    exact (now.resolve_right fun aside => aside.1 begun).2.1.2
  · obtain ⟨s'', v'', comes, there, returned, delivers⟩ := follows.handled hr code straight enters
      keeps start (fun p d delivers => delivers.2 sound) here grown begun
    exact ⟨s'', v'', comes, there, returned, delivers.1.2⟩

end ModuleHost
