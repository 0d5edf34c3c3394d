import ModuleHost.Proofs.Containment.Contained
import ModuleHost.Proofs.Instance.Opening
import ModuleHost.Proofs.Instance.Standing

/-!
# Lifecycle entry points without panics

A position inside a lifecycle entry point has its counterpart for the contained module: the same one,
where what is left of a callback is contained too. So have the positions of a shutdown and of an
opening, which run these entry points. Each step has its counterpart as well, which comes to the
counterpart of the next position and leaves the same events but for notices (`step_contained`), and no
panic leaves an entry point (`Proper`).
-/
namespace ModuleHost

open Boundary

/-- What happened apart from what was told to the log. -/
def withoutNotices (events : List Event) : List Event :=
  events.filter fun e => !(e matches .notice _)

variable {tell : Payload → String} {m m' : Module} {events : List Event}

namespace HookStage

variable {hook : Hook} {h h' : HookStage}

/-- The counterpart of a position for the contained module. -/
def contained (tell : Payload → String) : HookStage → HookStage
  | .initializing p => .initializing (p.failing tell)
  | .closing v p => .closing v (p.failing tell)
  | .dropping v p => .dropping v p.finishing
  | .unwinding v p => .unwinding v p.finishing
  | h => h

/-- A position from which no panic can leave the entry point. -/
def Proper : HookStage → Prop
  | .escaped | .unwinding .. => False
  | .plain p => ∃ code, p = .ret code
  | _ => True

theorem start_contained (tell : Payload → String) (hook : Hook) (standard : m.Standard) :
    (start hook m).Proper ∧ start hook (m.contained tell) = (start hook m).contained tell := by
  obtain ⟨h, code, -⟩ := standard.code
  cases hook with
  | probe => exact ⟨⟨_, by rw [standard.probe]; rfl⟩, rfl⟩
  | load | unload =>
    simp only [start, Module.contained, code, Code.contained, contained, Proper, and_self]

theorem locked_contained (tell : Payload → String) (hook : Hook) (m : Module) (h : Handler) :
    (locked hook m h).1.Proper ∧ locked hook (m.contained tell) (h.contained tell) =
      ((locked hook m h).1.contained tell, (locked hook m h).2.1.contained tell,
        (locked hook m h).2.2) := by
  cases hs : m.context.slot <;> cases hook <;>
    simp only [locked, hs, Module.context_contained, Module.contained_setContext, contained, Proper,
      Handler.contained, and_self]

/-- **A step of an entry point** has its counterpart, and no panic leaves the entry. -/
theorem step_contained (tell : Payload → String) (standard : m.Standard) (proper : h.Proper)
    (hs : h.step hook m = some (h', m', events)) :
    h'.Proper ∧ ∃ events', (h.contained tell).step hook (m.contained tell) =
      some (h'.contained tell, m'.contained tell, events') ∧
      withoutNotices events' = withoutNotices events := by
  cases h with
  | entering =>
    obtain ⟨proper, starts⟩ := start_contained tell hook standard
    cases hs
    exact ⟨proper, _, by simp only [step, contained, starts], rfl⟩
  | claiming =>
    simp only [step, Option.map_eq_some_iff, Prod.mk.injEq] at hs
    obtain ⟨l, hl, rfl, rfl, rfl⟩ := hs
    exact ⟨trivial, _, by simp [step, contained, hl], rfl⟩
  | draining =>
    obtain ⟨handler, code, -⟩ := standard.code
    obtain ⟨proper, locks⟩ := locked_contained tell hook m handler
    simp only [step, code] at hs
    split at hs
    · rename_i free
      rw [Option.some.inj hs] at proper locks
      have step : step hook (m.contained tell) .draining =
          some (locked hook (m.contained tell) (handler.contained tell)) := by
        simp only [step, Module.code_contained, code, Code.contained, Module.context_contained, free,
          if_true]
      exact ⟨proper, _, step.trans (congrArg some locks), rfl⟩
    · cases hs
  | initializing p =>
    obtain ⟨handler, code, -⟩ := standard.code
    have code' := Module.contained_code tell code
    cases p with
    | ask o next =>
      simp only [step, Option.some.injEq, Prod.mk.injEq] at hs
      obtain ⟨rfl, rfl, rfl⟩ := hs
      refine ⟨trivial, _, ?_, rfl⟩
      simp only [step, contained, SelfProgram.failing, Program.catchPanic]
      rw [SelfOp.perform_contained tell m o]
    | ret r =>
      simp only [step, afterStart_quiet code, Option.some.injEq, Prod.mk.injEq] at hs
      obtain ⟨rfl, rfl, rfl⟩ := hs
      exact ⟨trivial, _, congrArg some (afterStart_quiet code' (.ok r)), rfl⟩
    | panic q =>
      simp only [step, afterStart_quiet code, Option.some.injEq, Prod.mk.injEq] at hs
      obtain ⟨rfl, rfl, rfl⟩ := hs
      exact ⟨trivial, _, congrArg some (afterStart_quiet code' (.ok (.error (tell q)))), rfl⟩
  | closing v p =>
    obtain ⟨handler, code, -⟩ := standard.code
    have code' := Module.contained_code tell code
    cases p with
    | ask o next =>
      simp only [step, Option.some.injEq, Prod.mk.injEq] at hs
      obtain ⟨rfl, rfl, rfl⟩ := hs
      refine ⟨trivial, _, ?_, rfl⟩
      simp only [step, contained, SelfProgram.failing, Program.catchPanic]
      rw [SelfOp.perform_contained tell m o]
    | ret r =>
      simp only [step, afterClose_quiet code, Option.some.injEq, Prod.mk.injEq] at hs
      obtain ⟨rfl, rfl, rfl⟩ := hs
      exact ⟨trivial, _, congrArg some (afterClose_quiet code' v (.ok r)), rfl⟩
    | panic q =>
      simp only [step, afterClose_quiet code, Option.some.injEq, Prod.mk.injEq] at hs
      obtain ⟨rfl, rfl, rfl⟩ := hs
      exact ⟨trivial, _, congrArg some (afterClose_quiet code' v (.ok (.error (tell q)))), rfl⟩
  | dropping v p =>
    obtain ⟨handler, code, -⟩ := standard.code
    cases p with
    | ask o next =>
      simp only [step, Option.some.injEq, Prod.mk.injEq] at hs
      obtain ⟨rfl, rfl, rfl⟩ := hs
      refine ⟨trivial, _, ?_, rfl⟩
      simp only [step, contained, SelfProgram.finishing, Program.catchPanic]
      rw [SelfOp.perform_contained tell m o]
    | ret =>
      cases hs
      exact ⟨trivial, _, rfl, rfl⟩
    | panic q =>
      simp only [step, afterDrop_quiet code, Option.some.injEq, Prod.mk.injEq] at hs
      obtain ⟨rfl, rfl, rfl⟩ := hs
      exact ⟨trivial, _, rfl, rfl⟩
  | unwinding => exact proper.elim
  | plain p =>
    obtain ⟨code, rfl⟩ := proper
    cases hs
    exact ⟨trivial, _, rfl, rfl⟩
  | returned | escaped => cases hs

theorem IsRunning.contained (tell : Payload → String) (running : h.IsRunning) :
    (h.contained tell).IsRunning := by
  cases h with
  | returned code => exact absurd rfl (running.1 code)
  | escaped => exact absurd rfl running.2
  | _ => exact ⟨by simp [HookStage.contained], by simp [HookStage.contained]⟩

theorem running_of_step (hs : h.step hook m = some (h', m', events)) : h.IsRunning := by
  refine ⟨fun code returned => ?_, fun escaped => ?_⟩
  · subst returned
    cases hs
  · subst escaped
    cases hs

end HookStage

/-! ## Shutting down -/

namespace ShutdownStage

variable {i i' : Instance} {σ σ' : ShutdownStage}

def contained (tell : Payload → String) : ShutdownStage → ShutdownStage
  | .unloading inside h => .unloading inside (h.contained tell)
  | σ => σ

def Proper : ShutdownStage → Prop
  | .unloading _ h => h.Proper
  | .escaped => False
  | _ => True

theorem look_contained (tell : Payload → String) (i : Instance) :
    (look i).Proper ∧ (look i).contained tell = look i := by
  unfold look
  split <;> exact ⟨trivial, rfl⟩

theorem IsRunning.contained (tell : Payload → String) (running : σ.IsRunning) :
    (σ.contained tell).IsRunning := by
  cases σ with
  | done o => exact absurd rfl (running o)
  | _ => simp [IsRunning, ShutdownStage.contained]

theorem running_of_step (hs : σ.step i m = some (σ', i', m', events)) : σ.IsRunning := by
  intro o done
  subst done
  cases hs

/-- **A step of a shutdown** has its counterpart, and no panic leaves `OnUnload`. -/
theorem step_contained (tell : Payload → String) (standard : m.Standard) (proper : σ.Proper)
    (hs : σ.step i m = some (σ', i', m', events)) :
    σ'.Proper ∧ ∃ events', (σ.contained tell).step i (m.contained tell) =
      some (σ'.contained tell, i', m'.contained tell, events') ∧
      withoutNotices events' = withoutNotices events := by
  cases σ with
  | arriving =>
    obtain ⟨proper, same⟩ := look_contained tell i
    simp only [step] at hs
    split at hs <;> cases hs
    · rename_i g closes
      exact ⟨trivial, _, by simp only [step, contained, closes], rfl⟩
    · rename_i closes
      exact ⟨proper, _, by rw [same]; simp only [step, contained, closes], rfl⟩
  | asleep since =>
    obtain ⟨proper, same⟩ := look_contained tell i
    simp only [step] at hs
    split at hs <;> cases hs
    rename_i woken
    exact ⟨proper, _, by rw [same]; simp only [step, contained, woken, if_true], rfl⟩
  | draining inside =>
    simp only [step] at hs
    split at hs <;> cases hs
    rename_i empty
    refine ⟨?_, _, ?_, rfl⟩
    · split <;> trivial
    · simp only [step, contained, empty, if_true]
      split <;> rfl
  | unloading inside h =>
    rcases h.running_or with ⟨code, rfl⟩ | rfl | running
    · cases hs
      exact ⟨trivial, _, rfl, rfl⟩
    · exact proper.elim
    · simp only [step_unloading running, Option.map_eq_some_iff, Prod.mk.injEq] at hs
      obtain ⟨⟨h', m₁, events₁⟩, hs, rfl, rfl, rfl, rfl⟩ := hs
      obtain ⟨proper', events', counterpart, same⟩ :=
        HookStage.step_contained tell standard proper hs
      refine ⟨proper', events', ?_, same⟩
      simp only [contained, step_unloading (running.contained tell), counterpart, Option.map_some]
  | unmapping | publishing | broadcasting | reporting =>
    cases hs
    exact ⟨trivial, _, rfl, rfl⟩
  | done | escaped => cases hs

end ShutdownStage

/-! ## Opening -/

namespace OpenStage

def contained (tell : Payload → String) : OpenStage → OpenStage
  | .probing h => .probing (h.contained tell)
  | .loading on h => .loading on (h.contained tell)
  | .abandoning on code σ => .abandoning on code (σ.contained tell)
  | .dropping on code σ => .dropping on code (σ.contained tell)
  | st => st

def Proper : OpenStage → Prop
  | .probing h | .loading _ h => h.Proper
  | .abandoning _ _ σ | .dropping _ _ σ => σ.Proper
  | .escaped => False
  | _ => True

@[simp] theorem on?_contained (st : OpenStage) : (st.contained tell).on? = st.on? := by
  cases st <;> rfl

end OpenStage

namespace Opening

variable {i i' : Instance} {st st' : OpenStage}

/-- **A step of an opening** that has no instance yet has its counterpart. -/
theorem stepEarly_contained (tell : Payload → String) {o : Opening} {next : Nat}
    {made : Option Instance} (standard : m.Standard) (proper : st.Proper)
    (hs : o.stepEarly next m st = some (st', made, m', events)) :
    st'.Proper ∧ ∃ events', o.stepEarly next (m.contained tell) (st.contained tell) =
      some (st'.contained tell, made, m'.contained tell, events') ∧
      withoutNotices events' = withoutNotices events := by
  cases stepEarly_cases hs with
  | ask exported =>
    exact ⟨trivial, _, by simp [stepEarly, OpenStage.contained, exported, HookStage.contained], rfl⟩
  | unasked exported =>
    exact ⟨trivial, _, by simp [stepEarly, OpenStage.contained, exported], rfl⟩
  | hook h h' m' events step =>
    obtain ⟨proper', events', counterpart, same⟩ :=
      HookStage.step_contained tell standard proper step
    refine ⟨proper', events', ?_, same⟩
    simp only [OpenStage.contained,
      stepEarly_probing ((HookStage.running_of_step step).contained tell), counterpart,
      Option.map_some]
  | told v => exact ⟨trivial, _, rfl, rfl⟩
  | broke => exact proper.elim
  | refuse found e refusal =>
    exact ⟨trivial, _, by simp [stepEarly, OpenStage.contained, refusal], rfl⟩
  | load found refusal exported =>
    exact ⟨trivial, _, by
      simp [stepEarly, OpenStage.contained, refusal, exported, HookStage.contained], rfl⟩
  | skip found refusal exported =>
    exact ⟨trivial, _, by simp [stepEarly, OpenStage.contained, refusal, exported], rfl⟩

theorem stepLate_contained (tell : Payload → String) (standard : m.Standard) (proper : st.Proper)
    (hs : stepLate i m st = some (st', i', m', events)) :
    st'.Proper ∧ ∃ events', stepLate i (m.contained tell) (st.contained tell) =
      some (st'.contained tell, i', m'.contained tell, events') ∧
      withoutNotices events' = withoutNotices events := by
  cases stepLate_cases hs with
  | hook n h h' m' events step =>
    obtain ⟨proper', events', counterpart, same⟩ :=
      HookStage.step_contained tell standard proper step
    refine ⟨proper', events', ?_, same⟩
    simp only [OpenStage.contained,
      stepLate_loading ((HookStage.running_of_step step).contained tell), counterpart,
      Option.map_some]
  | loaded n => exact ⟨trivial, _, rfl, rfl⟩
  | failed n code hne =>
    exact ⟨trivial, _, by
      simp [stepLate, OpenStage.contained, HookStage.contained, ShutdownStage.contained, hne], rfl⟩
  | broke n => exact proper.elim
  | abandon n code σ σ' i' m' events step =>
    obtain ⟨proper', events', counterpart, same⟩ :=
      ShutdownStage.step_contained tell standard proper step
    refine ⟨proper', events', ?_, same⟩
    simp only [OpenStage.contained,
      stepLate_abandoning ((ShutdownStage.running_of_step step).contained tell), counterpart,
      Option.map_some]
  | drop n code σ σ' i' m' events step =>
    obtain ⟨proper', events', counterpart, same⟩ :=
      ShutdownStage.step_contained tell standard proper step
    refine ⟨proper', events', ?_, same⟩
    simp only [OpenStage.contained,
      stepLate_dropping ((ShutdownStage.running_of_step step).contained tell), counterpart,
      Option.map_some]
  | abandoned | dropped | announce => exact ⟨trivial, _, rfl, rfl⟩

end Opening

end ModuleHost
