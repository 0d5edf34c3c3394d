import ModuleHost.Proofs.Instance.Standing

/-!
# The steps of a shutdown

`ShutdownStage.Transition` lists the steps of a shutdown: the one that closes the gate and goes on to the
published end, and those that look at a gate that is closed. `ShutdownStage.step_cases` says that there
are no others.
-/
namespace ModuleHost

open Boundary

variable {i i' : Instance} {m m' : Module} {events : List Event}

namespace ShutdownStage

variable {σ σ' : ShutdownStage}

/-- Whether the shutdown is about to look at a gate that somebody else has closed. -/
def Looks (i : Instance) (σ : ShutdownStage) : Prop :=
  σ = .arriving ∧ i.gate.state ≠ .live ∨ ∃ since, σ = .asleep since ∧ since < i.broadcasts

/-- A step of a shutdown of instance `i`, whose module is `m`. -/
inductive Transition (i : Instance) (m : Module) :
    ShutdownStage → ShutdownStage → Instance → Module → List Event → Prop
  | close (g : Gate) :
      i.gate.close? = some g →
      Transition i m .arriving (.draining g.inFlight) { i with gate := g } m [.gateClosed g.inFlight]
  | find (σ : ShutdownStage) :
      σ.Looks i → i.gate.state = .unloaded → Transition i m σ (.done .alreadyShutDown) i m []
  | sleep (σ : ShutdownStage) :
      σ.Looks i → i.gate.state ≠ .unloaded → Transition i m σ (.asleep i.broadcasts) i m []
  | drained (inside : Nat) :
      i.gate.inFlight = 0 → i.exports.onUnload = true →
      Transition i m (.draining inside) (.unloading inside .entering) i m []
  | skipped (inside : Nat) :
      i.gate.inFlight = 0 → i.exports.onUnload = false →
      Transition i m (.draining inside) (.unmapping inside false) i m []
  | hook (inside : Nat) (h h' : HookStage) (m' : Module) (events : List Event) :
      h.step .unload m = some (h', m', events) →
      Transition i m (.unloading inside h) (.unloading inside h') i m' events
  | left (inside : Nat) (code : Int) :
      Transition i m (.unloading inside (.returned code)) (.unmapping inside true) i m [.left .onUnload]
  | broke (inside : Nat) : Transition i m (.unloading inside .escaped) .escaped i m []
  | unmap (inside : Nat) (hook : Bool) :
      Transition i m (.unmapping inside hook) (.publishing inside hook) { i with mapped := false } m
        [.unmapped]
  | publish (inside : Nat) (hook : Bool) :
      Transition i m (.publishing inside hook) (.broadcasting inside hook)
        { i with gate := i.gate.publishUnloaded } m [.published]
  | broadcast (inside : Nat) (hook : Bool) :
      Transition i m (.broadcasting inside hook) (.reporting inside hook)
        { i with broadcasts := i.broadcasts + 1 } m []
  | report (inside : Nat) (hook : Bool) :
      Transition i m (.reporting inside hook) (.done (.completed inside hook)) i m
        [.notice (.moduleUnloaded i.name i.gate.served inside)]

theorem look_cases (looks : σ.Looks i) : Transition i m σ (look i) i m [] := by
  unfold look
  split
  · rename_i gone
    exact .find σ looks gone
  · rename_i open₀
    exact .sleep σ looks open₀

theorem step_cases (h : σ.step i m = some (σ', i', m', events)) : Transition i m σ σ' i' m' events := by
  cases σ with
  | arriving =>
    simp only [step] at h
    split at h
    · rename_i g closed
      cases h
      exact .close g closed
    · rename_i refused
      cases h
      refine look_cases (.inl ⟨rfl, fun live => ?_⟩)
      simp only [Gate.close?, live, if_true] at refused
      cases refused
  | asleep since =>
    simp only [step] at h
    split at h
    · rename_i woken
      cases h
      exact look_cases (.inr ⟨since, rfl, woken⟩)
    · cases h
  | draining inside =>
    simp only [step] at h
    split at h
    · rename_i empty
      cases hx : i.exports.onUnload <;> simp only [hx] at h <;> cases h
      · exact .skipped inside empty hx
      · exact .drained inside empty hx
    · cases h
  | unloading inside hook =>
    rcases hook.running_or with ⟨code, rfl⟩ | rfl | running
    · cases h
      exact .left inside code
    · cases h
      exact .broke inside
    · simp only [step_unloading running, Option.map_eq_some_iff, Prod.mk.injEq] at h
      obtain ⟨⟨hook', m₁, events₁⟩, hstep, rfl, rfl, rfl, rfl⟩ := h
      exact .hook inside hook hook' m₁ events₁ hstep
  | unmapping inside hook => cases h; exact .unmap inside hook
  | publishing inside hook => cases h; exact .publish inside hook
  | broadcasting inside hook => cases h; exact .broadcast inside hook
  | reporting inside hook => cases h; exact .report inside hook
  | done | escaped => cases h

theorem Transition.broadcasts_le (h : Transition i m σ σ' i' m' events) : i.broadcasts ≤ i'.broadcasts := by
  cases h with
  | broadcast => exact Nat.le_succ _
  | _ => exact Nat.le_refl _

theorem Transition.path (h : Transition i m σ σ' i' m' events) : i'.path = i.path := by
  cases h <;> rfl

end ShutdownStage

end ModuleHost
