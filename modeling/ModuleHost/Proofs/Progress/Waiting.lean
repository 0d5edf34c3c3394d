import ModuleHost.Proofs.Containment.TwoRuns
import ModuleHost.Proofs.Instance.Ending
import ModuleHost.Proofs.Instance.Following

/-!
# What a thread waits for

A thread that cannot take a step, although it has neither finished nor broken off, waits for one of
four things (`System.Waits`): a lock that a writer has claimed, the readers of a lock that it has
claimed itself, the calls inside an instance whose gate it has closed, or the broadcast of another
shutdown. `waits_of_stuck` says that there is nothing else to wait for.
-/
namespace ModuleHost

/-- Whether the visit wants a lock that a writer may have claimed. -/
def VisitStage.Queues : VisitStage → Prop
  | .firstRead _ | .claiming _ | .secondRead _ => True
  | _ => False

namespace Task

/-- The request entry point that a task is inside of. -/
def visit? : Task → Option Visit
  | .calling c =>
    match c.stage with
    | .inside => some c.visit
    | _ => none
  | .visiting _ v => some v
  | .opening .. | .shutting .. | .dropping .. | .hooking .. => none

/-- Whether the task wants a lock that a writer may have claimed. -/
def Queues (k : Task) : Prop :=
  (∃ hook, k.hook? = some (hook, .claiming)) ∨ ∃ v, k.visit? = some v ∧ v.stage.Queues

theorem hold_of_visit {k : Task} {v : Visit} (h : k.visit? = some v) : k.hold = v.stage.hold := by
  cases k with
  | calling c =>
    simp only [visit?] at h
    split at h
    · rename_i inside
      cases h
      exact Call.hold_inside inside
    · cases h
  | visiting module v => cases h; rfl
  | opening | shutting | dropping | hooking => cases h

end Task

/-! ## Positions without a step -/

variable {i : Instance} {m : Module}

/-- A lifecycle entry point waits at the lock, or for the lock's readers. -/
theorem HookStage.step_eq_none {hook : Hook} {h : HookStage} (running : h.IsRunning)
    (stops : h.step hook m = none) : h = .claiming ∧ m.context.lock.claimed = true ∨
      h = .draining ∧ ∀ handler drops, m.code = .handler handler drops → m.context.lock.readers ≠ 0 := by
  cases h with
  | claiming =>
    simp only [step, Lock.claim?, Option.map_eq_none_iff] at stops
    split at stops
    · rename_i claimed
      exact .inl ⟨rfl, claimed⟩
    · cases stops
  | draining =>
    refine .inr ⟨rfl, fun handler drops code free => ?_⟩
    simp only [step, code, free, if_true] at stops
    cases stops
  | entering => cases stops
  | initializing p | closing v p | dropping v p | unwinding v p | plain p =>
    cases p <;> cases stops
  | returned code => exact absurd rfl (running.1 code)
  | escaped => exact absurd rfl running.2

/-- So does a request entry point that has not come to its end. -/
theorem Visit.step_eq_none {v : Visit} (stops : v.step m = none) :
    v.stage.Queues ∧ m.context.lock.claimed = true ∨
    (v.stage.hold = .waiting ∧
      ∀ handler drops, m.code = .handler handler drops → m.context.lock.readers ≠ 0) ∨
    v.stage = .returned ∨ v.stage.Broken := by
  have reads {p : ModuleProgram Unit} {fresh torn : VisitStage} {tornEvents : List Event}
      (h : v.read m p fresh torn tornEvents = none) : m.context.lock.claimed = true := by
    simp only [read, Lock.acquireRead?, Option.map_eq_none_iff] at h
    split at h
    · assumption
    · cases h
  unfold step at stops
  split at stops
  · cases stops
  · rename_i p hs
    exact .inl ⟨by rw [hs]; trivial, reads stops⟩
  · rename_i p hs
    simp only [Lock.claim?, Option.map_eq_none_iff] at stops
    split at stops
    · rename_i claimed
      exact .inl ⟨by rw [hs]; trivial, claimed⟩
    · cases stops
  · rename_i p hs
    refine .inr (.inl ⟨by rw [hs]; rfl, fun handler drops code free => ?_⟩)
    simp only [code, free, if_true] at stops
    cases stops
  · cases stops
  · cases stops
  · cases stops
  · rename_i p hs
    exact .inl ⟨by rw [hs]; trivial, reads stops⟩
  · split at stops <;> cases stops
  · cases stops
  · cases stops
  · split at stops <;> cases stops
  · cases stops
  · cases stops
  · rename_i hs
    exact .inr (.inr (.inl hs))
  · rename_i f hs
    exact .inr (.inr (.inr (by rw [hs]; trivial)))
  · rename_i hs
    exact .inr (.inr (.inr (by rw [hs]; trivial)))

/-- A shutdown sleeps, waits for the calls inside, is held up inside `OnUnload`, or is at its end. -/
theorem ShutdownStage.step_eq_none {σ : ShutdownStage} (stops : σ.step i m = none) :
    (∃ since, σ = .asleep since ∧ i.broadcasts ≤ since) ∨
    (∃ inside, σ = .draining inside ∧ i.gate.inFlight ≠ 0) ∨
    (∃ inside h, σ = .unloading inside h ∧ h.IsRunning ∧ h.step .unload m = none) ∨
    (∃ o, σ = .done o) ∨ σ.Broken := by
  cases σ with
  | arriving =>
    simp only [step] at stops
    split at stops <;> cases stops
  | asleep since =>
    simp only [step] at stops
    split at stops
    · cases stops
    · rename_i still
      exact .inl ⟨since, rfl, Nat.le_of_not_lt still⟩
  | draining inside =>
    simp only [step] at stops
    split at stops
    · cases stops
    · rename_i busy
      exact .inr (.inl ⟨inside, rfl, busy⟩)
  | unloading inside h =>
    rcases h.running_or with ⟨code, rfl⟩ | rfl | running
    · cases stops
    · cases stops
    · rw [step_unloading running, Option.map_eq_none_iff] at stops
      exact .inr (.inr (.inl ⟨inside, h, rfl, running, stops⟩))
  | unmapping | publishing | broadcasting | reporting => cases stops
  | done o => exact .inr (.inr (.inr (.inl ⟨o, rfl⟩)))
  | escaped => exact .inr (.inr (.inr (.inr trivial)))

/-- What a task in module `m` waits for. -/
inductive System.Waits (s : System) (m : Module) (k : Task) : Prop
  | lock : k.Queues → m.context.lock.claimed = true → Waits s m k
  | readers : k.hold = .waiting →
      (∀ handler drops, m.code = .handler handler drops → m.context.lock.readers ≠ 0) → Waits s m k
  | calls (n : Nat) (i : Instance) :
      k.standingTo n = .draining → s.instances[n]? = some i → i.gate.inFlight ≠ 0 → Waits s m k
  | broadcast (why : Task.Reason) (n since : Nat) (i : Instance) :
      k.shutdown? = some (why, n, .asleep since) → s.instances[n]? = some i →
      i.broadcasts ≤ since → Waits s m k

namespace System

variable {s : System} {k : Task} {t j n : Nat}

theorem Waits.hook {hook : Hook} {h : HookStage} (hk : k.hook? = some (hook, h))
    (running : h.IsRunning) (stops : h.step hook m = none) : s.Waits m k := by
  rcases HookStage.step_eq_none running stops with ⟨rfl, claimed⟩ | ⟨rfl, busy⟩
  · exact .lock (.inl ⟨hook, hk⟩) claimed
  · exact .readers (Task.hold_of_hook hk) busy

theorem Waits.visit {v : Visit} (hk : k.visit? = some v) (stops : v.step m = none)
    (open₀ : v.stage ≠ .returned) (sound : ¬ v.stage.Broken) : s.Waits m k := by
  rcases Visit.step_eq_none stops with ⟨queues, claimed⟩ | ⟨waiting, busy⟩ | back | broken
  · exact .lock (.inr ⟨v, hk, queues⟩) claimed
  · exact .readers ((Task.hold_of_visit hk).trans waiting) busy
  · exact absurd back open₀
  · exact absurd broken sound

theorem Waits.shutdown {why : Task.Reason} {σ : ShutdownStage}
    (hk : k.shutdown? = some (why, n, σ)) (inner : k.hook? = σ.hook?)
    (hi : s.instances[n]? = some i) (stops : σ.step i m = none) (open₀ : σ.IsRunning)
    (sound : ¬ σ.Broken) : s.Waits m k := by
  obtain ⟨hon, standing⟩ := Task.on?_of_shutdown hk
  rcases ShutdownStage.step_eq_none stops with ⟨since, rfl, still⟩ | ⟨inside, rfl, busy⟩ |
    ⟨inside, h, rfl, running, stops⟩ | ⟨o, rfl⟩ | broken
  · exact .broadcast why n since i hk hi still
  · exact .calls n i ((Task.standingTo_self hon).trans standing) hi busy
  · exact .hook inner running stops
  · exact absurd rfl (open₀ o)
  · exact absurd broken sound

section
variable (ht : s.threads[t]? = some k) (stuck : s.step t = none)
include ht stuck

theorem stepOn_of_stuck (hon : k.on? = some n) (hi : s.instances[n]? = some i)
    (hm : s.modules[i.module]? = some m) : k.stepOn i m = none := by
  refine Option.eq_none_iff_forall_ne_some.mpr fun ⟨k', i', m', events⟩ h => ?_
  cases stuck.symm.trans (step_late ht hon hi hm h)

theorem stepIn_of_stuck (hd : k.direct? = some j) (hm : s.modules[j]? = some m) :
    k.stepIn m = none := by
  refine Option.eq_none_iff_forall_ne_some.mpr fun ⟨k', m', events⟩ h => ?_
  cases stuck.symm.trans (step_direct ht hd hm h)

end

/-- **There is nothing else to wait for.** A thread that has neither finished nor broken off, and whose
module is there, takes a step or waits. -/
theorem waits_of_stuck (ht : s.threads[t]? = some k) (sound : ¬ k.Broken) (open₀ : k.report? = none)
    (home : k.module? s.instances = some j) (hm : s.modules[j]? = some m)
    (stuck : s.step t = none) : s.Waits m k := by
  -- Where the task has an instance, the instance is there, and the module is the instance's.
  have found : ∀ n, k.on? = some n → ∃ i, s.instances[n]? = some i ∧ k.stepOn i m = none := by
    intro n hon
    simp only [Task.module?, hon, Option.map_eq_some_iff] at home
    obtain ⟨i, hi, rfl⟩ := home
    exact ⟨i, hi, stepOn_of_stuck ht stuck hon hi hm⟩
  cases k with
  | opening o st =>
    cases hon : st.on? with
    | none =>
      have early : o.stepEarly s.instances.length m st = none := by
        refine Option.eq_none_iff_forall_ne_some.mpr fun out h => ?_
        obtain ⟨st', made, m', events⟩ := out
        simp only [Task.module?, Task.on?, hon, Task.home?] at home
        cases home
        cases stuck.symm.trans (step_early ht hon hm h)
      cases st with
      | probing h =>
        rcases h.running_or with ⟨code, rfl⟩ | rfl | running
        · cases early
        · cases early
        · rw [Opening.stepEarly_probing running, Option.map_eq_none_iff] at early
          exact .hook rfl running early
      | arriving => cases early
      | judging found =>
        simp only [Opening.stepEarly] at early
        split at early <;> cases early
      | done r => cases open₀
      | escaped => exact absurd trivial sound
      | loading | abandoning | dropping | announcing => cases hon
    | some n =>
      obtain ⟨i, hi, late⟩ := found n hon
      simp only [Task.stepOn, Option.map_eq_none_iff] at late
      cases st with
      | loading n' h =>
        rcases h.running_or with ⟨code, rfl⟩ | rfl | running
        · simp only [Opening.stepLate] at late
          split at late <;> cases late
        · cases late
        · rw [Opening.stepLate_loading running, Option.map_eq_none_iff] at late
          exact .hook rfl running late
      | abandoning n' code σ =>
        cases hon
        rcases σ.running_or with ⟨o, rfl⟩ | running
        · cases late
        · rw [Opening.stepLate_abandoning running, Option.map_eq_none_iff] at late
          exact .shutdown rfl rfl hi late running sound
      | dropping n' code σ =>
        cases hon
        rcases σ.running_or with ⟨o, rfl⟩ | running
        · cases late
        · rw [Opening.stepLate_dropping running, Option.map_eq_none_iff] at late
          exact .shutdown rfl rfl hi late running sound
      | announcing n' => cases late
      | arriving | probing | judging | done | escaped => cases hon
  | calling c =>
    obtain ⟨i, hi, late⟩ := found c.on rfl
    simp only [Task.stepOn, Option.map_eq_none_iff] at late
    unfold Call.step at late
    split at late
    · cases late
    · rename_i inside
      split at late
      · cases late
      · cases late
      · cases late
      · rename_i open₁ _ _
        rw [Option.map_eq_none_iff] at late
        exact .visit (by simp only [Task.visit?, inside]) late open₁ fun broken =>
          sound (.inr broken)
    · cases late
    · cases late
    · rename_i r done
      simp only [Task.report?, done] at open₀
      cases open₀
    · rename_i escaped
      exact absurd (.inl (by rw [escaped]; trivial)) sound
  | shutting n σ | dropping n σ =>
    obtain ⟨i, hi, late⟩ := found n rfl
    simp only [Task.stepOn, Option.map_eq_none_iff] at late
    refine .shutdown rfl rfl hi late (fun o done => ?_) sound
    subst done
    cases open₀
  | hooking module hook h =>
    cases home
    have direct := stepIn_of_stuck ht stuck rfl hm
    simp only [Task.stepIn, Option.map_eq_none_iff] at direct
    refine .hook rfl ⟨fun code back => ?_, fun broken => ?_⟩ direct
    · subst back
      cases open₀
    · subst broken
      exact sound trivial
  | visiting module v =>
    cases home
    have direct := stepIn_of_stuck ht stuck rfl hm
    simp only [Task.stepIn, Option.map_eq_none_iff] at direct
    refine .visit rfl direct (fun back => ?_) sound
    simp only [Task.report?, back] at open₀
    cases open₀

end System

end ModuleHost
