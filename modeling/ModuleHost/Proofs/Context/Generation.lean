import ModuleHost.Proofs.Context.Ledger
import ModuleHost.Proofs.Context.Unload

/-!
# Generations

What becomes of the handler values of a module (`values_accounted`). The counts come from the
ledger, and that a value's shutdown and its drop belong to the same unload comes from the trails of
the threads.
-/
namespace ModuleHost

open Boundary

theorem Hold.writes_of_tearsDown {σ : Hold} {g : Nat} (h : σ.tearsDown g = true) :
    σ.writes = true := by
  cases σ <;> first | rfl | cases h

namespace Context

theorem phase_eq_live (c : Context) : c.phase = .live ↔ c.slot.value?.isSome = true := by
  unfold phase
  cases c.slot <;> simp [Slot.phase, Slot.value?]

end Context

namespace System

/-- The value of generation `g` is in the slot, and neither shut down nor dropped. -/
structure Current (s : System) (j g : Nat) : Prop where
  held : (s.context j).slot.value? = some g
  closed : (s.moduleLog j).count (.shutdownBegun g) = 0
  dropped : (s.moduleLog j).count (.dropped g) = 0

/-- The value of generation `g` is out of the slot; it was shut down once and then dropped once, by
one thread within one visit of `OnUnload`. -/
structure Gone (s : System) (j g : Nat) : Prop where
  out : (s.context j).slot.value? ≠ some g
  closed : (s.moduleLog j).count (.shutdownBegun g) = 1
  dropped : (s.moduleLog j).count (.dropped g) = 1
  within : ∃ t, TornDown g (s.visitLog t j)

/-- A shutdown is on the trail of the thread that began it. -/
theorem Run.torn {s : System} (hr : Run s) {j g : Nat} (hg : .shutdownBegun g ∈ s.moduleLog j) :
    (∃ t, TornDown g (s.visitLog t j)) ∨ ∃ σ ∈ s.holds j, σ.tearsDown g = true := by
  obtain ⟨x, hx, hj, he⟩ := mem_log.mp hg
  have mem : .shutdownBegun g ∈ s.visitLog x.thread j :=
    List.mem_filter.mpr ⟨mem_log.mpr ⟨x, hx, by simpa using hj, he⟩, rfl⟩
  rcases (hr.trail x.thread j).closed g mem with torn | ⟨k, hk, ht⟩
  · exact .inl ⟨x.thread, torn⟩
  · exact .inr ⟨_, List.mem_map_of_mem (List.mem_of_getElem? hk), ht⟩

/-- **Every value is accounted for** in every run, whichever threads load, unload and call, in
whatever order, and whatever the module's code comes to. No value is built twice, leaves the slot
without its shutdown, is shut down twice, or dropped without its shutdown. And as long as nobody has
the lock for writing, the generation is the number of values built, all of them were shut down but
the one in the slot, and each of these was dropped in the unload that shut it down. -/
theorem values_accounted {s : System} (hr : Run s) (j : Nat) :
    (∀ g, (s.moduleLog j).count (.built g) ≤ 1 ∧
      (s.moduleLog j).count (.shutdownBegun g) +
          (if (s.context j).slot.value? = some g then 1 else 0) = (s.moduleLog j).count (.built g) ∧
      (s.moduleLog j).count (.dropped g) ≤ (s.moduleLog j).count (.shutdownBegun g)) ∧
    ((∀ σ ∈ s.holds j, σ.writes = false) →
      (s.context j).generation = (s.moduleLog j).countP Event.isBuilt ∧
      (s.context j).generation = (s.moduleLog j).countP Event.isShutdown +
        (if (s.context j).phase = .live then 1 else 0) ∧
      ∀ g, .built g ∈ s.moduleLog j → s.Current j g ∨ s.Gone j g) := by
  have page := hr.page j
  obtain ⟨builds, closes, -⟩ := hr.totals j
  refine ⟨fun g => ⟨?_, (page g).closed, Nat.le.intro (page g).dropped⟩,
    fun calm => ⟨builds.symm, ?_, fun g hg => ?_⟩⟩
  · rw [(page g).built]
    split <;> omega
  · simp only [Context.phase_eq_live]
    exact closes.symm
  · have torn : (s.holds j).countP (Hold.tearsDown g) = 0 := by
      refine List.countP_eq_zero.mpr fun σ hσ ht => ?_
      cases (calm σ hσ).symm.trans (Hold.writes_of_tearsDown ht)
    have once := (page g).built_of_mem hg
    have closed := (page g).closed
    have dropped := (page g).dropped
    by_cases hv : (s.context j).slot.value? = some g
    · rw [if_pos hv] at closed
      exact .inl ⟨hv, by omega, by omega⟩
    · rw [if_neg hv] at closed
      have begun : .shutdownBegun g ∈ s.moduleLog j := List.count_pos_iff.mp (by omega)
      refine .inr ⟨hv, by omega, by omega, ?_⟩
      rcases hr.torn begun with within | ⟨σ, hσ, ht⟩
      · exact within
      · cases (calm σ hσ).symm.trans (Hold.writes_of_tearsDown ht)

/-- Thread 2 has shut instance 0 down, and thread 3 has opened instance 1 on the same module. -/
def sampleReloaded : System :=
  ((sampleBusy.spawn (.opening sampleOpening .arriving)).steps
    (List.replicate 12 2 ++ List.replicate 11 3)).getD {}

theorem run_sampleReloaded : Run sampleReloaded := by
  have begun := run_sampleBusy.move
    (.begin _ (.opening sampleOpening .arriving) rfl (by simp [Task.on?, OpenStage.on?]))
  exact begun.later (later_of_steps (List.replicate 12 2 ++ List.replicate 11 3) rfl)

theorem values_accounted_sample : Run sampleReloaded ∧ sampleReloaded.Gone 0 1 ∧
    sampleReloaded.Current 0 2 ∧ (sampleReloaded.context 0).generation = 2 := by
  obtain ⟨-, accounted⟩ := values_accounted run_sampleReloaded 0
  obtain ⟨builds, -, values⟩ := accounted (by decide +kernel)
  have second : (sampleReloaded.context 0).slot.value? = some 2 := by decide +kernel
  refine ⟨run_sampleReloaded, ?_, ?_, ?_⟩
  · rcases values 1 (by decide +kernel) with current | gone
    · cases current.held.symm.trans second
    · exact gone
  · rcases values 2 (by decide +kernel) with current | gone
    · exact current
    · exact absurd second gone.out
  · rw [builds]
    decide +kernel

end System

end ModuleHost
