import ModuleHost.Proofs.Instance.Closing
import ModuleHost.Proofs.Instance.Verdict
import ModuleHost.Proofs.Progress.Readers

/-!
# Who sleeps until an instance is gone

A shutdown that finds the gate closed sleeps until the end of the instance is broadcast. From the step
that closes the gate on there is a thread whose broadcast is still ahead, until it is made
(`Run.herald`), and nobody falls asleep before the gate has closed (`Run.closed_of_asleep`). So nobody
sleeps through the broadcast and waits for another.
-/
namespace ModuleHost

open Boundary

variable {i i' : Instance} {m m' : Module} {events : List Event}

namespace ShutdownStage

variable {σ σ' : ShutdownStage}

/-! ## Heralds -/

/-- Whether the shutdown has closed the gate and not yet broadcast the end. -/
def Heralds : ShutdownStage → Prop
  | .draining _ | .unloading .. | .unmapping .. | .publishing .. | .broadcasting .. => True
  | .arriving | .asleep _ | .reporting .. | .done _ | .escaped => False

/-- A shutdown that is to broadcast the end goes on until it does so. -/
theorem Heralds.step (heralds : σ.Heralds) (h : Transition i m σ σ' i' m' events) (sound : ¬ σ'.Broken) :
    σ'.Heralds ∧ i'.broadcasts = i.broadcasts ∨ i'.broadcasts = i.broadcasts + 1 := by
  cases h with
  | drained | skipped | hook | left | unmap | publish => exact .inl ⟨trivial, rfl⟩
  | broadcast => exact .inr rfl
  | broke => exact absurd trivial sound
  | close | report => exact heralds.elim
  | find _ looks | sleep _ looks =>
    rcases looks with ⟨rfl, -⟩ | ⟨since, rfl, -⟩ <;> exact heralds.elim

theorem Transition.heralds (h : Transition i m σ σ' i' m' events) (live : i.gate.state = .live)
    (closed : i'.gate.state ≠ .live) : σ'.Heralds := by
  cases h with
  | close | publish => trivial
  | find | sleep | drained | skipped | hook | left | broke | unmap | broadcast | report =>
    exact absurd live closed

end ShutdownStage

theorem Task.broken_of_shutdown {k : Task} {why : Task.Reason} {n : Nat} {σ : ShutdownStage}
    (h : k.shutdown? = some (why, n, σ)) (broken : σ.Broken) : k.Broken := by
  cases k with
  | opening o st => cases st <;> cases h <;> exact broken
  | shutting | dropping => cases h; exact broken
  | calling | hooking | visiting => cases h

namespace System

variable {s s' : System} {t n : Nat}

/-- A turn of a thread in a shutdown call is a step of the shutdown, unless that is done. -/
theorem Shutting.transition {why : Task.Reason} {σ : ShutdownStage} (h : s.Shutting t why n σ)
    (running : σ.IsRunning) (hs : s.step t = some s') :
    ∃ σ' i i' m m' events, s'.Shutting t why n σ' ∧ s.instances[n]? = some i ∧
      s'.instances[n]? = some i' ∧ ShutdownStage.Transition i m σ σ' i' m' events := by
  obtain ⟨k, ht, hk⟩ := h
  obtain ⟨i, i', m, m', k', events, hi, hi', after, transition, -⟩ := step_of_shutting hs ht hk
  have here := (List.getElem?_eq_some_iff.mp ht).1
  cases transition with
  | on _ _ σ' k' i' m' events hσ hk' =>
    exact ⟨σ', i, i', m, m', events, ⟨k', by simp [after, here], hk'⟩, hi, hi',
      ShutdownStage.step_cases hσ⟩
  | again o code r | lost o e r => exact absurd rfl (running r)

/-- Whether the gate of an instance is closed, and what has been broadcast of its end, changes only with
a shutdown of it. -/
theorem Turn.ends {i : Instance} (h : s.Turn t s') (hi : s.instances[n]? = some i) :
    ∃ i', s'.instances[n]? = some i' ∧
      (i'.gate.state = i.gate.state ∧ i'.broadcasts = i.broadcasts ∨
        ∃ why σ σ' m m' events, s'.Shutting t why n σ' ∧
          ShutdownStage.Transition i m σ σ' i' m' events) := by
  obtain ⟨k, k', i', ht, after, hi', sight⟩ := h.sight hi
  refine ⟨i', hi', ?_⟩
  cases sight with
  | aside => exact .inl ⟨rfl, rfl⟩
  | on i' m m' events hon hm hstep =>
    cases call : k.shutdown? with
    | none =>
      obtain ⟨⟨-, -, state, broadcasts⟩, -⟩ := Task.stepOn_outside call hstep
      exact .inl ⟨state, broadcasts⟩
    | some called =>
      obtain ⟨why, n₁, σ⟩ := called
      cases hon.symm.trans (Task.on?_of_shutdown call).1
      have here := (List.getElem?_eq_some_iff.mp ht).1
      cases Task.stepOn_transition call hstep with
      | on _ _ σ' k' i' m' events hσ hk' =>
        exact .inr ⟨why, σ, σ', m, m', events, ⟨k', by simp [after, here], hk'⟩,
          ShutdownStage.step_cases hσ⟩
      | again | lost => exact .inl ⟨rfl, rfl⟩

/-! ## Nobody sleeps through the broadcast -/

/-- Thread `u` has closed the gate of instance `n` and has not yet broadcast the end. -/
def Heralds (s : System) (u n : Nat) : Prop :=
  ∃ (why : Task.Reason) (σ : ShutdownStage), s.Shutting u why n σ ∧ σ.Heralds

theorem Heralds.onward {u : Nat} (h : s.Heralds u n) (hs : s.step u = some s') (whole : s'.Whole) :
    s'.Heralds u n ∨ ∃ i i', s.instances[n]? = some i ∧ s'.instances[n]? = some i' ∧
      i'.broadcasts = i.broadcasts + 1 := by
  obtain ⟨why, σ, hσ, heralds⟩ := h
  have running : σ.IsRunning := by
    rintro o rfl
    exact heralds
  obtain ⟨σ', i, i', m, m', events, hσ', hi, hi', transition⟩ := hσ.transition running hs
  have sound : ¬ σ'.Broken := by
    obtain ⟨k', hu, hk'⟩ := hσ'
    exact fun broken => whole u k' hu (Task.broken_of_shutdown hk' broken)
  rcases heralds.step transition sound with ⟨heralds', -⟩ | more
  · exact .inl ⟨why, σ', hσ', heralds'⟩
  · exact .inr ⟨i, i', hi, hi', more⟩

/-- Whoever falls asleep sleeps until there is one broadcast more than by then; it has found the gate
closed, now or before. -/
theorem asleep_of_step {why : Task.Reason} {since : Nat} (hs : s.step t = some s')
    (asleep : s'.Shutting t why n (.asleep since)) : ∃ i, s'.instances[n]? = some i ∧
      since = i.broadcasts ∧
      (i.gate.state ≠ .live ∨ ∃ before, s.Shutting t why n (.asleep before)) := by
  obtain ⟨σ, k, ht, hk⟩ : ∃ σ, s.Shutting t why n σ := by
    rcases (Move.step s s' t hs).shutting asleep with start | old | ⟨-, before⟩
    · cases start
    · exact ⟨_, old⟩
    · exact before
  obtain ⟨k', ht', hk'⟩ := asleep
  obtain ⟨i, i', m, m', k₁, events, hi, hi', after, transition, -⟩ := step_of_shutting hs ht hk
  have here := (List.getElem?_eq_some_iff.mp ht).1
  obtain rfl : k₁ = k' := by simpa [after, here] using ht'
  cases transition with
  | on _ _ σ' k' i' m' events hσ hk₁ =>
    cases hk₁.symm.trans hk'
    cases ShutdownStage.step_cases hσ with
    | sleep _ looks open₀ =>
      refine ⟨i, hi', rfl, ?_⟩
      rcases looks with ⟨rfl, closed⟩ | ⟨before, rfl, -⟩
      · exact .inl closed
      · exact .inr ⟨before, k, ht, hk⟩
  | again => cases hk'
  | lost => cases hk'

/-- Whoever sleeps has found the gate closed. -/
theorem Run.closed_of_asleep (hr : Run s) {why : Task.Reason} {since : Nat}
    (asleep : s.Shutting t why n (.asleep since)) : s.Closed n := by
  have key : ∀ since, s.Shutting t why n (.asleep since) → s.Closed n := by
    refine hr.induction (P := fun s => ∀ since, s.Shutting t why n (.asleep since) → s.Closed n)
      ?_ fun s s' _ ih hm since asleep => ?_
    · rintro since ⟨k, ht, -⟩
      cases ht
    · rcases hm.shutting asleep with start | old | ⟨hs, -⟩
      · cases start
      · exact ((ih since old).later hm.later).1
      · obtain ⟨i, hi, -, closed | ⟨before, old⟩⟩ := asleep_of_step hs asleep
        · exact ⟨i, hi, closed⟩
        · exact ((ih before old).later hm.later).1
  exact key since asleep

/-- **Somebody will wake the sleepers.** Between the closing of a gate and the broadcast there is a
thread that is on its way to the broadcast. -/
theorem Run.herald (hr : Run s) (whole : s.Whole) {i : Instance} (hi : s.instances[n]? = some i)
    (closed : i.gate.state ≠ .live) (silent : i.broadcasts = 0) : ∃ u, s.Heralds u n := by
  have key : s.Whole → ∀ i, s.instances[n]? = some i → i.gate.state ≠ .live → i.broadcasts = 0 →
      ∃ u, s.Heralds u n := by
    refine hr.induction (P := fun s => s.Whole → ∀ i, s.instances[n]? = some i →
      i.gate.state ≠ .live → i.broadcasts = 0 → ∃ u, s.Heralds u n)
      (by simp) fun s s' hr ih hm whole i' hi' closed silent => ?_
    -- A herald that there was is still there, and is still to broadcast.
    have onward : ∀ i, s.instances[n]? = some i → i.gate.state ≠ .live → i.broadcasts = 0 →
        ∃ u, s'.Heralds u n := by
      intro i hi closed₀ silent₀
      obtain ⟨u, heralds⟩ := ih (whole.before hr hm) i hi closed₀ silent₀
      refine ⟨u, ?_⟩
      obtain ⟨why, σ, ⟨k, hu, hk⟩, hσ⟩ := heralds
      rcases hm.task_before hu with same | ⟨c, r, rfl, -⟩ | hs
      · exact ⟨why, σ, ⟨k, same, hk⟩, hσ⟩
      · cases hk
      · rcases Heralds.onward ⟨why, σ, ⟨k, hu, hk⟩, hσ⟩ hs whole with still | ⟨i₁, i₁', -, hi₁', more⟩
        · exact still
        · cases hi'.symm.trans hi₁'
          omega
    cases hm with
    | install | begin | again => exact onward i' hi' closed silent
    | step _ t hs =>
      cases hi : s.instances[n]? with
      | none =>
        obtain ⟨fresh, -⟩ := (Move.step s s' t hs).newborn hr hi hi'
        rw [fresh] at closed
        exact absurd rfl closed
      | some i =>
        obtain ⟨i₁, hi₁, same | ⟨why, σ, σ', m, m', events, ht', transition⟩⟩ := (step_cases hs).ends hi
        · cases hi'.symm.trans hi₁
          exact onward i hi (by rwa [same.1] at closed) (same.2.symm.trans silent)
        · cases hi'.symm.trans hi₁
          by_cases live : i.gate.state = .live
          · exact ⟨t, why, σ', ht', transition.heralds live closed⟩
          · exact onward i hi live (Nat.eq_zero_of_le_zero (silent ▸ transition.broadcasts_le))
  exact key whole i hi closed silent

end System

end ModuleHost
