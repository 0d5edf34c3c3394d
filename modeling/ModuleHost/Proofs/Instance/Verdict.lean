import ModuleHost.Proofs.Instance.Drain
import ModuleHost.Proofs.Instance.Ending
import ModuleHost.Proofs.Instance.Lifecycle
import ModuleHost.Proofs.Timeline

/-!
# What shutdown calls come to

A shutdown call is known by its thread, its reason and its instance (`System.Shutting`); the first
thing that it does is to look at the state (`Timeline.Looks`). What it returns is settled by what it
finds there (`Instance.verdict`), although others may do anything to the instance meanwhile: from then
on `ShutdownStage.Counted` says what the call will return, and `Task.Since` keeps this along the run.

`shutdowns_agree` puts together what all shutdown calls on an instance have to agree on: who ended the
instance, with how many calls inside, and that nobody returns before this end.
-/
namespace ModuleHost

open Boundary

/-- How the state of an instance goes on, where `none` says that it is not there yet. -/
inductive InstanceState.Transition : Option InstanceState → Option InstanceState → Prop
  | stay (p : Option InstanceState) : Transition p p
  | made : Transition none (some .live)
  | close : Transition (some .live) (some .draining)
  | finish : Transition (some .draining) (some .unloaded)

theorem Gate.Step.transition {x : Exports} {g g' : Gate} {σ σ' : Standing} {marks : List Event}
    (h : Gate.Step x g σ marks g' σ') (closer : σ.closes = true → g.state = .draining) :
    InstanceState.Transition (some g.state) (some g'.state) := by
  cases h with
  | accept g' hg =>
    obtain ⟨live, live', -⟩ := Gate.admit?_eq_some hg
    rw [live, live']
    exact .stay _
  | close g' hg =>
    obtain ⟨live, closed, -⟩ := Gate.close?_eq_some hg
    rw [live, closed]
    exact .close
  | publish =>
    rw [closer rfl]
    exact .finish
  | release => exact .stay _
  | stay | load | answer | enter | drain | skip | unload | unmap | find | depart => exact .stay _

/-- What a shutdown call returns that looks at the instance now. -/
def Instance.verdict (i : Instance) : ShutdownOutcome :=
  if i.gate.state = .live then .completed i.gate.inFlight i.exports.onUnload else .alreadyShutDown

namespace ShutdownStage

/-- The call has found the gate open with so many calls inside, or, with `none`, closed. A call whose
module code broke off never returns. -/
def Counted : Option Nat → ShutdownStage → Prop
  | _, .arriving => False
  | d, .draining inside | d, .unloading inside _ | d, .unmapping inside _ | d, .publishing inside _
  | d, .broadcasting inside _ | d, .reporting inside _ | d, .done (.completed inside _) =>
    d = some inside
  | d, .asleep _ | d, .done .alreadyShutDown => d = none
  | _, .escaped => True

variable {i i' : Instance} {m m' : Module} {σ σ' : ShutdownStage} {events : List Event}

theorem look_counted (i : Instance) : (look i).Counted none := by
  unfold look
  split <;> rfl

theorem counted_of_arriving (h : ShutdownStage.arriving.step i m = some (σ', i', m', events)) :
    σ'.Counted (if i.gate.state = .live then some i.gate.inFlight else none) := by
  simp only [step] at h
  split at h
  · rename_i g hg
    obtain ⟨live, -, same⟩ := Gate.close?_eq_some hg
    cases h
    rw [if_pos live, ← same]
    rfl
  · rename_i hg
    have closed : i.gate.state ≠ .live := by
      intro live
      simp [Gate.close?, live] at hg
    cases h
    rw [if_neg closed]
    exact look_counted i

theorem arriving_of_closes (h : σ.step i m = some (σ', i', m', events)) (live : i.gate.state = .live)
    (closed : i'.gate.state = .draining) : σ = .arriving := by
  have gate_moves : i'.gate ≠ i.gate := by
    intro same
    rw [same] at closed
    cases live.symm.trans closed
  cases σ with
  | arriving => rfl
  | asleep since | draining inside =>
    simp only [step] at h
    split at h
    · cases h
      exact absurd rfl gate_moves
    · cases h
  | unloading inside hook =>
    rcases hook.running_or with ⟨code, rfl⟩ | rfl | hr
    · cases h
      exact absurd rfl gate_moves
    · cases h
      exact absurd rfl gate_moves
    · simp only [step_unloading hr, Option.map_eq_some_iff, Prod.mk.injEq] at h
      obtain ⟨⟨hook', m₁, events₁⟩, -, -, rfl, -⟩ := h
      exact absurd rfl gate_moves
  | publishing inside hook =>
    cases h
    cases closed
  | unmapping inside hook | broadcasting inside hook | reporting inside hook =>
    cases h
    exact absurd rfl gate_moves
  | done o | escaped => cases h

theorem Counted.step {d : Option Nat} (c : σ.Counted d)
    (h : σ.step i m = some (σ', i', m', events)) : σ'.Counted d := by
  cases σ with
  | arriving => cases c
  | draining inside =>
    simp only [ShutdownStage.step] at h
    split at h
    · cases h
      split <;> exact c
    · cases h
  | unloading inside hook =>
    rcases hook.running_or with ⟨code, rfl⟩ | rfl | hr
    · cases h
      exact c
    · cases h
      trivial
    · simp only [step_unloading hr, Option.map_eq_some_iff, Prod.mk.injEq] at h
      obtain ⟨⟨hook', m₁, events₁⟩, -, rfl, -⟩ := h
      exact c
  | unmapping inside hook | publishing inside hook | broadcasting inside hook
  | reporting inside hook =>
    cases h
    exact c
  | asleep since =>
    obtain rfl : d = none := c
    simp only [ShutdownStage.step] at h
    split at h
    · cases h
      exact look_counted i
    · cases h
  | done o | escaped => cases h

end ShutdownStage

namespace Task

/-- The thread has made the look of the shutdown call for reason `why` on instance `n`: it is still in
that call, or in the one that follows it, or at its end. -/
inductive Since (why : Reason) (n : Nat) (d : Option Nat) : Task → Prop
  | inside (k : Task) (σ : ShutdownStage) :
      k.shutdown? = some (why, n, σ) → σ.Counted d → Since why n d k
  | next (k : Task) (σ : ShutdownStage) :
      why = .failed → k.shutdown? = some (.discarded, n, σ) → Since why n d k
  | lost (o : Opening) (e : HostError) : Since why n d (.opening o (.done (.error e)))

variable {why : Reason} {n : Nat} {d : Option Nat} {k k' : Task} {i i' : Instance} {m m' : Module}
  {events : List Event}

theorem Since.counted {σ : ShutdownStage} (h : Since why n d k)
    (hk : k.shutdown? = some (why, n, σ)) : σ.Counted d := by
  cases h with
  | inside _ σ' hk' counted =>
    cases hk'.symm.trans hk
    exact counted
  | next _ σ' failed hk' =>
    subst failed
    cases hk'.symm.trans hk
  | lost o e => cases hk

theorem Since.stepOn (h : Since why n d k) (hs : k.stepOn i m = some (k', i', m', events)) :
    Since why n d k' := by
  cases h with
  | inside _ σ hk counted =>
    cases stepOn_transition hk hs with
    | on _ _ σ' k' i' m' events hσ hk' => exact .inside k' σ' hk' (counted.step hσ)
    | again o code r => exact .next _ .arriving rfl rfl
    | lost o e r => exact .lost o e
  | next _ σ failed hk =>
    cases stepOn_transition hk hs with
    | on _ _ σ' k' i' m' events hσ hk' => exact .next k' σ' failed hk'
    | lost o e r => exact .lost o e
  | lost o e => cases hs

theorem stepOn_shutdown {σ σ' : ShutdownStage} (hk : k.shutdown? = some (why, n, σ))
    (hσ : σ.step i m = some (σ', i', m', events)) :
    ∃ k', k.stepOn i m = some (k', i', m', events) ∧ k'.shutdown? = some (why, n, σ') := by
  have running : σ.IsRunning := by
    rintro o rfl
    cases hσ
  cases k with
  | opening o st =>
    cases st with
    | abandoning n' code σ₁ =>
      cases hk
      refine ⟨.opening o (.abandoning n code σ'), ?_, rfl⟩
      simp only [stepOn, Opening.stepLate_abandoning running, hσ, Option.map_some]
    | dropping n' code σ₁ =>
      cases hk
      refine ⟨.opening o (.dropping n code σ'), ?_, rfl⟩
      simp only [stepOn, Opening.stepLate_dropping running, hσ, Option.map_some]
    | arriving | probing | judging | loading | announcing | done | escaped => cases hk
  | shutting n' σ₁ =>
    cases hk
    refine ⟨.shutting n σ', ?_, rfl⟩
    simp only [stepOn, hσ, Option.map_some]
  | dropping n' σ₁ =>
    cases hk
    refine ⟨.dropping n σ', ?_, rfl⟩
    simp only [stepOn, hσ, Option.map_some]
  | calling | hooking | visiting => cases hk

end Task

namespace System

variable {s s' : System} {t n : Nat} {why : Task.Reason} {σ : ShutdownStage}

/-- The state of instance `n`. -/
def stateOf (s : System) (n : Nat) : Option InstanceState := s.instances[n]?.map (·.gate.state)

/-- Thread `t` is in a shutdown call on instance `n`. -/
def Shutting (s : System) (t : Nat) (why : Task.Reason) (n : Nat) (σ : ShutdownStage) : Prop :=
  ∃ k, s.threads[t]? = some k ∧ k.shutdown? = some (why, n, σ)

/-- Instance `n` has come to its end: `OnUnload` has been called and has returned, if it is exported,
the library has been released, and only then the end was published. -/
def Finished (s : System) (n : Nat) : Prop := ∃ i inside, s.instances[n]? = some i ∧
  i.gate.state = .unloaded ∧ i.mapped = false ∧
  endMarks (s.instanceLog n) = i.exports.farewell inside

theorem Move.stateOf (hr : Run s) (h : Move s s') (n : Nat) :
    InstanceState.Transition (s.stateOf n) (s'.stateOf n) := by
  unfold System.stateOf
  cases hi : s.instances[n]? with
  | some i =>
    obtain ⟨i', σ, σ', marks, hi', -, gate, -, apart | pos⟩ := h.gate hi
    · rw [hi']
      exact gate.transition fun closes => by rw [apart] at closes; cases closes
    · rw [hi']
      exact gate.transition fun closes => ((hr.orderly.books n i hi).closer_alone closes pos).1
  | none =>
    cases hi' : s'.instances[n]? with
    | none => exact .stay _
    | some i' =>
      rw [Option.map_some, (h.newborn hr hi hi').1]
      exact .made

theorem step_of_shutting {k : Task} (h : s.step t = some s') (ht : s.threads[t]? = some k)
    (hk : k.shutdown? = some (why, n, σ)) : ∃ i i' m m' k' events, s.instances[n]? = some i ∧
      s'.instances[n]? = some i' ∧ s'.threads = s.threads.set t k' ∧
      Task.Transition i m n why σ k' i' m' events ∧ k.stepOn i m = some (k', i', m', events) := by
  obtain ⟨hon, -⟩ := Task.on?_of_shutdown hk
  cases step_cases h with
  | early o st st' made m m' events hu hon' hm hs =>
    obtain rfl := Option.some.inj (ht.symm.trans hu)
    cases hon.symm.trans hon'
  | late k k' n' i i' m m' events hu hon' hi hm hs =>
    obtain rfl := Option.some.inj (ht.symm.trans hu)
    obtain rfl := Option.some.inj (hon.symm.trans hon')
    have here := (List.getElem?_eq_some_iff.mp hi).1
    exact ⟨i, i', m, m', k', events, hi, by simp [here], rfl, Task.stepOn_transition hk hs, hs⟩
  | direct k k' module m m' events hu hd hm hs =>
    obtain rfl := Option.some.inj (ht.symm.trans hu)
    cases hon.symm.trans (Task.on?_of_direct hd)

theorem since_step {d : Option Nat} {k : Task} (h : s.step t = some s')
    (ht : s.threads[t]? = some k) (since : k.Since why n d) :
    ∃ k', s'.threads[t]? = some k' ∧ k'.Since why n d := by
  have here := (List.getElem?_eq_some_iff.mp ht).1
  cases step_cases h with
  | early o st st' made m m' events hu hon hm hs =>
    obtain rfl := Option.some.inj (ht.symm.trans hu)
    cases since with
    | inside _ σ hk _ => cases (Task.on?_of_shutdown hk).1.symm.trans hon
    | next _ σ _ hk => cases (Task.on?_of_shutdown hk).1.symm.trans hon
    | lost o e => cases hs
  | late k k' n' i i' m m' events hu hon hi hm hs =>
    obtain rfl := Option.some.inj (ht.symm.trans hu)
    exact ⟨k', by simp [here], since.stepOn hs⟩
  | direct k k' module m m' events hu hd hm hs =>
    obtain rfl := Option.some.inj (ht.symm.trans hu)
    cases since with
    | inside _ σ hk _ => cases (Task.on?_of_direct hd).symm.trans (Task.on?_of_shutdown hk).1
    | next _ σ _ hk => cases (Task.on?_of_direct hd).symm.trans (Task.on?_of_shutdown hk).1
    | lost o e => cases hd

theorem Move.since {d : Option Nat} {k : Task} (h : Move s s') (ht : s.threads[t]? = some k)
    (since : k.Since why n d) : ∃ k', s'.threads[t]? = some k' ∧ k'.Since why n d := by
  rcases h.task_before ht with same | ⟨c, r, rfl, -⟩ | hs
  · exact ⟨k, same, since⟩
  · cases since with
    | inside _ σ hk _ => cases hk
    | next _ σ _ hk => cases hk
  · exact since_step hs ht since

/-- Whoever has come to the end of a shutdown call has seen the end of the instance. -/
theorem Shutting.finished (hr : Run s) {r : ShutdownOutcome} (h : s.Shutting t why n (.done r)) :
    s.Finished n := by
  obtain ⟨k, ht, hk⟩ := h
  obtain ⟨hon, standing⟩ := Task.on?_of_shutdown hk
  have here := hr.orderly.owned.known t k n ht (.inl hon)
  have hi := List.getElem?_eq_getElem here
  have pos := standings_pos ht n
  rw [Task.standingTo_self hon, standing] at pos
  have unloaded := (hr.orderly.books n _ hi).ended pos
  obtain ⟨released, inside, marks⟩ := (hr.endings n _ hi).ending.gone unloaded
  exact ⟨_, inside, hi, unloaded, released, marks⟩

/-- Where the shutdown can go on, its thread can. -/
theorem step_shutting {k : Task} {i i' : Instance} {m m' : Module} {σ' : ShutdownStage}
    {events : List Event} (ht : s.threads[t]? = some k) (hk : k.shutdown? = some (why, n, σ))
    (hi : s.instances[n]? = some i) (hm : s.modules[i.module]? = some m)
    (hσ : σ.step i m = some (σ', i', m', events)) :
    ∃ s', s.step t = some s' ∧ s'.Shutting t why n σ' := by
  obtain ⟨k', hstep, hk'⟩ := Task.stepOn_shutdown hk hσ
  have here := (List.getElem?_eq_some_iff.mp ht).1
  exact ⟨_, step_late ht (Task.on?_of_shutdown hk).1 hi hm hstep, k', by simp [here], hk'⟩

theorem Move.shutting (h : Move s s') (hσ : s'.Shutting t why n σ) :
    σ = .arriving ∨ s.Shutting t why n σ ∨ s.step t = some s' ∧ ∃ σ₀, s.Shutting t why n σ₀ := by
  obtain ⟨k', ht', hk'⟩ := hσ
  rcases h.task_after ht' with same | new | hs
  · exact .inr (.inl ⟨k', same, hk'⟩)
  · exact .inl (new.shutdown_arriving hk')
  · cases step_cases hs with
    | early o st st' made m m' events ht hon hm hstep =>
      rcases of_getElem?_set ht' with ⟨-, rfl⟩ | ⟨hne, -⟩
      · cases Opening.stepEarly_cases hstep <;> cases hk'
      · exact absurd rfl hne
    | late k k'' n' i i' m m' events ht hon hi hm hstep =>
      rcases of_getElem?_set ht' with ⟨-, rfl⟩ | ⟨hne, -⟩
      · cases hk : k.shutdown? with
        | none =>
          rcases (Task.stepOn_outside hk hstep).2 with none | ⟨n₁, first⟩
          · cases none.symm.trans hk'
          · cases first.symm.trans hk'
            exact .inl rfl
        | some call =>
          obtain ⟨why₀, n₀, σ₀⟩ := call
          cases Task.stepOn_transition hk hstep with
          | on _ _ σ' k' i' m' events _ hgoes =>
            cases hgoes.symm.trans hk'
            exact .inr (.inr ⟨hs, σ₀, k, ht, hk⟩)
          | again o code r =>
            cases hk'
            exact .inl rfl
          | lost o e r => cases hk'
      · exact absurd rfl hne
    | direct k k'' module m m' events ht hd hm hstep =>
      rcases of_getElem?_set ht' with ⟨-, rfl⟩ | ⟨hne, -⟩
      · have direct := (Task.stepIn_direct hstep).trans hd
        cases (Task.on?_of_direct direct).symm.trans (Task.on?_of_shutdown hk').1
      · exact absurd rfl hne

theorem Move.closes (h : Move s s') (live : s.stateOf n = some .live)
    (closed : s'.stateOf n = some .draining) :
    ∃ t why, s.Shutting t why n .arriving ∧ s.step t = some s' := by
  have moved : s'.stateOf n ≠ s.stateOf n := by
    rw [live, closed]
    decide
  cases h with
  | install | begin | again => exact absurd rfl moved
  | step _ t hs =>
    obtain ⟨i, hi, live⟩ := Option.map_eq_some_iff.mp live
    obtain ⟨k, k', i', ht, after, hi', sight⟩ := (step_cases hs).sight hi
    have closed : i'.gate.state = .draining := by simpa [System.stateOf, hi'] using closed
    have state_moves : i'.gate.state ≠ i.gate.state := by
      rw [live, closed]
      decide
    cases sight with
    | aside => exact absurd rfl state_moves
    | on i' m m' events hon hm hstep hlog =>
      cases hk : k.shutdown? with
      | none => exact absurd (Task.stepOn_outside hk hstep).1.2.2.1 state_moves
      | some call =>
        obtain ⟨why, n₁, σ⟩ := call
        obtain rfl := Option.some.inj (hon.symm.trans (Task.on?_of_shutdown hk).1)
        cases Task.stepOn_transition hk hstep with
        | on _ _ σ' k' i' m' events hσ hk' =>
          obtain rfl := ShutdownStage.arriving_of_closes hσ live closed
          exact ⟨t, why, ⟨k, ht, hk⟩, hs⟩
        | again | lost => exact absurd rfl state_moves

end System

namespace Timeline

variable {τ : Timeline} {a b j t u n : Nat} {why why' : Task.Reason} {σ : ShutdownStage}

/-- At moment `a`, the shutdown call of thread `t` looks at the state of the instance. -/
def Looks (τ : Timeline) (a t : Nat) (why : Task.Reason) (n : Nat) : Prop :=
  (τ.state a).Shutting t why n .arriving ∧ (τ.state a).step t = some (τ.state (a + 1))

/-- It finds the instance live, and so closes the gate. -/
def Flips (τ : Timeline) (a t : Nat) (why : Task.Reason) (n : Nat) : Prop :=
  τ.Looks a t why n ∧ (τ.state a).stateOf n = some .live

theorem Looks.since (h : τ.Looks a t why n) : ∃ i, (τ.state a).instances[n]? = some i ∧
    ∀ b, a < b → ∃ k, (τ.state b).threads[t]? = some k ∧
      k.Since why n (if i.gate.state = .live then some i.gate.inFlight else none) := by
  obtain ⟨⟨k, ht, hk⟩, hs⟩ := h
  obtain ⟨i, i', m, m', k', events, hi, -, after, transition, -⟩ := System.step_of_shutting hs ht hk
  refine ⟨i, hi, fun b hab => ?_⟩
  have here := (List.getElem?_eq_some_iff.mp ht).1
  have first : (τ.state (a + 1)).threads[t]? = some k' := by simp [after, here]
  have since : k'.Since why n (if i.gate.state = .live then some i.gate.inFlight else none) := by
    cases transition with
    | on _ _ σ' k' i' m' events hσ hk' => exact .inside k' σ' hk' (ShutdownStage.counted_of_arriving hσ)
  exact onward (P := fun s => ∃ k, s.threads[t]? = some k ∧ k.Since why n _) ⟨k', first, since⟩
    (fun s s' _ ⟨k, hk, since⟩ hm => hm.since hk since) hab

/-- Each call looks once. -/
theorem Looks.once (h : τ.Looks a t why n) (h' : τ.Looks b t why n) : a = b := by
  have order : ∀ {a b : Nat}, τ.Looks a t why n → τ.Looks b t why n → ¬ a < b := by
    intro a b h h' hab
    obtain ⟨i, -, since⟩ := h.since
    obtain ⟨k, ht, since⟩ := since b hab
    obtain ⟨⟨k', ht', hk'⟩, -⟩ := h'
    obtain rfl := Option.some.inj (ht.symm.trans ht')
    exact since.counted hk'
  have := order h h'
  have := order h' h
  omega

theorem looked (τ : Timeline) : ∀ {j : Nat} {σ : ShutdownStage}, (τ.state j).Shutting t why n σ →
    σ = .arriving ∨ ∃ a, a < j ∧ τ.Looks a t why n := by
  intro j
  induction j with
  | zero =>
    rintro σ ⟨k, ht, -⟩
    rw [τ.start] at ht
    cases ht
  | succ j ih =>
    intro σ h
    have earlier : (∃ a, a < j ∧ τ.Looks a t why n) → ∃ a, a < j + 1 ∧ τ.Looks a t why n := by
      rintro ⟨a, ha, looks⟩
      exact ⟨a, Nat.lt_succ_of_lt ha, looks⟩
    rcases τ.move j with rest | move
    · rw [rest] at h
      exact (ih h).imp id earlier
    · rcases move.shutting h with first | same | ⟨hs, σ₀, h₀⟩
      · exact .inl first
      · exact (ih same).imp id earlier
      · rcases ih h₀ with rfl | looked
        · exact .inr ⟨j, Nat.lt_succ_self j, h₀, hs⟩
        · exact .inr (earlier looked)

/-- One look at a time. -/
theorem Looks.sole (h : τ.Looks a t why n) (h' : τ.Looks a u why' n) : t = u ∧ why = why' := by
  by_cases htu : t = u
  · subst htu
    obtain ⟨⟨k, ht, hk⟩, -⟩ := h
    obtain ⟨⟨k', ht', hk'⟩, -⟩ := h'
    obtain rfl := Option.some.inj (ht.symm.trans ht')
    cases hk.symm.trans hk'
    exact ⟨rfl, rfl⟩
  · -- The step of `t` leaves thread `u` before its look.
    obtain ⟨i, -, since⟩ := h'.since
    obtain ⟨k', ht', since⟩ := since (a + 1) (Nat.lt_succ_self a)
    obtain ⟨⟨k, hu, hk⟩, -⟩ := h'
    obtain ⟨k₁, k₂, -, after⟩ := System.step_threads h.2
    rw [after, List.getElem?_set_ne htu] at ht'
    obtain rfl := Option.some.inj (hu.symm.trans ht')
    exact (since.counted hk).elim

theorem Flips.closed (h : τ.Flips a t why n) (hab : a < b) :
    (τ.state b).stateOf n ≠ some .live := by
  obtain ⟨⟨⟨k, ht, hk⟩, hs⟩, live⟩ := h
  obtain ⟨i, i', m, m', k', events, hi, hi', -, transition, -⟩ := System.step_of_shutting hs ht hk
  have live : i.gate.state = .live := by simpa [System.stateOf, hi] using live
  have closed : (τ.state (a + 1)).Closed n := by
    refine ⟨i', hi', ?_⟩
    cases transition with
    | on _ _ σ' k' i' m' events hσ hk' =>
      simp only [ShutdownStage.step, Gate.close?, live, if_true] at hσ
      cases hσ
      exact InstanceState.noConfusion
  have closed := onward (P := fun s => s.Closed n) closed
    (fun s s' _ closed hm => (closed.later hm.later).1) hab
  obtain ⟨j, hj, closed⟩ := closed
  simpa [System.stateOf, hj] using closed

theorem Flips.unique (h : τ.Flips a t why n) (h' : τ.Flips b u why' n) :
    a = b ∧ t = u ∧ why = why' := by
  rcases Nat.lt_trichotomy a b with lt | rfl | gt
  · exact absurd h'.2 (h.closed lt)
  · exact ⟨rfl, h.1.sole h'.1⟩
  · exact absurd h.2 (h'.closed gt)

/-- An instance that is not live any more was found live by a shutdown call. -/
theorem flipped (τ : Timeline) : ∀ {j : Nat} {p : InstanceState}, (τ.state j).stateOf n = some p →
    p ≠ .live → ∃ a t why, a < j ∧ τ.Flips a t why n := by
  intro j
  induction j with
  | zero =>
    intro p hp
    rw [τ.start] at hp
    cases hp
  | succ j ih =>
    intro p hp closed
    have earlier : ∀ {q : InstanceState}, (τ.state j).stateOf n = some q → q ≠ .live →
        ∃ a t why, a < j + 1 ∧ τ.Flips a t why n := by
      intro q hq hne
      obtain ⟨a, t, why, ha, flips⟩ := ih hq hne
      exact ⟨a, t, why, Nat.lt_succ_of_lt ha, flips⟩
    rcases τ.move j with rest | move
    · rw [rest] at hp
      exact earlier hp closed
    · have transition := move.stateOf (τ.run j) n
      rw [hp] at transition
      generalize before : (τ.state j).stateOf n = q at transition
      cases transition with
      | stay => exact earlier before closed
      | made => exact absurd rfl closed
      | finish => exact earlier before (by decide)
      | close =>
        obtain ⟨t, why, looks, hs⟩ := move.closes before hp
        exact ⟨j, t, why, Nat.lt_succ_self j, ⟨looks, hs⟩, before⟩

/-- What a call returns is the verdict of its look. -/
theorem Looks.verdict (h : τ.Looks a t why n) (hab : a < b) {r : ShutdownOutcome}
    (hr : (τ.state b).Shutting t why n (.done r)) :
    ∃ i, (τ.state a).instances[n]? = some i ∧ r = i.verdict := by
  obtain ⟨i, hi, since⟩ := h.since
  obtain ⟨k, ht, since⟩ := since b hab
  obtain ⟨k', ht', hk⟩ := hr
  obtain rfl := Option.some.inj (ht.symm.trans ht')
  refine ⟨i, hi, ?_⟩
  have counted := since.counted hk
  obtain ⟨j, hj, make⟩ := onward (P := fun s => ∃ j, s.instances[n]? = some j ∧ i.SameMake j)
    ⟨i, hi, .refl i⟩ (fun s s' _ ⟨j, hj, make⟩ hm => by
      obtain ⟨j', -, -, -, hj', make', -⟩ := hm.gate hj
      exact ⟨j', hj', make.trans make'⟩) (Nat.le_of_lt hab)
  have tells := ((τ.run b).endings n j hj).tells t k why _ ht hk
  unfold Instance.verdict
  cases r with
  | completed inside hook =>
    obtain ⟨rfl, -⟩ : hook = j.exports.onUnload ∧ _ := tells
    have found : (if i.gate.state = .live then some i.gate.inFlight else none) = some inside :=
      counted
    split at found
    · rename_i live
      rw [if_pos live, make.exports, ← Option.some.inj found]
    · cases found
  | alreadyShutDown =>
    have found : (if i.gate.state = .live then some i.gate.inFlight else none) = none := counted
    split at found
    · cases found
    · rename_i closed
      rw [if_neg closed]

/-- Who has come back with `Completed` found the instance live. -/
theorem flips_of_counted (τ : Timeline) {inside : Nat} {σ : ShutdownStage}
    (h : (τ.state j).Shutting t why n σ) (first : σ ≠ .arriving)
    (counted : ∀ d, σ.Counted d → d = some inside) : ∃ a, a < j ∧ τ.Flips a t why n := by
  rcases τ.looked h with arriving | ⟨a, haj, looks⟩
  · exact absurd arriving first
  · obtain ⟨i, hi, since⟩ := looks.since
    obtain ⟨k, ht, since⟩ := since j haj
    obtain ⟨k', ht', hk⟩ := h
    obtain rfl := Option.some.inj (ht.symm.trans ht')
    have found := counted _ (since.counted hk)
    refine ⟨a, haj, looks, ?_⟩
    split at found
    · rename_i live
      simp [System.stateOf, hi, live]
    · cases found

/-- When the shutdown has come back, all other calls are done or come back with their next step:
nobody has missed the end. -/
theorem none_left (τ : Timeline) {inside : Nat} {hook : Bool}
    (h : (τ.state j).Shutting t why n (.done (.completed inside hook)))
    (h' : (τ.state j).Shutting u why' n σ) : (∃ r, σ = .done r) ∨
      ∃ s', (τ.state j).step u = some s' ∧ s'.Shutting u why' n (.done .alreadyShutDown) := by
  have hr := τ.run j
  obtain ⟨i, -, hi, unloaded, -, -⟩ := h.finished hr
  obtain ⟨m, hm⟩ := hr.housed hi
  have books := hr.orderly.books n i hi
  have endings := hr.endings n i hi
  -- Whoever else found the instance live would be the same call.
  have other : ∀ inside', σ ≠ .arriving → (∀ d, σ.Counted d → d = some inside') → ∃ r, σ = .done r := by
    intro inside' first counted
    obtain ⟨a, -, flips⟩ := τ.flips_of_counted h (by simp) fun d hd => hd
    obtain ⟨b, -, flips'⟩ := τ.flips_of_counted h' first counted
    obtain ⟨-, rfl, rfl⟩ := flips.unique flips'
    obtain ⟨k, ht, hk⟩ := h
    obtain ⟨k', ht', hk'⟩ := h'
    obtain rfl := Option.some.inj (ht.symm.trans ht')
    cases hk.symm.trans hk'
    exact ⟨_, rfl⟩
  obtain ⟨k', hu, hk'⟩ := h'
  have seen : ShutdownStage.look i = .done .alreadyShutDown := if_pos unloaded
  cases σ with
  | arriving =>
    have returns : ShutdownStage.arriving.step i m = some (.done .alreadyShutDown, i, m, []) := by
      simp only [ShutdownStage.step, Gate.close?, unloaded, reduceCtorEq, if_false, seen]
    exact .inr (System.step_shutting hu hk' hi hm returns)
  | asleep since =>
    obtain rfl : since = 0 := endings.tells u k' why' _ hu hk'
    obtain ⟨k, ht, hk⟩ := h
    have woken : 0 < i.broadcasts := (endings.tells t k why _ ht hk).2.2
    have returns : (ShutdownStage.asleep 0).step i m = some (.done .alreadyShutDown, i, m, []) := by
      simp only [ShutdownStage.step, woken, if_true, seen]
    exact .inr (System.step_shutting hu hk' hi hm returns)
  | done r => exact .inl ⟨r, rfl⟩
  | escaped =>
    obtain ⟨hon, standing⟩ := Task.on?_of_shutdown hk'
    have closes : (k'.standingTo n).closes = true := by
      rw [Task.standingTo_self hon, standing]
      rfl
    cases unloaded.symm.trans (books.closer_alone closes (standings_pos hu n)).1
  | draining inside' | unloading inside' _ | unmapping inside' _ | publishing inside' _
  | broadcasting inside' _ | reporting inside' _ =>
    exact .inl (other inside' (by simp) fun d hd => hd)

/-- **One end, and all shutdown calls agree on it.** In every run, an instance goes from live to
draining to unloaded and no other way. Each shutdown call, for whatever reason it is made, looks at
the state once, and what it returns is the verdict of that look: who found the instance live has
completed the shutdown, with the number of calls inside at that moment, and all others find it shut
down already. None returns before the instance has finished. No two calls find it live, one has done
so when it is unloaded, and when this one has come back, all others are done or come back with their
next step. -/
theorem shutdowns_agree (τ : Timeline) (n : Nat) :
    (∀ j, InstanceState.Transition ((τ.state j).stateOf n) ((τ.state (j + 1)).stateOf n)) ∧
    (∀ t why a b, τ.Looks a t why n → τ.Looks b t why n → a = b) ∧
    (∀ j t why r, (τ.state j).Shutting t why n (.done r) → (τ.state j).Finished n ∧
      ∃ a i, a < j ∧ τ.Looks a t why n ∧ (τ.state a).instances[n]? = some i ∧ r = i.verdict) ∧
    (∀ a b t u why why', τ.Flips a t why n → τ.Flips b u why' n → a = b ∧ t = u ∧ why = why') ∧
    (∀ j, (τ.state j).stateOf n = some .unloaded → ∃ a t why, a < j ∧ τ.Flips a t why n) ∧
    (∀ j t why inside hook, (τ.state j).Shutting t why n (.done (.completed inside hook)) →
      ∀ u why' σ, (τ.state j).Shutting u why' n σ → (∃ r, σ = .done r) ∨
        ∃ s', (τ.state j).step u = some s' ∧ s'.Shutting u why' n (.done .alreadyShutDown)) := by
  refine ⟨fun j => ?_, fun t why a b => Looks.once, fun j t why r h => ⟨h.finished (τ.run j), ?_⟩,
    fun a b t u why why' => Flips.unique, fun j unloaded => τ.flipped unloaded (by decide),
    fun j t why inside hook h u why' σ => τ.none_left h⟩
  · rcases τ.move j with rest | move
    · rw [rest]
      exact .stay _
    · exact move.stateOf (τ.run j) n
  · rcases τ.looked h with first | ⟨a, haj, looks⟩
    · cases first
    · obtain ⟨i, hi, verdict⟩ := looks.verdict haj h
      exact ⟨a, i, haj, looks, hi, verdict⟩

/-- Thread 2 closes the gate while the call of thread 1 is inside; thread 3, which drops the instance,
falls asleep until this shutdown is over. -/
def sampleContested : System :=
  ((System.sampleBusy.spawn (.dropping 0 .arriving)).steps
    ([1, 2, 3] ++ List.replicate 6 1 ++ List.replicate 11 2 ++ [3])).getD {}

theorem run_sampleContested : System.Run sampleContested := by
  have begun : System.Run (System.sampleBusy.spawn (.dropping 0 .arriving)) :=
    System.run_sampleBusy.move (.begin _ (.dropping 0 .arriving) rfl
      fun n hn => by cases hn; exact (System.handedOut_sample.spawn _).spawn _)
  exact begun.later (System.later_of_steps
    ([1, 2, 3] ++ List.replicate 6 1 ++ List.replicate 11 2 ++ [3]) rfl)

theorem shutdowns_agree_sample : ∃ (τ : Timeline) (j : Nat),
    (τ.state j).Shutting 2 .asked 0 (.done (.completed 1 true)) ∧
    (τ.state j).Shutting 3 .dropped 0 (.done .alreadyShutDown) ∧ (τ.state j).Finished 0 ∧
    ∃ a t why, a < j ∧ τ.Flips a t why 0 := by
  obtain ⟨τ, j, rests⟩ := run_sampleContested.timeline
  have now := rests j (Nat.le_refl j)
  have ended : (τ.state j).Shutting 2 .asked 0 (.done (.completed 1 true)) := by
    rw [now]
    exact ⟨_, rfl, rfl⟩
  have found : (τ.state j).Shutting 3 .dropped 0 (.done .alreadyShutDown) := by
    rw [now]
    exact ⟨_, rfl, rfl⟩
  have unloaded : (τ.state j).stateOf 0 = some .unloaded := by
    rw [now]
    rfl
  obtain ⟨-, -, returns, -, flipped, -⟩ := shutdowns_agree τ 0
  exact ⟨τ, j, ended, found, (returns j 3 .dropped _ found).1, flipped j unloaded⟩

end Timeline

end ModuleHost
