import ModuleHost.Proofs.Progress.Sleepers

/-!
# There is no deadlock

`System.Awaits` is the wait-for relation of the machine: who wants a lock waits for whoever has claimed
it, who has claimed it for the threads that run the handler, who drains an instance for the calls
inside, and who sleeps for the thread that will broadcast the end. Each of these waits for something
further down this list: a handler that runs waits for nobody, whoever has claimed a lock only for such
handlers, a call only at a lock, and a shutdown on its way only for calls or at a lock. So the relation
has no cycle, and every chain of it ends with a thread that can go on (`System.Clears`).

`never_deadlocked` puts this together with what the shutdowns of an instance can rely on.
-/
namespace ModuleHost

open Boundary

/-! ## What tasks hold -/

namespace Task

variable {k : Task} {n : Nat}

theorem hold_of_shutdown {why : Reason} {σ : ShutdownStage} (h : k.shutdown? = some (why, n, σ)) :
    k.hold = σ.hold := by
  cases k with
  | opening o st => cases st <;> cases h <;> rfl
  | shutting | dropping => cases h; rfl
  | calling | hooking | visiting => cases h

theorem shutdown_of_closes (h : (k.standingTo n).closes = true) :
    ∃ why σ, k.shutdown? = some (why, n, σ) ∧ σ.standing = k.standingTo n := by
  have hon : k.on? = some n := by
    refine on?_of_standingTo fun apart => ?_
    rw [apart] at h
    cases h
  rw [standingTo_self hon] at h ⊢
  cases k with
  | opening o st =>
    cases st with
    | loading n' hook => cases hook <;> cases h
    | abandoning n' code σ | dropping n' code σ => cases hon; exact ⟨_, σ, rfl, rfl⟩
    | arriving | probing | judging | announcing | done | escaped => cases h
  | calling c =>
    simp only [standing, Call.standing] at h
    repeat' split at h
    all_goals cases h
  | shutting n' σ | dropping n' σ => cases hon; exact ⟨_, σ, rfl, rfl⟩
  | hooking | visiting => cases hon

theorem hold_of_queues (h : k.Queues) : k.hold = .free := by
  rcases h with ⟨hook, hk⟩ | ⟨v, hv, queues⟩
  · exact hold_of_hook hk
  · rw [hold_of_visit hv]
    cases hs : v.stage <;> rw [hs] at queues <;> first | rfl | exact queues.elim

theorem atLock_of_queues (h : k.Queues) : k.AtLock := by
  rcases h with ⟨hook, hk⟩ | ⟨v, hv, queues⟩
  · exact .inl ⟨hook, .claiming, hk, trivial⟩
  · refine .inr ⟨v, hv, ?_⟩
    cases hs : v.stage <;> rw [hs] at queues <;> trivial

/-- Whoever waits for the readers of a lock stands at the lock. -/
theorem atLock_of_waiting (h : k.hold = .waiting) : k.AtLock := by
  have hook {hook : Hook} {st : HookStage} (hk : k.hook? = some (hook, st))
      (hst : st.hold = .waiting) : k.AtLock := by
    refine .inl ⟨hook, st, hk, ?_⟩
    cases st <;> trivial
  have visit {v : Visit} (hv : k.visit? = some v) (hst : v.stage.hold = .waiting) : k.AtLock := by
    refine .inr ⟨v, hv, ?_⟩
    cases hs : v.stage <;> rw [hs] at hst <;> trivial
  have shutdown : ∀ σ : ShutdownStage, k.hook? = σ.hook? → σ.hold = .waiting → k.AtLock := by
    intro σ inner hσ
    cases σ with
    | unloading inside st => exact hook inner hσ
    | _ => cases hσ
  cases k with
  | opening o st =>
    cases st with
    | probing st | loading n st => exact hook rfl h
    | abandoning n code σ | dropping n code σ => exact shutdown σ rfl h
    | _ => cases h
  | calling c =>
    simp only [hold, Call.hold] at h
    split at h
    · rename_i inside
      exact visit (by simp only [visit?, inside]) h
    · cases h
  | shutting n σ | dropping n σ => exact shutdown σ rfl h
  | hooking module hook₀ st => exact hook rfl h
  | visiting module v => exact visit rfl h

theorem report?_of_hold (h : k.hold ≠ .free) : k.report? = none := by
  cases k with
  | opening o st => cases st <;> first | rfl | exact absurd rfl h
  | calling c =>
    cases hs : c.stage <;> simp only [report?, hs]
    exact absurd (by simp only [hold, Call.hold, hs]) h
  | shutting n σ | dropping n σ => cases σ <;> first | rfl | exact absurd rfl h
  | hooking module hook st => cases st <;> first | rfl | exact absurd rfl h
  | visiting module v =>
    cases hs : v.stage <;> simp only [report?, hs]
    exact absurd (by simp only [hold, hs]; rfl) h

theorem report?_of_standing (apart : k.standingTo n ≠ .apart) (ended : k.standingTo n ≠ .ended) :
    k.report? = none := by
  have hon : k.on? = some n := on?_of_standingTo apart
  rw [standingTo_self hon] at apart ended
  cases k with
  | opening o st => cases st <;> first | rfl | exact absurd rfl apart
  | calling c =>
    cases hs : c.stage <;> simp only [report?, hs]
    exact absurd (by simp only [standing, Call.standing, hs]) apart
  | shutting n σ | dropping n σ => cases σ <;> first | rfl | exact absurd rfl ended
  | hooking | visiting => cases hon

theorem report?_of_atLock (h : k.AtLock) : k.report? = none := by
  rcases h with ⟨hook, st, hk, locked⟩ | ⟨v, hv, locked⟩
  · cases k with
    | opening o st => cases st <;> first | rfl | cases hk
    | shutting n σ | dropping n σ => cases σ <;> first | rfl | cases hk
    | hooking module hook st =>
      cases hk
      cases st <;> first | rfl | exact locked.elim
    | calling | visiting => cases hk
  · cases k with
    | calling c =>
      simp only [visit?] at hv
      split at hv
      · rename_i inside
        simp only [report?, inside]
      · cases hv
    | visiting module v =>
      cases hv
      cases hs : v.stage <;> rw [hs] at locked <;> first | exact locked.elim | simp only [report?, hs]
    | opening | shutting | dropping | hooking => cases hv

theorem not_queues_of_shutdown {why : Reason} {σ : ShutdownStage}
    (h : k.shutdown? = some (why, n, σ)) (outside : σ.hook? = none) : ¬ k.Queues := by
  rintro (⟨hook, hk⟩ | ⟨v, hv, -⟩)
  · cases k with
    | opening o st => cases st <;> cases h <;> cases outside.symm.trans hk
    | shutting | dropping => cases h; cases outside.symm.trans hk
    | calling | hooking | visiting => cases h
  · cases k with
    | calling | visiting => cases h
    | opening | shutting | dropping | hooking => cases hv

theorem report?_of_shutdown {why : Reason} {σ : ShutdownStage}
    (h : k.shutdown? = some (why, n, σ)) (running : σ.IsRunning) : k.report? = none := by
  cases k with
  | opening o st => cases st <;> cases h <;> rfl
  | shutting n' σ | dropping n' σ =>
    cases h
    cases σ <;> first | rfl | exact absurd rfl (running _)
  | calling | hooking | visiting => cases h

end Task

namespace System

variable {s : System} {k : Task} {m : Module} {t u j n : Nat}

/-- Who holds something of a lock waits for nothing but its readers. -/
theorem Waits.of_held (h : s.Waits m k) (held : k.hold ≠ .free) : k.hold = .waiting ∧
    ∀ handler drops, m.code = .handler handler drops → m.context.lock.readers ≠ 0 := by
  cases h with
  | lock queues => exact absurd (Task.hold_of_queues queues) held
  | readers waiting busy => exact ⟨waiting, busy⟩
  | calls n i draining =>
    have closes : (k.standingTo n).closes = true := by rw [draining]; rfl
    obtain ⟨why, σ, hk, standing⟩ := Task.shutdown_of_closes closes
    rw [draining] at standing
    refine absurd ((Task.hold_of_shutdown hk).trans ?_) held
    cases σ with
    | unloading inside st => cases st <;> cases standing
    | _ => rfl
  | broadcast why n since i hk => exact absurd (Task.hold_of_shutdown hk) held

/-! ## Who waits for whom -/

/-- Thread `t` waits for thread `u`. -/
inductive Awaits (s : System) (t u : Nat) : Prop
  /-- To come to a lock that `u` has claimed. -/
  | lock (k : Task) (j : Nat) (σ : Hold) :
      s.threads[t]? = some k → k.module? s.instances = some j → k.Queues →
      (s.holds j)[u]? = some σ → σ.claims = true → Awaits s t u
  /-- To run the handler to its end, whose lock `t` has claimed. -/
  | reader (j : Nat) (σ : Hold) :
      (s.holds j)[t]? = some .waiting → (s.holds j)[u]? = some σ → σ.reads = true → Awaits s t u
  /-- To leave an instance whose gate `t` has closed. -/
  | call (k k' : Task) (n : Nat) :
      s.threads[t]? = some k → k.standingTo n = .draining →
      s.threads[u]? = some k' → k'.standingTo n = .admitted ∨ k'.standingTo n = .within →
      Awaits s t u
  /-- To broadcast the end of an instance. -/
  | broadcast (why : Task.Reason) (n since : Nat) :
      s.Shutting t why n (.asleep since) → s.Heralds u n → Awaits s t u

/-- Whether the thread can go on, or waits, at the end of a chain, for one that can. -/
def Clears (s : System) (t : Nat) : Prop :=
  ∃ u, Relation.ReflTransGen s.Awaits t u ∧ ∃ s', s.step u = some s'

theorem Awaits.clears (h : s.Awaits t u) (clears : s.Clears u) : s.Clears t := by
  obtain ⟨v, chain, moves⟩ := clears
  exact ⟨v, chain.head h, moves⟩

/-- It remains to look at threads that cannot go on. -/
theorem clears_of_stuck (h : s.step t = none → s.Clears t) : s.Clears t := by
  cases hs : s.step t with
  | none => exact h hs
  | some s' => exact ⟨t, .refl, s', hs⟩

/-! ## Locks -/

theorem of_holds {σ : Hold} (h : (s.holds j)[u]? = some σ) (held : σ ≠ .free) :
    ∃ k, s.threads[u]? = some k ∧ k.module? s.instances = some j ∧ k.hold = σ := by
  simp only [holds, List.getElem?_map, Option.map_eq_some_iff] at h
  obtain ⟨k, hu, rfl⟩ := h
  refine ⟨k, hu, ?_⟩
  unfold Task.holdOn at held ⊢
  split
  · rename_i home
    exact ⟨home, rfl⟩
  · rename_i away
    exact absurd (if_neg away) held

theorem holds_of_task (ht : s.threads[t]? = some k) (home : k.module? s.instances = some j) :
    (s.holds j)[t]? = some k.hold := by
  simp [holds, ht, Task.holdOn, home]

theorem exists_of_countP {p : Hold → Bool} (pos : 0 < (s.holds j).countP p) :
    ∃ (u : Nat) (σ : Hold), (s.holds j)[u]? = some σ ∧ p σ = true := by
  obtain ⟨σ, mem, hσ⟩ := List.countP_pos_iff.mp pos
  obtain ⟨u, hu⟩ := List.mem_iff_getElem?.mp mem
  exact ⟨u, σ, hu, hσ⟩

section
variable (hr : Run s) (whole : s.Whole) (hm : s.modules[j]? = some m)
include hr whole hm

omit whole in
theorem Run.claimant (claimed : m.context.lock.claimed = true) :
    ∃ (u : Nat) (σ : Hold), (s.holds j)[u]? = some σ ∧ σ.claims = true := by
  have claims := (hr.sound j).locks.claims
  have context : (s.contextState j).context = m.context := by simp [contextState, System.context, hm]
  rw [context, claimed, if_pos rfl] at claims
  exact exists_of_countP (Nat.lt_of_lt_of_eq Nat.one_pos claims.symm)

/-- Where readers are counted, somebody runs the handler. -/
theorem Run.reader (busy : m.context.lock.readers ≠ 0) :
    ∃ (u : Nat) (σ : Hold), (s.holds j)[u]? = some σ ∧ σ.reads = true := by
  have readers := hr.readers whole j
  have context : s.context j = m.context := by simp [System.context, hm]
  rw [context] at readers
  exact exists_of_countP (by omega)

theorem Run.waits_of_holds {σ : Hold} (held : (s.holds j)[u]? = some σ) (hσ : σ ≠ .free)
    (stuck : s.step u = none) : σ = .waiting ∧ m.context.lock.readers ≠ 0 := by
  obtain ⟨k, hu, home, rfl⟩ := of_holds held hσ
  have waits := waits_of_stuck hu (whole u k hu) (Task.report?_of_hold hσ) home hm stuck
  obtain ⟨waiting, busy⟩ := waits.of_held hσ
  obtain ⟨j', m', handler, drops, home', hm', code⟩ := hr.locked hu (Task.atLock_of_waiting waiting)
  cases home.symm.trans home'
  cases hm.symm.trans hm'
  exact ⟨waiting, busy handler drops code⟩

/-- Whoever runs a callback of the handler can go on. -/
theorem Run.runs {σ : Hold} (held : (s.holds j)[u]? = some σ) (hσ : σ ≠ .free)
    (runs : σ ≠ .waiting) : ∃ s', s.step u = some s' := by
  cases hs : s.step u with
  | none => exact absurd (hr.waits_of_holds whole hm held hσ hs).1 runs
  | some s' => exact ⟨s', rfl⟩

/-- Where readers are counted, one of them can go on. -/
theorem Run.reader_runs (busy : m.context.lock.readers ≠ 0) : ∃ (u : Nat) (σ : Hold),
    (s.holds j)[u]? = some σ ∧ σ.reads = true ∧ ∃ s', s.step u = some s' := by
  obtain ⟨u, σ, held, reads⟩ := hr.reader whole hm busy
  refine ⟨u, σ, held, reads, hr.runs whole hm held ?_ ?_⟩ <;>
  · rintro rfl
    cases reads

/-- Whoever holds something of a module can go on, or waits for somebody who runs the handler. -/
theorem Run.clears_of_holds {σ : Hold} (held : (s.holds j)[u]? = some σ) (hσ : σ ≠ .free) :
    s.Clears u := by
  refine clears_of_stuck fun stuck => ?_
  obtain ⟨rfl, busy⟩ := hr.waits_of_holds whole hm held hσ stuck
  obtain ⟨v, τ, held', reads, moves⟩ := hr.reader_runs whole hm busy
  exact ⟨v, .single (.reader j τ held held' reads), moves⟩

/-- Whoever wants a claimed lock waits for whoever has claimed it. -/
theorem Run.clears_of_queues (ht : s.threads[t]? = some k) (home : k.module? s.instances = some j)
    (queues : k.Queues) (claimed : m.context.lock.claimed = true) : s.Clears t := by
  obtain ⟨u, σ, held, claims⟩ := hr.claimant hm claimed
  have hσ : σ ≠ .free := by
    rintro rfl
    cases claims
  exact (Awaits.lock k j σ ht home queues held claims).clears (hr.clears_of_holds whole hm held hσ)

end

/-! ## Calls, shutdowns and sleepers -/

section
variable (hr : Run s) (whole : s.Whole)
include hr whole

omit whole in
theorem Run.home (ht : s.threads[t]? = some k) (hon : k.on? = some n) : ∃ i m,
    s.instances[n]? = some i ∧ k.module? s.instances = some i.module ∧
      s.modules[i.module]? = some m := by
  have hi := List.getElem?_eq_getElem (hr.orderly.owned.known t k n ht (.inl hon))
  obtain ⟨m, hm⟩ := hr.housed hi
  exact ⟨_, m, hi, by simp only [Task.module?, hon, hi, Option.map_some], hm⟩

/-- Where only locks are waited for, the wait comes to an end. -/
theorem Run.clears_of_locks (ht : s.threads[t]? = some k) (home : k.module? s.instances = some j)
    (hm : s.modules[j]? = some m) (open₀ : k.report? = none)
    (calls : ∀ n i, k.standingTo n = .draining → s.instances[n]? = some i →
      i.gate.inFlight ≠ 0 → s.Clears t)
    (broadcast : ∀ why n since i, k.shutdown? = some (why, n, .asleep since) →
      s.instances[n]? = some i → i.broadcasts ≤ since → s.Clears t) : s.Clears t := by
  refine clears_of_stuck fun stuck => ?_
  cases waits_of_stuck ht (whole t k ht) open₀ home hm stuck with
  | lock queues claimed => exact hr.clears_of_queues whole hm ht home queues claimed
  | readers waiting =>
    refine hr.clears_of_holds whole hm (holds_of_task ht home) ?_
    rw [waiting]
    decide
  | calls n i draining hi busy => exact calls n i draining hi busy
  | broadcast why n since i hk hi still => exact broadcast why n since i hk hi still

theorem Run.clears_of_call (ht : s.threads[t]? = some k)
    (inside : k.standingTo n = .admitted ∨ k.standingTo n = .within) : s.Clears t := by
  have apart : k.standingTo n ≠ .apart := by rcases inside with h | h <;> rw [h] <;> decide
  have ended : k.standingTo n ≠ .ended := by rcases inside with h | h <;> rw [h] <;> decide
  have hon := Task.on?_of_standingTo apart
  obtain ⟨i, m, -, home, hm⟩ := hr.home ht hon
  refine hr.clears_of_locks whole ht home hm (Task.report?_of_standing apart ended)
    (fun n' i draining _ _ => ?_) fun why n' since i hk _ _ => ?_
  · have hon' : k.on? = some n' := Task.on?_of_standingTo (by rw [draining]; decide)
    cases hon.symm.trans hon'
    rw [draining] at inside
    rcases inside with h | h <;> cases h
  · obtain ⟨hon', standing⟩ := Task.on?_of_shutdown hk
    cases hon.symm.trans hon'
    exact absurd ((Task.standingTo_self hon).trans standing) apart

/-- A shutdown that drains an instance waits for the calls inside. -/
theorem Run.clears_of_drain {i : Instance} (ht : s.threads[t]? = some k)
    (draining : k.standingTo n = .draining) (hi : s.instances[n]? = some i)
    (busy : i.gate.inFlight ≠ 0) : s.Clears t := by
  have inside := (hr.orderly.books n i hi).inside
  obtain ⟨u, k', hu, hk'⟩ : ∃ (u : Nat) (k' : Task), s.threads[u]? = some k' ∧
      (k'.standingTo n = .admitted ∨ k'.standingTo n = .within) := by
    rcases Nat.eq_zero_or_pos (standings s.threads n .admitted) with none | some
    · obtain ⟨u, k', hu, hk'⟩ := exists_of_standings_pos
        (show 0 < standings s.threads n .within by omega)
      exact ⟨u, k', hu, .inr hk'⟩
    · obtain ⟨u, k', hu, hk'⟩ := exists_of_standings_pos some
      exact ⟨u, k', hu, .inl hk'⟩
  exact (Awaits.call k k' n ht draining hu hk').clears (hr.clears_of_call whole hu hk')

/-- A shutdown on its way waits for calls, or at a lock. -/
theorem Run.clears_of_herald (h : s.Heralds u n) : s.Clears u := by
  obtain ⟨why, σ, ⟨k, hu, hk⟩, heralds⟩ := h
  obtain ⟨i, m, -, home, hm⟩ := hr.home hu (Task.on?_of_shutdown hk).1
  have running : σ.IsRunning := by
    rintro o rfl
    exact heralds
  refine hr.clears_of_locks whole hu home hm (Task.report?_of_shutdown hk running)
    (fun n' i draining hi busy => hr.clears_of_drain whole hu draining hi busy)
    fun why' n' since i hk' _ _ => ?_
  cases hk.symm.trans hk'
  exact heralds.elim

/-- Where a sleeper has not been woken, somebody is on its way to wake it. -/
theorem Run.herald_of_asleep {i : Instance} {why : Task.Reason} {since : Nat}
    (asleep : s.Shutting t why n (.asleep since)) (hi : s.instances[n]? = some i)
    (still : i.broadcasts ≤ since) : ∃ u, s.Heralds u n := by
  obtain ⟨i', hi', closed⟩ := hr.closed_of_asleep asleep
  cases hi.symm.trans hi'
  obtain ⟨k, ht, hk⟩ := asleep
  have first : since = 0 := (hr.endings n i hi).tells t k why _ ht hk
  exact hr.herald whole hi closed (by omega)

/-- **Every wait comes to an end** with a thread that can go on. -/
theorem Run.clears (ht : s.threads[t]? = some k) (open₀ : k.report? = none)
    (home : k.module? s.instances = some j) (hm : s.modules[j]? = some m) : s.Clears t := by
  refine hr.clears_of_locks whole ht home hm open₀
    (fun n i draining hi busy => hr.clears_of_drain whole ht draining hi busy)
    fun why n since i hk hi still => ?_
  obtain ⟨u, heralds⟩ := hr.herald_of_asleep whole ⟨k, ht, hk⟩ hi still
  exact (Awaits.broadcast why n since ⟨k, ht, hk⟩ heralds).clears (hr.clears_of_herald whole heralds)

end

/-! ## What a shutdown can rely on -/

section
variable (hr : Run s) (whole : s.Whole)
include hr whole

/-- Whoever wants a lock and does not get it finds it claimed. -/
theorem Run.claimed_of_queues (ht : s.threads[t]? = some k) (queues : k.Queues)
    (stuck : s.step t = none) : ∃ j m, k.module? s.instances = some j ∧
      s.modules[j]? = some m ∧ m.context.lock.claimed = true := by
  have locked := Task.atLock_of_queues queues
  obtain ⟨j, m, handler, -, home, hm, -⟩ := hr.locked ht locked
  refine ⟨j, m, home, hm, ?_⟩
  cases waits_of_stuck ht (whole t k ht) (Task.report?_of_atLock locked) home hm stuck with
  | lock _ claimed => exact claimed
  | readers waiting => cases (Task.hold_of_queues queues).symm.trans waiting
  | calls n i draining =>
    have closes : (k.standingTo n).closes = true := by rw [draining]; rfl
    obtain ⟨why, σ, hk, standing⟩ := Task.shutdown_of_closes closes
    rw [draining] at standing
    refine absurd queues (Task.not_queues_of_shutdown hk ?_)
    cases σ with
    | unloading inside st => cases st <;> cases standing
    | _ => rfl
  | broadcast why n since i hk => exact absurd queues (Task.not_queues_of_shutdown hk rfl)

/-- Where a lock is not free, somebody who holds it can go on: it runs a callback, or has the lock for
itself. -/
theorem Run.held (hm : s.modules[j]? = some m)
    (held : m.context.lock.claimed = true ∨ m.context.lock.readers ≠ 0) :
    ∃ (u : Nat) (σ : Hold), (s.holds j)[u]? = some σ ∧ σ ≠ .free ∧
      (σ = .waiting → m.context.lock.readers = 0) ∧ ∃ s', s.step u = some s' := by
  by_cases busy : m.context.lock.readers = 0
  · obtain ⟨u, σ, hu, claims⟩ := hr.claimant hm (held.resolve_right (not_not_intro busy))
    have hσ : σ ≠ .free := by
      rintro rfl
      cases claims
    refine ⟨u, σ, hu, hσ, fun _ => busy, ?_⟩
    cases hs : s.step u with
    | none => exact absurd busy (hr.waits_of_holds whole hm hu hσ hs).2
    | some s' => exact ⟨s', rfl⟩
  · obtain ⟨u, σ, hu, reads, moves⟩ := hr.reader_runs whole hm busy
    refine ⟨u, σ, hu, ?_, ?_, moves⟩ <;> rintro rfl <;> cases reads

/-- An `OnUnload` that has begun is held up only by callbacks of the same module. -/
theorem Run.unload_held {why : Task.Reason} {inside : Nat} {h : HookStage} {i : Instance}
    (unloading : s.Shutting t why n (.unloading inside h)) (hi : s.instances[n]? = some i)
    (stuck : s.step t = none) :
    ∃ (u : Nat) (σ : Hold), u ≠ t ∧ (s.holds i.module)[u]? = some σ ∧ σ ≠ .free ∧
      (σ = .waiting → (s.context i.module).lock.readers = 0) ∧ ∃ s', s.step u = some s' := by
  obtain ⟨k, ht, hk⟩ := unloading
  have hon := (Task.on?_of_shutdown hk).1
  obtain ⟨i', m, hi', home, hm⟩ := hr.home ht hon
  cases hi.symm.trans hi'
  have mine := holds_of_task ht home
  have context : s.context i.module = m.context := by simp [System.context, hm]
  have open₀ : k.report? = none := Task.report?_of_shutdown hk (by rintro o ⟨⟩)
  -- Whoever holds the lock and can go on is another thread.
  have other : ∀ u, (∃ s', s.step u = some s') → u ≠ t := by
    rintro u ⟨s', hs⟩ rfl
    cases stuck.symm.trans hs
  rw [context]
  have held : m.context.lock.claimed = true ∨ m.context.lock.readers ≠ 0 := by
    cases waits_of_stuck ht (whole t k ht) open₀ home hm stuck with
    | lock _ claimed => exact .inl claimed
    | readers waiting =>
      refine .inr (hr.waits_of_holds whole hm mine ?_ stuck).2
      rw [waiting]
      decide
    | calls n' i' draining =>
      have hon' : k.on? = some n' := Task.on?_of_standingTo (by rw [draining]; decide)
      cases hon.symm.trans hon'
      rw [Task.standingTo_self hon, (Task.on?_of_shutdown hk).2] at draining
      cases h <;> cases draining
    | broadcast why' n' since i' hk' => cases hk.symm.trans hk'
  obtain ⟨u, σ, hu, hσ, alone, moves⟩ := hr.held whole hm held
  exact ⟨u, σ, other u moves, hu, hσ, alone, moves⟩

omit whole in
theorem Run.invokes_unload {why : Task.Reason} {inside : Nat}
    (h : s.Shutting t why n (.unloading inside .entering)) : ∃ s', s.Invokes t n .onUnload s' := by
  obtain ⟨k, ht, hk⟩ := h
  have hon := (Task.on?_of_shutdown hk).1
  obtain ⟨i, m, hi, -, hm⟩ := hr.home ht hon
  obtain ⟨k', hstep, -⟩ := Task.stepOn_shutdown (i := i) (m := m) hk rfl
  refine ⟨_, step_late ht hon hi hm hstep, _, turn_history .., ?_⟩
  exact ⟨⟨t, i.module, some n, .entered .onUnload⟩, by simp [Hook.entry], rfl, rfl⟩

/-- **Once the calls have left, `OnUnload` can begin.** -/
theorem Run.unload_begins {i : Instance} (hi : s.instances[n]? = some i)
    (draining : i.gate.state = .draining) (empty : i.gate.inFlight = 0)
    (exported : i.exports.onUnload = true) (unbegun : .entered .onUnload ∉ s.instanceLog n) :
    ∃ t s₁ s₂, s.Comes t s₁ ∧ s₁.Invokes t n .onUnload s₂ := by
  obtain ⟨t, k, ht, closes⟩ : ∃ (t : Nat) (k : Task), s.threads[t]? = some k ∧
      (k.standingTo n).closes = true := by
    have closer := (hr.orderly.books n i hi).closer
    rw [if_pos draining] at closer
    have some_closer : 0 < standings s.threads n .draining ∨ 0 < standings s.threads n .drained ∨
        0 < standings s.threads n .unloading := by omega
    rcases some_closer with pos | pos | pos <;>
    · obtain ⟨t, k, ht, hk⟩ := exists_of_standings_pos pos
      exact ⟨t, k, ht, by rw [hk]; rfl⟩
  obtain ⟨why, σ, hk, standing⟩ := Task.shutdown_of_closes closes
  have shutting : s.Shutting t why n σ := ⟨k, ht, hk⟩
  have tells : σ.Tells i (endMarks (s.instanceLog n)) := (hr.endings n i hi).tells t k why σ ht hk
  -- Past its entrance `OnUnload` would have been called.
  have begun : .entered .onUnload ∉ endMarks (s.instanceLog n) :=
    fun marked => unbegun (List.mem_of_mem_filter marked)
  rw [← standing] at closes
  cases σ with
  | draining inside =>
    obtain ⟨m, hm⟩ := hr.housed hi
    obtain ⟨s₁, hs, entrance⟩ := step_shutting ht hk hi hm
      (show ShutdownStage.step i m (.draining inside) = some (.unloading inside .entering, i, m, [])
        by simp only [ShutdownStage.step, empty, exported, if_true])
    obtain ⟨s₂, invokes⟩ := (hr.step hs).invokes_unload entrance
    exact ⟨t, s₁, s₂, .step hs (.refl s₁ t), invokes⟩
  | unloading inside h =>
    cases h with
    | entering =>
      obtain ⟨s₂, invokes⟩ := hr.invokes_unload shutting
      exact ⟨t, s, s₂, .refl s t, invokes⟩
    | _ => exact absurd (by simp [tells.2]) begun
  | unmapping inside hook => exact absurd (by simp [tells.2, Exports.departure, exported]) begun
  | publishing inside hook => exact absurd (by simp [tells.2.1, Exports.departure, exported]) begun
  | escaped => exact absurd (Task.broken_of_shutdown hk trivial) (whole t k ht)
  | arriving | asleep | broadcasting | reporting | done => cases closes

end

/-! ## Deadlock freedom -/

/-- What there is no need to fear in a system. -/
structure Lively (s : System) : Prop where
  /-- Whoever is not done can go on, or waits, at the end of a chain, for one that can. -/
  clears : ∀ (t : Nat) (k : Task) (j : Nat) (m : Module), s.threads[t]? = some k →
    k.report? = none → k.module? s.instances = some j → s.modules[j]? = some m → s.Clears t
  /-- Where a closed instance has no call inside, its `OnUnload` can begin, -/
  begins : ∀ (n : Nat) (i : Instance), s.instances[n]? = some i → i.gate.state = .draining →
    i.gate.inFlight = 0 → i.exports.onUnload = true → .entered .onUnload ∉ s.instanceLog n →
    ∃ t s₁ s₂, s.Comes t s₁ ∧ s₁.Invokes t n .onUnload s₂
  /-- and once begun, it is held up only by others who run callbacks of the same module, or have got its
  lock for themselves. -/
  unloads : ∀ (t : Nat) (why : Task.Reason) (n inside : Nat) (h : HookStage) (i : Instance),
    s.Shutting t why n (.unloading inside h) → s.instances[n]? = some i → s.step t = none →
    ∃ (u : Nat) (σ : Hold), u ≠ t ∧ (s.holds i.module)[u]? = some σ ∧ σ ≠ .free ∧
      (σ = .waiting → (s.context i.module).lock.readers = 0) ∧ ∃ s', s.step u = some s'
  /-- Who falls asleep waits for one broadcast more than there have been, -/
  sleeps : ∀ (t : Nat) (why : Task.Reason) (n since : Nat) (s' : System), s.step t = some s' →
    s'.Shutting t why n (.asleep since) → ∃ i, s'.instances[n]? = some i ∧ since = i.broadcasts
  /-- and has got it, or somebody else is on its way to make it. -/
  wakes : ∀ (t : Nat) (why : Task.Reason) (n since : Nat) (i : Instance),
    s.Shutting t why n (.asleep since) → s.instances[n]? = some i →
    (since < i.broadcasts ∧ ∃ s', s.step t = some s') ∨ ∃ u, u ≠ t ∧ s.Heralds u n
  /-- Who is on its way to a broadcast stays on it until it is made. -/
  heralds : ∀ (u n : Nat) (s' : System), s.Heralds u n → s.step u = some s' → s'.Whole →
    s'.Heralds u n ∨ ∃ i i', s.instances[n]? = some i ∧ s'.instances[n]? = some i' ∧
      i'.broadcasts = i.broadcasts + 1
  /-- A lock that somebody wants and does not get has been claimed by another, -/
  wanted : ∀ (t : Nat) (k : Task), s.threads[t]? = some k → k.Queues → s.step t = none →
    ∃ (u j : Nat) (σ : Hold), u ≠ t ∧ k.module? s.instances = some j ∧
      (s.holds j)[u]? = some σ ∧ σ.claims = true
  /-- and who has claimed a lock and does not get it waits for others to run the handler to its end. -/
  claimed : ∀ (t : Nat) (k : Task), s.threads[t]? = some k → k.hold = .waiting →
    s.step t = none → ∃ (u j : Nat) (σ : Hold), u ≠ t ∧ k.module? s.instances = some j ∧
      (s.holds j)[u]? = some σ ∧ σ.reads = true

theorem ne_of_holds {σ τ : Hold} (ht : (s.holds j)[t]? = some σ) (hu : (s.holds j)[u]? = some τ)
    (hne : σ ≠ τ) : u ≠ t := by
  rintro rfl
  exact hne (Option.some.inj (ht.symm.trans hu))

/-- **There is no deadlock.** However many instances share modules, and whatever threads do to them:
as long as no module code breaks off, whatever is not done is held up by a chain of threads that ends
with one that can go on; `OnUnload` can begin once the calls have left, and is held up only inside its
own module; nobody sleeps through the broadcast of the end, or waits at a lock that is free. -/
theorem never_deadlocked (hr : Run s) (whole : s.Whole) : s.Lively where
  clears t k j m ht open₀ home hm := hr.clears whole ht open₀ home hm
  begins n i hi draining empty exported unbegun :=
    hr.unload_begins whole hi draining empty exported unbegun
  unloads t why n inside h i unloading hi stuck := hr.unload_held whole unloading hi stuck
  sleeps t why n since s' hs asleep := by
    obtain ⟨i, hi, first, -⟩ := asleep_of_step hs asleep
    exact ⟨i, hi, first⟩
  wakes t why n since i asleep hi := by
    by_cases woken : since < i.broadcasts
    · obtain ⟨k, ht, hk⟩ := asleep
      obtain ⟨m, hm⟩ := hr.housed hi
      obtain ⟨s', hs, -⟩ := step_shutting ht hk hi hm
        (show ShutdownStage.step i m (.asleep since) = some (.look i, i, m, [])
          by simp only [ShutdownStage.step, woken, if_true])
      exact .inl ⟨woken, s', hs⟩
    · obtain ⟨u, heralds⟩ := hr.herald_of_asleep whole asleep hi (Nat.le_of_not_lt woken)
      refine .inr ⟨u, ?_, heralds⟩
      rintro rfl
      obtain ⟨k, ht, hk⟩ := asleep
      obtain ⟨why', σ, ⟨k', hu, hk'⟩, heralds⟩ := heralds
      cases ht.symm.trans hu
      cases hk.symm.trans hk'
      exact heralds
  heralds u n s' heralds hs whole' := heralds.onward hs whole'
  wanted t k ht queues stuck := by
    obtain ⟨j, m, home, hm, claimed⟩ := hr.claimed_of_queues whole ht queues stuck
    obtain ⟨u, σ, held, claims⟩ := hr.claimant hm claimed
    refine ⟨u, j, σ, ne_of_holds (holds_of_task ht home) held ?_, home, held, claims⟩
    rw [Task.hold_of_queues queues]
    rintro rfl
    cases claims
  claimed t k ht waiting stuck := by
    obtain ⟨j, m, -, -, home, hm, -⟩ := hr.locked ht (Task.atLock_of_waiting waiting)
    have mine := holds_of_task ht home
    rw [waiting] at mine
    obtain ⟨u, σ, held, reads⟩ :=
      hr.reader whole hm (hr.waits_of_holds whole hm mine (by decide) stuck).2
    refine ⟨u, j, σ, ne_of_holds mine held ?_, home, held, reads⟩
    rintro rfl
    cases reads

/-- A call is inside, a shutdown waits for it to leave, and another sleeps. -/
def sampleHeld : System :=
  ((sampleBusy.spawn (.shutting 0 .arriving)).steps [1, 2, 3]).getD {}

theorem run_sampleHeld : Run sampleHeld := by
  have more := Move.begin sampleBusy (.shutting 0 .arriving) rfl
    fun n hn => by cases hn; exact (handedOut_sample.spawn _).spawn _
  exact (run_sampleBusy.move more).later (later_of_steps [1, 2, 3] rfl)

theorem whole_sampleHeld : sampleHeld.Whole := by
  intro t k ht broken
  have mem : k ∈ [Task.opening sampleOpening (.done (.ok 0)),
      .calling ((Call.start 0 false {} {} {}).arrive sampleOpening.toInstance).1,
      .shutting 0 (.draining 1), .shutting 0 (.asleep 0)] := List.mem_of_getElem? ht
  simp only [List.mem_cons, List.not_mem_nil, or_false] at mem
  rcases mem with rfl | rfl | rfl | rfl
  · exact broken
  · rcases broken with broken | broken <;> exact broken
  · exact broken
  · exact broken

theorem never_deadlocked_sample : Run sampleHeld ∧ sampleHeld.Whole ∧
    sampleHeld.step 2 = none ∧ sampleHeld.step 3 = none ∧ sampleHeld.Clears 3 :=
  ⟨run_sampleHeld, whole_sampleHeld, rfl, rfl,
    (never_deadlocked run_sampleHeld whole_sampleHeld).clears 3 (.shutting 0 (.asleep 0)) 0 _
      rfl rfl rfl (List.getElem?_eq_getElem (show 0 < sampleHeld.modules.length from Nat.one_pos))⟩

end System

end ModuleHost
