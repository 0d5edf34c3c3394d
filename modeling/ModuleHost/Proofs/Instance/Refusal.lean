import ModuleHost.Proofs.Instance.Drain
import ModuleHost.Proofs.Instance.Following

/-!
# Calls that are refused

`Instance.Refuses` says with which error an instance refuses a call. A call learns of it in its first
step, and a refusal is that one step (`System.Refusal`): no module code runs, and nothing changes but
what the calling thread has come to. A call that gets past its arrival ends in no error any more
(`Follows.arrival`), and a gate that has refused one call refuses all that come after it
(`refusals_exact`).
-/
namespace ModuleHost

open Boundary

/-- The error with which an instance refuses a call that arrives now. -/
inductive Instance.Refuses (i : Instance) : (proxy : Bool) → HostError → Prop
  | missing : i.exports.proxy = false →
      Refuses i true (.entryPointMissing i.name .handleProxyRequest)
  | shuttingDown (proxy : Bool) : (proxy = true → i.exports.proxy = true) → i.gate.state ≠ .live →
      Refuses i proxy (.shuttingDown i.name)

/-- The host's own word on a refused call. -/
def Event.TellsRefusal (i : Instance) (e : Event) : Prop :=
  e = .refused ∨ e = .notice (.callRefused i.name i.gate.state)

namespace Gate

theorem admit?_eq_none {g : Gate} : g.admit? = none ↔ g.state ≠ .live := by
  unfold admit?
  split
  · rename_i live
    simp [live]
  · rename_i closed
    simp [closed]

end Gate

/-- Only a closed gate refuses a call as shutting down. -/
theorem Instance.Refuses.closed {i : Instance} {proxy : Bool} {name : String}
    (h : i.Refuses proxy (.shuttingDown name)) : i.gate.state ≠ .live := by
  cases h with
  | shuttingDown _ _ closed => exact closed

theorem Call.arrive_of_refuses {i : Instance} {c : Call} {e : HostError}
    (h : i.Refuses c.visit.proxy e) :
    ∃ events, c.arrive i = ({ c with stage := .done (.error e) }, i, events) ∧
      ∀ x ∈ events, x.TellsRefusal i := by
  generalize hp : c.visit.proxy = proxy at h
  unfold arrive
  cases h with
  | missing none =>
    rw [if_pos (by simp [hp, none])]
    exact ⟨[], rfl, by simp⟩
  | shuttingDown _ exported closed =>
    have passed : ¬ (c.visit.proxy && !i.exports.proxy) = true := by
      rw [hp]
      cases proxy with
      | false => simp
      | true => simp [exported rfl]
    rw [if_neg passed, Gate.admit?_eq_none.mpr closed]
    exact ⟨_, rfl, by simp [Event.TellsRefusal]⟩

theorem Call.arrive_of_accepts {i : Instance} {c : Call} (h : ∀ e, ¬ i.Refuses c.visit.proxy e) :
    (c.arrive i).1.stage = .inside := by
  unfold arrive
  split
  · rename_i none
    simp only [Bool.and_eq_true, Bool.not_eq_true'] at none
    rw [none.1] at h
    exact absurd (.missing none.2) (h _)
  · rename_i there
    cases hg : i.gate.admit? with
    | some g => rfl
    | none =>
      have exported : c.visit.proxy = true → i.exports.proxy = true := by
        intro proxy
        simpa [proxy] using there
      exact absurd (.shuttingDown _ exported (Gate.admit?_eq_none.mp hg)) (h _)

/-- A closed gate refuses every call, in one way or the other. -/
theorem Instance.refuses_of_closed {i : Instance} (proxy : Bool) (closed : i.gate.state ≠ .live) :
    ∃ e, i.Refuses proxy e := by
  cases proxy with
  | false => exact ⟨_, .shuttingDown false (by simp) closed⟩
  | true =>
    cases exported : i.exports.proxy with
    | false => exact ⟨_, .missing exported⟩
    | true => exact ⟨_, .shuttingDown true (fun _ => exported) closed⟩

namespace System

/-- The next step of thread `t` ends its call `c` with error `e`, and that is all that it does: all
modules, all instances and all other threads are as before, the call's data are those that it came
with, and nothing has been said but that the call is refused. -/
structure Refusal (s : System) (t : Nat) (c : Call) (e : HostError) (s' : System) : Prop where
  task : s.threads[t]? = some (.calling c)
  step : s.step t = some s'
  report : s'.report? t = some (.called (.error e) c.visit.proxy c.visit.data)
  modules : s'.modules = s.modules
  instances : s'.instances = s.instances
  others : ∀ u, u ≠ t → s'.threads[u]? = s.threads[u]?
  silent : ∃ new i, s'.history = new ++ s.history ∧ s.instances[c.on]? = some i ∧
    ∀ x ∈ new, x.event.TellsRefusal i

variable {s s' : System} {t : Nat} {c : Call} {i : Instance} {m : Module}

theorem Stands.arrive (h : s.Stands t c i m) (arriving : c.stage = .arriving) :
    s.step t = some (s.turn t i.module (some c.on) (.calling (c.arrive i).1) m
      (s.instances.set c.on (c.arrive i).2.1) (c.arrive i).2.2) := by
  refine step_late h.task rfl h.on h.module ?_
  simp only [Task.stepOn, Call.step, arriving, Option.map_some]

theorem Stands.refusal {e : HostError} (h : s.Stands t c i m) (arriving : c.stage = .arriving)
    (refuses : i.Refuses c.visit.proxy e) : ∃ s', s.Refusal t c e s' := by
  obtain ⟨events, arrive, tells⟩ := Call.arrive_of_refuses refuses
  have here := (List.getElem?_eq_some_iff.mp h.task).1
  have step := h.arrive arriving
  rw [arrive] at step
  refine ⟨_, h.task, step, ?_, set_same h.module, set_same h.on, fun u other => ?_, _, i,
    turn_history .., h.on, fun x hx => ?_⟩
  · simp only [report?, turn_threads, List.getElem?_set_self here, Option.bind_some, Task.report?]
  · exact List.getElem?_set_ne (Ne.symm other)
  · obtain ⟨e, he, rfl⟩ := List.mem_map.mp (List.mem_reverse.mp hx)
    exact tells e he

theorem Stands.admission (h : s.Stands t c i m) (arriving : c.stage = .arriving)
    (accepts : ∀ e, ¬ i.Refuses c.visit.proxy e) :
    ∃ s' c', s.step t = some s' ∧ s'.threads[t]? = some (.calling c') ∧ c'.stage = .inside :=
  ⟨_, _, h.arrive arriving, List.getElem?_set_self (List.getElem?_eq_some_iff.mp h.task).1,
    Call.arrive_of_accepts accepts⟩

theorem called_of_report {r : Except HostError Unit} {proxy : Bool} {data : CallData}
    (h : s.report? t = some (.called r proxy data)) :
    ∃ c, s.threads[t]? = some (.calling c) ∧ c.stage = .done r ∧ c.visit.proxy = proxy ∧
      c.visit.data = data := by
  simp only [report?, Option.bind_eq_some_iff] at h
  obtain ⟨k, ht, report⟩ := h
  cases k with
  | calling c =>
    simp only [Task.report?] at report
    split at report
    · rename_i r' done
      cases report
      exact ⟨c, ht, done, rfl, rfl⟩
    · cases report
  | opening o st => cases st <;> cases report
  | shutting n σ | dropping n σ => cases σ <;> cases report
  | hooking module hook st => cases st <;> cases report
  | visiting module v =>
    simp only [Task.report?] at report
    split at report <;> cases report

theorem Stands.refuses {s₁ : System} {e : HostError} {proxy : Bool} {data : CallData}
    (h : s.Stands t c i m) (arriving : c.stage = .arriving) (step : s.step t = some s₁)
    (report : s₁.report? t = some (.called (.error e) proxy data)) :
    i.Refuses c.visit.proxy e := by
  by_cases refused : ∃ e', i.Refuses c.visit.proxy e'
  · obtain ⟨e', refuses⟩ := refused
    obtain ⟨s₂, refusal⟩ := h.refusal arriving refuses
    obtain rfl := Option.some.inj (refusal.step.symm.trans step)
    cases report.symm.trans refusal.report
    exact refuses
  · obtain ⟨s₂, c', admitted, ht', inside⟩ := h.admission arriving (not_exists.mp refused)
    obtain rfl := Option.some.inj (admitted.symm.trans step)
    obtain ⟨c₁, ht₁, done, -⟩ := called_of_report report
    cases ht'.symm.trans ht₁
    cases inside.symm.trans done

theorem Run.stands (hr : Run s) (ht : s.threads[t]? = some (.calling c)) :
    ∃ i m, s.Stands t c i m := by
  have here := hr.orderly.owned.known t _ c.on ht (.inl rfl)
  have hi := List.getElem?_eq_getElem here
  obtain ⟨m, hm⟩ := hr.housed hi
  exact ⟨_, m, ht, hi, hm⟩

/-- A call that has got past its arrival stays so, and ends in no error. -/
theorem Stays.past (h : Stays t s s') (ht : s.threads[t]? = some (.calling c))
    (past : c.stage ≠ .arriving) (fine : ∀ e, c.stage ≠ .done (.error e)) :
    ∃ c', s'.threads[t]? = some (.calling c') ∧ c'.stage ≠ .arriving ∧
      ∀ e, c'.stage ≠ .done (.error e) := by
  rcases h.call ht with ⟨same, -⟩ | ⟨c', i, i', m, m', events, -, -, transition, ht', -⟩
  · exact ⟨c, same, past, fine⟩
  · refine ⟨c', ht', ?_⟩
    cases transition with
    | missing hs | admitted g hs | refused hs => exact absurd hs past
    | visiting v m' events hs => exact ⟨past, fine⟩
    | returned | broke | retire | release => simp

theorem Stays.ended {r : Except HostError Unit} {proxy : Bool} {data : CallData}
    (h : Stays t s s') (ended : s.report? t = some (.called r proxy data)) :
    s'.report? t = some (.called r proxy data) := by
  obtain ⟨c, ht, done, -⟩ := called_of_report ended
  rcases h.call ht with ⟨same, -⟩ | ⟨c', i, i', m, m', events, -, -, transition, -⟩
  · rw [report?, same, ← ht]
    exact ended
  · cases transition with
    | missing hs | admitted g hs | refused hs | visiting v m' events hs | returned hs | broke hs
    | retire hs | release hs => cases done.symm.trans hs

/-- **How a call arrives.** As long as a call is followed, it has not arrived yet, or it has been
refused by its first step and stands there, or it has been admitted and ends in no error. -/
theorem Follows.arrival (hr : Run s) (ht : s.threads[t]? = some (.calling c))
    (arriving : c.stage = .arriving) (h : s.Follows t s') :
    s'.threads[t]? = some (.calling c) ∨
    (∃ s₁ s₂ i e, s.Follows t s₁ ∧ s₁.instances[c.on]? = some i ∧ i.Refuses c.visit.proxy e ∧
      s₁.Refusal t c e s₂ ∧ s₂.Follows t s' ∧
      s'.report? t = some (.called (.error e) c.visit.proxy c.visit.data)) ∨
    ∃ c', s'.threads[t]? = some (.calling c') ∧ c'.stage ≠ .arriving ∧
      ∀ e, c'.stage ≠ .done (.error e) := by
  induction h with
  | refl => exact .inl ht
  | @tail s₁ s₂ before stays ih =>
    rcases ih with still | ⟨s₃, s₄, i, e, first, hi, refuses, refusal, rest, report⟩ | ⟨c', h'⟩
    · rcases stays.2 with same | step
      · exact .inl (same.trans still)
      · obtain ⟨i, m, stands⟩ := (hr.later (Follows.later before)).stands still
        by_cases refused : ∃ e, i.Refuses c.visit.proxy e
        · obtain ⟨e, refuses⟩ := refused
          obtain ⟨s₃, refusal⟩ := stands.refusal arriving refuses
          obtain rfl : s₃ = s₂ := Option.some.inj (refusal.step.symm.trans step)
          exact .inr (.inl ⟨s₁, s₃, i, e, before, stands.on, refuses, refusal, .refl, refusal.report⟩)
        · obtain ⟨s₃, c', admitted, ht', inside⟩ :=
            stands.admission arriving (not_exists.mp refused)
          obtain rfl : s₃ = s₂ := Option.some.inj (admitted.symm.trans step)
          exact .inr (.inr ⟨c', ht', by simp [inside], by simp [inside]⟩)
    · exact .inr (.inl ⟨s₃, s₄, i, e, first, hi, refuses, refusal, rest.tail stays,
        stays.ended report⟩)
    · exact .inr (.inr (stays.past h'.1 h'.2.1 h'.2.2))

/-- **Refused calls leave no trace.** Thread `t` is about to call instance `i`. Its next step says how
it fares: it ends in an error exactly if the instance refuses it, a proxy call without that entry
point as missing in any state, any other call as shutting down if the state is not live; and then
nothing else has changed and no module code has run. However the run goes on, a call that has come to
an error was refused by its first step and by nothing else. And where a call was once refused as
shutting down, every call of this instance that arrives later is refused as well. -/
theorem refusals_exact (hr : Run s) (ht : s.threads[t]? = some (.calling c))
    (arriving : c.stage = .arriving) :
    (∃ i s₁, s.instances[c.on]? = some i ∧ s.step t = some s₁ ∧ ∀ e,
      ((∃ proxy data, s₁.report? t = some (.called (.error e) proxy data)) ↔
        i.Refuses c.visit.proxy e) ∧
      (i.Refuses c.visit.proxy e → s.Refusal t c e s₁)) ∧
    (∀ (s' : System) (e : HostError) (proxy : Bool) (data : CallData), s.Follows t s' →
      s'.report? t = some (.called (.error e) proxy data) →
      proxy = c.visit.proxy ∧ data = c.visit.data ∧ ∃ s₁ s₂ i, s.Follows t s₁ ∧
        s₁.instances[c.on]? = some i ∧ i.Refuses c.visit.proxy e ∧ s₁.Refusal t c e s₂ ∧
        s₂.Follows t s') ∧
    ∀ (name : String) (s₁ s₂ : System) (u : Nat) (d : Call),
      s.Refusal t c (.shuttingDown name) s₁ → Later s₁ s₂ → s₂.threads[u]? = some (.calling d) →
      d.stage = .arriving → d.on = c.on → ∃ e s₃, s₂.Refusal u d e s₃ := by
  obtain ⟨i, m, stands⟩ := hr.stands ht
  refine ⟨?_, fun s' e proxy data follows report => ?_, fun name s₁ s₂ u d refusal later hu new on => ?_⟩
  · refine ⟨i, _, stands.on, stands.arrive arriving, fun e => ?_⟩
    have refused : i.Refuses c.visit.proxy e → s.Refusal t c e _ := fun refuses => by
      obtain ⟨s₁, refusal⟩ := stands.refusal arriving refuses
      obtain rfl := Option.some.inj (refusal.step.symm.trans (stands.arrive arriving))
      exact refusal
    refine ⟨⟨?_, fun refuses => ⟨_, _, (refused refuses).report⟩⟩, refused⟩
    rintro ⟨proxy, data, report⟩
    exact stands.refuses arriving (stands.arrive arriving) report
  · rcases follows.arrival hr ht arriving with
      still | ⟨s₁, s₂, i', e', first, hi, refuses, refusal, rest, report'⟩ | ⟨c', ht', -, fine⟩
    · obtain ⟨c₁, ht₁, done, -⟩ := called_of_report report
      cases still.symm.trans ht₁
      cases arriving.symm.trans done
    · cases report.symm.trans report'
      exact ⟨rfl, rfl, s₁, s₂, i', first, hi, refuses, refusal, rest⟩
    · obtain ⟨c₁, ht₁, done, -⟩ := called_of_report report
      cases ht'.symm.trans ht₁
      exact absurd done (fine e)
  · have refuses := stands.refuses arriving refusal.step refusal.report
    have closed : s.Closed c.on := ⟨i, stands.on, refuses.closed⟩
    have here := (Move.step s s₁ t refusal.step).later.trans later
    obtain ⟨⟨j, hj, still⟩, -⟩ := closed.later here
    obtain ⟨j', m', stands'⟩ := (hr.later here).stands hu
    rw [← on, stands'.on] at hj
    cases hj
    obtain ⟨e, refuses⟩ := Instance.refuses_of_closed d.visit.proxy still
    obtain ⟨s₃, refusal'⟩ := stands'.refusal new refuses
    exact ⟨e, s₃, refusal'⟩

/-- In the short run, the shutdown on thread 2 closes the gate before the call of thread 1 arrives. -/
def sampleRefused : System := (sampleBusy.steps [2]).getD {}

theorem run_sampleRefused : Run sampleRefused := run_sampleBusy.later (later_of_steps [2] rfl)

theorem refusals_exact_sample : ∃ s₁ s₂ : System,
    sampleRefused.Refusal 1 (.start 0 false {} {} {}) (.shuttingDown "sample") s₁ ∧ Later s₁ s₂ ∧
    ∃ e s₃, s₂.Refusal 3 (.start 0 true {} {} {}) e s₃ := by
  -- Thread 1 is refused, and thread 3 then makes a proxy call.
  obtain ⟨⟨i, s₁, hi, step, verdict⟩, -, forever⟩ :=
    refusals_exact run_sampleRefused (t := 1) (c := .start 0 false {} {} {}) rfl rfl
  have refuses : i.Refuses false (.shuttingDown "sample") := by
    cases hi
    exact .shuttingDown false (by simp) (by decide)
  have refusal := (verdict _).2 refuses
  cases step
  have later := Move.begin ((sampleRefused.steps [1]).getD {}) (.calling (.start 0 true {} {} {}))
    ⟨_, _, _, _, rfl⟩ fun n hn => by cases hn; exact ⟨_, List.mem_cons_self⟩
  exact ⟨_, _, refusal, later.later, forever "sample" _ _ 3 _ refusal later.later rfl rfl rfl⟩

end System

end ModuleHost
