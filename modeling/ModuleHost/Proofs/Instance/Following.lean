import ModuleHost.Proofs.Instance.Calling

/-!
# Following one thread

`s.Follows t s'` says that a run goes on from `s` to `s'` while thread `t` stays with what it does in
`s`: others may do anything, but at each move `t` either stands still or takes a step. What the steps
of a call keep, whatever happens around it, therefore holds at every such `s'`
(`Follows.call`), together with what the thread has left in the history meanwhile.
-/
namespace ModuleHost

theorem Call.step_visiting {c : Call} {i : Instance} {m m' : Module} {v : Visit}
    {events : List Event} (inside : c.stage = .inside)
    (hv : c.visit.step m = some (v, m', events)) :
    c.step i m = some ({ c with visit := v }, i, m', events) := by
  unfold step
  rw [inside]
  simp only
  split
  · rename_i hs
    simp [Visit.step, hs] at hv
  · rename_i hs
    simp [Visit.step, hs] at hv
  · rename_i hs
    simp [Visit.step, hs] at hv
  · simp only [hv, Option.map_some]

namespace System

variable {s s' : System} {t : Nat}

/-- A move at which thread `t` stands still or takes a step. -/
def Stays (t : Nat) (s s' : System) : Prop :=
  Move s s' ∧ (s'.threads[t]? = s.threads[t]? ∨ s.step t = some s')

def Follows (s : System) (t : Nat) : System → Prop := Relation.ReflTransGen (Stays t) s

theorem Follows.later (h : s.Follows t s') : Later s s' :=
  Relation.ReflTransGen.mono (r := Stays t) (fun _ _ stays => stays.1) _ _ h

theorem Follows.trans {s'' : System} (h : s.Follows t s') (h' : s'.Follows t s'') :
    s.Follows t s'' := Relation.ReflTransGen.trans h h'

theorem follows_of_steps (t : Nat) (ts : List Nat) :
    ∀ {s s' : System}, s.steps ts = some s' → s.Follows t s' := by
  induction ts with
  | nil =>
    intro s s' h
    cases h
    exact .refl
  | cons u ts ih =>
    intro s s' h
    simp only [steps, List.foldlM_cons, bind, Option.bind_eq_some_iff] at h
    obtain ⟨s₁, h₁, h₂⟩ := h
    refine (Relation.ReflTransGen.single ⟨.step s s₁ u h₁, ?_⟩).trans (ih h₂)
    by_cases hut : u = t
    · exact .inr (hut ▸ h₁)
    · obtain ⟨k, k', -, after⟩ := step_threads h₁
      exact .inl (by rw [after, List.getElem?_set_ne hut])

/-- A thread that stays in a call has stood there and left nothing in the history, or it has
taken a step of the call. -/
theorem Stays.call {c : Call} (h : Stays t s s') (ht : s.threads[t]? = some (.calling c)) :
    (s'.threads[t]? = some (.calling c) ∧ s'.threadLog t = s.threadLog t) ∨
      ∃ c' i i' m m' events, s.instances[c.on]? = some i ∧ s.modules[i.module]? = some m ∧
        c.Transition i m c' i' m' events ∧ s'.threads[t]? = some (.calling c') ∧
        s'.threadLog t = s.threadLog t ++ events := by
  obtain ⟨move, way⟩ := h
  have stepped : s.step t = some s' → ∃ c' i i' m m' events, s.instances[c.on]? = some i ∧
      s.modules[i.module]? = some m ∧ c.Transition i m c' i' m' events ∧
      s'.threads[t]? = some (.calling c') ∧ s'.threadLog t = s.threadLog t ++ events := by
    intro hs
    have here := (List.getElem?_eq_some_iff.mp ht).1
    cases step_cases hs with
    | early o st st' made m m' events hk => cases ht.symm.trans hk
    | direct k k' module m m' events hk hd =>
      obtain rfl := Option.some.inj (ht.symm.trans hk)
      cases hd
    | late k k' n i i' m m' events hk hon hi hm hstep =>
      obtain rfl := Option.some.inj (ht.symm.trans hk)
      cases hon
      obtain ⟨c', rfl, transition⟩ := Task.calling_stepOn hstep
      refine ⟨c', i, i', m, m', events, hi, hm, transition, List.getElem?_set_self here, ?_⟩
      rw [threadLog_turn, if_pos rfl]
  rcases way with same | hs
  · cases move with
    | install | begin | again => exact .inl ⟨same.trans ht, rfl⟩
    | step _ u hs =>
      by_cases hut : u = t
      · exact .inr (stepped (hut ▸ hs))
      · obtain ⟨k, k', module, m', instances, events, rfl, -⟩ := (step_cases hs).shape
        refine .inl ⟨same.trans ht, ?_⟩
        rw [threadLog_turn, if_neg hut, List.append_nil]
  · exact .inr (stepped hs)

/-- **What the steps of a call keep** holds of it as long as it is followed. `P` may speak of the
call and of what its thread has left in the history since. -/
theorem Follows.call {P : Call → List Event → Prop} {c : Call} (h : s.Follows t s')
    (ht : s.threads[t]? = some (.calling c)) (start : P c [])
    (step : ∀ {s₁ : System} {c₁ c₂ : Call} {i i' : Instance} {m m' : Module}
      {log events : List Event}, s.Follows t s₁ → s₁.threads[t]? = some (.calling c₁) →
      s₁.instances[c₁.on]? = some i → s₁.modules[i.module]? = some m → c₁.on = c.on →
      c₁.Transition i m c₂ i' m' events → P c₁ log → P c₂ (log ++ events)) :
    ∃ c' log, s'.threads[t]? = some (.calling c') ∧ c'.on = c.on ∧
      s'.threadLog t = s.threadLog t ++ log ∧ P c' log := by
  induction h with
  | refl => exact ⟨c, [], ht, rfl, (List.append_nil _).symm, start⟩
  | @tail s₁ s₂ before stays ih =>
    obtain ⟨c₁, log, ht₁, on, hlog, kept⟩ := ih
    rcases stays.call ht₁ with ⟨same, still⟩ | ⟨c₂, i, i', m, m', events, hi, hm, transition, ht₂, after⟩
    · exact ⟨c₁, log, same, on, still.trans hlog, kept⟩
    · refine ⟨c₂, log ++ events, ht₂, transition.on.trans on, ?_, step before ht₁ hi hm on transition kept⟩
      rw [after, hlog, List.append_assoc]

/-! ## A thread alone -/

/-- Steps of thread `t` alone lead from `s` to `s'`. -/
def Comes (s : System) (t : Nat) (s' : System) : Prop :=
  ∃ k, s.steps (List.replicate k t) = some s'

theorem Comes.refl (s : System) (t : Nat) : s.Comes t s := ⟨0, rfl⟩

theorem Comes.step {s₁ : System} (h : s.step t = some s₁) (h' : s₁.Comes t s') : s.Comes t s' := by
  obtain ⟨k, hk⟩ := h'
  refine ⟨k + 1, ?_⟩
  simp only [steps, List.replicate_succ, List.foldlM_cons, h, bind, Option.bind_some]
  exact hk

theorem Comes.trans {s'' : System} (h : s.Comes t s') (h' : s'.Comes t s'') : s.Comes t s'' := by
  obtain ⟨k, hk⟩ := h
  obtain ⟨k', hk'⟩ := h'
  refine ⟨k + k', ?_⟩
  rw [← List.replicate_append_replicate, steps, List.foldlM_append]
  exact Option.bind_eq_some_iff.mpr ⟨s', hk, hk'⟩

theorem Comes.follows (h : s.Comes t s') : s.Follows t s' := by
  obtain ⟨k, hk⟩ := h
  exact follows_of_steps t _ hk

theorem step_of_report {r : Report} (h : s.report? t = some r) : s.step t = none := by
  refine Option.eq_none_iff_forall_ne_some.mpr fun s' hs => ?_
  simp only [report?, Option.bind_eq_some_iff] at h
  obtain ⟨k, ht, report⟩ := h
  cases step_cases hs with
  | early o st st' made m m' events hk hon hm hstep =>
    cases ht.symm.trans hk
    cases st <;> cases report
    cases hstep
  | late k' k'' n i i' m m' events hk hon hi hm hstep =>
    cases ht.symm.trans hk
    cases k with
    | opening o st =>
      cases st <;> cases report
      cases hstep
    | calling c =>
      simp only [Task.report?] at report
      split at report
      · rename_i done
        simp only [Task.stepOn, Call.step, done, Option.map_none] at hstep
        cases hstep
      · cases report
    | shutting n σ | dropping n σ =>
      cases σ <;> cases report
      cases hstep
    | hooking | visiting => cases hstep
  | direct k' k'' module m m' events hk hd hm hstep =>
    cases ht.symm.trans hk
    cases k with
    | hooking module hook st =>
      cases st <;> cases report
      cases hstep
    | visiting module v =>
      simp only [Task.report?] at report
      split at report
      · rename_i done
        simp only [Task.stepIn, Visit.step, done, Option.map_none] at hstep
        cases hstep
      · cases report
    | opening | calling | shutting | dropping => cases hstep

theorem steps_le_of_report {a b : System} {r : Report} {k l : Nat}
    (ha : s.steps (List.replicate k t) = some a) (report : a.report? t = some r)
    (hb : s.steps (List.replicate l t) = some b) : l ≤ k := by
  refine Nat.le_of_not_lt fun more => ?_
  obtain ⟨d, rfl⟩ := Nat.exists_eq_add_of_lt more
  rw [Nat.add_assoc, ← List.replicate_append_replicate, steps, List.foldlM_append] at hb
  obtain ⟨a', ha', rest⟩ := Option.bind_eq_some_iff.mp hb
  cases ha.symm.trans ha'
  simp only [List.replicate_succ, List.foldlM_cons, step_of_report report, bind,
    Option.bind_none] at rest
  cases rest

/-- Alone, a thread comes to one report only. -/
theorem Comes.report_unique {a b : System} {r r' : Report} (ha : s.Comes t a) (hb : s.Comes t b)
    (report : a.report? t = some r) (report' : b.report? t = some r') : r = r' := by
  obtain ⟨k, ha⟩ := ha
  obtain ⟨l, hb⟩ := hb
  have same : k = l := Nat.le_antisymm (steps_le_of_report hb report' ha)
    (steps_le_of_report ha report hb)
  subst same
  cases ha.symm.trans hb
  exact Option.some.inj (report.symm.trans report')

/-- Thread `t` stands in call `c`, whose instance is `i` on module `m`. -/
structure Stands (s : System) (t : Nat) (c : Call) (i : Instance) (m : Module) : Prop where
  task : s.threads[t]? = some (.calling c)
  on : s.instances[c.on]? = some i
  module : s.modules[i.module]? = some m

theorem Stands.step {c c' : Call} {i i' : Instance} {m m' : Module} {events : List Event}
    (h : s.Stands t c i m) (hs : c.step i m = some (c', i', m', events))
    (same : i'.module = i.module) :
    ∃ s', s.step t = some s' ∧ s'.Stands t c' i' m' := by
  have hstep : (Task.calling c).stepOn i m = some (.calling c', i', m', events) := by
    simp only [Task.stepOn, hs, Option.map_some]
  have on : c'.on = c.on := (Call.step_cases hs).on
  refine ⟨_, step_late h.task rfl h.on h.module hstep, ?_, ?_, ?_⟩
  · exact List.getElem?_set_self (List.getElem?_eq_some_iff.mp h.task).1
  · rw [on]
    exact List.getElem?_set_self (List.getElem?_eq_some_iff.mp h.on).1
  · rw [same]
    exact List.getElem?_set_self (List.getElem?_eq_some_iff.mp h.module).1

theorem Stands.finish {c : Call} {i : Instance} {m : Module} (h : s.Stands t c i m)
    (inside : c.stage = .inside) (returned : c.visit.stage = .returned) :
    ∃ s', s.Comes t s' ∧ ∃ data, s'.report? t = some (.called (.ok ()) c.visit.proxy data) := by
  have retiring : c.step i m =
      some ({ c with stage := .retiring }, i, m, [.left c.visit.entry]) := by
    simp only [Call.step, inside, returned]
  obtain ⟨s₁, step₁, h₁⟩ := h.step retiring rfl
  obtain ⟨s₂, step₂, h₂⟩ := h₁.step rfl rfl
  obtain ⟨s₃, step₃, h₃⟩ := h₂.step rfl rfl
  refine ⟨s₃, .step step₁ (.step step₂ (.step step₃ (.refl s₃ t))), c.visit.data, ?_⟩
  simp only [report?, h₃.task, Option.bind_some, Task.report?]

theorem Later.codeOf {n : Nat} {code : Code} (hr : Run s) (h : Later s s') (hc : s.CodeOf n code) :
    s'.CodeOf n code := by
  refine h.induction (P := fun s => s.CodeOf n code) hc fun s₁ s₂ before hc move => ?_
  obtain ⟨i, m, hi, hm, rfl⟩ := hc
  obtain ⟨i', σ, σ', marks, hi', make, -⟩ := move.gate hi
  obtain ⟨m', hm', same⟩ := move.code (hr.later before) hm
  exact ⟨i', m', hi', make.module ▸ hm', same.code⟩

end System

end ModuleHost
