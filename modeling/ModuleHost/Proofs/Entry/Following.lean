import ModuleHost.Proofs.Progress.Readers

/-!
# Following one request entry

`s.Attends t j v` says that thread `t` makes a request entry of module `j`: it is inside, where `v`
says, or the entry is over and `v` is how it ended. What a visit leaves on its way does not depend on
what others do meanwhile: `Visit.StepsTo` is the list of its steps, in whatever state each of them finds
the module, and `Follows.way` says that a thread that is followed through its entry takes just these.
-/
namespace ModuleHost

open Boundary

def VisitStage.Over : VisitStage → Prop
  | .returned | .faulted _ | .escaped => True
  | _ => False

/-- Whether the entry of the call is over. -/
def Call.Past (c : Call) : Prop :=
  match c.stage with
  | .retiring | .leaving | .done _ | .escaped => c.visit.stage.Over
  | .arriving | .inside => False

theorem Call.Past.stage_over {c : Call} (past : c.Past) : c.visit.stage.Over := by
  cases hs : c.stage with
  | arriving | inside => simp only [Past, hs] at past
  | retiring | leaving | done | escaped => simpa only [Past, hs] using past

/-- Whether the task makes the visit, or has come to its end. -/
def Task.Visits (k : Task) (v : Visit) : Prop :=
  k.visit? = some v ∨ ∃ c, k = .calling c ∧ c.Past ∧ c.visit = v

/-- Whether an event is about the instance only, after the entry. -/
def Event.isParting : Event → Bool
  | .left .. | .released => true
  | _ => false

/-- A visit that stood at `v` stands at the visit given, and has left the events given: it has taken
steps of its own in a module with handler `h`, and when it was over its handles were retired. -/
inductive Visit.StepsTo (h : Handler) (v : Visit) : Visit → List Event → Prop
  | here : StepsTo h v v []
  | step {v₁ v₂ : Visit} {m m' : Module} {log events : List Event} :
      StepsTo h v v₁ log → m.code = .handler h → v₁.step m = some (v₂, m', events) →
      StepsTo h v v₂ (log ++ events)
  | part {v₁ v₂ : Visit} {log events : List Event} :
      StepsTo h v v₁ log → v₁.stage.Over → v₂.stage = v₁.stage → v₂.data = v₁.data →
      (∀ e ∈ events, e.isParting = true) → StepsTo h v v₂ (log ++ events)

namespace Call

variable {i i' : Instance} {m m' : Module} {c c' : Call} {events : List Event}

/-- A call whose entry is over only takes leave. -/
theorem Transition.part (past : c.Past) (h : c.Transition i m c' i' m' events) :
    c'.Past ∧ c'.visit.stage = c.visit.stage ∧ c'.visit.data = c.visit.data ∧ m' = m ∧
      ∀ e ∈ events, e.isParting = true := by
  cases h with
  | missing hs | admitted g hs | refused hs | visiting v m' events hs | returned hs | broke hs =>
    simp only [Past, hs] at past
  | retire hs | release hs =>
    simp only [Past, hs] at past
    exact ⟨past, rfl, rfl, rfl, by simp [Event.isParting]⟩

/-- A call that is inside takes a step of its visit, or the visit is over and the call leaves. -/
theorem Transition.inside (inside : c.stage = .inside) (h : c.Transition i m c' i' m' events) :
    (c'.stage = .inside ∧ c.visit.step m = some (c'.visit, m', events)) ∨
      c'.Past ∧ c'.visit = c.visit ∧ c.visit.stage.Over ∧ m' = m ∧
        ∀ e ∈ events, e.isParting = true := by
  cases h with
  | visiting v m' events hs hstep => exact .inl ⟨hs, hstep⟩
  | returned hs back =>
    have gone : c.visit.stage.Over := by rw [back]; trivial
    exact .inr ⟨gone, rfl, gone, rfl, by simp [Event.isParting]⟩
  | broke hs broken =>
    have gone : c.visit.stage.Over := by
      rcases broken with ⟨f, hf⟩ | hf <;> rw [hf] <;> trivial
    exact .inr ⟨gone, rfl, gone, rfl, by simp⟩
  | missing hs | admitted g hs | refused hs | retire hs | release hs => cases inside.symm.trans hs

end Call

/-! ## Threads -/

namespace System

variable {s s' : System} {t j : Nat} {v : Visit} {h : Handler}

/-- Thread `t` makes a request entry of module `j`, and stands at `v`. -/
structure Attends (s : System) (t j : Nat) (v : Visit) : Prop where
  task : ∃ k, s.threads[t]? = some k ∧ k.Visits v ∧ k.module? s.instances = some j

/-- Thread `t` is about to enter module `j` with visit `v`. -/
structure Enters (s : System) (t j : Nat) (v : Visit) : Prop where
  attends : s.Attends t j v
  stage : v.stage = .entering

/-- The code of module `j` is handler `h`. -/
def HasHandler (s : System) (j : Nat) (h : Handler) : Prop :=
  ∃ m, s.modules[j]? = some m ∧ m.code = .handler h

theorem Move.module? (hr : Run s) (hm : Move s s') {k : Task} (hk : k ∈ s.threads) :
    k.module? s'.instances = k.module? s.instances := by
  cases hm with
  | install | begin | again => rfl
  | step _ u hs =>
    obtain ⟨k₀, k', module, on, m, m', instances, events, rfl, work⟩ := (step_cases hs).work hr.orderly
    exact work.others k hk

theorem HasHandler.move (hr : Run s) (hm : Move s s') (code : s.HasHandler j h) :
    s'.HasHandler j h := by
  obtain ⟨m, found, code⟩ := code
  obtain ⟨m', found', same⟩ := hm.code hr found
  exact ⟨m', found', same.code.trans code⟩

theorem HasHandler.later (hr : Run s) (hl : Later s s') (code : s.HasHandler j h) :
    s'.HasHandler j h :=
  hl.induction (P := fun s => s.HasHandler j h) code
    fun _ _ before code hm => code.move (hr.later before) hm

theorem HasHandler.code {m : Module} (code : s.HasHandler j h) (hm : s.modules[j]? = some m) :
    m.code = .handler h := by
  obtain ⟨m', found, code⟩ := code
  obtain rfl := Option.some.inj (found.symm.trans hm)
  exact code

theorem Later.log (later : Later s s') (q : Nat → Nat → Option Nat → Bool) :
    ∃ new, s'.log q = s.log q ++ new := by
  refine later.induction (P := fun s' => ∃ new, s'.log q = s.log q ++ new)
    ⟨[], (List.append_nil _).symm⟩ fun s₁ s₂ _ ih hm => ?_
  obtain ⟨old, before⟩ := ih
  obtain ⟨new, after⟩ := hm.log q
  exact ⟨old ++ new, by rw [after, before, List.append_assoc]⟩

/-- What a step of a thread that makes a request entry is: one of its visit in module `j`, or the
visit is over and its call takes leave. -/
inductive EntryStep (s : System) (t j : Nat) (v : Visit) (s' : System) (v' : Visit)
    (events : List Event) : Prop
  | visit (m m' : Module) : s.modules[j]? = some m → s'.modules[j]? = some m' →
      v.step m = some (v', m', events) → EntryStep s t j v s' v' events
  | part : v.stage.Over → v'.stage = v.stage → v'.data = v.data →
      s'.modules = s.modules → (∀ e ∈ events, e.isParting = true) → EntryStep s t j v s' v' events

theorem Attends.step (here : s.Attends t j v) (hs : s.step t = some s') :
    ∃ v' events, s'.Attends t j v' ∧ s'.threadLog t = s.threadLog t ++ events ∧
      s.EntryStep t j v s' v' events := by
  obtain ⟨k, ht, makes, home⟩ := here.task
  have there := (List.getElem?_eq_some_iff.mp ht).1
  cases step_cases hs with
  | early o st st' made m m' events hk =>
    cases ht.symm.trans hk
    rcases makes with visit | ⟨c, same, -⟩
    · cases visit
    · cases same
  | late k₀ k' n i i' m m' events hk hon hi hm hstep =>
    cases ht.symm.trans hk
    have mine : i.module = j := by simpa [Task.module?, hon, hi] using home
    subst mine
    have log : (s.turn t i.module (some n) k' m' (s.instances.set n i') events).threadLog t =
        s.threadLog t ++ events := by
      rw [threadLog_turn, if_pos rfl]
    have same := (Task.stepOn_spec hon hstep).1.make
    have attends {c' : Call} {v' : Visit} (on : c'.on = n) (makes : (Task.calling c').Visits v') :
        (s.turn t i.module (some n) (.calling c') m' (s.instances.set n i') events).Attends t
          i.module v' := by
      refine ⟨.calling c', List.getElem?_set_self there, makes, ?_⟩
      have here := (List.getElem?_eq_some_iff.mp hi).1
      simp only [Task.module?, Task.on?, on, turn_instances, List.getElem?_set_self here,
        Option.map_some, same.module]
    have found := List.getElem?_set_self (a := m') (List.getElem?_eq_some_iff.mp hm).1
    have parting (unchanged : m' = m) : s.modules.set i.module m' = s.modules := by
      rw [unchanged]
      exact set_same hm
    rcases makes with visit | ⟨c, rfl, past, rfl⟩
    · cases k with
      | calling c =>
        simp only [Task.visit?] at visit
        split at visit
        · rename_i inside
          cases visit
          obtain ⟨c', rfl, transition⟩ := Task.calling_stepOn hstep
          have on : c'.on = n := transition.on.trans (Option.some.inj hon)
          rcases transition.inside inside with ⟨still, visit⟩ | ⟨past, same, gone, unchanged, rest⟩
          · have makes : (Task.calling c').Visits c'.visit := .inl (by simp only [Task.visit?, still])
            exact ⟨c'.visit, events, attends on makes, log, .visit m m' hm found visit⟩
          · have makes : (Task.calling c').Visits c.visit := .inr ⟨c', rfl, past, same⟩
            exact ⟨c.visit, events, attends on makes, log,
              .part gone rfl rfl (parting unchanged) rest⟩
        · cases visit
      | visiting => cases hon
      | opening | shutting | dropping | hooking => cases visit
    · obtain ⟨c', rfl, transition⟩ := Task.calling_stepOn hstep
      have on : c'.on = n := transition.on.trans (Option.some.inj hon)
      obtain ⟨past', stage, data, unchanged, rest⟩ := transition.part past
      exact ⟨c'.visit, events, attends on (.inr ⟨c', rfl, past', rfl⟩), log,
        .part past.stage_over stage data (parting unchanged) rest⟩
  | direct k₀ k' module m m' events hk hd hm hstep =>
    cases ht.symm.trans hk
    rcases makes with visit | ⟨c, rfl, -⟩
    · obtain ⟨v', visit', hstep'⟩ := Task.visit_stepIn visit hstep
      have mine : module = j := Option.some.inj ((Task.module?_of_direct hd).symm.trans home)
      subst mine
      refine ⟨v', events, ⟨k', List.getElem?_set_self there, .inl visit', ?_⟩, ?_, .visit m m' hm
        (List.getElem?_set_self (List.getElem?_eq_some_iff.mp hm).1) hstep'⟩
      · exact Task.module?_of_direct ((Task.stepIn_direct hstep).trans hd)
      · rw [threadLog_turn, if_pos rfl]
    · cases hd

/-- A thread that stays with its entry has stood where it was, or it has taken a step of it. -/
theorem Attends.stays (hr : Run s) (here : s.Attends t j v) (stays : Stays t s s') :
    (s'.Attends t j v ∧ s'.threadLog t = s.threadLog t) ∨
      ∃ v' events, s.step t = some s' ∧ s'.Attends t j v' ∧
        s'.threadLog t = s.threadLog t ++ events ∧ s.EntryStep t j v s' v' events := by
  obtain ⟨move, moved⟩ := stays
  by_cases hs : s.step t = some s'
  · obtain ⟨v', events, attends, log, entryStep⟩ := here.step hs
    exact .inr ⟨v', events, hs, attends, log, entryStep⟩
  · obtain ⟨k, ht, makes, home⟩ := here.task
    have same := moved.resolve_right hs
    have there := (move.module? hr (List.mem_of_getElem? ht)).trans home
    refine .inl ⟨⟨k, same.trans ht, makes, there⟩, ?_⟩
    cases move with
    | install | begin | again => rfl
    | step _ u hu =>
      have other : u ≠ t := fun eq => hs (eq ▸ hu)
      obtain ⟨k', k'', module, m', instances, events, rfl, -⟩ := (step_cases hu).shape
      rw [threadLog_turn, if_neg other, List.append_nil]

/-- **What an entry keeps** holds as long as its thread is followed through it, where neither the moves
of others nor its own steps break it. -/
theorem Follows.attended {P : System → Visit → List Event → Prop} (hr : Run s)
    (here : s.Attends t j v) (follows : s.Follows t s') (start : P s v [])
    (aside : ∀ {s₁ s₂ : System} {v₁ : Visit} {log : List Event}, s.Follows t s₁ → Stays t s₁ s₂ →
      s₁.Attends t j v₁ → s₂.Attends t j v₁ → P s₁ v₁ log → P s₂ v₁ log)
    (own : ∀ {s₁ s₂ : System} {v₁ v₂ : Visit} {log events : List Event}, s.Follows t s₁ →
      s₁.step t = some s₂ → s₁.Attends t j v₁ → s₂.Attends t j v₂ →
      s₂.threadLog t = s₁.threadLog t ++ events → s₁.EntryStep t j v₁ s₂ v₂ events →
      P s₁ v₁ log → P s₂ v₂ (log ++ events)) :
    ∃ v' log, s'.Attends t j v' ∧ s'.threadLog t = s.threadLog t ++ log ∧ P s' v' log := by
  induction follows with
  | refl => exact ⟨v, [], here, (List.append_nil _).symm, start⟩
  | @tail s₁ s₂ before stays ih =>
    obtain ⟨v₁, log, here₁, hlog, kept⟩ := ih
    rcases here₁.stays (hr.later (Follows.later before)) stays with ⟨here₂, same⟩ |
      ⟨v₂, events, hs, here₂, grown, entryStep⟩
    · exact ⟨v₁, log, here₂, same.trans hlog, aside before stays here₁ here₂ kept⟩
    · refine ⟨v₂, log ++ events, here₂, ?_, own before hs here₁ here₂ grown entryStep kept⟩
      rw [grown, hlog, List.append_assoc]

theorem EntryStep.stepsTo {v₀ v' : Visit} {log events : List Event}
    (entryStep : s.EntryStep t j v s' v' events)
    (code : s.HasHandler j h) (steps : v₀.StepsTo h v log) : v₀.StepsTo h v' (log ++ events) := by
  cases entryStep with
  | visit m m' hm hm' hstep => exact .step steps (code.code hm) hstep
  | part gone stage data _ rest => exact .part steps gone stage data rest

/-- **The way of an entry.** A thread that is followed through its request entry has gone a way of its
visit, and has left in the history just what this way leaves. -/
theorem Follows.stepsTo (hr : Run s) (code : s.HasHandler j h) (here : s.Attends t j v)
    (follows : s.Follows t s') :
    ∃ v' log, s'.Attends t j v' ∧ s'.threadLog t = s.threadLog t ++ log ∧ v.StepsTo h v' log := by
  refine follows.attended (P := fun _ v' log => v.StepsTo h v' log) hr here .here
    (fun _ _ _ _ steps => steps) fun before _ _ _ _ entryStep steps => ?_
  exact entryStep.stepsTo (code.later hr (Follows.later before)) steps

/-- Where its visit has a step, the thread can take it. -/
theorem Attends.visit_step {v' : Visit} {m m' : Module} {events : List Event}
    (here : s.Attends t j v) (inside : ¬ v.stage.Over) (hm : s.modules[j]? = some m)
    (hv : v.step m = some (v', m', events)) :
    ∃ s', s.step t = some s' ∧ s'.Attends t j v' ∧ s'.modules[j]? = some m' ∧
      s'.threadLog t = s.threadLog t ++ events := by
  have moves : ∃ s', s.step t = some s' := by
    obtain ⟨k, ht, visits, home⟩ := here.task
    rcases visits with visit | ⟨c, -, past, rfl⟩
    · cases k with
      | calling c =>
        simp only [Task.visit?] at visit
        split at visit
        · rename_i stage
          cases visit
          obtain ⟨i, hi, rfl⟩ := Option.map_eq_some_iff.mp home
          have hstep : (Task.calling c).stepOn i m =
              some (.calling { c with visit := v' }, i, m', events) := by
            simp only [Task.stepOn, Call.step_visiting stage hv, Option.map_some]
          exact ⟨_, step_late ht rfl hi hm hstep⟩
        · cases visit
      | visiting module v₀ =>
        cases visit
        cases home
        have hstep : (Task.visiting j v).stepIn m = some (.visiting j v', m', events) := by
          simp only [Task.stepIn, hv, Option.map_some]
        exact ⟨_, step_direct ht rfl hm hstep⟩
      | opening | shutting | dropping | hooking => cases visit
    · exact absurd past.stage_over inside
  obtain ⟨s', hs⟩ := moves
  obtain ⟨v₁, events₁, here', log, entryStep⟩ := here.step hs
  cases entryStep with
  | visit m₁ m₁' hm₁ hm' hstep =>
    cases hm.symm.trans hm₁
    cases hv.symm.trans hstep
    exact ⟨s', hs, here', hm', log⟩
  | part gone => exact absurd gone inside

theorem Attends.unique {v' : Visit} (here : s.Attends t j v) (here' : s.Attends t j v') : v = v' := by
  obtain ⟨k, ht, makes, -⟩ := here.task
  obtain ⟨k', ht', makes', -⟩ := here'.task
  obtain rfl := Option.some.inj (ht.symm.trans ht')
  have inside {c : Call} {v : Visit} (past : c.Past) : (Task.calling c).visit? ≠ some v := by
    intro visit
    simp only [Task.visit?] at visit
    split at visit
    · rename_i inside
      simp only [Call.Past, inside] at past
    · cases visit
  rcases makes with visit | ⟨c, rfl, past, rfl⟩ <;> rcases makes' with visit' | ⟨c', same, past', rfl⟩
  · exact Option.some.inj (visit.symm.trans visit')
  · exact absurd (same ▸ visit) (inside past')
  · exact absurd visit' (inside past)
  · cases same
    rfl

end System

end ModuleHost
