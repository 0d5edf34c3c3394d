import ModuleHost.Proofs.Context.Passage
import ModuleHost.Proofs.Context.Work

/-!
# The steps of a call

`Call.Transition` lists the steps of a call through an instance, from the gate to the release, and
`Turn.call` says that a thread that stands in a call has taken one of them.
-/
namespace ModuleHost

open Boundary

/-- A step of call `c` on instance `i`, whose module is `m`. -/
inductive Call.Transition (i : Instance) (m : Module) (c : Call) :
    Call → Instance → Module → List Event → Prop
  | missing :
      c.stage = .arriving → c.visit.proxy = true → i.exports.proxy = false →
      Transition i m c { c with stage := .done (.error (.entryPointMissing i.name .handleProxyRequest)) }
        i m []
  | admitted (g : Gate) :
      c.stage = .arriving → (c.visit.proxy = true → i.exports.proxy = true) →
      i.gate.admit? = some g →
      Transition i m c
        { c with stage := .inside,
                 visit := { c.visit with handles := handles c.visit.proxy, stage := .entering } }
        { i with gate := g } m [.admitted]
  | refused :
      c.stage = .arriving → (c.visit.proxy = true → i.exports.proxy = true) →
      i.gate.admit? = none →
      Transition i m c { c with stage := .done (.error (.shuttingDown i.name)) } i m
        [.refused, .notice (.callRefused i.name i.gate.state)]
  | visiting (v : Visit) (m' : Module) (events : List Event) :
      c.stage = .inside → c.visit.step m = some (v, m', events) →
      Transition i m c { c with visit := v } i m' events
  | returned :
      c.stage = .inside → c.visit.stage = .returned →
      Transition i m c { c with stage := .retiring } i m [.left c.visit.entry]
  | broke :
      c.stage = .inside → (∃ f, c.visit.stage = .faulted f) ∨ c.visit.stage = .escaped →
      Transition i m c { c with stage := .escaped } i m []
  | retire :
      c.stage = .retiring →
      Transition i m c
        { c with stage := .leaving,
                 visit := { c.visit with handles := c.visit.handles.retire,
                                         given := c.visit.given.retire } } i m []
  | release :
      c.stage = .leaving →
      Transition i m c { c with stage := .done (.ok ()) } { i with gate := i.gate.release } m [.released]

theorem Call.arrive_cases {i : Instance} {m : Module} {c : Call} (hs : c.stage = .arriving) :
    c.Transition i m (c.arrive i).1 (c.arrive i).2.1 m (c.arrive i).2.2 := by
  unfold arrive
  split
  · rename_i none
    simp only [Bool.and_eq_true, Bool.not_eq_true'] at none
    exact .missing hs none.1 none.2
  · rename_i there
    have exported : c.visit.proxy = true → i.exports.proxy = true := by
      intro proxy
      simpa [proxy] using there
    cases hg : i.gate.admit? with
    | some g => exact .admitted g hs exported hg
    | none => exact .refused hs exported hg

theorem Call.step_cases {i i' : Instance} {m m' : Module} {c c' : Call} {events : List Event}
    (h : c.step i m = some (c', i', m', events)) : c.Transition i m c' i' m' events := by
  unfold step at h
  split at h
  · rename_i hs
    cases h
    exact arrive_cases hs
  · rename_i hs
    split at h
    · rename_i hv
      cases h
      exact .returned hs hv
    · rename_i f hv
      cases h
      exact .broke hs (.inl ⟨f, hv⟩)
    · rename_i hv
      cases h
      exact .broke hs (.inr hv)
    · simp only [Option.map_eq_some_iff, Prod.mk.injEq] at h
      obtain ⟨⟨v, m₁, events₁⟩, hstep, rfl, rfl, rfl, rfl⟩ := h
      exact .visiting v m₁ events₁ hs hstep
  · rename_i hs
    cases h
    exact .retire hs
  · rename_i hs
    cases h
    exact .release hs
  · cases h
  · cases h

theorem Task.calling_stepOn {k' : Task} {c : Call} {i i' : Instance} {m m' : Module}
    {events : List Event} (h : (Task.calling c).stepOn i m = some (k', i', m', events)) :
    ∃ c', k' = .calling c' ∧ c.Transition i m c' i' m' events := by
  simp only [stepOn, Option.map_eq_some_iff, Prod.mk.injEq] at h
  obtain ⟨⟨c', i₁, m₁, events₁⟩, hstep, rfl, rfl, rfl, rfl⟩ := h
  exact ⟨c', rfl, Call.step_cases hstep⟩

theorem Call.Transition.on {i i' : Instance} {m m' : Module} {c c' : Call} {events : List Event}
    (h : c.Transition i m c' i' m' events) : c'.on = c.on := by
  cases h <;> rfl

/-- **A thread in a call** has come there by a step of this call. -/
theorem System.Turn.call {s s' : System} {t : Nat} {c' : Call} (h : s.Turn t s')
    (ht : s'.threads[t]? = some (.calling c')) :
    ∃ c i i' m m' events, s.threads[t]? = some (.calling c) ∧ s.instances[c.on]? = some i ∧
      s.modules[i.module]? = some m ∧ c.Transition i m c' i' m' events ∧
      s' = s.turn t i.module (some c.on) (.calling c') m' (s.instances.set c.on i') events := by
  cases h with
  | early o st st' made m m' events hk hon hm hs =>
    rcases of_getElem?_set ht with ⟨-, eq⟩ | ⟨ne, -⟩
    · cases eq
    · exact absurd rfl ne
  | direct k k' module m m' events hk hd hm hs =>
    rcases of_getElem?_set ht with ⟨-, eq⟩ | ⟨ne, -⟩
    · subst eq
      cases (Task.stepIn_direct hs).trans hd
    · exact absurd rfl ne
  | late k k' n i i' m m' events hk hon hi hm hs =>
    rcases of_getElem?_set ht with ⟨-, eq⟩ | ⟨ne, -⟩
    · subst eq
      cases k with
      | calling c =>
        obtain ⟨c₁, same, transition⟩ := Task.calling_stepOn hs
        cases same
        cases hon
        exact ⟨c, i, i', m, m', events, hk, hi, hm, transition, rfl⟩
      | opening | shutting | dropping =>
        simp [Task.stepOn, Option.map_eq_some_iff] at hs
      | hooking | visiting => cases hs
    · exact absurd rfl ne

/-! ## The release -/

theorem Gate.Step.within_of_lt {x : Exports} {g g' : Gate} {σ σ' : Standing} {marks : List Event}
    (h : Step x g σ marks g' σ') (less : g'.inFlight < g.inFlight) : σ = .within := by
  cases h with
  | release => rfl
  | accept g' hadmit =>
    have more := (admit?_eq_some hadmit).2.2
    omega
  | close g' hclose =>
    have same := (close?_eq_some hclose).2.2
    omega
  | publish => exact absurd less (Nat.lt_irrefl _)
  | stay | load | answer | enter | drain | skip | unload | unmap | find | depart =>
    exact absurd less (Nat.lt_irrefl _)

theorem Task.calling_of_within {n : Nat} {k : Task} (h : k.standingTo n = .within) :
    ∃ c, k = .calling c ∧ c.on = n := by
  have hon : k.on? = some n := on?_of_standingTo (by rw [h]; decide)
  rw [standingTo_self hon] at h
  cases k with
  | calling c => exact ⟨c, rfl, Option.some.inj hon⟩
  | opening o st => exact absurd h st.standing_ne.2
  | shutting n' σ | dropping n' σ => exact absurd h σ.standing_ne.2.2
  | hooking | visiting => cases hon

/-- **The count falls by a release.** A move after which fewer calls of an instance count as inside
is the last step of one of them. -/
theorem System.Move.released {s s' : System} {n : Nat} {i i' : Instance} (h : Move s s')
    (hi : s.instances[n]? = some i) (hi' : s'.instances[n]? = some i')
    (less : i'.gate.inFlight < i.gate.inFlight) :
    ∃ (t : Nat) (c : Call), s.threads[t]? = some (.calling c) ∧ c.on = n ∧ c.stage = .leaving ∧
      s'.threads[t]? = some (.calling { c with stage := .done (.ok ()) }) := by
  have still : s'.instances ≠ s.instances := by
    intro same
    rw [same] at hi'
    obtain rfl := Option.some.inj (hi.symm.trans hi')
    exact absurd less (Nat.lt_irrefl _)
  cases h with
  | install | begin | again => exact absurd rfl still
  | step _ t hs =>
    obtain ⟨k, k', i₁, ht, after, found, sight⟩ := (step_cases hs).sight hi
    obtain rfl := Option.some.inj (found.symm.trans hi')
    cases sight with
    | aside => exact absurd less (Nat.lt_irrefl _)
    | on _ m m' events hon hm hstep log =>
      obtain ⟨c, rfl, rfl⟩ := Task.calling_of_within
        ((Task.stepOn_spec hon hstep).1.gate.within_of_lt less)
      obtain ⟨c', rfl, transition⟩ := Task.calling_stepOn hstep
      have there := (List.getElem?_eq_some_iff.mp ht).1
      refine ⟨t, c, ht, rfl, ?_⟩
      cases transition with
      | release hs =>
        refine ⟨hs, ?_⟩
        rw [after]
        exact List.getElem?_set_self there
      | admitted g hs exported hadmit =>
        have more := (Gate.admit?_eq_some hadmit).2.2
        simp only at less
        omega
      | missing | refused | visiting | returned | broke | retire =>
        exact absurd less (Nat.lt_irrefl _)

end ModuleHost
