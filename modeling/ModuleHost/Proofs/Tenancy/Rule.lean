import ModuleHost.Proofs.Instance.Account
import ModuleHost.Proofs.Instance.Verdict
import ModuleHost.Proofs.Tenancy.Hooks

/-!
# One tenant at a time

A module is tended (`Tended j`) if its entry points are called by instances only, which export both
`OnLoad` and `OnUnload`, and if a new one is opened only when the module is vacant: every earlier
opening has failed, or its instance is unloaded. The rule is about what threads may begin; what they
do then, and in which order, is left open.

Here is what the rule gives at once: of two openings the earlier one is over (`Tended.sole`), nobody
comes to the module past its instances (`Tended.indirect`), and an instance that is not unloaded
belongs to an opening that is not over (`Tended.tenant`).
-/
namespace ModuleHost

open Boundary

/-- Whether an opening has failed, or its instance is unloaded. -/
def OpenStage.Over (s : System) : OpenStage → Prop
  | .done (.error _) => True
  | .done (.ok n) => s.stateOf n = some .unloaded
  | _ => False

/-- A task mentions one instance at most. -/
theorem Task.mentions_unique {k : Task} {n n' : Nat} (h : k.Mentions n) (h' : k.Mentions n') :
    n = n' := by
  rcases h with hon | ⟨o, rfl⟩
  · rcases h' with hon' | ⟨o, rfl⟩
    · exact Option.some.inj (hon.symm.trans hon')
    · cases hon
  · rcases h' with hon' | ⟨o', same⟩
    · cases hon'
    · cases same
      rfl

theorem Opening.Late.mentions {o : Opening} {i i' : Instance} {m m' : Module} {st st' : OpenStage}
    {events : List Event} {n n' : Nat} (h : Opening.Late i m st st' i' m' events)
    (hon : st.on? = some n) (hm : (Task.opening o st').Mentions n') : n' = n := by
  rcases hm with hm | ⟨o', same⟩
  · have hm : st'.on? = some n' := hm
    rcases h.on? hon with hon' | ⟨none, -⟩
    · exact Option.some.inj (hm.symm.trans hon')
    · cases hm.symm.trans none
  · cases same
    cases h
    exact Option.some.inj hon

namespace System

/-- Whether no opening of module `j` is under way or has an instance that is not unloaded. -/
def Vacant (s : System) (j : Nat) : Prop :=
  ∀ (t : Nat) (o : Opening) (st : OpenStage), s.threads[t]? = some (.opening o st) →
    o.module = j → st.Over s

/-- What a thread may begin where module `j` is tended. -/
def Allows (s : System) (j : Nat) : Task → Prop
  | .opening o _ =>
    o.module = j → o.exports.onLoad = true ∧ o.exports.onUnload = true ∧ s.Vacant j
  | .hooking module _ _ | .visiting module _ => module ≠ j
  | .calling _ | .shutting .. | .dropping .. => True

/-- A run in which module `j` is tended comes to `s`. -/
inductive Tended (j : Nat) : System → Prop
  | start : Tended j {}
  | move {s s' : System} :
      Tended j s → Move s s' → (∀ k, s' = s.spawn k → s.Allows j k) → Tended j s'

theorem Tended.run {j : Nat} {s : System} (h : Tended j s) : Run s := by
  induction h with
  | start => exact .refl {}
  | move _ hm _ ih => exact ih.move hm

/-! Only what a thread begins is subject to the rule. -/

theorem Tended.install {j : Nat} {s : System} (h : Tended j s) {m : Module} (untouched : m.context = {}) :
    Tended j (s.addModule m) := by
  refine h.move (.install s m untouched) fun k same => ?_
  have threads := congrArg System.threads same
  exact absurd threads.symm (by simp [addModule, spawn])

theorem Tended.begin {j : Nat} {s : System} (h : Tended j s) {k : Task} (new : k.IsNew)
    (out : ∀ n, k.on? = some n → s.HandedOut n) (allows : s.Allows j k) : Tended j (s.spawn k) := by
  refine h.move (.begin s k new out) fun k' same => ?_
  have threads : s.threads ++ [k] = s.threads ++ [k'] := congrArg System.threads same
  obtain rfl := List.singleton_inj.mp (List.append_cancel_left threads)
  exact allows

theorem Tended.step {j t : Nat} {s s' : System} (h : Tended j s) (hs : s.step t = some s') :
    Tended j s' := by
  exact h.move (.step s s' t hs) fun k same => absurd same (step_ne_spawn hs k)

theorem Tended.steps {j : Nat} (ts : List Nat) :
    ∀ {s s' : System}, Tended j s → s.steps ts = some s' → Tended j s' := by
  induction ts with
  | nil =>
    intro s s' h hs
    cases hs
    exact h
  | cons t ts ih =>
    intro s s' h hs
    simp only [System.steps, List.foldlM_cons, bind, Option.bind_eq_some_iff] at hs
    obtain ⟨s₁, h₁, h₂⟩ := hs
    exact ih (h.step h₁) h₂

/-! ## Openings -/

/-- How an opening came to stand where it stands after a turn of its thread. -/
inductive Turn.Opens (s : System) (t : Nat) (o : Opening) (st st' : OpenStage) : System → Prop
  | early (made : Option Instance) (m m' : Module) (events : List Event) :
      st.on? = none → s.modules[o.module]? = some m →
      o.Early s.instances.length m st st' made m' events →
      Opens s t o st st'
        (s.turn t o.module none (.opening o st') m' (s.instances ++ made.toList) events)
  | late (n : Nat) (i i' : Instance) (m m' : Module) (events : List Event) :
      st.on? = some n → s.instances[n]? = some i → s.modules[i.module]? = some m →
      Opening.Late i m st st' i' m' events →
      Opens s t o st st'
        (s.turn t i.module (some n) (.opening o st') m' (s.instances.set n i') events)

variable {s s' : System} {t u j n : Nat} {o o' : Opening} {st st' : OpenStage}

theorem Turn.opens (h : s.Turn t s') (ht : s'.threads[t]? = some (.opening o st')) :
    ∃ st, s.threads[t]? = some (.opening o st) ∧ Opens s t o st st' s' := by
  cases h with
  | early o₁ st st₁ made m m' events hk hon hm hs =>
    rcases of_getElem?_set ht with ⟨-, eq⟩ | ⟨ne, -⟩
    · cases eq
      exact ⟨st, hk, .early made m m' events hon hm (Opening.stepEarly_cases hs)⟩
    · exact absurd rfl ne
  | late k k' n i i' m m' events hk hon hi hm hs =>
    rcases of_getElem?_set ht with ⟨-, rfl⟩ | ⟨ne, -⟩
    · obtain ⟨st, rfl, late⟩ := Task.stepOn_opening hs
      exact ⟨st, hk, .late n i i' m m' events hon hi hm late⟩
    · exact absurd rfl ne
  | direct k k' module m m' events hk hd hm hs =>
    rcases of_getElem?_set ht with ⟨-, rfl⟩ | ⟨ne, -⟩
    · cases (Task.stepIn_direct hs).trans hd
    · exact absurd rfl ne

theorem Turn.Opens.stage_ne (h : Turn.Opens s t o st st' s') (r : Except HostError Nat) :
    st ≠ .done r := by
  rintro rfl
  cases h with
  | early made m m' events _ _ early => cases early
  | late n i i' m m' events hon _ _ _ => cases hon

theorem Move.opening (h : Move s s') (ht : s'.threads[t]? = some (.opening o st')) :
    s.threads[t]? = some (.opening o st') ∨
      (st' = .arriving ∧ s' = s.spawn (.opening o .arriving) ∧ t = s.threads.length) ∨
      ∃ st, s.threads[t]? = some (.opening o st) ∧ Turn.Opens s t o st st' s' := by
  cases h with
  | install => exact .inl ht
  | begin k hnew _ =>
    rcases of_getElem?_concat ht with ht | ⟨rfl, last⟩
    · exact .inl ht
    · obtain rfl : st' = .arriving := hnew
      exact .inr (.inl ⟨rfl, rfl, last⟩)
  | again u c d r hu _ _ _ =>
    rcases of_getElem?_set ht with ⟨-, eq⟩ | ⟨-, ht⟩
    · cases eq
    · exact .inl ht
  | step _ u hs =>
    by_cases hut : u = t
    · subst hut
      exact .inr (.inr ((step_cases hs).opens ht))
    · obtain ⟨k₁, k₂, -, after⟩ := step_threads hs
      rw [after] at ht
      exact .inl ((List.getElem?_set_ne hut).symm.trans ht)

theorem Move.opening_after (h : Move s s') (ht : s.threads[t]? = some (.opening o st)) :
    ∃ st', s'.threads[t]? = some (.opening o st') ∧ (st' = st ∨ Turn.Opens s t o st st' s') := by
  have here := (List.getElem?_eq_some_iff.mp ht).1
  rcases h.task_before ht with same | ⟨c, r, isCall, -⟩ | hs
  · exact ⟨st, same, .inl rfl⟩
  · cases isCall
  · cases step_cases hs with
    | early o₁ st₁ st' made m m' events hu hon hm hstep =>
      obtain ⟨rfl, rfl⟩ := Task.opening.inj (Option.some.inj (ht.symm.trans hu))
      exact ⟨st', List.getElem?_set_self here,
        .inr (.early made m m' events hon hm (Opening.stepEarly_cases hstep))⟩
    | late k k' n i i' m m' events hu hon hi hm hstep =>
      obtain rfl := Option.some.inj (ht.symm.trans hu)
      obtain ⟨st', rfl, late⟩ := Task.opening_stepOn hstep
      exact ⟨st', List.getElem?_set_self here, .inr (.late n i i' m m' events hon hi hm late)⟩
    | direct k k' module m m' events hu hd hm hstep =>
      obtain rfl := Option.some.inj (ht.symm.trans hu)
      cases hd

theorem Move.unloaded (hr : Run s) (h : Move s s') (hn : s.stateOf n = some .unloaded) :
    s'.stateOf n = some .unloaded := by
  have transition := h.stateOf hr n
  rw [hn] at transition
  generalize s'.stateOf n = p at transition ⊢
  cases transition
  rfl

theorem Move.stays_over (hr : Run s) (h : Move s s') (past : st.Over s) : st.Over s' := by
  cases st with
  | done r =>
    cases r with
    | error e => trivial
    | ok n => exact h.unloaded hr past
  | _ => exact past.elim

/-- **Of two openings of a tended module, the earlier one is over.** -/
theorem Tended.sole (h : Tended j s) (ht : s.threads[t]? = some (.opening o st))
    (hu : s.threads[u]? = some (.opening o' st')) (hj : o.module = j) (hj' : o'.module = j)
    (before : t < u) : st.Over s := by
  induction h generalizing t u o o' st st' with
  | start => cases ht
  | @move s s' tended hm allowed ih =>
    have hr := tended.run
    rcases hm.opening ht with old | ⟨-, -, new⟩ | ⟨st₀, old, opens⟩
    · rcases hm.opening hu with hu | ⟨-, spawned, -⟩ | ⟨st₀', hu, -⟩
      · exact hm.stays_over hr (ih old hu hj hj' before)
      · obtain ⟨-, -, vacant⟩ := allowed _ spawned hj'
        exact hm.stays_over hr (vacant t o st old hj)
      · exact hm.stays_over hr (ih old hu hj hj' before)
    · -- The new thread is the last one.
      rcases hm.opening hu with hu | ⟨-, -, same⟩ | ⟨st₀', hu, -⟩
      · have := (List.getElem?_eq_some_iff.mp hu).1
        omega
      · omega
      · have := (List.getElem?_eq_some_iff.mp hu).1
        omega
    · have past : st₀.Over s := by
        rcases hm.opening hu with hu | ⟨-, spawned, -⟩ | ⟨st₀', hu, -⟩
        · exact ih old hu hj hj' before
        · obtain ⟨-, -, vacant⟩ := allowed _ spawned hj'
          exact vacant t o st₀ old hj
        · exact ih old hu hj hj' before
      -- What is over does not step.
      cases st₀ with
      | done r => exact absurd rfl (opens.stage_ne r)
      | _ => exact past.elim

theorem Tended.same (h : Tended j s) (ht : s.threads[t]? = some (.opening o st))
    (hu : s.threads[u]? = some (.opening o' st')) (hj : o.module = j) (hj' : o'.module = j)
    (now : ¬ st.Over s) (now' : ¬ st'.Over s) : t = u := by
  rcases Nat.lt_trichotomy t u with before | same | after
  · exact absurd (h.sole ht hu hj hj' before) now
  · exact same
  · exact absurd (h.sole hu ht hj' hj after) now'

theorem Tended.exports (h : Tended j s) (ht : s.threads[t]? = some (.opening o st))
    (hj : o.module = j) : o.exports.onLoad = true ∧ o.exports.onUnload = true := by
  induction h generalizing t o st with
  | start => cases ht
  | move tended hm allowed ih =>
    rcases hm.opening ht with old | ⟨-, spawned, -⟩ | ⟨st₀, old, -⟩
    · exact ih old hj
    · obtain ⟨load, unload, -⟩ := allowed _ spawned hj
      exact ⟨load, unload⟩
    · exact ih old hj

/-! ## The other tasks -/

/-- Nobody comes to a tended module past its instances. -/
theorem Tended.indirect (h : Tended j s) {k : Task} (ht : s.threads[t]? = some k) :
    k.direct? ≠ some j := by
  induction h generalizing t k with
  | start => cases ht
  | move tended hm allowed ih =>
    cases hm with
    | install => exact ih ht
    | begin k₀ hnew _ =>
      rcases of_getElem?_concat ht with ht | ⟨rfl, -⟩
      · exact ih ht
      · have allows := allowed k rfl
        cases k with
        | hooking | visiting => exact fun direct => allows (Option.some.inj direct)
        | opening | calling | shutting | dropping => exact fun direct => by cases direct
    | again u c d r hu _ _ _ =>
      rcases of_getElem?_set ht with ⟨-, rfl⟩ | ⟨-, ht⟩
      · exact fun direct => by cases direct
      · exact ih ht
    | step _ u hs =>
      cases step_cases hs with
      | early o st st' made m m' events hu hon hm hstep =>
        rcases of_getElem?_set ht with ⟨-, rfl⟩ | ⟨-, ht⟩
        · exact fun direct => by cases direct
        · exact ih ht
      | late k₀ k' n i i' m m' events hu hon hi hm hstep =>
        rcases of_getElem?_set ht with ⟨-, rfl⟩ | ⟨-, ht⟩
        · rw [Task.stepOn_indirect hstep]
          exact fun direct => by cases direct
        · exact ih ht
      | direct k₀ k' module m m' events hu hd hm hstep =>
        rcases of_getElem?_set ht with ⟨-, rfl⟩ | ⟨-, ht⟩
        · rw [Task.stepIn_direct hstep]
          exact ih hu
        · exact ih ht

/-! ## Whose instance it is -/

/-- What an opening mentions is the instance that it made. -/
theorem Run.made (hr : Run s) {i : Instance} (ht : s.threads[t]? = some (.opening o st))
    (hm : (Task.opening o st).Mentions n) (hi : s.instances[n]? = some i) :
    i.module = o.module ∧ i.exports = o.exports := by
  have key : ∀ (t : Nat) (o : Opening) (st : OpenStage) (n : Nat) (i : Instance),
      s.threads[t]? = some (.opening o st) → (Task.opening o st).Mentions n →
      s.instances[n]? = some i → i.module = o.module ∧ i.exports = o.exports := by
    refine hr.induction (P := fun s => ∀ (t : Nat) (o : Opening) (st : OpenStage) (n : Nat)
      (i : Instance), s.threads[t]? = some (.opening o st) → (Task.opening o st).Mentions n →
      s.instances[n]? = some i → i.module = o.module ∧ i.exports = o.exports) (by simp)
      fun s s' hr ih hm t o st' n i' ht mentions hi' => ?_
    -- An opening that mentions the instance already.
    have kept : ∀ st, s.threads[t]? = some (.opening o st) → (Task.opening o st).Mentions n →
        i'.module = o.module ∧ i'.exports = o.exports := by
      intro st old mentions
      have there := hr.orderly.owned.known t _ n old mentions
      have hi := List.getElem?_eq_getElem there
      obtain ⟨i₁, σ, σ', marks, hi₁, make, -⟩ := hm.gate hi
      obtain rfl := Option.some.inj (hi₁.symm.trans hi')
      rw [make.module, make.exports]
      exact ih t o st n _ old mentions hi
    rcases hm.opening ht with old | ⟨rfl, -, -⟩ | ⟨st, old, opens⟩
    · exact kept st' old mentions
    · rcases mentions with none | ⟨o', none⟩ <;> cases none
    · cases opens with
      | early made m m' events hon hmod early =>
        obtain ⟨rfl, rfl⟩ := early.mentions mentions
        obtain rfl : o.toInstance = i' := by simpa using hi'
        exact ⟨rfl, rfl⟩
      | late n' i i'' m m' events hon hi hmod late =>
        obtain rfl := late.mentions hon mentions
        exact kept st old (.inl hon)
  exact key t o st n i ht hm hi

/-- An instance of a handler module that is not unloaded is mentioned by an opening. -/
theorem Run.maker (hr : Run s) {h : Handler} (up : s.stateOf n ≠ some .unloaded)
    (code : s.CodeOf n (.handler h)) :
    ∃ (t : Nat) (o : Opening) (st : OpenStage),
      s.threads[t]? = some (.opening o st) ∧ (Task.opening o st).Mentions n := by
  refine hr.induction (P := fun s => ∀ n, s.stateOf n ≠ some .unloaded →
    s.CodeOf n (.handler h) → ∃ (t : Nat) (o : Opening) (st : OpenStage),
      s.threads[t]? = some (.opening o st) ∧ (Task.opening o st).Mentions n) ?_
    (fun s s' hr ih hm n up code => ?_) n up code
  · rintro n - ⟨i, m, hi, -⟩
    cases hi
  by_cases there : n < s.instances.length
  · have up₀ : s.stateOf n ≠ some .unloaded := fun down => up (hm.unloaded hr down)
    have code₀ := hm.codeOf hr there code
    obtain ⟨t, o, st, ht, mentions⟩ := ih n up₀ code₀
    obtain ⟨st', after, same | opens⟩ := hm.opening_after ht
    · subst same
      exact ⟨t, o, st', after, mentions⟩
    refine ⟨t, o, st', after, ?_⟩
    cases opens with
    | early made m m' events hon hmod early =>
      rcases mentions with on | ⟨o', done⟩
      · cases on.symm.trans hon
      · cases done
        cases early
    | late n' i i' m m' events hon hi hmod late =>
      obtain rfl := Task.mentions_unique mentions (.inl hon)
      cases late with
      | hook | loaded | failed | abandon | abandoned | drop => exact .inl hon
      | announce => cases hon; exact .inr ⟨o, rfl⟩
      | broke n₁ =>
        -- No panic leaves `OnLoad` of a handler module.
        rcases hr.fits ht rfl with probe | ⟨j, m', home, hm', other⟩
        · cases probe
        · cases hon
          have home : s.instances[n]?.map (·.module) = some j := home
          rw [hi] at home
          obtain rfl := Option.some.inj home
          exact absurd (code₀.of_found hi hm') (other h)
      | dropped n₁ c r =>
        cases hon
        have pos := standings_pos ht n
        rw [Task.standingTo_self rfl] at pos
        have down := (hr.orderly.books n i hi).ended pos
        exact absurd (by rw [stateOf, hi, Option.map_some, down]) up₀
  · obtain ⟨i, m, hi, -⟩ := code
    have new : s.instances[n]? = none := List.getElem?_eq_none (Nat.le_of_not_lt there)
    cases hm with
    | install | begin | again => cases new.symm.trans hi
    | step _ t hs =>
      obtain ⟨o, st, st', m, m', events, ht, -, early, rfl, rfl⟩ := (step_cases hs).newborn new hi
      have here := (List.getElem?_eq_some_iff.mp ht).1
      refine ⟨t, o, st', by simp [here], .inl ?_⟩
      cases early <;> rfl

/-- **Who the tenant is.** An instance of a tended module that is not unloaded belongs to the
opening that is not over. -/
theorem Tended.tenant (tended : Tended j s) {i : Instance} {m : Module} {h : Handler}
    (hi : s.instances[n]? = some i) (hj : i.module = j) (hm : s.modules[j]? = some m)
    (code : m.code = .handler h) (up : i.gate.state ≠ .unloaded) :
    ∃ (t : Nat) (o : Opening) (st : OpenStage), s.threads[t]? = some (.opening o st) ∧
      o.module = j ∧ i.exports = o.exports ∧ (Task.opening o st).Mentions n ∧ ¬ st.Over s := by
  have hr := tended.run
  have state : s.stateOf n ≠ some .unloaded := by
    intro down
    rw [stateOf, hi] at down
    exact up (Option.some.inj down)
  subst hj
  obtain ⟨t, o, st, ht, mentions⟩ := hr.maker state ⟨i, m, hi, hm, code⟩
  obtain ⟨module, exports⟩ := hr.made ht mentions hi
  refine ⟨t, o, st, ht, module.symm, exports, mentions, fun past => ?_⟩
  rcases mentions with on | ⟨o', done⟩
  · cases st with
    | done => cases on
    | _ => exact past
  · cases done
    exact state past

theorem Tended.tenant_exports (tended : Tended j s) {i : Instance} {m : Module} {h : Handler}
    (hi : s.instances[n]? = some i) (hj : i.module = j) (hm : s.modules[j]? = some m)
    (code : m.code = .handler h) (up : i.gate.state ≠ .unloaded) :
    i.exports.onLoad = true ∧ i.exports.onUnload = true := by
  obtain ⟨t, o, st, ht, ho, exports, -⟩ := tended.tenant hi hj hm code up
  rw [exports]
  exact tended.exports ht ho

/-- Two instances of a tended module that are not unloaded are one. -/
theorem Tended.sole_tenant (tended : Tended j s) {n' : Nat} {i i' : Instance} {m : Module}
    {h : Handler} (hi : s.instances[n]? = some i) (hi' : s.instances[n']? = some i')
    (hj : i.module = j) (hj' : i'.module = j) (hm : s.modules[j]? = some m)
    (code : m.code = .handler h) (up : i.gate.state ≠ .unloaded)
    (up' : i'.gate.state ≠ .unloaded) : n = n' := by
  obtain ⟨t, o, st, ht, ho, -, mentions, now⟩ := tended.tenant hi hj hm code up
  obtain ⟨t', o', st', ht', ho', -, mentions', now'⟩ := tended.tenant hi' hj' hm code up'
  obtain rfl := tended.same ht ht' ho ho' now now'
  cases ht.symm.trans ht'
  exact Task.mentions_unique mentions mentions'

end System

end ModuleHost
