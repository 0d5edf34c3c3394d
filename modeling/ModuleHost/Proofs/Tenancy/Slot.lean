import ModuleHost.Proofs.Boundary.Window
import ModuleHost.Proofs.Tenancy.Turnover

/-!
# Whose value is in the slot

`Tenancy` ties the slot of a tended module to the life of its instances, which know nothing of it:

* `builder`: a value is built only in the `OnLoad` of an instance,
* `loaded`: whose `OnLoad` has come through has built one,
* `whole`: while the value is in the slot, its instance has not taken it out,
* `taken`: once it is out, `OnUnload` of its instance has been called,
* `generation`: every load that came through has counted one generation.

So a call inside finds the value of its own instance (`Tenancy.own`), which keeps calls away from
writing (`prompt`), and `OnLoad` finds no value (`Tenancy.empty`); both are what `Move.turnover` asks
for. `Tended.tenancy` takes the invariant along the run.
-/
namespace ModuleHost

open Boundary

/-! ## Unloading -/

/-- Whether `OnUnload` has had the lock, while the end is not published yet. -/
def ShutdownStage.Emptied : ShutdownStage → Prop
  | .unloading _ h => h ≠ .entering ∧ h ≠ .claiming ∧ h ≠ .draining
  | .unmapping .. | .publishing .. => True
  | _ => False

/-- A shutdown that gets the lock leaves no value behind, and ends nothing before that. -/
theorem ShutdownStage.step_emptied {σ σ' : ShutdownStage} {i i' : Instance} {m m' : Module}
    {handler : Handler} {events : List Event} (code : m.code = .handler handler)
    (unloads : i.exports.onUnload = true) (full : ¬ σ.Emptied)
    (h : σ.step i m = some (σ', i', m', events)) :
    m'.context.slot.value? = none ∨
      ¬ σ'.Emptied ∧ (i'.gate.state = .unloaded → i.gate.state = .unloaded) := by
  have look_full : ¬ (look i).Emptied := by
    unfold look
    split <;> exact id
  cases σ with
  | arriving =>
    simp only [step] at h
    split at h
    · rename_i g hg
      cases h
      refine .inr ⟨id, fun unloaded => ?_⟩
      cases (Gate.close?_eq_some hg).2.1.symm.trans unloaded
    · cases h
      exact .inr ⟨look_full, id⟩
  | asleep since =>
    simp only [step] at h
    split at h
    · cases h
      exact .inr ⟨look_full, id⟩
    · cases h
  | draining inside =>
    simp only [step, unloads, if_true] at h
    split at h
    · cases h
      exact .inr ⟨fun emptied => emptied.1 rfl, id⟩
    · cases h
  | unloading inside hook =>
    cases hook with
    | entering =>
      simp only [step, HookStage.step, HookStage.start, code, Option.map_some] at h
      cases h
      exact .inr ⟨fun emptied => emptied.2.1 rfl, id⟩
    | claiming =>
      simp only [step, HookStage.step, Option.map_eq_some_iff, Prod.mk.injEq] at h
      obtain ⟨_, ⟨l, -, rfl⟩, rfl, rfl, rfl, rfl⟩ := h
      exact .inr ⟨fun emptied => emptied.2.2 rfl, id⟩
    | draining =>
      left
      simp only [step, HookStage.step, code, Option.map_eq_some_iff, Prod.mk.injEq] at h
      obtain ⟨_, locked, rfl, rfl, rfl, rfl⟩ := h
      split at locked
      · cases slot : m.context.slot with
        | live v | fresh =>
          simp only [HookStage.locked, slot] at locked
          cases locked
          rfl
        | tornDown =>
          simp only [HookStage.locked, slot] at locked
          cases locked
          show m.context.slot.value? = none
          rw [slot]
          rfl
      · cases locked
    | initializing | closing | dropping | unwinding | plain | returned | escaped =>
      exact absurd ⟨by simp, by simp, by simp⟩ full
  | unmapping | publishing => exact absurd trivial full
  | broadcasting | reporting =>
    cases h
    exact .inr ⟨id, id⟩
  | done | escaped => cases h

/-- A task that takes a step on an instance leaves the module without a value, or has not emptied it,
and ends nothing. -/
theorem Task.stepOn_emptied {k k' : Task} {n : Nat} {i i' : Instance} {m m' : Module}
    {handler : Handler} {events : List Event} (code : m.code = .handler handler)
    (unloads : i.exports.onUnload = true) (hon : k.on? = some n)
    (full : ∀ why σ, k.shutdown? = some (why, n, σ) → ¬ σ.Emptied)
    (h : k.stepOn i m = some (k', i', m', events)) :
    m'.context.slot.value? = none ∨
      (i'.gate.state = .unloaded → i.gate.state = .unloaded) ∧
        ∀ why σ, k'.shutdown? = some (why, n, σ) → ¬ σ.Emptied := by
  cases hk : k.shutdown? with
  | none =>
    obtain ⟨⟨-, -, state, -⟩, after⟩ := stepOn_outside hk h
    refine .inr ⟨fun down => state.symm.trans down, fun why σ hk' => ?_⟩
    rcases after with none | ⟨n, first⟩
    · cases none.symm.trans hk'
    · cases first.symm.trans hk'
      exact id
  | some call =>
    obtain ⟨why, n', σ⟩ := call
    obtain rfl := Option.some.inj (hon.symm.trans (on?_of_shutdown hk).1)
    cases stepOn_transition hk h with
    | on _ _ σ' k' i' m' events hσ hk' =>
      rcases σ.step_emptied code unloads (full why σ hk) hσ with none | ⟨full, state⟩
      · exact .inl none
      · refine .inr ⟨state, fun why' σ₁ hk₁ => ?_⟩
        cases hk'.symm.trans hk₁
        exact full
    | again o c r =>
      refine .inr ⟨id, fun why' σ₁ hk₁ => ?_⟩
      cases hk₁
      exact id
    | lost o e r =>
      refine .inr ⟨id, fun why' σ₁ hk₁ => ?_⟩
      cases hk₁

/-- Of an instance that exports it, `OnUnload` has been called once it ends. -/
theorem Books.onUnload_of_ended {x : Exports} {g : Gate} {N : Standing → Nat}
    {word : List EntryPoint} (b : Books x g N word) (exported : x.onUnload = true)
    (ended : 0 < N .unloading ∨ g.state = .unloaded) : .onUnload ∈ word := by
  have none : N .starting = 0 := by
    refine Nat.eq_zero_of_not_pos fun pos => ?_
    have live := (b.starting pos).2.1
    rcases ended with pos | down
    · cases live.symm.trans (b.closer_alone rfl pos).1
    · cases live.symm.trans down
  obtain ⟨calls, -, word⟩ := b.word none
  rw [word, if_pos ended, Exports.unloads, exported]
  simp

namespace System

variable {s s' : System} {t u j n : Nat} {i : Instance} {handler : Handler}

/-- Whether no shutdown of instance `n` has had the module's lock. -/
structure Intact (s : System) (n : Nat) : Prop where
  up : s.stateOf n ≠ some .unloaded
  full : ∀ (u : Nat) (k : Task) (why : Task.Reason) (σ : ShutdownStage), s.threads[u]? = some k →
    k.shutdown? = some (why, n, σ) → ¬ σ.Emptied

theorem Intact.state (h : s.Intact n) (hi : s.instances[n]? = some i) : i.gate.state ≠ .unloaded := by
  intro down
  refine h.up ?_
  rw [System.stateOf, hi, Option.map_some, down]

/-- The instance stays intact where one thread goes on to a task that has not emptied it. -/
theorem Intact.onward {k' : Task} {i' : Instance} (h : s.Intact n) (hi : s.instances[n]? = some i)
    (after : s'.threads = s.threads.set t k') (found : s'.instances[n]? = some i')
    (state : i'.gate.state = .unloaded → i.gate.state = .unloaded)
    (full : ∀ why σ, k'.shutdown? = some (why, n, σ) → ¬ σ.Emptied) : s'.Intact n := by
  refine ⟨fun down => h.state hi (state ?_), fun u k₁ why σ hu hk => ?_⟩
  · rw [System.stateOf, found] at down
    exact Option.some.inj down
  · rw [after] at hu
    rcases of_getElem?_set hu with ⟨-, rfl⟩ | ⟨-, hu⟩
    · exact full why σ hk
    · exact h.full u k₁ why σ hu hk

/-- An instance stays intact while its value is in the slot. -/
theorem Move.intact (tended : Tended j s)
    (code : ∀ m, s.modules[j]? = some m → m.code = .handler handler)
    (hi : s.instances[n]? = some i) (hj : i.module = j) (intact : s.Intact n) (hm : Move s s') :
    s'.Intact n ∨ (s'.context j).slot.value? = none := by
  have begun : ∀ {k : Task}, k.IsNew →
      ∀ why σ, k.shutdown? = some (why, n, σ) → ¬ σ.Emptied := by
    intro k new why σ hk
    rw [new.shutdown_arriving hk]
    exact id
  cases hm with
  | install => exact .inl ⟨intact.up, intact.full⟩
  | begin k hnew _ =>
    refine .inl ⟨intact.up, fun u k' why σ hu hk => ?_⟩
    rcases of_getElem?_concat hu with hu | ⟨rfl, -⟩
    · exact intact.full u k' why σ hu hk
    · exact begun hnew why σ hk
  | again t c d r ht _ hnew _ => exact .inl (intact.onward hi rfl hi id (begun hnew))
  | step _ t hs =>
    have there := (List.getElem?_eq_some_iff.mp hi).1
    cases step_cases hs with
    | early o st st' made m m' events ht hon hm hstep =>
      refine .inl (intact.onward hi rfl ((List.getElem?_append_left there).trans hi) id ?_)
      intro why σ hk
      cases Opening.stepEarly_cases hstep <;> cases hk
    | late k k' n' i₁ i' m m' events ht hon hi₁ hm hstep =>
      by_cases hn : n' = n
      · subst hn
        obtain rfl := Option.some.inj (hi₁.symm.trans hi)
        have found : (s.instances.set n' i')[n']? = some i' := by simp [there]
        have written : (s.turn t i₁.module (some n') k' m' (s.instances.set n' i')
            events).context j = m'.context := by
          rw [context_turn hm, if_pos hj]
        rw [hj] at hm
        obtain ⟨-, unloads⟩ := tended.tenant_exports hi hj hm (code m hm) (intact.state hi)
        rcases Task.stepOn_emptied (code m hm) unloads hon (fun why σ => intact.full t k why σ ht)
          hstep with none | ⟨state, full⟩
        · rw [written]
          exact .inr none
        · exact .inl (intact.onward hi rfl found state full)
      · refine .inl (intact.onward hi rfl (by simp [hn, hi]) id fun why σ hk => ?_)
        have on := (Task.on?_of_shutdown hk).1
        rcases (Task.stepOn_spec hon hstep).2 with on' | ⟨none, -⟩
        · exact absurd (Option.some.inj (on'.symm.trans on)) hn
        · cases none.symm.trans on
    | direct k k' module m m' events ht hd hm hstep =>
      refine .inl (intact.onward hi rfl hi id fun why σ hk => ?_)
      have indirect := Task.on?_of_direct ((Task.stepIn_direct hstep).trans hd)
      cases indirect.symm.trans (Task.on?_of_shutdown hk).1

theorem Move.called (hm : Move s s') {e : EntryPoint} (h : e ∈ entries (s.instanceLog n)) :
    e ∈ entries (s'.instanceLog n) := by
  obtain ⟨new, grown⟩ := hm.log fun _ _ on => on == some n
  rw [System.instanceLog, grown, entries_append]
  exact List.mem_append_left _ h

/-- Nobody deals with an instance before its `OnLoad` has returned. -/
theorem Run.untouched (hr : Run s) {o : Opening} {h : HookStage}
    (ht : s.threads[t]? = some (.opening o (.loading n h))) (hi : s.instances[n]? = some i) :
    i.gate = {} := by
  have key : ∀ (t : Nat) (o : Opening) (n : Nat) (h : HookStage) (i : Instance),
      s.threads[t]? = some (.opening o (.loading n h)) → s.instances[n]? = some i →
      i.gate = {} := by
    refine hr.induction (P := fun s => ∀ (t : Nat) (o : Opening) (n : Nat) (h : HookStage)
      (i : Instance), s.threads[t]? = some (.opening o (.loading n h)) →
      s.instances[n]? = some i → i.gate = {}) (by simp)
      fun s s' hr ih hm t o n h' i' ht hi' => ?_
    cases hi : s.instances[n]? with
    | none => exact (hm.newborn hr hi hi').1
    | some i =>
      have there := (List.getElem?_eq_some_iff.mp hi).1
      have before : ∃ h, s.threads[t]? = some (.opening o (.loading n h)) := by
        rcases hm.opening ht with old | ⟨new, -, -⟩ | ⟨st, old, opens⟩
        · exact ⟨h', old⟩
        · cases new
        · cases opens with
          | early made m m' events hon hmod early =>
            obtain ⟨rfl, -⟩ := early.mentions (.inl rfl)
            exact absurd there (Nat.lt_irrefl _)
          | late n' i₁ i₂ m m' events hon hi₁ hmod late =>
            cases late with
            | hook _ h => exact ⟨h, old⟩
      obtain ⟨h, old⟩ := before
      have untouched := ih t o n h i old hi
      cases hm with
      | install | begin | again =>
        obtain rfl := Option.some.inj (hi.symm.trans hi')
        exact untouched
      | step _ u hs =>
        obtain ⟨k, k', i₁, hu, after, found, sight⟩ := (step_cases hs).sight hi
        obtain rfl := Option.some.inj (found.symm.trans hi')
        cases sight with
        | aside => exact untouched
        | on _ m m' events hon hm hstep log =>
          -- The opening is the only one that mentions the instance.
          obtain rfl := hr.orderly.owned.sole t u _ k n old hu ⟨o, _, rfl, rfl⟩ (.inl hon)
          obtain rfl := Option.some.inj (old.symm.trans hu)
          obtain ⟨st', rfl, late⟩ := Task.opening_stepOn hstep
          cases late <;> exact untouched
  exact key t o n h i ht hi

/-! ## The invariant -/

structure Tenancy (s : System) (j : Nat) : Prop where
  prompt : s.Prompt j
  builder : ∀ x ∈ s.history, x.module = j → ∀ g, x.event = .built g →
    ∃ n, x.on = some n ∧ s.Loaded j x.thread n
  loaded : ∀ t n, s.Loaded j t n → ∃ g, ⟨t, j, some n, .built g⟩ ∈ s.history
  whole : ∀ t n g, ⟨t, j, some n, .built g⟩ ∈ s.history →
    (s.context j).slot.value? = some g → s.Intact n
  taken : ∀ t n g, ⟨t, j, some n, .built g⟩ ∈ s.history →
    (s.context j).slot.value? ≠ some g → .onUnload ∈ entries (s.instanceLog n)
  generation : (s.context j).generation = s.loads j

/-- Whether `OnLoad` of instance `n`, on module `j`, has built the value of generation `g` for the
opening that has handed the instance out. -/
def BuiltFor (s : System) (j n g : Nat) : Prop := ∃ (u : Nat) (o : Opening),
  s.threads[u]? = some (.opening o (.done (.ok n))) ∧ o.module = j ∧
    ⟨u, j, some n, .built g⟩ ∈ s.history

theorem Loaded.mentions (h : s.Loaded j t n) : ∃ (o : Opening) (st : OpenStage),
    s.threads[t]? = some (.opening o st) ∧ o.module = j ∧ (Task.opening o st).Mentions n := by
  obtain ⟨o, st, ht, hj, hst⟩ := h.opening
  exact ⟨o, st, ht, hj, OpenStage.mentions_of_loaded hst⟩

theorem Loaded.move (h : s.Loaded j t n) (hm : Move s s') : s'.Loaded j t n := by
  obtain ⟨o, st, ht, hj, hst⟩ := h.opening
  obtain ⟨st', after, same | opens⟩ := hm.opening_after ht
  · subst same
    exact loaded_of_opening after hj hst
  refine loaded_of_opening after hj ?_
  cases opens with
  | early made m m' events hon hm early =>
    cases st with
    | arriving | probing | judging | escaped => cases hst
    | loading | abandoning | dropping | announcing => cases hon
    | done => cases early
  | late n' i i' m m' events hon hi hm late =>
    cases late with
    | hook n₁ h h' m' events hook =>
      rw [HookStage.not_loaded hook] at hst
      cases hst
    | loaded | announce => exact hst
    | failed n₁ c bad =>
      rw [OpenStage.loaded?, if_neg bad] at hst
      cases hst
    | broke | abandon | abandoned | drop | dropped => cases hst

namespace Tenancy

/-- `OnLoad` finds no value: the one that was there belonged to an earlier instance. -/
theorem empty (h : s.Tenancy j) (tended : Tended j s) : s.EmptyAtLoad j := by
  intro t o n hook ht hj busy
  cases hv : (s.context j).slot.value? with
  | none => rfl
  | some g =>
    have page := tended.run.page j g
    rw [hv] at page
    have built : .built g ∈ s.moduleLog j := List.count_pos_iff.mp (by rw [page.held.1]; decide)
    obtain ⟨x, hx, hxj, hxe⟩ := mem_log.mp built
    have hxj : x.module = j := by simpa using hxj
    obtain ⟨n', on, loaded⟩ := h.builder x hx hxj g hxe
    obtain ⟨o', st', hu, hj', hst⟩ := loaded.opening
    have intact : s.Intact n' := by
      refine h.whole x.thread n' g ?_ hv
      rw [← hxj, ← on, ← hxe]
      exact hx
    rcases Nat.lt_trichotomy t x.thread with before | same | after
    · exact (tended.sole ht hu hj hj' before).elim
    · rw [← same, ht] at hu
      cases hu
      cases hook with
      | returned code => exact absurd rfl (busy code)
      | _ => cases hst
    · have past := tended.sole hu ht hj' hj after
      cases st' with
      | done r =>
        cases r with
        | ok n₁ =>
          cases hst
          exact absurd past intact.up
        | error e => cases hst
      | _ => exact past.elim

/-- **A call inside finds the value of its own instance.** -/
theorem own (h : s.Tenancy j) (tended : Tended j s)
    (code : ∀ m, s.modules[j]? = some m → m.code = .handler handler) {c : Call}
    (ht : s.threads[t]? = some (.calling c)) (inside : (Task.calling c).IsInside c.on)
    (hi : s.instances[c.on]? = some i) (hj : i.module = j) :
    ∃ g, s.BuiltFor j c.on g ∧ (s.context j).slot.value? = some g := by
  have hr := tended.run
  have books := hr.orderly.books c.on i hi
  have pos := standings_pos ht c.on
  have not_ended : ¬ (0 < standings s.threads c.on .unloading ∨ i.gate.state = .unloaded) := by
    refine books.not_ended_of_inside ?_
    rcases inside.standingTo with standing | standing <;> rw [standing] at pos <;> omega
  obtain ⟨m, hm⟩ := hr.housed hi
  rw [hj] at hm
  obtain ⟨u, o, st, hu, ho, -, mentions, -⟩ :=
    tended.tenant hi hj hm (code m hm) fun down => not_ended (.inr down)
  -- The opening keeps an instance to itself until it hands it out.
  obtain rfl : st = .done (.ok c.on) := by
    rcases mentions with on | ⟨o', done⟩
    · obtain rfl := hr.orderly.owned.sole u t _ _ c.on hu ht ⟨o, st, rfl, on⟩ (.inl rfl)
      cases ht.symm.trans hu
    · cases done
      rfl
  obtain ⟨g, built⟩ := h.loaded u c.on (loaded_of_opening hu ho rfl)
  refine ⟨g, ⟨u, o, hu, ho, built⟩, Decidable.byContradiction fun out => not_ended ?_⟩
  exact books.onUnload_mem (h.taken u c.on g built out)

theorem prompt_move (h : s.Tenancy j) (tended : Tended j s)
    (code : ∀ m, s.modules[j]? = some m → m.code = .handler handler) (straight : handler.Straight)
    (hm : Move s s') : s'.Prompt j := by
  intro t c i' ht hi' hj
  have hr := tended.run
  rcases hm.task_after ht with old | ⟨proxy, request, response, errand, new⟩ | hs
  · have there := hr.orderly.owned.known t _ c.on old (.inl rfl)
    have hi := List.getElem?_eq_getElem there
    obtain ⟨i₁, σ, σ', marks, hi₁, make, -⟩ := hm.gate hi
    obtain rfl := Option.some.inj (hi₁.symm.trans hi')
    exact h.prompt t c _ old hi (make.module.symm.trans hj)
  · rw [new]
    trivial
  · obtain ⟨c₀, i, i₁, m, m', events, hc, hi, hmod, transition, -⟩ := (step_cases hs).call ht
    obtain ⟨i₂, σ, σ', marks, hi₂, make, -⟩ := hm.gate hi
    rw [transition.on] at hi'
    obtain rfl := Option.some.inj (hi₂.symm.trans hi')
    have home : i.module = j := make.module.symm.trans hj
    have stays := h.prompt t c₀ i hc hi home
    cases transition with
    | missing | refused | returned | broke | retire | release => exact stays
    | admitted => trivial
    | visiting v m' events hs hstep =>
      rw [home] at hmod
      rcases Visit.step_cases hstep with ⟨entering, rfl, -, -⟩ | ⟨stage, data, rfl, passage⟩
      · have handled := hr.handled hc
        simp only [Call.Handled, hs] at handled
        rw [Visit.enter_straight (code m hmod) straight handled]
        trivial
      · have inside : (Task.calling c₀).IsInside c₀.on := ⟨rfl, by simp [hs], by simp [hs]⟩
        obtain ⟨g, -, value⟩ := h.own tended code hc inside hi home
        have context : s.context j = m.context := by simp [System.context, hmod]
        rw [context] at value
        cases passage with
        | begun | torn | missed | handle | fault | ended | served | escaped | escape | failed
        | broke => trivial
        | fresh p hp slot =>
          rw [slot] at value
          cases value
        | claim p l hp => rw [hp] at stays; exact stays.elim
        | start p _ _ hp => rw [hp] at stays; exact stays.elim
        | pass p _ _ hp => rw [hp] at stays; exact stays.elim
        | init p o next hp => rw [hp] at stays; exact stays.elim
        | built p u hp => rw [hp] at stays; exact stays.elim
        | serve o next a data _ _ hp => rw [hp] at stays; exact stays.elim

/-- Whoever takes a value out does so in `OnUnload` of the instance that it was built for. -/
theorem closed (tended : Tended j s) {m : Module} (hm : s.modules[j]? = some m)
    (code : m.code = .handler handler) (loaded : s.Loaded j t n) {n' inside : Nat} {k : Task}
    {why : Task.Reason} {hook : HookStage} (hu : s.threads[u]? = some k)
    (hk : k.shutdown? = some (why, n', .unloading inside hook)) (begun : hook ≠ .entering)
    (hi : s.instances[n']? = some i) (hj : i.module = j) :
    .onUnload ∈ entries (s.instanceLog n) := by
  have hr := tended.run
  obtain ⟨o, st, ht, ho, mentions⟩ := loaded.mentions
  have there := hr.orderly.owned.known t _ n ht mentions
  have hi₀ := List.getElem?_eq_getElem there
  obtain ⟨home, exports⟩ := hr.made ht mentions hi₀
  refine (hr.orderly.books n _ hi₀).onUnload_of_ended ?_ ?_
  · rw [exports]
    exact (tended.exports ht ho).2
  by_cases down : s.instances[n].gate.state = .unloaded
  · exact .inr down
  · -- Whoever unloads an instance finds it draining.
    obtain ⟨on, standing⟩ := Task.on?_of_shutdown hk
    have pos := standings_pos hu n'
    rw [Task.standingTo_self on, standing, HookStage.standing_unloading begun] at pos
    have draining := ((hr.orderly.books n' i hi).closer_alone rfl pos).1
    have up : i.gate.state ≠ .unloaded := by
      rw [draining]
      decide
    obtain rfl := tended.sole_tenant hi₀ hi (home.trans ho) hj hm code down up
    exact .inl pos

/-- A value has been built for an instance whose `OnLoad` still has to return to the host. -/
theorem fresh (tended' : Tended j s') {o : Opening} (builds : s.Builds t n j o s') :
    s'.Loaded j t n ∧ s'.Intact n := by
  have hr := tended'.run
  obtain ⟨p, before⟩ := builds.before
  have mine : s'.threads[t]? = some (.opening o (.loading n (.returned loadOk))) := by
    rw [builds.after]
    exact List.getElem?_set_self (List.getElem?_eq_some_iff.mp before).1
  have there := hr.orderly.owned.known t _ n mine (.inl rfl)
  have hi := List.getElem?_eq_getElem there
  refine ⟨loaded_of_opening mine builds.on rfl, fun down => ?_, fun u k why σ hu hk => ?_⟩
  · rw [System.stateOf, hi, Option.map_some, hr.untouched mine hi] at down
    cases down
  · obtain rfl := hr.orderly.owned.sole t u _ k n mine hu ⟨o, _, rfl, rfl⟩
      (.inl (Task.on?_of_shutdown hk).1)
    obtain rfl := Option.some.inj (mine.symm.trans hu)
    cases hk

theorem calm (h : s.Tenancy j) (hm : Move s s') (prompt : s'.Prompt j) (same : s.SameLoads s' j)
    (whole : ∀ t n g, ⟨t, j, some n, .built g⟩ ∈ s'.history →
      (s'.context j).slot.value? = some g → s'.Intact n)
    (taken : ∀ t n g, ⟨t, j, some n, .built g⟩ ∈ s'.history →
      (s'.context j).slot.value? ≠ some g → .onUnload ∈ entries (s'.instanceLog n)) :
    s'.Tenancy j := by
  obtain ⟨new, grown⟩ := hm.history
  refine ⟨prompt, fun x hx hj g hg => ?_, fun t n loaded => ?_, whole, taken, ?_⟩
  · obtain ⟨n, on, loaded⟩ := h.builder x (same.built x hx hj g hg) hj g hg
    exact ⟨n, on, loaded.move hm⟩
  · obtain ⟨g, built⟩ := h.loaded t n (same.loaded t n loaded)
    exact ⟨g, by rw [grown]; exact List.mem_append_right _ built⟩
  · rw [same.generation, h.generation, same.loads]

theorem kept (h : s.Tenancy j) (tended : Tended j s)
    (code : ∀ m, s.modules[j]? = some m → m.code = .handler handler) (hm : Move s s')
    (prompt : s'.Prompt j) (same : s.SameLoads s' j)
    (value : (s'.context j).slot.value? = (s.context j).slot.value?) : s'.Tenancy j := by
  have hr := tended.run
  refine h.calm hm prompt same (fun t n g built held => ?_) fun t n g built out => ?_
  · have built := same.built _ built rfl g rfl
    have intact := h.whole t n g built (value.symm.trans held)
    obtain ⟨n', on, loaded⟩ := h.builder _ built rfl g rfl
    cases on
    obtain ⟨o, st, ht, hj, mentions⟩ := loaded.mentions
    have hi := List.getElem?_eq_getElem (hr.orderly.owned.known t _ n ht mentions)
    have home := (hr.made ht mentions hi).1.trans hj
    rcases hm.intact tended code hi home intact with intact | none
    · exact intact
    · cases none.symm.trans held
  · exact hm.called
      (h.taken t n g (same.built _ built rfl g rfl) fun held => out (value.trans held))

theorem builds {o : Opening} (h : s.Tenancy j) (tended : Tended j s) (tended' : Tended j s')
    (hm : Move s s') (prompt : s'.Prompt j) (builds : s.Builds u n j o s') : s'.Tenancy j := by
  have hr := tended.run
  obtain ⟨p, before⟩ := builds.before
  have none := h.empty tended u o n _ before builds.on (by simp)
  obtain ⟨loaded, intact⟩ := fresh tended' builds
  -- The new line of the history, and the old ones.
  have lines : ∀ x ∈ s'.history, ∀ g, x.event = .built g →
      x = ⟨u, j, some n, .built ((s.context j).generation + 1)⟩ ∨ x ∈ s.history := by
    intro x hx g hg
    rw [builds.history, List.mem_cons, List.mem_cons] at hx
    rcases hx with rfl | rfl | hx
    · cases hg
    · exact .inl rfl
    · exact .inr hx
  refine ⟨prompt, fun x hx hj g hg => ?_, fun t n' loaded' => ?_, fun t n' g built held => ?_,
    fun t n' g built out => ?_, ?_⟩
  · rcases lines x hx g hg with rfl | hx
    · exact ⟨n, rfl, loaded⟩
    · obtain ⟨n', on, loaded⟩ := h.builder x hx hj g hg
      exact ⟨n', on, loaded.move hm⟩
  · simp only [builds.history, List.mem_cons]
    obtain ⟨k, ht, hk⟩ := loaded'
    rw [builds.after] at ht
    rcases of_getElem?_set ht with ⟨rfl, rfl⟩ | ⟨-, ht⟩
    · rw [Task.loaded?, if_pos builds.on] at hk
      cases hk
      exact ⟨_, .inr (.inl rfl)⟩
    · obtain ⟨g, built⟩ := h.loaded t n' ⟨k, ht, hk⟩
      exact ⟨g, .inr (.inr built)⟩
  · obtain rfl := Option.some.inj (builds.value.symm.trans held)
    rcases lines _ built _ rfl with new | built
    · cases new
      exact intact
    · -- No value of the next generation has been built yet.
      have page := (hr.page j ((s.context j).generation + 1)).built
      rw [if_neg (by omega)] at page
      have mem : .built ((s.context j).generation + 1) ∈ s.moduleLog j :=
        mem_log.mpr ⟨_, built, by simp, rfl⟩
      exact absurd mem (List.count_eq_zero.mp page)
  · rcases lines _ built _ rfl with new | built
    · cases new
      exact absurd builds.value out
    · refine hm.called (h.taken t n' g built ?_)
      rw [none]
      simp
  · rw [builds.generation, h.generation]
    have count := countP_set_add before (.opening o (.loading n (.returned loadOk)))
      fun k => (k.loaded? j).isSome
    simp only [Task.loaded?, builds.on, if_true, OpenStage.loaded?, Option.isSome_some,
      Option.isSome_none, Bool.false_eq_true, if_false] at count
    rw [loads, loads, builds.after]
    exact count.symm

/-- Every move keeps the invariant. -/
theorem move (h : s.Tenancy j) (tended : Tended j s) (tended' : Tended j s')
    (code' : ∀ m, s'.modules[j]? = some m → m.code = .handler handler)
    (straight : handler.Straight) (hm : Move s s') : s'.Tenancy j := by
  have code := hm.code_before tended.run code'
  have prompt := h.prompt_move tended code straight hm
  cases hm.turnover tended tended' code h.prompt (h.empty tended) with
  | kept same value => exact h.kept tended code hm prompt same value
  | closed u n' inside i k why hook same none hu hk begun hi hj =>
    refine h.calm hm prompt same (fun t n g built held => ?_) fun t n g built _ => ?_
    · cases none.symm.trans held
    · obtain ⟨n₁, on, loaded⟩ := h.builder _ (same.built _ built rfl g rfl) rfl g rfl
      cases on
      obtain ⟨m', hm'⟩ := tended'.run.housed hi
      rw [hj] at hm'
      exact closed tended' hm' (code' m' hm') (loaded.move hm) hu hk begun hi hj
  | built u n' o builds => exact h.builds tended tended' hm prompt builds

end Tenancy

/-- **The slot of a tended module follows the life of its instances.** -/
theorem Tended.tenancy (straight : handler.Straight) (h : Tended j s)
    (code : ∀ m, s.modules[j]? = some m → m.code = .handler handler) : s.Tenancy j := by
  induction h with
  | start =>
    have none : ∀ t n, ¬ ({} : System).Loaded j t n := by
      rintro t n ⟨k, ht, -⟩
      cases ht
    refine ⟨?_, by simp, fun t n loaded => absurd loaded (none t n), by simp, by simp, rfl⟩
    intro t c i ht
    cases ht
  | @move s s' tended hm allowed ih =>
    have before := hm.code_before tended.run code
    exact (ih before).move tended (tended.move hm allowed) code straight hm

end System

end ModuleHost
