import ModuleHost.Proofs.Context.Ledger
import ModuleHost.Proofs.Tenancy.Rule

/-!
# What a move does to the value of a tended module

A move builds a value in the module, in `OnLoad` of an instance that is being opened (`Builds`); or
it takes the value out, in `OnUnload` of an instance; or it leaves value and generation as they are,
and nobody's `OnLoad` comes through (`Turnover`). This needs that `OnLoad` finds the slot empty and
that calls stay away from writing, which is shown along the run.
-/
namespace ModuleHost

open Boundary

/-- Whether a visit has come to its place without waiting for a value to be built. -/
def VisitStage.Prompt : VisitStage → Prop
  | .entering | .firstRead _ | .running .. | .returned | .faulted _ | .escaped => True
  | .claiming _ | .draining _ | .initializing .. | .secondRead _ | .plain _ => False

theorem VisitStage.Prompt.claims {v : VisitStage} (h : v.Prompt) : v.hold.claims = false := by
  cases v <;> first | rfl | exact h.elim

/-! ## Loads that have come through -/

/-- The instance whose `OnLoad` has come through. -/
def OpenStage.loaded? : OpenStage → Option Nat
  | .loading n (.returned code) => if code = loadOk then some n else none
  | .announcing n | .done (.ok n) => some n
  | _ => none

/-- The instance on module `j` whose `OnLoad` a task has brought through. -/
def Task.loaded? (j : Nat) : Task → Option Nat
  | .opening o st => if o.module = j then st.loaded? else none
  | _ => none

theorem OpenStage.mentions_of_loaded {o : Opening} {st : OpenStage} {n : Nat}
    (h : st.loaded? = some n) : (Task.opening o st).Mentions n := by
  cases st with
  | loading n' hook =>
    cases hook with
    | returned code =>
      simp only [loaded?] at h
      split at h
      · exact .inl h
      · cases h
    | _ => cases h
  | announcing n' => exact .inl h
  | done r =>
    cases r with
    | ok n' =>
      cases h
      exact .inr ⟨o, rfl⟩
    | error e => cases h
  | _ => cases h

theorem Task.IsNew.loaded? {k : Task} (h : k.IsNew) (j : Nat) : k.loaded? j = none := by
  cases k with
  | opening o st =>
    cases h
    exact ite_self none
  | _ => rfl

/-- What a step of a context does to the value: it leaves it, builds one, or takes it out. -/
theorem Context.Step.turnover {c c' : Context} {σ σ' : Hold} {marks : List Event}
    (h : c.Step σ marks c' σ') (free : σ.writes = true → c.slot.value? = none) :
    (c'.slot.value? = c.slot.value? ∧ c'.generation = c.generation ∧ ∀ g, .built g ∉ marks) ∨
      (σ = .starting ∧ ∃ g, .built g ∈ marks) ∨
      (σ = .waiting ∧ (∃ g, σ' = .closing g) ∧ c'.slot.value? = none ∧
        c'.generation = c.generation ∧ ∀ g, .built g ∉ marks) := by
  cases h with
  | stay slot _ _ value => exact .inl ⟨value, rfl, by simp⟩
  | claim | start | drop | finish | enter | leave | abandon => exact .inl ⟨rfl, rfl, by simp⟩
  | built => exact .inr (.inl ⟨rfl, _, List.mem_singleton.mpr rfl⟩)
  | failed => exact .inl ⟨(free rfl).symm, rfl, by simp⟩
  | broke => exact .inl ⟨rfl, rfl, by simp⟩
  | pass slot _ hslot =>
    refine .inl ⟨?_, rfl, by simp⟩
    rcases hslot with rfl | ⟨fresh, rfl⟩
    · rfl
    · rw [fresh]
      rfl
  | close v _ _ => exact .inr (.inr ⟨rfl, ⟨_, rfl⟩, rfl, rfl, by simp⟩)

namespace HookStage

variable {h h' : HookStage} {m m' : Module} {handler : Handler} {events : List Event}

/-- `OnLoad` comes through where it has built a value, or found one. -/
theorem through (code : m.code = .handler handler) (fits : h.Fits .load)
    (empty : m.context.slot.value? = none)
    (hs : h.step .load m = some (.returned loadOk, m', events)) :
    ∃ u, h = .initializing (.ret (.ok u)) := by
  cases h with
  | entering =>
    simp [step, start, code] at hs
  | claiming =>
    simp [step] at hs
  | draining =>
    simp only [step, code] at hs
    split at hs
    · cases slot : m.context.slot with
      | live v =>
        rw [slot] at empty
        cases empty
      | fresh | tornDown => simp [locked, slot] at hs
    · cases hs
  | initializing p =>
    cases p with
    | ask => cases hs
    | ret r =>
      cases r with
      | ok u => exact ⟨u, rfl⟩
      | error e => simp [step, afterStart_quiet code, loadCode, loadOk, loadFailed] at hs
    | panic p => simp [step, afterStart_quiet code, loadCode, loadOk, loadFailed] at hs
  | closing | dropping | plain | escaped | unwinding => cases fits
  | returned => cases hs

/-- Where `OnLoad` can go on, it has not come through. -/
theorem not_loaded {n : Nat} (hs : h.step .load m = some (h', m', events)) :
    (OpenStage.loading n h).loaded? = none := by
  cases h with
  | returned => cases hs
  | _ => rfl

theorem initializing_built {hook : Hook} {p : SelfProgram (Except String Unit)} {g : Nat}
    (code : m.code = .handler handler) (hs : (initializing p).step hook m = some (h', m', events))
    (hg : .built g ∈ events) :
    h' = .returned loadOk := by
  cases p with
  | ask o next =>
    cases hs
    cases selfPerform_remarks m o _ hg
  | ret r =>
    simp only [step, afterStart_quiet code] at hs
    cases hs
    cases r with
    | ok u => rfl
    | error e => simp [startNotice, Context.finishStart] at hg
  | panic p =>
    simp only [step, afterStart_quiet code] at hs
    cases hs
    simp [startNotice, Context.finishStart] at hg

end HookStage

namespace Task

variable {k : Task} {h : HookStage}

theorem opening_of_load (hk : k.hook? = some (.load, h)) (indirect : k.direct? = none) :
    ∃ o n, k = .opening o (.loading n h) := by
  have unloads : ∀ σ : ShutdownStage, σ.hook? ≠ some (.load, h) := by
    intro σ hσ
    cases σ <;> cases hσ
  cases k with
  | opening o st =>
    cases st with
    | loading n h => cases hk; exact ⟨o, n, rfl⟩
    | abandoning n c σ | dropping n c σ => exact absurd hk (unloads σ)
    | _ => cases hk
  | shutting n σ | dropping n σ => exact absurd hk (unloads σ)
  | hooking => cases indirect
  | calling | visiting => cases hk

theorem shutdown_of_unload (hk : k.hook? = some (.unload, h)) (indirect : k.direct? = none) :
    ∃ why n inside, k.shutdown? = some (why, n, .unloading inside h) := by
  have unloads : ∀ σ : ShutdownStage, σ.hook? = some (.unload, h) →
      ∃ inside, σ = .unloading inside h := by
    intro σ hσ
    cases σ <;> cases hσ
    exact ⟨_, rfl⟩
  cases k with
  | opening o st =>
    cases st with
    | abandoning n c σ | dropping n c σ =>
      obtain ⟨inside, rfl⟩ := unloads σ hk
      exact ⟨_, n, inside, rfl⟩
    | _ => cases hk
  | shutting n σ | dropping n σ =>
    obtain ⟨inside, rfl⟩ := unloads σ hk
    exact ⟨_, n, inside, rfl⟩
  | hooking => cases indirect
  | calling | visiting => cases hk

theorem hook_of_shutdown {why : Reason} {n inside : Nat}
    (hk : k.shutdown? = some (why, n, .unloading inside h)) : k.hook? = some (.unload, h) := by
  cases k with
  | opening o st => cases st <;> cases hk <;> rfl
  | shutting | dropping => cases hk; rfl
  | calling | hooking | visiting => cases hk

end Task

namespace System

/-- Whether thread `t` has brought `OnLoad` of instance `n`, on module `j`, through. -/
def Loaded (s : System) (j t n : Nat) : Prop := ∃ k, s.threads[t]? = some k ∧ k.loaded? j = some n

/-- Whether all calls on module `j` keep away from writing. -/
def Prompt (s : System) (j : Nat) : Prop := ∀ (t : Nat) (c : Call) (i : Instance),
  s.threads[t]? = some (.calling c) → s.instances[c.on]? = some i → i.module = j →
  c.visit.stage.Prompt

/-- Whether `OnLoad` finds no value in module `j`, until it has returned. -/
def EmptyAtLoad (s : System) (j : Nat) : Prop := ∀ (t : Nat) (o : Opening) (n : Nat) (h : HookStage),
  s.threads[t]? = some (.opening o (.loading n h)) → o.module = j → (∀ code, h ≠ .returned code) →
  (s.context j).slot.value? = none

/-- How many instances of module `j` have come through their `OnLoad`. -/
def loads (s : System) (j : Nat) : Nat := s.threads.countP fun k => (k.loaded? j).isSome

variable {s s' : System} {t u j n : Nat}

theorem Loaded.opening (h : s.Loaded j t n) : ∃ (o : Opening) (st : OpenStage),
    s.threads[t]? = some (.opening o st) ∧ o.module = j ∧ st.loaded? = some n := by
  obtain ⟨k, ht, hk⟩ := h
  cases k with
  | opening o st =>
    simp only [Task.loaded?] at hk
    split at hk
    · rename_i on
      exact ⟨o, st, ht, on, hk⟩
    · cases hk
  | _ => cases hk

theorem loaded_of_opening {o : Opening} {st : OpenStage}
    (ht : s.threads[t]? = some (.opening o st)) (hj : o.module = j) (hst : st.loaded? = some n) :
    s.Loaded j t n := ⟨_, ht, (if_pos hj).trans hst⟩

/-- The step of thread `t` ends the start of a value in module `j`, in `OnLoad` of instance `n`. -/
structure Builds (s : System) (t n j : Nat) (o : Opening) (s' : System) : Prop where
  before : ∃ p, s.threads[t]? = some (.opening o (.loading n (.initializing p)))
  on : o.module = j
  after : s'.threads = s.threads.set t (.opening o (.loading n (.returned loadOk)))
  history : s'.history =
    ⟨t, j, some n, .notice (.contextInitialized ((s.context j).generation + 1))⟩ ::
      ⟨t, j, some n, .built ((s.context j).generation + 1)⟩ :: s.history
  value : (s'.context j).slot.value? = some ((s.context j).generation + 1)
  generation : (s'.context j).generation = (s.context j).generation + 1

/-- No `OnLoad` on module `j` comes through, and no value is built. -/
structure SameLoads (s s' : System) (j : Nat) : Prop where
  loaded : ∀ t n, s'.Loaded j t n → s.Loaded j t n
  loads : s'.loads j = s.loads j
  generation : (s'.context j).generation = (s.context j).generation
  built : ∀ x ∈ s'.history, x.module = j → ∀ g, x.event = .built g → x ∈ s.history

inductive Turnover (s s' : System) (j : Nat) : Prop
  | built (t n : Nat) (o : Opening) : s.Builds t n j o s' → Turnover s s' j
  | kept : s.SameLoads s' j → (s'.context j).slot.value? = (s.context j).slot.value? →
      Turnover s s' j
  | closed (u n inside : Nat) (i : Instance) (k : Task) (why : Task.Reason) (h : HookStage) :
      s.SameLoads s' j → (s'.context j).slot.value? = none → s'.threads[u]? = some k →
      k.shutdown? = some (why, n, .unloading inside h) → h ≠ .entering →
      s'.instances[n]? = some i → i.module = j → Turnover s s' j

/-! ## Who writes -/

theorem Run.fits_handler (hr : Run s) {k : Task} {hook : Hook} {h : HookStage} {m : Module}
    {handler : Handler} (ht : s.threads[t]? = some k) (hk : k.hook? = some (hook, h))
    (home : k.module? s.instances = some j) (hm : s.modules[j]? = some m)
    (code : m.code = .handler handler) : h.Fits hook := by
  rcases hr.fits ht hk with fits | ⟨j', m', home', hm', other⟩
  · exact fits
  · obtain rfl := Option.some.inj (home.symm.trans home')
    obtain rfl := Option.some.inj (hm.symm.trans hm')
    exact absurd code (other handler)

theorem Tended.holder (tended : Tended j s) (prompt : s.Prompt j) {k : Task} {m : Module}
    {handler : Handler} (hm : s.modules[j]? = some m) (code : m.code = .handler handler)
    (ht : s.threads[t]? = some k) (home : k.module? s.instances = some j)
    (claims : k.hold.claims = true) :
    (∃ (o : Opening) (n : Nat) (h : HookStage), k = .opening o (.loading n h) ∧ o.module = j) ∨
      ∃ why n inside h, k.shutdown? = some (why, n, .unloading inside h) := by
  have hr := tended.run
  have unloading : ∀ σ : ShutdownStage, σ.hold.claims = true →
      ∃ inside h, σ = .unloading inside h := by
    intro σ claims
    cases σ with
    | unloading inside h => exact ⟨inside, h, rfl⟩
    | _ => cases claims
  cases k with
  | opening o st =>
    cases st with
    | probing h =>
      have fits := hr.fits_handler ht rfl home hm code
      cases h with
      | claiming | draining => exact absurd rfl fits
      | initializing | closing | dropping | unwinding => cases fits
      | entering | returned | plain | escaped => cases claims
    | loading n h =>
      have there := hr.orderly.owned.known t _ n ht (.inl rfl)
      have hi := List.getElem?_eq_getElem there
      obtain ⟨module, -⟩ := hr.made ht (.inl rfl) hi
      have home : s.instances[n]?.map (·.module) = some j := home
      rw [hi] at home
      exact .inl ⟨o, n, h, rfl, module.symm.trans (Option.some.inj home)⟩
    | abandoning n c σ =>
      obtain ⟨inside, h, rfl⟩ := unloading σ claims
      exact .inr ⟨_, n, inside, h, rfl⟩
    | dropping n c σ =>
      obtain ⟨inside, h, rfl⟩ := unloading σ claims
      exact .inr ⟨_, n, inside, h, rfl⟩
    | arriving | judging | announcing | done | escaped => cases claims
  | calling c =>
    have home : s.instances[c.on]?.map (·.module) = some j := home
    obtain ⟨i, hi, hj⟩ := Option.map_eq_some_iff.mp home
    have stays := prompt t c i ht hi hj
    have claims : c.hold.claims = true := claims
    unfold Call.hold at claims
    split at claims
    · cases stays.claims.symm.trans claims
    · cases claims
  | shutting n σ =>
    obtain ⟨inside, h, rfl⟩ := unloading σ claims
    exact .inr ⟨_, n, inside, h, rfl⟩
  | dropping n σ =>
    obtain ⟨inside, h, rfl⟩ := unloading σ claims
    exact .inr ⟨_, n, inside, h, rfl⟩
  | hooking | visiting => exact absurd home (tended.indirect ht)

/-- A load that comes through builds a value. -/
theorem Turn.builds {o : Opening} {h : HookStage} {i : Instance} {m m' : Module} {handler : Handler}
    {events : List Event} (code : m.code = .handler handler) (hm : s.modules[j]? = some m)
    (hi : s.instances[n]? = some i) (hj : o.module = j)
    (ht : s.threads[t]? = some (.opening o (.loading n h))) (fits : h.Fits .load)
    (empty : m.context.slot.value? = none)
    (hs : h.step .load m = some (.returned loadOk, m', events)) :
    s.Builds t n j o (s.turn t j (some n) (.opening o (.loading n (.returned loadOk))) m'
      (s.instances.set n i) events) := by
  obtain ⟨u, rfl⟩ := HookStage.through code fits empty hs
  have context : s.context j = m.context := by simp [System.context, hm]
  cases hs
  rw [set_same hi]
  refine
    { before := ⟨_, ht⟩
      on := hj
      after := rfl
      history := ?_
      value := ?_
      generation := ?_ }
  · rw [context]
    rfl
  · rw [context_turn hm, if_pos rfl, context]
    rfl
  · rw [context_turn hm, if_pos rfl, context]
    rfl

theorem Turn.loads {handler : Handler} (tended : Tended j s)
    (code : ∀ m, s.modules[j]? = some m → m.code = .handler handler) (empty : s.EmptyAtLoad j)
    (hs : s.Turn t s') : ∃ k k', s.threads[t]? = some k ∧ s'.threads = s.threads.set t k' ∧
      (k'.loaded? j = k.loaded? j ∨ ∃ n o, s.Builds t n j o s') := by
  have hr := tended.run
  cases hs with
  | early o st st' made m m' events ht hon hm hstep =>
    refine ⟨_, _, ht, rfl, .inl ?_⟩
    by_cases hj : o.module = j
    · simp only [Task.loaded?, hj, if_true]
      cases Opening.stepEarly_cases hstep with
      | skip found hfound unexported =>
        obtain ⟨exported, -⟩ := tended.exports ht hj
        cases exported.symm.trans unexported
      | ask | unasked | hook | told | broke | refuse | load => rfl
    · simp only [Task.loaded?, hj, if_false]
  | late k k' n i i' m m' events ht hon hi hm hstep =>
    refine ⟨k, k', ht, rfl, ?_⟩
    cases k with
    | opening o st =>
      obtain ⟨st', rfl, late⟩ := Task.opening_stepOn hstep
      obtain ⟨module, -⟩ := hr.made ht (.inl hon) hi
      by_cases hj : o.module = j
      · have home : i.module = j := module.trans hj
        rw [home] at hm ⊢
        simp only [Task.loaded?, hj, if_true]
        cases late with
        | hook n' h h' m' events hook =>
          cases hon
          rw [HookStage.not_loaded hook]
          cases h' with
          | returned c =>
            by_cases ok : c = loadOk
            · subst ok
              right
              have where_ : (Task.opening o (.loading n h)).module? s.instances = some j := by
                simp [Task.module?, Task.on?, OpenStage.on?, hi, home]
              have fits := hr.fits_handler ht rfl where_ hm (code m hm)
              have none := empty t o n h ht hj fun c returned => by rw [returned] at hook; cases hook
              have context : s.context j = m.context := by simp [System.context, hm]
              rw [context] at none
              exact ⟨n, o, Turn.builds (code m hm) hm hi hj ht fits none hook⟩
            · exact .inl (if_neg ok)
          | _ => exact .inl rfl
        | failed n' c bad => exact .inl (if_neg bad).symm
        | loaded | broke | abandon | abandoned | drop | dropped | announce => exact .inl rfl
      · simp only [Task.loaded?, hj, if_false, true_or]
    | calling | shutting | dropping =>
      simp only [Task.stepOn, Option.map_eq_some_iff, Prod.mk.injEq] at hstep
      obtain ⟨_, -, rfl, -⟩ := hstep
      exact .inl rfl
    | hooking | visiting => cases hon
  | direct k k' module m m' events ht hd hm hstep =>
    refine ⟨k, k', ht, rfl, .inl ?_⟩
    cases k with
    | hooking | visiting =>
      simp only [Task.stepIn, Option.map_eq_some_iff, Prod.mk.injEq] at hstep
      obtain ⟨_, -, rfl, -⟩ := hstep
      rfl
    | opening | calling | shutting | dropping => cases hd

/-! ## Turns in the module -/

theorem loads_set {k k' : Task} (ht : s.threads[t]? = some k) (same : k'.loaded? j = k.loaded? j) :
    (s.threads.set t k').countP (fun k => (k.loaded? j).isSome) = s.loads j := by
  have count := countP_set_add ht k' fun k => (k.loaded? j).isSome
  simp only [same] at count
  exact Nat.add_right_cancel count

section
variable {k k' : Task} {m m' : Module} {instances : List Instance} {on : Option Nat}
  {events : List Event} {handler : Handler}

theorem Work.sameLoads {module : Nat} (work : s.Work t k k' module m m' instances events)
    (same : k'.loaded? j = k.loaded? j) (none : module = j → ∀ g, .built g ∉ contextMarks events)
    (generation : ((s.turn t module on k' m' instances events).context j).generation =
      (s.context j).generation) :
    s.SameLoads (s.turn t module on k' m' instances events) j := by
  refine ⟨fun u n loaded => ?_, loads_set work.before same, generation, fun x hx hj g hg => ?_⟩
  · obtain ⟨k₁, hu, hk₁⟩ := loaded
    rcases of_getElem?_set hu with ⟨rfl, rfl⟩ | ⟨-, hu⟩
    · exact ⟨k, work.before, same.symm.trans hk₁⟩
    · exact ⟨k₁, hu, hk₁⟩
  · rcases mem_turn_history.mp hx with ⟨e, he, rfl⟩ | old
    · obtain rfl : e = .built g := hg
      exact absurd (List.mem_filter.mpr ⟨he, rfl⟩) (none hj g)
    · exact old

variable (work : s.Work t k k' j m m' instances events)
  (tended' : Tended j (s.turn t j on k' m' instances events)) (code : m.code = .handler handler)
include work tended' code

/-- A thread that has come to a lifecycle entry of the module is where it can be, and is there for
an instance. -/
theorem Work.entry {hook : Hook} {h : HookStage} (hk : k'.hook? = some (hook, h)) :
    h.Fits hook ∧ k'.direct? = none ∧ k'.module? instances = some j := by
  have home : k'.module? instances = some j := by
    rcases work.home' with home | ⟨none, -⟩
    · exact home
    · cases none.symm.trans hk
  have mine := work.mine on
  refine ⟨tended'.run.fits_handler mine hk home (work.found' on) (work.code.code.trans code), ?_, home⟩
  cases hd : k'.direct? with
  | none => rfl
  | some module =>
    obtain rfl := Option.some.inj ((Task.module?_of_direct hd).symm.trans home)
    exact absurd hd (tended'.indirect mine)

theorem Work.brings {o : Opening} {h : HookStage} {g : Nat}
    (turn : s.Turn t (s.turn t j on k' m' instances events)) (hk : k = .opening o (.loading n h))
    (hj : o.module = j) (starting : h.hold = .starting) (built : .built g ∈ events) :
    k'.loaded? j ≠ k.loaded? j := by
  subst hk
  cases work.hook with
  | outside before => cases (before .load h rfl).symm.trans starting
  | inside hook h₁ h' before entry hstep =>
    cases before
    cases h with
    | initializing p =>
      rw [HookStage.initializing_built code hstep built] at entry
      obtain ⟨o', n', rfl⟩ := Task.opening_of_load entry (work.entry tended' code entry).2.1
      obtain ⟨st, old, -⟩ := turn.opens (work.mine on)
      obtain ⟨rfl, rfl⟩ := Task.opening.inj (Option.some.inj (work.before.symm.trans old))
      intro same
      simp only [Task.loaded?, hj, if_true] at same
      cases same
    | _ => cases starting

/-- Whoever begins to shut a value down does so in `OnUnload` of an instance. -/
theorem Work.closes {g : Nat} (entered : ∃ hook h, k.hook? = some (hook, h))
    (waiting : k.hold = .waiting) (closing : k'.hold = .closing g) :
    ∃ (why : Task.Reason) (n inside : Nat) (h : HookStage) (i : Instance),
      k'.shutdown? = some (why, n, .unloading inside h) ∧ h ≠ .entering ∧
        instances[n]? = some i ∧ i.module = j := by
  obtain ⟨hook₀, h₀, entered⟩ := entered
  cases work.hook with
  | outside before =>
    rw [Task.hold_of_hook entered, before hook₀ h₀ entered] at waiting
    cases waiting
  | inside hook h h' before entry hstep =>
    obtain ⟨fits, indirect, home⟩ := work.entry tended' code entry
    rw [Task.hold_of_hook entry] at closing
    cases h' with
    | closing v p =>
      obtain rfl : hook = .unload := fits
      obtain ⟨why, n, inside, hk⟩ := Task.shutdown_of_unload entry indirect
      rw [Task.module?, (Task.on?_of_shutdown hk).1] at home
      obtain ⟨i, hi, hj⟩ := Option.map_eq_some_iff.mp home
      exact ⟨why, n, inside, _, i, hk, by simp, hi, hj⟩
    | _ => cases closing

/-- What a turn in the module does to its value, where it brings no load through. -/
theorem Work.turnover (turn : s.Turn t (s.turn t j on k' m' instances events))
    (tended : Tended j s) (prompt : s.Prompt j) (same : k'.loaded? j = k.loaded? j) :
    s.Turnover (s.turn t j on k' m' instances events) j := by
  have hr := tended.run
  have was : s.context j = m.context := by simp [System.context, work.found]
  have now : (s.turn t j on k' m' instances events).context j = m'.context := by
    rw [context_turn work.found, if_pos rfl]
  have free : k.hold.writes = true → m.context.slot.value? = none := by
    intro writes
    rw [← was]
    refine ((hr.sound j).locks.writer (List.countP_pos_iff.mpr ⟨k.hold, ?_, writes⟩)).2
    refine List.mem_map.mpr ⟨k, List.mem_of_getElem? work.before, ?_⟩
    simp [Task.holdOn, work.home]
  have holder := tended.holder prompt work.found code work.before work.home
  rcases work.step.turnover free with ⟨value, generation, none⟩ | ⟨hold, g, built⟩ |
    ⟨hold, ⟨g, closing⟩, value, generation, none⟩
  · exact .kept (work.sameLoads same (fun _ => none) (by rw [now, was, generation]))
      (by rw [now, was, value])
  · have built : .built g ∈ events := (List.mem_filter.mp built).1
    rcases holder (by rw [hold]; rfl) with ⟨o, n, h, rfl, hj⟩ | ⟨why, n, inside, h, hk⟩
    · exact absurd same (work.brings tended' code turn rfl hj hold built)
    · -- No unload starts a handler.
      have entry := Task.hook_of_shutdown hk
      have fits := hr.fits_handler work.before entry work.home work.found code
      rw [Task.hold_of_hook entry] at hold
      cases h with
      | initializing p => cases fits
      | _ => cases hold
  · have entered : ∃ hook h, k.hook? = some (hook, h) := by
      rcases holder (by rw [hold]; rfl) with ⟨o, n, h, rfl, -⟩ | ⟨why, n, inside, h, hk⟩
      · exact ⟨_, _, rfl⟩
      · exact ⟨_, _, Task.hook_of_shutdown hk⟩
    obtain ⟨why, n, inside, h, i, hk, begun, hi, hj⟩ := work.closes tended' code entered hold closing
    exact .closed t n inside i k' why h
      (work.sameLoads same (fun _ => none) (by rw [now, was, generation])) (by rw [now, value])
      (work.mine on) hk begun hi hj

end

/-! ## All moves -/

theorem SameLoads.still
    (threads : ∀ (t : Nat) (k : Task), s'.threads[t]? = some k →
      s.threads[t]? = some k ∨ k.loaded? j = none)
    (loads : s'.loads j = s.loads j) (context : s'.context j = s.context j)
    (history : ∀ x ∈ s'.history, x.module = j → x ∈ s.history) : s.SameLoads s' j := by
  refine ⟨fun t n loaded => ?_, loads, by rw [context], fun x hx hj g _ => history x hx hj⟩
  obtain ⟨k, ht, hk⟩ := loaded
  rcases threads t k ht with old | none
  · exact ⟨k, old, hk⟩
  · cases hk.symm.trans none

/-- **All moves in a tended module.** -/
theorem Move.turnover {handler : Handler} (tended : Tended j s) (tended' : Tended j s')
    (code : ∀ m, s.modules[j]? = some m → m.code = .handler handler) (prompt : s.Prompt j)
    (empty : s.EmptyAtLoad j) (hm : Move s s') : s.Turnover s' j := by
  cases hm with
  | install m hm =>
    have context := context_addModule hm (s := s) j
    exact .kept (.still (fun t k ht => .inl ht) rfl context fun x hx _ => hx) (by rw [context])
  | begin k hnew _ =>
    refine .kept (.still (fun t k' ht => ?_) ?_ rfl fun x hx _ => hx) rfl
    · rcases of_getElem?_concat ht with ht | ⟨rfl, -⟩
      · exact .inl ht
      · exact .inr (hnew.loaded? j)
    · simp [loads, spawn, hnew.loaded? j]
  | again t c d r ht _ hnew _ =>
    refine .kept (.still (fun u k hu => ?_) ?_ rfl fun x hx _ => hx) rfl
    · rcases of_getElem?_set hu with ⟨-, rfl⟩ | ⟨-, hu⟩
      · exact .inr rfl
      · exact .inl hu
    · exact loads_set ht rfl
  | step _ t hs =>
    have turn := step_cases hs
    obtain ⟨k, k', ht, after, same | ⟨n, o, builds⟩⟩ := turn.loads tended code empty
    · obtain ⟨k₁, k₁', module, on, m, m', instances, events, rfl, work⟩ :=
        turn.work tended.run.orderly
      obtain rfl := Option.some.inj (ht.symm.trans work.before)
      obtain rfl : k' = k₁' := by
        have mine := work.mine on
        rw [after, List.getElem?_set_self (List.getElem?_eq_some_iff.mp ht).1] at mine
        exact Option.some.inj mine
      by_cases hj : module = j
      · subst hj
        exact work.turnover tended' (code m work.found) turn tended prompt same
      · have context : (s.turn t module on k' m' instances events).context j = s.context j := by
          rw [context_turn work.found, if_neg hj]
        exact .kept (work.sameLoads same (fun here => absurd here hj) (by rw [context]))
          (by rw [context])
    · exact .built t n o builds

end System

end ModuleHost
