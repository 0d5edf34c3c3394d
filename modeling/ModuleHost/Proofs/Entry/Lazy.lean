import ModuleHost.Proofs.Entry.Dropped
import ModuleHost.Proofs.Entry.Torn
import ModuleHost.Proofs.Tenancy.Turnover
import ModuleHost.Proofs.Timeline

/-!
# Starts that wait for a request

A request starts a handler where nobody has loaded the module. It also does so after an `OnLoad` that
failed, which leaves the module fresh whatever it was before, torn down too (`loaded_then_requested`).
There is no other way: where an `OnLoad` came to its end before, the last thing that happened to the
module is an `OnLoad` that failed (`requested_start`).
-/
namespace ModuleHost

open Boundary

namespace HookStage

variable {m m' : Module} {h : Handler} {stage stage' : HookStage} {events : List Event}

/-- How `OnLoad` of a handler module comes to its end: with a value, or with none and a fresh slot. -/
theorem load_returned {code : Int} (handler : m.code = .handler h) (fits : stage.Fits .load)
    (hs : stage.step .load m = some (.returned code, m', events)) :
    code = loadOk ∧ m'.context.phase = .live ∨ code = loadFailed ∧ m'.context.phase = .fresh := by
  cases stage with
  | entering => simp [step, start, handler] at hs
  | claiming => simp [step] at hs
  | draining =>
    simp only [step, handler] at hs
    split at hs
    · cases slot : m.context.slot with
      | live v =>
        simp only [locked, slot, Option.some.injEq, Prod.mk.injEq, returned.injEq] at hs
        obtain ⟨rfl, rfl, -⟩ := hs
        exact .inl ⟨rfl, by
          simp [Module.setContext, Context.releaseWrite, Context.phase, slot, Slot.phase]⟩
      | fresh | tornDown => simp [locked, slot] at hs
    · cases hs
  | initializing p =>
    cases p with
    | ask => cases hs
    | ret r =>
      simp only [step, afterStart_quiet handler] at hs
      cases r with
      | ok u => cases hs; exact .inl ⟨rfl, rfl⟩
      | error e => cases hs; exact .inr ⟨rfl, rfl⟩
    | panic p =>
      simp only [step, afterStart_quiet handler] at hs
      cases hs
      exact .inr ⟨rfl, rfl⟩
  | closing | dropping | plain | escaped | unwinding => cases fits
  | returned => cases hs

theorem initializing_fresh {p : SelfProgram (Except String Unit)} {hook : Hook}
    (handler : m.code = .handler h) (hs : (initializing p).step hook m = some (stage', m', events))
    (fresh : m'.context.phase = .fresh) :
    m.context.phase = .fresh ∨ stage' = .returned loadFailed := by
  cases p with
  | ask o next =>
    simp only [step, Option.some.injEq, Prod.mk.injEq] at hs
    obtain ⟨-, rfl, -⟩ := hs
    have same := congrArg Context.phase (SelfOp.perform_context m o)
    exact .inl (same.symm.trans fresh)
  | ret r =>
    simp only [step, afterStart_quiet handler] at hs
    cases hs
    cases r with
    | ok u => cases fresh
    | error e => exact .inr rfl
  | panic p =>
    simp only [step, afterStart_quiet handler] at hs
    cases hs
    exact .inr rfl

end HookStage

namespace Context

/-- A slot becomes fresh only where a start ends. -/
theorem Step.fresh {c c' : Context} {σ σ' : Hold} {marks : List Event} (hs : c.Step σ marks c' σ')
    (fresh : c'.phase = .fresh) : c.phase = .fresh ∨ σ = .starting := by
  cases hs with
  | stay slot _ phase _ => exact .inl (phase.symm.trans fresh)
  | built | failed => exact .inr rfl
  | pass slot _ hslot =>
    rcases hslot with rfl | ⟨-, rfl⟩
    · exact .inl fresh
    · cases fresh
  | close => cases fresh
  | claim | start | broke | drop | finish | enter | leave | abandon => exact .inl fresh

end Context

namespace System

variable {s s' : System} {j : Nat} {h : Handler}

/-- From one state to the other, a thread comes to the end of `OnLoad` of module `j`, with this
code. -/
def LoadEnds (s s' : System) (j : Nat) (code : Int) : Prop :=
  ∃ (t : Nat) (k k' : Task) (stage : HookStage), s.threads[t]? = some k ∧
    k.module? s.instances = some j ∧ k.hook? = some (.load, stage) ∧
    (∀ code, stage ≠ .returned code) ∧ s'.threads[t]? = some k' ∧
    k'.hook? = some (.load, .returned code)

theorem not_loadEnds_self (s : System) (j : Nat) (code : Int) : ¬ s.LoadEnds s j code := by
  rintro ⟨t, k, k', stage, ht, -, hk, inside, ht', hk'⟩
  cases ht.symm.trans ht'
  cases hk.symm.trans hk'
  exact inside code rfl

/-- Whether module `j`, if it is there, is handler `h`. -/
def IsHandler (s : System) (j : Nat) (h : Handler) : Prop :=
  ∀ m, s.modules[j]? = some m → m.code = .handler h

/-- An `OnLoad` that comes to its end leaves a value, or it failed and leaves the module fresh. -/
theorem LoadEnds.phase {code : Int} (hr : Run s) (hm : Move s s') (handler : s.IsHandler j h)
    (ends : s.LoadEnds s' j code) :
    code = loadOk ∧ (s'.context j).phase = .live ∨
      code = loadFailed ∧ (s'.context j).phase = .fresh := by
  obtain ⟨t, k, k', stage, ht, home, hk, inside, ht', hk'⟩ := ends
  rcases hm.task_after ht' with old | new | hs
  · cases ht.symm.trans old
    cases hk.symm.trans hk'
    exact absurd rfl (inside code)
  · cases new.hook hk'
  · obtain ⟨k₁, k₂, module, on, m, m', instances, events, rfl, work⟩ := (step_cases hs).work hr.orderly
    cases work.before.symm.trans ht
    cases (work.mine on).symm.trans ht'
    obtain rfl := Option.some.inj (work.home.symm.trans home)
    rw [context_turn work.found, if_pos rfl]
    cases work.hook with
    | outside _ after => cases after _ _ hk'
    | inside hook stage₁ stage₂ before after hstep =>
      cases before.symm.trans hk
      cases after.symm.trans hk'
      have code := handler m work.found
      exact HookStage.load_returned code (hr.fits_handler ht hk home work.found code) hstep

/-- A module becomes fresh only by an `OnLoad` that fails. -/
theorem Move.fresh (hr : Run s) (hm : Move s s') (handler : s.IsHandler j h)
    (fresh : (s'.context j).phase = .fresh) :
    (s.context j).phase = .fresh ∨ s.LoadEnds s' j loadFailed := by
  cases hm with
  | install m hm =>
    rw [context_addModule hm] at fresh
    exact .inl fresh
  | begin | again => exact .inl fresh
  | step _ t hs =>
    obtain ⟨k, k', module, on, m, m', instances, events, rfl, work⟩ := (step_cases hs).work hr.orderly
    rw [context_turn work.found] at fresh
    by_cases here : module = j
    · subst here
      rw [if_pos rfl] at fresh
      have context : s.context module = m.context := by simp [System.context, work.found]
      rw [context]
      rcases work.step.fresh fresh with before | starting
      · exact .inl before
      have code := handler m work.found
      rcases Task.hook_or_visit (k := k) (by simp [starting]) with ⟨hook, stage, hk⟩ | ⟨v, hv⟩
      · rw [Task.hold_of_hook hk] at starting
        obtain ⟨p, rfl⟩ : ∃ p, stage = .initializing p := by
          cases stage <;> cases starting
          exact ⟨_, rfl⟩
        obtain rfl : hook = .load := hr.fits_handler work.before hk work.home work.found code
        cases work.hook with
        | outside before _ => cases before _ _ hk
        | inside hook' stage₁ stage' before after hstep =>
          cases before.symm.trans hk
          refine (HookStage.initializing_fresh code hstep fresh).imp_right fun failed => ?_
          subst failed
          exact ⟨t, k, k', _, work.before, work.home, hk, by simp, work.mine on, after⟩
      · rw [Task.hold_of_visit hv] at starting
        obtain ⟨p, i, stage⟩ : ∃ p i, v.stage = .initializing p i := by
          cases stage : v.stage <;> rw [stage] at starting <;> cases starting
          exact ⟨_, _, rfl⟩
        have before := hr.starting_fresh (t := t) (j := module)
          ⟨k, work.before, .inl hv, work.home⟩ stage
        exact .inl (context ▸ before)
    · rw [if_neg here] at fresh
      exact .inl fresh

end System

namespace Timeline

variable {τ : Timeline} {j a b : Nat} {h : Handler}

/-- At moment `c` an `OnLoad` of module `j` comes to its end, with this code. -/
def LoadEnds (τ : Timeline) (j c : Nat) (code : Int) : Prop :=
  (τ.state c).LoadEnds (τ.state (c + 1)) j code

/-- Whether module `j` is fresh at moment `b`, since an `OnLoad` failed at moment `c`. -/
structure FailedAt (τ : Timeline) (j c b : Nat) : Prop where
  before : c < b
  ends : τ.LoadEnds j c loadFailed
  fresh : ∀ d, c < d → d ≤ b → ((τ.state d).context j).phase = .fresh

theorem isHandler (code : (τ.state b).HasHandler j h) (hab : a ≤ b) :
    (τ.state a).IsHandler j h := by
  intro m found
  obtain ⟨m₁, found₁, same⟩ := τ.onward (P := fun s => ∃ m₁, s.modules[j]? = some m₁ ∧ m₁.code = m.code)
    ⟨m, found, rfl⟩ (fun s s' hr ⟨m₁, found₁, same⟩ hm => by
      obtain ⟨m₂, found₂, kept⟩ := hm.code hr found₁
      exact ⟨m₂, found₂, kept.code.trans same⟩) hab
  exact same.symm.trans (code.code found₁)

theorem FailedAt.next {c : Nat} (failed : τ.FailedAt j c b)
    (fresh : ((τ.state (b + 1)).context j).phase = .fresh) : τ.FailedAt j c (b + 1) where
  before := Nat.lt_succ_of_lt failed.before
  ends := failed.ends
  fresh d later high := by
    rcases Nat.le_or_eq_of_le_succ high with old | rfl
    · exact failed.fresh d later old
    · exact fresh

/-- A module that is fresh has been so all the time, or since an `OnLoad` failed. -/
theorem fresh_since (hab : a ≤ b) (handler : ∀ d, d < b → (τ.state d).IsHandler j h)
    (fresh : ((τ.state b).context j).phase = .fresh) :
    (∀ d, a ≤ d → d ≤ b → ((τ.state d).context j).phase = .fresh) ∨
      ∃ c, a ≤ c ∧ τ.FailedAt j c b := by
  induction hab with
  | refl => exact .inl fun d low high => Nat.le_antisymm low high ▸ fresh
  | @step b hab ih =>
    have back : ((τ.state b).context j).phase = .fresh ∨ τ.LoadEnds j b loadFailed := by
      rcases τ.move b with rests | moves
      · rw [rests] at fresh
        exact .inl fresh
      · exact moves.fresh (τ.run b) (handler b (Nat.lt_succ_self b)) fresh
    rcases back with before | ends
    · rcases ih (fun d hd => handler d (Nat.lt_succ_of_lt hd)) before with all | ⟨c, low, failed⟩
      · refine .inl fun d low high => ?_
        rcases Nat.le_or_eq_of_le_succ high with old | rfl
        · exact all d low old
        · exact fresh
      · exact .inr ⟨c, low, failed.next fresh⟩
    · refine .inr ⟨b, hab, Nat.lt_succ_self b, ends, fun d later high => ?_⟩
      obtain rfl := Nat.le_antisymm high later
      exact fresh

/-- **When a request starts a handler**: the module is fresh. If an `OnLoad` of it has come to its end
before, or the module was live or torn down before, then an `OnLoad` has failed since, and the module
has been fresh ever after that. -/
theorem requested_start {t : Nat} {v : Visit} {p : ModuleProgram Unit}
    {i : SelfProgram (Except String Unit)} (code : (τ.state b).HasHandler j h)
    (here : (τ.state b).Attends t j v) (starting : v.stage = .initializing p i) :
    ((τ.state b).context j).phase = .fresh ∧
      ∀ a, a < b →
        (∃ code, τ.LoadEnds j a code) ∨ ((τ.state a).context j).phase ≠ .fresh →
        ∃ c, a ≤ c ∧ τ.FailedAt j c b := by
  have fresh := (τ.run b).starting_fresh here starting
  refine ⟨fresh, fun a hab was => ?_⟩
  have handler : ∀ d, d < b → (τ.state d).IsHandler j h := fun d hd => isHandler code hd.le
  rcases fresh_since hab.le handler fresh with all | failed
  · rcases was with ⟨result, ends⟩ | other
    · have phase : result = loadOk ∧ ((τ.state (a + 1)).context j).phase = .live ∨
          result = loadFailed ∧ ((τ.state (a + 1)).context j).phase = .fresh := by
        rcases τ.move a with rests | moves
        · rw [LoadEnds, rests] at ends
          exact absurd ends (System.not_loadEnds_self _ j result)
        · exact ends.phase (τ.run a) moves (handler a hab)
      rcases phase with ⟨-, live⟩ | ⟨rfl, -⟩
      · cases live.symm.trans (all (a + 1) (Nat.le_succ a) hab)
      · exact ⟨a, Nat.le_refl a, hab, ends, fun d later high => all d (Nat.le_of_lt later) high⟩
    · exact absurd (all a (Nat.le_refl a) hab.le) other
  · exact failed

end Timeline

/-! ## An OnLoad that fails, and a request after it -/

/-- Its second start fails, all others leave a value. -/
def sampleRelapsing : Handler :=
  { init := fun n => .ret (if n = 1 then .error "not ready" else .ok ()), handle := fun _ => .ret () }

namespace System

/-- Thread 0 is about to load the module, thread 1 to unload it, thread 2 to load it again, and
thread 3 to make a request. -/
def sampleReady : System :=
  ((((({} : System).addModule { code := .handler sampleRelapsing }).spawn
    (.hooking 0 .load .entering)).spawn (.hooking 0 .unload .entering)).spawn
    (.hooking 0 .load .entering)).spawn (.visiting 0 (sampleVisit false))

/-- The module was loaded and torn down. -/
def sampleTorn : System := (sampleReady.steps (List.replicate 4 0 ++ List.replicate 5 1)).getD {}

/-- The second `OnLoad` is about to fail. -/
def sampleFailing : System := (sampleTorn.steps (List.replicate 3 2)).getD {}

/-- The second `OnLoad` has failed. -/
def sampleUnready : System := (sampleFailing.steps [2]).getD {}

/-- The request is starting the handler. -/
def sampleRevived : System := (sampleUnready.steps (List.replicate 4 3)).getD {}

theorem run_sampleReady : Run sampleReady := by
  have installed : Run (({} : System).addModule { code := .handler sampleRelapsing }) :=
    Run.move (.refl {}) (.install _ _ rfl)
  have first := installed.move (.begin _ (.hooking 0 .load .entering) rfl (by simp [Task.on?]))
  have second := first.move (.begin _ (.hooking 0 .unload .entering) rfl (by simp [Task.on?]))
  have third := second.move (.begin _ (.hooking 0 .load .entering) rfl (by simp [Task.on?]))
  exact third.move (.begin _ (.visiting 0 (sampleVisit false)) rfl (by simp [Task.on?]))

theorem run_sampleTorn : Run sampleTorn :=
  run_sampleReady.later (later_of_steps (List.replicate 4 0 ++ List.replicate 5 1) rfl)

theorem later_sampleFailing : Later sampleTorn sampleFailing :=
  later_of_steps (List.replicate 3 2) rfl

theorem move_sampleUnready : Move sampleFailing sampleUnready := .step _ _ 2 rfl

theorem later_sampleRevived : Later sampleUnready sampleRevived :=
  later_of_steps (List.replicate 4 3) rfl

theorem starting_sampleRevived : ∃ v p i, sampleRevived.Attends 3 0 v ∧ v.stage = .initializing p i :=
  ⟨_, _, _, ⟨_, rfl, .inl rfl, rfl⟩, rfl⟩

/-- Not only a module that nobody has loaded is started by a request: this one has been loaded twice,
and the second `OnLoad` failed. -/
theorem loaded_then_requested : ¬ ∀ (s s' s'' : System) (j t : Nat) (h : Handler) (code : Int)
    (v : Visit) (p : ModuleProgram Unit) (i : SelfProgram (Except String Unit)), Run s →
    s.HasHandler j h → Move s s' → s.LoadEnds s' j code → Later s' s'' → s''.Attends t j v →
    v.stage ≠ .initializing p i := by
  intro never
  obtain ⟨v, p, i, here, starting⟩ := starting_sampleRevived
  have ends : sampleFailing.LoadEnds sampleUnready 0 loadFailed :=
    ⟨2, _, _, .initializing _, rfl, rfl, rfl, by simp, rfl, rfl⟩
  exact never sampleFailing sampleUnready sampleRevived 0 3 sampleRelapsing loadFailed v p i
    (run_sampleTorn.later later_sampleFailing) ⟨_, rfl, rfl⟩ move_sampleUnready ends later_sampleRevived
    here starting

theorem requested_start_sample : ∃ (τ : Timeline) (a b : Nat), τ.state a = sampleTorn ∧
    τ.state b = sampleRevived ∧ ((τ.state a).context 0).phase = .tornDown ∧
    ∃ c, a ≤ c ∧ τ.FailedAt 0 c b := by
  obtain ⟨τ, a, rests⟩ := run_sampleTorn.timeline
  have torn := rests a (Nat.le_refl a)
  have later : Later (τ.state a) sampleRevived :=
    torn ▸ later_sampleFailing.trans (move_sampleUnready.later.trans later_sampleRevived)
  obtain ⟨τ, b, hab, same, revived⟩ := τ.exists_later later
  rw [torn] at same
  obtain ⟨v, p, i, here, starting⟩ := starting_sampleRevived
  have phase : ((τ.state a).context 0).phase = .tornDown := same ▸ rfl
  obtain ⟨fresh, since⟩ := τ.requested_start (b := b) (h := sampleRelapsing)
    (revived ▸ ⟨_, rfl, rfl⟩) (revived ▸ here) starting
  have before : a < b := by
    refine Nat.lt_of_le_of_ne hab fun now => ?_
    rw [← now, phase] at fresh
    cases fresh
  exact ⟨τ, a, b, same, revived, phase, since a before (.inr (by simp [phase]))⟩

end System

end ModuleHost
