import ModuleHost.Proofs.Context.Generation

/-!
# Dispatches and the end of a value

Nobody shuts a handler value down or destroys it while a dispatch goes on, and nobody dispatches to
a value whose shutdown has begun (`teardown_excludes_dispatch`): the lock keeps readers and writers
apart, whichever instance a thread came through. So a value has answered all dispatches made to it
when its shutdown begins, and they are what the module's counter has counted since the value was
built (`ContextState.Since`).
-/
namespace ModuleHost

open Boundary

/-! ## Steps of a context -/

namespace Context.Step

variable {c c' : Context} {σ σ' : Hold} {marks : List Event} {g : Nat}

theorem of_built (h : c.Step σ marks c' σ') (hg : .built g ∈ marks) :
    g = c.generation + 1 ∧ c'.generation = g ∧ c'.calls = c.calls ∧ marks = [.built g] := by
  cases h with
  | built =>
    simp only [List.mem_singleton, Event.built.injEq] at hg
    subst hg
    exact ⟨rfl, rfl, rfl, rfl⟩
  | _ => simp at hg

theorem of_shutdownBegun (h : c.Step σ marks c' σ') (hg : .shutdownBegun g ∈ marks) :
    c.lock.readers = 0 ∧ c.slot.value? = some g := by
  cases h with
  | close v hzero hv =>
    simp only [List.mem_singleton, Event.shutdownBegun.injEq] at hg
    rw [hv, hg]
    exact ⟨hzero, rfl⟩
  | _ => simp at hg

theorem of_handlerBegun (h : c.Step σ marks c' σ') (hg : .handlerBegun g ∈ marks) :
    c.slot.value? = some g := by
  cases h with
  | enter l v hl hv =>
    simp only [List.mem_singleton, Event.handlerBegun.injEq] at hg
    rw [hv, hg]
    rfl
  | _ => simp at hg

end Context.Step

/-! ## Steps of the state -/

namespace ContextState

variable {b b' : ContextState}

theorem Step.of_mem (h : b.Step b') {new : List Event} (hnew : b'.marks = b.marks ++ new)
    {e : Event} (he : e ∈ new) : ∃ σ σ', b.context.Step σ new b'.context σ' := by
  cases h with
  | act t σ σ' c' marks found step =>
    obtain rfl := List.append_cancel_left hnew
    exact ⟨σ, σ', step⟩
  | join =>
    rw [List.self_eq_append_right.mp hnew] at he
    cases he

/-- Generation `g` was built when `calls` dispatches had been counted; from then on, all dispatches
are its own until the next one is built. -/
def Since (g calls : Nat) (b : ContextState) : Prop :=
  g < b.context.generation ∨
    b.context.generation = g ∧ b.context.calls = calls + b.marks.count (.handlerBegun g)

theorem Step.since (hs : b.Step b') (sound : b.Sound) {g calls : Nat} (h : b.Since g calls) :
    b'.Since g calls := by
  cases hs with
  | join => exact h
  | act t σ σ' c' marks found step =>
    -- A step that neither builds nor dispatches.
    have still : ∀ {marks : List Event}, c'.generation = b.context.generation →
        c'.calls = b.context.calls → marks.count (.handlerBegun g) = 0 →
        Since g calls ⟨c', b.holds.set t σ', b.marks ++ marks⟩ := by
      intro marks generation same none
      unfold Since
      rw [List.count_append, none, Nat.add_zero]
      simp only [generation, same]
      exact h
    cases step with
    | stay | claim | start | failed | broke | pass | close | drop | finish | leave | abandon =>
      exact still rfl rfl rfl
    | built =>
      left
      show g < b.context.generation + 1
      rcases h with later | ⟨now, -⟩ <;> omega
    | enter l v hl hv =>
      have now : v.generation = b.context.generation :=
        (sound.page v.generation).current (by rw [hv]; rfl)
      rcases h with later | ⟨generation, calls_eq⟩
      · exact .inl later
      · refine .inr ⟨generation, ?_⟩
        show b.context.calls + 1 = _
        rw [now, generation, count_snoc]
        omega

end ContextState

/-! ## Runs -/

namespace System

/-- Whether `e` is new in the log of module `j`. -/
def Adds (s s' : System) (j : Nat) (e : Event) : Prop :=
  ∃ new, s'.moduleLog j = s.moduleLog j ++ new ∧ e ∈ new

/-- Whether thread `t` goes from the shutdown of a value to its destructor. -/
def Destroys (s s' : System) (t j g : Nat) : Prop :=
  (s.holds j)[t]? = some (.closing g) ∧ (s'.holds j)[t]? = some (.dropping g)

/-- Whether the value of generation `g` was built just now. -/
def Born (s : System) (j g : Nat) : Prop :=
  ∃ s₀, Run s₀ ∧ Move s₀ s ∧ s₀.Adds s j (.built g)

/-- A move that leaves a context mark is a step of the module's context. -/
theorem Move.adds {s s' : System} (hr : Run s) (hm : Move s s') {j : Nat} {e : Event}
    (he : e.ofContext = true) (h : s.Adds s' j e) :
    ∃ σ σ' new, (s'.contextState j).marks = (s.contextState j).marks ++ new ∧ e ∈ new ∧
      (s.context j).Step σ new (s'.context j) σ' := by
  obtain ⟨new, hnew, mem⟩ := h
  have marks : (s'.contextState j).marks = (s.contextState j).marks ++ contextMarks new := by
    simp only [System.contextState, hnew, contextMarks, List.filter_append]
  have mem : e ∈ contextMarks new := List.mem_filter.mpr ⟨mem, he⟩
  rcases hm.contextState hr.orderly j with same | step
  · rw [same] at marks
    rw [List.self_eq_append_right.mp marks] at mem
    cases mem
  · obtain ⟨σ, σ', step⟩ := step.of_mem marks mem
    exact ⟨σ, σ', _, marks, mem, step⟩

/-- Where no reader is counted, no handler runs, and all dispatches have ended. -/
theorem Run.quiet {s : System} (hr : Run s) {j : Nat} (empty : (s.context j).lock.readers = 0) :
    (∀ g, .reading g ∉ s.holds j) ∧ ∀ g,
      (s.moduleLog j).count (.handlerBegun g) = (s.moduleLog j).count (.handlerEnded g) := by
  refine ⟨fun g => ?_, fun g => ?_⟩
  · have locks := (hr.sound j).locks
    rw [show (s.contextState j).context.lock.readers = 0 from empty] at locks
    exact locks.no_reading g
  · rw [(hr.page j g).served, empty, ite_self, Nat.add_zero]

theorem Run.origin {s : System} (hr : Run s) {j : Nat} {e : Event} (he : e ∈ s.moduleLog j) :
    ∃ s₀ s₁, Run s₀ ∧ Move s₀ s₁ ∧ s₀.Adds s₁ j e ∧ Later s₁ s := by
  refine hr.induction (P := fun s => e ∈ s.moduleLog j →
    ∃ s₀ s₁, Run s₀ ∧ Move s₀ s₁ ∧ s₀.Adds s₁ j e ∧ Later s₁ s) (by simp [moduleLog, log])
    (fun s s' hr ih hm he => ?_) he
  obtain ⟨new, grown⟩ := hm.log (fun _ module _ => module == j)
  have grown : s'.moduleLog j = s.moduleLog j ++ new := grown
  rw [grown] at he
  rcases List.mem_append.mp he with old | added
  · obtain ⟨s₀, s₁, run, move, adds, later⟩ := ih old
    exact ⟨s₀, s₁, run, move, adds, later.trans hm.later⟩
  · exact ⟨s, s', hr, hm, ⟨new, grown, added⟩, .refl s'⟩

/-- The dispatches counted since a value was built are its own. -/
theorem Born.since {s s' : System} {j g : Nat} (h : s.Born j g) (hl : Later s s') :
    (s'.contextState j).Since g (s.context j).calls := by
  obtain ⟨s₀, hr, hm, adds⟩ := h
  have run := hr.move hm
  refine hl.induction (P := fun s' => (s'.contextState j).Since g (s.context j).calls) ?_
    fun s₁ s₂ hl since hm => ?_
  · obtain ⟨σ, σ', new, marks, mem, step⟩ := hm.adds hr rfl adds
    obtain ⟨next, generation, -, rfl⟩ := step.of_built mem
    refine .inr ⟨generation, ?_⟩
    have unborn : (s₀.contextState j).marks.count (.handlerBegun g) = 0 :=
      ((hr.sound j).page g).unborn (by rw [next]; exact Nat.lt_succ_self _)
    rw [marks, count_snoc_of_ne (by simp), unborn]
    rfl
  · rcases hm.contextState (run.later hl).orderly j with same | step
    · rw [same]
      exact since
    · exact step.since ((run.later hl).sound j) since

/-- **Teardown excludes dispatches.** In every run, whichever instances the threads come through,
a shutdown or a destructor starts only when no handler runs and every dispatch has ended; no dispatch
starts on a value whose shutdown has begun; and a value has then got just the dispatches that were
counted since it was built. -/
theorem teardown_excludes_dispatch {s s' : System} {t : Nat} (hr : Run s)
    (hs : s.step t = some s') (j g : Nat) :
    (s.Adds s' j (.shutdownBegun g) ∨ s.Destroys s' t j g →
      (∀ g', .reading g' ∉ s.holds j) ∧
        ∀ g', (s.moduleLog j).count (.handlerBegun g') = (s.moduleLog j).count (.handlerEnded g')) ∧
    (s.Adds s' j (.handlerBegun g) →
      .shutdownBegun g ∉ s.moduleLog j ∧ .dropped g ∉ s.moduleLog j) ∧
    (s.Adds s' j (.shutdownBegun g) →
      (∃ s₁, s₁.Born j g ∧ Later s₁ s) ∧
        ∀ s₁, s₁.Born j g → Later s₁ s → (s.context j).calls =
          (s₁.context j).calls + (s.moduleLog j).count (.handlerBegun g)) := by
  have hm := Move.step s s' t hs
  refine ⟨fun teardown => hr.quiet ?_, fun begins => ?_, fun closes => ?_⟩
  · rcases teardown with closes | ⟨closing, -⟩
    · obtain ⟨σ, σ', new, -, mem, step⟩ := hm.adds hr rfl closes
      exact (step.of_shutdownBegun mem).1
    · have writing : 0 < (s.holds j).countP Hold.writes :=
        List.countP_pos_iff.mpr ⟨_, List.mem_of_getElem? closing, rfl⟩
      exact ((hr.sound j).locks.writer writing).1
  · obtain ⟨σ, σ', new, -, mem, step⟩ := hm.adds hr rfl begins
    have page := hr.page j g
    rw [step.of_handlerBegun mem] at page
    exact ⟨List.count_eq_zero.mp page.held.2.1, List.count_eq_zero.mp page.held.2.2⟩
  · obtain ⟨σ, σ', new, -, mem, step⟩ := hm.adds hr rfl closes
    have page := hr.page j g
    rw [(step.of_shutdownBegun mem).2] at page
    have built : .built g ∈ s.moduleLog j := List.count_pos_iff.mp (by rw [page.held.1]; decide)
    obtain ⟨s₀, s₁, run, move, adds, later⟩ := hr.origin built
    refine ⟨⟨s₁, ⟨s₀, run, move, adds⟩, later⟩, fun s₁ born later => ?_⟩
    rw [← count_contextMarks (e := .handlerBegun g) rfl]
    rcases born.since later with past | ⟨-, calls⟩
    · have now : g = (s.contextState j).context.generation := page.current rfl
      omega
    · exact calls

/-- In the short run, thread 0 is at the end of the start of the first value. -/
def sampleStarted : System :=
  (((({} : System).addModule .sample).spawn (.opening sampleOpening .arriving)).steps
    (List.replicate 8 0)).getD {}

def sampleBorn : System := (sampleStarted.step 0).getD {}

/-- Thread 1 has made its call, and thread 2 has the lock to itself. -/
def sampleServed : System :=
  (sampleBusy.steps (List.replicate 7 1 ++ List.replicate 4 2)).getD {}

def sampleClosing : System := (sampleServed.step 2).getD {}

theorem run_sampleStarted : Run sampleStarted :=
  (run_opening (m := .sample) rfl).later (later_of_steps (List.replicate 8 0) rfl)

theorem born_sampleBorn : sampleBorn.Born 0 1 :=
  ⟨sampleStarted, run_sampleStarted, .step _ _ 0 rfl,
    [.built 1, .notice (.contextInitialized 1)], by decide +kernel, by simp⟩

theorem later_sampleServed : Later sampleBorn sampleServed := by
  have opened : Later sampleBorn sample := later_of_steps [0, 0] rfl
  have served : Later sampleBusy sampleServed :=
    later_of_steps (List.replicate 7 1 ++ List.replicate 4 2) rfl
  exact (opened.trans later_sampleBusy).trans served

theorem teardown_excludes_dispatch_sample :
    Run sampleServed ∧ sampleServed.step 2 = some sampleClosing ∧
      sampleServed.Adds sampleClosing 0 (.shutdownBegun 1) ∧
      (∀ g, .reading g ∉ sampleServed.holds 0) ∧
      (sampleServed.context 0).calls = (sampleBorn.context 0).calls + 1 := by
  have run : Run sampleServed :=
    (run_sampleStarted.move (.step _ sampleBorn 0 rfl)).later later_sampleServed
  have step : sampleServed.step 2 = some sampleClosing := rfl
  have closes : sampleServed.Adds sampleClosing 0 (.shutdownBegun 1) :=
    ⟨[.shutdownBegun 1], by decide +kernel, List.mem_singleton.mpr rfl⟩
  obtain ⟨alone, -, counted⟩ := teardown_excludes_dispatch run step 0 1
  obtain ⟨-, calls⟩ := counted closes
  have one : (sampleServed.moduleLog 0).count (.handlerBegun 1) = 1 := by decide +kernel
  refine ⟨run, step, closes, (alone (.inl closes)).1, ?_⟩
  rw [calls sampleBorn born_sampleBorn later_sampleServed, one]

end System

end ModuleHost
