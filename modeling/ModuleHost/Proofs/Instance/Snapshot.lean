import ModuleHost.Proofs.Instance.Counters
import ModuleHost.Proofs.Instance.Fields

/-!
# What a reader of the counters is told

The machine does to a gate in one step what threads do in a section of several accesses, and a caller
of `stats` reads the four fields one after the other. `Fielded` is the machine with the fields of one
gate apart and a lock: threads come and go between any two accesses, and only the holder of the lock
makes accesses.

`Fielded.Sound` ties the fields to the machine: while the lock is free they are its gate, and while it
is held, what is left of the section has the outcome that the whole section has on its gate. So the
field machine does what the machine does (`Fielded.Step.sound`) and no less (`Fielded.follow`), and
`counters_agree` says that callers of `stats` are told counters that belong together.
-/
namespace ModuleHost

/-- Who holds the lock of the gate, and what is left of the section. -/
inductive Holder where
  | task (t : Nat) (p : FieldSection Task)
  /-- A caller of `stats`. -/
  | reader (p : FieldProgram Gate)

structure Fielded where
  /-- The machine. Of the one gate it shows what its fields were when the lock was last given back. -/
  base : System := {}
  cells : Gate := {}
  holder : Option Holder := none
  /-- What callers of `stats` have been told, the latest first. -/
  snapshots : List Gate := []

/-- A move for which nobody has to hold the lock of the gate of instance `n`. -/
def System.Passes (n : Nat) (s s' : System) : Prop :=
  s.Move s' ∧ ∀ (t : Nat) (k : Task) (i : Instance), s.step t = some s' → s.threads[t]? = some k →
    k.on? = some n → s.instances[n]? = some i → k.section? i.exports = none

inductive Fielded.Step (n : Nat) : Fielded → Fielded → Prop
  | pass (f : Fielded) (s' : System) : f.base.Passes n s' → Step n f { f with base := s' }
  | lock (f : Fielded) (t : Nat) (k : Task) (i : Instance) (p : FieldSection Task) :
      f.holder = none → f.base.threads[t]? = some k → k.on? = some n →
      f.base.instances[n]? = some i → k.section? i.exports = some p →
      Step n f { f with holder := some (.task t p) }
  | access (f : Fielded) (t : Nat) (o : FieldOp) (next : o.Answer → FieldSection Task) :
      f.holder = some (.task t (.ask o next)) →
      Step n f { f with cells := (o.perform f.cells).2,
                        holder := some (.task t (next (o.perform f.cells).1)) }
  | unlock (f : Fielded) (t : Nat) (go : Instance → Option (Task × List Event)) (i : Instance)
      (m : Module) (k : Task) (events : List Event) :
      f.holder = some (.task t (.ret go)) → f.base.instances[n]? = some i →
      f.base.modules[i.module]? = some m → go i = some (k, events) →
      Step n f { f with base := f.base.turn t i.module (some n) k m
                          (f.base.instances.set n { i with gate := f.cells }) events,
                        holder := none }
  /-- The thread has to wait, and gives the lock back. -/
  | wait (f : Fielded) (t : Nat) (go : Instance → Option (Task × List Event)) (i : Instance) :
      f.holder = some (.task t (.ret go)) → f.base.instances[n]? = some i → go i = none →
      Step n f { f with holder := none }
  | ask (f : Fielded) (i : Instance) : f.holder = none → f.base.instances[n]? = some i →
      Step n f { f with holder := some (.reader Gate.stats) }
  | read (f : Fielded) (o : FieldOp) (next : o.Answer → FieldProgram Gate) :
      f.holder = some (.reader (.ask o next)) →
      Step n f { f with cells := (o.perform f.cells).2,
                        holder := some (.reader (next (o.perform f.cells).1)) }
  | told (f : Fielded) (g : Gate) : f.holder = some (.reader (.ret g)) →
      Step n f { f with holder := none, snapshots := g :: f.snapshots }

namespace System.Passes

variable {s s' : System} {n : Nat} {i : Instance}

theorem gate (h : s.Passes n s') (hi : s.instances[n]? = some i) :
    ∃ i', s'.instances[n]? = some i' ∧ i'.gate = i.gate ∧ i.SameMake i' := by
  obtain ⟨move, apart⟩ := h
  cases move with
  | install | begin | again => exact ⟨i, hi, rfl, .refl i⟩
  | step _ t hs =>
    obtain ⟨k, k', i', ht, after, hi', sight⟩ := (step_cases hs).sight hi
    cases sight with
    | aside => exact ⟨i, hi', rfl, .refl i⟩
    | on i' m m' events hon hm hstep hlog =>
      have make := (Task.stepOn_spec hon hstep).1.make
      exact ⟨i', hi', Task.stepOn_gate (apart t k i hs ht hon hi) hstep, make⟩

theorem task {t : Nat} {k : Task} {p : FieldSection Task} (h : s.Passes n s')
    (hi : s.instances[n]? = some i) (ht : s.threads[t]? = some k) (hon : k.on? = some n)
    (hk : k.section? i.exports = some p) : s'.threads[t]? = some k := by
  rcases h.1.task_before ht with same | ⟨c, r, rfl, hdone⟩ | hs
  · exact same
  · simp [Task.section?, Call.section?, hdone] at hk
  · cases (h.2 t k i hs ht hon hi).symm.trans hk

end System.Passes

namespace Fielded

/-- How the fields of the gate of instance `n` stand to the machine. -/
structure Sound (n : Nat) (f : Fielded) : Prop where
  run : System.Run f.base
  absent : f.base.instances[n]? = none → f.cells = {} ∧ f.holder = none
  free : ∀ i, f.base.instances[n]? = some i → f.holder = none → f.cells = i.gate
  task : ∀ i t p, f.base.instances[n]? = some i → f.holder = some (.task t p) →
    ∃ k p₀, f.base.threads[t]? = some k ∧ k.on? = some n ∧ k.section? i.exports = some p₀ ∧
      p.alone f.cells = p₀.alone i.gate
  reader : ∀ i p, f.base.instances[n]? = some i → f.holder = some (.reader p) →
    p.alone f.cells = (.ok i.gate, i.gate)

variable {n : Nat} {f f' : Fielded}

theorem sound_start : Sound n {} := by
  refine ⟨.refl _, fun _ => ⟨rfl, rfl⟩, fun i hi => ?_, fun i t p hi => ?_, fun i p hi => ?_⟩
  · cases hi
  · cases hi
  · cases hi

theorem Sound.unlock (h : f.Sound n) {t : Nat} {go : Instance → Option (Task × List Event)}
    {i : Instance} {m : Module} (held : f.holder = some (.task t (.ret go)))
    (hi : f.base.instances[n]? = some i) (hm : f.base.modules[i.module]? = some m) :
    (∀ k events, go i = some (k, events) → f.base.step t =
      some (f.base.turn t i.module (some n) k m
        (f.base.instances.set n { i with gate := f.cells }) events)) ∧
    (go i = none → f.cells = i.gate) := by
  obtain ⟨k₀, p₀, ht, hon, hk₀, outcome⟩ := h.task i t _ hi held
  obtain ⟨go', g, alone, waits, hstep⟩ := Task.section_step hk₀ m
  rw [FieldProgram.alone_ret, alone] at outcome
  cases outcome
  refine ⟨fun k events hgo => ?_, waits⟩
  rw [hgo] at hstep
  exact System.step_late ht hon hi hm hstep

theorem Sound.present (h : f.Sound n) {who : Holder} (held : f.holder = some who) :
    ∃ i, f.base.instances[n]? = some i := by
  cases hi : f.base.instances[n]? with
  | some i => exact ⟨i, rfl⟩
  | none => cases (h.absent hi).2.symm.trans held

/-- A move beside the lock. -/
theorem Sound.pass (h : f.Sound n) {s' : System} (hp : f.base.Passes n s') :
    Sound n { f with base := s' } := by
  have back : ∀ i', s'.instances[n]? = some i' → ∀ i, f.base.instances[n]? = some i →
      i'.gate = i.gate ∧ i'.exports = i.exports := by
    intro i' hi' i hi
    obtain ⟨i₁, hi₁, gate, make⟩ := hp.gate hi
    obtain rfl := Option.some.inj (hi₁.symm.trans hi')
    exact ⟨gate, make.exports⟩
  refine ⟨h.run.move hp.1, fun none => ?_, fun i' hi' open₀ => ?_, fun i' t p hi' held => ?_,
    fun i' p hi' held => ?_⟩
  · refine h.absent ?_
    cases hi : f.base.instances[n]? with
    | none => rfl
    | some i =>
      obtain ⟨i', hi', -⟩ := hp.gate hi
      cases none.symm.trans hi'
  · cases hi : f.base.instances[n]? with
    | none =>
      rw [(hp.1.newborn h.run hi hi').1]
      exact (h.absent hi).1
    | some i =>
      rw [(back i' hi' i hi).1]
      exact h.free i hi open₀
  · obtain ⟨i, hi⟩ := h.present held
    obtain ⟨gate, exports⟩ := back i' hi' i hi
    obtain ⟨k, p₀, ht, hon, hk, outcome⟩ := h.task i t p hi held
    rw [gate, exports]
    exact ⟨k, p₀, hp.task hi ht hon hk, hon, hk, outcome⟩
  · obtain ⟨i, hi⟩ := h.present held
    rw [(back i' hi' i hi).1]
    exact h.reader i p hi held

/-- **The field machine does what the machine does**: each of its steps is a move or none, the fields
stay tied to the machine, and what a caller of `stats` is told is the gate as it is. -/
theorem Step.sound (h : Step n f f') (hs : f.Sound n) : f'.Sound n ∧
    (f'.base = f.base ∨ System.Move f.base f'.base) ∧
    ∀ g ∈ f'.snapshots, g ∈ f.snapshots ∨ ∃ i, f.base.instances[n]? = some i ∧ i.gate = g := by
  cases h with
  | pass s' hp => exact ⟨hs.pass hp, .inr hp.1, fun g hg => .inl hg⟩
  | lock t k i p open₀ ht hon hi hk =>
    refine ⟨⟨hs.run, fun none => ?_, fun i' hi' held => ?_, fun i' t' p' hi' held => ?_,
      fun i' p' hi' held => ?_⟩, .inl rfl, fun g hg => .inl hg⟩
    · cases hi.symm.trans none
    · cases held
    · obtain rfl := Option.some.inj (hi.symm.trans hi')
      cases held
      exact ⟨k, p, ht, hon, hk, by rw [hs.free i hi open₀]⟩
    · cases held
  | access t o next held =>
    refine ⟨⟨hs.run, fun none => ?_, fun i' hi' held' => ?_, fun i' t' p' hi' held' => ?_,
      fun i' p' hi' held' => ?_⟩, .inl rfl, fun g hg => .inl hg⟩
    · cases (hs.absent none).2.symm.trans held
    · cases held'
    · cases held'
      obtain ⟨k, p₀, ht, hon, hk, outcome⟩ := hs.task i' t _ hi' held
      exact ⟨k, p₀, ht, hon, hk, outcome⟩
    · cases held'
  | unlock t go i m k events held hi hm hgo =>
    have step := (hs.unlock held hi hm).1 k events hgo
    have here := (List.getElem?_eq_some_iff.mp hi).1
    refine ⟨⟨hs.run.step step, fun none => ?_, fun i' hi' _ => ?_, fun i' t' p' hi' held' => ?_,
      fun i' p' hi' held' => ?_⟩, .inr (.step _ _ t step), fun g hg => .inl hg⟩
    · simp [here] at none
    · simp only [System.turn_instances, List.getElem?_set_self here, Option.some.injEq] at hi'
      rw [← hi']
    · cases held'
    · cases held'
  | wait t go i held hi hgo =>
    obtain ⟨m, hm⟩ := hs.run.housed hi
    refine ⟨⟨hs.run, fun none => ?_, fun i' hi' _ => ?_, fun i' t' p' hi' held' => ?_,
      fun i' p' hi' held' => ?_⟩, .inl rfl, fun g hg => .inl hg⟩
    · cases hi.symm.trans none
    · obtain rfl := Option.some.inj (hi.symm.trans hi')
      exact (hs.unlock held hi hm).2 hgo
    · cases held'
    · cases held'
  | ask i open₀ hi =>
    refine ⟨⟨hs.run, fun none => ?_, fun i' hi' held' => ?_, fun i' t' p' hi' held' => ?_,
      fun i' p' hi' held' => ?_⟩, .inl rfl, fun g hg => .inl hg⟩
    · cases hi.symm.trans none
    · cases held'
    · cases held'
    · obtain rfl := Option.some.inj (hi.symm.trans hi')
      cases held'
      rw [hs.free i hi open₀]
      rfl
  | read o next held =>
    refine ⟨⟨hs.run, fun none => ?_, fun i' hi' held' => ?_, fun i' t' p' hi' held' => ?_,
      fun i' p' hi' held' => ?_⟩, .inl rfl, fun g hg => .inl hg⟩
    · cases (hs.absent none).2.symm.trans held
    · cases held'
    · cases held'
    · cases held'
      exact hs.reader i' _ hi' held
  | told g held =>
    obtain ⟨i, hi⟩ := hs.present held
    have outcome := hs.reader i _ hi held
    rw [FieldProgram.alone_ret, Prod.mk.injEq, Except.ok.injEq] at outcome
    obtain ⟨rfl, cells⟩ := outcome
    refine ⟨⟨hs.run, fun none => ?_, fun i' hi' _ => ?_, fun i' t' p' hi' held' => ?_,
      fun i' p' hi' held' => ?_⟩, .inl rfl, fun g hg => ?_⟩
    · cases hi.symm.trans none
    · obtain rfl := Option.some.inj (hi.symm.trans hi')
      exact cells
    · cases held'
    · cases held'
    · rcases List.mem_cons.mp hg with rfl | hg
      · exact .inr ⟨i, hi, rfl⟩
      · exact .inl hg

/-! ## The field machine does all that the machine does -/

/-- `f'` is reached from `f`, whatever is asked of the counters on the way. -/
def Reach (n : Nat) : Fielded → Fielded → Prop := Relation.ReflTransGen (Step n)

theorem Reach.sound (h : Reach n f f') (hs : f.Sound n) : f'.Sound n := by
  induction h with
  | refl => exact hs
  | tail _ last ih => exact (last.sound ih).1

/-- The holder of the lock can make all its accesses. -/
theorem accesses {t : Nat} {go : Instance → Option (Task × List Event)} {g : Gate}
    (p : FieldSection Task) : ∀ f : Fielded, f.holder = some (.task t p) →
      p.alone f.cells = (.ok go, g) →
      Reach n f { f with cells := g, holder := some (.task t (.ret go)) } := by
  induction p with
  | ret a =>
    intro f held outcome
    cases outcome
    rw [← held]
    exact .refl
  | panic q =>
    intro f held outcome
    cases outcome
  | ask o next ih =>
    intro f held outcome
    exact .head (.access f t o next held) (ih _ _ rfl outcome)

/-- **Each move is made by the field machine**, access by access where it needs the lock. -/
theorem follow (hs : f.Sound n) (open₀ : f.holder = none) {s' : System}
    (hm : System.Move f.base s') : ∃ f', Reach n f f' ∧ f'.base = s' ∧ f'.holder = none := by
  by_cases uses : ∃ t k i p, f.base.step t = some s' ∧ f.base.threads[t]? = some k ∧
    k.on? = some n ∧ f.base.instances[n]? = some i ∧ k.section? i.exports = some p
  · obtain ⟨t, k, i, p, step, ht, hon, hi, hk⟩ := uses
    obtain ⟨m, hmod⟩ := hs.run.housed hi
    obtain ⟨go, g, alone, -, hstep⟩ := Task.section_step hk m
    rw [← hs.free i hi open₀] at alone
    -- The thread takes the lock and makes its accesses; at their end it takes the step.
    have locked : Reach n f { f with holder := some (.task t p) } :=
      .single (.lock f t k i p open₀ ht hon hi hk)
    have accessed := locked.trans (accesses p _ rfl alone)
    have sound := Reach.sound accessed hs
    cases hgo : go i with
    | some next =>
      obtain ⟨k', events⟩ := next
      have same := (sound.unlock rfl hi hmod).1 k' events hgo
      refine ⟨_, accessed.tail (.unlock _ t go i m k' events rfl hi hmod hgo), ?_, rfl⟩
      exact Option.some.inj (same.symm.trans step)
    | none =>
      -- A thread that has to wait takes no step.
      rw [hgo] at hstep
      cases System.step_cases step with
      | early o st st' made m₁ m' events ht' hon' _ _ =>
        obtain rfl := Option.some.inj (ht.symm.trans ht')
        cases hon.symm.trans hon'
      | late k₁ k' n' i₁ i' m₁ m' events ht' hon' hi' hmod' hstep' =>
        obtain rfl := Option.some.inj (ht.symm.trans ht')
        obtain rfl := Option.some.inj (hon.symm.trans hon')
        obtain rfl := Option.some.inj (hi.symm.trans hi')
        obtain rfl := Option.some.inj (hmod.symm.trans hmod')
        cases hstep.symm.trans hstep'
      | direct k₁ k' module m₁ m' events ht' hd _ _ =>
        obtain rfl := Option.some.inj (ht.symm.trans ht')
        cases hon.symm.trans (Task.on?_of_direct hd)
  · refine ⟨_, .single (.pass f s' ⟨hm, fun t k i step ht hon hi => ?_⟩), rfl, open₀⟩
    cases hk : k.section? i.exports with
    | none => rfl
    | some p => exact absurd ⟨t, k, i, p, step, ht, hon, hi, hk⟩ uses

/-- The field machine comes to every state that a run comes to. -/
theorem covers {s : System} (h : System.Run s) (n : Nat) :
    ∃ f, Reach n {} f ∧ f.base = s ∧ f.holder = none := by
  induction h with
  | refl => exact ⟨{}, .refl, rfl, rfl⟩
  | tail _ hm ih =>
    obtain ⟨f, reach, rfl, open₀⟩ := ih
    obtain ⟨f', more, base, open'⟩ := follow (Reach.sound reach sound_start) open₀ hm
    exact ⟨f', reach.trans more, base, open'⟩

/-- Whenever the lock is free, a caller of `stats` can be told the gate. -/
theorem tells (hs : f.Sound n) (open₀ : f.holder = none) {i : Instance}
    (hi : f.base.instances[n]? = some i) :
    ∃ f', Reach n f f' ∧ f'.base = f.base ∧ i.gate ∈ f'.snapshots := by
  have cells := hs.free i hi open₀
  have asked : Reach n f { f with holder := some (.reader Gate.stats) } :=
    .single (.ask f i open₀ hi)
  have state := asked.tail (.read _ .state _ rfl)
  have served := state.tail (.read _ .served _ rfl)
  have inFlight := served.tail (.read _ .inFlight _ rfl)
  have peak := inFlight.tail (.read _ .peak _ rfl)
  refine ⟨_, peak.tail (.told _ f.cells rfl), rfl, ?_⟩
  rw [cells]
  exact List.mem_cons_self

end Fielded

/-- A run of the field machine, moment by moment. -/
structure FieldTimeline (n : Nat) where
  state : Nat → Fielded
  start : state 0 = {}
  step : ∀ j, state (j + 1) = state j ∨ Fielded.Step n (state j) (state (j + 1))

namespace FieldTimeline

variable {n : Nat}

theorem sound (φ : FieldTimeline n) (j : Nat) : (φ.state j).Sound n := by
  induction j with
  | zero =>
    rw [φ.start]
    exact Fielded.sound_start
  | succ j ih =>
    rcases φ.step j with rest | step
    · rw [rest]
      exact ih
    · exact (step.sound ih).1

/-- The run of the machine that goes with it. -/
def base (φ : FieldTimeline n) : Timeline where
  state j := (φ.state j).base
  start := by rw [φ.start]
  move j := by
    rcases φ.step j with rest | step
    · exact .inl (congrArg Fielded.base rest)
    · exact (step.sound (φ.sound j)).2.1

/-- What a caller of `stats` is told was the gate at some moment. -/
theorem snapshot (φ : FieldTimeline n) (j : Nat) : ∀ g ∈ (φ.state j).snapshots,
    ∃ a i, a ≤ j ∧ (φ.base.state a).instances[n]? = some i ∧ i.gate = g := by
  induction j with
  | zero =>
    intro g hg
    rw [φ.start] at hg
    cases hg
  | succ j ih =>
    intro g hg
    have earlier : g ∈ (φ.state j).snapshots →
        ∃ a i, a ≤ j + 1 ∧ (φ.base.state a).instances[n]? = some i ∧ i.gate = g := by
      intro hg
      obtain ⟨a, i, ha, hi, told⟩ := ih g hg
      exact ⟨a, i, Nat.le_succ_of_le ha, hi, told⟩
    rcases φ.step j with rest | step
    · rw [rest] at hg
      exact earlier hg
    · rcases (step.sound (φ.sound j)).2.2 g hg with old | ⟨i, hi, told⟩
      · exact earlier old
      · exact ⟨j, i, Nat.le_succ j, hi, told⟩

end FieldTimeline

/-- **The counters agree with the run, and with each other.** At every moment of every run, the calls
inside are the threads between their admission and their release, so that no release finds the count
at zero; with those served they are all the calls ever admitted; the peak is the largest number there
ever was; and an unloaded instance has no call inside. Where threads access the fields one at a time,
each caller of `stats` is told counters of which all this holds at one moment of that run. -/
theorem counters_agree (n : Nat) :
    (∀ (τ : Timeline) (j : Nat) (i : Instance), (τ.state j).instances[n]? = some i →
      i.gate.Tally τ j n) ∧
    ∀ (φ : FieldTimeline n) (j : Nat), ∀ g ∈ (φ.state j).snapshots,
      ∃ a, a ≤ j ∧ g.Tally φ.base a n := by
  refine ⟨fun τ j i hi => τ.tally j n hi, fun φ j g hg => ?_⟩
  obtain ⟨a, i, haj, hi, rfl⟩ := φ.snapshot j g hg
  exact ⟨a, haj, φ.base.tally a n hi⟩

/-- After thread 1 was let in and thread 2 has closed the gate, `stats` tells one call inside. -/
theorem counters_agree_sample : ∃ (φ : FieldTimeline 0) (j a : Nat),
    ⟨.draining, 1, 0, 1⟩ ∈ (φ.state j).snapshots ∧
    (⟨.draining, 1, 0, 1⟩ : Gate).Tally φ.base a 0 := by
  have run : System.Run ((System.sampleBusy.steps [1, 2]).getD {}) :=
    System.run_sampleBusy.later (System.later_of_steps [1, 2] rfl)
  obtain ⟨f, reach, base, open₀⟩ := Fielded.covers run 0
  have hi : ∃ i, f.base.instances[0]? = some i ∧ i.gate = ⟨.draining, 1, 0, 1⟩ := by
    rw [base]
    exact ⟨_, rfl, rfl⟩
  obtain ⟨i, hi, gate⟩ := hi
  obtain ⟨f', more, -, told⟩ := Fielded.tells (reach.sound Fielded.sound_start) open₀ hi
  rw [gate] at told
  obtain ⟨σ, start, steps, j, rests⟩ := exists_sequence (reach.trans more)
  have told : ⟨.draining, 1, 0, 1⟩ ∈ (σ j).snapshots := by
    rw [rests j (Nat.le_refl j)]
    exact told
  obtain ⟨a, -, tally⟩ := (counters_agree 0).2 ⟨σ, start, steps⟩ j _ told
  exact ⟨⟨σ, start, steps⟩, j, a, told, tally⟩

end ModuleHost
