import ModuleHost.Proofs.Instance.Standing

/-!
# The fields of a gate, one access at a time

A gate is four fields, and what the machine does to them in one step takes several accesses, made
one after the other while its lock is held. `FieldOp` lists these accesses; a section is what a thread
does between taking the lock and giving it back. Two of the fields, the calls served and the peak, are
accessed without the lock as well, but never written without it.

`Task.section?` gives the section of each stage of a call and of a shutdown that uses the lock, in
place of the operation on the whole gate. `section_step` says that a section run alone is the step of
the machine, and `stepOn_gate` that no other stage touches the gate.
-/
namespace ModuleHost

inductive FieldOp where
  | state
  | setState (p : InstanceState)
  | inFlight
  | setInFlight (n : Nat)
  | served
  /-- Adds one to the calls served. -/
  | addServed
  | peak
  /-- Raises the peak, if this is more. -/
  | raisePeak (n : Nat)

namespace FieldOp

def Answer : FieldOp → Type
  | .state => InstanceState
  | .inFlight | .served | .peak => Nat
  | .setState _ | .setInFlight _ | .addServed | .raisePeak _ => Unit

def perform : (o : FieldOp) → Gate → o.Answer × Gate
  | .state, g => (g.state, g)
  | .setState p, g => ((), { g with state := p })
  | .inFlight, g => (g.inFlight, g)
  | .setInFlight n, g => ((), { g with inFlight := n })
  | .served, g => (g.served, g)
  | .addServed, g => ((), { g with served := g.served + 1 })
  | .peak, g => (g.peak, g)
  | .raisePeak n, g => ((), { g with peak := max g.peak n })

end FieldOp

abbrev fieldInterface : Interface := ⟨FieldOp, FieldOp.Answer⟩

/-- Accesses made one after the other. -/
abbrev FieldProgram := Program fieldInterface

namespace FieldProgram

/-- What the accesses come to when nobody else makes any meanwhile. -/
def alone {α : Type} (p : FieldProgram α) (g : Gate) : Except Payload α × Gate :=
  p.run FieldOp.perform g

@[simp] theorem alone_ret {α : Type} (a : α) (g : Gate) :
    alone (.ret a) g = (.ok a, g) := rfl

@[simp] theorem alone_ask {α : Type} (o : FieldOp) (next : o.Answer → FieldProgram α) (g : Gate) :
    alone (.ask o next) g = (next (o.perform g).1).alone (o.perform g).2 := rfl

theorem alone_bind {α β : Type} {p : FieldProgram α} {a : α} {g g' : Gate}
    (h : p.alone g = (.ok a, g')) (f : α → FieldProgram β) :
    alone (p.bind f) g = (f a).alone g' := by
  induction p generalizing g with
  | ret b =>
    cases h
    rfl
  | panic q => cases h
  | ask o next ih => exact ih _ h

end FieldProgram

/-! ## The sections -/

namespace Gate

/-- Lets a call in, or says in which state it is refused. -/
def admitting : FieldProgram (Option InstanceState) :=
  .ask .state fun (p : InstanceState) =>
    if p = .live then
      .ask .inFlight fun (n : Nat) => .ask (.setInFlight (n + 1)) fun _ =>
      .ask .inFlight fun (n : Nat) => .ask (.raisePeak n) fun _ => .ret none
    else .ret (some p)

def releasing : FieldProgram Unit :=
  .ask .inFlight fun (n : Nat) => .ask (.setInFlight (n - 1)) fun _ =>
  .ask .addServed fun _ => .ret ()

/-- Closes the gate and says how many calls are inside, or in which state it found it. -/
def closing : FieldProgram (Except InstanceState Nat) :=
  .ask .state fun (p : InstanceState) =>
    if p = .live then
      .ask (.setState .draining) fun _ => .ask .inFlight fun (n : Nat) => .ret (.ok n)
    else .ret (.error p)

/-- All the counters together. -/
def stats : FieldProgram Gate :=
  .ask .state fun (p : InstanceState) => .ask .served fun (s : Nat) =>
  .ask .inFlight fun (n : Nat) => .ask .peak fun (k : Nat) => .ret ⟨p, n, s, k⟩

theorem admitting_alone (g : Gate) : admitting.alone g =
    match g.admit? with
    | some g' => (.ok none, g')
    | none => (.ok (some g.state), g) := by
  by_cases live : g.state = .live
  · rw [admit?, if_pos live]
    show FieldProgram.alone (if g.state = .live then _ else _) g = _
    rw [if_pos live]
    rfl
  · rw [admit?, if_neg live]
    show FieldProgram.alone (if g.state = .live then _ else _) g = _
    rw [if_neg live]
    rfl

theorem releasing_alone (g : Gate) : releasing.alone g = (.ok (), g.release) := rfl

theorem closing_alone (g : Gate) : closing.alone g =
    match g.close? with
    | some g' => (.ok (.ok g'.inFlight), g')
    | none => (.ok (.error g.state), g) := by
  by_cases live : g.state = .live
  · rw [close?, if_pos live]
    show FieldProgram.alone (if g.state = .live then _ else _) g = _
    rw [if_pos live]
    rfl
  · rw [close?, if_neg live]
    show FieldProgram.alone (if g.state = .live then _ else _) g = _
    rw [if_neg live]
    rfl

theorem stats_alone (g : Gate) : stats.alone g = (.ok g, g) := rfl

end Gate

/-- A section of a thread at a stage of type `α`. At its end it says, by what it has read, how the
thread goes on with its instance, or that it has to wait. -/
abbrev FieldSection (α : Type) := FieldProgram (Instance → Option (α × List Event))

namespace FieldSection

variable {α β : Type}

def lift (wrap : α → β) (p : FieldSection α) : FieldSection β :=
  p.bind fun f => .ret fun i => (f i).map fun (a, events) => (wrap a, events)

/-- Run alone on the gate of an instance, the section is this step. -/
def Is (p : FieldSection α) (i : Instance) (m : Module)
    (step : Option (α × Instance × Module × List Event)) : Prop :=
  ∃ f g, p.alone i.gate = (.ok f, g) ∧ (f i = none → g = i.gate) ∧
    step = (f i).map fun (a, events) => (a, { i with gate := g }, m, events)

theorem Is.lift {p : FieldSection α} {i : Instance} {m : Module}
    {step : Option (α × Instance × Module × List Event)} (h : p.Is i m step) (wrap : α → β) :
    (p.lift wrap).Is i m (step.map fun (a, i, m, events) => (wrap a, i, m, events)) := by
  obtain ⟨f, g, alone, waits, rfl⟩ := h
  refine ⟨fun i => (f i).map fun (a, events) => (wrap a, events), g, ?_, fun none => ?_, ?_⟩
  · exact FieldProgram.alone_bind alone _
  · exact waits (by simpa using none)
  · simp [Function.comp_def]

end FieldSection

namespace ShutdownStage

/-- What a caller does who has read this state. -/
def seen (p : InstanceState) (i : Instance) : ShutdownStage :=
  if p = .unloaded then .done .alreadyShutDown else .asleep i.broadcasts

def section? : ShutdownStage → Option (FieldSection ShutdownStage)
  | .arriving => some (Gate.closing.bind fun r => .ret fun i =>
      match r with
      | .ok inside => some (.draining inside, [.gateClosed inside])
      | .error p => some (seen p i, []))
  | .asleep since => some (.ask .state fun (p : InstanceState) => .ret fun i =>
      if since < i.broadcasts then some (seen p i, []) else none)
  | .draining inside => some (.ask .inFlight fun (n : Nat) => .ret fun i =>
      if n = 0 then
        some (if i.exports.onUnload then .unloading inside .entering else .unmapping inside false, [])
      else none)
  | .publishing inside hook => some (.ask (.setState .unloaded) fun _ => .ret fun _ =>
      some (.broadcasting inside hook, [.published]))
  | _ => none

theorem section_step {σ : ShutdownStage} {p : FieldSection ShutdownStage} (h : σ.section? = some p)
    (i : Instance) (m : Module) : p.Is i m (σ.step i m) := by
  cases σ with
  | arriving =>
    cases h
    have closing := Gate.closing_alone i.gate
    simp only [step]
    split
    · rename_i g hg
      rw [hg] at closing
      exact ⟨_, g, FieldProgram.alone_bind closing _, fun none => (by cases none), rfl⟩
    · rename_i hg
      rw [hg] at closing
      exact ⟨_, i.gate, FieldProgram.alone_bind closing _, fun _ => rfl, rfl⟩
  | asleep since =>
    cases h
    refine ⟨_, i.gate, rfl, fun _ => rfl, ?_⟩
    simp only [step]
    split <;> rfl
  | draining inside =>
    cases h
    refine ⟨_, i.gate, rfl, fun _ => rfl, ?_⟩
    by_cases zero : i.gate.inFlight = 0
    · simp [step, FieldOp.perform, zero]
    · simp [step, FieldOp.perform, zero]
  | publishing inside hook =>
    cases h
    exact ⟨_, _, rfl, fun none => (by cases none), rfl⟩
  | unloading | unmapping | broadcasting | reporting | done | escaped => cases h

theorem step_gate {σ σ' : ShutdownStage} {i i' : Instance} {m m' : Module} {events : List Event}
    (h : σ.section? = none) (hs : σ.step i m = some (σ', i', m', events)) : i'.gate = i.gate := by
  cases σ with
  | unloading inside hook =>
    rcases hook.running_or with ⟨code, rfl⟩ | rfl | hr
    · cases hs
      rfl
    · cases hs
      rfl
    · simp only [step_unloading hr, Option.map_eq_some_iff, Prod.mk.injEq] at hs
      obtain ⟨_, -, -, rfl, -⟩ := hs
      rfl
  | unmapping | broadcasting | reporting =>
    cases hs
    rfl
  | arriving | asleep | draining | publishing => cases h
  | done | escaped => cases hs

end ShutdownStage

namespace Call

def section? (x : Boundary.Exports) (c : Call) : Option (FieldSection Call) :=
  match c.stage with
  | .arriving =>
    if c.visit.proxy && !x.proxy then none
    else some (Gate.admitting.bind fun r => .ret fun i =>
      match r with
      | none => some ({ c with stage := .inside,
                               visit := { c.visit with handles := handles c.visit.proxy,
                                                       stage := .entering } }, [.admitted])
      | some p => some ({ c with stage := .done (.error (.shuttingDown i.name)) },
          [.refused, .notice (.callRefused i.name p)]))
  | .leaving => some (Gate.releasing.bind fun _ => .ret fun _ =>
      some ({ c with stage := .done (.ok ()) }, [.released]))
  | _ => none

theorem section_step {c : Call} {i : Instance} {p : FieldSection Call}
    (h : c.section? i.exports = some p) (m : Module) : p.Is i m (c.step i m) := by
  unfold section? at h
  split at h
  · rename_i hs
    split at h
    · cases h
    · rename_i exported
      cases h
      have admitting := Gate.admitting_alone i.gate
      simp only [step, hs, arrive, exported]
      cases hg : i.gate.admit? with
      | some g =>
        rw [hg] at admitting
        exact ⟨_, g, FieldProgram.alone_bind admitting _, fun none => (by cases none), rfl⟩
      | none =>
        rw [hg] at admitting
        exact ⟨_, i.gate, FieldProgram.alone_bind admitting _, fun _ => rfl, rfl⟩
  · rename_i hs
    cases h
    simp only [step, hs]
    exact ⟨_, i.gate.release, FieldProgram.alone_bind (Gate.releasing_alone i.gate) _,
      fun none => (by cases none), rfl⟩
  · cases h

theorem step_gate {c c' : Call} {i i' : Instance} {m m' : Module} {events : List Event}
    (h : c.section? i.exports = none) (hs : c.step i m = some (c', i', m', events)) :
    i'.gate = i.gate := by
  unfold section? at h
  unfold step at hs
  split at hs
  · rename_i harr
    simp only [harr] at h
    split at h
    · rename_i missing
      simp only [arrive, missing, if_true] at hs
      cases hs
      rfl
    · cases h
  · split at hs
    · cases hs
      rfl
    · cases hs
      rfl
    · cases hs
      rfl
    · simp only [Option.map_eq_some_iff, Prod.mk.injEq] at hs
      obtain ⟨_, -, -, rfl, -⟩ := hs
      rfl
  · cases hs
    rfl
  · rename_i hleave
    simp only [hleave] at h
    cases h
  · cases hs
  · cases hs

end Call

namespace Task

/-- The section of a task on an instance with exports `x`, if its next step uses the lock. -/
def section? (x : Boundary.Exports) : Task → Option (FieldSection Task)
  | .calling c => (c.section? x).map (FieldSection.lift .calling)
  | .shutting n σ => σ.section?.map (FieldSection.lift (.shutting n))
  | .dropping n σ => σ.section?.map (FieldSection.lift (.dropping n))
  | .opening o (.abandoning n code σ) =>
    σ.section?.map (FieldSection.lift fun σ => .opening o (.abandoning n code σ))
  | .opening o (.dropping n code σ) =>
    σ.section?.map (FieldSection.lift fun σ => .opening o (.dropping n code σ))
  | _ => none

/-- **A section run alone is the step of the machine.** -/
theorem section_step {k : Task} {i : Instance} {p : FieldSection Task}
    (h : k.section? i.exports = some p) (m : Module) : p.Is i m (k.stepOn i m) := by
  cases k with
  | calling c =>
    obtain ⟨q, hq, rfl⟩ := Option.map_eq_some_iff.mp h
    exact (Call.section_step hq m).lift _
  | shutting n σ | dropping n σ =>
    obtain ⟨q, hq, rfl⟩ := Option.map_eq_some_iff.mp h
    exact (ShutdownStage.section_step hq i m).lift _
  | opening o st =>
    cases st with
    | abandoning n code σ =>
      obtain ⟨q, hq, rfl⟩ := Option.map_eq_some_iff.mp h
      have running : σ.IsRunning := by
        rintro r rfl
        cases hq
      have is := (ShutdownStage.section_step hq i m).lift fun σ => Task.opening o (.abandoning n code σ)
      simpa [stepOn, Opening.stepLate_abandoning running, Function.comp_def] using is
    | dropping n code σ =>
      obtain ⟨q, hq, rfl⟩ := Option.map_eq_some_iff.mp h
      have running : σ.IsRunning := by
        rintro r rfl
        cases hq
      have is := (ShutdownStage.section_step hq i m).lift fun σ => Task.opening o (.dropping n code σ)
      simpa [stepOn, Opening.stepLate_dropping running, Function.comp_def] using is
    | arriving | probing | judging | loading | announcing | done | escaped => cases h
  | hooking | visiting => cases h

/-- **No other step touches the gate.** -/
theorem stepOn_gate {k k' : Task} {i i' : Instance} {m m' : Module} {events : List Event}
    (h : k.section? i.exports = none) (hs : k.stepOn i m = some (k', i', m', events)) :
    i'.gate = i.gate := by
  cases k with
  | calling c =>
    simp only [stepOn, Option.map_eq_some_iff, Prod.mk.injEq] at hs
    obtain ⟨⟨c', i₁, m₁, events₁⟩, hstep, rfl, rfl, rfl, rfl⟩ := hs
    exact Call.step_gate (Option.map_eq_none_iff.mp h) hstep
  | shutting n σ | dropping n σ =>
    simp only [stepOn, Option.map_eq_some_iff, Prod.mk.injEq] at hs
    obtain ⟨⟨σ', i₁, m₁, events₁⟩, hstep, rfl, rfl, rfl, rfl⟩ := hs
    exact ShutdownStage.step_gate (Option.map_eq_none_iff.mp h) hstep
  | opening o st =>
    simp only [stepOn, Option.map_eq_some_iff, Prod.mk.injEq] at hs
    obtain ⟨⟨st', i₁, m₁, events₁⟩, hstep, rfl, rfl, rfl, rfl⟩ := hs
    cases Opening.stepLate_cases hstep with
    | abandon n code σ σ' i' m' events hσ | drop n code σ σ' i' m' events hσ =>
      exact ShutdownStage.step_gate (Option.map_eq_none_iff.mp h) hσ
    | hook | loaded | failed | broke | abandoned | dropped | announce => rfl
  | hooking | visiting => cases hs

end Task

end ModuleHost
