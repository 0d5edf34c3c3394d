import ModuleHost.Proofs.Instance.Drain
import ModuleHost.Proofs.Timeline

/-!
# The counters of a gate

`Gate.Tally` says what the counters of an instance have to do with the run so far: the calls inside
are the threads between their admission and their release, the calls served are those released, and
the peak is the largest number of calls inside that there was at any moment. `Gate.Step.counted`
follows the counters along one step; `Timeline.tally` has them right at every moment of every run.
-/
namespace ModuleHost

open Boundary

namespace Task

/-- Whether the task is a call of instance `n` that has been admitted and has not been released. -/
def inside (n : Nat) : Task → Bool
  | .calling c => c.on == n && !(c.stage matches .arriving | .done _)
  | _ => false

theorem inside_iff {n : Nat} {k : Task} : k.inside n = true ↔ k.IsInside n := by
  cases k with
  | calling c =>
    cases hs : c.stage <;> simp [inside, IsInside, hs]
  | opening | shutting | dropping | hooking | visiting => simp [inside, IsInside]

theorem inside_standing (n : Nat) (k : Task) :
    k.inside n = (k.standingTo n == .admitted || k.standingTo n == .within) := by
  rw [Bool.eq_iff_iff, inside_iff, Bool.or_eq_true, beq_iff_eq, beq_iff_eq]
  refine ⟨IsInside.standingTo, fun h => ?_⟩
  rcases h with h | h
  · exact isInside_of_admitted h
  · have hon : k.on? = some n := on?_of_standingTo (by rw [h]; decide)
    rw [standingTo_self hon] at h
    cases k with
    | calling c =>
      refine ⟨Option.some.inj hon, fun hs => ?_, fun r hs => ?_⟩ <;>
        simp [standing, Call.standing, hs] at h
    | opening o st => exact absurd h st.standing_ne.2
    | shutting n σ | dropping n σ => exact absurd h σ.standing_ne.2.2
    | hooking | visiting => cases hon

theorem countP_inside (threads : List Task) (n : Nat) :
    threads.countP (inside n) = standings threads n .admitted + standings threads n .within := by
  induction threads with
  | nil => rfl
  | cons k threads ih =>
    unfold standings at ih ⊢
    rw [List.countP_cons, List.countP_cons, List.countP_cons, ih, inside_standing]
    cases k.standingTo n <;> simp <;> omega

end Task

/-- What a step does to the counters, by the admissions and releases that it leaves. -/
theorem Gate.Step.counted {x : Exports} {g g' : Gate} {σ σ' : Standing} {marks : List Event}
    (h : Gate.Step x g σ marks g' σ') (pos : σ = .within → 0 < g.inFlight)
    (peaked : g.inFlight ≤ g.peak) :
    g'.inFlight + marks.count .released = g.inFlight + marks.count .admitted ∧
      g'.served = g.served + marks.count .released ∧ g'.peak = max g.peak g'.inFlight := by
  have same : max g.peak g.inFlight = g.peak := Nat.max_eq_left peaked
  cases h with
  | accept g' hg =>
    unfold admit? at hg
    split at hg
    · cases hg
      exact ⟨rfl, rfl, rfl⟩
    · cases hg
  | release =>
    have pos := pos rfl
    refine ⟨?_, rfl, ?_⟩
    · show g.inFlight - 1 + 1 = g.inFlight + 0
      omega
    · show g.peak = max g.peak (g.inFlight - 1)
      omega
  | close g' hg =>
    unfold close? at hg
    split at hg
    · cases hg
      exact ⟨rfl, rfl, same.symm⟩
    · cases hg
  | enter proxy => exact ⟨by cases proxy <;> rfl, by cases proxy <;> rfl, same.symm⟩
  | stay | load | answer | drain | skip | unload | unmap | find | depart =>
    exact ⟨rfl, rfl, same.symm⟩
  | publish => exact ⟨rfl, rfl, same.symm⟩

namespace System

/-- The counters of instance `n` against its history. -/
structure Counted (s : System) (n : Nat) (g : Gate) : Prop where
  inside : g.inFlight + (s.instanceLog n).count .released = (s.instanceLog n).count .admitted
  served : g.served = (s.instanceLog n).count .released
  peaked : g.inFlight ≤ g.peak

variable {s s' : System} {n : Nat} {i i' : Instance}

/-- While a call stands within the module, the gate counts it. -/
theorem Run.inFlight_pos (hr : Run s) (hi : s.instances[n]? = some i)
    (pos : 0 < standings s.threads n .within) : 0 < i.gate.inFlight := by
  have inside := (hr.orderly.books n i hi).inside
  omega

theorem Move.counted (hr : Run s) (h : Move s s') (hi : s.instances[n]? = some i)
    (hc : s.Counted n i.gate) : ∃ i', s'.instances[n]? = some i' ∧ s'.Counted n i'.gate ∧
      i'.gate.peak = max i.gate.peak i'.gate.inFlight := by
  obtain ⟨i', σ, σ', marks, hi', -, gate, log, standing⟩ := h.gate hi
  have within : σ = .within → 0 < i.gate.inFlight := by
    rintro rfl
    rcases standing with apart | pos
    · cases apart
    · exact hr.inFlight_pos hi pos
  obtain ⟨moved, served, peak⟩ := gate.counted within hc.peaked
  have grown : ∀ e : Event, e.ofGate = true →
      (s'.instanceLog n).count e = (s.instanceLog n).count e + marks.count e := by
    intro e he
    have both := congrArg (List.count e) log
    rwa [List.count_append, gateMarks, gateMarks, List.count_filter he, List.count_filter he]
      at both
  have admitted := grown .admitted rfl
  have released := grown .released rfl
  have inside := hc.inside
  refine ⟨i', hi', ⟨?_, ?_, ?_⟩, peak⟩
  · omega
  · rw [served, released, hc.served]
  · rw [peak]
    exact Nat.le_max_right _ _

theorem Run.counted (h : Run s) : ∀ (n : Nat) (i : Instance), s.instances[n]? = some i →
    s.Counted n i.gate := by
  refine h.induction (P := fun s => ∀ (n : Nat) (i : Instance), s.instances[n]? = some i →
    s.Counted n i.gate) (by simp) fun s s' hr ih hm n i' hi' => ?_
  cases hi : s.instances[n]? with
  | some i =>
    obtain ⟨i₁, hi₁, counted, -⟩ := hm.counted hr hi (ih n i hi)
    obtain rfl := Option.some.inj (hi₁.symm.trans hi')
    exact counted
  | none =>
    obtain ⟨fresh, log⟩ := hm.newborn hr hi hi'
    rw [fresh]
    exact ⟨by rw [log]; rfl, by rw [log]; rfl, Nat.le_refl _⟩

end System

/-- The counters `g` of instance `n`, at moment `j`. -/
structure Gate.Tally (τ : Timeline) (j n : Nat) (g : Gate) : Prop where
  inside : g.inFlight = (τ.state j).threads.countP (Task.inside n)
  released : g.inFlight + ((τ.state j).instanceLog n).count .released =
    ((τ.state j).instanceLog n).count .admitted
  /-- Whoever is about to be released is counted, so the count never runs below zero. -/
  positive : ∀ (t : Nat) (c : Call), (τ.state j).threads[t]? = some (.calling c) → c.on = n →
    c.stage = .leaving → 0 < g.inFlight
  served : g.served + g.inFlight = ((τ.state j).instanceLog n).count .admitted
  most : ∀ (a : Nat) (i : Instance), a ≤ j → (τ.state a).instances[n]? = some i →
    i.gate.inFlight ≤ g.peak
  reached : ∃ (a : Nat) (i : Instance), a ≤ j ∧ (τ.state a).instances[n]? = some i ∧
    i.gate.inFlight = g.peak
  empty : g.state = .unloaded → g.inFlight = 0

namespace Timeline

variable {τ : Timeline} {a j n : Nat} {i : Instance}

theorem instance_stays (hi : (τ.state a).instances[n]? = some i) (haj : a ≤ j) :
    ∃ i', (τ.state j).instances[n]? = some i' := by
  refine onward (P := fun s => ∃ i', s.instances[n]? = some i') ⟨i, hi⟩ (fun s s' _ hs hm => ?_) haj
  obtain ⟨i₁, hi₁⟩ := hs
  obtain ⟨i', -, -, -, hi', -⟩ := hm.gate hi₁
  exact ⟨i', hi'⟩

/-- The peak is the largest number of calls that have been inside at one moment. -/
theorem peak (τ : Timeline) (j n : Nat) : ∀ i, (τ.state j).instances[n]? = some i →
    (∀ (a : Nat) (i₁ : Instance), a ≤ j → (τ.state a).instances[n]? = some i₁ →
      i₁.gate.inFlight ≤ i.gate.peak) ∧
    ∃ (a : Nat) (i₁ : Instance), a ≤ j ∧ (τ.state a).instances[n]? = some i₁ ∧
      i₁.gate.inFlight = i.gate.peak := by
  induction j with
  | zero =>
    intro i hi
    rw [τ.start] at hi
    cases hi
  | succ j ih =>
    intro i' hi'
    cases hi : (τ.state j).instances[n]? with
    | some i =>
      obtain ⟨most, a, i₁, ha, hi₁, reached⟩ := ih i hi
      have peak : i'.gate.peak = max i.gate.peak i'.gate.inFlight := by
        have counted := (τ.run j).counted n i hi
        rcases τ.move j with rest | move
        · rw [rest, hi] at hi'
          cases hi'
          exact (Nat.max_eq_left counted.peaked).symm
        · obtain ⟨i₂, hi₂, -, peak⟩ := move.counted (τ.run j) hi counted
          obtain rfl := Option.some.inj (hi₂.symm.trans hi')
          exact peak
      refine ⟨fun b i₂ hb hi₂ => ?_, ?_⟩
      · rcases Nat.lt_or_eq_of_le hb with lt | rfl
        · rw [peak]
          exact Nat.le_trans (most b i₂ (Nat.le_of_lt_succ lt) hi₂) (Nat.le_max_left _ _)
        · obtain rfl := Option.some.inj (hi₂.symm.trans hi')
          rw [peak]
          exact Nat.le_max_right _ _
      · rcases Nat.le_total i.gate.peak i'.gate.inFlight with above | below
        · exact ⟨j + 1, i', Nat.le_refl _, hi', by rw [peak, Nat.max_eq_right above]⟩
        · exact ⟨a, i₁, Nat.le_succ_of_le ha, hi₁, by rw [peak, Nat.max_eq_left below, reached]⟩
    | none =>
      -- The instance has just been made: there was none before.
      have fresh : i'.gate = {} := by
        rcases τ.move j with rest | move
        · rw [rest, hi] at hi'
          cases hi'
        · exact (move.newborn (τ.run j) hi hi').1
      refine ⟨fun b i₂ hb hi₂ => ?_, j + 1, i', Nat.le_refl _, hi', by rw [fresh]⟩
      rcases Nat.lt_or_eq_of_le hb with lt | rfl
      · obtain ⟨i₃, hi₃⟩ := instance_stays hi₂ (Nat.le_of_lt_succ lt)
        cases hi.symm.trans hi₃
      · obtain rfl := Option.some.inj (hi₂.symm.trans hi')
        simp [fresh]

theorem tally (τ : Timeline) (j n : Nat) (hi : (τ.state j).instances[n]? = some i) :
    i.gate.Tally τ j n := by
  have hr := τ.run j
  have books := hr.orderly.books n i hi
  have counted := hr.counted n i hi
  obtain ⟨most, reached⟩ := τ.peak j n i hi
  refine
    { inside := ?_
      released := counted.inside
      positive := fun t c ht hon hs => ?_
      served := ?_
      most := most
      reached := reached
      empty := fun unloaded => books.empty (.inr unloaded) }
  · rw [Task.countP_inside]
    exact books.inside
  · have pos := standings_pos ht n
    have within : (Task.calling c).standingTo n = .within := by
      subst hon
      rw [Task.standingTo_self rfl]
      simp [Task.standing, Call.standing, hs]
    rw [within] at pos
    exact hr.inFlight_pos hi pos
  · have inside := counted.inside
    have served := counted.served
    omega

end Timeline

end ModuleHost
