import ModuleHost.Proofs.Instance.Standing

/-!
# The books of an instance

`Books x g N word` ties the gate `g` of an instance with exports `x` to the number `N σ` of threads
that stand to it as `σ` says, and to the entry points called for it so far:

* `inside`: the gate counts the calls that are admitted and not released,
* `closer`: one shutdown is on its way while the gate is draining, and none otherwise,
* `empty`: from the end of that shutdown's wait on, no call is inside,
* `ended`: who has seen the end published finds the gate unloaded,
* `starting`: while the opener has not called `OnLoad`, nothing has happened,
* `word`: otherwise the entry points called are `OnLoad`, requests, and `OnUnload` once it begins.

`Books.step` keeps them along `Gate.Step`.
-/
namespace ModuleHost

open Boundary

namespace Boundary

namespace Exports

/-- What opening the instance calls, if it is exported. -/
def loads (x : Exports) : List EntryPoint := if x.onLoad then [.onLoad] else []

/-- What ending the instance calls, if it is exported. -/
def unloads (x : Exports) : List EntryPoint := if x.onUnload then [.onUnload] else []

/-- What is asked before an instance is made, if it is exported. -/
def probes (x : Exports) : List EntryPoint := if x.abiVersion then [.moduleAbiVersion] else []

end Exports

end Boundary

structure Books (x : Exports) (g : Gate) (N : Standing → Nat) (word : List EntryPoint) : Prop where
  inside : g.inFlight = N .admitted + N .within
  closer : N .draining + N .drained + N .unloading = if g.state = .draining then 1 else 0
  empty : 0 < N .drained + N .unloading ∨ g.state = .unloaded → g.inFlight = 0
  exported : 0 < N .drained → x.onUnload = true
  ended : 0 < N .ended → g.state = .unloaded
  starting : 0 < N .starting →
    N .starting = 1 ∧ g.state = .live ∧ g.inFlight = 0 ∧ x.onLoad = true ∧ word = []
  word : N .starting = 0 → ∃ calls : List EntryPoint, (∀ e ∈ calls, e.IsRequest) ∧
    word = x.loads ++ calls ++ if 0 < N .unloading ∨ g.state = .unloaded then x.unloads else []

namespace Books

variable {x : Exports} {g g' : Gate} {N N' : Standing → Nat} {word : List EntryPoint}

theorem fresh (h : ∀ σ, σ ≠ .apart → N σ = if σ = .starting ∧ x.onLoad = true then 1 else 0) :
    Books x {} N [] := by
  have e₁ := h .starting (by decide)
  have e₂ := h .admitted (by decide)
  have e₃ := h .within (by decide)
  have e₄ := h .draining (by decide)
  have e₅ := h .drained (by decide)
  have e₆ := h .unloading (by decide)
  have e₇ := h .ended (by decide)
  simp only [reduceCtorEq, false_and, true_and, if_false] at e₁ e₂ e₃ e₄ e₅ e₆ e₇
  refine ⟨?_, ?_, fun _ => rfl, fun h => by omega, fun h => by omega, fun h => ?_, fun h => ?_⟩
  · simp [e₂, e₃]
  · simp [e₄, e₅, e₆]
  · split at e₁
    · rename_i hx
      exact ⟨e₁, rfl, rfl, hx, rfl⟩
    · omega
  · split at e₁
    · omega
    · rename_i hx
      exact ⟨[], by simp, by simp [Exports.loads, hx, e₆]⟩

/-- Threads that stand apart do not matter, and those that have seen the end only for `ended`. -/
theorem congr (b : Books x g N word) (h : ∀ σ, σ ≠ .apart → σ ≠ .ended → N' σ = N σ)
    (ended : 0 < N' .ended → g.state = .unloaded) : Books x g N' word := by
  obtain ⟨inside, closer, empty, exported, -, starting, words⟩ := b
  have e₁ := h .starting (by decide) (by decide)
  have e₂ := h .admitted (by decide) (by decide)
  have e₃ := h .within (by decide) (by decide)
  have e₄ := h .draining (by decide) (by decide)
  have e₅ := h .drained (by decide) (by decide)
  have e₆ := h .unloading (by decide) (by decide)
  refine ⟨?_, ?_, ?_, ?_, ended, ?_, ?_⟩ <;> simp only [e₁, e₂, e₃, e₄, e₅, e₆] <;> assumption

theorem not_ended (b : Books x g N word) (h : 0 < N .draining + N .drained) :
    g.state = .draining ∧ N .unloading = 0 := by
  have closer := b.closer
  split at closer
  · rename_i hs
    exact ⟨hs, by omega⟩
  · omega

theorem not_ended_of_inside (b : Books x g N word) (h : 0 < N .admitted + N .within) :
    ¬ (0 < N .unloading ∨ g.state = .unloaded) := by
  intro ended
  have := b.inside
  have := b.empty (ended.imp (by omega) id)
  omega

/-- `OnUnload` is called once, when the unload begins, if it is exported. -/
theorem count_onUnload (b : Books x g N word) : word.count .onUnload =
    if (0 < N .unloading ∨ g.state = .unloaded) ∧ x.onUnload then 1 else 0 := by
  rcases Nat.eq_zero_or_pos (N .starting) with none | starting
  · obtain ⟨calls, requests, rfl⟩ := b.word none
    have others : calls.count .onUnload = 0 :=
      List.count_eq_zero.mpr fun called => by simpa using requests _ called
    have loads : x.loads.count .onUnload = 0 := by
      unfold Exports.loads
      split <;> rfl
    have unloads : x.unloads.count .onUnload = if x.onUnload then 1 else 0 := by
      unfold Exports.unloads
      split <;> simp
    rw [List.count_append, List.count_append, loads, others]
    by_cases ended : 0 < N .unloading ∨ g.state = .unloaded
    · simp [ended, unloads]
    · simp [ended]
  · obtain ⟨-, live, -, -, rfl⟩ := b.starting starting
    have closer := b.closer
    rw [if_neg (by rw [live]; decide)] at closer
    have idle : ¬ 0 < N .unloading := by omega
    simp [idle, live]

theorem word_same {marks : List Event} (b : Books x g N word) (none : N .starting = 0)
    (quiet : entries marks = [])
    (same : 0 < N' .unloading ∨ g'.state = .unloaded ↔ 0 < N .unloading ∨ g.state = .unloaded) :
    ∃ calls : List EntryPoint, (∀ e ∈ calls, e.IsRequest) ∧ word ++ entries marks =
      x.loads ++ calls ++ if 0 < N' .unloading ∨ g'.state = .unloaded then x.unloads else [] := by
  obtain ⟨calls, requests, word_eq⟩ := b.word none
  refine ⟨calls, requests, ?_⟩
  simp only [same, quiet, List.append_nil]
  exact word_eq

section
variable {marks : List Event} {σ σ' : Standing} (b : Books x g N word)
  (h : Gate.Step x g σ marks g' σ') (hpos : 0 < N σ)
  (hN : ∀ τ, N' τ + (if σ = τ then 1 else 0) = N τ + (if σ' = τ then 1 else 0))
  (lone : σ' ≠ σ → σ ≠ .starting → N .starting = 0)
include b h hpos hN lone

theorem word_step (none' : N' .starting = 0) :
    ∃ calls : List EntryPoint, (∀ e ∈ calls, e.IsRequest) ∧ word ++ entries marks =
      x.loads ++ calls ++ if 0 < N' .unloading ∨ g'.state = .unloaded then x.unloads else [] := by
  have starters := hN .starting
  have unloaders := hN .unloading
  cases h with
  | stay => exact b.word_same (by omega) rfl (by rw [Nat.add_right_cancel unloaders])
  | answer code | depart | find _ =>
    simp only [reduceCtorEq, if_false] at starters unloaders
    exact b.word_same (by omega) rfl (by rw [Nat.add_right_cancel unloaders])
  | unmap => exact b.word_same (by omega) rfl (by rw [Nat.add_right_cancel unloaders])
  | load =>
    obtain ⟨-, live, -, exported, rfl⟩ := b.starting hpos
    have closer := b.closer
    simp only [reduceCtorEq, if_false, live] at unloaders closer
    have hun : N' .unloading = 0 := by omega
    exact ⟨[], by simp, by simp [entries, Event.entry?, Exports.loads, exported, live, hun]⟩
  | accept g' hg =>
    obtain ⟨live, live', -⟩ := Gate.admit?_eq_some hg
    simp only [reduceCtorEq, if_false] at unloaders
    refine b.word_same (lone (by decide) (by decide)) rfl ?_
    rw [Nat.add_right_cancel unloaders, live, live']
  | enter proxy =>
    have inside := b.not_ended_of_inside (Nat.add_pos_left hpos _)
    obtain ⟨calls, requests, rfl⟩ := b.word (lone (by decide) (by decide))
    simp only [reduceCtorEq, if_false] at unloaders
    refine ⟨calls ++ [EntryPoint.request proxy], fun e he => ?_, ?_⟩
    · rcases List.mem_append.mp he with he | he
      · exact requests e he
      · exact ⟨proxy, List.mem_singleton.mp he⟩
    · rw [Nat.add_right_cancel unloaders, if_neg inside]
      simp [entries, Event.entry?]
  | release =>
    simp only [reduceCtorEq, if_false] at unloaders
    refine b.word_same (lone (by decide) (by decide)) rfl ?_
    rw [Nat.add_right_cancel unloaders, Gate.state_release]
  | close g' hg =>
    obtain ⟨live, closed, -⟩ := Gate.close?_eq_some hg
    simp only [reduceCtorEq, if_false] at unloaders
    refine b.word_same (lone (by decide) (by decide)) rfl ?_
    rw [Nat.add_right_cancel unloaders, live, closed]
    simp
  | drain hzero hx =>
    simp only [reduceCtorEq, if_false] at unloaders
    refine b.word_same (lone (by decide) (by decide)) rfl ?_
    rw [Nat.add_right_cancel unloaders]
  | skip hzero hx =>
    obtain ⟨draining, none⟩ := b.not_ended (Nat.add_pos_left hpos _)
    obtain ⟨calls, requests, rfl⟩ := b.word (lone (by decide) (by decide))
    exact ⟨calls, requests, by simp [entries, draining, none, Exports.unloads, hx]⟩
  | unload =>
    obtain ⟨draining, none⟩ := b.not_ended (Nat.add_pos_right _ hpos)
    obtain ⟨calls, requests, rfl⟩ := b.word (lone (by decide) (by decide))
    simp only [reduceCtorEq, if_false, if_true] at unloaders
    have begun : 0 < N' .unloading := by omega
    exact ⟨calls, requests, by
      simp [entries, Event.entry?, draining, none, begun, Exports.unloads, b.exported hpos]⟩
  | publish =>
    obtain ⟨calls, requests, rfl⟩ := b.word (lone (by decide) (by decide))
    exact ⟨calls, requests, by simp [entries, Event.entry?, hpos]⟩

/-- **The books are kept** by every step of a thread. -/
theorem step : Books x g' N' (word ++ entries marks) := by
  have words := b.word_step h hpos hN lone
  have b₀ := b
  obtain ⟨inside, closer, empty, exported, ended, starting, -⟩ := b
  have e₁ := hN .starting
  have e₂ := hN .admitted
  have e₃ := hN .within
  have e₄ := hN .draining
  have e₅ := hN .drained
  have e₆ := hN .unloading
  have e₇ := hN .ended
  cases h with
  | stay | answer code | unmap =>
    show Books x g N' (word ++ [])
    rw [List.append_nil]
    exact b₀.congr (fun τ _ _ => Nat.add_right_cancel (hN τ))
      fun h => ended (by rwa [Nat.add_right_cancel (hN .ended)] at h)
  | load =>
    obtain ⟨one, live, zero, -, -⟩ := starting hpos
    simp only [reduceCtorEq, if_true, if_false, live] at e₁ e₂ e₃ e₄ e₅ e₆ e₇ closer
    exact
      { inside := by omega
        closer := by simp [live]; omega
        empty := fun _ => zero
        exported := fun h => exported (by omega)
        ended := fun h => ended (by omega)
        starting := fun h => by omega
        word := words }
  | accept g' hg =>
    obtain ⟨live, live', more⟩ := Gate.admit?_eq_some hg
    have none := lone (by decide) (by decide)
    simp only [reduceCtorEq, if_true, if_false, live] at e₁ e₂ e₃ e₄ e₅ e₆ e₇ closer
    have open₀ : ¬ (0 < N' .drained + N' .unloading ∨ g'.state = .unloaded) := by
      rw [live']
      simp
      omega
    exact
      { inside := by omega
        closer := by simp [live']; omega
        empty := fun h => absurd h open₀
        exported := fun h => exported (by omega)
        ended := fun h => absurd (live.symm.trans (ended (by omega))) (by decide)
        starting := fun h => by omega
        word := words }
  | enter proxy =>
    have none := lone (by decide) (by decide)
    simp only [reduceCtorEq, if_true, if_false] at e₁ e₂ e₃ e₄ e₅ e₆ e₇
    exact
      { inside := by omega
        closer := by rw [← closer]; omega
        empty := fun h => empty (h.imp (by omega) id)
        exported := fun h => exported (by omega)
        ended := fun h => ended (by omega)
        starting := fun h => by omega
        word := words }
  | release =>
    have none := lone (by decide) (by decide)
    simp only [reduceCtorEq, if_true, if_false] at e₁ e₂ e₃ e₄ e₅ e₆ e₇
    exact
      { inside := by rw [Gate.inFlight_release]; omega
        closer := by rw [Gate.state_release, ← closer]; omega
        empty := fun h => by
          have := empty (h.imp (by omega) id)
          rw [Gate.inFlight_release]
          omega
        exported := fun h => exported (by omega)
        ended := fun h => ended (by omega)
        starting := fun h => by omega
        word := words }
  | close g' hg =>
    obtain ⟨live, closed, same⟩ := Gate.close?_eq_some hg
    have none := lone (by decide) (by decide)
    simp only [reduceCtorEq, if_true, if_false, live] at e₁ e₂ e₃ e₄ e₅ e₆ e₇ closer
    have open₀ : ¬ (0 < N' .drained + N' .unloading ∨ g'.state = .unloaded) := by
      rw [closed]
      simp
      omega
    exact
      { inside := by omega
        closer := by rw [closed, if_pos rfl]; omega
        empty := fun h => absurd h open₀
        exported := fun h => exported (by omega)
        ended := fun h => absurd (live.symm.trans (ended (by omega))) (by decide)
        starting := fun h => by omega
        word := words }
  | drain hzero hx =>
    have none := lone (by decide) (by decide)
    simp only [reduceCtorEq, if_true, if_false] at e₁ e₂ e₃ e₄ e₅ e₆ e₇
    exact
      { inside := by omega
        closer := by rw [← closer]; omega
        empty := fun _ => hzero
        exported := fun _ => hx
        ended := fun h => ended (by omega)
        starting := fun h => by omega
        word := words }
  | skip hzero hx =>
    have none := lone (by decide) (by decide)
    simp only [reduceCtorEq, if_true, if_false] at e₁ e₂ e₃ e₄ e₅ e₆ e₇
    exact
      { inside := by omega
        closer := by rw [← closer]; omega
        empty := fun _ => hzero
        exported := fun h => exported (by omega)
        ended := fun h => ended (by omega)
        starting := fun h => by omega
        word := words }
  | unload =>
    have none := lone (by decide) (by decide)
    simp only [reduceCtorEq, if_true, if_false] at e₁ e₂ e₃ e₄ e₅ e₆ e₇
    exact
      { inside := by omega
        closer := by rw [← closer]; omega
        empty := fun _ => empty (.inl (by omega))
        exported := fun h => exported (by omega)
        ended := fun h => ended (by omega)
        starting := fun h => by omega
        word := words }
  | find hs =>
    show Books x g N' (word ++ [])
    rw [List.append_nil]
    refine b₀.congr (fun τ apart other => ?_) fun _ => hs
    simpa [apart.symm, other.symm] using hN τ
  | depart =>
    show Books x g N' (word ++ [])
    rw [List.append_nil]
    refine b₀.congr (fun τ apart other => ?_) fun _ => ended hpos
    simpa [apart.symm, other.symm] using hN τ
  | publish =>
    have none := lone (by decide) (by decide)
    simp only [reduceCtorEq, if_true, if_false] at e₁ e₂ e₃ e₄ e₅ e₆ e₇
    have draining : g.state = .draining := by
      split at closer
      · assumption
      · omega
    rw [draining, if_pos rfl] at closer
    exact
      { inside := by rw [Gate.inFlight_publishUnloaded]; omega
        closer := by rw [Gate.state_publishUnloaded]; simp; omega
        empty := fun _ => empty (.inl (by omega))
        exported := fun h => exported (by omega)
        ended := fun _ => rfl
        starting := fun h => by omega
        word := words }

end

end Books

end ModuleHost
