import ModuleHost.Proofs.Run

/-!
# Runs told moment by moment

A `Timeline` is a run in which every moment has its state: from one moment to the next the machine
makes one move, or rests. Where a result says what happened before, or compares all states that a run
has passed, it is stated over a timeline. Each run is one (`Run.timeline`).
-/
namespace ModuleHost

structure Timeline where
  state : Nat → System
  start : state 0 = {}
  move : ∀ j, state (j + 1) = state j ∨ System.Move (state j) (state (j + 1))

namespace Timeline

variable (τ : Timeline)

theorem run (j : Nat) : System.Run (τ.state j) := by
  induction j with
  | zero =>
    rw [τ.start]
    exact .refl {}
  | succ j ih =>
    rcases τ.move j with rest | move
    · rw [rest]
      exact ih
    · exact ih.move move

variable {τ}

/-- What holds at a moment and is kept by every move holds from then on. -/
theorem onward {P : System → Prop} {a : Nat} (start : P (τ.state a))
    (move : ∀ s s', System.Run s → P s → System.Move s s' → P s') {b : Nat} (hab : a ≤ b) :
    P (τ.state b) := by
  induction hab with
  | refl => exact start
  | @step b _ ih =>
    rcases τ.move b with rests | moves
    · rw [rests]
      exact ih
    · exact move _ _ (τ.run b) ih moves

end Timeline

/-- What can be reached in some steps is reached by a sequence that takes them and then rests. -/
theorem exists_sequence {α : Type} {R : α → α → Prop} {a b : α} (h : Relation.ReflTransGen R a b) :
    ∃ σ : Nat → α, σ 0 = a ∧ (∀ j, σ (j + 1) = σ j ∨ R (σ j) (σ (j + 1))) ∧
      ∃ j, ∀ k, j ≤ k → σ k = b := by
  induction h with
  | refl => exact ⟨fun _ => a, rfl, fun _ => .inl rfl, 0, fun _ _ => rfl⟩
  | @tail b c _ last ih =>
    obtain ⟨σ, start, steps, j, rests⟩ := ih
    refine ⟨fun k => if k ≤ j then σ k else c, ?_, fun k => ?_, j + 1, fun k hk => ?_⟩
    · simp [start]
    · rcases Nat.lt_trichotomy k j with lt | rfl | gt
      · simp only [Nat.le_of_lt lt, if_true, Nat.succ_le_of_lt lt]
        exact steps k
      · simp only [Nat.le_refl, if_true, Nat.not_succ_le_self, if_false, rests k (Nat.le_refl k)]
        exact .inr last
      · have late : ¬ k ≤ j := by omega
        have later : ¬ k + 1 ≤ j := by omega
        simp only [late, later, if_false]
        exact .inl trivial
    · have late : ¬ k ≤ j := by omega
      simp [late]

/-- Every run is told by a timeline, which rests at its end. -/
theorem System.Run.timeline {s : System} (h : System.Run s) :
    ∃ (τ : Timeline) (j : Nat), ∀ k, j ≤ k → τ.state k = s := by
  obtain ⟨σ, start, steps, j, rests⟩ := exists_sequence h
  exact ⟨⟨σ, start, steps⟩, j, rests⟩

/-- A timeline can be left at any moment, for whatever can come later. -/
theorem Timeline.exists_later (τ : Timeline) {a : Nat} {s : System}
    (later : System.Later (τ.state a) s) :
    ∃ (τ' : Timeline) (b : Nat), a ≤ b ∧ τ'.state a = τ.state a ∧ τ'.state b = s := by
  obtain ⟨σ, start, steps, j, rests⟩ := exists_sequence later
  let state (d : Nat) : System := if d ≤ a then τ.state d else σ (d - a)
  have past {d : Nat} (h : d ≤ a) : state d = τ.state d := if_pos h
  have future {d : Nat} (h : a ≤ d) : state d = σ (d - a) := by
    rcases Nat.eq_or_lt_of_le h with rfl | h
    · rw [past (Nat.le_refl _), Nat.sub_self, start]
    · exact if_neg (Nat.not_le.mpr h)
  have move (d : Nat) : state (d + 1) = state d ∨ System.Move (state d) (state (d + 1)) := by
    rcases Nat.lt_or_ge d a with before | after
    · rw [past (Nat.le_of_lt before), past before]
      exact τ.move d
    · rw [future after, future (Nat.le_succ_of_le after), Nat.succ_sub after]
      exact steps (d - a)
  refine ⟨⟨state, (past (Nat.zero_le a)).trans τ.start, move⟩, a + j, Nat.le_add_right a j,
    past (Nat.le_refl a), ?_⟩
  exact (future (Nat.le_add_right a j)).trans (rests _ (by omega))

end ModuleHost
