import ModuleHost.Proofs.Instance.Orderly

/-!
# What the end of an instance waits for

`OnUnload` starts when no admitted call is inside, a closed gate lets no new call through, and what
has ended invokes nothing any more (`unload_excludes_calls`). A step in which a thread calls an entry
point for an instance is an `Invokes`; `Invokes.cases` says in which standing a thread can take one,
and the books say what the other threads do meanwhile.
-/
namespace ModuleHost

open Boundary

/-- A call of instance `n` that has been admitted and has not been released. -/
def Task.IsInside (n : Nat) : Task → Prop
  | .calling c => c.on = n ∧ c.stage ≠ .arriving ∧ ∀ r, c.stage ≠ .done r
  | _ => False

theorem Call.isInside_standing {c : Call} (h : c.stage ≠ .arriving) (h' : ∀ r, c.stage ≠ .done r) :
    c.standing = .admitted ∨ c.standing = .within := by
  unfold standing
  split
  · contradiction
  · rename_i r hr
    exact absurd hr (h' r)
  · split <;> simp
  · exact .inr rfl
  · exact .inr rfl
  · exact .inr rfl

theorem Task.IsInside.standingTo {n : Nat} {k : Task} (h : k.IsInside n) :
    k.standingTo n = .admitted ∨ k.standingTo n = .within := by
  cases k with
  | calling c =>
    obtain ⟨rfl, hne, hdone⟩ := h
    rw [standingTo_self rfl]
    exact Call.isInside_standing hne hdone
  | opening | shutting | dropping | hooking | visiting => cases h

theorem Task.isInside_of_admitted {n : Nat} {k : Task} (h : k.standingTo n = .admitted) :
    k.IsInside n := by
  have hon : k.on? = some n := on?_of_standingTo (by rw [h]; decide)
  rw [standingTo_self hon] at h
  cases k with
  | calling c =>
    refine ⟨Option.some.inj hon, fun hs => ?_, fun r hs => ?_⟩ <;>
      simp [standing, Call.standing, hs] at h
  | opening o st => exact absurd h st.standing_ne.1
  | shutting n σ | dropping n σ => exact absurd h σ.standing_ne.2.1
  | hooking | visiting => cases hon

theorem Books.onUnload_mem {x : Exports} {g : Gate} {N : Standing → Nat} {word : List EntryPoint}
    (b : Books x g N word) (h : .onUnload ∈ word) : 0 < N .unloading ∨ g.state = .unloaded := by
  rcases Nat.eq_zero_or_pos (N .starting) with none | pos
  · obtain ⟨calls, hcalls, rfl⟩ := b.word none
    by_cases ended : 0 < N .unloading ∨ g.state = .unloaded
    · exact ended
    · rw [if_neg ended, List.append_nil, List.mem_append] at h
      rcases h with h | h
      · unfold Exports.loads at h
        split at h <;> simp at h
      · exact absurd (hcalls _ h) EntryPoint.not_isRequest_onUnload
  · obtain ⟨-, -, -, -, rfl⟩ := b.starting pos
    cases h

namespace System

/-- The step of thread `t` from `s` to `s'` calls entry point `e` for instance `n`. -/
def Invokes (s : System) (t n : Nat) (e : EntryPoint) (s' : System) : Prop :=
  s.step t = some s' ∧ ∃ new, s'.history = new ++ s.history ∧
    ∃ x ∈ new, x.on = some n ∧ x.event = .entered e

/-- The gate of instance `n` has closed. -/
def Closed (s : System) (n : Nat) : Prop := ∃ i, s.instances[n]? = some i ∧ i.gate.state ≠ .live

/-- Who calls an entry point for an instance. -/
theorem Invokes.cases {s s' : System} {t n : Nat} {e : EntryPoint} (h : s.Invokes t n e s') :
    ∃ k i, s.threads[t]? = some k ∧ s.instances[n]? = some i ∧
      (e = .onLoad ∧ k.standingTo n = .starting ∨ e.IsRequest ∧ k.standingTo n = .admitted ∨
        e = .onUnload ∧ k.standingTo n = .drained) := by
  obtain ⟨hs, new, hnew, x, hx, hon, he⟩ := h
  cases step_cases hs with
  | early o st st' made m m' events ht _ hm _ =>
    obtain ⟨e', -, rfl⟩ := of_mem_turn hnew hx
    cases hon
  | direct k k' module m m' events ht hd hm _ =>
    obtain ⟨e', -, rfl⟩ := of_mem_turn hnew hx
    cases hon
  | late k k' n' i i' m m' events ht hon' hi hm hstep =>
    obtain ⟨e', he', rfl⟩ := of_mem_turn hnew hx
    cases hon
    obtain rfl : e' = .entered e := he
    have mark : .entered e ∈ gateMarks events := List.mem_filter.mpr ⟨he', rfl⟩
    exact ⟨k, i, ht, hi, (Task.stepOn_spec hon' hstep).1.gate.entered mark⟩

/-- From where the gate has closed, it stays closed, and a call that stands admitted has done so
all the time. -/
theorem Closed.later {s s' : System} {n : Nat} (h : s.Closed n) (hl : Later s s') :
    s'.Closed n ∧ ∀ (u : Nat) (k : Task), s'.threads[u]? = some k → k.standingTo n = .admitted →
      s.threads[u]? = some k := by
  refine hl.induction (P := fun s' => s'.Closed n ∧ ∀ (u : Nat) (k : Task),
    s'.threads[u]? = some k → k.standingTo n = .admitted → s.threads[u]? = some k)
    ⟨h, fun u k hu _ => hu⟩ fun s₁ s₂ _ ⟨⟨i, hi, closed⟩, kept⟩ hm => ?_
  cases hm with
  | install m _ => exact ⟨⟨i, hi, closed⟩, kept⟩
  | begin k₀ hnew _ =>
    refine ⟨⟨i, hi, closed⟩, fun u k hu hk => ?_⟩
    simp only [spawn, List.getElem?_append] at hu
    split at hu
    · exact kept u k hu hk
    · obtain rfl := List.mem_singleton.mp (List.mem_of_getElem? hu)
      rw [hnew.standingTo] at hk
      cases hk
  | again t c d r ht _ hnew _ =>
    refine ⟨⟨i, hi, closed⟩, fun u k hu hk => ?_⟩
    rcases of_getElem?_set hu with ⟨-, rfl⟩ | ⟨-, hu⟩
    · rw [hnew.standingTo] at hk
      cases hk
    · exact kept u k hu hk
  | step _ t hs =>
    obtain ⟨k₁, k', i', marks, view⟩ := (step_cases hs).view hi
    obtain ⟨closed', gone⟩ := view.gate.closed closed
    refine ⟨⟨i', view.found, closed'⟩, fun u k hu hk => ?_⟩
    rw [view.after] at hu
    rcases of_getElem?_set hu with ⟨-, rfl⟩ | ⟨-, hu⟩
    · exact absurd hk gone
    · exact kept u k hu hk

/-- Where `OnUnload` is called, no admitted call is inside. -/
theorem Invokes.drained {s s' : System} {t n : Nat} (hr : Run s) (h : s.Invokes t n .onUnload s')
    {u : Nat} {k : Task} (hu : s.threads[u]? = some k) : ¬ k.IsInside n := by
  intro inside
  obtain ⟨k', i, ht, hi, standing⟩ := h.cases
  have drained : k'.standingTo n = .drained := by simpa using standing
  have pos := standings_pos ht n
  rw [drained] at pos
  have books := hr.orderly.books n i hi
  have empty := books.empty (.inl (by omega))
  rw [books.inside] at empty
  have pos' := standings_pos hu n
  rcases inside.standingTo with h | h <;> rw [h] at pos' <;> omega

/-- **Drain before unload.** In every run, `OnUnload` of an instance starts only when no admitted
call is inside; once the gate has closed, a request entry point is called only by a thread that
stood there then with this very call admitted; and once `OnUnload` has started, the instance calls
no entry point any more. -/
theorem unload_excludes_calls {s₀ s s' : System} {t n : Nat} {e : EntryPoint} (hr : Run s₀)
    (hl : Later s₀ s) (h : s.Invokes t n e s') :
    (e = .onUnload → ∀ (u : Nat) (k : Task), s.threads[u]? = some k → ¬ k.IsInside n) ∧
    (s₀.Closed n → e.IsRequest →
      ∃ k : Task, k.IsInside n ∧ s₀.threads[t]? = some k ∧ s.threads[t]? = some k) ∧
    ¬ ∃ x ∈ s₀.history, x.on = some n ∧ x.event = .entered .onUnload := by
  obtain ⟨k, i, ht, hi, standing⟩ := h.cases
  have orderly := (hr.later hl).orderly
  have books := orderly.books n i hi
  have pos := standings_pos ht n
  refine ⟨?_, ?_, ?_⟩
  · rintro rfl u k' hu
    exact h.drained (hr.later hl) hu
  · intro closed request
    have admitted : k.standingTo n = .admitted := by
      rcases standing with ⟨rfl, -⟩ | ⟨-, h⟩ | ⟨rfl, -⟩
      · simp at request
      · exact h
      · simp at request
    exact ⟨k, k.isInside_of_admitted admitted, (closed.later hl).2 t k ht admitted, ht⟩
  · rintro ⟨x, hx, hon, he⟩
    obtain ⟨new, grown⟩ := hl.history
    have mem : .onUnload ∈ entries (s.instanceLog n) :=
      mem_entries.mpr (mem_log.mpr ⟨x, by simp [grown, hx], by simp [hon], he⟩)
    rcases standing with ⟨-, h⟩ | ⟨-, h⟩ | ⟨-, h⟩
    · rw [h] at pos
      obtain ⟨-, -, -, -, nothing⟩ := books.starting pos
      rw [nothing] at mem
      cases mem
    · rw [h] at pos
      exact books.not_ended_of_inside (by omega) (books.onUnload_mem mem)
    · rw [h] at pos
      obtain ⟨draining, none⟩ := books.not_ended (by omega)
      have := books.onUnload_mem mem
      simp [draining, none] at this

theorem unload_excludes_calls_sample : ∃ s₀ s₁ s₂ s₃ : System,
    s₀.Closed 0 ∧ s₀.Invokes 1 0 .handleRequest s₁ ∧ Later s₁ s₂ ∧ s₂.Invokes 2 0 .onUnload s₃ ∧
      (∃ k : Task, k.IsInside 0 ∧ s₀.threads[1]? = some k) ∧
      ∀ (u : Nat) (k : Task), s₂.threads[u]? = some k → ¬ k.IsInside 0 := by
  -- Thread 1 is admitted, thread 2 closes the gate, and only then thread 1 enters the module.
  have r₀ : Run ((sampleBusy.steps [1, 2]).getD {}) :=
    run_sampleBusy.later (later_of_steps [1, 2] rfl)
  have l₁ : Later ((sampleBusy.steps [1, 2]).getD {}) ((sampleBusy.steps [1, 2, 1]).getD {}) :=
    later_of_steps [1] rfl
  have l₂ : Later ((sampleBusy.steps [1, 2, 1]).getD {})
      ((sampleBusy.steps [1, 2, 1, 1, 1, 1, 1, 1, 2]).getD {}) :=
    later_of_steps [1, 1, 1, 1, 1, 2] rfl
  have closed : ((sampleBusy.steps [1, 2]).getD {}).Closed 0 := ⟨_, rfl, by decide⟩
  have enters : ((sampleBusy.steps [1, 2]).getD {}).Invokes 1 0 .handleRequest
      ((sampleBusy.steps [1, 2, 1]).getD {}) :=
    ⟨rfl, _, rfl, _, List.mem_singleton.mpr rfl, rfl, rfl⟩
  have unloads : ((sampleBusy.steps [1, 2, 1, 1, 1, 1, 1, 1, 2]).getD {}).Invokes 2 0 .onUnload
      ((sampleBusy.steps [1, 2, 1, 1, 1, 1, 1, 1, 2, 2]).getD {}) :=
    ⟨rfl, _, rfl, _, List.mem_singleton.mpr rfl, rfl, rfl⟩
  obtain ⟨-, admitted, -⟩ := unload_excludes_calls r₀ (.refl _) enters
  obtain ⟨drained, -, -⟩ := unload_excludes_calls r₀ (l₁.trans l₂) unloads
  obtain ⟨k, inside, before, -⟩ := admitted closed ⟨false, rfl⟩
  exact ⟨_, _, _, _, closed, enters, l₂, unloads, ⟨k, inside, before⟩, drained rfl⟩

end System

end ModuleHost
