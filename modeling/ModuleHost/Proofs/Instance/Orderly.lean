import ModuleHost.Proofs.Instance.Books

/-!
# Every run keeps the books of every instance

`Orderly` holds of every run (`Run.orderly`). Beside the books it says whose instance is whose
(`Owned`): a task mentions only instances that exist, and while the opening that made an instance
has not handed it out, no other task mentions it.
-/
namespace ModuleHost

open Boundary

/-! ## Whose instance is whose -/

namespace Task

/-- A task mentions the instance that it works on, and the one that it has handed out. -/
def Mentions (n : Nat) (k : Task) : Prop :=
  k.on? = some n ∨ ∃ o, k = .opening o (.done (.ok n))

/-- The opening that has made an instance and keeps it for itself. -/
def Makes (n : Nat) (k : Task) : Prop := ∃ o st, k = .opening o st ∧ st.on? = some n

theorem Makes.mentions {n : Nat} {k : Task} (h : k.Makes n) : k.Mentions n := by
  obtain ⟨o, st, rfl, hon⟩ := h
  exact .inl hon

theorem IsNew.mentions {n : Nat} {k : Task} (h : k.IsNew) (hm : k.Mentions n) :
    k.on? = some n := by
  rcases hm with hm | ⟨o, rfl⟩
  · exact hm
  · cases h

theorem IsNew.not_makes {n : Nat} {k : Task} (h : k.IsNew) : ¬ k.Makes n := by
  rintro ⟨o, st, rfl, hon⟩
  cases h
  cases hon

theorem IsNew.standingTo {n : Nat} {k : Task} (h : k.IsNew) : k.standingTo n = .apart := by
  unfold Task.standingTo
  split
  · cases k with
    | opening o st => cases h; rfl
    | calling c =>
      obtain ⟨proxy, request, response, errand, hc⟩ := h
      rw [hc]
      rfl
    | shutting n σ | dropping n σ => cases h; rfl
    | hooking module hook h | visiting module v => rfl
  · rfl

theorem on?_of_standingTo {n : Nat} {k : Task} (h : k.standingTo n ≠ .apart) :
    k.on? = some n := by
  by_cases hon : k.on? = some n
  · exact hon
  · exact absurd (standingTo_other hon) h

theorem makes_of_starting {n : Nat} {k : Task} (h : k.standingTo n = .starting) : k.Makes n := by
  have hon : k.on? = some n := on?_of_standingTo (by rw [h]; decide)
  rw [standingTo_self hon] at h
  cases k with
  | opening o st => exact ⟨o, st, rfl, hon⟩
  | calling c => exact absurd h c.standing_ne_starting
  | shutting n σ | dropping n σ => exact absurd h σ.standing_ne.1
  | hooking module hook h' | visiting module v => cases hon

theorem not_mentions_of_direct {k : Task} {module : Nat} (h : k.direct? = some module) (n : Nat) :
    ¬ k.Mentions n := by
  rintro (hm | ⟨o, rfl⟩)
  · rw [on?_of_direct h] at hm
    cases hm
  · cases h

theorem stepOn_opening {k : Task} {o : Opening} {st' : OpenStage} {i i' : Instance} {m m' : Module}
    {events : List Event} (h : k.stepOn i m = some (.opening o st', i', m', events)) :
    ∃ st, k = .opening o st ∧ Opening.Late i m st st' i' m' events := by
  cases k with
  | opening o st =>
    simp only [stepOn, Option.map_eq_some_iff, Prod.mk.injEq, Task.opening.injEq] at h
    obtain ⟨⟨st₁, i₁, m₁, events₁⟩, hstep, ⟨rfl, rfl⟩, rfl, rfl, rfl⟩ := h
    exact ⟨st, rfl, Opening.stepLate_cases hstep⟩
  | calling | shutting | dropping => simp [stepOn] at h
  | hooking | visiting => cases h

theorem opening_stepOn {k' : Task} {o : Opening} {st : OpenStage} {i i' : Instance} {m m' : Module}
    {events : List Event} (h : (Task.opening o st).stepOn i m = some (k', i', m', events)) :
    ∃ st', k' = .opening o st' ∧ Opening.Late i m st st' i' m' events := by
  simp only [stepOn, Option.map_eq_some_iff, Prod.mk.injEq] at h
  obtain ⟨⟨st', i₁, m₁, events₁⟩, hstep, rfl, rfl, rfl, rfl⟩ := h
  exact ⟨st', rfl, Opening.stepLate_cases hstep⟩

/-- A step on instance `n` mentions no other, and makes none that it did not make before. -/
theorem stepOn_mentions {k k' : Task} {n n' : Nat} {i i' : Instance} {m m' : Module}
    {events : List Event} (hon : k.on? = some n) (h : k.stepOn i m = some (k', i', m', events)) :
    (k'.Mentions n' → n' = n) ∧ (k'.Makes n' → k.Makes n') := by
  obtain ⟨-, hon'⟩ := stepOn_spec hon h
  have same : k'.on? = some n' → n' = n := by
    intro h'
    simpa [h'] using hon'
  constructor
  · rintro (hm | ⟨o, rfl⟩)
    · exact same hm
    · obtain ⟨st, rfl, late⟩ := stepOn_opening h
      cases late
      exact Option.some.inj hon
  · rintro ⟨o, st', rfl, hst⟩
    obtain ⟨st, rfl, -⟩ := stepOn_opening h
    rw [same hst]
    exact ⟨o, st, rfl, hon⟩

end Task

theorem Opening.Early.mentions {o : Opening} {next n : Nat} {m m' : Module} {st st' : OpenStage}
    {made : Option Instance} {events : List Event} (h : o.Early next m st st' made m' events)
    (hm : (Task.opening o st').Mentions n) : n = next ∧ made = some o.toInstance := by
  cases h <;> rcases hm with hm | ⟨o', ho⟩ <;> first
    | cases hm <;> exact ⟨rfl, rfl⟩
    | cases ho

/-- Whose instance is whose among these threads, when `made` instances exist. -/
structure Owned (threads : List Task) (made : Nat) : Prop where
  known : ∀ (t : Nat) (k : Task) (n : Nat), threads[t]? = some k → k.Mentions n → n < made
  sole : ∀ (t u : Nat) (k k' : Task) (n : Nat), threads[t]? = some k → threads[u]? = some k' →
    k.Makes n → k'.Mentions n → u = t

namespace Owned

variable {threads threads' : List Task} {made : Nat}

theorem not_makes (h : Owned threads made) {n : Nat} {o : Opening}
    (hn : Task.opening o (.done (.ok n)) ∈ threads) :
    n < made ∧ ∀ k ∈ threads, ¬ k.Makes n := by
  obtain ⟨t, ht⟩ := List.mem_iff_getElem?.mp hn
  have hm : (Task.opening o (.done (.ok n))).Mentions n := .inr ⟨o, rfl⟩
  refine ⟨h.known t _ n ht hm, fun k hk hmakes => ?_⟩
  obtain ⟨u, hu⟩ := List.mem_iff_getElem?.mp hk
  obtain rfl := h.sole u t k _ n hu ht hmakes hm
  obtain rfl := Option.some.inj (ht.symm.trans hu)
  obtain ⟨o', st, ho, hst⟩ := hmakes
  cases ho
  cases hst

theorem place (h : Owned threads made) {k : Task} (hk : k.IsNew)
    (hout : ∀ n, k.on? = some n → ∃ o, Task.opening o (.done (.ok n)) ∈ threads)
    (place : ∀ (t : Nat) (k' : Task), threads'[t]? = some k' → k' = k ∨ threads[t]? = some k') :
    Owned threads' made := by
  have out : ∀ n, k.Mentions n → n < made ∧ ∀ k' ∈ threads, ¬ k'.Makes n := by
    intro n hm
    obtain ⟨o, ho⟩ := hout n (hk.mentions hm)
    exact h.not_makes ho
  refine ⟨fun t k' n ht hm => ?_, fun t u k₁ k₂ n ht hu hmakes hm => ?_⟩
  · rcases place t k' ht with rfl | ht
    · exact (out n hm).1
    · exact h.known t k' n ht hm
  · rcases place t k₁ ht with rfl | ht
    · exact absurd hmakes hk.not_makes
    · rcases place u k₂ hu with rfl | hu
      · exact absurd hmakes ((out n hm).2 k₁ (List.mem_of_getElem? ht))
      · exact h.sole t u k₁ k₂ n ht hu hmakes hm

/-- A thread goes on: it mentions and makes nothing new, but for the instances it makes now. -/
theorem turn (h : Owned threads made) {t made' : Nat} {k k' : Task} (ht : threads[t]? = some k)
    (more : made ≤ made')
    (mentions : ∀ n, k'.Mentions n → k.Mentions n ∨ made ≤ n ∧ n < made')
    (makes : ∀ n, k'.Makes n → k.Makes n ∨ made ≤ n) : Owned (threads.set t k') made' := by
  refine ⟨fun u k₁ n hu hm => ?_, fun u v k₁ k₂ n hu hv hmakes hm => ?_⟩
  · rcases of_getElem?_set hu with ⟨rfl, rfl⟩ | ⟨-, hu⟩
    · rcases mentions n hm with hm | hn
      · exact Nat.lt_of_lt_of_le (h.known u k n ht hm) more
      · exact hn.2
    · exact Nat.lt_of_lt_of_le (h.known u k₁ n hu hm) more
  · rcases of_getElem?_set hu with ⟨rfl, rfl⟩ | ⟨-, hu'⟩
    · rcases of_getElem?_set hv with ⟨rfl, -⟩ | ⟨-, hv'⟩
      · rfl
      · have old := h.known v k₂ n hv' hm
        rcases makes n hmakes with hmakes | hn
        · exact h.sole u v k k₂ n ht hv' hmakes hm
        · omega
    · have old := h.known u k₁ n hu' hmakes.mentions
      rcases of_getElem?_set hv with ⟨rfl, rfl⟩ | ⟨-, hv'⟩
      · rcases mentions n hm with hm | hn
        · exact h.sole u v k₁ k n hu' ht hmakes hm
        · omega
      · exact h.sole u v k₁ k₂ n hu' hv' hmakes hm

end Owned

/-! ## How many stand where -/

/-- How many of the threads stand to instance `n` in a given way. -/
def standings (threads : List Task) (n : Nat) (σ : Standing) : Nat :=
  threads.countP fun k => k.standingTo n == σ

section
variable {threads : List Task} {t : Nat} {k : Task}

theorem standings_set (ht : threads[t]? = some k) (k' : Task) (n : Nat) (σ : Standing) :
    standings (threads.set t k') n σ + (if k.standingTo n = σ then 1 else 0) =
      standings threads n σ + (if k'.standingTo n = σ then 1 else 0) := by
  simpa [standings] using countP_set_add ht k' fun k => k.standingTo n == σ

theorem standings_set_same (ht : threads[t]? = some k) {k' : Task} {n : Nat}
    (h : k'.standingTo n = k.standingTo n) :
    standings (threads.set t k') n = standings threads n := by
  funext σ
  have := standings_set ht k' n σ
  rw [h] at this
  omega

theorem standings_append (threads : List Task) {k : Task} {n : Nat} {σ : Standing}
    (h : k.standingTo n ≠ σ) : standings (threads ++ [k]) n σ = standings threads n σ := by
  simp [standings, List.countP_append, h]

theorem standings_pos (ht : threads[t]? = some k) (n : Nat) :
    0 < standings threads n (k.standingTo n) :=
  List.countP_pos_iff.mpr ⟨k, List.mem_of_getElem? ht, by simp⟩

theorem exists_of_standings_pos {n : Nat} {σ : Standing} (h : 0 < standings threads n σ) :
    ∃ (t : Nat) (k : Task), threads[t]? = some k ∧ k.standingTo n = σ := by
  obtain ⟨k, hk, hσ⟩ := List.countP_pos_iff.mp h
  obtain ⟨t, ht⟩ := List.mem_iff_getElem?.mp hk
  exact ⟨t, k, ht, by simpa using hσ⟩

end

/-! ## The invariant -/

namespace System

/-- What every turn has in common: thread `t` goes on from task `k` to task `k'`, and it mentions
and makes nothing new but the instances that it makes now. -/
structure Turn.Shape (s : System) (t : Nat) (k k' : Task) (instances : List Instance) : Prop where
  before : s.threads[t]? = some k
  more : s.instances.length ≤ instances.length
  mentions : ∀ n, k'.Mentions n → k.Mentions n ∨ s.instances.length ≤ n ∧ n < instances.length
  makes : ∀ n, k'.Makes n → k.Makes n ∨ s.instances.length ≤ n

theorem Turn.shape {s s' : System} {t : Nat} (h : s.Turn t s') :
    ∃ k k' module m' instances events,
      s' = s.turn t module k.on? k' m' instances events ∧ Shape s t k k' instances := by
  cases h with
  | early o st st' made m m' events ht hon hm hs =>
    have mentions : ∀ n, (Task.opening o st').Mentions n →
        s.instances.length ≤ n ∧ n < (s.instances ++ made.toList).length := by
      intro n hm
      obtain ⟨rfl, rfl⟩ := (Opening.stepEarly_cases hs).mentions hm
      simp
    have on : (Task.opening o st).on? = none := hon
    exact ⟨_, _, _, _, _, _, by rw [on], ht, by simp, fun n hm => .inr (mentions n hm),
      fun n hm => .inr (mentions n hm.mentions).1⟩
  | late k k' n i i' m m' events ht hon hi hm hs =>
    refine ⟨k, k', _, _, _, _, by rw [hon], ht, by simp, fun n' hm => .inl ?_, fun n' hm => .inl ?_⟩
    · rw [(Task.stepOn_mentions hon hs).1 hm]
      exact .inl hon
    · exact (Task.stepOn_mentions hon hs).2 hm
  | direct k k' module m m' events ht hd hm hs =>
    have quiet := Task.not_mentions_of_direct ((Task.stepIn_direct hs).trans hd)
    exact ⟨k, k', _, _, _, _, by rw [Task.on?_of_direct hd], ht, Nat.le_refl _,
      fun n hm => absurd hm (quiet n), fun n hm => absurd hm.mentions (quiet n)⟩

structure Orderly (s : System) : Prop where
  owned : Owned s.threads s.instances.length
  told : ∀ x ∈ s.history, ∀ n, x.on = some n → n < s.instances.length
  books : ∀ n i, s.instances[n]? = some i →
    Books i.exports i.gate (standings s.threads n) (entries (s.instanceLog n))

namespace Orderly

variable {s s' : System}

theorem instanceLog_fresh (h : s.Orderly) : s.instanceLog s.instances.length = [] := by
  refine log_eq_nil fun x hx => ?_
  have := h.told x hx s.instances.length
  simp only [beq_eq_false_iff_ne]
  intro hon
  exact absurd (this hon) (Nat.lt_irrefl _)

theorem standingTo_fresh (h : s.Orderly) {t : Nat} {k : Task} (ht : s.threads[t]? = some k) :
    k.standingTo s.instances.length = .apart := by
  refine Task.standingTo_other fun hon => ?_
  exact absurd (h.owned.known t k _ ht (.inl hon)) (Nat.lt_irrefl _)

theorem owned_turn (h : s.Orderly) {t : Nat} (hs : s.Turn t s') :
    Owned s'.threads s'.instances.length := by
  obtain ⟨k, k', module, m', instances, events, rfl, shape⟩ := hs.shape
  exact h.owned.turn shape.before shape.more shape.mentions shape.makes

theorem told_turn (h : s.Orderly) {t : Nat} (hs : s.Turn t s') :
    ∀ x ∈ s'.history, ∀ n, x.on = some n → n < s'.instances.length := by
  obtain ⟨k, k', module, m', instances, events, rfl, shape⟩ := hs.shape
  intro x hx n hn
  refine Nat.lt_of_lt_of_le ?_ shape.more
  rcases mem_turn_history.mp hx with ⟨e, -, rfl⟩ | hx
  · exact h.owned.known t k n shape.before (.inl hn)
  · exact h.told x hx n hn

theorem books_turn (h : s.Orderly) {t n : Nat} {i : Instance} (hs : s.Turn t s')
    (hi : s.instances[n]? = some i) : ∃ i', s'.instances[n]? = some i' ∧
      Books i'.exports i'.gate (standings s'.threads n) (entries (s'.instanceLog n)) := by
  obtain ⟨k, k', i', marks, view⟩ := hs.view hi
  refine ⟨i', view.found, ?_⟩
  have word : entries (s'.instanceLog n) = entries (s.instanceLog n) ++ entries marks := by
    rw [← entries_gateMarks, view.log, entries_append, entries_gateMarks]
  rw [word, view.make.exports, view.after]
  refine (h.books n i hi).step view.gate (standings_pos view.before n)
    (standings_set view.before k' n) fun hmine hσ => ?_
  -- Whoever else stood before `OnLoad` would be the maker, beside whom none mentions the instance.
  refine Nat.eq_zero_of_not_pos fun pos => ?_
  obtain ⟨u, k₁, hu, hstart⟩ := exists_of_standings_pos pos
  obtain rfl := h.owned.sole u t k₁ k n hu view.before (Task.makes_of_starting hstart)
    (.inl (view.mine hmine))
  obtain rfl := Option.some.inj (hu.symm.trans view.before)
  exact hσ hstart

theorem books_new (h : s.Orderly) {t : Nat} {o : Opening} {st st' : OpenStage} {m m' : Module}
    {i : Instance} {events : List Event} (ht : s.threads[t]? = some (.opening o st))
    (hs : o.Early s.instances.length m st st' (some i) m' events) :
    Books i.exports i.gate (standings (s.threads.set t (.opening o st')) s.instances.length) [] := by
  obtain rfl : i = o.toInstance := by cases hs <;> rfl
  refine .fresh fun σ hσ => ?_
  have none : standings s.threads s.instances.length σ = 0 := by
    refine Nat.eq_zero_of_not_pos fun pos => ?_
    obtain ⟨u, k, hu, rfl⟩ := exists_of_standings_pos pos
    exact hσ (h.standingTo_fresh hu)
  have step := standings_set ht (.opening o st') s.instances.length σ
  rw [h.standingTo_fresh ht, none, if_neg hσ.symm] at step
  cases hs with
  | load found hfound hload =>
    rw [Task.standingTo_self rfl] at step
    simp only [Opening.toInstance, hload, and_true]
    simpa [Task.standing, OpenStage.standing, eq_comm] using step
  | skip found hfound hload =>
    rw [Task.standingTo_self rfl] at step
    simpa [Task.standing, OpenStage.standing, hσ.symm, Opening.toInstance, hload] using step

theorem turn (h : s.Orderly) {t : Nat} (hs : s.Turn t s') : s'.Orderly := by
  refine ⟨h.owned_turn hs, h.told_turn hs, fun n j hj => ?_⟩
  cases hi : s.instances[n]? with
  | some i =>
    obtain ⟨i', hi', books⟩ := h.books_turn hs hi
    obtain rfl := Option.some.inj (hi'.symm.trans hj)
    exact books
  | none =>
    obtain ⟨o, st, st', m, m', events, ht, -, made, rfl, rfl⟩ := hs.newborn hi hj
    rw [instanceLog_turn_other (by simp), h.instanceLog_fresh]
    exact h.books_new ht made

theorem move (h : s.Orderly) (hm : Move s s') : s'.Orderly := by
  cases hm with
  | install m _ => exact ⟨h.owned, h.told, h.books⟩
  | begin k hnew hout =>
    refine ⟨h.owned.place hnew hout fun t k' ht => ?_, h.told, fun n i hi => ?_⟩
    · simp only [spawn] at ht
      rw [List.getElem?_append] at ht
      split at ht
      · exact .inr ht
      · exact .inl (List.mem_singleton.mp (List.mem_of_getElem? ht))
    · refine (h.books n i hi).congr (fun σ hσ _ => ?_) fun pos => ?_
      · exact standings_append s.threads (by rw [hnew.standingTo]; exact hσ.symm)
      · have same : standings (s.threads ++ [k]) n .ended = standings s.threads n .ended :=
          standings_append s.threads (by rw [hnew.standingTo]; decide)
        exact (h.books n i hi).ended (same ▸ pos)
  | again t c d r ht hdone hnew hout =>
    refine ⟨h.owned.place hnew (fun n hn => ?_) fun u k' hu => ?_, h.told, fun n i hi => ?_⟩
    · cases hn
      exact hout
    · rcases of_getElem?_set hu with ⟨-, rfl⟩ | ⟨-, hu⟩
      · exact .inl rfl
      · exact .inr hu
    · have apart : (Task.calling c).standingTo n = .apart := by
        simp [Task.standingTo, Task.standing, Call.standing, hdone]
      have same : standings (s.threads.set t (.calling d)) n = standings s.threads n :=
        standings_set_same ht (by rw [hnew.standingTo, apart])
      rw [show standings (s.assign t (.calling d)).threads n = standings s.threads n from same]
      exact h.books n i hi
  | step _ t hs => exact h.turn (step_cases hs)

end Orderly

theorem Run.orderly {s : System} (h : Run s) : s.Orderly := by
  refine h.induction ⟨⟨?_, ?_⟩, ?_, ?_⟩ fun s s' _ orderly hm => orderly.move hm
  · simp
  · simp
  · simp
  · simp

theorem Run.housed {s : System} (h : Run s) {n : Nat} {i : Instance}
    (hi : s.instances[n]? = some i) : ∃ m, s.modules[i.module]? = some m := by
  have key : ∀ (n : Nat) (i : Instance), s.instances[n]? = some i →
      i.module < s.modules.length := by
    refine h.induction (P := fun s => ∀ (n : Nat) (i : Instance), s.instances[n]? = some i →
      i.module < s.modules.length) (by simp) fun s s' hr ih hm n i' hi' => ?_
    cases hm with
    | install m _ =>
      simp only [addModule, List.length_append, List.length_singleton]
      exact Nat.lt_succ_of_lt (ih n i' hi')
    | begin k _ _ | again t c d r _ _ _ _ => exact ih n i' hi'
    | step _ t hs =>
      have turn := step_cases hs
      have kept : s'.modules.length = s.modules.length := by
        obtain ⟨k, k', module, m', instances, events, rfl, -⟩ := turn.shape
        simp
      rw [kept]
      cases hi : s.instances[n]? with
      | some i =>
        obtain ⟨k, k', i₁, marks, view⟩ := turn.view hi
        obtain rfl := Option.some.inj (view.found.symm.trans hi')
        rw [view.make.module]
        exact ih n i hi
      | none =>
        obtain ⟨o, st, st', m, m', events, -, hm, made, -, -⟩ := turn.newborn hi hi'
        have here := (List.getElem?_eq_some_iff.mp hm).1
        cases made <;> exact here
  exact ⟨_, List.getElem?_eq_getElem (key n i hi)⟩

/-- **All moves on an instance.** A move is one of `Gate.Step` for each instance that there is, or
nothing, in a standing that the books allow. -/
theorem Move.gate {s s' : System} (h : Move s s') {n : Nat} {i : Instance}
    (hi : s.instances[n]? = some i) : ∃ (i' : Instance) (σ σ' : Standing) (marks : List Event),
      s'.instances[n]? = some i' ∧ i.SameMake i' ∧ Gate.Step i.exports i.gate σ marks i'.gate σ' ∧
      gateMarks (s'.instanceLog n) = gateMarks (s.instanceLog n) ++ marks ∧
      (σ = .apart ∨ 0 < standings s.threads n σ) := by
  have still : s'.instances = s.instances → s'.history = s.history →
      ∃ (i' : Instance) (σ σ' : Standing) (marks : List Event), s'.instances[n]? = some i' ∧
        i.SameMake i' ∧ Gate.Step i.exports i.gate σ marks i'.gate σ' ∧
        gateMarks (s'.instanceLog n) = gateMarks (s.instanceLog n) ++ marks ∧
        (σ = .apart ∨ 0 < standings s.threads n σ) := by
    intro instances history
    have log : s'.instanceLog n = s.instanceLog n := by rw [instanceLog, System.log, history]; rfl
    exact ⟨i, .apart, .apart, [], by rw [instances, hi], .refl i, .stay i.gate .apart (by decide),
      by rw [log, List.append_nil], .inl rfl⟩
  cases h with
  | install | begin | again => exact still rfl rfl
  | step _ t hs =>
    obtain ⟨k, k', i', marks, view⟩ := (step_cases hs).view hi
    exact ⟨i', _, _, marks, view.found, view.make, view.gate, view.log,
      .inr (standings_pos view.before n)⟩

/-- A move in which an instance comes to be: it is as fresh as its opening makes it. -/
theorem Move.newborn {s s' : System} (hr : Run s) (h : Move s s') {n : Nat} {i : Instance}
    (new : s.instances[n]? = none) (hi : s'.instances[n]? = some i) :
    i.gate = {} ∧ s'.instanceLog n = [] := by
  cases h with
  | install | begin | again => cases new.symm.trans hi
  | step _ t hs =>
    obtain ⟨o, st, st', m, m', events, -, -, made, rfl, rfl⟩ := (step_cases hs).newborn new hi
    refine ⟨by cases made <;> rfl, ?_⟩
    rw [instanceLog_turn_other (by simp), hr.orderly.instanceLog_fresh]

end System

end ModuleHost
