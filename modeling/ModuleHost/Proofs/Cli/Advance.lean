import ModuleHost.Proofs.Cli.Unloading
import ModuleHost.Proofs.Progress.Deadlock
import ModuleHost.Proofs.Progress.Finite

/-!
# Commands come to their end

No schedule of a command goes on for ever (`Order.no_endless_schedule`): every step lowers the stage's
rank, in which first the stage counts, then the numbers that are still to be taken and the workers that
have not stopped, then the calls that are being made, and at last what the threads have still to do. And
unless module code has broken off, a command that has not ended has a next step
(`Course.advances`), whichever worker has been let go on before.
-/
namespace ModuleHost

open Boundary

namespace System

variable {s : System} {t : Nat} {k : Task}

/-- Where somebody has not come to its end, somebody can go on. -/
theorem Run.moves_on (hr : Run s) (whole : s.Whole) (ht : s.threads[t]? = some k)
    (open₀ : k.report? = none) {n : Nat} (on : k.on? = some n) : ∃ u s', s.step u = some s' := by
  obtain ⟨i, m, -, home, hm⟩ := hr.home ht on
  obtain ⟨u, -, s', hs⟩ := hr.clears whole ht open₀ home hm
  exact ⟨u, s', hs⟩

theorem Sole.moves_on {o : Opening} {st : OpenStage} (h : s.Sole o st) (whole : s.Whole)
    (open₀ : ∀ r, st ≠ .done r) : ∃ s', s.step 0 = some s' := by
  have unreported : (Task.opening o st).report? = none := by
    cases st with
    | done r => exact absurd rfl (open₀ r)
    | _ => rfl
  obtain ⟨u, s', hs⟩ : ∃ u s', s.step u = some s' := by
    cases on : st.on? with
    | some n => exact h.run.moves_on whole h.thread unreported on
    | none =>
      have home : (Task.opening o st).module? s.instances = some o.module := by
        simp only [Task.module?, Task.on?, on]
        rfl
      obtain ⟨u, -, s', hs⟩ := h.run.clears whole h.thread unreported home
        (List.getElem?_eq_getElem h.housed)
      exact ⟨u, s', hs⟩
  obtain ⟨k', -, hu, -⟩ := step_threads hs
  have there := (List.getElem?_eq_some_iff.mp hu).1
  rw [h.threads, List.length_singleton, Nat.lt_one_iff] at there
  subst there
  exact ⟨s', hs⟩

end System

namespace Cli

namespace Pool

variable {p p' : Pool} {w : Nat} {act : Act}

theorem Manned.reported (m : p.Manned) {t : Nat} {k : Task} (ht : p.system.threads[t]? = some k)
    (free : ∀ (w : Nat) (worker : Worker), p.workers[w]? = some worker → worker.thread = some t →
      worker.stage ≠ .calling) : ∃ r, p.system.report? t = some r := by
  rcases m.others t k ht with ⟨o, r, rfl⟩ | ⟨w, worker, hw, hthread⟩
  · exact ⟨.opened r, by simp [System.report?, ht, Task.report?]⟩
  · obtain ⟨c, serves⟩ := m.own w worker t hw hthread
    obtain ⟨r, done⟩ := serves.done (free w worker hw hthread)
    exact ⟨.called r c.visit.proxy c.visit.data, by
      simp [System.report?, serves.here, Task.report?, done]⟩

/-- **A pool that is not over goes on.** -/
theorem Manned.advances (m : p.Manned) (whole : p.system.Whole) (going : ¬ p.Over) :
    ∃ w act p', p.Transition w act p' := by
  unfold Over at going
  push Not at going
  obtain ⟨worker, mem, unfinished⟩ := going
  obtain ⟨w, hw⟩ := List.mem_iff_getElem?.mp mem
  cases hs : worker.stage with
  | finished => exact absurd hs unfinished
  | taking =>
    rcases Nat.lt_or_ge p.taken p.total with more | past
    · exact ⟨w, _, _, .begin worker hw hs more⟩
    · exact ⟨w, _, _, .stop worker hw hs past⟩
  | calling =>
    obtain ⟨t, ht⟩ := m.threaded w worker hw hs
    obtain ⟨c, serves⟩ := m.own w worker t hw ht
    by_cases done : ∃ r, c.stage = .done r
    · obtain ⟨r, done⟩ := done
      refine ⟨w, _, _, .deliver worker t r c.visit.proxy c.visit.data hw hs ht ?_⟩
      simp [System.report?, serves.here, Task.report?, done]
    · have open₀ : (Task.calling c).report? = none := by
        cases hc : c.stage with
        | done r => exact absurd ⟨r, hc⟩ done
        | _ => simp [Task.report?, hc]
      -- Whoever can go on is a worker in a call: all others have come to their end.
      obtain ⟨u, s', step⟩ := m.run.moves_on whole serves.here open₀ rfl
      obtain ⟨k, -, hu, -⟩ := System.step_threads step
      have unreported : ∀ r, p.system.report? u ≠ some r := by
        intro r report
        cases (System.step_of_report report).symm.trans step
      by_contra stuck
      obtain ⟨r, report⟩ := m.reported hu fun v other hv hthread calling =>
        stuck ⟨v, _, _, .work other u s' hv calling hthread (fun r proxy data => unreported _) step⟩
      exact unreported r report

/-- What a pool has still to do: numbers to be taken and workers to be stopped, calls to be delivered,
and the calls themselves. -/
def rank (p : Pool) : Nat × Nat × Multiset Rank :=
  ((p.total - p.taken) + (p.workers.length - p.stopped), p.making fun _ => true, p.system.ranks)

/-- The order of ranks. -/
def Below : Nat × Nat × Multiset Rank → Nat × Nat × Multiset Rank → Prop :=
  Prod.Lex (· < ·) (Prod.Lex (· < ·) (Relation.CutExpand Rank.Less))

theorem wellFounded_below : WellFounded Below :=
  WellFounded.prod_lex Nat.lt_wfRel.wf (WellFounded.prod_lex Nat.lt_wfRel.wf System.wellFounded_ranks)

theorem Manned.descends (m : p.Manned) (transition : p.Transition w act p') : Below p'.rank p.rank := by
  obtain ⟨-, seen⟩ := m.transition transition
  have making := seen.shift.making
  obtain ⟨taken, stopped, more, past, -, -⟩ := seen.shift
  have total := transition.alike.total
  have size := transition.alike.size
  have few : p'.stopped ≤ p'.workers.length := List.countP_le_length
  cases act with
  | begin =>
    have less := more rfl
    refine .left _ _ ?_
    simp only [Act.begins, Act.stops, Bool.toNat_true, Bool.toNat_false] at taken stopped
    omega
  | stop =>
    have beyond := past rfl
    refine .left _ _ ?_
    simp only [Act.begins, Act.stops, Bool.toNat_true, Bool.toNat_false] at taken stopped
    omega
  | deliver r data =>
    simp only [Act.begins, Act.stops, Act.outcome?, Bool.toNat_false, Option.toList_some,
      List.length_singleton, Nat.add_zero] at taken stopped making
    rw [Pool.rank, Pool.rank, taken, stopped, total, size]
    refine .right _ (.left _ _ ?_)
    omega
  | work =>
    simp only [Act.begins, Act.outcome?, Bool.toNat_false, Option.toList_none,
      List.length_nil] at making
    have still : p'.making (fun _ => true) = p.making fun _ => true := by omega
    cases transition with
    | work worker t s hw calling ht unreported hs =>
      rw [Pool.rank, Pool.rank, still]
      exact .right _ (.right _ (m.run.descends hs))

end Pool

/-- What a command has still to do: stages first. -/
def Stage.rank : Stage → Nat × Nat × Nat × Multiset Rank
  | .opening _ _ s _ => (3, 0, 0, s.ranks)
  | .sending _ p => (2, p.rank)
  | .unloading left s t _ => (1, 2 * left.length + (if t.isSome then 0 else 1), 0, s.ranks)
  | .ended _ => (0, 0, 0, 0)

namespace Order

variable {o : Order} {trace : Trace} {b c : Stage} {act : Option (Nat × Pool.Act)}

theorem Course.run (pristine : o.Pristine) (h : o.Course o.start trace b) : System.Run b.system := by
  cases b with
  | opening request todo s t =>
    obtain ⟨-, -, st, sole⟩ := course_opening_sole pristine h _ _ _ _ rfl
    exact sole.run
  | sending l p =>
    obtain ⟨i, sending⟩ := h.sending pristine l p rfl
    exact sending.manned.run
  | unloading left s t result =>
    obtain ⟨p, ⟨⟨l, i, -, sending⟩, -, shuts⟩, -⟩ := h.stage_cases pristine
    cases shuts with
    | before => exact sending.manned.run
    | during key s σ later | after s r later => exact sending.manned.run.later later
  | ended f =>
    rcases h.stage_cases pristine with failed | ⟨p, ⟨⟨l, i, -, sending⟩, -, shuts⟩, -⟩
    · cases failed with
      | early => exact .refl {}
      | opening s todo e sole => exact sole.run
    · cases shuts with
      | after s r later => exact sending.manned.run.later later

theorem Course.descends (pristine : o.Pristine) (h : o.Course o.start trace b)
    (hs : o.Step b act c) : Prod.Lex (· < ·) Pool.Below c.rank b.rank := by
  have run := h.run pristine
  cases hs with
  | opens request todo s s' t hs => exact .right _ (.right _ (.right _ (run.descends hs)))
  | opened | refused | sent | ends => exact .left _ _ (by simp)
  | sends l p p' w act transition =>
    obtain ⟨i, sending⟩ := h.sending pristine l p rfl
    exact .right _ (sending.manned.descends transition)
  | shuts e left s result | shut e left s t r result report =>
    refine .right _ (.left _ _ ?_)
    simp only [List.length_cons, Option.isSome_none, Option.isSome_some, if_true,
      Bool.false_eq_true, if_false]
    omega
  | unloads left s s' t result hs => exact .right _ (.right _ (.right _ (run.descends hs)))

/-- **No schedule goes on for ever.** -/
theorem no_endless_schedule (pristine : o.Pristine) (σ : Nat → Stage)
    (first : o.Course o.start trace (σ 0)) : ¬ ∀ j, ∃ act, o.Step (σ j) act (σ (j + 1)) := by
  intro steps
  have reached : ∀ j, ∃ trace, o.Course o.start trace (σ j) := by
    intro j
    induction j with
    | zero => exact ⟨trace, first⟩
    | succ j ih =>
      obtain ⟨trace, course⟩ := ih
      obtain ⟨act, step⟩ := steps j
      exact ⟨_, course.step step⟩
  have wf : WellFounded (Prod.Lex (· < ·) Pool.Below : Nat × Nat × Nat × Multiset Rank → _ → Prop) :=
    WellFounded.prod_lex Nat.lt_wfRel.wf Pool.wellFounded_below
  refine (wellFounded_iff_isEmpty_descending_chain.mp wf).false ⟨fun j => (σ j).rank, fun j => ?_⟩
  obtain ⟨trace, course⟩ := reached j
  obtain ⟨act, step⟩ := steps j
  exact course.descends pristine step

/-- **A command that has not ended goes on**, unless module code has broken off. -/
theorem Course.advances (pristine : o.Pristine) (h : o.Course o.start trace b)
    (whole : b.system.Whole) (going : ∀ f, b ≠ .ended f) : ∃ act c, o.Step b act c := by
  cases b with
  | opening request todo s t =>
    obtain ⟨-, rfl, st, sole⟩ := course_opening_sole pristine h _ _ _ _ rfl
    by_cases done : ∃ r, st = .done r
    · obtain ⟨r, rfl⟩ := done
      have report : s.report? 0 = some (.opened r) := by
        simp [System.report?, sole.thread, Task.report?]
      cases r with
      | ok n => exact ⟨_, _, .opened request todo s 0 n report⟩
      | error e => exact ⟨_, _, .refused request todo s 0 e report⟩
    · obtain ⟨s', hs⟩ := sole.moves_on whole fun r hr => done ⟨r, hr⟩
      exact ⟨_, _, .opens request todo s s' 0 hs⟩
  | sending l p =>
    obtain ⟨i, sending⟩ := h.sending pristine l p rfl
    by_cases halted : p.Over
    · exact ⟨_, _, .sent l p halted⟩
    · obtain ⟨w, act, p', transition⟩ := sending.manned.advances whole halted
      exact ⟨_, _, .sends l p p' w act transition⟩
  | unloading left s t result =>
    have run := h.run pristine
    obtain ⟨p, ⟨⟨l, i, -, sending⟩, halted, shuts⟩, -⟩ := h.stage_cases pristine
    cases shuts with
    | before key => exact ⟨_, _, .shuts (key, p.on) [] p.system result⟩
    | after s r => exact ⟨_, _, .ends s result⟩
    | during key s σ later threads =>
      have here := System.thread_of_concat threads
      by_cases done : ∃ r, σ = .done r
      · obtain ⟨r, rfl⟩ := done
        exact ⟨_, _, .shut (key, p.on) [] s _ r result (by simp [System.report?, here, Task.report?])⟩
      · have open₀ : (Task.shutting p.on σ).report? = none := by
          cases σ with
          | done r => exact absurd ⟨r, rfl⟩ done
          | _ => rfl
        -- The threads from before have come to their end: nobody else can go on.
        obtain ⟨u, s', hs⟩ : ∃ u s', s.step u = some s' := run.moves_on whole here open₀ rfl
        obtain ⟨k, -, hu, -⟩ := System.step_threads hs
        have place := hu
        rw [threads] at place
        rcases of_getElem?_concat place with old | ⟨-, rfl⟩
        · obtain ⟨r, report⟩ := sending.manned.reported old fun w worker hw _ calling =>
            absurd (halted worker (List.mem_of_getElem? hw)) (by rw [calling]; decide)
          have same : s.report? u = some r := by
            rw [← report, System.report?, System.report?, hu, old]
          cases (System.step_of_report same).symm.trans hs
        · exact ⟨_, _, .unloads [(key, p.on)] s s' _ result hs⟩
  | ended f => exact absurd rfl (going f)

end Order

end Cli

end ModuleHost
