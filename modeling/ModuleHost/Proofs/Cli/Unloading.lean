import ModuleHost.Proofs.Cli.Sending
import ModuleHost.Proofs.Loader.Registry

/-!
# The end of a command

Once its pool is over a command shuts down the one instance that it has registered, on a thread of its
own (`Shuts`). Nobody else does anything meanwhile, so no request entry point is called any more, and
when that thread has come to its end the instance is unloaded. `Course.stage_cases` says how a command
came to stand where it stands.
-/
namespace ModuleHost

open Boundary

namespace System

variable {s s' : System} {t n : Nat} {σ : ShutdownStage}

theorem thread_of_concat {ts : List Task} {k : Task} (h : s.threads = ts ++ [k]) :
    s.threads[ts.length]? = some k := by
  rw [h]
  exact List.getElem?_concat_length

/-- A step of a thread that shuts an instance down: the thread goes on with it, and calls no request
entry point. -/
theorem step_shuts (ht : s.threads[t]? = some (.shutting n σ)) (hs : s.step t = some s') :
    (∃ σ', s'.threads = s.threads.set t (.shutting n σ')) ∧
      s'.instances.length = s.instances.length ∧ s'.requests n = s.requests n := by
  cases step_cases hs with
  | early o st st' made m m' events hk => cases ht.symm.trans hk
  | direct k k' j m m' events hk hd =>
    cases ht.symm.trans hk
    cases hd
  | late k k' n' i i' m m' events hk hon hi hm hstep =>
    obtain rfl := Option.some.inj (ht.symm.trans hk)
    obtain rfl := Option.some.inj hon
    have gate := (Task.stepOn_spec hon hstep).1.gate
    rw [Task.standingTo_self hon] at gate
    refine ⟨?_, List.length_set, ?_⟩
    · simp only [Task.stepOn, Option.map_eq_some_iff, Prod.mk.injEq] at hstep
      obtain ⟨⟨σ', i₁, m₁, events₁⟩, -, rfl, -⟩ := hstep
      exact ⟨σ', rfl⟩
    · have none : (entries events).countP (·.isRequest) = 0 := by
        refine List.countP_eq_zero.mpr fun e he request => ?_
        rw [← entries_gateMarks] at he
        rcases gate.entered (mem_entries.mp he) with ⟨rfl, -⟩ | ⟨-, admitted⟩ | ⟨rfl, -⟩
        · cases request
        · exact absurd admitted σ.standing_ne.2.1
        · cases request
      rw [Cli.Pool.requests_turn, none, Nat.add_zero]

end System

namespace Cli

/-- What has become of the instance of a pool that is over: nothing yet, or it is being shut down on a
new thread, or that thread has come to its end. -/
inductive Shuts (p : Pool) : List (String × Nat) → Option Nat → System → Prop
  | before (key : String) : Shuts p [(key, p.on)] none p.system
  | during (key : String) (s : System) (σ : ShutdownStage) :
      System.Later p.system s → s.threads = p.system.threads ++ [.shutting p.on σ] →
      s.instances.length = p.system.instances.length →
      s.requests p.on = p.system.requests p.on →
      Shuts p [(key, p.on)] (some p.system.threads.length) s
  | after (s : System) (r : ShutdownOutcome) :
      System.Later p.system s → s.threads = p.system.threads ++ [.shutting p.on (.done r)] →
      s.instances.length = p.system.instances.length →
      s.requests p.on = p.system.requests p.on → Shuts p [] none s

namespace Order

variable {o : Order} {trace : Trace} {b : Stage}

/-- A command that has sent its requests with pool `p`, and how far it has shut down. -/
structure Sent (o : Order) (trace : Trace) (p : Pool) (left : List (String × Nat)) (t : Option Nat)
    (s : System) : Prop where
  sending : ∃ l i, o.Course o.start trace (.sending l p) ∧ o.Sending l p trace i
  halted : p.Over
  shuts : Shuts p left t s

/-- A command that has failed before its module was loaded, and nothing but an opening has run. -/
inductive Failed (o : Order) : Trace → Finished → Prop
  | early (e : Failure) : Failed o [] ⟨{}, .error e⟩
  | opening (s : System) (todo : Loader.Load) (e : HostError) :
      s.Sole todo.opening (.done (.error e)) → Failed o [] ⟨s, .error (.host e)⟩

/-- How a command came to stand where it stands, once it neither opens nor sends. -/
def Stands (o : Order) (trace : Trace) : Stage → Prop
  | .opening .. | .sending .. => True
  | .unloading left s t result => ∃ p, o.Sent trace p left t s ∧ result = o.result p
  | .ended f => o.Failed trace f ∨ ∃ p, o.Sent trace p [] none f.system ∧ f.result = o.result p

theorem Sent.step {left left' : List (String × Nat)} {t t' : Option Nat} {s s' : System} {p : Pool}
    (h : o.Sent trace p left t s) (shuts : Shuts p left' t' s') : o.Sent trace p left' t' s' :=
  { h with shuts }

/-- **How a command came to stand where it stands.** -/
theorem Course.stage_cases (pristine : o.Pristine) (h : o.Course o.start trace b) :
    o.Stands trace b := by
  induction h with
  | refl =>
    rcases o.start_cases with ⟨e, start⟩ | ⟨request, todo, s, t, start⟩
    · rw [start]
      exact .inl (.early e)
    · rw [start]
      trivial
  | @step b c trace act course hs ih =>
    cases hs with
    | opens | opened | sends => trivial
    | refused request todo s t e report =>
      obtain ⟨rfl, rfl, st, sole⟩ := course_opening_sole pristine course _ _ _ _ rfl
      simp only [System.report?, sole.thread, Option.bind_some] at report
      cases st with
      | done r =>
        cases report
        exact .inl (.opening s todo e sole)
      | _ => cases report
    | sent l p halted =>
      obtain ⟨i, sending⟩ := course.sending pristine l p rfl
      obtain ⟨key, filed⟩ := sending.filed
      simp only [Option.toList_none, List.append_nil, Stands, filed]
      exact ⟨p, ⟨⟨l, i, course, sending⟩, halted, .before key⟩, rfl⟩
    | shuts e left s result =>
      obtain ⟨p, sent, rfl⟩ := ih
      obtain ⟨l, i, -, sending⟩ := sent.sending
      have shuts := sent.shuts
      simp only [Option.toList_none, List.append_nil]
      cases shuts with
      | before key =>
        have begins : System.Move p.system (p.system.spawn (.shutting p.on .arriving)) :=
          .begin _ _ rfl fun n on => by cases on; exact sending.manned.handed
        exact ⟨p, sent.step (.during key _ .arriving begins.later rfl rfl rfl), rfl⟩
    | unloads left s s' t result hs =>
      obtain ⟨p, sent, rfl⟩ := ih
      have shuts := sent.shuts
      simp only [Option.toList_none, List.append_nil]
      cases shuts with
      | during key _ σ later threads many quiet =>
        have here := System.thread_of_concat threads
        obtain ⟨⟨σ', threads'⟩, many', quiet'⟩ := System.step_shuts here hs
        refine ⟨p, sent.step (.during key s' σ' (later.trans (System.Move.step s s' _ hs).later) ?_
          (many'.trans many) (quiet'.trans quiet)), rfl⟩
        rw [threads', threads, List.set_append_right _ _ (Nat.le_refl _), Nat.sub_self]
        rfl
    | shut e left s t r result report =>
      obtain ⟨p, sent, rfl⟩ := ih
      have shuts := sent.shuts
      simp only [Option.toList_none, List.append_nil]
      cases shuts with
      | during key _ σ later threads many quiet =>
        have here := System.thread_of_concat threads
        simp only [System.report?, here, Option.bind_some] at report
        cases σ with
        | done r' => exact ⟨p, sent.step (.after s r' later threads many quiet), rfl⟩
        | _ => cases report
    | ends s result =>
      obtain ⟨p, sent, rfl⟩ := ih
      simp only [Option.toList_none, List.append_nil]
      exact .inr ⟨p, sent, rfl⟩

end Order

end Cli

end ModuleHost
