import ModuleHost.Proofs.Cli.Opened
import ModuleHost.Proofs.Instance.Calling

/-!
# Workers and their threads

Every worker of a pool has a thread of its own, which it starts with its first call and uses for all
others, one after the other (`Manned`). So the calls that are being made are known by the workers that
make them (`Pool.calls`), and a step of a worker changes the entry of this worker alone: `Pool.Seen`
lists what the steps come to, and `Manned.transition` says that there are no others.
-/
namespace ModuleHost

open Boundary

theorem Call.Transition.proxy {i i' : Instance} {m m' : Module} {c c' : Call} {events : List Event}
    (h : c.Transition i m c' i' m' events) : c'.visit.proxy = c.visit.proxy := by
  cases h with
  | visiting v m' events _ hs => exact (Visit.step_spec hs).proxy
  | missing | admitted | refused | returned | broke | retire | release => rfl

namespace Cli.Pool

/-- The call that a worker is in. -/
def call? (p : Pool) (worker : Worker) : Option Call :=
  match worker.stage, worker.thread.bind fun t => p.system.threads[t]? with
  | .calling, some (.calling c) => some c
  | _, _ => none

/-- The calls that the workers are in. -/
def calls (p : Pool) : List (Option Call) := p.workers.map p.call?

/-- A call as a worker begins it. -/
def firstCall (p : Pool) : Call := Call.start p.on p.proxy p.request {} {}

/-- What thread `t` of a worker does. -/
structure Serves (p : Pool) (worker : Worker) (t : Nat) (c : Call) : Prop where
  here : p.system.threads[t]? = some (.calling c)
  on : c.on = p.on
  proxy : c.visit.proxy = p.proxy
  /-- A worker that is in no call has made its last one to the end. -/
  done : worker.stage ≠ .calling → ∃ r, c.stage = .done r

structure Manned (p : Pool) : Prop where
  run : System.Run p.system
  handed : p.system.HandedOut p.on
  own : ∀ (w : Nat) (worker : Worker) (t : Nat), p.workers[w]? = some worker →
    worker.thread = some t → ∃ c, p.Serves worker t c
  threaded : ∀ (w : Nat) (worker : Worker), p.workers[w]? = some worker →
    worker.stage = .calling → ∃ t, worker.thread = some t
  apart : ∀ (w w' : Nat) (worker worker' : Worker) (t : Nat), p.workers[w]? = some worker →
    p.workers[w']? = some worker' → worker.thread = some t → worker'.thread = some t → w = w'
  /-- Whoever is no worker has come to its end. -/
  others : ∀ (t : Nat) (k : Task), p.system.threads[t]? = some k →
    (∃ o r, k = .opening o (.done r)) ∨
    ∃ (w : Nat) (worker : Worker), p.workers[w]? = some worker ∧ worker.thread = some t

variable {p p' : Pool} {w : Nat} {worker worker' : Worker} {act : Act}

theorem call?_of_thread {t : Nat} {c : Call} (calling : worker.stage = .calling)
    (ht : worker.thread = some t) (here : p.system.threads[t]? = some (.calling c)) :
    p.call? worker = some c := by
  simp [call?, calling, ht, here]

theorem call?_of_stage (free : worker.stage ≠ .calling) : p.call? worker = none := by
  unfold call?
  split
  · rename_i calling _
    exact absurd calling free
  · rfl

theorem call?_congr (same : ∀ t, worker.thread = some t →
    p'.system.threads[t]? = p.system.threads[t]?) : p'.call? worker = p.call? worker := by
  cases ht : worker.thread with
  | none => simp [call?, ht]
  | some t => simp [call?, ht, same t ht]

theorem getElem?_calls (hw : p.workers[w]? = some worker) : p.calls[w]? = some (p.call? worker) := by
  simp [calls, hw]

theorem calls_set (hw : p.workers[w]? = some worker) (workers : p'.workers = p.workers.set w worker')
    (same : ∀ (v : Nat) (other : Worker) (t : Nat), v ≠ w → p.workers[v]? = some other →
      other.thread = some t → p'.system.threads[t]? = p.system.threads[t]?) :
    p'.calls = p.calls.set w (p'.call? worker') := by
  have there := (List.getElem?_eq_some_iff.mp hw).1
  refine List.ext_getElem? fun v => ?_
  simp only [calls, workers, List.getElem?_map, List.getElem?_set, List.length_map]
  by_cases hv : w = v
  · subst hv
    simp [there]
  · simp only [hv, if_false]
    cases hother : p.workers[v]? with
    | none => rfl
    | some other =>
      exact congrArg some (call?_congr fun t ht => same v other t (Ne.symm hv) hother ht)

/-- What becomes of a worker, its thread, and the other threads, in a step of this worker. -/
structure Placed (p : Pool) (w : Nat) (worker worker' : Worker) (p' : Pool) : Prop where
  there : p.workers[w]? = some worker
  workers : p'.workers = p.workers.set w worker'
  on : p'.on = p.on
  proxy : p'.proxy = p.proxy
  later : System.Later p.system p'.system
  mine : ∀ t, worker'.thread = some t → ∃ c, p'.Serves worker' t c
  threaded : worker'.stage = .calling → ∃ t, worker'.thread = some t
  keeps : ∀ t, worker.thread = some t → worker'.thread = some t
  /-- A new thread comes after those that there were. -/
  fresh : ∀ t, worker'.thread = some t → worker.thread = some t ∨ p.system.threads.length ≤ t
  others : ∀ (t : Nat), worker'.thread ≠ some t →
    p'.system.threads[t]? = p.system.threads[t]?

namespace Placed

theorem thread_ne (h : Placed p w worker worker' p') (m : p.Manned) {v : Nat} {other : Worker}
    {t : Nat} (hv : v ≠ w) (hother : p.workers[v]? = some other) (ht : other.thread = some t) :
    worker'.thread ≠ some t := by
  intro same
  rcases h.fresh t same with old | new
  · exact hv (m.apart v w other worker t hother h.there ht old)
  · obtain ⟨c, serves⟩ := m.own v other t hother ht
    exact absurd (List.getElem?_eq_some_iff.mp serves.here).1 (Nat.not_lt_of_le new)

theorem calls (h : Placed p w worker worker' p') (m : p.Manned) :
    p'.calls = p.calls.set w (p'.call? worker') :=
  calls_set h.there h.workers fun _ _ t hv hother ht => h.others t (h.thread_ne m hv hother ht)

theorem manned (h : Placed p w worker worker' p') (m : p.Manned) : p'.Manned where
  run := m.run.later h.later
  handed := by
    rw [h.on]
    exact h.later.induction (P := fun s => s.HandedOut p.on) m.handed
      fun _ _ _ out hm => hm.handedOut out
  own := by
    intro v other t hother ht
    rw [h.workers] at hother
    rcases of_getElem?_set hother with ⟨-, rfl⟩ | ⟨hv, hother⟩
    · exact h.mine t ht
    · obtain ⟨c, serves⟩ := m.own v other t hother ht
      refine ⟨c, ?_, serves.on.trans h.on.symm, serves.proxy.trans h.proxy.symm, serves.done⟩
      rw [h.others t (h.thread_ne m hv hother ht)]
      exact serves.here
  threaded := by
    intro v other hother calling
    rw [h.workers] at hother
    rcases of_getElem?_set hother with ⟨-, rfl⟩ | ⟨-, hother⟩
    · exact h.threaded calling
    · exact m.threaded v other hother calling
  apart := by
    intro v v' other other' t hv hv' ht ht'
    rw [h.workers] at hv hv'
    rcases of_getElem?_set hv with ⟨eq, same⟩ | ⟨hne, old⟩
    · rcases of_getElem?_set hv' with ⟨eq', -⟩ | ⟨hne', old'⟩
      · exact eq.trans eq'.symm
      · exact absurd (same ▸ ht) (h.thread_ne m hne' old' ht')
    · rcases of_getElem?_set hv' with ⟨-, same'⟩ | ⟨-, old'⟩
      · exact absurd (same' ▸ ht') (h.thread_ne m hne old ht)
      · exact m.apart v v' other other' t old old' ht ht'
  others := by
    intro t k ht
    have there := (List.getElem?_eq_some_iff.mp h.there).1
    rw [h.workers]
    by_cases mine : worker'.thread = some t
    · exact .inr ⟨w, worker', List.getElem?_set_self there, mine⟩
    · rw [h.others t mine] at ht
      rcases m.others t k ht with idle | ⟨v, other, hother, hthread⟩
      · exact .inl idle
      · refine .inr ⟨v, other, ?_, hthread⟩
        have hv : w ≠ v := by
          rintro rfl
          obtain rfl := Option.some.inj (h.there.symm.trans hother)
          exact mine (h.keeps t hthread)
        rw [List.getElem?_set_ne hv]
        exact hother

end Placed

/-- How many workers have stopped. -/
def stopped (p : Pool) : Nat := p.workers.countP (·.stage == .finished)

theorem stopped_set (hw : p.workers[w]? = some worker) (workers : p'.workers = p.workers.set w worker') :
    p'.stopped + (if worker.stage = .finished then 1 else 0) =
      p.stopped + (if worker'.stage = .finished then 1 else 0) := by
  simpa [stopped, workers] using countP_set_add hw worker' fun v => v.stage == .finished

/-- What a step of worker `w` comes to, by the calls that are being made. -/
inductive Seen (p : Pool) (w : Nat) (p' : Pool) : Act → Prop
  | begin :
      p.calls[w]? = some none → p.taken < p.total → p'.taken = p.taken + 1 →
      p'.calls = p.calls.set w (some p.firstCall) → p'.system.instances = p.system.instances →
      p'.system.history = p.system.history → p'.delivered = p.delivered →
      p'.stopped = p.stopped →
      Seen p w p' .begin
  | stop :
      p.calls[w]? = some none → p.total ≤ p.taken → p'.taken = p.taken + 1 →
      p'.calls = p.calls → p'.system = p.system → p'.delivered = p.delivered →
      p'.stopped = p.stopped + 1 →
      Seen p w p' .stop
  | deliver (c : Call) (r : Except HostError Unit) :
      p.calls[w]? = some (some c) → c.stage = .done r → p'.taken = p.taken →
      p'.calls = p.calls.set w none → p'.system = p.system →
      p'.delivered = p.delivery r c.visit.data :: p.delivered →
      p'.stopped = p.stopped →
      Seen p w p' (.deliver r c.visit.data)
  | work (t : Nat) (c c' : Call) (i i' : Instance) (m m' : Module) (events : List Event) :
      p.calls[w]? = some (some c) → p.system.instances[p.on]? = some i →
      p.system.modules[i.module]? = some m → c.Transition i m c' i' m' events →
      p'.calls = p.calls.set w (some c') → p'.taken = p.taken → p'.delivered = p.delivered →
      p'.workers = p.workers →
      p'.system = p.system.turn t i.module (some p.on) (.calling c') m'
        (p.system.instances.set p.on i') events →
      Seen p w p' .work

namespace Manned

theorem firstCall_isNew (p : Pool) : (Task.calling p.firstCall).IsNew := ⟨_, _, _, _, rfl⟩

theorem placed_again (m : p.Manned) {t : Nat} (hw : p.workers[w]? = some worker)
    (taking : worker.stage = .taking) (ht : worker.thread = some t) :
    Placed p w worker { worker with stage := .calling }
      ({ p with taken := p.taken + 1 }.beginCall w worker) ∧
    ({ p with taken := p.taken + 1 }.beginCall w worker).system.threads[t]? =
      some (.calling p.firstCall) := by
  obtain ⟨c, serves⟩ := m.own w worker t hw ht
  obtain ⟨r, done⟩ := serves.done (by rw [taking]; decide)
  have there := (List.getElem?_eq_some_iff.mp serves.here).1
  have again : System.Move p.system (p.system.assign t p.task) :=
    .again _ t c p.firstCall r serves.here done (firstCall_isNew p) m.handed
  have here : (p.system.assign t p.task).threads[t]? = some (.calling p.firstCall) :=
    List.getElem?_set_self there
  simp only [beginCall, ht]
  refine ⟨?_, here⟩
  exact
    { there := hw
      workers := rfl
      on := rfl
      proxy := rfl
      later := again.later
      mine := by
        intro u hu
        cases hu
        exact ⟨p.firstCall, here, rfl, rfl, fun other => absurd rfl other⟩
      threaded := fun _ => ⟨t, rfl⟩
      keeps := fun u hu => ht.symm.trans hu
      fresh := fun u hu => .inl (ht.trans hu)
      others := fun u hu => List.getElem?_set_ne fun same => hu (congrArg some same) }

theorem placed_spawn (m : p.Manned) (hw : p.workers[w]? = some worker)
    (ht : worker.thread = none) :
    Placed p w worker { thread := some p.system.threads.length, stage := .calling }
      ({ p with taken := p.taken + 1 }.beginCall w worker) ∧
    ({ p with taken := p.taken + 1 }.beginCall w worker).system.threads[p.system.threads.length]? =
      some (.calling p.firstCall) := by
  have begins : System.Move p.system (p.system.spawn p.task) :=
    .begin _ _ (firstCall_isNew p) fun n on => by cases on; exact m.handed
  have here : (p.system.spawn p.task).threads[p.system.threads.length]? =
      some (.calling p.firstCall) := List.getElem?_concat_length
  simp only [beginCall, ht]
  refine ⟨?_, here⟩
  exact
    { there := hw
      workers := rfl
      on := rfl
      proxy := rfl
      later := begins.later
      mine := by
        intro u hu
        cases hu
        exact ⟨p.firstCall, here, rfl, rfl, fun other => absurd rfl other⟩
      threaded := fun _ => ⟨_, rfl⟩
      keeps := by
        intro u hu
        cases ht.symm.trans hu
      fresh := by
        intro u hu
        cases hu
        exact .inr (Nat.le_refl _)
      others := by
        intro u hu
        have other : u ≠ p.system.threads.length := fun same => hu (congrArg some same.symm)
        simp only [System.spawn]
        rcases Nat.lt_or_ge u p.system.threads.length with old | beyond
        · exact List.getElem?_append_left old
        · rw [List.getElem?_eq_none (by simp; omega), List.getElem?_eq_none beyond] }

theorem placed_still (m : p.Manned) {stage : WorkerStage} (hw : p.workers[w]? = some worker)
    (workers : p'.workers = p.workers.set w { worker with stage }) (on : p'.on = p.on)
    (proxy : p'.proxy = p.proxy) (system : p'.system = p.system) (free : stage ≠ .calling)
    (ended : ∀ t c, worker.thread = some t → p.Serves worker t c → ∃ r, c.stage = .done r) :
    Placed p w worker { worker with stage } p' where
  there := hw
  workers := workers
  on := on
  proxy := proxy
  later := by rw [system]; exact .refl _
  mine := by
    intro t ht
    obtain ⟨c, serves⟩ := m.own w worker t hw ht
    exact ⟨c, by rw [system]; exact serves.here, serves.on.trans on.symm,
      serves.proxy.trans proxy.symm, fun _ => ended t c ht serves⟩
  threaded := fun calling => absurd calling free
  keeps := fun _ ht => ht
  fresh := fun _ ht => .inl ht
  others := fun t _ => by rw [system]

theorem placed_work {t : Nat} {c c' : Call} {i i' : Instance} {mod mod' : Module}
    {events : List Event} (hw : p.workers[w]? = some worker) (calling : worker.stage = .calling)
    (ht : worker.thread = some t) (serves : p.Serves worker t c)
    (transition : c.Transition i mod c' i' mod' events)
    (hs : p.system.step t = some (p.system.turn t i.module (some p.on) (.calling c') mod'
      (p.system.instances.set p.on i') events)) :
    Placed p w worker worker { p with
      system := p.system.turn t i.module (some p.on) (.calling c') mod'
        (p.system.instances.set p.on i') events } where
  there := hw
  workers := (set_same hw).symm
  on := rfl
  proxy := rfl
  later := (System.Move.step _ _ t hs).later
  mine := by
    intro u hu
    cases ht.symm.trans hu
    have there := (List.getElem?_eq_some_iff.mp serves.here).1
    exact ⟨c', List.getElem?_set_self there, transition.on.trans serves.on,
      transition.proxy.trans serves.proxy, fun other => absurd calling other⟩
  threaded := fun _ => ⟨t, ht⟩
  keeps := fun _ hu => hu
  fresh := fun _ hu => .inl hu
  others := fun u hu => List.getElem?_set_ne fun same => hu (ht.trans (congrArg some same))

/-- **All steps of the workers**, and every worker keeps to its own thread. -/
theorem transition (m : p.Manned) (h : p.Transition w act p') : p'.Manned ∧ Seen p w p' act := by
  cases h with
  | begin worker hw taking more =>
    have none : p.calls[w]? = some none := by
      rw [getElem?_calls hw, call?_of_stage (by rw [taking]; decide)]
    obtain ⟨worker', t, placed, ht, calling, here⟩ : ∃ worker' t,
        Placed p w worker worker' ({ p with taken := p.taken + 1 }.beginCall w worker) ∧
        worker'.thread = some t ∧ worker'.stage = .calling ∧
        ({ p with taken := p.taken + 1 }.beginCall w worker).system.threads[t]? =
          some (.calling p.firstCall) := by
      cases ht : worker.thread with
      | some t =>
        obtain ⟨placed, here⟩ := m.placed_again hw taking ht
        exact ⟨_, t, placed, ht, rfl, here⟩
      | none =>
        obtain ⟨placed, here⟩ := m.placed_spawn hw ht
        exact ⟨_, _, placed, rfl, rfl, here⟩
    have stopped := stopped_set hw placed.workers
    simp only [taking, calling, reduceCtorEq, if_false, Nat.add_zero] at stopped
    refine ⟨placed.manned m, .begin none more ?_ ?_ ?_ ?_ ?_ stopped⟩
    · unfold beginCall; split <;> rfl
    · rw [placed.calls m, call?_of_thread calling ht here]
    · unfold beginCall; split <;> rfl
    · unfold beginCall; split <;> rfl
    · unfold beginCall; split <;> rfl
  | stop worker hw taking past =>
    have none : p.calls[w]? = some none := by
      rw [getElem?_calls hw, call?_of_stage (by rw [taking]; decide)]
    have placed : Placed p w worker { worker with stage := .finished } { p with
        taken := p.taken + 1, workers := p.workers.set w { worker with stage := .finished } } :=
      m.placed_still hw rfl rfl rfl rfl (by decide)
        fun t c _ serves => serves.done (by rw [taking]; decide)
    have stopped := stopped_set hw placed.workers
    simp only [taking, reduceCtorEq, if_false, if_true, Nat.add_zero] at stopped
    refine ⟨placed.manned m, .stop none past rfl ?_ rfl rfl stopped⟩
    rw [placed.calls m, call?_of_stage (by simp), set_same none]
  | deliver worker t r proxy data hw calling ht report =>
    obtain ⟨c, serves⟩ := m.own w worker t hw ht
    obtain ⟨done, rfl⟩ : c.stage = .done r ∧ c.visit.data = data := by
      simp only [System.report?, serves.here, Option.bind_some, Task.report?] at report
      split at report
      · rename_i r' done
        cases report
        exact ⟨done, rfl⟩
      · cases report
    have mine : p.calls[w]? = some (some c) := by
      rw [getElem?_calls hw, call?_of_thread calling ht serves.here]
    have ended : ∀ u c', worker.thread = some u → p.Serves worker u c' → ∃ r, c'.stage = .done r := by
      intro u c' hu serves'
      cases ht.symm.trans hu
      obtain rfl := Task.calling.inj (Option.some.inj (serves.here.symm.trans serves'.here))
      exact ⟨r, done⟩
    have placed : Placed p w worker { worker with stage := .taking } { p with
        delivered := p.delivery r c.visit.data :: p.delivered
        workers := p.workers.set w { worker with stage := .taking } } :=
      m.placed_still hw rfl rfl rfl rfl (by decide) ended
    have stopped := stopped_set hw placed.workers
    simp only [calling, reduceCtorEq, if_false, Nat.add_zero] at stopped
    refine ⟨placed.manned m, .deliver c r mine done rfl ?_ rfl rfl stopped⟩
    rw [placed.calls m, call?_of_stage (by simp)]
  | work worker t system hw calling ht unreported hs =>
    obtain ⟨c, serves⟩ := m.own w worker t hw ht
    obtain ⟨c', i, i', mod, mod', events, hi, hm, transition, rfl⟩ :
        ∃ c' i i' mod mod' events, p.system.instances[p.on]? = some i ∧
          p.system.modules[i.module]? = some mod ∧ c.Transition i mod c' i' mod' events ∧
          system = p.system.turn t i.module (some p.on) (.calling c') mod'
            (p.system.instances.set p.on i') events := by
      cases System.step_cases hs with
      | early o st st' made mod mod' events hk => cases serves.here.symm.trans hk
      | direct k k' j mod mod' events hk hd =>
        cases serves.here.symm.trans hk
        cases hd
      | late k k' n i i' mod mod' events hk hon hi hm hstep =>
        cases serves.here.symm.trans hk
        obtain ⟨c', rfl, transition⟩ := Task.calling_stepOn hstep
        cases (congrArg some serves.on).symm.trans hon
        exact ⟨c', i, i', mod, mod', events, hi, hm, transition, rfl⟩
    have placed := placed_work hw calling ht serves transition hs
    have mine : p.calls[w]? = some (some c) := by
      rw [getElem?_calls hw, call?_of_thread calling ht serves.here]
    refine ⟨placed.manned m, .work t c c' i i' mod mod' events mine hi hm transition ?_ rfl rfl rfl rfl⟩
    have there := (List.getElem?_eq_some_iff.mp serves.here).1
    rw [placed.calls m, call?_of_thread calling ht (List.getElem?_set_self there)]

/-- A call that is being made is made by a worker, on its thread. -/
theorem of_calls (m : p.Manned) {c : Call} (h : p.calls[w]? = some (some c)) :
    ∃ worker t, p.workers[w]? = some worker ∧ worker.stage = .calling ∧ worker.thread = some t ∧
      p.Serves worker t c := by
  simp only [calls, List.getElem?_map, Option.map_eq_some_iff] at h
  obtain ⟨worker, hw, mine⟩ := h
  have calling : worker.stage = .calling := by
    by_contra free
    cases (call?_of_stage free).symm.trans mine
  obtain ⟨t, ht⟩ := m.threaded w worker hw calling
  obtain ⟨c', serves⟩ := m.own w worker t hw ht
  obtain rfl := Option.some.inj ((call?_of_thread calling ht serves.here).symm.trans mine)
  exact ⟨worker, t, hw, calling, ht, serves⟩

end Manned

/-- What no step of a pool changes. -/
structure Alike (p p' : Pool) : Prop where
  on : p'.on = p.on
  proxy : p'.proxy = p.proxy
  request : p'.request = p.request
  defaultStatus : p'.defaultStatus = p.defaultStatus
  total : p'.total = p.total
  size : p'.workers.length = p.workers.length

theorem Transition.alike (h : p.Transition w act p') : p.Alike p' := by
  cases h with
  | begin worker =>
    unfold beginCall
    split <;> exact ⟨rfl, rfl, rfl, rfl, rfl, List.length_set⟩
  | stop | deliver => exact ⟨rfl, rfl, rfl, rfl, rfl, List.length_set⟩
  | work => exact ⟨rfl, rfl, rfl, rfl, rfl, rfl⟩

end Cli.Pool

end ModuleHost
