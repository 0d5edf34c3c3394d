import ModuleHost.Proofs.Cli.Counts

/-!
# The requests of a command

What the pool of a command keeps from the moment when the module is loaded (`Sending`): every worker
has its own thread, the books of the pool are right, and so is the gate of the one instance that there
is. `Course.sending` has it for every course.
-/
namespace ModuleHost.Cli

open Boundary

/-! ## A pool at first -/

namespace Pool

variable {s : System} {n : Nat} {i : Instance} {proxy : Bool} {request : Request}
  {defaultStatus : UInt16} {repetitions concurrency : Nat}

theorem workers_start {w : Nat} {worker : Worker}
    (h : (start s n proxy request defaultStatus repetitions concurrency).workers[w]? = some worker) :
    worker = {} :=
  List.eq_of_mem_replicate (List.mem_of_getElem? h)

theorem making_start (f : Call → Bool) :
    (start s n proxy request defaultStatus repetitions concurrency).making f = 0 := by
  simp [making, calls, start, call?, List.countP_replicate]

theorem manned_start (ready : s.Ready n i) :
    (start s n proxy request defaultStatus repetitions concurrency).Manned where
  run := ready.run
  handed := ready.handed
  own := by
    intro w worker t hw ht
    rw [workers_start hw] at ht
    cases ht
  threaded := by
    intro w worker hw calling
    rw [workers_start hw] at calling
    cases calling
  apart := by
    intro w w' worker worker' t hw _ ht
    rw [workers_start hw] at ht
    cases ht
  others := fun t k ht => .inl (ready.idle t k ht)

theorem booked_start : (start s n proxy request defaultStatus repetitions concurrency).Booked [] where
  taken := by simp [start, Trace.begun, stopped, List.countP_replicate]
  bound := Nat.zero_le _
  spent := by simp [start, stopped, List.countP_replicate]
  begun := by rw [making_start]; rfl
  delivered := rfl
  paired := by
    intro w
    have free : (start s n proxy request defaultStatus repetitions concurrency).isCalling w = false := by
      simp only [isCalling, calls, List.getElem?_map]
      cases hw : (start s n proxy request defaultStatus repetitions concurrency).workers[w]? with
      | none => rfl
      | some worker =>
        rw [workers_start hw]
        rfl
    rw [free]
    rfl

theorem requests_unasked (unasked : s.Unasked) : s.requests n = 0 := by
  refine List.countP_eq_zero.mpr fun e he request => ?_
  obtain ⟨x, hx, -, hxe⟩ := System.mem_log.mp (mem_entries.mp he)
  refine unasked x hx e hxe ?_
  cases e with
  | handleRequest => exact ⟨false, rfl⟩
  | handleProxyRequest => exact ⟨true, rfl⟩
  | moduleAbiVersion | onLoad | onUnload => cases request

theorem gated_start (ready : s.Ready n i) :
    (start s n proxy request defaultStatus repetitions concurrency).Gated [] i where
  found := by
    obtain ⟨o, ho⟩ := ready.handed
    have there := (ready.run.orderly.owned.not_makes ho).1
    have sole := ready.sole
    rw [sole, List.length_singleton, Nat.lt_one_iff] at there
    subst there
    simp [start, sole]
  live := by rw [ready.fresh]
  inside := by rw [making_start, ready.fresh]
  served := by rw [making_start, ready.fresh]; rfl
  entered := by
    rw [making_start]
    exact requests_unasked ready.unasked
  peaked := by simp [ready.fresh]
  few := by rw [ready.fresh]; exact Nat.zero_le _
  seen := by rw [ready.fresh]; exact fun pos => absurd pos (Nat.lt_irrefl 0)
  fits := by
    intro w c hc
    simp only [calls, List.getElem?_map, Option.map_eq_some_iff] at hc
    obtain ⟨worker, hw, hc⟩ := hc
    rw [workers_start hw] at hc
    cases hc
  answers := nofun

theorem Seen.instances {p p' : Pool} {w : Nat} {act : Act} (seen : Seen p w p' act) :
    p'.system.instances.length = p.system.instances.length := by
  cases seen with
  | begin free more taken calls instances => rw [instances]
  | stop free past taken calls system => rw [system]
  | deliver c r mine done taken calls system => rw [system]
  | work t c c' i i' m m' events mine found hm transition calls taken delivered workers system =>
    rw [system]
    exact List.length_set

end Pool

/-! ## The pool of a command -/

namespace Order

variable {o : Order} {trace : Trace} {l : Loader} {p : Pool}

/-- What holds while a command sends its requests. -/
structure Sending (o : Order) (l : Loader) (p : Pool) (trace : Trace) (i : Instance) : Prop where
  manned : p.Manned
  booked : p.Booked trace
  gated : p.Gated trace i
  sole : p.system.instances.length = 1
  filed : ∃ key, l.registry = [(key, p.on)]
  proxy : p.proxy = o.given.proxy
  defaultStatus : p.defaultStatus = o.config.host.defaultStatus
  total : p.total = o.requests
  workers : p.workers.length = Pool.workerCount o.concurrency o.requests

theorem start_cases (o : Order) : (∃ e, o.start = .ended ⟨{}, .error e⟩) ∨
    ∃ request todo s t, o.start = .opening request todo s t := by
  unfold start
  split
  · exact .inl ⟨_, rfl⟩
  · split
    · exact .inl ⟨_, rfl⟩
    · split
      · exact .inl ⟨_, rfl⟩
      · exact .inr ⟨_, _, _, _, rfl⟩

theorem sending_opened {s : System} {n : Nat} {i : Instance} {request : Request} (key : String)
    (ready : s.Ready n i) :
    o.Sending (o.loader.register key n) (o.pool s n request) [] i where
  manned := Pool.manned_start ready
  booked := Pool.booked_start
  gated := Pool.gated_start ready
  sole := by simp [pool, Pool.start, ready.sole]
  filed := ⟨key, registry_register o key n⟩
  proxy := rfl
  defaultStatus := rfl
  total := rfl
  workers := List.length_replicate

theorem Sending.transition {i : Instance} {w : Nat} {act : Pool.Act} {p' : Pool}
    (h : o.Sending l p trace i) (transition : p.Transition w act p') :
    ∃ i', o.Sending l p' (trace ++ [(w, act)]) i' := by
  obtain ⟨manned, seen⟩ := h.manned.transition transition
  have alike := transition.alike
  obtain ⟨i', gated, -⟩ := h.gated.transition h.manned seen alike
  exact ⟨i',
    { manned := manned
      booked := h.booked.transition seen alike
      gated := gated
      sole := seen.instances.trans h.sole
      filed := by rw [alike.on]; exact h.filed
      proxy := alike.proxy.trans h.proxy
      defaultStatus := alike.defaultStatus.trans h.defaultStatus
      total := alike.total.trans h.total
      workers := alike.size.trans h.workers }⟩

/-- **What holds of every pool** that a command comes to. -/
theorem Course.sending (pristine : o.Pristine) {b : Stage} (h : o.Course o.start trace b) :
    ∀ l p, b = .sending l p → ∃ i, o.Sending l p trace i := by
  induction h with
  | refl =>
    intro l p first
    rcases o.start_cases with ⟨e, start⟩ | ⟨request, todo, s, t, start⟩ <;>
      cases start.symm.trans first
  | step course hs ih =>
    rintro l p rfl
    cases hs with
    | opened request todo s t n report =>
      obtain ⟨rfl, rfl, st, sole⟩ := course_opening_sole pristine course _ _ _ _ rfl
      simp only [System.report?, sole.thread, Option.bind_some] at report
      cases st with
      | done r =>
        cases report
        obtain ⟨i, ready, -⟩ := sole.ready
        exact ⟨i, sending_opened todo.key ready⟩
      | _ => cases report
    | sends _ p₀ _ w act transition =>
      obtain ⟨i, sending⟩ := ih _ _ rfl
      exact sending.transition transition

end Order

end ModuleHost.Cli
