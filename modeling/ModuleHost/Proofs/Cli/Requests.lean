import ModuleHost.Proofs.Cli.Advance
import ModuleHost.Proofs.Cli.Report

/-!
# Every request is sent once

A command that has loaded its module sends its requests, however many workers share them and whoever of
them goes on when (`Order.requests_dispatched`):

* the workers are as many as were asked for, but at least one and no more than there are requests, and
  the number that they share stays small;
* exactly as many calls are begun as there are requests, and what each came to is delivered once;
* where the module has the entry point, it is called that often, and the report counts that many
  statuses, each with the default in place of a status that nobody has set;
* a pool that is not over goes on, and no schedule goes on for ever.
-/
namespace ModuleHost.Cli

open Boundary Text

/-- A number brought between two bounds. -/
def clamp (n low high : Nat) : Nat := if n < low then low else if high < n then high else n

theorem workerCount_eq_clamp (concurrency : Nat) {total : Nat} (some_ : 1 ≤ total) :
    Pool.workerCount concurrency total = clamp concurrency 1 total := by
  unfold Pool.workerCount clamp
  split_ifs <;> omega

/-! ## A pool that is over -/

namespace Pool

variable {p : Pool}

theorem Over.making (halted : p.Over) (f : Call → Bool) : p.making f = 0 := by
  refine List.countP_eq_zero.mpr fun c hc => ?_
  obtain ⟨worker, hw, rfl⟩ := List.mem_map.mp hc
  have free : worker.stage ≠ .calling := by
    rw [halted worker hw]
    decide
  simp [call?_of_stage free]

theorem Over.stopped (halted : p.Over) : p.stopped = p.workers.length :=
  List.countP_eq_length.mpr fun worker hw => by simp [halted worker hw]

theorem outcome_eq_ok {ds : List Delivery} (h : p.delivered = (ds.map .ok).reverse) :
    p.outcome = .ok ds := by
  rw [outcome, h, List.reverse_reverse, List.mapM_map]
  exact (List.mapM_pure (f := id)).trans (by rw [List.map_id]; rfl)

theorem outcome_eq_error {e : HostError} {ds : List (Except HostError Delivery)}
    (h : p.delivered = (.error e :: ds).reverse) : p.outcome = .error e := by
  rw [outcome, h, List.reverse_reverse]
  rfl

end Pool

namespace Order

variable (o : Order)

/-- How many workers there are. -/
def workers : Nat := clamp o.concurrency 1 o.requests

/-- The status of a call in the report: the one that the module has left, or else the default. -/
def status (data : CallData) : UInt16 :=
  if data.response.status = 0 then o.config.host.defaultStatus else data.response.status

/-- What an answered call delivers. -/
def answered (data : CallData) : Delivery :=
  { response := data.response.finalize o.config.host.defaultStatus, uri := data.request.uri,
    target := if o.given.proxy then data.target else none }

/-- What holds at every moment while the requests are being sent. -/
structure Dispatching (trace : Trace) (p : Pool) : Prop where
  workers : p.workers.length = o.workers
  /-- The number that the workers share goes past the last request, and is still small. -/
  small : p.taken < 2 ^ 64
  few : trace.begun ≤ o.requests
  /-- Each worker delivers what one call came to before it begins the next. -/
  paired : ∀ w, (trace.by_ w).begun = (trace.by_ w).outcomes.length + (p.isCalling w).toNat
  delivered : p.delivered = (trace.outcomes.map fun x => p.delivery x.1 x.2).reverse
  /-- Unless module code has broken off, some worker can go on. -/
  advances : p.system.Whole → ¬ p.Over → ∃ w act p', p.Transition w act p'

/-- What a report says of the requests sent through instance `i`. -/
structure Reports (trace : Trace) (i : Instance) (report : Json) : Prop where
  requests : report.field? "requests" = some (.number o.requests)
  concurrency : report.field? "concurrency" = some (.number o.workers)
  peak : report.field? "peak_concurrency" = some (.number i.gate.peak) ∧ 1 ≤ i.gate.peak ∧
    i.gate.peak ≤ o.workers
  statuses : ∃ counts : List (String × Nat),
    report.field? "statuses" = some (.object (counts.map fun c => (c.1, .number c.2))) ∧
      (counts.map (·.1)).Nodup ∧ (counts.map (·.2)).sum = o.requests ∧
      ∀ c ∈ counts, ∃ x ∈ trace.outcomes, c = (toString (o.status x.2).toNat,
        (trace.outcomes.map fun y => o.status y.2).count (o.status x.2))

/-- What holds of instance `i` once all workers of the pool have stopped. -/
structure Dispatched (trace : Trace) (p : Pool) (i : Instance) : Prop where
  found : p.system.instances[p.on]? = some i
  begun : trace.begun = o.requests
  received : trace.outcomes.length = o.requests
  answer : ∀ x ∈ trace.outcomes, x.1 = Call.answer i o.given.proxy
  /-- Where the entry point is there, it has been called for each request, -/
  reached : Call.answer i o.given.proxy = .ok () →
    p.system.requests p.on = o.requests ∧ i.gate.served = o.requests ∧
      ∃ r, o.result p = .ok (.summary o.given.json r) ∧
        ∀ nanos, o.Reports trace i (r.json (figures nanos (.summary o.given.json r)))
  /-- and otherwise never. -/
  missed : ∀ e, Call.answer i o.given.proxy = .error e →
    p.system.requests p.on = 0 ∧ i.gate.served = 0 ∧ o.result p = .error (.host e)

/-- How a command sends its requests, by every schedule. -/
structure Dispatches : Prop where
  sending : ∀ trace l p, o.Course o.start trace (.sending l p) → o.Dispatching trace p
  sent : ∀ trace l p, o.Course o.start trace (.sending l p) → p.Over →
    ∃ i, o.Dispatched trace p i
  /-- A command that succeeds has done so with a pool that is over, and its module has served all. -/
  succeeds : ∀ trace f out, o.Course o.start trace (.ended f) → f.result = .ok out →
    ∃ l p i r, o.Course o.start trace (.sending l p) ∧ p.Over ∧ o.Dispatched trace p i ∧
      p.system.requests p.on = o.requests ∧ i.gate.served = o.requests ∧
      out = .summary o.given.json r ∧ ∀ nanos, o.Reports trace i (r.json (figures nanos out))
  finite : ∀ trace (σ : Nat → Stage), o.Course o.start trace (σ 0) →
    ¬ ∀ j, ∃ act, o.Step (σ j) act (σ (j + 1))

variable {o} {trace : Trace} {l : Loader} {p : Pool} {i : Instance}

theorem one_le_requests : 1 ≤ o.requests := Nat.le_max_right _ _

theorem one_le_workers : 1 ≤ o.workers := by
  have := o.one_le_requests
  unfold workers clamp
  split_ifs <;> omega

@[simp] theorem status_answered (data : CallData) :
    (o.answered data).response.status = o.status data := by
  simp only [answered, Response.finalize, status]
  split <;> rfl

theorem reports {r : Summary} (statuses : r.statuses = trace.outcomes.map fun x => o.status x.2)
    (received : trace.outcomes.length = o.requests) (workers : r.workers = o.workers)
    (peak : r.peak = i.gate.peak) (some_ : 1 ≤ i.gate.peak) (few : i.gate.peak ≤ o.workers)
    (nanos : Nat) :
    o.Reports trace i (r.json (figures nanos (.summary o.given.json r))) := by
  have many : r.statuses.length = o.requests := by rw [statuses, List.length_map, received]
  obtain ⟨counts, counted, field⟩ := r.statuses_json (figures nanos (.summary o.given.json r))
  refine ⟨?_, ?_, ⟨?_, some_, few⟩,
    ⟨counts, field, counted.once, counted.sum.trans many, fun c hc => ?_⟩⟩
  · rw [← many]
    exact r.field?_json _ (by simp)
  · rw [← workers]
    exact r.field?_json _ (by simp)
  · exact r.field?_json _ (by simp [figures, peak])
  · obtain ⟨status, there, rfl⟩ := counted.each c hc
    rw [statuses] at there ⊢
    obtain ⟨x, hx, rfl⟩ := List.mem_map.mp there
    exact ⟨x, hx, rfl⟩

namespace Sending

theorem workers_eq (h : o.Sending l p trace i) : p.workers.length = o.workers :=
  h.workers.trans (workerCount_eq_clamp _ one_le_requests)

theorem dispatching (h : o.Sending l p trace i) (small : o.requests + o.workers < 2 ^ 64) :
    o.Dispatching trace p where
  workers := h.workers_eq
  small := by
    have taken := h.booked.taken
    have few := h.booked.bound
    have stopped : p.stopped ≤ p.workers.length := List.countP_le_length
    rw [h.workers_eq] at stopped
    rw [h.total] at few
    omega
  few := h.total ▸ h.booked.bound
  paired := h.booked.paired
  delivered := h.booked.delivered
  advances := fun whole going => h.manned.advances whole going

variable (h : o.Sending l p trace i) (halted : p.Over)

include h halted

theorem begun_of_over : trace.begun = o.requests := by
  rw [← h.total]
  refine h.booked.spent ?_
  rw [halted.stopped, h.workers_eq]
  exact one_le_workers

theorem received_of_over : trace.outcomes.length = o.requests := by
  have begun := h.booked.begun
  rw [halted.making, Nat.add_zero] at begun
  exact begun.symm.trans (h.begun_of_over halted)

theorem served_of_over : i.gate.served = trace.outcomes.countP (·.1.isOk) := by
  rw [h.gated.served, halted.making, Nat.add_zero]

theorem entered_of_over : p.system.requests p.on = trace.outcomes.countP (·.1.isOk) := by
  rw [h.gated.entered, halted.making, Nat.add_zero]

variable {r : Except HostError Unit} (answers : ∀ x ∈ trace.outcomes, x.1 = r)

include answers

/-- Where all calls have been answered, all have been served, and are reported. -/
theorem reached_of_over (ok : r = .ok ()) :
    p.system.requests p.on = o.requests ∧ i.gate.served = o.requests ∧
      ∃ r, o.result p = .ok (.summary o.given.json r) ∧
        ∀ nanos, o.Reports trace i (r.json (figures nanos (.summary o.given.json r))) := by
  subst ok
  have received := h.received_of_over halted
  have good : trace.outcomes.countP (·.1.isOk) = o.requests := by
    rw [← received]
    exact List.countP_eq_length.mpr fun x hx => by rw [answers x hx]; rfl
  have served : i.gate.served = o.requests := (h.served_of_over halted).trans good
  have delivered : p.delivered = ((trace.outcomes.map fun x => o.answered x.2).map .ok).reverse := by
    rw [h.booked.delivered, List.map_map]
    congr 1
    refine List.map_congr_left fun x hx => ?_
    simp [Pool.delivery, answers x hx, answered, h.proxy, h.defaultStatus, Except.map]
  obtain ⟨x, rest, outcomes⟩ : ∃ x rest, trace.outcomes = x :: rest :=
    List.exists_cons_of_length_pos (received ▸ one_le_requests)
  have outcome : p.outcome = .ok (o.answered x.2 :: rest.map fun x => o.answered x.2) := by
    rw [Pool.outcome_eq_ok delivered, outcomes]
    rfl
  let r : Summary :=
    { module := i.name, proxy := o.given.proxy, first := o.answered x.2
      statuses := trace.outcomes.map fun x => o.status x.2
      workers := p.workers.length, peak := i.gate.peak }
  have summary : summaryOf p o.given.proxy = .ok r := by
    simp [summaryOf, outcome, h.gated.found, r, outcomes, List.map_map, Function.comp_def]
  refine ⟨(h.entered_of_over halted).trans good, served, r, by rw [result, summary]; rfl,
    reports rfl received h.workers_eq rfl (h.gated.seen ?_) (h.workers_eq ▸ h.gated.few)⟩
  rw [served]
  exact Nat.lt_of_lt_of_le one_le_requests (Nat.le_add_left _ _)

/-- Where the entry point is missing, no call has been served, and the first error is told. -/
theorem missed_of_over {e : HostError} (missing : r = .error e) :
    p.system.requests p.on = 0 ∧ i.gate.served = 0 ∧ o.result p = .error (.host e) := by
  subst missing
  have none : trace.outcomes.countP (·.1.isOk) = 0 :=
    List.countP_eq_zero.mpr fun x hx => by rw [answers x hx]; exact Bool.false_ne_true
  obtain ⟨x, rest, outcomes⟩ : ∃ x rest, trace.outcomes = x :: rest :=
    List.exists_cons_of_length_pos (h.received_of_over halted ▸ one_le_requests)
  have delivered : p.delivered = (.error e :: rest.map fun x => p.delivery x.1 x.2).reverse := by
    rw [h.booked.delivered, outcomes, List.map_cons,
      answers x (outcomes ▸ List.mem_cons_self)]
    rfl
  refine ⟨(h.entered_of_over halted).trans none, (h.served_of_over halted).trans none, ?_⟩
  simp [result, summaryOf, Pool.outcome_eq_error delivered, Except.map]

omit answers

theorem dispatched : o.Dispatched trace p i := by
  have answer : ∀ x ∈ trace.outcomes, x.1 = Call.answer i o.given.proxy :=
    h.proxy ▸ h.gated.answers
  exact
    { found := h.gated.found
      begun := h.begun_of_over halted
      received := h.received_of_over halted
      answer := answer
      reached := h.reached_of_over halted answer
      missed := fun e => h.missed_of_over halted answer }

end Sending

/-- **Every request is sent once**, by every schedule of the workers. -/
theorem requests_dispatched (o : Order) (pristine : o.Pristine)
    (small : o.requests + o.workers < 2 ^ 64) : o.Dispatches where
  sending := by
    intro trace l p course
    obtain ⟨i, sending⟩ := course.sending pristine l p rfl
    exact sending.dispatching small
  sent := by
    intro trace l p course halted
    obtain ⟨i, sending⟩ := course.sending pristine l p rfl
    exact ⟨i, sending.dispatched halted⟩
  succeeds := by
    intro trace f out course success
    rcases course.stage_cases pristine with failed | ⟨p, sent, told⟩
    · cases failed <;> cases success
    · obtain ⟨l, i, sends, sending⟩ := sent.sending
      have dispatched := sending.dispatched sent.halted
      cases answer : Call.answer i o.given.proxy with
      | ok =>
        obtain ⟨asked, served, r, result, reports⟩ := dispatched.reached answer
        obtain rfl : out = _ := Except.ok.inj (success.symm.trans (told.trans result))
        exact ⟨l, p, i, r, sends, sent.halted, dispatched, asked, served, rfl, reports⟩
      | error e => cases (told.trans (dispatched.missed e answer).2.2).symm.trans success
  finite := fun trace σ first => no_endless_schedule pristine σ first

/-! ## A command at work -/

/-- Three requests by two workers, to a module that does nothing. -/
def sample : Order where
  around := { tree := LoaderState.sampleTree, linker := fun _ => some { module := .sample } }
  config := {}
  given := { module := some "/m", repetitions := some 3, concurrency := some 2, json := true }

theorem pristine_sample : sample.Pristine := fun _ _ linked => by cases linked; rfl

theorem lasts_sample : sample.Lasts := by
  refine ⟨.ok 0, rfl, fun n hn => ?_⟩
  cases hn
  refine ⟨fun worker hw => ?_, .completed 0 true, rfl⟩
  have one : worker ∈ [{ thread := some 1, stage := .finished }, { stage := .finished }] := hw
  simp only [List.mem_cons, List.not_mem_nil, or_false] at one
  obtain rfl | rfl := one <;> rfl

def sampleEnd : Finished := execute sample.around sample.config ⟨.call, sample.given⟩

def sampleSummary : Summary :=
  { module := "m", proxy := false
    first := { response := { status := 200 }, uri := "/", target := none }
    statuses := [200, 200, 200], workers := 2, peak := 1 }

set_option maxRecDepth 2048 in
theorem result_sample : sampleEnd.result = .ok (.summary true sampleSummary) := rfl

/-- At work: two workers send three requests, and three are reported. -/
theorem requests_dispatched_sample : sample.requests + sample.workers < 2 ^ 64 ∧
    ∃ trace i, sample.Course sample.start trace (.ended sampleEnd) ∧ trace.begun = 3 ∧
      trace.outcomes.length = 3 ∧
      ∀ nanos, sample.Reports trace i
        (sampleSummary.json (figures nanos (.summary true sampleSummary))) := by
  have small : sample.requests + sample.workers < 2 ^ 64 := by decide
  have sends := requests_dispatched sample pristine_sample small
  obtain ⟨trace, course⟩ := sample.execute_course lasts_sample
  obtain ⟨l, p, i, r, -, -, dispatched, -, -, out, reports⟩ :=
    sends.succeeds trace sampleEnd _ course result_sample
  cases out
  exact ⟨small, trace, i, course, dispatched.begun, dispatched.received, reports⟩

end Order

end ModuleHost.Cli
