import ModuleHost.Proofs.Cli.Workers
import ModuleHost.Proofs.Instance.Counters

/-!
# What a pool has sent and received

The workers share a count of the numbers taken, which runs past the last request while they stop.
`Pool.Booked` ties it to the calls begun and to what has been delivered, worker by worker, and
`Pool.Gated` ties both to the gate of the instance: how many calls are inside, how many have been
served, and how often a request entry point has been called.
-/
namespace ModuleHost

open Boundary

/-! ## What workers have done -/

namespace Cli

/-- What a delivered call came to. -/
def Pool.Act.outcome? : Pool.Act → Option (Except HostError Unit × CallData)
  | .deliver r data => some (r, data)
  | .begin | .stop | .work => none

def Pool.Act.begins : Pool.Act → Bool
  | .begin => true
  | .stop | .deliver .. | .work => false

def Pool.Act.stops : Pool.Act → Bool
  | .stop => true
  | .begin | .deliver .. | .work => false

namespace Trace

/-- What worker `w` has done. -/
def by_ (trace : Trace) (w : Nat) : Trace := trace.filter (·.1 == w)

/-- How many calls have been begun. -/
def begun (trace : Trace) : Nat := trace.countP (·.2.begins)

/-- What calls have come to, in the order of arrival. -/
def outcomes (trace : Trace) : List (Except HostError Unit × CallData) :=
  trace.filterMap (·.2.outcome?)

end Trace

end Cli

/-! ## Requests -/

def Boundary.EntryPoint.isRequest : EntryPoint → Bool
  | .handleRequest | .handleProxyRequest => true
  | .moduleAbiVersion | .onLoad | .onUnload => false

/-- How often a request entry point has been called for instance `n`. -/
def System.requests (s : System) (n : Nat) : Nat := (entries (s.instanceLog n)).countP (·.isRequest)

namespace Call

/-- Whether the gate counts the call as inside. -/
def isInside (c : Call) : Bool :=
  match c.stage with
  | .arriving | .done _ => false
  | .inside | .retiring | .leaving | .escaped => true

/-- Whether the call has been served. -/
def isServed (c : Call) : Bool := c.stage matches .done (.ok _)

/-- Whether the call has called its entry point. -/
def hasEntered (c : Call) : Bool :=
  match c.stage with
  | .arriving | .done (.error _) => false
  | .inside => !(c.visit.stage matches .entering)
  | .retiring | .leaving | .escaped | .done (.ok _) => true

/-- What a call comes to at an instance that stays live. -/
def answer (i : Instance) (proxy : Bool) : Except HostError Unit :=
  if proxy && !i.exports.proxy then .error (.entryPointMissing i.name .handleProxyRequest) else .ok ()

/-- Where a call has come to its end, or has passed the gate, it is not refused. -/
def Fits (i : Instance) (c : Call) : Prop :=
  (c.isInside = true → answer i c.visit.proxy = .ok ()) ∧
    ∀ r, c.stage = .done r → r = answer i c.visit.proxy

/-- What a step of a call does to the counts of a live instance. -/
structure Counts (i : Instance) (c c' : Call) (i' : Instance) (events : List Event) : Prop where
  make : i' = { i with gate := i'.gate }
  live : i'.gate.state = .live
  inside : i'.gate.inFlight + c.isInside.toNat = i.gate.inFlight + c'.isInside.toNat
  served : i'.gate.served + c.isServed.toNat = i.gate.served + c'.isServed.toNat
  entered : (entries events).countP (·.isRequest) + c.hasEntered.toNat = c'.hasEntered.toNat
  peak : i'.gate.peak = max i.gate.peak i'.gate.inFlight
  /-- Only an admission adds to the calls that are inside or have been served. -/
  grows : i.gate.inFlight + i.gate.served < i'.gate.inFlight + i'.gate.served → 0 < i'.gate.inFlight
  fits : Fits i' c'

theorem Transition.shifts {i i' : Instance} {m m' : Module} {c c' : Call} {events : List Event}
    (h : c.Transition i m c' i' m' events) (live : i.gate.state = .live) (fits : c.Fits i)
    (pos : c.isInside = true → 0 < i.gate.inFlight) (peaked : i.gate.inFlight ≤ i.gate.peak) :
    Counts i c c' i' events := by
  have same : max i.gate.peak i.gate.inFlight = i.gate.peak := Nat.max_eq_left peaked
  have still : i.gate.inFlight + i.gate.served < i.gate.inFlight + i.gate.served →
      0 < i.gate.inFlight := fun less => absurd less (Nat.lt_irrefl _)
  obtain ⟨passed, done⟩ := fits
  cases h with
  | missing hs proxy none =>
    refine ⟨rfl, live, ?_, ?_, ?_, same.symm, still, ?_, ?_⟩ <;>
      simp [isInside, isServed, hasEntered, hs, entries, answer, proxy, none]
  | admitted g hs exported admits =>
    simp only [Gate.admit?, live, if_true, Option.some.injEq] at admits
    subst admits
    refine ⟨rfl, rfl, ?_, ?_, ?_, rfl, fun _ => Nat.succ_pos _, ?_, ?_⟩ <;>
      simp [isInside, isServed, hasEntered, hs, entries, Event.entry?, answer]
    intro proxy
    exact exported proxy
  | refused hs exported refuse => simp [Gate.admit?, live] at refuse
  | visiting v m' events hs hstep =>
    have spec := Visit.step_spec hstep
    have within : c.isInside = true := by simp [isInside, hs]
    have begun : (v.stage matches .entering) = false := by
      cases hv : v.stage with
      | entering => exact absurd hv spec.begun
      | _ => rfl
    refine ⟨rfl, live, ?_, ?_, ?_, same.symm, still, ?_, ?_⟩
    · simp [isInside, hs]
    · simp [isServed, hs]
    · rw [← entries_gateMarks]
      by_cases entering : c.visit.stage = .entering
      · rw [spec.entry entering]
        cases hp : c.visit.proxy <;>
          simp [hasEntered, hs, entering, begun, entries, Event.entry?, Visit.entry, hp,
            EntryPoint.isRequest]
      · rw [spec.quiet entering]
        simp [hasEntered, hs, begun, entries]
    · intro _
      rw [show ({ c with visit := v } : Call).visit.proxy = c.visit.proxy from spec.proxy]
      exact passed within
    · simp [hs]
  | returned hs hv =>
    have within : c.isInside = true := by simp [isInside, hs]
    refine ⟨rfl, live, ?_, ?_, ?_, same.symm, still, fun _ => passed within, ?_⟩ <;>
      simp [isInside, isServed, hasEntered, hs, hv, entries, Event.entry?]
  | broke hs hv =>
    have within : c.isInside = true := by simp [isInside, hs]
    refine ⟨rfl, live, ?_, ?_, ?_, same.symm, still, fun _ => passed within, ?_⟩
    · simp [isInside, hs]
    · simp [isServed, hs]
    · rcases hv with ⟨f, hv⟩ | hv <;> simp [hasEntered, hs, hv, entries]
    · simp
  | retire hs =>
    have within : c.isInside = true := by simp [isInside, hs]
    refine ⟨rfl, live, ?_, ?_, ?_, same.symm, still, fun _ => passed within, ?_⟩ <;>
      simp [isInside, isServed, hasEntered, hs, entries]
  | release hs =>
    have within : c.isInside = true := by simp [isInside, hs]
    have inFlight := pos within
    refine ⟨rfl, live, ?_, ?_, ?_, ?_, ?_, ?_, ?_⟩
    · simp only [isInside, hs, Gate.release, Bool.toNat_true, Bool.toNat_false]
      omega
    · simp [isServed, hs, Gate.release]
    · simp [hasEntered, hs, entries, Event.entry?]
    · simp only [Gate.release]
      omega
    · simp only [Gate.release]
      omega
    · simp [isInside]
    · intro r done
      cases done
      exact (passed within).symm

end Call

namespace Cli

namespace Trace

variable (trace : Trace) (v w : Nat) (act : Pool.Act)

theorem begun_snoc : begun (trace ++ [(w, act)]) = trace.begun + act.begins.toNat := by
  cases h : act.begins <;> simp [begun, List.countP_append, h]

theorem outcomes_snoc :
    outcomes (trace ++ [(w, act)]) = trace.outcomes ++ act.outcome?.toList := by
  cases h : act.outcome? <;> simp [outcomes, List.filterMap_append, h]

theorem by_snoc_self : by_ (trace ++ [(w, act)]) w = trace.by_ w ++ [(w, act)] := by
  simp [by_, List.filter_append]

theorem by_snoc_other (h : v ≠ w) : by_ (trace ++ [(w, act)]) v = trace.by_ v := by
  simp [by_, List.filter_append, Ne.symm h]

end Trace

namespace Pool

variable {p p' : Pool} {w : Nat} {act : Act} {trace : Trace} {i : Instance}

/-- How many of the calls that are being made have a property. -/
def making (p : Pool) (f : Call → Bool) : Nat := p.calls.countP (·.any f)

theorem making_set {a b : Option Call} (h : p.calls[w]? = some a) (after : p'.calls = p.calls.set w b)
    (f : Call → Bool) : p'.making f + (a.any f).toNat = p.making f + (b.any f).toNat := by
  have both := countP_set_add h b (·.any f)
  rw [← after] at both
  cases ha : a.any f <;> cases hb : b.any f <;> simpa [making, ha, hb] using both

theorem making_le (p : Pool) (f : Call → Bool) : p.making f ≤ p.workers.length := by
  simpa [making, calls] using (List.countP_le_length : p.calls.countP (·.any f) ≤ p.calls.length)

theorem making_pos {c : Call} (h : p.calls[w]? = some (some c)) {f : Call → Bool}
    (hf : f c = true) : 0 < p.making f :=
  List.countP_pos_iff.mpr ⟨some c, List.mem_of_getElem? h, by simpa using hf⟩

/-- Whether worker `w` is in a call. -/
def isCalling (p : Pool) (w : Nat) : Bool := p.calls[w]?.join.isSome

/-- The numbers taken, the calls begun and those that have been delivered. -/
structure Booked (p : Pool) (trace : Trace) : Prop where
  taken : p.taken = trace.begun + p.stopped
  bound : trace.begun ≤ p.total
  spent : 0 < p.stopped → trace.begun = p.total
  begun : trace.begun = trace.outcomes.length + p.making fun _ => true
  delivered : p.delivered = (trace.outcomes.map fun x => p.delivery x.1 x.2).reverse
  /-- Each worker delivers what one call came to before it begins the next. -/
  paired : ∀ w, (trace.by_ w).begun = (trace.by_ w).outcomes.length + (p.isCalling w).toNat

/-- What a step of worker `w` does to the numbers. -/
structure Shift (p : Pool) (w : Nat) (p' : Pool) (act : Act) : Prop where
  taken : p'.taken = p.taken + act.begins.toNat + act.stops.toNat
  stopped : p'.stopped = p.stopped + act.stops.toNat
  more : act.begins = true → p.taken < p.total
  past : act.stops = true → p.total ≤ p.taken
  delivered : p'.delivered = act.outcome?.toList.map (fun x => p.delivery x.1 x.2) ++ p.delivered
  calls : ∃ a b, p.calls[w]? = some a ∧ p'.calls = p.calls.set w b ∧
    act.begins.toNat + a.isSome.toNat = act.outcome?.toList.length + b.isSome.toNat

theorem Seen.shift (seen : Seen p w p' act) : p.Shift w p' act := by
  cases seen with
  | begin free more taken calls _ _ delivered stopped =>
    exact ⟨taken, stopped, fun _ => more, nofun, delivered, _, _, free, calls, rfl⟩
  | stop free past taken calls _ delivered stopped =>
    exact ⟨taken, stopped, nofun, fun _ => past, delivered, _, _, free,
      calls.trans (set_same free).symm, rfl⟩
  | deliver c r mine done taken calls _ delivered stopped =>
    exact ⟨taken, stopped, nofun, nofun, delivered, _, _, mine, calls, rfl⟩
  | work t c c' i i' m m' events mine _ _ _ calls taken delivered workers _ =>
    refine ⟨taken, ?_, nofun, nofun, delivered, _, _, mine, calls, rfl⟩
    rw [stopped, workers]
    rfl

theorem Shift.making (h : p.Shift w p' act) :
    (p'.making fun _ => true) + act.outcome?.toList.length =
      (p.making fun _ => true) + act.begins.toNat := by
  obtain ⟨a, b, there, calls, balance⟩ := h.calls
  have both := making_set there calls fun _ => true
  have any : ∀ o : Option Call, o.any (fun _ => true) = o.isSome := by rintro (_ | _) <;> rfl
  rw [any, any] at both
  omega

theorem Booked.transition (h : p.Booked trace) (seen : Seen p w p' act) (alike : p.Alike p') :
    p'.Booked (trace ++ [(w, act)]) := by
  obtain ⟨taken, stopped, more, past, delivered, a, b, there, calls, balance⟩ := seen.shift
  have same : (fun x : Except HostError Unit × CallData => p'.delivery x.1 x.2) =
      fun x => p.delivery x.1 x.2 := by
    funext x
    simp [delivery, alike.proxy, alike.defaultStatus]
  have making := seen.shift.making
  have old := h.taken
  -- Nobody takes a number below the last one once somebody has stopped.
  have begins : act.begins = true → p.stopped = 0 := by
    intro hb
    by_contra pos
    have := h.spent (Nat.pos_of_ne_zero pos)
    have := more hb
    omega
  have bound : trace.begun + act.begins.toNat ≤ p.total := by
    cases hb : act.begins with
    | false => simpa using h.bound
    | true =>
      have := begins hb
      have := more hb
      simp only [Bool.toNat_true]
      omega
  refine ⟨?_, ?_, fun pos => ?_, ?_, ?_, fun v => ?_⟩
  · rw [Trace.begun_snoc]
    omega
  · rw [Trace.begun_snoc, alike.total]
    exact bound
  · rw [Trace.begun_snoc, alike.total]
    rcases Nat.eq_zero_or_pos p.stopped with none | some_
    · cases hs : act.stops with
      | false =>
        rw [stopped, hs, Bool.toNat_false] at pos
        omega
      | true =>
        have := past hs
        omega
    · have := h.spent some_
      omega
  · rw [Trace.begun_snoc, Trace.outcomes_snoc, List.length_append]
    have := h.begun
    omega
  · rw [Trace.outcomes_snoc, same, delivered, h.delivered, List.map_append, List.reverse_append]
    congr 1
    cases act.outcome? <;> rfl
  · have before := h.paired v
    by_cases hv : v = w
    · subst hv
      have here := (List.getElem?_eq_some_iff.mp there).1
      simp only [isCalling, there, Option.join_some] at before
      simp only [Trace.by_snoc_self, Trace.begun_snoc, Trace.outcomes_snoc, List.length_append,
        isCalling, calls, List.getElem?_set_self here, Option.join_some]
      omega
    · simp only [Trace.by_snoc_other _ _ _ _ hv, isCalling, calls,
        List.getElem?_set_ne (Ne.symm hv)]
      exact before

/-- The gate of the instance, by what the workers do. -/
structure Gated (p : Pool) (trace : Trace) (i : Instance) : Prop where
  found : p.system.instances[p.on]? = some i
  live : i.gate.state = .live
  inside : i.gate.inFlight = p.making Call.isInside
  served : i.gate.served = trace.outcomes.countP (·.1.isOk) + p.making Call.isServed
  entered : p.system.requests p.on = trace.outcomes.countP (·.1.isOk) + p.making Call.hasEntered
  peaked : i.gate.inFlight ≤ i.gate.peak
  few : i.gate.peak ≤ p.workers.length
  seen : 0 < i.gate.inFlight + i.gate.served → 0 < i.gate.peak
  fits : ∀ (w : Nat) (c : Call), p.calls[w]? = some (some c) → c.Fits i
  answers : ∀ x ∈ trace.outcomes, x.1 = Call.answer i p.proxy

theorem requests_turn {s : System} {t module n : Nat} {k : Task} {m : Module}
    {instances : List Instance} {events : List Event} :
    (s.turn t module (some n) k m instances events).requests n =
      s.requests n + (entries events).countP (·.isRequest) := by
  rw [System.requests, System.instanceLog_turn, if_pos rfl, entries_append, List.countP_append]
  rfl

theorem forall_calls_set {P : Call → Prop} {b : Option Call}
    (all : ∀ (v : Nat) (c : Call), p.calls[v]? = some (some c) → P c)
    (after : p'.calls = p.calls.set w b) (new : ∀ c, b = some c → P c) (v : Nat) (c : Call)
    (h : p'.calls[v]? = some (some c)) : P c := by
  rw [after] at h
  rcases of_getElem?_set h with ⟨-, same⟩ | ⟨-, old⟩
  · exact new c same.symm
  · exact all v c old

/-- How many of the outcomes of a step are good. -/
def Act.good (act : Act) : Nat := act.outcome?.toList.countP (·.1.isOk)

/-- What a step of worker `w` does to the gate of the instance, by what it does to its call. -/
structure GateShift (p : Pool) (w : Nat) (p' : Pool) (act : Act) (i i' : Instance)
    (a b : Option Call) : Prop where
  there : p.calls[w]? = some a
  calls : p'.calls = p.calls.set w b
  found : p'.system.instances[p.on]? = some i'
  make : i' = { i with gate := i'.gate }
  live : i'.gate.state = .live
  inside : i'.gate.inFlight + (a.any Call.isInside).toNat =
    i.gate.inFlight + (b.any Call.isInside).toNat
  served : i'.gate.served + (a.any Call.isServed).toNat =
    i.gate.served + (b.any Call.isServed).toNat + act.good
  entered : p'.system.requests p.on + (a.any Call.hasEntered).toNat =
    p.system.requests p.on + (b.any Call.hasEntered).toNat + act.good
  peak : i'.gate.peak = max i.gate.peak i'.gate.inFlight
  grows : i.gate.inFlight + i.gate.served < i'.gate.inFlight + i'.gate.served → 0 < i'.gate.inFlight
  fits : ∀ c, b = some c → c.Fits i'
  outcome : ∀ x ∈ act.outcome?, x.1 = Call.answer i p.proxy

theorem Gated.shift (h : p.Gated trace i) (m : p.Manned) (seen : Seen p w p' act) :
    ∃ i' a b, GateShift p w p' act i i' a b := by
  have peak : i.gate.peak = max i.gate.peak i.gate.inFlight := (Nat.max_eq_left h.peaked).symm
  have still : i.gate.inFlight + i.gate.served < i.gate.inFlight + i.gate.served →
      0 < i.gate.inFlight := fun less => absurd less (Nat.lt_irrefl _)
  cases seen with
  | begin free more taken calls instances history delivered stopped =>
    refine ⟨i, none, some p.firstCall, free, calls, ?_, rfl, h.live, rfl, ?_, ?_, peak, still,
      ?_, by simp [Act.outcome?]⟩
    · rw [instances]
      exact h.found
    · simp [Act.good, Act.outcome?, Call.isServed, firstCall, Call.start]
    · have same : p'.system.requests p.on = p.system.requests p.on := by
        rw [System.requests, System.instanceLog, System.log, history]
        rfl
      simp [same, Act.good, Act.outcome?, Call.hasEntered, firstCall, Call.start]
    · intro c hc
      cases hc
      refine ⟨fun inside => ?_, fun r done => ?_⟩
      · cases inside
      · cases done
  | stop free past taken calls system delivered stopped =>
    refine ⟨i, none, none, free, ?_, ?_, rfl, h.live, rfl, ?_, ?_, peak, still, by simp,
      by simp [Act.outcome?]⟩
    · rw [calls, set_same free]
    · rw [system]
      exact h.found
    · simp [Act.good, Act.outcome?]
    · simp [system, Act.good, Act.outcome?]
  | deliver c r mine done taken calls system delivered stopped =>
    obtain ⟨worker, t, -, -, -, serves⟩ := m.of_calls mine
    have answer := (h.fits w c mine).2 r done
    rw [serves.proxy] at answer
    refine ⟨i, some c, none, mine, calls, ?_, rfl, h.live, ?_, ?_, ?_, peak, still, by simp, ?_⟩
    · rw [system]
      exact h.found
    · simp [Call.isInside, done]
    · cases r <;> simp [Call.isServed, done, Act.good, Act.outcome?, Except.isOk, Except.toBool]
    · rw [system]
      cases r <;> simp [Call.hasEntered, done, Act.good, Act.outcome?, Except.isOk, Except.toBool]
    · intro x hx
      obtain rfl := Option.some.inj hx
      exact answer
  | work t c c' i₀ i' mod mod' events mine found hm transition calls taken delivered workers system =>
    obtain rfl := Option.some.inj (found.symm.trans h.found)
    have pos : c.isInside = true → 0 < i₀.gate.inFlight := by
      rw [h.inside]
      exact making_pos mine
    have counts := transition.shifts h.live (h.fits w c mine) pos h.peaked
    refine ⟨i', some c, some c', mine, calls, ?_, counts.make, counts.live, counts.inside,
      counts.served, ?_, counts.peak, counts.grows, ?_,
      by simp [Act.outcome?]⟩
    · have there := (List.getElem?_eq_some_iff.mp found).1
      rw [system]
      exact List.getElem?_set_self there
    · have entered := counts.entered
      rw [system, requests_turn]
      simp only [Option.any_some, Act.good, Act.outcome?, Option.toList_none, List.countP_nil]
      omega
    · intro c₁ hc
      obtain rfl := Option.some.inj hc
      exact counts.fits

theorem Gated.transition (h : p.Gated trace i) (m : p.Manned) (seen : Seen p w p' act)
    (alike : p.Alike p') :
    ∃ i', p'.Gated (trace ++ [(w, act)]) i' ∧ i' = { i with gate := i'.gate } := by
  obtain ⟨i', a, b, shift⟩ := h.shift m seen
  have making := fun f => making_set shift.there shift.calls f
  have inside := making Call.isInside
  have served := making Call.isServed
  have entered := making Call.hasEntered
  have inside' := shift.inside
  have few := p'.making_le Call.isInside
  have good : (Trace.outcomes (trace ++ [(w, act)])).countP (·.1.isOk) =
      trace.outcomes.countP (·.1.isOk) + act.good := by
    rw [Trace.outcomes_snoc, List.countP_append, Act.good]
  have answer : ∀ proxy, Call.answer i' proxy = Call.answer i proxy := by
    rw [shift.make]
    exact fun _ => rfl
  have fits : ∀ c, Call.Fits i c → Call.Fits i' c := by
    intro c fits
    rw [Call.Fits, answer]
    exact fits
  have oldInside := h.inside
  refine ⟨i', ⟨?_, shift.live, ?_, ?_, ?_, ?_, ?_, ?_, ?_, ?_⟩, shift.make⟩
  · rw [alike.on]
    exact shift.found
  · omega
  · rw [good]
    have := shift.served
    have := h.served
    omega
  · rw [good, alike.on]
    have := shift.entered
    have := h.entered
    omega
  · rw [shift.peak]
    exact Nat.le_max_right _ _
  · have := h.few
    rw [shift.peak, alike.size]
    rw [alike.size] at few
    omega
  · intro pos
    have peak := shift.peak
    rcases Nat.lt_or_ge (i.gate.inFlight + i.gate.served) (i'.gate.inFlight + i'.gate.served) with
      more | same
    · have := shift.grows more
      omega
    · have := h.seen (Nat.lt_of_lt_of_le pos same)
      omega
  · exact forall_calls_set (fun v c hc => fits c (h.fits v c hc)) shift.calls shift.fits
  · intro x hx
    rw [answer, alike.proxy]
    rw [Trace.outcomes_snoc, List.mem_append] at hx
    rcases hx with old | new
    · exact h.answers x old
    · exact shift.outcome x (by simpa using new)

end Pool

end Cli

end ModuleHost
