import ModuleHost.Proofs.Turn

/-!
# The history and its marks

`log s q` is the part of the history whose origin (thread, module, instance) satisfies `q`, oldest
first; `instanceLog`, `moduleLog` and `threadLog` are the ones that matter.

Of the events that steps leave, two kinds are marks. Gate marks say what becomes of an instance:
entry points called for it and their answers, calls admitted and released, the gate closed, the
library released, the end published. Context marks say what becomes of a module's handler values:
starts, values built, dispatches begun and ended, shutdowns begun, values dropped. What module code
says on its own is a remark and no mark, so code cannot forge one (`selfPerform_remarks`,
`perform_remarks`).
-/
namespace ModuleHost

open Boundary

namespace Event

def ofGate : Event → Bool
  | .entered _ | .left _ (some _) | .admitted | .released | .gateClosed _ | .unmapped
  | .published => true
  | _ => false

def ofContext : Event → Bool
  | .startBegun _ | .built _ | .startFailed | .handlerBegun _ | .handlerEnded _
  | .shutdownBegun _ | .dropped _ => true
  | _ => false

def isRemark : Event → Bool
  | .note _ | .notice _ | .printed _ => true
  | _ => false

/-- The entry point that an event says was called. -/
def entry? : Event → Option EntryPoint
  | .entered e => some e
  | _ => none

/-- The entry point that an event says returned a value, and the value. -/
def answer? : Event → Option (EntryPoint × Int)
  | .left e (some v) => some (e, v)
  | _ => none

end Event

/-- The gate marks among events. -/
def gateMarks (events : List Event) : List Event := events.filter Event.ofGate

/-- The context marks among events. -/
def contextMarks (events : List Event) : List Event := events.filter Event.ofContext

/-- The entry points called, in order. -/
def entries (events : List Event) : List EntryPoint := events.filterMap Event.entry?

/-- The values that entry points returned, in order. -/
def answers (events : List Event) : List (EntryPoint × Int) := events.filterMap Event.answer?

theorem entries_append (a b : List Event) : entries (a ++ b) = entries a ++ entries b :=
  List.filterMap_append

theorem mem_entries {events : List Event} {e : EntryPoint} :
    e ∈ entries events ↔ .entered e ∈ events := by
  refine ⟨fun h => ?_, fun h => List.mem_filterMap.mpr ⟨_, h, rfl⟩⟩
  obtain ⟨e', mem, he⟩ := List.mem_filterMap.mp h
  cases e' <;> cases he
  exact mem

theorem answers_append (a b : List Event) : answers (a ++ b) = answers a ++ answers b :=
  List.filterMap_append

theorem filterMap_gateMarks {α : Type} {f : Event → Option α}
    (h : ∀ e, e.ofGate = false → f e = none) (events : List Event) :
    (gateMarks events).filterMap f = events.filterMap f := by
  induction events with
  | nil => rfl
  | cons e events ih =>
    unfold gateMarks at ih ⊢
    cases he : e.ofGate with
    | false => simpa [he, h e he] using ih
    | true => simp only [List.filter_cons, he, if_true, List.filterMap_cons, ih]

theorem entries_gateMarks (events : List Event) : entries (gateMarks events) = entries events :=
  filterMap_gateMarks (fun e he => by cases e <;> first | rfl | cases he) events

theorem answers_gateMarks (events : List Event) : answers (gateMarks events) = answers events := by
  refine filterMap_gateMarks (fun e he => ?_) events
  cases e with
  | left e value => cases value <;> first | rfl | cases he
  | _ => rfl

namespace System

/-- The events from the origins that `q` names by thread, module and instance, oldest first. -/
def log (s : System) (q : Nat → Nat → Option Nat → Bool) : List Event :=
  (s.history.reverse.filter fun h => q h.thread h.module h.on).map (·.event)

def instanceLog (s : System) (n : Nat) : List Event := s.log fun _ _ on => on == some n

def moduleLog (s : System) (k : Nat) : List Event := s.log fun _ module _ => module == k

def threadLog (s : System) (t : Nat) : List Event := s.log fun u _ _ => u == t

theorem mem_log {s : System} {q : Nat → Nat → Option Nat → Bool} {e : Event} :
    e ∈ s.log q ↔ ∃ x ∈ s.history, q x.thread x.module x.on = true ∧ x.event = e := by
  simp [log, and_assoc]

theorem log_turn (s : System) (t module : Nat) (on : Option Nat) (k : Task) (m : Module)
    (instances : List Instance) (events : List Event) (q : Nat → Nat → Option Nat → Bool) :
    (s.turn t module on k m instances events).log q =
      s.log q ++ if q t module on then events else [] := by
  simp only [log, turn_history, List.reverse_append, List.reverse_reverse, List.filter_append,
    List.map_append, List.append_cancel_left_eq]
  cases h : q t module on
  · simp [List.filter_map, Function.comp_def, h]
  · simp [List.filter_map, Function.comp_def, h]

section
variable (s : System) (t module : Nat) (on : Option Nat) (k : Task) (m : Module)
  (instances : List Instance) (events : List Event)

theorem instanceLog_turn (n : Nat) :
    (s.turn t module on k m instances events).instanceLog n =
      s.instanceLog n ++ if on = some n then events else [] := by
  simp [instanceLog, log_turn]

theorem moduleLog_turn (j : Nat) :
    (s.turn t module on k m instances events).moduleLog j =
      s.moduleLog j ++ if module = j then events else [] := by
  simp [moduleLog, log_turn]

theorem threadLog_turn (u : Nat) :
    (s.turn t module on k m instances events).threadLog u =
      s.threadLog u ++ if t = u then events else [] := by
  simp [threadLog, log_turn]

end

theorem instanceLog_turn_other {s : System} {t module n : Nat} {on : Option Nat} {k : Task}
    {m : Module} {instances : List Instance} {events : List Event} (h : on ≠ some n) :
    (s.turn t module on k m instances events).instanceLog n = s.instanceLog n := by
  rw [instanceLog_turn, if_neg h, List.append_nil]

theorem mem_turn_history {s : System} {t module : Nat} {on : Option Nat} {k : Task} {m : Module}
    {instances : List Instance} {events : List Event} {x : Happening} :
    x ∈ (s.turn t module on k m instances events).history ↔
      (∃ e ∈ events, x = ⟨t, module, on, e⟩) ∨ x ∈ s.history := by
  simp [eq_comm]

theorem of_mem_turn {s : System} {t module : Nat} {on : Option Nat} {k : Task} {m : Module}
    {instances : List Instance} {events : List Event} {new : List Happening} {x : Happening}
    (h : (s.turn t module on k m instances events).history = new ++ s.history) (hx : x ∈ new) :
    ∃ e ∈ events, x = ⟨t, module, on, e⟩ := by
  rw [turn_history] at h
  rw [← List.append_cancel_right h] at hx
  simpa [eq_comm] using hx

theorem Move.history {s s' : System} (h : Move s s') : ∃ new, s'.history = new ++ s.history := by
  cases h with
  | install | begin | again => exact ⟨[], rfl⟩
  | step s' t hs => cases step_cases hs <;> exact ⟨_, turn_history ..⟩

theorem Later.history {s s' : System} (h : Later s s') :
    ∃ new, s'.history = new ++ s.history := by
  refine h.induction (P := fun s₁ => ∃ new, s₁.history = new ++ s.history) ⟨[], rfl⟩
    fun s₁ s₂ _ ⟨new, h₁⟩ hm => ?_
  obtain ⟨new', h₂⟩ := hm.history
  exact ⟨new' ++ new, by rw [h₂, h₁, List.append_assoc]⟩

theorem Move.log {s s' : System} (h : Move s s') (q : Nat → Nat → Option Nat → Bool) :
    ∃ new, s'.log q = s.log q ++ new := by
  obtain ⟨new, grown⟩ := h.history
  refine ⟨(new.reverse.filter fun x => q x.thread x.module x.on).map (·.event), ?_⟩
  simp only [System.log, grown, List.reverse_append, List.filter_append, List.map_append]

theorem log_congr {s : System} {q q' : Nat → Nat → Option Nat → Bool}
    (h : ∀ x ∈ s.history, q x.thread x.module x.on = q' x.thread x.module x.on) :
    s.log q = s.log q' := by
  unfold log
  rw [List.filter_congr fun x hx => h x (List.mem_reverse.mp hx)]

theorem log_eq_nil {s : System} {q : Nat → Nat → Option Nat → Bool}
    (h : ∀ x ∈ s.history, q x.thread x.module x.on = false) : s.log q = [] := by
  have : s.history.reverse.filter (fun x => q x.thread x.module x.on) = [] :=
    List.filter_eq_nil_iff.mpr fun x hx => by simp [h x (List.mem_reverse.mp hx)]
  rw [log, this]
  rfl

end System

theorem filter_remarks {p : Event → Bool} (hp : ∀ e : Event, e.isRemark = true → p e = false)
    {events : List Event} (h : ∀ e ∈ events, e.isRemark = true) : events.filter p = [] := by
  refine List.filter_eq_nil_iff.mpr fun e he => ?_
  rw [hp e (h e he)]
  exact Bool.false_ne_true

section
variable {events : List Event} (h : ∀ e ∈ events, e.isRemark = true)
include h

theorem gateMarks_remarks : gateMarks events = [] :=
  filter_remarks (fun e he => by cases e <;> first | rfl | cases he) h

theorem contextMarks_remarks : contextMarks events = [] :=
  filter_remarks (fun e he => by cases e <;> first | rfl | cases he) h

end

theorem selfPerform_remarks (m : Module) (o : SelfOp) :
    ∀ e ∈ (SelfOp.perform m o).2.2, e.isRemark = true := by
  cases o with
  | note n => simp [SelfOp.perform, Event.isRemark]
  | report n => simp [SelfOp.perform, Event.isRemark]
  | print line => cases h : m.sink m.prints <;> simp [SelfOp.perform, Module.print, h, Event.isRemark]

/-- What an operation of module code leaves behind: remarks, and the module itself, but for the
number of its prints, or the counter of the value in the slot or of the code. -/
theorem perform_remarks {v : Visit} {m m' : Module} {o : ModuleOp} {a : o.Answer} {data : CallData}
    {events : List Event} (h : v.perform m o = .ok (a, data, m', events)) :
    ((∃ n, m' = { m with prints := n }) ∨ m' = m.count.2) ∧ ∀ e ∈ events, e.isRemark = true := by
  cases o with
  | host c =>
    simp only [Visit.perform] at h
    split at h
    · cases h
    · simp only [Except.ok.injEq, Prod.mk.injEq] at h
      obtain ⟨-, -, rfl, rfl⟩ := h
      refine ⟨.inl ⟨m.prints, rfl⟩, fun e he => ?_⟩
      obtain ⟨n, -, rfl⟩ := List.mem_map.mp he
      rfl
  | own o =>
    simp only [Visit.perform, Except.ok.injEq, Prod.mk.injEq] at h
    obtain ⟨-, -, rfl, rfl⟩ := h
    exact ⟨.inl (o.perform_module m), selfPerform_remarks m o⟩
  | count =>
    simp only [Visit.perform, Except.ok.injEq, Prod.mk.injEq] at h
    obtain ⟨-, -, rfl, rfl⟩ := h
    exact ⟨.inr rfl, by simp⟩
  | stamps | canSetUri | pause =>
    simp only [Visit.perform, Except.ok.injEq, Prod.mk.injEq] at h
    obtain ⟨-, -, rfl, rfl⟩ := h
    exact ⟨.inl ⟨m.prints, rfl⟩, by simp⟩

end ModuleHost
